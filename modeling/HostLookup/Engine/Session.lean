import HostLookup.Engine.Workload

/-! A session with a channel of the built-in engine, where no name server answers: queries are asked, and their
results are read at once or later. -/
namespace HostLookup.Engine

structure Session where
  ndots : Nat
  workload : Workload := {}
  waiting : List (String × Nat) := []

inductive Command where
  /-- Starts a query, and reads its result at once unless it has a name. -/
  | ask (query : EngineQuery) (name : Option String)
  | collect (name : String)
  | destroy
  | describe

inductive Reading where
  | nothing
  | refused (fault : Fault)
  | outcome (outcome : Outcome)
  | notWaiting
  | text (text : String)

structure Report where
  reading : Reading
  issued : Option Nat
  inFlight : Nat
  destroyed : Bool

/-- Runs until a query has ended. What needs no server has ended by then; if this query needs one, so has
everything else. -/
def Workload.await (w : Workload) (ndots : Nat) (id : Nat) : Workload :=
  let w := w.turn fun query => if needsServer ndots query then none else some answer
  if (w.read id).1.isSome then w else w.turn fun _ => some answer

namespace Session

def create (settings : Settings) : Except LookupError Session :=
  match obstacle? settings with
  | some e => .error e
  | none => .ok { ndots := (settings.ndots.map UInt32.toNat).getD 1 }

def report (s : Session) (reading : Reading) (issued : Option Nat) : Report :=
  ⟨reading, issued, s.workload.inFlight, s.workload.destroyed⟩

def read (s : Session) (id : Nat) : Reading × Session :=
  let (outcome?, workload) := (s.workload.await s.ndots id).read id
  (match outcome? with
    | some outcome => .outcome outcome
    | none => .nothing, { s with workload })

def step (s : Session) : Command → Report × Session
  | .ask query name =>
    match s.workload.ask query with
    | (.error fault, workload) =>
      let s := { s with workload }
      (s.report (.refused fault) none, s)
    | (.ok id, workload) =>
      let issued := some workload.inFlight
      let s := { s with workload }
      match name with
      | some name =>
        let s := { s with waiting := (name, id) :: s.waiting.filter (·.1 != name) }
        (s.report .nothing issued, s)
      | none =>
        let (reading, s) := s.read id
        (s.report reading issued, s)
  | .collect name =>
    match s.waiting.lookup name with
    | none => (s.report .notWaiting none, s)
    | some id =>
      let (reading, s) := { s with waiting := s.waiting.filter (·.1 != name) }.read id
      (s.report reading none, s)
  | .destroy =>
    let s := { s with workload := s.workload.destroy }
    (s.report .nothing none, s)
  | .describe => (s.report (.text s.workload.text) none, s)

def run (s : Session) : List Command → List Report
  | [] => []
  | command :: rest => (s.step command).1 :: (s.step command).2.run rest

end Session

end HostLookup.Engine
