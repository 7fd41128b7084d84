import HostLookup.Engine.Session
import HostLookup.Platform
import HostLookup.Resolver.Builder
import HostLookup.Resolver.Printer
import HostLookup.Resolver.Step

/-! A resolver on the built-in engine and the platform: each query is answered as soon as it is made. -/
namespace HostLookup.Resolver.Live

def react (query : EngineQuery) : Reaction :=
  match Engine.refusal? query with
  | some fault => .refuse fault
  | none => .complete Engine.answer

def answer (s : State) : State :=
  match s.busy with
  | none => s
  | some (_, .engine _ _ _ query _) => step s (.answerEngine (react query))
  | some _ => step s (.answerNative Platform.reply)

def next? (s : State) : Option State :=
  if s.busy.isSome then some (answer s)
  else
    match s.ready with
    | [] => none
    | .hub :: _ => some (step s .turn)
    | .task task :: _ => some (step s (.poll task))

def settleWithin : Nat → State → State
  | 0, s => s
  | fuel + 1, s =>
    match next? s with
    | none => s
    | some s => settleWithin fuel s

/-- No more steps than this are taken: a lookup makes at most four queries in an attempt, and another attempt
only after a change of the slot. -/
def budget (s : State) : Nat :=
  let size := s.tasks.length + s.hub.queue.length + s.ready.length + 4
  4 * size * size

def settle (s : State) : State :=
  settleWithin (budget s) s

def channelText (_ : Nat) : String :=
  ({} : Engine.Workload).text

def build (builder : Builder) (pid : Nat) : Except LookupError State := do
  let settings ← builder.finalSettings
  let s ← builder.build (Engine.obstacle? settings) (.create pid)
  return s

def lookUp (s : State) (call : Call) : Option Result × State :=
  let task := s.nextTask
  let s := settle (step s (.start call))
  (s.results.lookup task, s)

inductive Command where
  | call (call : Call)
  | fork (pid : Nat)
  | close

inductive Outcome where
  | nothing
  | result (result : Result)
  | flag (value : Bool)

structure Report where
  outcome : Outcome
  closed : Bool
  text : String

def perform (s : State) : Command → Outcome × State
  | .call call =>
    match lookUp s call with
    | (some result, s) => (.result result, s)
    | (none, s) => (.nothing, s)
  | .fork pid =>
    let s := step s (.setPid pid)
    (.flag s.hub.reinit.1, settle (step s .reinit))
  | .close => (.nothing, settle (step s .close))

def run (s : State) : List Command → List Report
  | [] => []
  | command :: rest =>
    let (outcome, s) := perform s command
    ⟨outcome, s.isClosed, s.text channelText⟩ :: run s rest

end HostLookup.Resolver.Live
