import HostLookup.Engine.Channel
import HostLookup.Rendezvous
import HostLookup.Text.Description

/-! The work of a channel. Each query that is accepted has a task of its own, which is polled until it has a result
and then uses up its completion. The channel keeps the numbers of the tasks that it would have to abort. -/
namespace HostLookup.Engine
open Text

inductive Stage where
  | running
  /-- It is not polled any more; when its turn comes it is dropped, and its completion with it. -/
  | aborted
  | ended
deriving DecidableEq, Repr

/-- The task of a query. It has the completion, and the flow that asked has the waiter. -/
structure Task where
  query : EngineQuery
  stage : Stage := .running
  halves : Rendezvous query.Answer := {}

namespace Task

def finish (reply : EngineReply) (task : Task) : Task :=
  { task with stage := .ended, halves := (task.halves.deliver (reply task.query)).2 }

def discard (task : Task) : Task :=
  { task with stage := .ended, halves := task.halves.dropCompletion.2 }

def abort (task : Task) : Task :=
  { task with stage := if task.stage = .running then .aborted else task.stage }

def read (task : Task) : Option Outcome × Task :=
  match task.halves.get with
  | (.result result, halves) => (some ⟨task.query, result⟩, { task with halves })
  | (_, halves) => (none, { task with halves })

def leave (task : Task) : Task :=
  { task with halves := task.halves.dropWaiter.2 }

end Task

inductive Use where
  | delivered (outcome : Outcome)
  | dropped

inductive Note where
  | used (id : Nat) (use : Use)
  | read (id : Nat) (outcome : Outcome)

namespace Note

def use? (id : Nat) : Note → Option Use
  | .used other use => if other = id then some use else none
  | _ => none

def reading? (id : Nat) : Note → Option Outcome
  | .read other outcome => if other = id then some outcome else none
  | _ => none

end Note

structure Workload where
  destroyed : Bool := false
  /-- The numbers of the tasks that can be aborted. -/
  tracked : List Nat := []
  /-- The tasks there have been; their numbers are their places. -/
  tasks : List Task := []
  journal : List Note := []

namespace Workload

def uses (w : Workload) (id : Nat) : List Use :=
  w.journal.filterMap (Note.use? id)

def readings (w : Workload) (id : Nat) : List Outcome :=
  w.journal.filterMap (Note.reading? id)

def inFlight (w : Workload) : Nat :=
  w.tracked.length

def text (w : Workload) : String :=
  Description.excerpt "HickoryChannel"
    [("in_flight", Numeral.ofNat w.inFlight), ("destroyed", Description.boolean w.destroyed)]

def note (w : Workload) (note : Note) : Workload :=
  { w with journal := w.journal ++ [note] }

def update (w : Workload) (id : Nat) (change : Task → Task) : Workload :=
  { w with tasks := w.tasks.modify id change }

def untrack (w : Workload) (id : Nat) : Workload :=
  { w with tracked := w.tracked.filter (· != id) }

def hasEnded (w : Workload) (id : Nat) : Bool :=
  w.tasks[id]?.any (·.stage = .ended)

def enroll (w : Workload) (query : EngineQuery) : Workload :=
  { w with tasks := w.tasks ++ [{ query }], tracked := w.tracked ++ [w.tasks.length] }

/-- The number of a task that was over before it was kept would never be let go of. -/
def spawn (w : Workload) (query : EngineQuery) : Except Fault Nat × Workload :=
  if w.destroyed then (.error .destruction, w)
  else
    let id := w.tasks.length
    let w := w.enroll query
    (.ok id, if w.hasEnded id then w.untrack id else w)

/-- Asks a query; its arguments are checked before the channel is. -/
def ask (w : Workload) (query : EngineQuery) : Except Fault Nat × Workload :=
  match refusal? query with
  | some fault => (.error fault, w)
  | none => w.spawn query

/-- A task gets its turn. There is a reply if the name servers have given an answer, or have failed to. -/
def poll (w : Workload) (id : Nat) (reply? : Option EngineReply) : Workload :=
  match w.tasks[id]? with
  | none => w
  | some task =>
    match task.stage, reply? with
    | .running, some reply =>
      ((w.untrack id).update id (Task.finish reply)).note
        (.used id (.delivered ⟨task.query, reply task.query⟩))
    | .running, none => w
    | .aborted, _ => (w.update id Task.discard).note (.used id .dropped)
    | .ended, _ => w

def abort (w : Workload) (id : Nat) : Workload :=
  if id ∈ w.tracked then (w.untrack id).update id Task.abort else w

def destroy (w : Workload) : Workload :=
  if w.destroyed then w else w.tracked.foldl abort { w with destroyed := true }

def read (w : Workload) (id : Nat) : Option Outcome × Workload :=
  match w.tasks[id]?.map Task.read with
  | some (some outcome, task) => (some outcome, (w.update id fun _ => task).note (.read id outcome))
  | _ => (none, w)

inductive Event where
  | ask (query : EngineQuery)
  | poll (id : Nat) (reply? : Option EngineReply)
  | destroy
  | read (id : Nat)
  | leave (id : Nat)

def step (w : Workload) : Event → Workload
  | .ask query => (w.ask query).2
  | .poll id reply? => w.poll id reply?
  | .destroy => w.destroy
  | .read id => (w.read id).2
  | .leave id => w.update id Task.leave

def run (w : Workload) (events : List Event) : Workload :=
  events.foldl step w

def turn (w : Workload) (reply? : EngineQuery → Option EngineReply) : Workload :=
  w.tasks.zipIdx.foldl (fun w entry => w.poll entry.2 (reply? entry.1.query)) w

end Workload

end HostLookup.Engine
