import HostLookup.Resolver.Lifecycle

/-! The state of a resolver on its hub: the life of its channels, and its lookups. Lookups are tasks, each of
which stands at its start, waits for a completion, or is in the middle of a poll. -/
namespace HostLookup.Resolver

inductive Stage where
  | fresh (call : Call)
  /-- Waits for the completion of `query`; `reply` is what was delivered and not yet read. -/
  | waiting (loop : Loop) (generation : Option Nat) (query : EngineQuery)
      (next : Except Fault query.Answer → Attempt) (reply : Option (Except Fault query.Answer))

structure Task where
  id : Nat
  stage : Stage
  cancelled : Bool := false

inductive Issue where
  | native (query : NativeQuery)
  | engine (channel : Nat) (query : EngineQuery)
deriving DecidableEq, Repr

inductive Request where
  | plan (query : NativeQuery) (next : Except LookupError query.Answer → Plan)
  | native (loop : Loop) (generation : Option Nat) (query : NativeQuery)
      (next : Except LookupError query.Answer → Attempt)
  | engine (loop : Loop) (generation : Option Nat) (channel : Nat) (query : EngineQuery)
      (next : Except Fault query.Answer → Attempt)

def Request.issue : Request → Issue
  | .plan query _ | .native _ _ query _ => .native query
  | .engine _ _ channel query _ => .engine channel query

inductive Reply where
  | native (query : NativeQuery) (reply : Except LookupError query.Answer)
  | engine (query : EngineQuery) (reply : Except Fault query.Answer)

inductive Note where
  | started (call : Call)
  | began (generation : Option Nat)
  | asked (issue : Issue)
  | heard (reply : Reply)
  | ended (generation : Option Nat) (result : Result)
  | concluded (result : Result)

inductive Entry where
  | task (id : Nat) (note : Note)
  | replaced (generation : Option Nat)

namespace Entry

def issue? : Entry → Option (Nat × Issue)
  | .task id (.asked issue) => some (id, issue)
  | _ => none

def result? : Entry → Option (Nat × Result)
  | .task id (.concluded result) => some (id, result)
  | _ => none

end Entry

structure Held where
  task : Nat
  channel : Nat
deriving DecidableEq, Repr

inductive Runnable where
  | hub
  | task (id : Nat)
deriving DecidableEq, Repr

structure State extends Lifecycle where
  /-- Whether the owner has let go of the resolver; running tasks keep it. -/
  released : Bool := false
  nextTask : Nat := 0
  tasks : List Task := []
  busy : Option (Nat × Request) := none
  held : List Held := []
  ready : List Runnable := []
  journal : List Entry := []

namespace State

def issues (s : State) : List (Nat × Issue) :=
  s.journal.filterMap Entry.issue?

def results (s : State) : List (Nat × Result) :=
  s.journal.filterMap Entry.result?

def task? (s : State) (id : Nat) : Option Task :=
  s.tasks.find? (·.id == id)

def updateTask (s : State) (id : Nat) (update : Task → Task) : State :=
  { s with tasks := s.tasks.map fun task => if task.id = id then update task else task }

def removeTask (s : State) (id : Nat) : State :=
  { s with tasks := s.tasks.filter (·.id != id) }

def note (s : State) (id : Nat) (note : Note) : State :=
  { s with journal := s.journal ++ [.task id note] }

def wake (s : State) (runnable : Runnable) : State :=
  if runnable ∈ s.ready then s else { s with ready := s.ready ++ [runnable] }

def wakeHub (s : State) : State :=
  if s.hub.queue.isEmpty then s else s.wake .hub

/-- Lets the life of the channels go on, and notes what it makes of the slot. -/
def manage (s : State) (change : Lifecycle → Lifecycle) : State :=
  let after := change s.toLifecycle
  let entries := if s.generation = after.generation then [] else [.replaced after.generation]
  wakeHub { s with toLifecycle := after, journal := s.journal ++ entries }

def build (config : Config) (obstacle : Option LookupError) (hub : Hub Callback) :
    Except LookupError State := do
  let lifecycle ← Lifecycle.build config obstacle hub
  return { toLifecycle := lifecycle }

end State

end HostLookup.Resolver
