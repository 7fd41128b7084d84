import HostLookup.Resolver.Step

/-! The operations of the blocking front end, each from its start to its return. The hub runs within them only;
other threads may interfere at any time. -/
namespace HostLookup.Blocking
open Resolver

/-- Nothing of the front end runs, and it holds its resolver. -/
structure Rests (s : State) : Prop where
  idle : s.busy = none
  owned : s.released = false

def interferes : Event → Bool
  | .setPid _ | .reinit | .obstruct _ | .close | .deliver .. | .abandon _ => true
  | _ => false

/-- A lookup is started and polled at once; then anything may happen, until it has returned. -/
inductive Calls (s : State) (call : Call) (result : Result) : State → Prop
  | returns {course : List Event}
      (concluded : (s.nextTask, result) ∈ (run s (.start call :: .poll s.nextTask :: course)).results)
      (rests : Rests (run s (.start call :: .poll s.nextTask :: course))) :
      Calls s call result (run s (.start call :: .poll s.nextTask :: course))

def runsCallback (s : State) : Event → Bool
  | .turn => s.busy.isNone && !s.hub.queue.isEmpty
  | _ => false

def callbacksRun (s : State) : List Event → Nat
  | [] => 0
  | event :: rest => (runsCallback s event).toNat + callbacksRun (step s event) rest

/-- A close of the front end closes the resolver and returns when a marker has run that it then queued: no sooner
than all that was in the queue. -/
inductive Closes (s : State) : State → Prop
  | returns {course : List Event}
      (flushed : (step s .close).hub.queue.length ≤ callbacksRun (step s .close) course)
      (rests : Rests (run (step s .close) course)) : Closes s (run (step s .close) course)

/-- The front end is dropped where it may wait: it closes, lets go of its resolver, and ends the work of its hub. -/
inductive Drops (s : State) : State → Prop
  | returns {t : State} (closes : Closes s t) :
      Drops s { step t .release with hub := (step t .release).hub.shutdown }

inductive Follows (s : State) : State → Prop
  | here : Follows s s
  | aside {t : State} {event : Event} (before : Follows s t) (interferes : interferes event = true) :
      Follows s (step t event)
  | call {t u : State} {call : Call} {result : Result} (before : Follows s t) (calls : Calls t call result u) :
      Follows s u
  | close {t u : State} (before : Follows s t) (closes : Closes t u) : Follows s u

end HostLookup.Blocking
