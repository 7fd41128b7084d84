import HostLookup.Proofs.Bypass
import HostLookup.Proofs.History

/-! What a lookup may ask. Whatever it asks in a run, of the platform or of an engine, is asked by its plan: what holds
of all that the plan may ask holds of all that is asked. -/
namespace HostLookup
open Resolver

/-- All that the attempt may ask is in the scope, whatever it hears. -/
def Attempt.Within (scope : Lookup → Prop) : Attempt → Prop
  | .finish _ => True
  | .native query next => scope (.inl query) ∧ ∀ reply, (next reply).Within scope
  | .engine query next => scope (.inr query) ∧ ∀ reply, (next reply).Within scope

def Plan.Within (scope : Lookup → Prop) : Plan → Prop
  | .finish _ => True
  | .native query next => scope (.inl query) ∧ ∀ reply, (next reply).Within scope
  | .attempts loop => loop.body.Within scope

def Point.Within (scope : Lookup → Prop) : Point → Prop
  | .follows plan => plan.Within scope
  | .attempts loop _ rest => loop.body.Within scope ∧ rest.Within scope
  | .waits (.plan query next) => (Plan.native query next).Within scope
  | .waits (.native loop _ query next) => loop.body.Within scope ∧ (Attempt.native query next).Within scope
  | .waits (.engine loop _ _ query next) => loop.body.Within scope ∧ (Attempt.engine query next).Within scope
  | .finished _ => True

variable {scope : Lookup → Prop} {convention : Convention} {call : Call} {notes : List Note} {point next : Point}
  {note : Note}

theorem Point.Within.step (within : point.Within scope) (step : point.Step note next) :
    next.Within scope ∧ ∀ issue, note.issue? = some issue → scope issue.lookup := by
  have silent : ∀ issue, (none : Option Issue) = some issue → scope issue.lookup := by simp
  cases step with
  | concludes => exact ⟨trivial, silent⟩
  | asksPlan => exact ⟨within, fun issue asked => Option.some.inj asked ▸ within.1⟩
  | begins start => exact ⟨⟨within, within⟩, silent⟩
  | asksNative => exact ⟨within, fun issue asked => Option.some.inj asked ▸ within.2.1⟩
  | asksEngine channel => exact ⟨within, fun issue asked => Option.some.inj asked ▸ within.2.1⟩
  | ends finish ending =>
    refine ⟨?_, silent⟩
    unfold Loop.after
    split
    · exact within.1
    · trivial
  | hearsPlan reply => exact ⟨within.2 reply, silent⟩
  | hearsNative reply => exact ⟨⟨within.1, within.2.2 reply⟩, silent⟩
  | hearsEngine reply => exact ⟨⟨within.1, within.2.2 reply⟩, silent⟩

theorem Walk.within (walk : Walk convention call notes point) (plan : (call.plan convention).Within scope) :
    point.Within scope ∧ ∀ issue ∈ Resolver.asked notes, scope issue.lookup := by
  induction walk with
  | started => exact ⟨plan, by simp [Resolver.asked, Note.issue?]⟩
  | snoc before step ih =>
    obtain ⟨within, earlier⟩ := ih
    obtain ⟨onward, latest⟩ := within.step step
    refine ⟨onward, fun issue member => ?_⟩
    rw [Resolver.asked, List.filterMap_append, List.mem_append] at member
    rcases member with past | now
    · exact earlier issue past
    · refine latest issue ?_
      simpa using now

namespace Resolver

theorem Reachable.within {s : State} {id : Nat} (reachable : Reachable s) (started : .started call ∈ s.notes id)
    (plan : (call.plan s.config.convention).Within scope) : ∀ issue ∈ Resolver.asked (s.notes id), scope issue.lookup := by
  obtain ⟨point, walk⟩ := reachable.walk_of_started started
  exact (walk.within plan).2

end Resolver

end HostLookup
