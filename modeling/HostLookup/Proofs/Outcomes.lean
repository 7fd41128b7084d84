import HostLookup.Proofs.Walk

/-! What a lookup comes to, from the replies that it has heard: those of its plan before any attempt, and those of
its last attempt. What stale attempts have heard in between does not matter. -/
namespace HostLookup
open Resolver

namespace Attempt

/-- The result of an attempt that hears the replies. At any query of an engine it may end for want of a
channel. -/
inductive Yields : Attempt → List Reply → Result → Prop
  | finish (result : Result) : Yields (.finish result) [] result
  | closed {query : EngineQuery} {next : Except Fault query.Answer → Attempt} :
      Yields (.engine query next) [] (.error .closed)
  | native {query : NativeQuery} {next : Except LookupError query.Answer → Attempt}
      (reply : Except LookupError query.Answer) {replies : List Reply} {result : Result}
      (rest : Yields (next reply) replies result) :
      Yields (.native query next) (.native query reply :: replies) result
  | engine {query : EngineQuery} {next : Except Fault query.Answer → Attempt}
      (reply : Except Fault query.Answer) {replies : List Reply} {result : Result}
      (rest : Yields (next reply) replies result) :
      Yields (.engine query next) (.engine query reply :: replies) result

theorem Ends.yields {attempt : Attempt} {result : Result} (ends : attempt.Ends result) :
    attempt.Yields [] result := by
  cases ends with
  | finish => exact .finish result
  | closed => exact .closed

def Left (body : Attempt) (replies : List Reply) (rest : Attempt) : Prop :=
  ∀ more result, rest.Yields more result → body.Yields (replies ++ more) result

theorem Left.refl (body : Attempt) : body.Left [] body :=
  fun _ _ yields => yields

theorem Left.ends {body rest : Attempt} {replies : List Reply} {result : Result} (left : body.Left replies rest)
    (ends : rest.Ends result) : body.Yields replies result := by
  have yields := left [] result ends.yields
  rwa [List.append_nil] at yields

theorem Left.native {body : Attempt} {replies : List Reply} {query : NativeQuery}
    {next : Except LookupError query.Answer → Attempt} (left : body.Left replies (.native query next))
    (reply : Except LookupError query.Answer) : body.Left (replies ++ [.native query reply]) (next reply) := by
  intro more result yields
  rw [List.append_assoc]
  exact left _ _ (.native reply yields)

theorem Left.engine {body : Attempt} {replies : List Reply} {query : EngineQuery}
    {next : Except Fault query.Answer → Attempt} (left : body.Left replies (.engine query next))
    (reply : Except Fault query.Answer) : body.Left (replies ++ [.engine query reply]) (next reply) := by
  intro more result yields
  rw [List.append_assoc]
  exact left _ _ (.engine reply yields)

end Attempt

namespace Plan

/-- The result of a plan that hears the replies `front` itself, and `back` in the attempt that it ends in. -/
inductive Yields : Plan → List Reply → List Reply → Result → Prop
  | finish (result : Result) : Yields (.finish result) [] [] result
  | native {query : NativeQuery} {next : Except LookupError query.Answer → Plan}
      (reply : Except LookupError query.Answer) {front back : List Reply} {result : Result}
      (rest : Yields (next reply) front back result) :
      Yields (.native query next) (.native query reply :: front) back result
  | attempts {loop : Loop} {back : List Reply} {result : Result} (body : loop.body.Yields back result) :
      Yields (.attempts loop) [] back (loop.finish result)

def Left (plan : Plan) (replies : List Reply) (rest : Plan) : Prop :=
  ∀ front back result, rest.Yields front back result → plan.Yields (replies ++ front) back result

theorem Left.refl (plan : Plan) : plan.Left [] plan :=
  fun _ _ _ yields => yields

theorem Left.native {plan : Plan} {replies : List Reply} {query : NativeQuery}
    {next : Except LookupError query.Answer → Plan} (left : plan.Left replies (.native query next))
    (reply : Except LookupError query.Answer) : plan.Left (replies ++ [.native query reply]) (next reply) := by
  intro front back result yields
  rw [List.append_assoc]
  exact left _ _ _ (.native reply yields)

theorem Left.finish {plan : Plan} {replies : List Reply} {result : Result}
    (left : plan.Left replies (.finish result)) : plan.Yields replies [] result := by
  have yields := left _ _ _ (.finish result)
  rwa [List.append_nil] at yields

theorem Left.attempts {plan : Plan} {replies back : List Reply} {loop : Loop} {result : Result}
    (left : plan.Left replies (.attempts loop)) (body : loop.body.Yields back result) :
    plan.Yields replies back (loop.finish result) := by
  have yields := left _ _ _ (.attempts body)
  rwa [List.append_nil] at yields

end Plan

namespace Point

inductive Hears (plan : Plan) : List Reply → Point → Prop
  | follows {replies : List Reply} {rest : Plan} (left : plan.Left replies rest) :
      Hears plan replies (.follows rest)
  | asks {replies : List Reply} {query : NativeQuery} {next : Except LookupError query.Answer → Plan}
      (left : plan.Left replies (.native query next)) : Hears plan replies (.waits (.plan query next))
  | again {front : List Reply} {loop : Loop} (left : plan.Left front (.attempts loop)) (stale : List Reply) :
      Hears plan (front ++ stale) (.follows (.attempts loop))
  | attempts {front back : List Reply} {loop : Loop} {start : Option Nat} {rest : Attempt}
      (left : plan.Left front (.attempts loop)) (stale : List Reply) (under : loop.body.Left back rest) :
      Hears plan (front ++ stale ++ back) (.attempts loop start rest)
  | asksNative {front back : List Reply} {loop : Loop} {start : Option Nat} {query : NativeQuery}
      {next : Except LookupError query.Answer → Attempt} (left : plan.Left front (.attempts loop))
      (stale : List Reply) (under : loop.body.Left back (.native query next)) :
      Hears plan (front ++ stale ++ back) (.waits (.native loop start query next))
  | asksEngine {front back : List Reply} {loop : Loop} {start : Option Nat} {channel : Nat} {query : EngineQuery}
      {next : Except Fault query.Answer → Attempt} (left : plan.Left front (.attempts loop))
      (stale : List Reply) (under : loop.body.Left back (.engine query next)) :
      Hears plan (front ++ stale ++ back) (.waits (.engine loop start channel query next))
  | ended {front back : List Reply} {result : Result} (yields : plan.Yields front back result)
      (stale : List Reply) : Hears plan (front ++ stale ++ back) (.follows (.finish result))
  | finished {front back : List Reply} {result : Result} (yields : plan.Yields front back result)
      (stale : List Reply) : Hears plan (front ++ stale ++ back) (.finished result)

variable {plan : Plan} {replies : List Reply} {point next : Point} {note : Note}

theorem Hears.begins {loop : Loop} (hears : Hears plan replies (.follows (.attempts loop))) (start : Option Nat) :
    Hears plan replies (.attempts loop start loop.body) := by
  cases hears with
  | follows left =>
    have begun : Hears plan (replies ++ [] ++ []) (.attempts loop start loop.body) := .attempts left [] (.refl _)
    simpa using begun
  | @again front loop left stale =>
    have begun : Hears plan (front ++ stale ++ []) (.attempts loop start loop.body) :=
      .attempts left stale (.refl _)
    simpa using begun

theorem Hears.concludes {result : Result} (hears : Hears plan replies (.follows (.finish result))) :
    Hears plan replies (.finished result) := by
  cases hears with
  | follows left => simpa using Hears.finished left.finish []
  | ended yields stale => exact .finished yields stale

theorem Hears.ends {loop : Loop} {start finish : Option Nat} {rest : Attempt} {result : Result}
    (hears : Hears plan replies (.attempts loop start rest)) (ending : rest.Ends result) :
    Hears plan replies (.follows (loop.after start finish result)) := by
  cases hears with
  | @attempts front back loop start rest left stale under =>
    unfold Loop.after
    split
    · rw [List.append_assoc]
      exact .again left _
    · exact .ended (left.attempts (under.ends ending)) stale

theorem append_heard_silent {note : Note} (silent : note.reply? = none) (replies : List Reply) :
    replies ++ heard [note] = replies := by
  simp [heard, silent]

theorem Hears.step (hears : Hears plan replies point) (step : point.Step note next) :
    Hears plan (replies ++ heard [note]) next := by
  cases step with
  | concludes =>
    rw [append_heard_silent rfl]
    exact hears.concludes
  | begins start =>
    rw [append_heard_silent rfl]
    exact hears.begins start
  | ends finish ending =>
    rw [append_heard_silent rfl]
    exact hears.ends ending
  | asksPlan =>
    rw [append_heard_silent rfl]
    cases hears with
    | follows left => exact .asks left
  | asksNative =>
    rw [append_heard_silent rfl]
    cases hears with
    | attempts left stale under => exact .asksNative left stale under
  | asksEngine channel =>
    rw [append_heard_silent rfl]
    cases hears with
    | attempts left stale under => exact .asksEngine left stale under
  | hearsPlan reply =>
    cases hears with
    | asks left => exact .follows (left.native reply)
  | hearsNative reply =>
    cases hears with
    | asksNative left stale under =>
      rw [List.append_assoc]
      exact .attempts left stale (under.native reply)
  | hearsEngine reply =>
    cases hears with
    | asksEngine left stale under =>
      rw [List.append_assoc]
      exact .attempts left stale (under.engine reply)

end Point

variable {convention : Convention} {call : Call} {notes : List Note} {point : Point}

theorem Walk.hears (walk : Walk convention call notes point) :
    Point.Hears (call.plan convention) (heard notes) point := by
  induction walk with
  | started => exact .follows (.refl _)
  | @snoc notes point next note before step ih =>
    have all : heard (notes ++ [note]) = heard notes ++ heard [note] := List.filterMap_append
    rw [all]
    exact ih.step step

theorem Walk.yields {result : Result} (walk : Walk convention call notes (.finished result)) :
    ∃ front stale back, heard notes = front ++ stale ++ back ∧
      (call.plan convention).Yields front back result := by
  have hears := walk.hears
  generalize heard notes = replies at hears
  cases hears with
  | finished yields stale => exact ⟨_, stale, _, rfl, yields⟩

theorem Resolver.Reachable.yields {s : State} (reachable : Reachable s) {id : Nat} {result : Result}
    (started : .started call ∈ s.notes id) (done : (id, result) ∈ s.results) :
    ∃ front stale back, heard (s.notes id) = front ++ stale ++ back ∧
      (call.plan s.config.convention).Yields front back result := by
  obtain ⟨point, walk⟩ := reachable.walk_of_started started
  obtain rfl := walk.finished_of_mem (State.mem_results.mp done)
  exact walk.yields

end HostLookup
