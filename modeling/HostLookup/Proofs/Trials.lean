import HostLookup.Proofs.Bypass

/-! What each attempt of a lookup asks, hears and comes to, whenever a poll has left it. All attempts of a lookup run
through one body, that of the loop which the plan of its call has become. -/
namespace HostLookup
open Resolver

/-- How an attempt has ended, if it has: the generation at its end, and its own result. -/
abbrev Ending := Option (Option Nat × Result)

/-- What an attempt has asked, heard and come to: it waits for a reply, or it has ended, with its result or at a
query of an engine for want of a channel. -/
inductive Attempt.Runs : Attempt → List Lookup → List Reply → Ending → Prop
  | finish (finish : Option Nat) (result : Result) : Runs (.finish result) [] [] (some (finish, result))
  | unserved {query : EngineQuery} {next : Except Fault query.Answer → Attempt} :
      Runs (.engine query next) [] [] (some (none, .error .closed))
  | awaitsNative {query : NativeQuery} {next : Except LookupError query.Answer → Attempt} :
      Runs (.native query next) [.inl query] [] none
  | awaitsEngine {query : EngineQuery} {next : Except Fault query.Answer → Attempt} :
      Runs (.engine query next) [.inr query] [] none
  | native {query : NativeQuery} {next : Except LookupError query.Answer → Attempt}
      (reply : Except LookupError query.Answer) {asked : List Lookup} {heard : List Reply} {ending : Ending}
      (rest : Runs (next reply) asked heard ending) :
      Runs (.native query next) (.inl query :: asked) (.native query reply :: heard) ending
  | engine {query : EngineQuery} {next : Except Fault query.Answer → Attempt}
      (reply : Except Fault query.Answer) {asked : List Lookup} {heard : List Reply} {ending : Ending}
      (rest : Runs (next reply) asked heard ending) :
      Runs (.engine query next) (.inr query :: asked) (.engine query reply :: heard) ending

theorem Attempt.Ends.runs {rest : Attempt} {result : Result} (ends : rest.Ends result) {finish : Option Nat}
    (unserved : ∀ query next, rest = .engine query next → finish = none) :
    rest.Runs [] [] (some (finish, result)) := by
  cases ends with
  | finish => exact .finish finish result
  | closed =>
    obtain rfl := unserved _ _ rfl
    exact .unserved

inductive Plan.Becomes : Plan → List Reply → Plan → Prop
  | refl (plan : Plan) : Becomes plan [] plan
  | native {query : NativeQuery} {next : Except LookupError query.Answer → Plan}
      (reply : Except LookupError query.Answer) {replies : List Reply} {later : Plan}
      (rest : Becomes (next reply) replies later) :
      Becomes (.native query next) (.native query reply :: replies) later

theorem Plan.Becomes.snoc {plan : Plan} {replies : List Reply} {query : NativeQuery}
    {next : Except LookupError query.Answer → Plan} (becomes : plan.Becomes replies (.native query next))
    (reply : Except LookupError query.Answer) :
    plan.Becomes (replies ++ [.native query reply]) (next reply) := by
  generalize here : Plan.native query next = later at becomes
  induction becomes with
  | refl plan =>
    subst here
    exact .native reply (.refl _)
  | native other rest ih => exact .native other (ih here)

theorem Plan.All.of_becomes {P : Loop → Prop} {plan : Plan} {loop : Loop} {replies : List Reply} (all : plan.All P)
    (becomes : plan.Becomes replies (.attempts loop)) : P loop := by
  generalize here : Plan.attempts loop = later at becomes
  induction becomes with
  | refl plan =>
    subst here
    cases all with
    | attempts holds => exact holds
  | native reply rest ih =>
    cases all with
    | native rest => exact ih (rest reply) here

namespace Resolver.Trial

def lookups (t : Trial) : List Lookup :=
  t.issues.map Issue.lookup

def Runs (body : Attempt) (t : Trial) : Prop :=
  body.Runs t.lookups t.replies t.ending

def Leaves (body : Attempt) (t : Trial) (rest : Attempt) : Prop :=
  t.ending = none ∧ ∀ asked heard ending, rest.Runs asked heard ending →
    body.Runs (t.lookups ++ asked) (t.replies ++ heard) ending

variable {body rest : Attempt} {t : Trial}

theorem lookups_ask (t : Trial) (issue : Issue) :
    lookups { t with issues := t.issues ++ [issue] } = t.lookups ++ [issue.lookup] := by
  simp [lookups]

theorem leaves_new (body : Attempt) (start : Option Nat) : Leaves body { start } body :=
  ⟨rfl, fun _ _ _ runs => runs⟩

theorem Leaves.asks (left : t.Leaves body rest) {issue : Issue} (waits : rest.Runs [issue.lookup] [] none) :
    Runs body { t with issues := t.issues ++ [issue] } := by
  have runs := left.2 _ _ _ waits
  rw [List.append_nil, ← lookups_ask, ← left.1] at runs
  exact runs

theorem Leaves.ends (left : t.Leaves body rest) {finish : Option Nat} {result : Result}
    (ends : rest.Runs [] [] (some (finish, result))) : Runs body { t with ending := some (finish, result) } := by
  have runs := left.2 _ _ _ ends
  rw [List.append_nil, List.append_nil] at runs
  exact runs

theorem Leaves.hears {reply : Reply} {later : Attempt} (left : t.Leaves body rest) (issue : Issue)
    (goes : ∀ asked heard ending, later.Runs asked heard ending →
      rest.Runs (issue.lookup :: asked) (reply :: heard) ending) :
    Leaves body { t with issues := t.issues ++ [issue], replies := t.replies ++ [reply] } later := by
  refine ⟨left.1, fun asked heard ending runs => ?_⟩
  have whole := left.2 _ _ _ (goes _ _ _ runs)
  rw [List.append_cons t.lookups, List.append_cons t.replies, ← lookups_ask] at whole
  exact whole

end Resolver.Trial

inductive Point.Tries (loop : Loop) : List Trial → Point → Prop
  | again {past : List Trial} (before : ∀ t ∈ past, t.Runs loop.body) : Tries loop past (.follows (.attempts loop))
  | under {past : List Trial} {t : Trial} {start : Option Nat} {rest : Attempt}
      (before : ∀ t ∈ past, t.Runs loop.body) (left : t.Leaves loop.body rest) :
      Tries loop (past ++ [t]) (.attempts loop start rest)
  | awaitsNative {past : List Trial} {t : Trial} {start : Option Nat} {query : NativeQuery}
      {next : Except LookupError query.Answer → Attempt} (before : ∀ t ∈ past, t.Runs loop.body)
      (left : t.Leaves loop.body (.native query next)) :
      Tries loop (past ++ [{ t with issues := t.issues ++ [.native query] }])
        (.waits (.native loop start query next))
  | awaitsEngine {past : List Trial} {t : Trial} {start : Option Nat} {channel : Nat} {query : EngineQuery}
      {next : Except Fault query.Answer → Attempt} (before : ∀ t ∈ past, t.Runs loop.body)
      (left : t.Leaves loop.body (.engine query next)) :
      Tries loop (past ++ [{ t with issues := t.issues ++ [.engine channel query] }])
        (.waits (.engine loop start channel query next))
  | ended {past : List Trial} {result : Result} (before : ∀ t ∈ past, t.Runs loop.body) :
      Tries loop past (.follows (.finish result))
  | finished {past : List Trial} {result : Result} (before : ∀ t ∈ past, t.Runs loop.body) :
      Tries loop past (.finished result)

namespace Point.Tries

variable {loop : Loop} {trials : List Trial} {point next : Point} {note : Note}

theorem step (tries : Tries loop trials point) (step : point.Step note next) :
    Tries loop (Trial.noted trials note) next := by
  cases step with
  | concludes =>
    cases tries with
    | ended before => exact .finished before
  | asksPlan => nomatch tries
  | hearsPlan reply => nomatch tries
  | begins start =>
    cases tries with
    | again before => exact .under before (Trial.leaves_new loop.body start)
  | asksNative =>
    cases tries with
    | under before left =>
      rw [Trial.noted, List.modifyLast_concat]
      exact .awaitsNative before left
  | asksEngine channel =>
    cases tries with
    | under before left =>
      rw [Trial.noted, List.modifyLast_concat]
      exact .awaitsEngine before left
  | hearsNative reply =>
    cases tries with
    | awaitsNative before left =>
      rw [Trial.noted, List.modifyLast_concat]
      exact .under before (left.hears (.native _) fun _ _ _ runs => .native reply runs)
  | hearsEngine reply =>
    cases tries with
    | awaitsEngine before left =>
      rw [Trial.noted, List.modifyLast_concat]
      exact .under before (left.hears (.engine _ _) fun _ _ _ runs => .engine reply runs)
  | ends finish ending unserved =>
    cases tries with
    | under before left =>
      rw [Trial.noted, List.modifyLast_concat]
      have all := List.forall_mem_append.mpr
        ⟨before, List.forall_mem_singleton.mpr (left.ends (ending.runs unserved))⟩
      unfold Loop.after
      split
      · exact .again all
      · exact .ended all

end Point.Tries

def Resolver.tried (notes : List Note) : List Trial :=
  notes.foldl Trial.noted []

def Resolver.channelsAsked (notes : List Note) : List Nat :=
  (asked notes).filterMap Issue.channel?

theorem tried_concat (notes : List Note) (note : Note) :
    tried (notes ++ [note]) = Trial.noted (tried notes) note := by
  simp [tried]

inductive Point.Comes (plan : Plan) (notes : List Note) : Point → Prop
  | follows {rest : Plan} (becomes : plan.Becomes (heard notes) rest) (untried : tried notes = []) :
      Comes plan notes (.follows rest)
  | awaits {query : NativeQuery} {next : Except LookupError query.Answer → Plan}
      (becomes : plan.Becomes (heard notes) (.native query next)) (untried : tried notes = []) :
      Comes plan notes (.waits (.plan query next))
  | finished {result : Result} (untried : tried notes = []) : Comes plan notes (.finished result)
  | tries {front : List Reply} {loop : Loop} {point : Point} (becomes : plan.Becomes front (.attempts loop))
      (before : front <+: heard notes) (tries : point.Tries loop (tried notes)) : Comes plan notes point

section Walks

variable {plan : Plan} {notes : List Note} {point next : Point} {note : Note}

theorem heard_concat (notes : List Note) (note : Note) :
    heard (notes ++ [note]) = heard notes ++ note.reply?.toList := by
  cases reply : note.reply? <;> simp [heard, reply]

theorem Point.Comes.step (comes : point.Comes plan notes) (step : point.Step note next) :
    next.Comes plan (notes ++ [note]) := by
  have grown : heard notes <+: heard (notes ++ [note]) := heard_concat notes note ▸ List.prefix_append _ _
  cases comes with
  | tries becomes before tries =>
    refine .tries becomes (before.trans grown) ?_
    rw [tried_concat]
    exact tries.step step
  | finished untried => nomatch step
  | awaits becomes untried =>
    cases step with
    | hearsPlan reply =>
      refine .follows ?_ (by rw [tried_concat, untried]; rfl)
      rw [heard_concat]
      exact becomes.snoc reply
  | follows becomes untried =>
    cases step with
    | concludes => exact .finished (by rw [tried_concat, untried]; rfl)
    | asksPlan =>
      refine .awaits ?_ (by rw [tried_concat, untried]; rfl)
      rw [heard_concat]
      simpa [Note.reply?] using becomes
    | begins start =>
      refine .tries becomes grown ?_
      rw [tried_concat, untried]
      exact .under (fun _ none => by contradiction) (Trial.leaves_new _ start)

variable {convention : Convention} {call : Call}

theorem Walk.comes (walk : Walk convention call notes point) : point.Comes (call.plan convention) notes := by
  -- By the walk: a step before the first attempt takes the plan on, and any later one an attempt of its loop.
  induction walk with
  | started => exact .follows (.refl _) rfl
  | snoc before step ih => exact ih.step step

theorem channels_noted {trials : List Trial} {note : Note}
    (made : trials ≠ [] ∨ note.issue?.bind Issue.channel? = none) :
    (Trial.noted trials note).flatMap Trial.channels =
      trials.flatMap Trial.channels ++ (note.issue?.bind Issue.channel?).toList := by
  rcases List.eq_nil_or_concat trials with rfl | ⟨past, last, rfl⟩
  · have unasked := made.resolve_left (fun some => some rfl)
    rw [unasked]
    cases note <;> rfl
  · rw [List.concat_eq_append]
    cases note with
    | asked issue => simp [Trial.noted, List.modifyLast_concat, Trial.channels_ask, Note.issue?]
    | began generation => simp [Trial.noted, Trial.channels, Note.issue?]
    | heard reply => simp [Trial.noted, List.modifyLast_concat, Trial.channels, Note.issue?]
    | ended generation result => simp [Trial.noted, List.modifyLast_concat, Trial.channels, Note.issue?]
    | started call => simp [Trial.noted, Note.issue?]
    | concluded result => simp [Trial.noted, Note.issue?]

theorem channelsAsked_concat (notes : List Note) (note : Note) :
    channelsAsked (notes ++ [note]) = channelsAsked notes ++ (note.issue?.bind Issue.channel?).toList := by
  unfold channelsAsked asked
  rw [List.filterMap_append, List.filterMap_append]
  cases issue : note.issue? with
  | none => simp [issue]
  | some asked => cases channel : asked.channel? <;> simp [issue, channel]

theorem Walk.channels_eq (walk : Walk convention call notes point) :
    channelsAsked notes = (tried notes).flatMap Trial.channels := by
  induction walk with
  | started => rfl
  | @snoc notes point next note before step ih =>
    rw [channelsAsked_concat, tried_concat, ih, channels_noted]
    cases step with
    | asksEngine channel =>
      -- An engine is asked in an attempt, so that there is one to note it in.
      cases before.comes with
      | tries becomes earlier tries =>
        generalize tried notes = trials at tries
        cases tries with
        | under each left => exact .inl (by simp)
    | _ => exact .inr rfl

def Resolver.Note.Stops : Note → Prop
  | .started _ | .asked _ | .concluded _ => True
  | .began _ | .heard _ | .ended _ _ => False

theorem Point.Tries.runs {loop : Loop} {trials : List Trial} (tries : point.Tries loop trials)
    (stopped : ∀ loop start rest, point ≠ .attempts loop start rest) : ∀ t ∈ trials, t.Runs loop.body := by
  cases tries with
  | again before => exact before
  | under before left => exact absurd rfl (stopped _ _ _)
  | ended before => exact before
  | finished before => exact before
  | awaitsNative before left =>
    exact List.forall_mem_append.mpr ⟨before, List.forall_mem_singleton.mpr (left.asks .awaitsNative)⟩
  | awaitsEngine before left =>
    exact List.forall_mem_append.mpr ⟨before, List.forall_mem_singleton.mpr (left.asks .awaitsEngine)⟩

theorem Walk.stopped (walk : Walk convention call notes point)
    (stops : ∀ note, notes.getLast? = some note → note.Stops) (loop : Loop) (start : Option Nat) (rest : Attempt) :
    point ≠ .attempts loop start rest := by
  rintro rfl
  cases walk with
  | snoc before step =>
    have last := stops _ List.getLast?_concat
    cases step <;> exact last

theorem Walk.runs (walk : Walk convention call notes point)
    (stops : ∀ note, notes.getLast? = some note → note.Stops) :
    tried notes = [] ∨ ∃ front loop, (call.plan convention).Becomes front (.attempts loop) ∧
      front <+: heard notes ∧ ∀ t ∈ tried notes, t.Runs loop.body := by
  cases walk.comes with
  | follows becomes untried => exact .inl untried
  | awaits becomes untried => exact .inl untried
  | finished untried => exact .inl untried
  | tries becomes before tries => exact .inr ⟨_, _, becomes, before, tries.runs (walk.stopped stops)⟩

end Walks

namespace Resolver

variable {s t u : State} {id : Nat}

def State.Stopped (s : State) (id : Nat) : Prop :=
  ∀ note, (s.notes id).getLast? = some note → note.Stops

namespace State.Stopped

theorem of_notes (stopped : s.Stopped id) (notes : t.notes id = s.notes id) : t.Stopped id := by
  intro note last
  rw [notes] at last
  exact stopped note last

theorem of_note {note : Note} (notes : t.notes id = s.notes id ++ [note]) (stops : note.Stops) : t.Stopped id := by
  intro last found
  rw [notes, List.getLast?_concat, Option.some.injEq] at found
  exact found ▸ stops

theorem of_goes (goes : Goes id s t) : t.Stopped id := by
  induction goes with
  | @stops s request live => exact of_note (s.notes_ask id request) trivial
  | @concludes s result => exact of_note (s.notes_conclude id result) trivial
  | begins rest ih => exact ih
  | ends rest ih => exact ih

theorem startTask (stopped : s.Stopped id) (call : Call) : (s.startTask call).Stopped id := by
  by_cases new : s.nextTask = id
  · subst new
    exact of_note (notes_startTask s call) trivial
  · exact stopped.of_notes (notes_startTask_of_ne call new)

theorem cancel (stopped : s.Stopped id) (other : Nat) : (s.cancel other).Stopped id := by
  unfold State.cancel
  split
  · exact stopped
  · exact stopped.of_notes ((Retains.wake _ _).notes id)

theorem act (stopped : s.Stopped id) (event : Event) : (Resolver.act s event).Stopped id := by
  rcases lookups_act s event with ⟨call, -, -, started⟩ | ⟨other, rfl⟩ | goes | ⟨-, retains⟩
  · rw [started]
    exact stopped.startTask call
  · exact stopped.cancel other
  · cases proceeds_act s goes with
    | still apart busy notes => exact stopped.of_notes (notes id)
    | @goes worker u apart turn goes notes =>
      by_cases mine : worker = id
      · subst mine
        exact of_goes goes
      · exact stopped.of_notes (notes id mine)
  · exact stopped.of_notes (retains.notes id)

end State.Stopped

theorem Reachable.stopped (reachable : Reachable s) (id : Nat) : s.Stopped id := by
  induction reachable with
  | built clear ok =>
    obtain ⟨-, config, rfl⟩ := build_eq ok
    intro note last
    contradiction
  | @step s event before _ ih =>
    exact (ih.act event).of_notes ((retains_settleOwner (act s event)).notes id)

/-- An attempt as it was noted, apart from the changes of the slot under it. -/
def Trial.still (t : Trial) : Trial :=
  { t with changes := 0 }

theorem map_still_disturb (trials : List Trial) :
    (trials.modifyLast Trial.disturb).map Trial.still = trials.map Trial.still := by
  rcases List.eq_nil_or_concat trials with rfl | ⟨past, last, rfl⟩
  · rfl
  · have same : last.disturb.still = last.still := by
      unfold Trial.disturb
      split <;> rfl
    rw [List.concat_eq_append, List.modifyLast_concat, List.map_append, List.map_append, List.map_singleton,
      List.map_singleton, same]

theorem map_still_noted (trials : List Trial) (note : Note) :
    (Trial.noted trials note).map Trial.still = Trial.noted (trials.map Trial.still) note := by
  rcases List.eq_nil_or_concat trials with rfl | ⟨past, last, rfl⟩
  · cases note <;> rfl
  · rw [List.concat_eq_append]
    cases note <;> simp [Trial.noted, List.modifyLast_concat, Trial.still]

theorem trials_noted (h : History) (note : Note) : (h.noted note).trials = Trial.noted h.trials note := by
  cases note <;> rfl

theorem map_still_trials (s : State) (id : Nat) : (s.history id).trials.map Trial.still = tried (s.notes id) := by
  -- By the journal, from its end: a change of the slot is not noted of the lookup, and only disturbs its history.
  unfold State.history State.notes tried
  generalize s.journal = journal
  induction journal using List.reverseRecOn with
  | nil => rfl
  | append_singleton entries entry ih =>
    rw [List.foldl_append, List.filterMap_append, List.foldl_append, ← ih]
    cases entry with
    | replaced generation => exact map_still_disturb _
    | task owner note =>
      by_cases mine : owner = id
      · subst mine
        simp only [List.foldl_cons, List.foldl_nil, History.add, if_true, List.filterMap_cons, List.filterMap_nil,
          Entry.note?]
        rw [trials_noted, map_still_noted]
      · simp [History.add, Entry.note?, mine]

theorem started_of_called {call : Call} (called : (s.history id).call = some call) :
    .started call ∈ s.notes id := by
  unfold State.history at called
  unfold State.notes
  generalize s.journal = journal at called ⊢
  induction journal using List.reverseRecOn with
  | nil => contradiction
  | append_singleton entries entry ih =>
    rw [List.foldl_append] at called
    rw [List.filterMap_append, List.mem_append]
    cases entry with
    | replaced generation => exact .inl (ih called)
    | task owner note =>
      by_cases mine : owner = id
      · subst mine
        simp only [List.foldl_cons, List.foldl_nil, History.add, if_true] at called
        cases note with
        | started own =>
          obtain rfl := Option.some.inj called
          exact .inr (by simp [Entry.note?])
        | _ => exact .inl (ih called)
      · simp only [List.foldl_cons, List.foldl_nil, History.add, if_neg mine] at called
        exact .inl (ih called)

theorem Reachable.trials_run (reachable : Reachable s) {call : Call} (called : (s.history id).call = some call) :
    (s.history id).trials = [] ∨ ∃ front loop, (call.plan s.config.convention).Becomes front (.attempts loop) ∧
      front <+: heard (s.notes id) ∧ ∀ t ∈ (s.history id).trials, t.Runs loop.body := by
  obtain ⟨point, walk⟩ := reachable.walk_of_started (started_of_called called)
  rcases walk.runs (reachable.stopped id) with untried | ⟨front, loop, becomes, before, runs⟩
  · rw [← map_still_trials, List.map_eq_nil_iff] at untried
    exact .inl untried
  · refine .inr ⟨front, loop, becomes, before, fun t member => ?_⟩
    have still : t.still ∈ tried (s.notes id) := by
      rw [← map_still_trials]
      exact List.mem_map_of_mem member
    exact runs t.still still

theorem Reachable.makes_trials (reachable : Reachable s) {call : Call} (called : (s.history id).call = some call)
    {t : Trial} (member : t ∈ (s.history id).trials) :
    ∃ loop, call.Makes s.config.convention loop ∧ t.Runs loop.body := by
  rcases reachable.trials_run called with none | ⟨front, loop, becomes, -, runs⟩
  · simp [none] at member
  · exact ⟨loop, (plan_makes call _).of_becomes becomes, runs t member⟩

theorem replies_trials {t : Trial} (member : t ∈ (s.history id).trials) : t.replies ⊆ heard (s.notes id) := by
  intro reply among
  unfold State.history at member
  unfold State.notes heard
  generalize s.journal = journal at member ⊢
  induction journal using List.reverseRecOn generalizing t with
  | nil => nomatch member
  | append_singleton entries entry ih =>
    rw [List.foldl_append, List.foldl_cons, List.foldl_nil] at member
    rw [List.filterMap_append, List.filterMap_append, List.mem_append]
    rcases History.mem_add member with ⟨old, came⟩ | ⟨-, nothing⟩
    · rcases came.replies with same | ⟨latest, rfl, more, -⟩
      · exact .inl (ih (same ▸ among) came.member)
      · rw [more] at among
        rcases List.mem_append.mp among with earlier | now
        · exact .inl (ih earlier came.member)
        · exact .inr (by simp [Entry.note?, Note.reply?, List.mem_singleton.mp now])
    · simp [nothing] at among

theorem Reachable.channelsAsked_eq (reachable : Reachable s) {call : Call}
    (called : (s.history id).call = some call) :
    channelsAsked (s.notes id) = (s.history id).trials.flatMap Trial.channels := by
  obtain ⟨point, walk⟩ := reachable.walk_of_started (started_of_called called)
  rw [walk.channels_eq, ← map_still_trials, List.flatMap_map]
  rfl

end Resolver

end HostLookup
