import HostLookup.Proofs.Frame
import Mathlib.Data.List.ModifyLast

/-! The history of one lookup, read off the journal: its call, its attempts in order, and its result. Entries
about other lookups do not matter to it; a change of the slot counts for the attempt that is under way. -/
namespace HostLookup.Resolver

/-- What is asked for, whichever channel it is asked of. -/
abbrev Lookup := NativeQuery ⊕ EngineQuery

namespace Issue

def lookup : Issue → Lookup
  | .native query => .inl query
  | .engine _ query => .inr query

def channel? : Issue → Option Nat
  | .native _ => none
  | .engine channel _ => some channel

end Issue

/-- An attempt: `start` is the generation at its begin, `ending` that at its end, with its own result. -/
structure Trial where
  start : Option Nat
  issues : List Issue := []
  replies : List Reply := []
  changes : Nat := 0
  ending : Option (Option Nat × Result) := none

namespace Trial

def lookup? (t : Trial) : Option Lookup :=
  t.issues.head?.map Issue.lookup

def channels (t : Trial) : List Nat :=
  t.issues.filterMap Issue.channel?

theorem channels_ask (t : Trial) (issue : Issue) :
    channels { t with issues := t.issues ++ [issue] } = t.channels ++ issue.channel?.toList := by
  cases issue <;> simp [channels, Issue.channel?]

def disturb (t : Trial) : Trial :=
  if t.ending.isNone then { t with changes := t.changes + 1 } else t

theorem start_disturb (t : Trial) : t.disturb.start = t.start := by
  unfold disturb
  split <;> rfl

def noted (trials : List Trial) : Note → List Trial
  | .began generation => trials ++ [{ start := generation }]
  | .asked issue => trials.modifyLast fun t => { t with issues := t.issues ++ [issue] }
  | .heard reply => trials.modifyLast fun t => { t with replies := t.replies ++ [reply] }
  | .ended generation result => trials.modifyLast fun t => { t with ending := some (generation, result) }
  | .started _ | .concluded _ => trials

end Trial

structure History where
  call : Option Call := none
  trials : List Trial := []
  conclusion : Option Result := none

namespace History

def noted (h : History) : Note → History
  | .started call => { h with call := some call }
  | .concluded result => { h with conclusion := some result }
  | note => { h with trials := Trial.noted h.trials note }

def disturb (h : History) : History :=
  { h with trials := h.trials.modifyLast Trial.disturb }

def add (id : Nat) (h : History) : Entry → History
  | .task task note => if task = id then h.noted note else h
  | .replaced _ => h.disturb

def across (h : History) (l after : Lifecycle) : History :=
  if l.generation = after.generation then h else h.disturb

theorem across_of_eq {h : History} {l after : Lifecycle} (same : l.generation = after.generation) :
    h.across l after = h :=
  if_pos same

@[simp] theorem call_across (h : History) (l after : Lifecycle) : (h.across l after).call = h.call := by
  unfold across
  split <;> rfl

end History

def State.history (s : State) (id : Nat) : History :=
  s.journal.foldl (History.add id) {}

def Entry.note? (id : Nat) : Entry → Option Note
  | .task owner note => if owner = id then some note else none
  | .replaced _ => none

def State.notes (s : State) (id : Nat) : List Note :=
  s.journal.filterMap (Entry.note? id)

namespace State

variable (s : State) (id other : Nat)

theorem history_note_add (note : Note) :
    (s.note id note).history other = (s.history other).add other (.task id note) := by
  simp [history, State.note]

@[simp] theorem history_note (note : Note) :
    (s.note id note).history id = (s.history id).noted note :=
  (s.history_note_add id id note).trans (if_pos rfl)

theorem history_note_of_ne (note : Note) (different : id ≠ other) :
    (s.note id note).history other = s.history other :=
  (s.history_note_add id other note).trans (if_neg different)

@[simp] theorem history_ask (request : Request) :
    (s.ask id request).history id = (s.history id).noted (.asked request.issue) :=
  history_note s id _

@[simp] theorem history_conclude (result : Result) :
    (s.conclude id result).history id = (s.history id).noted (.concluded result) :=
  history_note s id _

@[simp] theorem notes_note (note : Note) : (s.note id note).notes id = s.notes id ++ [note] := by
  simp [notes, State.note, Entry.note?]

theorem notes_ask (request : Request) :
    (s.ask id request).notes id = s.notes id ++ [.asked request.issue] :=
  notes_note s id _

theorem notes_conclude (result : Result) :
    (s.conclude id result).notes id = s.notes id ++ [.concluded result] :=
  notes_note s id _

theorem concluded_mem (result : Result) : .concluded result ∈ (s.conclude id result).notes id := by
  rw [notes_conclude]
  exact List.mem_append_right _ (List.mem_singleton.mpr rfl)

theorem notes_note_of_ne (note : Note) (different : id ≠ other) :
    (s.note id note).notes other = s.notes other := by
  simp [notes, State.note, Entry.note?, different]

theorem mem_results {s : State} {id : Nat} {result : Result} :
    (id, result) ∈ s.results ↔ .concluded result ∈ s.notes id := by
  simp only [results, notes, List.mem_filterMap]
  constructor
  · rintro ⟨entry, member, found⟩
    refine ⟨entry, member, ?_⟩
    unfold Entry.result? at found
    split at found <;> simp_all [Entry.note?]
  · rintro ⟨entry, member, found⟩
    refine ⟨entry, member, ?_⟩
    unfold Entry.note? at found
    split at found <;> simp_all [Entry.result?]

theorem history_manage (change : Lifecycle → Lifecycle) :
    (s.manage change).history id = (s.history id).across s.toLifecycle (change s.toLifecycle) := by
  obtain ⟨ready, managed⟩ := s.manage_eq change
  rw [managed]
  unfold history History.across
  dsimp only
  split
  · simp
  · simp [History.add]

@[simp] theorem notes_manage (change : Lifecycle → Lifecycle) : (s.manage change).notes id = s.notes id := by
  obtain ⟨ready, managed⟩ := s.manage_eq change
  rw [managed]
  unfold notes
  dsimp only
  split <;> simp [Entry.note?]

end State

private theorem mem_modifyLast {α : Type} {f : α → α} {l : List α} {a : α}
    (member : a ∈ l.modifyLast f) : a ∈ l ∨ ∃ b, l.getLast? = some b ∧ a = f b := by
  rcases List.eq_nil_or_concat l with rfl | ⟨rest, last, rfl⟩
  · exact Or.inl member
  · rw [List.concat_eq_append] at member ⊢
    rw [List.modifyLast_concat] at member
    rcases List.mem_append.mp member with earlier | latest
    · exact Or.inl (List.mem_append_left _ earlier)
    · exact Or.inr ⟨last, by simp, List.mem_singleton.mp latest⟩

structure Trial.From (id : Nat) (entry : Entry) (trials : List Trial) (old t : Trial) : Prop where
  member : old ∈ trials
  changes : old.changes ≤ t.changes
  issues : t.issues = old.issues ∨
    ∃ issue, entry = .task id (.asked issue) ∧ t.issues = old.issues ++ [issue]
  replies : t.replies = old.replies ∨ ∃ reply, entry = .task id (.heard reply) ∧
    t.replies = old.replies ++ [reply] ∧ trials.getLast? = some old

theorem History.mem_add {id : Nat} {h : History} {entry : Entry} {t : Trial}
    (member : t ∈ (h.add id entry).trials) :
    (∃ old, Trial.From id entry h.trials old t) ∨ t.issues = [] ∧ t.replies = [] := by
  have same : t ∈ h.trials → ∃ old, Trial.From id entry h.trials old t := fun member =>
    ⟨t, member, le_rfl, Or.inl rfl, Or.inl rfl⟩
  cases entry with
  | replaced generation =>
    rcases mem_modifyLast member with kept | ⟨old, last, rfl⟩
    · exact Or.inl (same kept)
    · have disturbed : old.changes ≤ old.disturb.changes ∧ old.disturb.issues = old.issues ∧
          old.disturb.replies = old.replies := by
        unfold Trial.disturb
        split <;> simp
      exact Or.inl ⟨old, List.mem_of_getLast? last, disturbed.1, Or.inl disturbed.2.1,
        Or.inl disturbed.2.2⟩
  | task other note =>
    by_cases mine : other = id
    · subst mine
      simp only [History.add, if_true] at member
      cases note with
      | started call => exact Or.inl (same member)
      | concluded result => exact Or.inl (same member)
      | began generation =>
        rcases List.mem_append.mp member with earlier | new
        · exact Or.inl (same earlier)
        · rw [List.mem_singleton.mp new]
          exact Or.inr ⟨rfl, rfl⟩
      | asked issue =>
        rcases mem_modifyLast member with kept | ⟨old, last, rfl⟩
        · exact Or.inl (same kept)
        · exact Or.inl ⟨old, List.mem_of_getLast? last, le_rfl, Or.inr ⟨issue, rfl, rfl⟩, Or.inl rfl⟩
      | heard reply =>
        rcases mem_modifyLast member with kept | ⟨old, last, rfl⟩
        · exact Or.inl (same kept)
        · exact Or.inl ⟨old, List.mem_of_getLast? last, le_rfl, Or.inl rfl,
            Or.inr ⟨reply, rfl, rfl, last⟩⟩
      | ended generation result =>
        rcases mem_modifyLast member with kept | ⟨old, last, rfl⟩
        · exact Or.inl (same kept)
        · exact Or.inl ⟨old, List.mem_of_getLast? last, le_rfl, Or.inl rfl, Or.inl rfl⟩
    · simp only [History.add, if_neg mine] at member
      exact Or.inl (same member)

theorem State.mem_issues_of_history {s : State} {id : Nat} {t : Trial}
    (member : t ∈ (s.history id).trials) {issue : Issue} (asked : issue ∈ t.issues) :
    (id, issue) ∈ s.issues := by
  unfold State.history at member
  unfold State.issues
  generalize s.journal = journal at member ⊢
  induction journal using List.reverseRecOn generalizing t with
  | nil => contradiction
  | append_singleton entries entry ih =>
    rw [List.foldl_append, List.foldl_cons, List.foldl_nil] at member
    rw [List.filterMap_append, List.mem_append]
    rcases History.mem_add member with ⟨old, came⟩ | ⟨nothing, -⟩
    · rcases came.issues with same | ⟨added, rfl, more⟩
      · exact Or.inl (ih (same ▸ asked) came.member)
      · rw [more] at asked
        rcases List.mem_append.mp asked with earlier | latest
        · exact Or.inl (ih earlier came.member)
        · exact Or.inr (by simp [Entry.issue?, List.mem_singleton.mp latest])
    · simp [nothing] at asked

theorem History.conclusion_add {h : History} (concluded : h.conclusion ≠ none) (id : Nat) (entry : Entry) :
    (h.add id entry).conclusion ≠ none := by
  cases entry with
  | replaced generation => exact concluded
  | task other note =>
    by_cases mine : other = id
    · simp only [History.add, if_pos mine]
      cases note with
      | concluded result => exact Option.some_ne_none result
      | _ => exact concluded
    · simpa only [History.add, if_neg mine] using concluded

theorem State.conclusion_of_mem {s : State} {id : Nat} {result : Result}
    (member : .concluded result ∈ s.notes id) : (s.history id).conclusion ≠ none := by
  unfold State.notes at member
  unfold State.history
  generalize s.journal = journal at member ⊢
  induction journal using List.reverseRecOn with
  | nil => contradiction
  | append_singleton entries entry ih =>
    rw [List.foldl_append, List.foldl_cons, List.foldl_nil]
    rw [List.filterMap_append, List.mem_append] at member
    rcases member with earlier | latest
    · exact History.conclusion_add (ih earlier) id entry
    · obtain ⟨other, among, noted⟩ := List.mem_filterMap.mp latest
      obtain rfl := List.mem_singleton.mp among
      cases other with
      | replaced generation => contradiction
      | task owner note =>
        by_cases mine : owner = id
        · simp only [Entry.note?, if_pos mine, Option.some.injEq] at noted
          simp [History.add, History.noted, noted, mine]
        · simp [Entry.note?, mine] at noted

end HostLookup.Resolver
