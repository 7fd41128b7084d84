import HostLookup.Text.Blank
import Mathlib.Data.List.TakeWhile

/-! Texts that are cut at separators or at their ends: nothing but separators is left out, and what is left of a text
has none of them. -/
namespace HostLookup.Text

def Blank (text : String) : Prop :=
  ∀ c ∈ text.toList, isBlank c = true

instance (text : String) : Decidable (Blank text) :=
  List.decidableBAll (isBlank · = true) text.toList

variable {cs token gap run after : List Char} {isSeparator : Char → Bool}

theorem head_dropWhile {p : Char → Bool} {c : Char} {rest : List Char} (stopped : cs.dropWhile p = c :: rest) :
    p c = false := by
  have head := List.head?_dropWhile_not p cs
  rw [stopped] at head
  simpa using head

theorem trim_eq_nil_iff : trim cs = [] ↔ ∀ c ∈ cs, isBlank c = true := by
  rw [← List.dropWhile_eq_nil_iff, trim, List.reverse_eq_nil_iff, List.dropWhile_eq_nil_iff]
  constructor
  · intro blank
    -- what stops the first cut would be no white space
    cases left : cs.dropWhile isBlank with
    | nil => rfl
    | cons c rest =>
      rw [left] at blank
      exact absurd (blank c (by simp)) (by simp [head_dropWhile left])
  · intro nothing
    simp [nothing]

theorem tokens_eq_nil_iff : tokens isSeparator cs = [] ↔ ∀ c ∈ cs, isSeparator c = true := by
  rw [← List.dropWhile_eq_nil_iff, tokens]
  split <;> simp [*]

/-- A run between two texts that has no separator, and that goes on into neither of them. -/
structure MaximalRun (isSeparator : Char → Bool) (before run after : List Char) : Prop where
  ne_nil : run ≠ []
  plain : ∀ c ∈ run, isSeparator c = false
  starts : ∀ c ∈ before.getLast?, isSeparator c = true
  stops : ∀ c ∈ after.head?, isSeparator c = true

theorem MaximalRun.of_gap (separates : ∀ c ∈ gap, isSeparator c = true) (ne_nil : run ≠ [])
    (plain : ∀ c ∈ run, isSeparator c = false) (stops : ∀ c ∈ after.head?, isSeparator c = true) :
    MaximalRun isSeparator gap run after :=
  ⟨ne_nil, plain, fun c last => separates c (List.mem_of_getLast? last), stops⟩

theorem exists_first_run {first : Char} {rest : List Char} (found : cs.dropWhile isSeparator = first :: rest) :
    ∃ gap run after, cs = gap ++ run ++ after ∧ run = first :: rest.takeWhile (!isSeparator ·) ∧
      after = rest.dropWhile (!isSeparator ·) ∧ (∀ c ∈ gap, isSeparator c = true) ∧
      MaximalRun isSeparator gap run after := by
  have separates : ∀ c ∈ cs.takeWhile isSeparator, isSeparator c = true := fun c => List.mem_takeWhile_imp
  refine ⟨cs.takeWhile isSeparator, _, _, ?_, rfl, rfl, separates, .of_gap separates (List.cons_ne_nil _ _) ?_ ?_⟩
  · rw [List.append_assoc, List.cons_append, List.takeWhile_append_dropWhile, ← found,
      List.takeWhile_append_dropWhile]
  · refine List.forall_mem_cons.mpr ⟨head_dropWhile found, fun c inside => ?_⟩
    simpa using List.mem_takeWhile_imp inside
  · intro c head
    obtain ⟨more, stopped⟩ := List.head?_eq_some_iff.mp head
    simpa using head_dropWhile stopped

theorem mem_tokens (member : token ∈ tokens isSeparator cs) : token ≠ [] ∧ ∀ c ∈ token, isSeparator c = false := by
  fun_induction tokens isSeparator cs with
  | case1 => cases member
  | case2 cs first rest found later =>
    obtain ⟨gap, run, after, -, rfl, -, -, maximal⟩ := exists_first_run found
    rcases List.mem_cons.mp member with rfl | member
    · exact ⟨maximal.ne_nil, maximal.plain⟩
    · exact later member

def parts (isSeparator : Char → Bool) (cs : List Char) : List (List Char) :=
  (cs.splitOnP isSeparator).filter (!·.isEmpty)

theorem parts_cons {c : Char} (separates : isSeparator c = true) (cs : List Char) :
    parts isSeparator (c :: cs) = parts isSeparator cs := by
  simp [parts, List.splitOnP_cons_eq_if_modifyHead, separates]

theorem parts_gap (separates : ∀ c ∈ gap, isSeparator c = true) (cs : List Char) :
    parts isSeparator (gap ++ cs) = parts isSeparator cs := by
  induction gap with
  | nil => rfl
  | cons c rest ih =>
    rw [List.cons_append, parts_cons (separates c List.mem_cons_self)]
    exact ih fun d member => separates d (List.mem_cons_of_mem c member)

theorem MaximalRun.parts_eq (maximal : MaximalRun isSeparator gap run after)
    (separates : ∀ c ∈ gap, isSeparator c = true) :
    parts isSeparator (gap ++ run ++ after) = run :: parts isSeparator after := by
  obtain ⟨content, plain, -, stops⟩ := maximal
  have kept (others : List (List Char)) :
      (run :: others).filter (!·.isEmpty) = run :: others.filter (!·.isEmpty) := by
    simp [content]
  rw [List.append_assoc, parts_gap separates]
  cases after with
  | nil =>
    rw [List.append_nil, parts, List.splitOnP_eq_singleton plain, kept]
    rfl
  | cons c rest =>
    have separator : isSeparator c = true := stops c rfl
    rw [parts_cons separator, parts, List.splitOnP_append_cons_of_forall_mem plain c separator, kept]
    rfl

/-- To cut at the runs is to split at every separator and to leave out what is empty. -/
theorem tokens_eq_parts (cs : List Char) : tokens isSeparator cs = parts isSeparator cs := by
  fun_induction tokens isSeparator cs with
  | case1 cs nothing =>
    have none := parts_gap (List.dropWhile_eq_nil_iff.mp nothing) []
    rw [List.append_nil] at none
    exact none.symm
  | case2 cs first rest found ih =>
    obtain ⟨gap, run, after, rfl, rfl, rfl, separates, maximal⟩ := exists_first_run found
    rw [maximal.parts_eq separates, ih]

end HostLookup.Text
