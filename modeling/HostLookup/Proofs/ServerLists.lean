import HostLookup.Proofs.Defaults

/-! Lists of servers. A value is cut into its longest runs without separators, in order, and nothing but separators is
lost. Names that are joined by separators come back, whatever the separators are. -/
namespace HostLookup

namespace Text

/-- A text taken apart from its start: separators, a run that goes no further, and so on. -/
inductive Cut (isSeparator : Char → Bool) : List Char → List (List Char) → Prop
  | gap {gap : List Char} (separates : ∀ c ∈ gap, isSeparator c = true) : Cut isSeparator gap []
  | run {gap run after : List Char} {runs : List (List Char)} (separates : ∀ c ∈ gap, isSeparator c = true)
      (found : MaximalRun isSeparator gap run after) (rest : Cut isSeparator after runs) :
      Cut isSeparator (gap ++ run ++ after) (run :: runs)

variable {isSeparator : Char → Bool} {cs gap run before after : List Char} {runs earlier later : List (List Char)}

namespace Cut

theorem tokens_eq (cut : Cut isSeparator cs runs) : tokens isSeparator cs = runs := by
  induction cut with
  | gap separates => exact tokens_eq_nil_iff.mpr separates
  | run separates found rest ih => rw [tokens_eq_parts, found.parts_eq separates, ← tokens_eq_parts, ih]

theorem flatten_eq (cut : Cut isSeparator cs runs) : runs.flatten = cs.filter (!isSeparator ·) := by
  induction cut with
  | gap separates =>
    refine (List.filter_eq_nil_iff.mpr fun c member => ?_).symm
    simp [separates c member]
  | @run gap run after runs separates found rest ih =>
    have gone : gap.filter (!isSeparator ·) = [] :=
      List.filter_eq_nil_iff.mpr fun c member => by simp [separates c member]
    have kept : run.filter (!isSeparator ·) = run :=
      List.filter_eq_self.mpr fun c member => by simp [found.plain c member]
    rw [List.flatten_cons, ih, List.filter_append, List.filter_append, gone, kept, List.nil_append]

theorem skip (separates : ∀ c ∈ gap, isSeparator c = true) (cut : Cut isSeparator cs runs) :
    Cut isSeparator (gap ++ cs) runs := by
  have longer {more : List Char} (others : ∀ c ∈ more, isSeparator c = true) :
      ∀ c ∈ gap ++ more, isSeparator c = true := fun c member =>
    (List.mem_append.mp member).elim (separates c) (others c)
  cases cut with
  | gap others => exact .gap (longer others)
  | run others found rest =>
    rw [← List.append_assoc, ← List.append_assoc]
    exact .run (longer others) (.of_gap (longer others) found.ne_nil found.plain found.stops) rest

theorem cons (ne_nil : run ≠ []) (plain : ∀ c ∈ run, isSeparator c = false)
    (stops : ∀ c ∈ after.head?, isSeparator c = true) (rest : Cut isSeparator after runs) :
    Cut isSeparator (run ++ after) (run :: runs) := by
  have none : ∀ c ∈ ([] : List Char), isSeparator c = true := by simp
  exact .run none (.of_gap none ne_nil plain stops) rest

theorem append (cut : Cut isSeparator before earlier) (starts : ∀ c ∈ before.getLast?, isSeparator c = true)
    (rest : Cut isSeparator after later) : Cut isSeparator (before ++ after) (earlier ++ later) := by
  induction cut with
  | gap separates => exact rest.skip separates
  | @run gap run middle runs separates found _ ih =>
    -- the run is not at the end: its last character would be a separator
    have more : middle ≠ [] := by
      rintro rfl
      have last := List.getLast?_eq_some_getLast found.ne_nil
      have separator := starts (run.getLast found.ne_nil) (by
        rw [List.append_nil, List.getLast?_append, last, Option.some_or]
        rfl)
      simp [found.plain _ (List.getLast_mem found.ne_nil)] at separator
    have head : (middle ++ after).head? = middle.head? := List.head?_append_of_ne_nil _ more
    rw [List.append_assoc]
    refine .run separates ⟨found.ne_nil, found.plain, found.starts, head ▸ found.stops⟩ (ih ?_)
    rwa [List.getLast?_append_of_ne_nil _ more] at starts

theorem split (cut : Cut isSeparator cs (earlier ++ run :: later)) :
    ∃ before after, cs = before ++ run ++ after ∧ MaximalRun isSeparator before run after ∧
      Cut isSeparator before earlier ∧ Cut isSeparator after later := by
  induction earlier generalizing cs with
  | nil =>
    cases cut with
    | run separates found rest => exact ⟨_, _, rfl, found, .gap separates, rest⟩
  | cons first others ih =>
    cases cut with
    | @run gap _ middle _ separates found rest =>
      obtain ⟨before, after, rfl, own, front, back⟩ := ih rest
      -- something is between the two runs: the second has no separator at its head
      have between : before ≠ [] := by
        rintro rfl
        cases whole : run with
        | nil => exact own.ne_nil whole
        | cons c more =>
          have separator := found.stops c (by simp [whole])
          simp [own.plain c (by simp [whole])] at separator
      refine ⟨gap ++ first ++ before, after, by simp only [List.append_assoc], ⟨own.ne_nil, own.plain, ?_, own.stops⟩,
        .run separates ⟨found.ne_nil, found.plain, found.starts, fun c head => found.stops c ?_⟩ front, back⟩
      · rw [List.getLast?_append_of_ne_nil _ between]
        exact own.starts
      · rw [List.append_assoc, List.head?_append_of_ne_nil _ between]
        exact head

end Cut

theorem cut_tokens (cs : List Char) : Cut isSeparator cs (tokens isSeparator cs) := by
  fun_induction tokens isSeparator cs with
  | case1 cs nothing => exact .gap (List.dropWhile_eq_nil_iff.mp nothing)
  | case2 cs first rest found ih =>
    obtain ⟨gap, run, after, rfl, rfl, rfl, separates, maximal⟩ := exists_first_run found
    exact .run separates maximal ih

theorem tokens_eq_iff : tokens isSeparator cs = runs ↔ Cut isSeparator cs runs :=
  ⟨fun same => same ▸ cut_tokens cs, Cut.tokens_eq⟩

theorem tokens_eq_append_cons_iff : tokens isSeparator cs = earlier ++ run :: later ↔
    ∃ before after, cs = before ++ run ++ after ∧ MaximalRun isSeparator before run after ∧
      tokens isSeparator before = earlier ∧ tokens isSeparator after = later := by
  simp only [tokens_eq_iff]
  refine ⟨Cut.split, ?_⟩
  rintro ⟨before, after, rfl, found, front, back⟩
  rw [List.append_assoc]
  exact front.append found.starts (.cons found.ne_nil found.plain found.stops back)

end Text

namespace Settings
open Text

def IsGap (gap : String) : Prop :=
  ∀ c ∈ gap.toList, separatesServers c = true

instance (gap : String) : Decidable (IsGap gap) :=
  List.decidableBAll _ gap.toList

def IsName (name : String) : Prop :=
  name ≠ "" ∧ ∀ c ∈ name.toList, separatesServers c = false

instance (name : String) : Decidable (IsName name) :=
  @instDecidableAnd _ _ _ (List.decidableBAll _ name.toList)

/-- The servers are what a split at every separator gives, but for the empty texts. -/
theorem parseServers_eq_parts (value : String) :
    parseServers value = (parts separatesServers value.toList).map String.ofList := by
  rw [parseServers, tokens_eq_parts]

inductive Joined : List String → String → Prop
  | none : Joined [] ""
  | one (name : String) : Joined [name] name
  | more (name gap : String) {next : String} {names : List String} {text : String} (between : gap ≠ "")
      (separates : IsGap gap) (rest : Joined (next :: names) text) :
      Joined (name :: next :: names) (name ++ gap ++ text)

variable {names earlier later : List String} {name text value : String}

theorem parseServers_eq_iff : parseServers value = names ↔
    Cut separatesServers value.toList (names.map String.toList) := by
  rw [parseServers, ← tokens_eq_iff]
  constructor
  · rintro rfl
    simp [Function.comp_def]
  · intro same
    simp [same, Function.comp_def]

theorem parseServers_eq_append_cons_iff : parseServers value = earlier ++ name :: later ↔
    ∃ before after, value = before ++ name ++ after ∧
      MaximalRun separatesServers before.toList name.toList after.toList ∧
      parseServers before = earlier ∧ parseServers after = later := by
  simp only [parseServers_eq_iff, ← tokens_eq_iff, List.map_append, List.map_cons, tokens_eq_append_cons_iff]
  constructor
  · rintro ⟨before, after, whole, found, front, back⟩
    exact ⟨String.ofList before, String.ofList after, String.toList_inj.mp (by simpa using whole),
      by simpa using found, by simpa using front, by simpa using back⟩
  · rintro ⟨before, after, rfl, found, front, back⟩
    exact ⟨before.toList, after.toList, by simp, found, front, back⟩

theorem Joined.cut (joined : Joined names text) (valid : ∀ name ∈ names, IsName name) {trail : String}
    (separates : IsGap trail) : Cut separatesServers (text ++ trail).toList (names.map String.toList) := by
  induction joined with
  | none =>
    rw [String.empty_append]
    exact .gap separates
  | one name =>
    obtain ⟨content, plain⟩ := valid name (by simp)
    rw [String.toList_append]
    refine .cons (by simpa using content) plain (fun c first => ?_) (.gap separates)
    exact separates c (List.mem_of_head? first)
  | @more name gap next names text between own rest ih =>
    obtain ⟨content, plain⟩ := valid name (by simp)
    have later := ih fun other member => valid other (List.mem_cons_of_mem name member)
    have found : gap.toList ≠ [] := by simpa using between
    rw [String.append_assoc, String.append_assoc, String.toList_append, String.toList_append]
    refine .cons (by simpa using content) plain (fun c first => ?_) (later.skip own)
    rw [List.head?_append_of_ne_nil _ found] at first
    exact own c (List.mem_of_head? first)

/-- A list of servers is that of the maximal runs of its value, in order: each server is one, and the servers before
and after it are those of what is before and after the run. Put together they are the value without its separators.
Names that are joined by separators are read back, and so they are if there are separators before and after them. -/
theorem servers_tokenized :
    (∀ (value : String) (earlier : List String) (name : String) (later : List String),
      parseServers value = earlier ++ name :: later ↔ ∃ before after, value = before ++ name ++ after ∧
        MaximalRun separatesServers before.toList name.toList after.toList ∧
        parseServers before = earlier ∧ parseServers after = later) ∧
    (∀ value : String,
      String.join (parseServers value) = String.ofList (value.toList.filter (!separatesServers ·))) ∧
    ∀ (names : List String) (text lead trail : String), (∀ name ∈ names, IsName name) → Joined names text →
      IsGap lead → IsGap trail → parseServers (lead ++ text ++ trail) = names := by
  refine ⟨fun value earlier name later => parseServers_eq_append_cons_iff, fun value => ?_, ?_⟩
  · have kept := (parseServers_eq_iff.mp (rfl : parseServers value = _)).flatten_eq
    rw [← String.toList_inj, String.toList_join, String.toList_ofList, ← kept, List.flatMap_def]
  · intro names text lead trail valid joined before after
    rw [parseServers_eq_iff, String.append_assoc, String.toList_append]
    exact (joined.cut valid after).skip before

theorem servers_tokenized_mixed :
    parseServers " ,8.8.8.8, 9.9.9.9\n\u2003\n1.1.1.1\t," = ["8.8.8.8", "9.9.9.9", "1.1.1.1"] := by
  obtain ⟨-, -, back⟩ := servers_tokenized
  have last : Joined ["9.9.9.9", "1.1.1.1"] "9.9.9.9\n\u2003\n1.1.1.1" :=
    .more "9.9.9.9" "\n\u2003\n" (by decide) (by decide) (.one "1.1.1.1")
  have joined : Joined ["8.8.8.8", "9.9.9.9", "1.1.1.1"] "8.8.8.8, 9.9.9.9\n\u2003\n1.1.1.1" :=
    .more "8.8.8.8" ", " (by decide) (by decide) last
  exact back _ _ " ," "\t," (by decide) joined (by decide) (by decide)

end Settings

end HostLookup
