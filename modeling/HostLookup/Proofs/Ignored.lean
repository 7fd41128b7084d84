import HostLookup.Host
import HostLookup.Proofs.Utf8

/-! Names of which nothing is left. The mapping leaves some characters out, and neither normalization nor what comes
after it leaves out any more: a name is encoded as the empty name if and only if the mapping leaves out all of it. A host
of such a name is not empty as it is given. -/
namespace HostLookup

namespace Idna
open Text.Packed

theorem decompositions_filled : (decompositions.all fun entry => !entry.2.isEmpty) = true := by
  decide +kernel

theorem seek_mem {α : Type} {start : α → Nat} {holds : α → Bool} {n : Nat} {table : List α} {entry : α}
    (found : seek start holds n table = some entry) : entry ∈ table := by
  induction table with
  | nil => contradiction
  | cons first rest ih =>
    rw [seek] at found
    split at found
    · contradiction
    · split at found
      · obtain rfl := Option.some.inj found
        exact List.mem_cons_self
      · exact List.mem_cons_of_mem first (ih found)

theorem decompose_ne_nil (c : Char) : decompose c ≠ [] := by
  unfold decompose
  split
  · next parts syllable =>
    unfold Hangul.decompose? at syllable
    split at syllable
    · obtain rfl := Option.some.inj syllable
      simp
    · contradiction
  · cases entry : textOf decompositions c with
    | none => simp
    | some text =>
      obtain ⟨own, found, rfl⟩ := Option.map_eq_some_iff.mp entry
      have filled := List.all_eq_true.mp decompositions_filled own (seek_mem found)
      simpa using filled

theorem reorder_eq_nil_iff {cs : List Char} : reorder cs = [] ↔ cs = [] := by
  cases cs with
  | nil => simp [reorder]
  | cons c rest =>
    rw [reorder]
    split
    · simp
    · have marks : ((c :: rest.takeWhile (combiningClass · != 0)).mergeSort
          (combiningClass · ≤ combiningClass ·)) ≠ [] := by
        simp [← List.length_eq_zero_iff]
      simp [marks]

theorem composeFrom_ne_nil (starter : Char) (kept cs : List Char) : composeFrom starter kept cs ≠ [] := by
  fun_induction composeFrom starter kept cs with
  | case1 => simp
  | case2 _ _ _ _ _ _ _ ih => exact ih
  | case3 => simp
  | case4 _ _ _ _ _ _ _ ih => exact ih

theorem composeAll_eq_nil_iff {cs : List Char} : composeAll cs = [] ↔ cs = [] := by
  cases cs with
  | nil => simp [composeAll]
  | cons c rest =>
    rw [composeAll]
    split
    · simp [composeFrom_ne_nil]
    · simp

theorem normalize_eq_nil_iff {cs : List Char} : normalize cs = [] ↔ cs = [] := by
  rw [normalize, composeAll_eq_nil_iff, reorder_eq_nil_iff, List.flatMap_eq_nil_iff]
  cases cs with
  | nil => simp
  | cons c rest => simpa using fun nothing => absurd nothing (decompose_ne_nil c)

theorem splitAt_ne_nil (separator : Char) (cs : List Char) : splitAt separator cs ≠ [] := by
  cases cs with
  | nil => simp [splitAt]
  | cons c rest =>
    rw [splitAt]
    split
    · simp
    · split <;> simp

theorem splitAt_eq_singleton_nil_iff {separator : Char} {cs : List Char} : splitAt separator cs = [[]] ↔ cs = [] := by
  cases cs with
  | nil => simp [splitAt]
  | cons c rest =>
    rw [splitAt]
    split
    · simp [splitAt_ne_nil]
    · split <;> simp

theorem intercalate_eq_nil_iff {labels : List (List Char)} (filled : labels ≠ []) :
    ['.'].intercalate labels = [] ↔ labels = [[]] := by
  cases labels with
  | nil => contradiction
  | cons label rest =>
    cases rest with
    | nil => simp
    | cons next more => simp [List.intercalate_cons_cons]

theorem writeLabel_eq_nil_iff {label : List Char} : writeLabel label = [] ↔ label = [] := by
  unfold writeLabel
  split
  · rfl
  · next beyond =>
    refine ⟨fun nothing => absurd nothing (by simp [encodedMark]), ?_⟩
    rintro rfl
    exact absurd rfl beyond

theorem readLabel?_eq_some_nil_iff {label : List Char} : readLabel? label = some [] ↔ label = [] := by
  constructor
  · intro read
    unfold readLabel? at read
    split at read
    · unfold decodeLabel? at read
      split at read
      · have other := (Option.filter_eq_some_iff.mp read).2
        simp [isAsciiLabel] at other
      · contradiction
    · split at read
      · exact Option.some.inj read
      · contradiction
  · rintro rfl
    rfl

def IsIgnored (c : Char) : Prop :=
  replacement? c = some []
deriving Decidable

theorem mapName_eq_some_nil_iff {name : List Char} : mapName name = some [] ↔ ∀ c ∈ name, IsIgnored c := by
  unfold mapName
  simp only [Option.map_eq_some_iff, Text.mapM_eq_some_iff, List.flatten_eq_nil_iff]
  constructor
  · rintro ⟨texts, each, nothing⟩ c member
    have made := each ▸ List.mem_map_of_mem member
    obtain ⟨text, among, same⟩ := List.mem_map.mp made
    obtain rfl := nothing text among
    unfold IsIgnored
    split at same
    · next found => rw [found, same]
    · split at same <;> simp at same
  · intro each
    refine ⟨name.map fun _ => [], ?_, by simp⟩
    rw [List.map_map]
    refine List.map_congr_left fun c member => ?_
    have nothing : replacement? c = some [] := each c member
    simp [nothing]

theorem toAscii?_eq_some_nil_iff {name : List Char} : toAscii? name = some [] ↔ ∀ c ∈ name, IsIgnored c := by
  rw [← mapName_eq_some_nil_iff]
  constructor
  · intro made
    simp only [toAscii?, Option.bind_eq_bind, Option.bind_eq_some_iff, Text.mapM_eq_some_iff] at made
    obtain ⟨mapped, found, labels, read, made⟩ := made
    split at made
    · have written := Option.some.inj made
      -- Back through the stages: one label, which is empty, from one piece, which is; so there was nothing to cut.
      have filled : labels ≠ [] := by
        rintro rfl
        exact splitAt_ne_nil _ _ (List.map_eq_nil_iff.mp read)
      rw [intercalate_eq_nil_iff (by simpa using filled)] at written
      obtain ⟨label, rfl, nothing⟩ := List.map_eq_singleton_iff.mp written
      obtain ⟨piece, whole, same⟩ := List.map_eq_singleton_iff.mp read
      rw [writeLabel_eq_nil_iff.mp nothing, readLabel?_eq_some_nil_iff] at same
      rw [same, splitAt_eq_singleton_nil_iff, normalize_eq_nil_iff] at whole
      rw [found, whole]
    · contradiction
  · intro mapped
    have nothing : normalize [] = [] := normalize_eq_nil_iff.mpr rfl
    simp only [toAscii?, mapped, Option.bind_eq_bind, Option.bind_some, nothing]
    rfl

theorem IsIgnored.not_ascii {c : Char} (ignored : IsIgnored c) : ¬ c.toNat < 0x80 := by
  intro small
  have all : ∀ n < 0x80, ¬ IsIgnored (Char.ofNat n) := by decide +kernel
  refine all c.toNat small ?_
  rwa [Char.ofNat_toNat]

end Idna

namespace Host

variable {host : Host}

/-- A host that is not empty, but of which nothing is left. -/
def Vanishes : Host → Prop
  | .text name => name ≠ "" ∧ ∀ c ∈ name.toList, Idna.IsIgnored c
  | _ => False

theorem encode_eq_nil_iff {name : String} (given : name ≠ "") :
    encode name = .ok [] ↔ ∀ c ∈ name.toList, Idna.IsIgnored c := by
  unfold encode
  split
  · next ascii =>
    rw [Except.ok.injEq, Text.toBytes_eq_nil_iff]
    refine iff_of_false given fun ignored => ?_
    obtain ⟨c, member⟩ := List.exists_mem_of_ne_nil _ (String.toList_eq_nil_iff.not.mpr given)
    exact (ignored c member).not_ascii (of_decide_eq_true (List.all_eq_true.mp ascii c member))
  · rw [← Idna.toAscii?_eq_some_nil_iff]
    cases Idna.toAscii? name.toList with
    | none => simp
    | some encoded =>
      rw [Except.ok.injEq, Text.toBytes_eq_nil_iff, Option.some.injEq, ← String.toList_eq_nil_iff,
        String.toList_ofList]

theorem vanishes_iff : host.Vanishes ↔ host.isEmpty = false ∧ host.toBytes = .ok [] := by
  cases host with
  | text name =>
    have given : (Host.text name).isEmpty = false ↔ name ≠ "" := by simp [isEmpty]
    rw [given]
    exact and_congr_right fun given => (encode_eq_nil_iff given).symm
  | bytes name => simp [Vanishes, isEmpty, toBytes]
  | absent => simp [Vanishes, toBytes]
  | unsupported typeName => simp [Vanishes, toBytes]

end Host

end HostLookup
