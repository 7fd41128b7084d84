import HostLookup.Proofs.ServiceTexts
import HostLookup.Proofs.Utf8
import Mathlib.Data.Nat.Digits.Defs

/-! The grammar of services. A service is a decimal numeral, or the name of an entry of the table in any case; what it
stands for is not in doubt, and a numeral past the last port stands for nothing. -/
namespace HostLookup
open Text

namespace Text.Numeral

def value (digits : List Char) : Nat :=
  Nat.ofDigits 10 (digits.reverse.map fun c => c.toNat - '0'.toNat)

/-- One or more decimal digits, with an optional plus sign. -/
def Spells (cs : List Char) (n : Nat) : Prop :=
  ∃ digits, (cs = digits ∨ cs = '+' :: digits) ∧ digits ≠ [] ∧ (∀ c ∈ digits, c.isDigit = true) ∧ value digits = n

variable {cs : List Char} {c : Char} {n : Nat}

theorem value_append (front : List Char) (c : Char) :
    value (front ++ [c]) = value front * 10 + (c.toNat - '0'.toNat) := by
  simp only [value, List.reverse_append, List.reverse_singleton, List.singleton_append, List.map_cons,
    Nat.ofDigits_cons]
  omega

theorem digitValue_eq (c : Char) : digitValue c = if c.isDigit then some (c.toNat - '0'.toNat) else none := by
  have same : ('0' ≤ c && c ≤ '9') = c.isDigit := rfl
  rw [digitValue, same]
  rfl

theorem valueFrom_eq_some_iff : valueFrom 0 cs = some n ↔ (∀ c ∈ cs, c.isDigit = true) ∧ value cs = n := by
  -- From the end: what a digit stands for depends on how many come after it, and the last one has none.
  induction cs using List.reverseRecOn generalizing n with
  | nil => simp [valueFrom, value]
  | append_singleton front c ih =>
    simp only [valueFrom_append, value_append, Option.bind_eq_some_iff, Option.map_eq_some_iff, ih, digitValue_eq]
    by_cases digit : c.isDigit <;> simp [digit, or_imp, forall_and]

theorem natural?_eq_some_iff :
    natural? cs = some n ↔ cs ≠ [] ∧ (∀ c ∈ cs, c.isDigit = true) ∧ value cs = n := by
  cases cs with
  | nil => simp [natural?]
  | cons c rest =>
    rw [natural?_eq (List.cons_ne_nil c rest), valueFrom_eq_some_iff]
    simp

theorem unsigned?_eq_some_iff {most : Nat} : unsigned? most cs = some n ↔ Spells cs n ∧ n ≤ most := by
  unfold unsigned? Spells
  rw [Option.filter_eq_some_iff, natural?_eq_some_iff, decide_eq_true_eq]
  refine and_congr_left fun _ => ?_
  split
  · next rest =>
    constructor
    · exact fun read => ⟨rest, .inr rfl, read⟩
    · rintro ⟨digits, rfl | same, given, all, read⟩
      · exact absurd (all '+' List.mem_cons_self) (by decide)
      · obtain rfl := (List.cons.inj same).2
        exact ⟨given, all, read⟩
  · next plain =>
    constructor
    · exact fun read => ⟨_, .inl rfl, read⟩
    · rintro ⟨digits, rfl | rfl, read⟩
      · exact read
      · exact absurd rfl (plain digits)

theorem Spells.unique {m : Nat} (spells : Spells cs n) (again : Spells cs m) : n = m := by
  have one := unsigned?_eq_some_iff.mpr ⟨spells, Nat.le_max_left n m⟩
  have other := unsigned?_eq_some_iff.mpr ⟨again, Nat.le_max_right n m⟩
  exact Option.some.inj (one.symm.trans other)

theorem isMark_of_isDigit (decimal : c.isDigit = true) : IsMark c := by
  have bounds : ('0' ≤ c && c ≤ '9') = true := decimal
  simp only [Bool.and_eq_true, decide_eq_true_eq] at bounds
  have least : 48 ≤ c.toNat := bounds.1
  have most : c.toNat ≤ 57 := bounds.2
  refine .inr ⟨c.toNat - 48, by omega, ?_⟩
  rw [digit, Nat.add_sub_cancel' least, Char.ofNat_toNat]

end Text.Numeral

namespace Service

/-- The ports that a text may stand for: the number that it spells, and, unless it has to be numeric, that of an entry
whose name it is but for the case of its letters. -/
inductive Reads (numericOnly : Bool) (text : String) : UInt16 → Prop
  | number {port : UInt16} (spells : Numeral.Spells text.toList port.toNat) : Reads numericOnly text port
  | name {entry : String × UInt16} (free : numericOnly = false) (member : entry ∈ table)
      (same : entry.1.toList.map Char.toLower = text.toList.map Char.toLower) : Reads numericOnly text entry.2

variable {numericOnly : Bool} {service : Bytes} {text : String} {port : UInt16}

theorem sameName_iff {a b : String} : sameName a b = true ↔ a.toList.map Char.toLower = b.toList.map Char.toLower :=
  beq_iff_eq

theorem eq_of_same_name : ∀ entry ∈ table, ∀ other ∈ table,
    entry.1.toList.map Char.toLower = other.1.toList.map Char.toLower → entry = other := by
  decide +kernel

theorem find?_eq_some_iff {entry : String × UInt16} : (table.find? fun entry => sameName entry.1 text) = some entry ↔
    entry ∈ table ∧ entry.1.toList.map Char.toLower = text.toList.map Char.toLower := by
  constructor
  · intro found
    have same := List.find?_some found
    exact ⟨List.mem_of_find?_eq_some found, sameName_iff.mp same⟩
  · rintro ⟨member, same⟩
    cases found : table.find? fun entry => sameName entry.1 text with
    | none => exact absurd (sameName_iff.mpr same) (List.find?_eq_none.mp found entry member)
    | some first =>
      have first_same := List.find?_some found
      rw [eq_of_same_name first (List.mem_of_find?_eq_some found) entry member
        ((sameName_iff.mp first_same).trans same.symm)]

theorem not_spells_of_same {entry : String × UInt16} {n : Nat} (member : entry ∈ table)
    (same : entry.1.toList.map Char.toLower = text.toList.map Char.toLower) : ¬ Numeral.Spells text.toList n := by
  rintro ⟨digits, shape, given, all, -⟩
  have alpha := isAlpha_names entry member
  rw [same] at alpha
  rcases shape with plain | plus
  · rw [plain] at alpha
    cases digits with
    | nil => contradiction
    | cons first rest =>
      rw [List.map_cons, List.head?_cons, Option.any_some,
        (Numeral.isMark_of_isDigit (all first List.mem_cons_self)).toLower_isAlpha] at alpha
      contradiction
  · rw [plus] at alpha
    contradiction

theorem toPort_of_spells (written : toBytes text = service) {n : Nat} (spells : Numeral.Spells text.toList n) :
    toPort numericOnly service = if n ≤ mostPort then .ok (.ofNat n) else .error .service := by
  have read : ofBytes? service = some text := ofBytes?_eq_some_iff.mpr written
  by_cases fits : n ≤ mostPort
  · simp only [toPort, read, Numeral.unsigned?_eq_some_iff.mpr ⟨spells, fits⟩, if_pos fits]
  · have number : Numeral.unsigned? mostPort text.toList = none :=
      Option.eq_none_iff_forall_ne_some.mpr fun m again => by
        obtain ⟨same, small⟩ := Numeral.unsigned?_eq_some_iff.mp again
        exact fits (spells.unique same ▸ small)
    have name : (table.find? fun entry => sameName entry.1 text) = none :=
      List.find?_eq_none.mpr fun entry member same => not_spells_of_same member (sameName_iff.mp same) spells
    simp only [toPort, read, number, name, if_neg fits, ite_self]

theorem toPort_eq_ok_iff :
    toPort numericOnly service = .ok port ↔ ∃ text, toBytes text = service ∧ Reads numericOnly text port := by
  constructor
  · intro read
    unfold toPort at read
    split at read
    · contradiction
    · next text text_read =>
      refine ⟨text, ofBytes?_eq_some_iff.mp text_read, ?_⟩
      split at read
      · next n number =>
        obtain ⟨spells, fits⟩ := Numeral.unsigned?_eq_some_iff.mp number
        obtain rfl := Except.ok.inj read
        refine .number ?_
        rwa [UInt16.toNat_ofNat_of_lt' (Nat.lt_succ_of_le fits)]
      · split at read
        · contradiction
        · next free =>
          split at read
          · next entry found =>
            obtain rfl := Except.ok.inj read
            obtain ⟨member, same⟩ := find?_eq_some_iff.mp found
            exact .name (Bool.eq_false_iff.mpr free) member same
          · contradiction
  · rintro ⟨text, written, reads⟩
    cases reads with
    | number spells =>
      have fits : port.toNat ≤ mostPort := Nat.le_of_lt_succ port.toNat_lt
      rw [toPort_of_spells written spells, if_pos fits, UInt16.ofNat_toNat]
    | @name entry free member same =>
      have number : Numeral.unsigned? mostPort text.toList = none :=
        Option.eq_none_iff_forall_ne_some.mpr fun m read =>
          not_spells_of_same member same (Numeral.unsigned?_eq_some_iff.mp read).1
      simp only [toPort, ofBytes?_eq_some_iff.mpr written, number, find?_eq_some_iff.mpr ⟨member, same⟩, free,
        Bool.false_eq_true, if_false]

theorem fault_of_toPort {fault : Fault} (refused : toPort numericOnly service = .error fault) : fault = .service := by
  unfold toPort at refused
  grind

/-- What a service stands for. A byte string has a port if and only if it is the encoding of a text that reads as that
port, a numeral or, unless it has to be numeric, the name of an entry in any case. All that has none is refused as a
service. A numeral has its own number for a port, or none where that is past the last port. -/
theorem toPort_grammar (numericOnly : Bool) (service : Bytes) :
    (∀ port, toPort numericOnly service = .ok port ↔ ∃ text, toBytes text = service ∧ Reads numericOnly text port) ∧
    (∀ fault, toPort numericOnly service = .error fault ↔
      fault = .service ∧ ¬ ∃ port text, toBytes text = service ∧ Reads numericOnly text port) ∧
    ∀ text n, toBytes text = service → Numeral.Spells text.toList n →
      toPort numericOnly service = if n ≤ 65535 then .ok (.ofNat n) else .error .service := by
  refine ⟨fun _ => toPort_eq_ok_iff, fun fault => ⟨fun refused => ⟨fault_of_toPort refused, ?_⟩, ?_⟩,
    fun text n written spells => toPort_of_spells written spells⟩
  · rintro ⟨port, reads⟩
    rw [toPort_eq_ok_iff.mpr reads] at refused
    contradiction
  · rintro ⟨rfl, unread⟩
    cases outcome : toPort numericOnly service with
    | ok port => exact absurd ⟨port, toPort_eq_ok_iff.mp outcome⟩ unread
    | error fault => rw [fault_of_toPort outcome]

theorem toPort_grammar_http :
    (Numeral.Spells "+0080".toList 80 ∧ toPort true (toBytes "+0080") = .ok 80) ∧
    (Numeral.Spells "65616".toList 65616 ∧ toPort false (toBytes "65616") = .error .service) ∧
    Reads false "HTTP" 80 ∧ toPort false (toBytes "HTTP") = .ok 80 := by
  have signed : Numeral.Spells "+0080".toList 80 := ⟨"0080".toList, by decide, by decide, List.all_eq_true.mp (by decide), by decide⟩
  have large : Numeral.Spells "65616".toList 65616 := ⟨"65616".toList, by decide, by decide, List.all_eq_true.mp (by decide), by decide⟩
  have named : Reads false "HTTP" 80 := @Reads.name false "HTTP" ("http", 80) rfl (by decide) (by decide)
  obtain ⟨-, -, numeral⟩ := toPort_grammar true (toBytes "+0080")
  obtain ⟨-, -, refused⟩ := toPort_grammar false (toBytes "65616")
  obtain ⟨read, -, -⟩ := toPort_grammar false (toBytes "HTTP")
  exact ⟨⟨signed, numeral _ _ rfl signed⟩, ⟨large, refused _ _ rfl large⟩, named, (read 80).mpr ⟨_, rfl, named⟩⟩

end Service

end HostLookup
