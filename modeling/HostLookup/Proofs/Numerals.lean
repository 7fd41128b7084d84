import HostLookup.Text.Numeral
import HostLookup.Text.Utf8
import Mathlib.Data.List.TakeWhile
import Mathlib.Tactic.IntervalCases

/-! Numerals are read as they are written. What is written for a number, in either base, is one run of digits that
has its value; and a text in ASCII comes back from its bytes. -/
namespace HostLookup.Text

def Stops {α : Type} (p : α → Bool) (rest : List α) : Prop :=
  ∀ head ∈ rest.head?, p head = false

namespace Stops

variable {α : Type} {p : α → Bool} {run rest : List α}

theorem nil : Stops p [] := by
  simp [Stops]

theorem cons {head : α} (other : p head = false) : Stops p (head :: rest) := by
  simpa [Stops] using other

theorem takeWhile_eq (stops : Stops p rest) (all : ∀ a ∈ run, p a = true) : (run ++ rest).takeWhile p = run := by
  rw [List.takeWhile_append_of_pos all]
  cases rest with
  | nil => simp
  | cons head rest => rw [List.takeWhile_cons_of_neg (by simp [stops head rfl]), List.append_nil]

theorem dropWhile_eq (stops : Stops p rest) (all : ∀ a ∈ run, p a = true) : (run ++ rest).dropWhile p = rest := by
  rw [List.dropWhile_append_of_pos all]
  cases rest with
  | nil => rfl
  | cons head rest => exact List.dropWhile_cons_of_neg (by simp [stops head rfl])

end Stops

namespace Numeral

theorem digitValue_digit : ∀ n < 10, digitValue (digit n) = some n := by
  decide

theorem hexValue_hexDigit : ∀ n < 16, hexValue (hexDigit n) = some n := by
  decide

theorem ascii_of_hexValue {c : Char} (digit : (hexValue c).isSome) : c.toNat < 0x80 := by
  have bound : ∀ {last : Char}, c ≤ last → c.toNat ≤ last.toNat := fun le => le
  unfold hexValue at digit
  split at digit
  · next decimal =>
    simp only [Bool.and_eq_true, decide_eq_true_eq] at decimal
    exact (bound decimal.2).trans_lt (by decide)
  · split at digit
    · next lower =>
      simp only [Bool.and_eq_true, decide_eq_true_eq] at lower
      exact (bound lower.2).trans_lt (by decide)
    · split at digit
      · next upper =>
        simp only [Bool.and_eq_true, decide_eq_true_eq] at upper
        exact (bound upper.2).trans_lt (by decide)
      · contradiction

theorem isSome_hexValue {c : Char} (digit : (digitValue c).isSome) : (hexValue c).isSome := by
  unfold digitValue at digit
  split at digit
  · next decimal => simp [hexValue, decimal]
  · contradiction

/-! What is written for a number. -/

/-- The numeral of a number: a digit, or its last digit after the numeral of what is left without that. -/
inductive Written (base : Nat) (digit : Nat → Char) : Nat → List Char → Prop
  | single {n : Nat} (small : n < base) : Written base digit n [digit n]
  | more {n : Nat} {front : List Char} (large : base ≤ n) (rest : Written base digit (n / base) front) :
      Written base digit n (front ++ [digit (n % base)])

theorem written_decimal (n : Nat) : Written 10 digit n (decimal n) := by
  induction n using Nat.strong_induction_on with
  | _ n ih =>
    rw [decimal]
    split
    · next small => exact .single small
    · next large => exact .more (Nat.not_lt.mp large) (ih (n / 10) (by omega))

theorem written_hexadecimal (n : Nat) : Written 16 hexDigit n (hexadecimal n) := by
  induction n using Nat.strong_induction_on with
  | _ n ih =>
    rw [hexadecimal]
    split
    · next small => exact .single small
    · next large => exact .more (Nat.not_lt.mp large) (ih (n / 16) (by omega))

namespace Written

variable {base : Nat} {digit : Nat → Char} {n : Nat} {cs : List Char}

theorem ne_nil (written : Written base digit n cs) : cs ≠ [] := by
  cases written <;> simp

theorem base_pos (written : Written base digit n cs) : 0 < base := by
  induction written with
  | single small => omega
  | more large rest ih => exact ih

theorem digits (written : Written base digit n cs) {good : Char → Prop} (all : ∀ d < base, good (digit d)) :
    ∀ c ∈ cs, good c := by
  induction written with
  | single small => simpa using all _ small
  | @more n front large rest ih =>
    have last := all (n % base) (Nat.mod_lt n rest.base_pos)
    simpa [or_imp, forall_and] using ⟨ih, last⟩

theorem length_le (written : Written base digit n cs) {k : Nat} (bound : n < base ^ (k + 1)) :
    cs.length ≤ k + 1 := by
  induction written generalizing k with
  | single small => simp
  | more large rest ih =>
    cases k with
    | zero => exact absurd large (Nat.not_le.mpr (by simpa using bound))
    | succ k =>
      have shorter := ih (Nat.div_lt_of_lt_mul (by rwa [Nat.pow_succ'] at bound))
      simpa using shorter

theorem head? (written : Written base digit n cs) (positive : 0 < n) :
    ∃ d, 0 < d ∧ d < base ∧ cs.head? = some (digit d) := by
  induction written with
  | @single n small => exact ⟨n, positive, small, rfl⟩
  | more large rest ih =>
    obtain ⟨d, other, small, first⟩ := ih (Nat.div_pos large rest.base_pos)
    exact ⟨d, other, small, by rw [List.head?_append, first, Option.some_or]⟩

end Written

theorem digits_decimal (n : Nat) : ∀ c ∈ decimal n, (digitValue c).isSome :=
  (written_decimal n).digits fun d small => by
    rw [digitValue_digit d small]
    rfl

theorem digits_hexadecimal (n : Nat) : ∀ c ∈ hexadecimal n, (hexValue c).isSome :=
  (written_hexadecimal n).digits fun d small => by
    rw [hexValue_hexDigit d small]
    rfl

theorem valueFrom_append (read : Nat) (front : List Char) (c : Char) :
    valueFrom read (front ++ [c]) =
      (valueFrom read front).bind fun value => (digitValue c).map fun d => value * 10 + d := by
  induction front generalizing read with
  | nil => cases digit : digitValue c <;> simp [valueFrom, digit]
  | cons head rest ih =>
    cases digit : digitValue head with
    | none => simp [valueFrom, digit]
    | some d => simp [valueFrom, digit, ih]

theorem valueFrom_of_written {n : Nat} {cs : List Char} (written : Written 10 digit n cs) :
    valueFrom 0 cs = some n := by
  induction written with
  | @single n small => simp [valueFrom, digitValue_digit n small]
  | @more n front large rest ih =>
    rw [valueFrom_append, ih, digitValue_digit (n % 10) (Nat.mod_lt n (by omega))]
    simp only [Option.bind_some, Option.map_some, Option.some.injEq]
    omega

theorem natural?_eq {cs : List Char} (some_ : cs ≠ []) : natural? cs = valueFrom 0 cs := by
  cases cs with
  | nil => contradiction
  | cons c rest => rfl

theorem natural?_decimal (n : Nat) : natural? (decimal n) = some n := by
  rw [natural?_eq (written_decimal n).ne_nil, valueFrom_of_written (written_decimal n)]

theorem head?_decimal {n : Nat} (positive : 0 < n) : (decimal n).head? ≠ some '0' := by
  obtain ⟨d, other, small, first⟩ := (written_decimal n).head? positive
  rw [first]
  interval_cases d <;> decide

/-! Numerals of numbers with a sign. -/

def IsMark (c : Char) : Prop :=
  c = '-' ∨ ∃ d < 10, c = digit d

theorem isMark_decimal (n : Nat) : ∀ c ∈ decimal n, IsMark c :=
  (written_decimal n).digits fun d small => .inr ⟨d, small, rfl⟩

theorem isMark_signedDecimal (n : Int) : ∀ c ∈ signedDecimal n, IsMark c := by
  cases n with
  | ofNat n => exact isMark_decimal n
  | negSucc n => exact List.forall_mem_cons.mpr ⟨.inl rfl, isMark_decimal (n + 1)⟩

theorem signedDecimal_eq_cons (n : Int) : ∃ c rest, signedDecimal n = c :: rest ∧ IsMark c := by
  have marks := isMark_signedDecimal n
  cases numeral : signedDecimal n with
  | nil =>
    cases n with
    | ofNat n => exact absurd numeral (written_decimal n).ne_nil
    | negSucc n => contradiction
  | cons c rest => exact ⟨c, rest, rfl, marks c (by simp [numeral])⟩

namespace IsMark

variable {c : Char}

theorem holds (mark : IsMark c) (good : Char → Prop) (minus : good '-') (digits : ∀ d < 10, good (digit d)) :
    good c := by
  rcases mark with rfl | ⟨d, small, rfl⟩
  · exact minus
  · exact digits d small

theorem ascii (mark : IsMark c) : c.toNat < 0x80 :=
  mark.holds (·.toNat < 0x80) (by decide) (by decide)

theorem ne_plus (mark : IsMark c) : c ≠ '+' :=
  mark.holds (· ≠ '+') (by decide) (by decide)

end IsMark

theorem natural?_signedDecimal (n : Int) : natural? (signedDecimal n) = if 0 ≤ n then some n.toNat else none := by
  cases n with
  | ofNat n =>
    rw [signedDecimal, natural?_decimal]
    simp
  | negSucc n =>
    have negative : natural? ('-' :: decimal (n + 1)) = none := rfl
    rw [signedDecimal, negative, if_neg (by omega)]

theorem unsigned?_signedDecimal (n : Int) (most : Nat) :
    unsigned? most (signedDecimal n) = if 0 ≤ n ∧ n ≤ most then some n.toNat else none := by
  obtain ⟨c, rest, numeral, mark⟩ := signedDecimal_eq_cons n
  have read : unsigned? most (signedDecimal n) = (natural? (signedDecimal n)).filter (· ≤ most) := by
    unfold unsigned?
    rw [numeral]
    split
    · next plus => exact absurd (List.cons.inj plus).1 mark.ne_plus
    · rfl
  rw [read, natural?_signedDecimal]
  by_cases negative : n < 0
  · rw [if_neg (by omega), if_neg (by omega), Option.filter_none]
  · rw [if_pos (by omega)]
    by_cases small : n ≤ most
    · rw [if_pos ⟨by omega, small⟩, Option.filter_some_pos (by simpa using small)]
    · rw [if_neg (by omega), Option.filter_some_neg (by simpa using small)]

end Numeral

/-! Texts in ASCII. -/

theorem toBytes_cons {c : Char} (ascii : c.toNat < 0x80) (rest : List Char) :
    toBytes (String.ofList (c :: rest)) = UInt8.ofNat c.toNat :: toBytes (String.ofList rest) := by
  have one : String.utf8EncodeChar c = [UInt8.ofNat c.toNat] := if_pos (Nat.le_of_lt_succ ascii)
  simp [toBytes, one]

theorem pieces_cons {lead : UInt8} (low : lead < 0x80) (rest : Bytes) :
    pieces (lead :: rest) = some (Char.ofNat lead.toNat) :: pieces rest := by
  rw [pieces.eq_def]
  exact if_pos low

theorem pieces_toBytes {cs : List Char} (ascii : ∀ c ∈ cs, c.toNat < 0x80) :
    pieces (toBytes (String.ofList cs)) = cs.map some := by
  induction cs with
  | nil => simp [toBytes, pieces]
  | cons c rest ih =>
    have small : c.toNat < 0x80 := ascii c List.mem_cons_self
    have byte : (UInt8.ofNat c.toNat).toNat = c.toNat := UInt8.toNat_ofNat_of_lt' (small.trans (by decide))
    have low : UInt8.ofNat c.toNat < 0x80 := by
      rw [UInt8.lt_iff_toNat_lt, byte]
      exact small
    rw [toBytes_cons small, pieces_cons low, byte, Char.ofNat_toNat,
      ih fun d member => ascii d (List.mem_cons_of_mem c member)]
    rfl

theorem Numeral.isAscii_ofInt (n : Int) : isAscii (ofInt n) = true := by
  have ascii : ∀ c ∈ signedDecimal n, c.toNat < 0x80 := fun c member => (isMark_signedDecimal n c member).ascii
  simpa [isAscii, ofInt] using ascii

variable {text : String}

theorem pieces_of_isAscii (ascii : isAscii text = true) : pieces (toBytes text) = text.toList.map some := by
  have each : ∀ c ∈ text.toList, c.toNat < 0x80 := by
    simpa [isAscii] using ascii
  have cut := pieces_toBytes each
  rwa [String.ofList_toList] at cut

theorem ofBytes?_toBytes (ascii : isAscii text = true) : ofBytes? (toBytes text) = some text := by
  have whole : (text.toList.map some).mapM id = some text.toList := by
    rw [List.mapM_map]
    exact List.mapM_pure.trans (by simp)
  rw [ofBytes?, pieces_of_isAscii ascii, whole, Option.map_some, String.ofList_toList]

theorem ofBytesLossy_toBytes (ascii : isAscii text = true) : ofBytesLossy (toBytes text) = text := by
  rw [ofBytesLossy, pieces_of_isAscii ascii]
  simp

end HostLookup.Text
