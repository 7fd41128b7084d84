import HostLookup.Proofs.Numerals
import Mathlib.Data.List.Basic

/-! Text and bytes, both ways. A byte string is read as a text if and only if it is the encoding of the text: no byte
string stands for two texts, and none is a text that is written in another way. -/
namespace HostLookup.Text

def Continues (byte : UInt8) : Prop :=
  0x80 ≤ byte.toNat ∧ byte.toNat ≤ 0xBF

/-- The bytes of a character beyond ASCII. What could be written with fewer bytes, a surrogate, and what is past the
last code point have none. -/
inductive IsSequence : UInt8 → Bytes → Prop
  | two {lead second : UInt8} (first : 0xC2 ≤ lead.toNat ∧ lead.toNat ≤ 0xDF) (continues : Continues second) :
      IsSequence lead [second]
  | three {lead second third : UInt8} (first : 0xE0 ≤ lead.toNat ∧ lead.toNat ≤ 0xEF) (continues : Continues second)
      (long : lead.toNat = 0xE0 → 0xA0 ≤ second.toNat) (scalar : lead.toNat = 0xED → second.toNat ≤ 0x9F)
      (last : Continues third) : IsSequence lead [second, third]
  | four {lead second third fourth : UInt8} (first : 0xF0 ≤ lead.toNat ∧ lead.toNat ≤ 0xF4)
      (continues : Continues second) (long : lead.toNat = 0xF0 → 0x90 ≤ second.toNat)
      (scalar : lead.toNat = 0xF4 → second.toNat ≤ 0x8F) (next : Continues third) (last : Continues fourth) :
      IsSequence lead [second, third, fourth]

theorem continuation_eq (lead : UInt8) : continuation lead =
    if 0xC2 ≤ lead.toNat ∧ lead.toNat ≤ 0xDF then some (0x80, 0xBF, 0)
    else if 0xE0 ≤ lead.toNat ∧ lead.toNat ≤ 0xEF then
      some (if lead.toNat = 0xE0 then 0xA0 else 0x80, if lead.toNat = 0xED then 0x9F else 0xBF, 1)
    else if 0xF0 ≤ lead.toNat ∧ lead.toNat ≤ 0xF4 then
      some (if lead.toNat = 0xF0 then 0x90 else 0x80, if lead.toNat = 0xF4 then 0x8F else 0xBF, 2)
    else none := by
  have all : ∀ n < 256, continuation (.ofNat n) =
    if 0xC2 ≤ n ∧ n ≤ 0xDF then some (0x80, 0xBF, 0)
    else if 0xE0 ≤ n ∧ n ≤ 0xEF then
      some (if n = 0xE0 then 0xA0 else 0x80, if n = 0xED then 0x9F else 0xBF, 1)
    else if 0xF0 ≤ n ∧ n ≤ 0xF4 then
      some (if n = 0xF0 then 0x90 else 0x80, if n = 0xF4 then 0x8F else 0xBF, 2)
    else none := by decide +kernel
  have own := all lead.toNat lead.toNat_lt
  rwa [UInt8.ofNat_toNat] at own

theorem isTrailing_iff {byte : UInt8} : isTrailing byte = true ↔ Continues byte := by
  simp [isTrailing, Continues, UInt8.le_iff_toNat_le]

variable {lead : UInt8} {following rest bytes : Bytes} {c : Char}

theorem not_lt_of_continuation {bounds : UInt8 × UInt8 × Nat} (begins : continuation lead = some bounds) :
    ¬ lead < 0x80 := by
  rw [continuation_eq] at begins
  rw [UInt8.lt_iff_toNat_lt]
  have least : 0xC2 ≤ lead.toNat := by
    split at begins
    · next two => exact two.1
    · split at begins
      · next three => omega
      · split at begins
        · next four => omega
        · contradiction
  exact Nat.not_lt.mpr (le_trans (by decide) least)

theorem pieces_lead {second low high : UInt8} {more : Nat} {last : Bytes}
    (begins : continuation lead = some (low, high, more)) (bounds : low ≤ second ∧ second ≤ high)
    (trailing : ∀ byte ∈ last, isTrailing byte = true) (count : last.length = more) (rest : Bytes) :
    pieces (lead :: second :: (last ++ rest)) = some (assemble lead (second :: last)) :: pieces rest := by
  have whole : ((last ++ rest).take more).takeWhile isTrailing = last := by
    rw [← count, List.take_left, List.takeWhile_eq_self_iff.mpr trailing]
  rw [pieces.eq_def]
  simp only [if_neg (not_lt_of_continuation begins), begins, bounds, decide_true, Bool.and_self, if_true, whole, count]
  rw [← count, List.drop_left]

theorem le_toNat_ite {p : Prop} [Decidable p] {n : Nat} {a b : UInt8} (both : n ≤ a.toNat ∧ n ≤ b.toNat) :
    n ≤ (if p then a else b).toNat := by
  split
  · exact both.1
  · exact both.2

theorem toNat_ite_le {p : Prop} [Decidable p] {n : Nat} {a b : UInt8} (both : a.toNat ≤ n ∧ b.toNat ≤ n) :
    (if p then a else b).toNat ≤ n := by
  split
  · exact both.1
  · exact both.2

theorem IsSequence.begins {second : UInt8} {last : Bytes} (sequence : IsSequence lead (second :: last)) :
    ∃ low high, continuation lead = some (low, high, last.length) ∧ (low ≤ second ∧ second ≤ high) ∧
      ∀ byte ∈ last, isTrailing byte = true := by
  simp only [UInt8.le_iff_toNat_le, isTrailing_iff]
  cases sequence with
  | two first continues =>
    refine ⟨0x80, 0xBF, ?_, continues, by simp⟩
    rw [continuation_eq, if_pos first]
    rfl
  | @three _ third first continues long scalar last =>
    refine ⟨if lead.toNat = 0xE0 then 0xA0 else 0x80, if lead.toNat = 0xED then 0x9F else 0xBF, ?_, ⟨?_, ?_⟩,
      by simpa using last⟩
    · rw [continuation_eq, if_neg (by omega), if_pos first]
      rfl
    · split
      · next least => exact long least
      · exact continues.1
    · split
      · next surrogate => exact scalar surrogate
      · exact continues.2
  | @four _ third fourth first continues long scalar next last =>
    refine ⟨if lead.toNat = 0xF0 then 0x90 else 0x80, if lead.toNat = 0xF4 then 0x8F else 0xBF, ?_, ⟨?_, ?_⟩,
      by simpa using ⟨next, last⟩⟩
    · rw [continuation_eq, if_neg (by omega), if_neg (by omega), if_pos first]
      rfl
    · split
      · next least => exact long least
      · exact continues.1
    · split
      · next most => exact scalar most
      · exact continues.2

theorem isSequence_of_continuation {second low high : UInt8} {last : Bytes}
    (begins : continuation lead = some (low, high, last.length)) (bounds : low ≤ second ∧ second ≤ high)
    (trailing : ∀ byte ∈ last, isTrailing byte = true) : IsSequence lead (second :: last) := by
  obtain ⟨lower, upper⟩ := bounds
  simp only [UInt8.le_iff_toNat_le, isTrailing_iff] at lower upper trailing
  rw [continuation_eq] at begins
  split at begins
  · next two =>
    simp only [Option.some.injEq, Prod.mk.injEq] at begins
    obtain ⟨rfl, rfl, none⟩ := begins
    obtain rfl := List.eq_nil_of_length_eq_zero none.symm
    exact .two two ⟨lower, upper⟩
  · split at begins
    · next three =>
      simp only [Option.some.injEq, Prod.mk.injEq] at begins
      obtain ⟨rfl, rfl, one⟩ := begins
      obtain ⟨third, rfl⟩ := List.length_eq_one_iff.mp one.symm
      refine .three three ⟨?_, ?_⟩ (fun least => ?_) (fun surrogate => ?_) (trailing third (by simp))
      · exact (le_toNat_ite (by decide)).trans lower
      · exact upper.trans (toNat_ite_le (by decide))
      · rwa [if_pos least] at lower
      · rwa [if_pos surrogate] at upper
    · split at begins
      · next four =>
        simp only [Option.some.injEq, Prod.mk.injEq] at begins
        obtain ⟨rfl, rfl, two⟩ := begins
        obtain ⟨third, fourth, rfl⟩ := List.length_eq_two.mp two.symm
        refine .four four ⟨?_, ?_⟩ (fun least => ?_) (fun most => ?_) (trailing third (by simp))
          (trailing fourth (by simp))
        · exact (le_toNat_ite (by decide)).trans lower
        · exact upper.trans (toNat_ite_le (by decide))
        · rwa [if_pos least] at lower
        · rwa [if_pos most] at upper
      · contradiction

theorem utf8EncodeChar_eq (c : Char) : String.utf8EncodeChar c =
    if c.toNat ≤ 0x7F then [.ofNat c.toNat]
    else if c.toNat ≤ 0x7FF then [.ofNat (c.toNat / 64 % 32 + 0xC0), .ofNat (c.toNat % 64 + 0x80)]
    else if c.toNat ≤ 0xFFFF then
      [.ofNat (c.toNat / 4096 % 16 + 0xE0), .ofNat (c.toNat / 64 % 64 + 0x80), .ofNat (c.toNat % 64 + 0x80)]
    else
      [.ofNat (c.toNat / 262144 % 8 + 0xF0), .ofNat (c.toNat / 4096 % 64 + 0x80), .ofNat (c.toNat / 64 % 64 + 0x80),
        .ofNat (c.toNat % 64 + 0x80)] :=
  rfl

theorem toBytes_eq_nil_iff {text : String} : toBytes text = [] ↔ text = "" := by
  have filled (c : Char) : String.utf8EncodeChar c ≠ [] := by
    rw [utf8EncodeChar_eq]
    split_ifs <;> simp
  rw [toBytes, List.flatMap_eq_nil_iff, ← String.toList_eq_nil_iff]
  simp [filled, List.eq_nil_iff_forall_not_mem]

theorem toNat_ofNat_of_valid {n : Nat} (valid : n.isValidChar) : (Char.ofNat n).toNat = n := by
  rw [Char.ofNat, dif_pos valid]
  rfl

theorem ofNat_eq {n : Nat} (byte : UInt8) (same : n = byte.toNat) : UInt8.ofNat n = byte := by
  rw [same, UInt8.ofNat_toNat]

theorem utf8EncodeChar_assemble (sequence : IsSequence lead following) :
    String.utf8EncodeChar (assemble lead following) = lead :: following := by
  cases sequence with
  | @two second first continues =>
    obtain ⟨low, high⟩ := continues
    have point : (assemble lead [second]).toNat = lead.toNat % 32 * 64 + second.toNat % 64 :=
      toNat_ofNat_of_valid (.inl (by simp; omega))
    rw [utf8EncodeChar_eq, point, if_neg (by omega), if_pos (by omega), ofNat_eq lead (by omega),
      ofNat_eq second (by omega)]
  | @three second third first continues long scalar last =>
    obtain ⟨low, high⟩ := continues
    obtain ⟨least, most⟩ := last
    have point : (assemble lead [second, third]).toNat =
        (lead.toNat % 16 * 64 + second.toNat % 64) * 64 + third.toNat % 64 := by
      refine toNat_ofNat_of_valid ?_
      simp [Nat.isValidChar]
      omega
    rw [utf8EncodeChar_eq, point, if_neg (by omega), if_neg (by omega), if_pos (by omega), ofNat_eq lead (by omega),
      ofNat_eq second (by omega), ofNat_eq third (by omega)]
  | @four second third fourth first continues long scalar next last =>
    obtain ⟨low, high⟩ := continues
    obtain ⟨least, most⟩ := next
    obtain ⟨bottom, top⟩ := last
    have point : (assemble lead [second, third, fourth]).toNat =
        ((lead.toNat % 8 * 64 + second.toNat % 64) * 64 + third.toNat % 64) * 64 + fourth.toNat % 64 := by
      refine toNat_ofNat_of_valid ?_
      simp [Nat.isValidChar]
      omega
    rw [utf8EncodeChar_eq, point, if_neg (by omega), if_neg (by omega), if_neg (by omega), ofNat_eq lead (by omega),
      ofNat_eq second (by omega), ofNat_eq third (by omega), ofNat_eq fourth (by omega)]

theorem isSequence_utf8EncodeChar (c : Char) (beyond : 0x80 ≤ c.toNat) : ∃ lead following,
    String.utf8EncodeChar c = lead :: following ∧ IsSequence lead following ∧ assemble lead following = c := by
  have valid : c.toNat < 0xD800 ∨ 0xDFFF < c.toNat ∧ c.toNat < 0x110000 := c.valid
  have back {n : Nat} (same : n = c.toNat) : Char.ofNat n = c := by rw [same, Char.ofNat_toNat]
  have byte {n : Nat} (small : n < 256) : (UInt8.ofNat n).toNat = n := UInt8.toNat_ofNat_of_lt' small
  have last := byte (n := c.toNat % 64 + 0x80) (by omega)
  have middle := byte (n := c.toNat / 64 % 64 + 0x80) (by omega)
  rw [utf8EncodeChar_eq, if_neg (by omega)]
  by_cases two : c.toNat ≤ 0x7FF
  · rw [if_pos two]
    have first := byte (n := c.toNat / 64 % 32 + 0xC0) (by omega)
    refine ⟨_, _, rfl, .two (by omega) ⟨by omega, by omega⟩, back ?_⟩
    simp only [List.foldl, List.length_cons, List.length_nil, first, last, Nat.reduceAdd, Nat.reduceSub, Nat.pow_eq,
      Nat.reducePow]
    omega
  rw [if_neg two]
  by_cases three : c.toNat ≤ 0xFFFF
  · rw [if_pos three]
    have first := byte (n := c.toNat / 4096 % 16 + 0xE0) (by omega)
    refine ⟨_, _, rfl, .three (by omega) ⟨by omega, by omega⟩ (by omega) (by omega) ⟨by omega, by omega⟩, back ?_⟩
    simp only [List.foldl, List.length_cons, List.length_nil, first, middle, last, Nat.reduceAdd, Nat.reduceSub,
      Nat.pow_eq, Nat.reducePow]
    omega
  · rw [if_neg three]
    have first := byte (n := c.toNat / 262144 % 8 + 0xF0) (by omega)
    have second := byte (n := c.toNat / 4096 % 64 + 0x80) (by omega)
    refine ⟨_, _, rfl, .four (by omega) ⟨by omega, by omega⟩ (by omega) (by omega) ⟨by omega, by omega⟩
      ⟨by omega, by omega⟩, back ?_⟩
    simp only [List.foldl, List.length_cons, List.length_nil, first, second, middle, last, Nat.reduceAdd,
      Nat.reduceSub, Nat.pow_eq, Nat.reducePow]
    omega

theorem utf8EncodeChar_ofNat (low : lead < 0x80) : String.utf8EncodeChar (Char.ofNat lead.toNat) = [lead] := by
  have small : lead.toNat < 0x80 := UInt8.lt_iff_toNat_lt.mp low
  have point : (Char.ofNat lead.toNat).toNat = lead.toNat := toNat_ofNat_of_valid (.inl (by omega))
  rw [utf8EncodeChar_eq, point, if_pos (by omega), UInt8.ofNat_toNat]

theorem pieces_utf8EncodeChar (c : Char) (rest : Bytes) :
    pieces (String.utf8EncodeChar c ++ rest) = some c :: pieces rest := by
  by_cases ascii : c.toNat < 0x80
  · have byte : (UInt8.ofNat c.toNat).toNat = c.toNat := UInt8.toNat_ofNat_of_lt' (ascii.trans (by decide))
    have low : UInt8.ofNat c.toNat < 0x80 := by rwa [UInt8.lt_iff_toNat_lt, byte]
    rw [utf8EncodeChar_eq, if_pos (by omega), List.singleton_append, pieces_cons low, byte, Char.ofNat_toNat]
  · obtain ⟨lead, following, written, sequence, rfl⟩ := isSequence_utf8EncodeChar c (Nat.not_lt.mp ascii)
    cases following with
    | nil => nomatch sequence
    | cons second last =>
      obtain ⟨low, high, begins, bounds, trailing⟩ := sequence.begins
      rw [written, List.cons_append, List.cons_append, pieces_lead begins bounds trailing rfl]

theorem pieces_eq_cons {found : List (Option Char)} (read : pieces bytes = some c :: found) :
    ∃ rest, bytes = String.utf8EncodeChar c ++ rest ∧ pieces rest = found := by
  cases bytes with
  | nil => simp [pieces] at read
  | cons lead rest =>
    by_cases ascii : lead < 0x80
    · rw [pieces_cons ascii, List.cons.injEq, Option.some.injEq] at read
      obtain ⟨rfl, same⟩ := read
      exact ⟨rest, by rw [utf8EncodeChar_ofNat ascii, List.singleton_append], same⟩
    · rw [pieces.eq_def] at read
      simp only [if_neg ascii] at read
      split at read
      · next low high more second after begins =>
        split at read
        · next bounds =>
          rw [List.cons.injEq] at read
          obtain ⟨first, same⟩ := read
          split at first
          · next count =>
            obtain rfl := Option.some.inj first
            generalize taken : (after.take more).takeWhile isTrailing = last at count same
            have trailing : ∀ byte ∈ last, isTrailing byte = true := fun byte inside =>
              List.mem_takeWhile_imp (taken ▸ inside)
            -- what was taken is the start of what follows, so that the rest is what comes behind it
            have front : last <+: after := taken ▸ (List.takeWhile_prefix _).trans (List.take_prefix _ _)
            have sequence : IsSequence lead (second :: last) :=
              isSequence_of_continuation (count ▸ begins) (by simpa using bounds) trailing
            refine ⟨after.drop last.length, ?_, same⟩
            rw [utf8EncodeChar_assemble sequence, List.cons_append, List.cons_append,
              List.prefix_iff_eq_append.mp front]
          · contradiction
        · simp at read
      · simp at read

theorem pieces_eq_nil (read : pieces bytes = []) : bytes = [] := by
  cases bytes with
  | nil => rfl
  | cons lead rest =>
    rw [pieces.eq_def] at read
    dsimp only at read
    split at read
    · contradiction
    · split at read
      · split at read <;> contradiction
      · contradiction

theorem pieces_eq_map_iff {cs : List Char} : pieces bytes = cs.map some ↔ cs.flatMap String.utf8EncodeChar = bytes := by
  induction cs generalizing bytes with
  | nil =>
    constructor
    · exact fun read => (pieces_eq_nil read).symm
    · rintro rfl
      simp [pieces]
  | cons c cs ih =>
    constructor
    · intro read
      obtain ⟨rest, rfl, later⟩ := pieces_eq_cons read
      rw [List.flatMap_cons, ih.mp later]
    · rintro rfl
      rw [List.flatMap_cons, pieces_utf8EncodeChar, ih.mpr rfl, List.map_cons]

theorem mapM_eq_some_iff {α β : Type} {f : α → Option β} {items : List α} {all : List β} :
    items.mapM f = some all ↔ items.map f = all.map some := by
  induction items generalizing all with
  | nil => cases all <;> simp
  | cons first rest ih =>
    rw [List.mapM_cons, List.map_cons]
    cases f first with
    | none => cases all <;> simp
    | some b =>
      simp only [Option.bind_eq_bind, Option.bind_some, Option.bind_eq_some_iff, ih, Option.pure_def,
        Option.some.injEq]
      cases all with
      | nil => simp
      | cons other all => simp [and_comm, eq_comm]

/-- A byte string is read as a text if and only if it is the encoding of the text. -/
theorem ofBytes?_eq_some_iff {text : String} : ofBytes? bytes = some text ↔ toBytes text = bytes := by
  rw [toBytes, ← pieces_eq_map_iff, ofBytes?, Option.map_eq_some_iff]
  simp only [mapM_eq_some_iff, List.map_id]
  constructor
  · rintro ⟨all, read, rfl⟩
    rw [read, String.toList_ofList]
  · intro read
    exact ⟨text.toList, read, String.ofList_toList⟩

end HostLookup.Text
