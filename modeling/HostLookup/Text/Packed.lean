/-! Tables of code points, packed. A row is one number whose digits, in a base that is a power of
two, are the fields of the row in the order in which they are written, so a table of thousands of
fields is a short list of numerals and a single look-up unpacks no more rows than it passes. -/
namespace HostLookup.Text.Packed

/-- The digits of `row` in base `2 ^ (width + 1)`, the most significant first, put before `after`. -/
def fieldsOnto (width row : Nat) (after : List Nat) : List Nat :=
  if row = 0 then after
  else fieldsOnto width (row / Nat.pow 2 (width + 1)) (row % Nat.pow 2 (width + 1) :: after)
termination_by row
decreasing_by exact Nat.div_lt_self (by omega) (Nat.one_lt_two_pow (by omega))

/-- The fields of a row, each of `bits` bits; `bits` is positive in every table. -/
def fields (bits row : Nat) : List Nat :=
  fieldsOnto (bits - 1) row []

structure Interval where
  first : Nat
  last : Nat
deriving DecidableEq, Repr

namespace Interval

def contains (i : Interval) (c : Char) : Bool :=
  i.first ≤ c.toNat && c.toNat ≤ i.last

def ofField (field : Nat) : Interval :=
  ⟨field >>> 24, field % Nat.pow 2 24⟩

end Interval

def intervals (rows : List Nat) : List Interval :=
  rows.flatMap fun row => (fields 48 row).map .ofField

/-- The first entry that holds, in a table sorted by where its entries start; the search ends at the
first entry that starts behind `n`. -/
def seek {α : Type} (start : α → Nat) (holds : α → Bool) (n : Nat) : List α → Option α
  | [] => none
  | entry :: rest =>
    if n < start entry then none
    else if holds entry then some entry
    else seek start holds n rest

def covers (table : List Interval) (c : Char) : Bool :=
  (seek Interval.first (·.contains c) c.toNat table).isSome

def ofClassField (field : Nat) : Interval × Nat :=
  (⟨field >>> 32, (field >>> 8) % Nat.pow 2 24⟩, field % Nat.pow 2 8)

def classes (rows : List Nat) : List (Interval × Nat) :=
  rows.flatMap fun row => (fields 56 row).map ofClassField

def classOf (table : List (Interval × Nat)) (c : Char) : Option Nat :=
  (seek (·.1.first) (·.1.contains c) c.toNat table).map (·.2)

/-- Entries of seven-digit fields. The first field of an entry is a code point, with the number of
fields that follow it above its twenty-one bits; those fields are its text. -/
def entriesFrom : List Nat → List (Nat × List Nat)
  | [] => []
  | head :: rest =>
    (head % Nat.pow 2 21, rest.take (head >>> 21)) :: entriesFrom (rest.drop (head >>> 21))
termination_by fields => fields.length
decreasing_by simp only [List.length_drop, List.length_cons]; omega

def entries (rows : List Nat) : List (Nat × List Nat) :=
  rows.flatMap fun row => entriesFrom (fields 28 row)

def textOf (table : List (Nat × List Nat)) (c : Char) : Option (List Char) :=
  (seek (·.1) (·.1 == c.toNat) c.toNat table).map fun entry => entry.2.map Char.ofNat

end HostLookup.Text.Packed
