import HostLookup.Settings.Duration

/-! Seconds as a number in decimal or scientific notation. The number is read as a binary one of fifty-
three bits, and that is rounded to nanoseconds; of two equally near values the even one is taken. -/
namespace HostLookup.Seconds
open Text

/-- The whole number nearest to a quotient; a half goes to the even neighbour. -/
def roundDiv (num den : Nat) : Nat :=
  let low := num / den
  let twice := 2 * (num % den)
  if twice < den || (twice = den && low % 2 = 0) then low else low + 1

/-- A fraction that is no number of its own: `significand * 10 ^ exponent`. -/
structure Scientific where
  negative : Bool
  significand : Nat
  exponent : Int

def Scientific.ratio (s : Scientific) : Nat × Nat :=
  (s.significand * Nat.pow 10 s.exponent.toNat, Nat.pow 10 (-s.exponent).toNat)

/-- The nearest number with fifty-three binary places, as numerator and denominator. -/
def nearestBinary (num den : Nat) : Nat × Nat :=
  let guess : Int := (num.log2 : Int) - den.log2 - 53
  let scaled (shift : Int) : Nat × Nat := (num * Nat.pow 2 (-shift).toNat, den * Nat.pow 2 shift.toNat)
  let shift := if (scaled guess).2 * Nat.pow 2 53 ≤ (scaled guess).1 then guess + 1 else guess
  (roundDiv (scaled shift).1 (scaled shift).2 * Nat.pow 2 shift.toNat, Nat.pow 2 (-shift).toNat)

/-- A negative number counts only if it does not round to zero. -/
def roundsToZero (s : Scientific) : Bool :=
  let magnitude : Int := (Numeral.decimal s.significand).length + s.exponent
  if s.significand = 0 || magnitude < -400 then true
  else if -300 < magnitude then false
  else s.ratio.1 * Nat.pow 2 1075 ≤ s.ratio.2

def toDuration? (s : Scientific) : Option Duration :=
  let magnitude : Int := (Numeral.decimal s.significand).length + s.exponent
  if s.negative && !roundsToZero s then none
  else if s.significand = 0 || magnitude < -12 then some ⟨0⟩
  else if 20 < magnitude then none
  else
    let (num, den) := nearestBinary s.ratio.1 s.ratio.2
    if den * Nat.pow 2 64 ≤ num then none else some ⟨roundDiv (num * Duration.second) den⟩

def isDigit (c : Char) : Bool :=
  (Numeral.digitValue c).isSome

def readExponent : List Char → Option Int
  | [] => some 0
  | mark :: rest =>
    if mark = 'e' || mark = 'E' then
      match rest with
      | '-' :: digits => (Numeral.natural? digits).map fun n => -(n : Int)
      | '+' :: digits => (Numeral.natural? digits).map fun n => (n : Int)
      | digits => (Numeral.natural? digits).map fun n => (n : Int)
    else none

def readUnsigned (negative : Bool) (cs : List Char) : Option Scientific :=
  let whole := cs.takeWhile isDigit
  let rest := cs.dropWhile isDigit
  let (fraction, rest) := match rest with
    | '.' :: rest => (rest.takeWhile isDigit, rest.dropWhile isDigit)
    | rest => ([], rest)
  match Numeral.natural? (whole ++ fraction), readExponent rest with
  | some significand, some exponent => some ⟨negative, significand, exponent - fraction.length⟩
  | _, _ => none

def read (cs : List Char) : Option Scientific :=
  match cs with
  | '-' :: rest => readUnsigned true rest
  | '+' :: rest => readUnsigned false rest
  | rest => readUnsigned false rest

/-- The words for infinity and for no number name no span of time, and are refused as any other text
is. -/
def parse? (cs : List Char) : Option Duration :=
  (read cs).bind toDuration?

end HostLookup.Seconds
