import HostLookup.Text.Packed
import HostLookup.Idna.PropertyTable

/-! The direction rule. In a name with a label that is written from right to left, every label keeps to
one direction from its first character to its last. -/
namespace HostLookup.Idna
open Text.Packed

inductive Direction where
  | left
  | right
  | arabicLetter
  | arabicNumber
  | europeanNumber
  | europeanSeparator
  | commonSeparator
  | europeanTerminator
  | otherNeutral
  | boundaryNeutral
  | nonspacingMark
  | other
deriving DecidableEq, Repr

namespace Direction

def ofClass : Nat → Direction
  | 1 => right
  | 2 => arabicLetter
  | 3 => arabicNumber
  | 4 => europeanNumber
  | 5 => europeanSeparator
  | 6 => commonSeparator
  | 7 => europeanTerminator
  | 8 => otherNeutral
  | 9 => boundaryNeutral
  | 10 => nonspacingMark
  | 11 => other
  | _ => left

def table : List (Interval × Nat) := classes directionRows

def ofChar (c : Char) : Direction :=
  ((classOf table c).map ofClass).getD left

/-- A character of this direction makes the direction rule apply to its name. -/
def turns (d : Direction) : Bool :=
  d == right || d == arabicLetter || d == arabicNumber

def isNeutral (d : Direction) : Bool :=
  d == europeanNumber || d == europeanSeparator || d == commonSeparator ||
    d == europeanTerminator || d == otherNeutral || d == boundaryNeutral || d == nonspacingMark

end Direction

open Direction

/-- The directions after the first of a label that runs left to right, last first and without the marks
at the end. -/
def keepsLeft : List Direction → Bool
  | [] => true
  | last :: before =>
    (last == left || last == europeanNumber) && before.all fun d => d == left || d.isNeutral

def keepsRight : List Direction → Bool
  | [] => true
  | last :: before =>
    (last.turns || last == europeanNumber) &&
      (before.all fun d => d.turns || d.isNeutral) &&
      !((last :: before).contains europeanNumber && (last :: before).contains arabicNumber)

def keepsDirection (label : List Char) : Bool :=
  match label.map Direction.ofChar with
  | [] => true
  | first :: rest =>
    let core := rest.reverse.dropWhile (· == nonspacingMark)
    if first == left then keepsLeft core
    else (first == right || first == arabicLetter) && keepsRight core

def directionsFit (labels : List (List Char)) : Bool :=
  if labels.any fun label => label.any fun c => (Direction.ofChar c).turns then
    labels.all keepsDirection
  else true

end HostLookup.Idna
