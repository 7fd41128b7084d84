import HostLookup.Text.Packed
import HostLookup.Idna.NormalForm
import HostLookup.Idna.PropertyTable

/-! Where the two joiners may stand: after a virama, and the non-joiner also between letters that would
join, with transparent marks on either side left out. -/
namespace HostLookup.Idna
open Text.Packed

inductive Joining where
  | left
  | right
  | dual
  | transparent
  | causing
  | none
deriving DecidableEq, Repr

namespace Joining

def ofClass : Nat → Joining
  | 1 => left
  | 2 => right
  | 3 => dual
  | 4 => transparent
  | 5 => causing
  | _ => none

def table : List (Interval × Nat) := classes joiningRows

def ofChar (c : Char) : Joining :=
  ((classOf table c).map ofClass).getD none

end Joining

def nonJoiner : Char := '\u200C'
def joiner : Char := '\u200D'

def viramaClass : Nat := 9

def meets (one other : Joining) (cs : List Char) : Bool :=
  match cs.dropWhile (Joining.ofChar · == .transparent) with
  | [] => false
  | c :: _ => Joining.ofChar c == one || Joining.ofChar c == other

/-- Whether `c` may stand between `before`, which is last first, and `after`. -/
def joinerFits (before : List Char) (c : Char) (after : List Char) : Bool :=
  match before with
  | [] => false
  | last :: _ =>
    combiningClass last == viramaClass ||
      (c == nonJoiner && meets .left .dual before && meets .right .dual after)

def joinersFitFrom (before : List Char) : List Char → Bool
  | [] => true
  | c :: after =>
    (if c == joiner || c == nonJoiner then joinerFits before c after else true) &&
      joinersFitFrom (c :: before) after

def joinersFit (label : List Char) : Bool :=
  joinersFitFrom [] label

end HostLookup.Idna
