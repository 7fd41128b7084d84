import HostLookup.Text.Packed
import HostLookup.Idna.NormalTable

/-! Normalization Form C: every character is decomposed in full, marks are put in the order of their
combining classes, and each starter then takes up the marks that compose with it. Hangul syllables are
computed and not looked up. -/
namespace HostLookup.Idna
open Text.Packed

def decompositions : List (Nat × List Nat) := entries decompositionRows

def combiningClasses : List (Interval × Nat) := classes combiningRows

def compositions : List (Nat × Nat × Nat) :=
  compositionRows.flatMap fun row =>
    (fields 72 row).map fun field => (field >>> 48, (field >>> 24) % Nat.pow 2 24, field % Nat.pow 2 24)

def combiningClass (c : Char) : Nat :=
  (classOf combiningClasses c).getD 0

namespace Hangul

def syllableBase : Nat := 0xAC00
def leadBase : Nat := 0x1100
def vowelBase : Nat := 0x1161
/-- One below the first trailing consonant: offset zero stands for no consonant. -/
def tailBase : Nat := 0x11A7
def leadCount : Nat := 19
def vowelCount : Nat := 21
def tailCount : Nat := 28

def decompose? (n : Nat) : Option (List Nat) :=
  if syllableBase ≤ n && n < syllableBase + leadCount * vowelCount * tailCount then
    let index := n - syllableBase
    let tail := index % tailCount
    some ([leadBase + index / (vowelCount * tailCount),
        vowelBase + index % (vowelCount * tailCount) / tailCount] ++
      if tail = 0 then [] else [tailBase + tail])
  else none

def compose? (a b : Nat) : Option Nat :=
  if leadBase ≤ a && a < leadBase + leadCount && vowelBase ≤ b && b < vowelBase + vowelCount then
    some (syllableBase + ((a - leadBase) * vowelCount + (b - vowelBase)) * tailCount)
  else if syllableBase ≤ a && a < syllableBase + leadCount * vowelCount * tailCount &&
      (a - syllableBase) % tailCount = 0 && tailBase < b && b < tailBase + tailCount then
    some (a + (b - tailBase))
  else none

end Hangul

def decompose (c : Char) : List Char :=
  match Hangul.decompose? c.toNat with
  | some parts => parts.map Char.ofNat
  | none => (textOf decompositions c).getD [c]

def compose? (a b : Char) : Option Char :=
  match Hangul.compose? a.toNat b.toNat with
  | some whole => some (Char.ofNat whole)
  | none =>
    (seek (·.1) (fun entry => entry.1 == a.toNat && entry.2.1 == b.toNat) a.toNat compositions).map
      fun entry => Char.ofNat entry.2.2

/-- Puts each run of marks in the order of their classes; marks of one class keep their order. -/
def reorder (cs : List Char) : List Char :=
  match cs with
  | [] => []
  | c :: rest =>
    if combiningClass c = 0 then c :: reorder rest
    else
      (c :: rest.takeWhile (combiningClass · != 0)).mergeSort (combiningClass · ≤ combiningClass ·) ++
        reorder (rest.dropWhile (combiningClass · != 0))
termination_by cs.length
decreasing_by
  · simp only [List.length_cons]; omega
  · have whole := congrArg List.length
      (List.takeWhile_append_dropWhile (p := (combiningClass · != 0)) (l := rest))
    simp only [List.length_append] at whole
    simp only [List.length_cons]
    omega

/-- Composes from a starter on. `kept` holds, last first, the marks after `starter` that did not compose
with it; one of them hides a character of no higher class from it. -/
def composeFrom (starter : Char) (kept : List Char) : List Char → List Char
  | [] => starter :: kept.reverse
  | c :: rest =>
    let visible := match kept with
      | [] => true
      | last :: _ => combiningClass last < combiningClass c
    match if visible then compose? starter c else none with
    | some whole => composeFrom whole kept rest
    | none =>
      if combiningClass c = 0 then starter :: kept.reverse ++ composeFrom c [] rest
      else composeFrom starter (c :: kept) rest

def composeAll : List Char → List Char
  | [] => []
  | c :: rest => if combiningClass c = 0 then composeFrom c [] rest else c :: composeAll rest

def normalize (cs : List Char) : List Char :=
  composeAll (reorder (cs.flatMap decompose))

end HostLookup.Idna
