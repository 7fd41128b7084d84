import HostLookup.Text.Packed
import HostLookup.Idna.MappingTable

/-! What becomes of each character of a name before the name is normalized: it stays, vanishes, is
replaced, or rules the name out. The four characters that older rules replaced stay. -/
namespace HostLookup.Idna
open Text.Packed

/-- A run of code points replaced by one each. Along a run either every code point counts or every
second one, and the replacements either keep in step or are all the same. -/
structure Run where
  first : Nat
  length : Nat
  stride : Nat
  step : Nat
  target : Nat

namespace Run

def ofField (field : Nat) : Run :=
  let stride := (field >>> 24) % 2
  let sameTarget := (field >>> 25) % 2 = 1
  let stride := if stride = 1 then 2 else 1
  { first := field >>> 40
    length := (field >>> 28) % Nat.pow 2 12
    stride := stride
    step := if sameTarget then 0 else stride
    target := field % Nat.pow 2 24 }

def contains (run : Run) (n : Nat) : Bool :=
  run.first ≤ n && (n - run.first) % run.stride = 0 && (n - run.first) / run.stride < run.length

def apply (run : Run) (n : Nat) : Nat :=
  run.target + (n - run.first) / run.stride * run.step

end Run

def runs : List Run :=
  runRows.flatMap fun row => (fields 64 row).map Run.ofField

def allowed : List Interval := intervals allowedRows

def ignored : List Interval := intervals ignoredRows

def texts : List (Nat × List Nat) := entries textRows

def replacement? (c : Char) : Option (List Char) :=
  if covers ignored c then some []
  else
    match seek Run.first (·.contains c.toNat) c.toNat runs with
    | some run => some [Char.ofNat (run.apply c.toNat)]
    | none => textOf texts c

def isValid (c : Char) : Bool :=
  covers allowed c && (replacement? c).isNone

def mapName (cs : List Char) : Option (List Char) :=
  (cs.mapM fun c =>
    match replacement? c with
    | some text => some text
    | none => if covers allowed c then some [c] else none).map List.flatten

end HostLookup.Idna
