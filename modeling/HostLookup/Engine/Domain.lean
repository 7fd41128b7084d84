import HostLookup.Address
import HostLookup.Idna.Name
import HostLookup.Text.Numeral
import HostLookup.Text.Numeric
import HostLookup.Text.Utf8

/-! Domain names, and those of them that are known without a name server. -/
namespace HostLookup.Engine
open Text

/-- A domain name, cut into labels; the empty label of the root is left out. -/
abbrev Domain := List (List Char)

inductive Piece where
  | cut
  | letter (c : Char)
deriving DecidableEq, Repr

namespace Piece

def octal? (c : Char) : Option Nat :=
  (Numeral.hexValue c).filter (· < 8)

def ofOctal? (a b c : Char) : Option Char := do
  let a ← octal? a
  let b ← octal? b
  let c ← octal? c
  return Char.ofNat (a * 64 + b * 8 + c)

/-- The pieces of a name. After a backslash, three octal digits stand for a character, and any character
that is no number stands for itself; a name that ends before the third digit ends before the backslash. -/
def read : List Char → Option (List Piece)
  | [] => some []
  | '.' :: rest => (read rest).map (cut :: ·)
  | ['\\'] => some []
  | ['\\', a] =>
    if isNumeric a then (octal? a).map fun _ => [] else some [letter a]
  | ['\\', a, b] =>
    if isNumeric a then (octal? a).bind fun _ => (octal? b).map fun _ => []
    else (read [b]).map (letter a :: ·)
  | '\\' :: a :: b :: c :: rest =>
    if isNumeric a then
      (ofOctal? a b c).bind fun value => (read rest).map (letter value :: ·)
    else (read (b :: c :: rest)).map (letter a :: ·)
  | a :: rest => (read rest).map (letter a :: ·)

def labels : List Piece → List (List Char)
  | [] => [[]]
  | cut :: rest => [] :: labels rest
  | letter c :: rest =>
    match labels rest with
    | [] => [[c]]
    | label :: more => (c :: label) :: more

end Piece

namespace Domain

def mostLabel : Nat := 63
def mostName : Nat := 255

/-- Letters, digits, hyphens and dots that cut nothing, and no hyphen at the head. -/
def isHostLabel (label : List Char) : Bool :=
  label.head?.any (· != '-') && label.all fun c => c.isAlphanum || c == '-' || c == '.'

def isServiceLabel (label : List Char) : Bool :=
  label.head? == some '_' && label.all fun c => c.isAlphanum || c == '-' || c == '_' || c == '.'

/-- The ASCII form of a label. The asterisk and the labels for services are not encoded. -/
def readLabel? (label : List Char) : Option (List Char) :=
  let ascii :=
    if label == ['*'] || isServiceLabel label then some label
    else (Idna.toAscii? label).filter isHostLabel
  ascii.filter fun label => label.length ≤ mostLabel

def size (name : Domain) : Nat :=
  name.foldr (fun label size => label.length + 1 + size) 1

def withoutRoot (labels : List (List Char)) : List (List Char) :=
  if labels.getLast? = some [] then labels.dropLast else labels

/-- A dot alone is the root, as is no text at all. -/
def ofText? (text : String) : Option Domain :=
  if text = "." then some []
  else do
    let pieces ← Piece.read text.toList
    let name ← (withoutRoot (Piece.labels pieces)).mapM readLabel?
    if size name ≤ mostName then return name else none

def isWithin (zone : List String) (name : Domain) : Bool :=
  (zone.map String.toList).isSuffixOf (name.map fun label => label.map Char.toLower)

end Domain

inductive Special where
  | loopback
  | missing
deriving DecidableEq, Repr

def loopbackZones : List (List String) :=
  [["localhost"],
   ["127", "in-addr", "arpa"],
   "1" :: List.replicate 31 "0" ++ ["ip6", "arpa"]]

def missingZones : List (List String) :=
  [["invalid"], ["onion"]]

def special? (name : Domain) : Option Special :=
  if loopbackZones.any (Domain.isWithin · name) then some .loopback
  else if missingZones.any (Domain.isWithin · name) then some .missing
  else none

def reverse? : Ip → Option String
  | .v4 ip => if ip.a = 127 then some "localhost" else none
  | .v6 ip => if ip = .loopback then some "localhost" else none

end HostLookup.Engine
