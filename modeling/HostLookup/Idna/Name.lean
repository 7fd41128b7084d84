import HostLookup.Idna.Mapping
import HostLookup.Idna.NormalForm
import HostLookup.Idna.Punycode
import HostLookup.Idna.Joiner
import HostLookup.Idna.Direction

/-! The ASCII form of a name. The name is mapped and normalized and then cut at its dots; a label that is
already encoded has to decode to one that could have been encoded, and labels beyond ASCII are encoded.
Hyphens are not checked, every ASCII character may stand in a label, and an ASCII label has any length. -/
namespace HostLookup.Idna
open Text.Packed

def marks : List Interval := intervals markRows

def encodedMark : List Char := ['x', 'n', '-', '-']

def isAsciiLabel (label : List Char) : Bool :=
  label.all (·.toNat < 0x80)

/-- The most characters of a label beyond ASCII: the time to encode it grows with the square of them. -/
def mostCharacters : Nat := 1000

def mostEncoded : Nat := 2000

def isPlainLabel (label : List Char) : Bool :=
  (isAsciiLabel label || label.length ≤ mostCharacters) && label.all isValid && (label.head?.all fun c => !covers marks c) && joinersFit label

def decodeLabel? (encoded : List Char) : Option (List Char) :=
  if isAsciiLabel encoded && encoded.length ≤ mostEncoded then
    (Punycode.decode encoded).filter fun label =>
      !isAsciiLabel label && normalize label == label && isPlainLabel label
  else none

def readLabel? (label : List Char) : Option (List Char) :=
  if encodedMark.isPrefixOf label then decodeLabel? (label.drop encodedMark.length)
  else if isPlainLabel label then some label
  else none

def writeLabel (label : List Char) : List Char :=
  if isAsciiLabel label then label else encodedMark ++ Punycode.encode label

def splitAt (separator : Char) : List Char → List (List Char)
  | [] => [[]]
  | c :: rest =>
    if c = separator then [] :: splitAt separator rest
    else
      match splitAt separator rest with
      | [] => [[c]]
      | piece :: pieces => (c :: piece) :: pieces

def toAscii? (name : List Char) : Option (List Char) := do
  let mapped ← mapName name
  let labels ← (splitAt '.' (normalize mapped)).mapM readLabel?
  if directionsFit labels then
    return ['.'].intercalate (labels.map writeLabel)
  else none

end HostLookup.Idna
