/-! Text as bytes. Reading cuts a byte string into well-formed characters and maximal ill-formed
parts; the strict reader refuses the latter, the lenient one puts the replacement character for each. -/
namespace HostLookup

abbrev Bytes := List UInt8

namespace Text

def toBytes (text : String) : Bytes :=
  text.toList.flatMap String.utf8EncodeChar

/-- What may follow a lead byte: the bounds of the second byte, and how many bytes come after it. -/
def continuation (lead : UInt8) : Option (UInt8 × UInt8 × Nat) :=
  if 0xC2 ≤ lead && lead ≤ 0xDF then some (0x80, 0xBF, 0)
  else if lead = 0xE0 then some (0xA0, 0xBF, 1)
  else if lead = 0xED then some (0x80, 0x9F, 1)
  else if 0xE1 ≤ lead && lead ≤ 0xEF then some (0x80, 0xBF, 1)
  else if lead = 0xF0 then some (0x90, 0xBF, 2)
  else if 0xF1 ≤ lead && lead ≤ 0xF3 then some (0x80, 0xBF, 2)
  else if lead = 0xF4 then some (0x80, 0x8F, 2)
  else none

def isTrailing (byte : UInt8) : Bool :=
  0x80 ≤ byte && byte ≤ 0xBF

/-- The character of a well-formed sequence; a lead byte before `n` others carries `6 - n` bits. -/
def assemble (lead : UInt8) (following : Bytes) : Char :=
  Char.ofNat (following.foldl (fun value byte => value * 64 + byte.toNat % 64)
    (lead.toNat % Nat.pow 2 (6 - following.length)))

/-- Well-formed characters, and `none` for each maximal ill-formed part. -/
def pieces : Bytes → List (Option Char)
  | [] => []
  | lead :: rest =>
    if lead < 0x80 then some (Char.ofNat lead.toNat) :: pieces rest
    else
      match continuation lead, rest with
      | some (low, high, more), second :: after =>
        if low ≤ second && second ≤ high then
          let last := (after.take more).takeWhile isTrailing
          (if last.length = more then some (assemble lead (second :: last)) else none) ::
            pieces (after.drop last.length)
        else none :: pieces (second :: after)
      | _, rest => none :: pieces rest
termination_by bytes => bytes.length
decreasing_by all_goals simp only [List.length_cons, List.length_drop]; omega

def ofBytes? (bytes : Bytes) : Option String :=
  ((pieces bytes).mapM id).map String.ofList

def ofBytesLossy (bytes : Bytes) : String :=
  String.ofList ((pieces bytes).map (·.getD '\uFFFD'))

def isAscii (text : String) : Bool :=
  text.toList.all (·.toNat < 0x80)

end HostLookup.Text
