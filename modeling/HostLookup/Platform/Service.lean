import HostLookup.Error
import HostLookup.Platform.Literal
import HostLookup.Socket

/-! Transports and services of the platform: which socket types and protocols a request comes to, and
which port its service text gives them. -/
namespace HostLookup.Platform
open Text

structure Transport where
  socketType : Int32
  protocol : Protocol
  /-- Goes with whichever protocol is asked for, and has no services. -/
  isRaw : Bool := false
  isDefault : Bool := false

def transports : List Transport :=
  [{ socketType := 1, protocol := .tcp, isDefault := true },
   { socketType := 2, protocol := .udp, isDefault := true },
   { socketType := 6, protocol := 33 },
   { socketType := 2, protocol := 136 },
   { socketType := 1, protocol := 132 },
   { socketType := 5, protocol := 132 },
   { socketType := 3, protocol := .any, isRaw := true, isDefault := true }]

inductive ServiceText where
  | number (port : UInt16)
  | name

def isSpace (c : Char) : Bool :=
  c == ' ' || ('\t' ≤ c && c ≤ '\r')

def splitSign : List Char → Bool × List Char
  | '-' :: rest => (true, rest)
  | '+' :: rest => (false, rest)
  | rest => (false, rest)

/-- A number with a sign in sixty-four bits without one. What is too large for them takes the largest value. -/
def inSixtyFour (negative : Bool) (n : Nat) : Nat :=
  if UInt64.size ≤ n then UInt64.size - 1 else if negative then (UInt64.size - n) % UInt64.size else n

/-- The value is cut to thirty-two bits, and a negative one is no number. -/
def ServiceText.ofValue (value : Nat) : ServiceText :=
  if value % UInt32.size < 0x80000000 then .number (.ofNat value) else .name

def readService (service : Bytes) : Option ServiceText :=
  let parts := splitSign ((characters service).dropWhile isSpace)
  (Numeral.natural? parts.2).map fun n => .ofValue (inSixtyFour parts.1 n)

def Transport.fits (socketType : Int32) (protocol : Protocol) (t : Transport) : Bool :=
  (socketType == 0 || socketType == t.socketType) &&
    (protocol == .any || t.isRaw || protocol == t.protocol)

/-- Without a socket type or protocol, every default transport; with one, the first that fits. -/
def chooseTransports (socketType : Int32) (protocol : Protocol) (service : Option ServiceText) :
    Except Int32 (List Transport) :=
  if socketType = 0 && protocol = .any then
    match service with
    | some .name => .error AddressCode.service
    | _ => .ok (transports.filter (·.isDefault))
  else
    match transports.find? (·.fits socketType protocol), service with
    | none, _ => .error (if socketType = 0 then AddressCode.service else AddressCode.socketType)
    | some t, none => .ok [{ t with protocol := if t.isRaw then protocol else t.protocol }]
    | some t, some (.number _) => if t.isRaw then .error AddressCode.service else .ok [t]
    | some _, some .name => .error AddressCode.service

end HostLookup.Platform
