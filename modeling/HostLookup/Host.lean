import HostLookup.Address.Printer
import HostLookup.Error
import HostLookup.Idna.Name
import HostLookup.Socket
import HostLookup.Text.Utf8

/-! Host arguments: what a caller may name a host with, its form for a query, and the names that the
platform answers and no engine is asked for. -/
namespace HostLookup

inductive Host where
  | text (name : String)
  | bytes (name : Bytes)
  | absent
  | unsupported (typeName : String)
deriving DecidableEq, Repr

inductive Route where
  | native (host : Option Bytes)
  | engine (host : Bytes)
deriving DecidableEq, Repr

namespace Host

def ofIp (ip : Ip) : Host :=
  .text ip.text

def ofOption {α : Type} (host : α → Host) : Option α → Host
  | some value => host value
  | none => .absent

def acceptedTypes : String := "str, bytes or bytearray"

/-- A name in ASCII stays as it is; any other is encoded for domain names. -/
def encode (name : String) : Except LookupError Bytes :=
  if Text.isAscii name then .ok (Text.toBytes name)
  else
    match Idna.toAscii? name.toList with
    | some encoded => .ok (Text.toBytes (String.ofList encoded))
    | none => .error (.value ("encoding with 'idna' codec failed: " ++ Text.quote name))

def toBytes : Host → Except LookupError Bytes
  | .text name => encode name
  | .bytes name => .ok name
  | .absent => .error (.unsupportedType acceptedTypes "NoneType")
  | .unsupported typeName => .error (.unsupportedType acceptedTypes typeName)

def isEmpty : Host → Bool
  | .text name => name.isEmpty
  | .bytes name => name.isEmpty
  | _ => false

end Host

def localNames : List Bytes :=
  ["localhost", "ip6-localhost"].map Text.toBytes

def broadcastName : Bytes := Text.toBytes "<broadcast>"

def broadcastLiteral : Bytes := Text.toBytes "255.255.255.255"

def isLocal (name : Bytes) : Bool :=
  localNames.contains name

def isLocalOrBroadcast (name : Bytes) : Bool :=
  isLocal name || name == broadcastLiteral || name == broadcastName

/-- The platform answers for no host, for a host that has to be numeric, and for the local names. -/
def Host.route (host : Host) (flags : Flags) : Except LookupError Route :=
  match host with
  | .absent => .ok (.native none)
  | host => do
    let name ← host.toBytes
    return if flags.has .numericHost || isLocal name then .native (some name) else .engine name

end HostLookup
