import HostLookup.Platform.Service
import HostLookup.Query

/-! The platform's own resolver. It makes records of the entries that a search finds; what is found without files
or a network are address literals, and for no host the local host or any of its interfaces. -/
namespace HostLookup.Platform
open Text

def knownFlags : Flags := 0x7FF

def mapsIpv4 : Flags := 8

def encodesHost : Flags := 64

def addressFamilyCode : Int32 := -9

/-- A host cannot be encoded; without a locale none can that is not ASCII. -/
def encodingCode : Int32 := -105

structure Entry where
  family : Int32
  socketType : Int32
  protocol : Protocol
  canonicalName : Option Bytes
  address : Option SocketAddress

def Entry.toInfo? (entry : Entry) : Option AddressInfo := do
  let family ← Family.ofRaw? entry.family
  let socketType ← SocketType.ofRaw? entry.socketType
  let address ← entry.address
  return { family, socketType, protocol := entry.protocol
           canonicalName := (entry.canonicalName.map ofBytesLossy).getD "", address }

/-- Entries of a family or a socket type that the library does not know are left out. -/
def collect (entries : List Entry) : List AddressInfo :=
  entries.filterMap Entry.toInfo?

inductive Failure where
  | code (number : Int32)
  | system (message : String)
deriving DecidableEq, Repr

def Failure.error : Failure → LookupError
  | .code number => .ofAddressCode number
  | .system message => .system message

abbrev Search := Option Bytes → Option Bytes → Hints → Except Failure (List Entry)

def mapped (ip : Ipv4) : Ipv6 :=
  ⟨[0, 0, 0, 0, 0, 0xFFFF, ip.pair.1, ip.pair.2], rfl⟩

def wildcardAddresses (family : Family) (passive : Bool) : List SocketAddress :=
  let v4 : SocketAddress := .v4 (if passive then .unspecified else .loopback) 0
  let v6 : SocketAddress := .v6 (if passive then .unspecified else .loopback) 0 0 0
  match family with
  | .inet => [v4]
  | .inet6 => [v6]
  | .unspec => if passive then [v4, v6] else [v6, v4]

def ipv4Address (family : Family) (flags : Flags) (ip : Ipv4) : Except Int32 SocketAddress :=
  match family with
  | .unspec | .inet => .ok (.v4 ip 0)
  | .inet6 => if flags.has mapsIpv4 then .ok (.v6 (mapped ip) 0 0 0) else .error addressFamilyCode

def ipv6Address (family : Family) (ip : Ipv6) : Except Int32 SocketAddress :=
  match family, ip.mapped? with
  | .inet, none => .error addressFamilyCode
  | .inet, some inner => .ok (.v4 inner 0)
  | _, _ => .ok (.v6 ip 0 0 0)

def inScope (scope : Option (List Char)) (address : SocketAddress) : Except Int32 SocketAddress :=
  match scope with
  | none => .ok address
  | some name =>
    match scope? address.ip name with
    | none => .error AddressCode.noName
    | some index => .ok (address.withFlow none (some index))

/-- The address of a literal in a family. Its scope is that of the address it comes to. -/
def literalAddress (family : Family) (flags : Flags) : Literal → Except Int32 SocketAddress
  | .v4 ip => ipv4Address family flags ip
  | .v6 ip scope => ipv6Address family ip >>= inScope scope

/-- A host without a literal form would need files or a network, and is not known. -/
def addresses (host : Option Bytes) (family : Family) (flags : Flags) :
    Except Int32 (List SocketAddress) :=
  match host with
  | none => .ok (wildcardAddresses family (flags.has .passive))
  | some host =>
    if flags.has encodesHost && host.any (0x80 ≤ ·) then .error encodingCode
    else
      match literal? host with
      | none => .error AddressCode.noName
      | some literal => (literalAddress family flags literal).map ([·])

def withPort (port : UInt16) : SocketAddress → SocketAddress
  | .v4 ip _ => .v4 ip port
  | .v6 ip _ flow scope => .v6 ip port flow scope

/-- A lone asterisk is no host and no service. -/
def present (name : Option Bytes) : Option Bytes :=
  name.filter (· != Text.toBytes "*")

def objection? (host service : Option Bytes) (flags : Flags) : Option Int32 :=
  if host.isNone && service.isNone then some AddressCode.noName
  else if flags &&& ~~~knownFlags != 0 then some AddressCode.badFlags
  else if flags.has .canonicalName && host.isNone then some AddressCode.badFlags
  else none

def serviceRead (service : Option Bytes) (flags : Flags) : Except Int32 (Option ServiceText) :=
  match service.filter (!·.isEmpty) with
  | none => .ok none
  | some text =>
    match readService text with
    | some read => .ok (some read)
    | none => if flags.has .numericService then .error AddressCode.noName else .ok (some .name)

def portOf : Option ServiceText → UInt16
  | some (.number port) => port
  | _ => 0

def Entry.of (port : UInt16) (address : SocketAddress) (transport : Transport) : Entry :=
  { family := address.ip.family.toRaw, socketType := transport.socketType, protocol := transport.protocol
    canonicalName := none, address := some (withPort port address) }

/-- An entry for each address with each transport. The first has the canonical name. -/
def entriesOf (name : Option Bytes) (port : UInt16) (found : List SocketAddress) (chosen : List Transport) :
    List Entry :=
  match found.flatMap fun address => chosen.map (Entry.of port address) with
  | [] => []
  | first :: rest => { first with canonicalName := name } :: rest

def search (host service : Option Bytes) (hints : Hints) : Except Int32 (List Entry) :=
  let host := present host
  let service := present service
  match objection? host service hints.flags with
  | some code => .error code
  | none => do
    let read ← serviceRead service hints.flags
    let chosen ← chooseTransports ((hints.socketType.map SocketType.toRaw).getD 0) hints.protocol read
    let found ← addresses host hints.family hints.flags
    return entriesOf (if hints.flags.has .canonicalName then host else none) (portOf read) found chosen

def checked (bytes : Bytes) : Except LookupError Bytes :=
  if bytes.contains 0 then .error (.value "embedded null byte") else .ok bytes

/-- The service text for a port; zero is a service like any other. -/
def serviceText : Port → Except LookupError (Option Bytes)
  | .absent => .ok none
  | .number n => (checked (toBytes (Numeral.ofInt n))).map some
  | .text name => (checked (toBytes name)).map some
  | .unsupported typeName =>
    .error (.type ("getaddrinfo() argument 2 must be integer or string, not " ++ typeName))

def distinct : List Ip → List Ip
  | [] => []
  | ip :: rest => ip :: (distinct rest).filter (· != ip)

def queried (host : Bytes) : Bytes :=
  if host = broadcastName then broadcastLiteral else host

def hostEntry (host : Bytes) (records : List AddressInfo) : HostEntry :=
  { name := ((records.map (·.canonicalName)).find? (!·.isEmpty)).getD (ofBytesLossy (queried host))
    aliases := []
    addresses := distinct (records.map (·.address.ip)) }

/-- What is asked for the entry of a host; its addresses are of one family, whichever the caller wants. -/
def entryHints : Hints := { family := .inet, socketType := some .stream, flags := .canonicalName }

namespace Search

variable (search : Search)

def addressInfo (host : Option Bytes) (port : Port) (hints : Hints) :
    Except LookupError (List AddressInfo) := do
  let host ← match host with
    | none => pure none
    | some name => (checked name).map some
  let service ← serviceText port
  let entries ← (search host service hints).mapError Failure.error
  return collect entries

def hostByName (host : Bytes) : Except LookupError HostEntry := do
  let records ← addressInfo search (some (queried host)) .absent entryHints
  return hostEntry host records

def reply : NativeReply
  | .addressInfo host port hints => addressInfo search host port hints
  | .hostByName host => hostByName search host

end Search

/-- What is found without files or a network. -/
def literals : Search := fun host service hints =>
  (search host service hints).mapError .code

def addressInfo : Option Bytes → Port → Hints → Except LookupError (List AddressInfo) :=
  literals.addressInfo

def hostByName : Bytes → Except LookupError HostEntry :=
  literals.hostByName

def reply : NativeReply :=
  literals.reply

end HostLookup.Platform
