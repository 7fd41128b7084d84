import HostLookup.Address.Parser
import HostLookup.Engine.Directory
import HostLookup.Engine.Domain
import HostLookup.Query
import HostLookup.Settings

/-! The built-in engine. It asks name servers; where none answers, it knows address literals, the names of the local
host, and names that do not exist, and of any other question it learns that the servers failed. -/
namespace HostLookup.Engine
open Text

def literal? (address : Bytes) : Option Ip :=
  (ofBytes? address).bind Ip.ofText?

/-- Why a query is not even started: a name that is no text, an unknown service, or no address literal. -/
def refusal? : EngineQuery → Option Fault
  | .hostByName name _ => if (ofBytes? name).isNone then some .badName else none
  | .addressInfo q =>
    if (ofBytes? q.host).isNone then some .badName
    else
      match q.service.map (Service.toPort (q.flags.has .numericService)) with
      | some (.error fault) => some fault
      | _ => none
  | .hostByAddress address =>
    if (literal? address).isNone then some (.invalidIp (ofBytesLossy address)) else none
  | .nameInfo .. => none

def portOf (q : AddressQuery) : UInt16 :=
  match q.service with
  | none => 0
  | some service =>
    match Service.toPort (q.flags.has .numericService) service with
    | .ok port => port
    | .error _ => 0

def record (q : AddressQuery) (name : String) (ip : Ip) : Record :=
  { family := ip.family
    socketType := q.socketType
    protocol := none
    canonicalName := if q.flags.has .canonicalName then name else ""
    address := .ofIp ip (portOf q) }

/-- The name of a port's service, or its number. Without a number there is no service for port zero. -/
def serviceOf (port : UInt16) (flags : Flags) : Option String :=
  let number := Numeral.ofNat port.toNat
  if flags.has .nameNumericService then some number
  else if port = 0 then none
  else some ((Service.name? port).getD number)

def localPart (name : String) : String :=
  String.ofList (name.toList.takeWhile (· != '.'))

namespace Directory

variable (directory : Directory)

def resolve (name : String) : Except Fault Resolution :=
  (directory.forward name).mapError Miss.fault

def firstName? (ip : Ip) : Option String :=
  match directory.reverse ip with
  | .ok names => names.head?.map trimRoot
  | .error _ => none

def node (ip : Ip) (flags : Flags) : Except Fault String :=
  if flags.has .nameNumericHost then .ok ip.text
  else
    match directory.firstName? ip with
    | some name => .ok (if flags.has .nameLocalPart then localPart name else name)
    | none => if flags.has .nameRequired then .error .notFound else .ok ip.text

/-- The entry of an address: its first name, with the others as aliases. -/
def entryOf (ip : Ip) : Except Fault HostEntry := do
  let names ← (directory.reverse ip).mapError Miss.fault
  match names.map trimRoot with
  | [] => throw .notFound
  | name :: aliases => return ⟨name, aliases, [ip]⟩

def answer : EngineReply
  | .hostByName name family => do
    let name := ofBytesLossy name
    let found ← directory.resolve name
    return ⟨found.canonicalName name, found.aliases, found.addresses.filter family.admits⟩
  | .addressInfo q => do
    let name := ofBytesLossy q.host
    let found ← directory.resolve name
    return (found.addresses.filter q.family.admits).map (record q (found.canonicalName name))
  | .hostByAddress address =>
    match literal? address with
    | none => .error (.invalidIp (ofBytesLossy address))
    | some ip => directory.entryOf ip
  | .nameInfo address flags =>
    (directory.node address.ip flags).map fun name => ⟨name, serviceOf address.port flags⟩

end Directory

def unserved : Directory where
  forward name :=
    match Ip.ofText? name with
    | some ip => .ok { addresses := [ip] }
    | none =>
      match (Domain.ofText? name).bind special? with
      | some .loopback => .ok { addresses := [.v4 .loopback, .v6 .loopback] }
      | some .missing => .error .noName
      | none => .error .failure
  reverse ip :=
    match reverse? ip with
    | some name => .ok [name]
    | none => .error .failure

def answer : EngineReply :=
  unserved.answer

/-- With more dots than this asked for, a literal is first looked up as a name. -/
def literalDots : Nat := 4

/-- A literal that is no domain name is its own answer at once. -/
def forwardNeedsServer (ndots : Nat) (name : String) : Bool :=
  ((Ip.ofText? name).isNone || literalDots < ndots) &&
    (Domain.ofText? name).any fun domain => (special? domain).isNone

def needsServer (ndots : Nat) : EngineQuery → Bool
  | .hostByName name _ => forwardNeedsServer ndots (ofBytesLossy name)
  | .addressInfo q => forwardNeedsServer ndots (ofBytesLossy q.host)
  | .hostByAddress address => ((literal? address).bind reverse?).isNone
  | .nameInfo address flags => !flags.has .nameNumericHost && (reverse? address.ip).isNone

def obstacle? (settings : Settings) : Option LookupError :=
  ((settings.servers.getD []).find? fun server => (Ip.ofText? server).isNone).map fun server =>
    .value ("invalid name server address " ++ quote server)

end HostLookup.Engine
