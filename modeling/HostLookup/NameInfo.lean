import HostLookup.Host
import HostLookup.Record

/-! Name information: the address a caller asks about, its check, and the pair of names in the answer. -/
namespace HostLookup

/-- An address as a caller writes it: two elements, or up to four with flow and scope. -/
structure Endpoint where
  host : Host
  port : Int
  flow : Option UInt32 := none
  scope : Option UInt32 := none
deriving DecidableEq, Repr

namespace Endpoint

def pair (host : Host) (port : Int) : Endpoint :=
  { host, port }

def full (host : Host) (port : Int) (flow scope : UInt32) : Endpoint :=
  { host, port, flow := some flow, scope := some scope }

def withFlow (endpoint : Endpoint) (flow : UInt32) : Endpoint :=
  { endpoint with flow := some flow }

/-- A scope comes after a flow, which is zero if none was given. -/
def withScope (endpoint : Endpoint) (scope : UInt32) : Endpoint :=
  { endpoint with flow := some (endpoint.flow.getD 0), scope := some scope }

def ofSocketAddress : SocketAddress → Endpoint
  | .v4 ip port => { host := .ofIp (.v4 ip), port := port.toNat }
  | .v6 ip port flow scope =>
    { host := .ofIp (.v6 ip), port := port.toNat, flow := some flow, scope := some scope }

def length (endpoint : Endpoint) : Nat :=
  2 + (if endpoint.flow.isSome then 1 else 0) + (if endpoint.scope.isSome then 1 else 0)

def isEmpty (endpoint : Endpoint) : Bool :=
  endpoint.length == 0

end Endpoint

/-- A checked address: a port too large has become zero. -/
structure Target where
  host : Bytes
  port : UInt16
deriving DecidableEq, Repr

def mostFlow : UInt32 := 0xFFFFF

def Endpoint.target (endpoint : Endpoint) : Except LookupError Target := do
  let host ← endpoint.host.toBytes
  if endpoint.port < 0 then
    throw (.overflow "getnameinfo(): port must be 0-65535.")
  if endpoint.flow.any (mostFlow < ·) then
    throw (.overflow "getnameinfo(): flowinfo must be 0-1048575.")
  return { host, port := if endpoint.port < 0x10000 then .ofNat endpoint.port.toNat else 0 }

/-- The address to ask about: that of the only candidate, with the caller's flow and scope. A caller
gives neither for an IPv4 address. -/
def Record.nameInfoAddress (candidate : Record) (endpoint : Endpoint) :
    Except LookupError SocketAddress :=
  match candidate.family with
  | .inet =>
    if endpoint.length = 2 then .ok candidate.address
    else .error (.system "IPv4 sockaddr must be 2 tuple")
  | .inet6 => .ok (candidate.address.withFlow endpoint.flow endpoint.scope)
  | .unspec => .ok candidate.address

structure NodeInfo where
  node : String
  service : Option String
deriving DecidableEq, Repr

structure NameInfo where
  node : String
  service : String
deriving DecidableEq, Repr

def NameInfo.text (info : NameInfo) : String :=
  "(" ++ info.node ++ ", " ++ info.service ++ ")"

/-- What a missing service means: an error to the modern one, and zero to the historical one. -/
inductive Convention where
  | modern
  | historical
deriving DecidableEq, Repr, Inhabited

def NodeInfo.finish (convention : Convention) (info : NodeInfo) : Except LookupError NameInfo :=
  match info.service, convention with
  | some service, _ => .ok ⟨info.node, service⟩
  | none, .modern => .error .nameNotKnown
  | none, .historical => .ok ⟨info.node, "0"⟩

end HostLookup
