import HostLookup.Address

/-! Sockets: address families, socket types and protocols with their numbers, flag bits, and socket
addresses. -/
namespace HostLookup

inductive Family where
  | unspec
  | inet
  | inet6
deriving DecidableEq, Repr, Inhabited

namespace Family

def toRaw : Family → Int32
  | .unspec => 0
  | .inet => 2
  | .inet6 => 10

def ofRaw? (raw : Int32) : Option Family :=
  [.unspec, .inet, .inet6].find? (·.toRaw == raw)

end Family

def Ip.family : Ip → Family
  | .v4 _ => .inet
  | .v6 _ => .inet6

/-- Whether an address belongs to a family; to the unspecified one every address does. -/
def Family.admits (family : Family) (ip : Ip) : Bool :=
  family == .unspec || family == ip.family

inductive SocketType where
  | stream
  | datagram
  | raw
deriving DecidableEq, Repr, Inhabited

namespace SocketType

def toRaw : SocketType → Int32
  | .stream => 1
  | .datagram => 2
  | .raw => 3

def ofRaw? (raw : Int32) : Option SocketType :=
  [.stream, .datagram, .raw].find? (·.toRaw == raw)

end SocketType

abbrev Protocol := Int32

namespace Protocol

def any : Protocol := 0
def tcp : Protocol := 6
def udp : Protocol := 17

end Protocol

abbrev Flags := Int32

namespace Flags

/-! Bits of an address-information request. -/
def passive : Flags := 1
def canonicalName : Flags := 2
def numericHost : Flags := 4
def numericService : Flags := 1024

/-! Bits of a name-information request. -/
def nameNumericHost : Flags := 1
def nameNumericService : Flags := 2
def nameLocalPart : Flags := 4
def nameRequired : Flags := 8

def has (flags bit : Flags) : Bool :=
  flags &&& bit != 0

end Flags

inductive SocketAddress where
  | v4 (ip : Ipv4) (port : UInt16)
  | v6 (ip : Ipv6) (port : UInt16) (flow scope : UInt32)
deriving DecidableEq, Repr

namespace SocketAddress

def ofIp (ip : Ip) (port : UInt16) : SocketAddress :=
  match ip with
  | .v4 ip => .v4 ip port
  | .v6 ip => .v6 ip port 0 0

def ip : SocketAddress → Ip
  | .v4 ip _ => .v4 ip
  | .v6 ip .. => .v6 ip

def port : SocketAddress → UInt16
  | .v4 _ port => port
  | .v6 _ port .. => port

/-- The address with the flow and scope of a caller, zero for one not given; an IPv4 address has
neither. -/
def withFlow (address : SocketAddress) (flow scope : Option UInt32) : SocketAddress :=
  match address with
  | .v4 ip port => .v4 ip port
  | .v6 ip port .. => .v6 ip port (flow.getD 0) (scope.getD 0)

end SocketAddress

structure Hints where
  family : Family := .unspec
  socketType : Option SocketType := none
  protocol : Protocol := .any
  flags : Flags := 0
deriving DecidableEq, Repr

end HostLookup
