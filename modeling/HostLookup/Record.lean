import HostLookup.Error
import HostLookup.Socket

/-! Answers about hosts: host entries, and address records with and without socket type and protocol.
A record of an engine often lacks both; filling them in keeps the records' order and drops none. -/
namespace HostLookup

structure HostEntry where
  name : String
  aliases : List String
  addresses : List Ip
deriving DecidableEq, Repr

structure Record where
  family : Family
  socketType : Option SocketType
  protocol : Option Protocol
  canonicalName : String
  address : SocketAddress
deriving DecidableEq, Repr

structure AddressInfo where
  family : Family
  socketType : SocketType
  protocol : Protocol
  canonicalName : String
  address : SocketAddress
deriving DecidableEq, Repr

def AddressInfo.toRecord (info : AddressInfo) : Record :=
  { info with socketType := some info.socketType, protocol := some info.protocol }

def SocketType.protocol : SocketType → Protocol
  | .stream => .tcp
  | .datagram | .raw => .udp

def Protocol.socketType (protocol : Protocol) : SocketType :=
  if protocol = .tcp then .stream else .datagram

/-- What a record that lacks both socket type and protocol stands for under a request. -/
def transports (socketType : Option SocketType) (protocol : Protocol) :
    List (SocketType × Protocol) :=
  match socketType with
  | some type => [(type, type.protocol)]
  | none =>
    if protocol = .any then [(.stream, .tcp), (.datagram, .udp)]
    else [(protocol.socketType, protocol)]

namespace Record

def complete (record : Record) (type : SocketType) (protocol : Protocol) : AddressInfo :=
  { record with socketType := type, protocol := protocol }

/-- A field that is missing alone is derived from the other. -/
def expand (requested : List (SocketType × Protocol)) (record : Record) : List AddressInfo :=
  match record.socketType, record.protocol with
  | some type, some protocol => [record.complete type protocol]
  | some type, none => [record.complete type type.protocol]
  | none, some protocol => [record.complete protocol.socketType protocol]
  | none, none => requested.map fun pair => record.complete pair.1 pair.2

def backfill (records : List Record) (socketType : Option SocketType) (protocol : Protocol) :
    List AddressInfo :=
  records.flatMap (expand (transports socketType protocol))

def require (records : List Record) : Except LookupError (List Record) :=
  if records.isEmpty then .error .nameNotKnown else .ok records

def single : List Record → Except LookupError Record
  | [] => .error (.system "sockaddr resolved to no addresses")
  | [record] => .ok record
  | _ => .error (.system "sockaddr resolved to multiple addresses")

end Record

def HostEntry.requireAddresses (entry : HostEntry) : Except LookupError HostEntry :=
  if entry.addresses.isEmpty then .error (.host AddressCode.noName (AddressCode.text AddressCode.noName))
  else .ok entry

end HostLookup
