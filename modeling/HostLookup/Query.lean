import HostLookup.NameInfo
import HostLookup.Service

/-! Queries, each with the type of its answer: those of an engine, and those of the platform. -/
namespace HostLookup

structure AddressQuery where
  host : Bytes
  service : Option Bytes
  family : Family
  socketType : Option SocketType
  protocol : Protocol
  flags : Flags
deriving DecidableEq, Repr

inductive EngineQuery where
  | hostByName (name : Bytes) (family : Family)
  | addressInfo (query : AddressQuery)
  | hostByAddress (address : Bytes)
  | nameInfo (address : SocketAddress) (flags : Flags)
deriving DecidableEq, Repr

abbrev EngineQuery.Answer : EngineQuery → Type
  | .hostByName .. | .hostByAddress _ => HostEntry
  | .addressInfo _ => List Record
  | .nameInfo .. => NodeInfo

inductive NativeQuery where
  | addressInfo (host : Option Bytes) (port : Port) (hints : Hints)
  | hostByName (host : Bytes)
deriving DecidableEq, Repr

abbrev NativeQuery.Answer : NativeQuery → Type
  | .addressInfo .. => List AddressInfo
  | .hostByName _ => HostEntry

abbrev EngineReply := (query : EngineQuery) → Except Fault query.Answer

abbrev NativeReply := (query : NativeQuery) → Except LookupError query.Answer

end HostLookup
