import HostLookup.Query

/-! Lookups as plans. A plan asks the platform, or makes attempts; an attempt is a course of queries that
ends in a result, and the same attempt is made again when its failure is due to a session that has been
replaced. -/
namespace HostLookup

inductive Call where
  | hostByName (host : Host) (family : Family)
  | hostEntry (host : Host) (family : Family)
  | addressInfo (host : Host) (port : Port) (hints : Hints)
  | hostByAddress (host : Host)
  | nameInfo (endpoint : Endpoint) (flags : Flags)
deriving DecidableEq, Repr

inductive Answer where
  | ip (address : Ip)
  | entry (entry : HostEntry)
  | records (records : List AddressInfo)
  | names (info : NameInfo)
deriving DecidableEq, Repr

abbrev Result := Except LookupError Answer

/-- A course of queries. Where no session is live, a query of the engine ends it. -/
inductive Attempt where
  | finish (result : Result)
  | native (query : NativeQuery) (next : Except LookupError query.Answer → Attempt)
  | engine (query : EngineQuery) (next : Except Fault query.Answer → Attempt)

structure Loop where
  /-- The kind of error that a replaced session may have caused. -/
  family : ErrorKind
  body : Attempt
  finish : Result → Result

inductive Plan where
  | finish (result : Result)
  | native (query : NativeQuery) (next : Except LookupError query.Answer → Plan)
  | attempts (loop : Loop)

namespace Attempt

/-- Asks for the records of a host: the platform for a local name, the engine for any other. -/
def candidates (host : Bytes) (port : Port) (hints : Hints)
    (next : Except LookupError (List Record) → Attempt) : Attempt :=
  if hints.flags.has .numericHost || isLocal host then
    .native (.addressInfo (some host) port hints) fun reply =>
      next (reply.map fun infos => infos.map AddressInfo.toRecord)
  else
    match port.toService with
    | .error e => next (.error e)
    | .ok service =>
      .engine (.addressInfo { hints with host, service }) fun reply =>
        next (reply.mapError Fault.toAddressError)

def hostByName (host : Bytes) (family : Family) : Attempt :=
  .engine (.hostByName host family) fun reply =>
    .finish do
      let entry ← reply.mapError Fault.toHostError
      return .entry (← entry.requireAddresses)

def addressInfo (host : Bytes) (port : Port) (hints : Hints) : Attempt :=
  match port.toService with
  | .error e => .finish (.error e)
  | .ok service =>
    .engine (.addressInfo { hints with host, service }) fun reply =>
      .finish do
        let records ← Record.require (← reply.mapError Fault.toAddressError)
        return .records (Record.backfill records hints.socketType hints.protocol)

def datagram : Hints := { socketType := some .datagram }

def finishEntry (reply : Except Fault HostEntry) : Attempt :=
  .finish ((reply.mapError Fault.toHostError).map .entry)

/-- What is no address literal is looked up, and the first address found is asked about instead. -/
def hostByAddress (address : Bytes) : Attempt :=
  .engine (.hostByAddress address) fun
    | .error (.invalidIp reason) =>
      candidates address .absent datagram fun
        | .error e => .finish (.error e)
        | .ok [] => .finish (.error .nameNotKnown)
        | .ok (first :: _) =>
          let resolved := Text.toBytes first.address.ip.text
          if resolved = address then .finish (.error (.invalidIp reason))
          else .engine (.hostByAddress resolved) finishEntry
    | reply => finishEntry reply

def nameInfo (convention : Convention) (target : Target) (endpoint : Endpoint) (flags : Flags) :
    Attempt :=
  candidates target.host (.number target.port.toNat) datagram fun found =>
    match do (← Record.single (← found)).nameInfoAddress endpoint with
    | .error e => .finish (.error e)
    | .ok address =>
      .engine (.nameInfo address flags) fun reply =>
        .finish do
          let info ← reply.mapError Fault.toAddressError
          return .names (← info.finish convention)

end Attempt

namespace Plan

/-- An empty host stands for the address of any interface. -/
def wildcard (host : Host) (family : Family) (next : Host → Plan) : Plan :=
  if host.isEmpty then
    .native (.addressInfo none (.number 0)
        { family, socketType := some .datagram, flags := .passive }) fun
      | .error e => .finish (.error e)
      | .ok [only] => next (.ofIp only.address.ip)
      | .ok _ => .finish (.error (.system "wildcard resolved to multiple address"))
  else next host

def hostEntry (host : Host) (family : Family) (finish : Result → Result) : Plan :=
  match host.toBytes with
  | .error e => .finish (finish (.error e))
  | .ok name =>
    if isLocalOrBroadcast name then
      .native (.hostByName name) fun reply => .finish (finish (reply.map .entry))
    else
      .attempts
        { family := .host
          body := .hostByName name family
          finish := fun result => finish (result.mapError LookupError.ofForward) }

def firstAddress : Result → Result
  | .ok (.entry entry) =>
    match entry.addresses with
    | [] => .error .nameNotKnown
    | ip :: _ => .ok (.ip ip)
  | result => result

def hostByName (host : Host) (family : Family) : Plan :=
  wildcard host family fun host => hostEntry host family firstAddress

def addressInfo (host : Host) (port : Port) (hints : Hints) : Plan :=
  match host.route hints.flags with
  | .error e => .finish (.error e)
  | .ok (.native name) =>
    .native (.addressInfo name port hints) fun reply => .finish (reply.map .records)
  | .ok (.engine name) =>
    .attempts { family := .addressInfo, body := .addressInfo name port hints, finish := id }

def hostByAddress (host : Host) : Plan :=
  wildcard host .unspec fun host =>
    match host.toBytes with
    | .error e => .finish (.error e)
    | .ok address => .attempts { family := .host, body := .hostByAddress address, finish := id }

def nameInfo (convention : Convention) (endpoint : Endpoint) (flags : Flags) : Plan :=
  match endpoint.target with
  | .error e => .finish (.error e)
  | .ok target =>
    .attempts
      { family := .addressInfo
        body := .nameInfo convention target endpoint flags
        finish := id }

end Plan

def Call.plan (convention : Convention) : Call → Plan
  | .hostByName host family => .hostByName host family
  | .hostEntry host family => .hostEntry host family id
  | .addressInfo host port hints => .addressInfo host port hints
  | .hostByAddress host => .hostByAddress host
  | .nameInfo endpoint flags => .nameInfo convention endpoint flags

end HostLookup
