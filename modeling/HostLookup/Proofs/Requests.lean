import HostLookup.Proofs.Answers
import HostLookup.Proofs.BuiltIn
import HostLookup.Proofs.Expansion

/-! Requested socket types and protocols. Where an engine answers as it was asked, the records of a lookup have the
socket type and the protocol that were requested, but for a field that was derived from the other one. -/
namespace HostLookup
open Resolver

/-- What the record says about socket type and protocol is what was requested, as far as something was. -/
def Record.Agrees (socketType : Option SocketType) (protocol : Protocol) (record : Record) : Prop :=
  (∀ own ∈ record.socketType, ∀ requested ∈ socketType, own = requested) ∧
    ∀ own ∈ record.protocol, protocol ≠ .any → own = protocol

/-- A complete record that has what its own record says, and else what was requested. A protocol alone decides about
the socket type, and a socket type about the protocol, whichever of the two was requested. -/
structure AddressInfo.Honours (wantedType : Option SocketType) (wantedProtocol : Protocol) (record : Record)
    (info : AddressInfo) : Prop where
  keeps : info.Keeps record
  socketType : ∀ wanted ∈ wantedType, record.socketType ≠ none ∨ record.protocol = none → info.socketType = wanted
  protocol : wantedProtocol ≠ .any → record.protocol ≠ none ∨ record.socketType = none ∧ wantedType = none →
    info.protocol = wantedProtocol
  derivedType : record.socketType = none → record.protocol ≠ none →
    info.socketType = if info.protocol = .tcp then .stream else .datagram
  derivedProtocol : record.protocol = none → record.socketType ≠ none ∨ wantedType ≠ none →
    info.protocol = if info.socketType = .stream then .tcp else .udp

theorem SocketType.protocol_eq (type : SocketType) : type.protocol = if type = .stream then .tcp else .udp := by
  cases type <;> rfl

namespace Record

variable {socketType : Option SocketType} {protocol : Protocol} {record : Record} {info : AddressInfo}

theorem keeps_of_mem_expand (member : info ∈ record.expand (transports socketType protocol)) : info.Keeps record := by
  have completed := completed_expand socketType protocol record
  generalize record.expand (transports socketType protocol) = infos at member completed
  cases completed with
  | one decided keeps => exact List.mem_singleton.mp member ▸ keeps
  | two undecided first streams second datagrams =>
    rcases List.mem_pair.mp member with rfl | rfl
    · exact first
    · exact second

theorem honours_of_mem_expand (agrees : record.Agrees socketType protocol)
    (member : info ∈ record.expand (transports socketType protocol)) : info.Honours socketType protocol record := by
  have keeps := keeps_of_mem_expand member
  unfold expand at member
  cases types : record.socketType with
  | some type =>
    have own : ∀ requested ∈ socketType, type = requested := agrees.1 type types
    cases protocols : record.protocol with
    | some number =>
      simp only [types, protocols, List.mem_singleton] at member
      subst member
      exact
        { keeps
          socketType := fun requested given _ => own requested given
          protocol := fun given _ => agrees.2 number protocols given
          derivedType := fun none => nomatch types.symm.trans none
          derivedProtocol := fun none => nomatch protocols.symm.trans none }
    | none =>
      simp only [types, protocols, List.mem_singleton] at member
      subst member
      exact
        { keeps
          socketType := fun requested given _ => own requested given
          protocol := fun _ decided => by simp [types, protocols] at decided
          derivedType := fun none => nomatch types.symm.trans none
          derivedProtocol := fun _ _ => type.protocol_eq }
  | none =>
    cases protocols : record.protocol with
    | some number =>
      simp only [types, protocols, List.mem_singleton] at member
      subst member
      exact
        { keeps
          socketType := fun _ _ decided => by simp [types, protocols] at decided
          protocol := fun given _ => agrees.2 number protocols given
          derivedType := fun _ _ => rfl
          derivedProtocol := fun none => nomatch protocols.symm.trans none }
    | none =>
      -- Neither field is known: here alone the request decides, and only its socket type if it has one.
      simp only [types, protocols, List.mem_map] at member
      obtain ⟨pair, member, rfl⟩ := member
      cases socketType with
      | some type =>
        obtain rfl := List.mem_singleton.mp member
        exact
          { keeps
            socketType := fun requested given _ => Option.some.inj given
            protocol := fun _ decided => by simp [protocols] at decided
            derivedType := fun _ given => absurd protocols given
            derivedProtocol := fun _ _ => type.protocol_eq }
      | none =>
        exact
          { keeps
            socketType := fun requested given => nomatch given
            protocol := fun given _ => by
              rw [transports, if_neg given] at member
              rw [List.mem_singleton.mp member]
              rfl
            derivedType := fun _ given => absurd protocols given
            derivedProtocol := fun _ decided => by simp [types] at decided }

end Record

theorem Engine.Gives.agrees {query : AddressQuery} {records : List Record}
    (gives : Engine.Gives (.addressInfo query) (.ok records)) :
    ∀ record ∈ records, record.Agrees query.socketType query.protocol := by
  obtain ⟨-, name, ips, rfl, -⟩ := gives.records
  simp only [List.mem_map]
  rintro record ⟨ip, -, rfl⟩
  exact ⟨fun own has wanted given => Option.some.inj (has.symm.trans given), fun own has => nomatch has⟩

namespace Resolver

variable {s : State} {id : Nat}

/-- Where a lookup of addresses has been answered by an engine whose records agree with the request, each record that
is returned completes one of the answer and honours the request: it has the socket type and the protocol that were
requested, but for one that its record lacks and that the other field decides about. The built-in engine answers in
agreement with the request. -/
theorem request_honoured (reachable : Reachable s) {host : Host} {name : Bytes} {port : Port} {hints : Hints}
    (started : .started (.addressInfo host port hints) ∈ s.notes id)
    (routed : host.route hints.flags = .ok (.engine name))
    (agrees : ∀ query records, .engine (.addressInfo query) (.ok records) ∈ heard (s.notes id) →
      ∀ record ∈ records, record.Agrees query.socketType query.protocol) :
    (∀ infos, (id, .ok (.records infos)) ∈ s.results →
      ∃ service records, port.toService = .ok service ∧
        .engine (.addressInfo { hints with host := name, service }) (.ok records) ∈ heard (s.notes id) ∧
        infos ≠ [] ∧ ∀ info ∈ infos, ∃ record ∈ records, info.Honours hints.socketType hints.protocol record) ∧
    ∀ query records, Engine.Gives (.addressInfo query) (.ok records) →
      ∀ record ∈ records, record.Agrees query.socketType query.protocol := by
  refine ⟨fun infos answered => ?_, fun query records => Engine.Gives.agrees⟩
  obtain ⟨front, stale, back, replies, yields⟩ := reachable.yields started answered
  simp only [Call.plan, Plan.addressInfo, routed] at yields
  generalize outcome : (.ok (.records infos) : Result) = result at yields
  cases yields with
  | attempts body =>
    dsimp only [id_eq] at outcome
    subst outcome
    obtain ⟨service, records, named, some_, rfl, same⟩ := Attempt.addressInfo_answered body
    obtain rfl := Answer.records.inj same
    have last : .engine (.addressInfo { hints with host := name, service }) (.ok records) ∈ heard (s.notes id) := by
      rw [replies]
      exact List.mem_append_right _ (List.mem_singleton_self _)
    refine ⟨service, records, named, last, ?_, fun info member => ?_⟩
    · exact fun none => some_ (Record.backfill_eq_nil.mp none)
    · obtain ⟨record, among, completes⟩ := List.mem_flatMap.mp member
      exact ⟨record, among, Record.honours_of_mem_expand (agrees _ records last record among) completes⟩

def oneAddress (socketType : Option SocketType) (protocol : Option Protocol) : Record :=
  ⟨.inet, socketType, protocol, "", .v4 ⟨10, 0, 0, 7⟩ 0⟩

def answeredWith (hints : Hints) (records : List Record) : List Event :=
  [.start (.addressInfo (.bytes [119, 119, 119]) .absent hints), .poll 0,
    .answerEngine (.complete fun
      | .addressInfo _ => .ok records
      | _ => .error .serverFailure)]

def rawAnswered : List Event :=
  answeredWith { socketType := some .raw, protocol := 1 }
    [oneAddress none none, oneAddress (some .raw) none, oneAddress none (some 1)]

def udpAnswered : List Event :=
  answeredWith { protocol := .udp } [oneAddress (some .stream) none]

theorem agrees_of_heard {replies : List Reply} {query : AddressQuery} {records : List Record}
    (only : replies = [.engine (.addressInfo query) (.ok records)])
    (agrees : ∀ record ∈ records, record.Agrees query.socketType query.protocol) :
    ∀ other answer, .engine (.addressInfo other) (.ok answer) ∈ replies →
      ∀ record ∈ answer, record.Agrees other.socketType other.protocol := by
  intro other answer member
  rw [only, List.mem_singleton, Reply.engine.injEq, EngineQuery.addressInfo.injEq] at member
  obtain ⟨rfl, same⟩ := member
  obtain rfl := Except.ok.inj (eq_of_heq same)
  exact agrees

theorem agrees_rawAnswered : ∀ query records,
    .engine (.addressInfo query) (.ok records) ∈ heard ((run plain rawAnswered).notes 0) →
      ∀ record ∈ records, record.Agrees query.socketType query.protocol := by
  have only : heard ((run plain rawAnswered).notes 0) =
      [.engine (.addressInfo ⟨[119, 119, 119], none, .unspec, some .raw, 1, 0⟩)
        (.ok [oneAddress none none, oneAddress (some .raw) none, oneAddress none (some 1)])] := rfl
  exact agrees_of_heard only (by simp [oneAddress, Record.Agrees])

theorem agrees_udpAnswered : ∀ query records,
    .engine (.addressInfo query) (.ok records) ∈ heard ((run plain udpAnswered).notes 0) →
      ∀ record ∈ records, record.Agrees query.socketType query.protocol := by
  have only : heard ((run plain udpAnswered).notes 0) =
      [.engine (.addressInfo ⟨[119, 119, 119], none, .unspec, none, .udp, 0⟩)
        (.ok [oneAddress (some .stream) none])] := rfl
  exact agrees_of_heard only (by simp [oneAddress, Record.Agrees])

theorem request_honoured_raw :
    ∃ (infos : List AddressInfo) (records : List Record),
      (0, .ok (.records infos)) ∈ (run plain rawAnswered).results ∧ infos.length = 3 ∧
        ∀ info ∈ infos, ∃ record ∈ records, info.Honours (some .raw) 1 record := by
  have started : .started (.addressInfo (.bytes [119, 119, 119]) .absent { socketType := some .raw, protocol := 1 }) ∈
      (run plain rawAnswered).notes 0 :=
    List.Mem.head _
  have answered : (0, .ok (.records [(oneAddress none none).complete .raw 17, (oneAddress none none).complete .raw 17,
      (oneAddress none none).complete .datagram 1])) ∈ (run plain rawAnswered).results := by
    decide +kernel
  obtain ⟨honoured, -⟩ := request_honoured (Reachable.run reached_plain _) started rfl agrees_rawAnswered
  obtain ⟨service, records, -, -, -, each⟩ := honoured _ answered
  exact ⟨_, records, answered, rfl, each⟩

/-- Where raw sockets of a protocol are requested, no record of an answer that agrees with that has both, unless it had
them; and where a protocol alone is requested, a socket type of the engine decides about the protocol. -/
theorem request_overridden :
    ((∀ query records, .engine (.addressInfo query) (.ok records) ∈ heard ((run plain rawAnswered).notes 0) →
        ∀ record ∈ records, record.Agrees query.socketType query.protocol) ∧
      ∃ infos : List AddressInfo, (0, .ok (.records infos)) ∈ (run plain rawAnswered).results ∧ infos.length = 3 ∧
        ∀ info ∈ infos, ¬ (info.socketType = .raw ∧ info.protocol = 1)) ∧
    (∀ query records, .engine (.addressInfo query) (.ok records) ∈ heard ((run plain udpAnswered).notes 0) →
        ∀ record ∈ records, record.Agrees query.socketType query.protocol) ∧
      ∃ info : AddressInfo, (0, .ok (.records [info])) ∈ (run plain udpAnswered).results ∧ info.protocol = .tcp := by
  refine ⟨⟨agrees_rawAnswered, [(oneAddress none none).complete .raw 17, (oneAddress none none).complete .raw 17,
    (oneAddress none none).complete .datagram 1], by decide +kernel, rfl, by decide⟩, agrees_udpAnswered, ?_⟩
  exact ⟨(oneAddress none none).complete .stream .tcp, by decide +kernel, rfl⟩

end Resolver

end HostLookup
