import HostLookup.Proofs.Bypass
import HostLookup.Proofs.Outcomes

/-! Where the errors of lookups come from: one way for each place in a plan at which a lookup can fail, with what
it has heard then. -/
namespace HostLookup
open Resolver

theorem bind_eq_error {ε α β : Type} {value : Except ε α} {next : α → Except ε β} {e : ε}
    (failed : value >>= next = .error e) :
    value = .error e ∨ ∃ produced, value = .ok produced ∧ next produced = .error e := by
  cases value with
  | error other => exact .inl (congrArg _ (Except.error.inj failed))
  | ok produced => exact .inr ⟨produced, rfl, failed⟩

theorem mapError_eq_error {ε δ α : Type} {value : Except ε α} {change : ε → δ} {e : δ} :
    value.mapError change = .error e ↔ ∃ cause, value = .error cause ∧ change cause = e := by
  cases value <;> simp [Except.mapError]

theorem bind_eq_ok {ε α β : Type} {value : Except ε α} {next : α → Except ε β} {result : β} :
    value >>= next = .ok result ↔ ∃ produced, value = .ok produced ∧ next produced = .ok result := by
  cases value <;> simp [bind, Except.bind]

theorem mapError_eq_ok {ε δ α : Type} {value : Except ε α} {change : ε → δ} {result : α} :
    value.mapError change = .ok result ↔ value = .ok result := by
  cases value <;> simp [Except.mapError]

theorem map_eq_ok {ε α β : Type} {value : Except ε α} {change : α → β} {result : β} :
    value.map change = .ok result ↔ ∃ own, value = .ok own ∧ change own = result := by
  cases value <;> simp [Except.map]

inductive LookupError.IsRefusal : LookupError → Prop
  | type (message : String) : IsRefusal (.type message)
  | value (message : String) : IsRefusal (.value message)

theorem Host.toBytes_refusal {host : Host} {e : LookupError} (refused : host.toBytes = .error e) :
    e.IsRefusal := by
  cases host with
  | text name =>
    simp only [toBytes, encode] at refused
    split at refused
    · contradiction
    · split at refused
      · contradiction
      · cases refused
        exact .value _
  | bytes name => contradiction
  | absent =>
    cases refused
    exact .type _
  | unsupported typeName =>
    cases refused
    exact .type _

theorem Port.toService_refusal {port : Port} {e : LookupError} (refused : port.toService = .error e) :
    e.IsRefusal := by
  cases port with
  | number n => contradiction
  | text name =>
    simp only [toService] at refused
    split at refused
    · contradiction
    · cases refused
      exact .value _
  | absent => contradiction
  | unsupported typeName =>
    cases refused
    exact .type _

theorem Host.route_refusal {host : Host} {flags : Flags} {e : LookupError} (refused : host.route flags = .error e) :
    e.IsRefusal := by
  unfold Host.route at refused
  split at refused
  · contradiction
  · rcases bind_eq_error refused with unencoded | ⟨name, -, routed⟩
    · exact Host.toBytes_refusal unencoded
    · contradiction

theorem Record.single_ok {records : List Record} {record : Record} (only : single records = .ok record) :
    records = [record] := by
  unfold single at only
  split at only
  · contradiction
  · rw [Except.ok.inj only]
  · contradiction

theorem Record.require_error {records : List Record} {e : LookupError} (failed : require records = .error e) :
    e = .nameNotKnown := by
  unfold require at failed
  split at failed
  · exact (Except.error.inj failed).symm
  · contradiction

theorem NodeInfo.finish_error {convention : Convention} {info : NodeInfo} {e : LookupError}
    (failed : info.finish convention = .error e) : e = .nameNotKnown := by
  unfold finish at failed
  split at failed
  · contradiction
  · exact (Except.error.inj failed).symm
  · contradiction

/-- A reply to a lookup of the records of a host, and what it comes to. -/
inductive Candidates (host : Bytes) (port : Port) (hints : Hints) :
    Reply → Except LookupError (List Record) → Prop
  | native (reply : Except LookupError (List AddressInfo)) :
      Candidates host port hints (.native (.addressInfo (some host) port hints) reply)
        (reply.map fun infos => infos.map AddressInfo.toRecord)
  | engine {service : Option Bytes} (named : port.toService = .ok service)
      (reply : Except Fault (List Record)) :
      Candidates host port hints (.engine (.addressInfo { hints with host, service }) reply)
        (reply.mapError Fault.toAddressError)

def Call.passes : Call → LookupError → LookupError
  | .hostByName .. | .hostEntry .. => LookupError.ofForward
  | _ => id

def Call.IsForward : Call → Prop
  | .hostByName .. | .hostEntry .. => True
  | _ => False

def Call.AsksPlatform : Call → Prop
  | .hostEntry host _ => ∃ name ∈ specialNames, host.toBytes = .ok name
  | .hostByAddress host => host.isEmpty = true
  | .nameInfo .. => False
  | _ => True

def Call.wildcard? : Call → Option Hints
  | .hostByName host family =>
    if host.isEmpty then some { family, socketType := some .datagram, flags := .passive } else none
  | .hostByAddress host =>
    if host.isEmpty then some { family := .unspec, socketType := some .datagram, flags := .passive } else none
  | _ => none

/-- Where an error of a lookup comes from that has heard `front` before its attempts, and `back` in the last. -/
inductive Origin : Call → List Reply → List Reply → LookupError → Prop
  | refused {call : Call} {front : List Reply} {e : LookupError} (refusal : e.IsRefusal) : Origin call front [] e
  | endpoint {endpoint : Endpoint} {flags : Flags} {e : LookupError} (check : endpoint.target = .error e) :
      Origin (.nameInfo endpoint flags) [] [] e
  | closed {call : Call} {front back : List Reply} : Origin call front back .closed
  | platform {call : Call} {front : List Reply} {query : NativeQuery} {e : LookupError}
      (asks : call.AsksPlatform) : Origin call (front ++ [.native query (.error e)]) [] e
  | ambiguous {call : Call} {hints : Hints} {records : List AddressInfo} (asks : call.wildcard? = some hints)
      (several : records.length ≠ 1) :
      Origin call [.native (.addressInfo none (.number 0) hints) (.ok records)] []
        (.system "wildcard resolved to multiple address")
  | fault {call : Call} {front back : List Reply} {query : EngineQuery} {fault : Fault}
      (own : query.family = call.family) :
      Origin call front (back ++ [.engine query (.error fault)]) (call.passes (query.toError fault))
  | unaddressed {call : Call} {front back : List Reply} (forward : call.IsForward) :
      Origin call front back (.host AddressCode.noName (AddressCode.text AddressCode.noName))
  /-- The answer lacks what was asked for. -/
  | unknown {call : Call} {front back : List Reply} (other : ∀ host, call ≠ .hostByAddress host) :
      Origin call front back .nameNotKnown
  | auxiliary {host : Host} {front : List Reply} {address : Bytes} {text : String} {reply : Reply}
      {found : Except LookupError (List Record)} {e : LookupError}
      (argument : host.isEmpty = false → host.toBytes = .ok address)
      (candidates : Candidates address .absent Attempt.datagram reply found)
      (failed : found = .error e ∨ found = .ok [] ∧ e = .nameNotKnown) :
      Origin (.hostByAddress host) front
        [.engine (.hostByAddress address) (.error (.invalidIp text)), reply] e
  /-- The name that was to be an address has itself as its address. -/
  | itself {host : Host} {front : List Reply} {query : EngineQuery} {text : String} {reply : Reply} :
      Origin (.hostByAddress host) front [.engine query (.error (.invalidIp text)), reply] (.invalidIp text)
  | candidates {endpoint : Endpoint} {flags : Flags} {target : Target} {reply : Reply} {e : LookupError}
      (checked : endpoint.target = .ok target)
      (failed : Candidates target.host (.number target.port.toNat) Attempt.datagram reply (.error e)) :
      Origin (.nameInfo endpoint flags) [] [reply] e
  | single {endpoint : Endpoint} {flags : Flags} {target : Target} {reply : Reply} {records : List Record}
      {e : LookupError} (checked : endpoint.target = .ok target)
      (found : Candidates target.host (.number target.port.toNat) Attempt.datagram reply (.ok records))
      (several : Record.single records = .error e) : Origin (.nameInfo endpoint flags) [] [reply] e
  | arity {endpoint : Endpoint} {flags : Flags} {target : Target} {reply : Reply} {record : Record}
      {e : LookupError} (checked : endpoint.target = .ok target)
      (found : Candidates target.host (.number target.port.toNat) Attempt.datagram reply (.ok [record]))
      (refused : record.nameInfoAddress endpoint = .error e) : Origin (.nameInfo endpoint flags) [] [reply] e

section Attempts

variable {call : Call} {front back : List Reply} {e : LookupError} {result : Result}

theorem Attempt.candidates_yields {host : Bytes} {port : Port} {hints : Hints}
    {next : Except LookupError (List Record) → Attempt}
    (yields : (candidates host port hints next).Yields back result) :
    (∃ e, port.toService = .error e ∧ (next (.error e)).Yields back result) ∨
      back = [] ∧ result = .error .closed ∨
      ∃ reply found more, back = reply :: more ∧ Candidates host port hints reply found ∧
        (next found).Yields more result := by
  unfold candidates at yields
  split at yields
  · cases yields with
    | native reply rest => exact .inr (.inr ⟨_, _, _, rfl, .native reply, rest⟩)
  · split at yields
    · next e refused => exact .inl ⟨e, refused, yields⟩
    · next service named =>
      cases yields with
      | closed => exact .inr (.inl ⟨rfl, rfl⟩)
      | engine reply rest => exact .inr (.inr ⟨_, _, _, rfl, .engine named reply, rest⟩)

theorem origin_hostByName {name : Bytes} {family : Family} {finish : Result → Result} (forward : call.IsForward)
    (own : call.family = .host) (passes : call.passes = LookupError.ofForward)
    (errors : ∀ e, finish (.error e) = .error e)
    (answers : ∀ entry e, finish (.ok (.entry entry)) = .error e → e = .nameNotKnown)
    (other : ∀ host, call ≠ .hostByAddress host)
    (yields : (Attempt.hostByName name family).Yields back result)
    (failed : finish (result.mapError LookupError.ofForward) = .error e) : Origin call front back e := by
  cases yields with
  | closed =>
    obtain rfl : .closed = e := Except.error.inj ((errors _).symm.trans failed)
    exact .closed
  | engine reply rest =>
    cases rest
    cases reply with
    | error fault =>
      obtain rfl : fault.toHostError.ofForward = e := Except.error.inj ((errors _).symm.trans failed)
      have origin : Origin call front ([] ++ [.engine (.hostByName name family) (.error fault)])
          (call.passes fault.toHostError) := .fault own.symm
      rwa [passes] at origin
    | ok entry =>
      by_cases empty : entry.addresses.isEmpty
      · simp only [Except.mapError, bind, Except.bind, HostEntry.requireAddresses, empty, if_true] at failed
        obtain rfl := Except.error.inj ((errors _).symm.trans failed)
        exact .unaddressed forward
      · simp only [Except.mapError, bind, Except.bind, HostEntry.requireAddresses, empty, if_false,
          Bool.false_eq_true, pure, Except.pure] at failed
        obtain rfl := answers _ _ failed
        exact .unknown other

theorem origin_addressInfo {host : Host} {name : Bytes} {port : Port} {hints : Hints}
    (yields : (Attempt.addressInfo name port hints).Yields back (.error e)) :
    Origin (.addressInfo host port hints) front back e := by
  unfold Attempt.addressInfo at yields
  split at yields
  · next other refused =>
    cases yields
    exact .refused (Port.toService_refusal refused)
  · generalize outcome : (Except.error e : Result) = result at yields
    cases yields with
    | closed =>
      cases outcome
      exact .closed
    | engine reply rest =>
      cases rest
      cases reply with
      | error fault =>
        obtain rfl := Except.error.inj outcome
        have origin (query : AddressQuery) : Origin (.addressInfo host port hints) front
            ([] ++ [.engine (.addressInfo query) (.error fault)]) fault.toAddressError := .fault rfl
        exact origin _
      | ok records =>
        rcases bind_eq_error outcome.symm with failed | ⟨answer, known, finished⟩
        · contradiction
        · rcases bind_eq_error finished with none | ⟨required, -, done⟩
          · obtain rfl := Record.require_error none
            exact .unknown (by simp)
          · contradiction

theorem finishEntry_yields {reply : Except Fault HostEntry}
    (yields : (Attempt.finishEntry reply).Yields back (.error e)) :
    back = [] ∧ ∃ fault, reply = .error fault ∧ e = fault.toHostError := by
  generalize outcome : (Except.error e : Result) = result at yields
  cases yields
  cases reply with
  | error fault => exact ⟨rfl, fault, rfl, Except.error.inj outcome⟩
  | ok entry => contradiction

theorem origin_hostByAddress {host : Host} {address : Bytes}
    (argument : host.isEmpty = false → host.toBytes = .ok address)
    (yields : (Attempt.hostByAddress address).Yields back (.error e)) :
    Origin (.hostByAddress host) front back e := by
  have fault (query : Bytes) (before : List Reply) (fault : Fault) :
      Origin (.hostByAddress host) front (before ++ [.engine (.hostByAddress query) (.error fault)])
        fault.toHostError := .fault rfl
  generalize outcome : (Except.error e : Result) = result at yields
  cases yields with
  | closed =>
    cases outcome
    exact .closed
  | engine reply rest =>
    subst outcome
    dsimp only at rest
    split at rest
    · next reason =>
      rcases Attempt.candidates_yields rest with
        ⟨other, refused, -⟩ | ⟨rfl, same⟩ | ⟨answer, found, more, rfl, asked, rest⟩
      · contradiction
      · cases same
        exact .closed
      · split at rest
        · cases rest
          exact .auxiliary argument asked (.inl rfl)
        · cases rest
          exact .auxiliary argument asked (.inr ⟨rfl, rfl⟩)
        · split at rest
          · cases rest
            exact .itself
          · generalize outcome : (Except.error e : Result) = result at rest
            cases rest with
            | closed =>
              cases outcome
              exact .closed
            | engine last rest =>
              subst outcome
              obtain ⟨rfl, failure, rfl, rfl⟩ := finishEntry_yields rest
              exact fault _ [_, _] failure
    · obtain ⟨rfl, failure, rfl, rfl⟩ := finishEntry_yields rest
      exact fault _ [] failure

theorem origin_nameInfo {convention : Convention} {endpoint : Endpoint} {flags : Flags} {target : Target}
    (checked : endpoint.target = .ok target)
    (yields : (Attempt.nameInfo convention target endpoint flags).Yields back (.error e)) :
    Origin (.nameInfo endpoint flags) [] back e := by
  rcases Attempt.candidates_yields yields with
    ⟨other, refused, -⟩ | ⟨rfl, same⟩ | ⟨reply, found, more, rfl, asked, rest⟩
  · contradiction
  · cases same
    exact .closed
  · split at rest
    · next failure failed =>
      cases rest
      rcases bind_eq_error failed with rfl | ⟨records, rfl, chosen⟩
      · exact .candidates checked asked
      · rcases bind_eq_error chosen with several | ⟨record, only, refused⟩
        · exact .single checked asked several
        · obtain rfl := Record.single_ok only
          exact .arity checked asked refused
    · next address named =>
      generalize outcome : (Except.error e : Result) = result at rest
      cases rest with
      | closed =>
        cases outcome
        exact .closed
      | engine last rest =>
        cases rest
        cases last with
        | error fault =>
          obtain rfl := Except.error.inj outcome
          have own : (EngineQuery.nameInfo address flags).family = (Call.nameInfo endpoint flags).family := rfl
          have origin : Origin (.nameInfo endpoint flags) []
            ([reply] ++ [.engine (.nameInfo address flags) (.error fault)]) fault.toAddressError := .fault own
          exact origin
        | ok info =>
          rcases bind_eq_error outcome.symm with failed | ⟨answer, known, finished⟩
          · contradiction
          · rcases bind_eq_error finished with unnamed | ⟨names, -, done⟩
            · obtain rfl := NodeInfo.finish_error unnamed
              exact .unknown (by simp)
            · contradiction

end Attempts

section Plans

variable {call : Call} {front back : List Reply} {e : LookupError} {result : Result} {convention : Convention}

theorem Plan.wildcard_yields {host : Host} {family : Family} {next : Host → Plan}
    (yields : (wildcard host family next).Yields front back result) :
    host.isEmpty = false ∧ (next host).Yields front back result ∨
      host.isEmpty = true ∧ ∃ reply rest, front = .native (.addressInfo none (.number 0)
          { family, socketType := some .datagram, flags := .passive }) reply :: rest ∧
        ((∃ e, reply = .error e ∧ rest = [] ∧ back = [] ∧ result = .error e) ∨
          (∃ records, reply = .ok records ∧ records.length ≠ 1 ∧ rest = [] ∧ back = [] ∧
            result = .error (.system "wildcard resolved to multiple address")) ∨
          ∃ only, reply = .ok [only] ∧ (next (.ofIp only.address.ip)).Yields rest back result) := by
  unfold wildcard at yields
  split at yields
  · next empty =>
    cases yields with
    | native reply rest =>
      refine .inr ⟨empty, reply, _, rfl, ?_⟩
      dsimp only at rest
      split at rest
      · cases rest
        exact .inl ⟨_, rfl, rfl, rfl, rfl⟩
      · next only => exact .inr (.inr ⟨only, rfl, rest⟩)
      · next records several =>
        cases rest
        refine .inr (.inl ⟨records, rfl, fun one => ?_, rfl, rfl, rfl⟩)
        obtain ⟨only, rfl⟩ := List.length_eq_one_iff.mp one
        exact several only rfl
  · next named => exact .inl ⟨by simpa using named, yields⟩

theorem origin_hostEntry {host : Host} {family : Family} {finish : Result → Result} (before : List Reply)
    (forward : call.IsForward) (own : call.family = .host) (passes : call.passes = LookupError.ofForward)
    (asks : ∀ name ∈ specialNames, host.toBytes = .ok name → call.AsksPlatform)
    (errors : ∀ e, finish (.error e) = .error e)
    (answers : ∀ entry e, finish (.ok (.entry entry)) = .error e → e = .nameNotKnown)
    (other : ∀ host, call ≠ .hostByAddress host)
    (yields : (Plan.hostEntry host family finish).Yields front back (.error e)) :
    Origin call (before ++ front) back e := by
  unfold Plan.hostEntry at yields
  split at yields
  · next refusal refused =>
    generalize outcome : (Except.error e : Result) = result at yields
    cases yields
    obtain rfl := Except.error.inj (outcome.trans (errors _))
    exact .refused (Host.toBytes_refusal refused)
  · next name encoded =>
    split at yields
    · next special =>
      cases yields with
      | native reply rest =>
        generalize outcome : (Except.error e : Result) = result at rest
        cases rest
        cases reply with
        | error failure =>
          obtain rfl := Except.error.inj (outcome.trans (errors _))
          exact .platform (asks name (isLocalOrBroadcast_iff.mp special) encoded)
        | ok entry =>
          obtain rfl := answers entry e outcome.symm
          exact .unknown other
    · generalize outcome : (Except.error e : Result) = result at yields
      cases yields with
      | attempts body =>
        exact origin_hostByName forward own passes errors answers other body outcome.symm

theorem origin_attempts {host : Host} {address : Bytes} (before : List Reply)
    (argument : host.isEmpty = false → host.toBytes = .ok address)
    (yields : (Plan.attempts { family := .host, body := .hostByAddress address, finish := id }).Yields
      front back (.error e)) : Origin (.hostByAddress host) (before ++ front) back e := by
  generalize outcome : (Except.error e : Result) = result at yields
  cases yields with
  | attempts body =>
    subst outcome
    exact origin_hostByAddress argument body

private theorem platform_alone {query : NativeQuery} (asks : call.AsksPlatform) :
    Origin call [.native query (.error e)] [] e := by
  have origin : Origin call ([] ++ [.native query (.error e)]) [] e := .platform asks
  exact origin

theorem plan_origin (yields : (call.plan convention).Yields front back (.error e)) :
    Origin call front back e := by
  cases call with
  | hostByName host family =>
    have entry (before rest : List Reply) (named : Host)
        (yields : (Plan.hostEntry named family Plan.firstAddress).Yields rest back (.error e)) :
        Origin (.hostByName host family) (before ++ rest) back e := by
      refine origin_hostEntry before trivial rfl rfl (fun _ _ _ => trivial) (fun _ => rfl) ?_ (by simp) yields
      intro entry e failed
      simp only [Plan.firstAddress] at failed
      split at failed
      · exact (Except.error.inj failed).symm
      · contradiction
    simp only [Call.plan, Plan.hostByName] at yields
    rcases Plan.wildcard_yields yields with ⟨-, rest⟩ | ⟨empty, reply, rest, rfl, failed | several | only⟩
    · exact entry [] front host rest
    · obtain ⟨failure, rfl, rfl, rfl, same⟩ := failed
      cases same
      have asks : (Call.hostByName host family).AsksPlatform := trivial
      exact platform_alone asks
    · obtain ⟨records, rfl, several, rfl, rfl, same⟩ := several
      cases same
      exact .ambiguous (if_pos empty) several
    · obtain ⟨only, rfl, named⟩ := only
      exact entry [_] rest _ named
  | hostEntry host family =>
    refine origin_hostEntry [] trivial rfl rfl ?_ (fun _ => rfl) ?_ (by simp) yields
    · exact fun name special encoded => ⟨name, special, encoded⟩
    · exact fun entry e failed => by simp at failed
  | addressInfo host port hints =>
    simp only [Call.plan, Plan.addressInfo] at yields
    split at yields
    · next refusal refused =>
      cases yields
      exact .refused (Host.route_refusal refused)
    · cases yields with
      | native reply rest =>
        generalize outcome : (Except.error e : Result) = result at rest
        cases rest
        cases reply with
        | error failure =>
          cases outcome
          have asks : (Call.addressInfo host port hints).AsksPlatform := trivial
          exact platform_alone asks
        | ok infos => contradiction
    · generalize outcome : (Except.error e : Result) = result at yields
      cases yields with
      | attempts body =>
        subst outcome
        exact origin_addressInfo body
  | hostByAddress host =>
    simp only [Call.plan, Plan.hostByAddress] at yields
    rcases Plan.wildcard_yields yields with ⟨-, rest⟩ | ⟨empty, reply, rest, rfl, failed | several | only⟩
    · split at rest
      · next refusal refused =>
        cases rest
        exact .refused (Host.toBytes_refusal refused)
      · next address encoded => exact origin_attempts [] (fun _ => encoded) rest
    · obtain ⟨failure, rfl, rfl, rfl, same⟩ := failed
      cases same
      have asks : (Call.hostByAddress host).AsksPlatform := empty
      exact platform_alone asks
    · obtain ⟨records, rfl, several, rfl, rfl, same⟩ := several
      cases same
      exact .ambiguous (if_pos empty) several
    · obtain ⟨only, rfl, named⟩ := only
      split at named
      · next refusal refused =>
        cases named
        exact .refused (Host.toBytes_refusal refused)
      · next address encoded => exact origin_attempts [_] (fun filled => by simp [empty] at filled) named
  | nameInfo endpoint flags =>
    simp only [Call.plan, Plan.nameInfo] at yields
    split at yields
    · next refusal refused =>
      cases yields
      exact .endpoint refused
    · next target checked =>
      generalize outcome : (Except.error e : Result) = result at yields
      cases yields with
      | attempts body =>
        subst outcome
        exact origin_nameInfo checked body

end Plans

end HostLookup
