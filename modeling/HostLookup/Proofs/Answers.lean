import HostLookup.Proofs.Literals
import HostLookup.Proofs.Origins
import HostLookup.Proofs.Trials

/-! Where the answers of forward lookups come from: one way for each route on which a lookup can succeed, with the
reply that has what it answers. -/
namespace HostLookup
open Resolver

/-- The name that a forward lookup of a host is about, and what has been heard to find it. An empty host stands for
the address of any interface. -/
inductive Host.StandsFor (host : Host) (family : Family) : List Reply → Bytes → Prop
  | own {name : Bytes} (given : host.isEmpty = false) (encoded : host.toBytes = .ok name) :
      StandsFor host family [] name
  | wildcard (empty : host.isEmpty = true) (only : AddressInfo) :
      StandsFor host family
        [.native (.addressInfo none (.number 0) { family, socketType := some .datagram, flags := .passive })
          (.ok [only])]
        (Text.toBytes only.address.ip.text)

/-- A reply that has the entry of a name: that of the platform if the name is special, and else that of an engine. -/
inductive HostEntry.Replied (name : Bytes) (family : Family) (entry : HostEntry) : Reply → Prop
  | engine (ordinary : name ∉ specialNames) (addressed : entry.addresses ≠ []) :
      Replied name family entry (.engine (.hostByName name family) (.ok entry))
  | native (special : name ∈ specialNames) : Replied name family entry (.native (.hostByName name) (.ok entry))

/-- A reply that has the records which a lookup of addresses answers with. Those of the platform are complete. -/
inductive AddressInfo.Replied (host : Host) (port : Port) (hints : Hints) (infos : List AddressInfo) : Reply → Prop
  | engine {name : Bytes} {service : Option Bytes} {records : List Record}
      (routed : host.route hints.flags = .ok (.engine name)) (named : port.toService = .ok service)
      (known : records ≠ []) (completed : infos = Record.backfill records hints.socketType hints.protocol) :
      Replied host port hints infos (.engine (.addressInfo { hints with host := name, service }) (.ok records))
  | native {name : Option Bytes} (routed : host.route hints.flags = .ok (.native name)) :
      Replied host port hints infos (.native (.addressInfo name port hints) (.ok infos))

namespace Attempt

variable {name : Bytes} {back : List Reply} {answer : Answer}

theorem hostByName_answered {family : Family} (yields : (hostByName name family).Yields back (.ok answer)) :
    ∃ entry, answer = .entry entry ∧ entry.addresses ≠ [] ∧
      back = [.engine (.hostByName name family) (.ok entry)] := by
  generalize outcome : (.ok answer : Result) = result at yields
  cases yields with
  | closed => contradiction
  | engine reply rest =>
    cases rest
    obtain ⟨entry, known, finished⟩ := bind_eq_ok.mp outcome.symm
    obtain rfl := mapError_eq_ok.mp known
    obtain ⟨required, addressed, done⟩ := bind_eq_ok.mp finished
    obtain rfl := Except.ok.inj done
    unfold HostEntry.requireAddresses at addressed
    split at addressed
    · contradiction
    · next some_ =>
      obtain rfl := Except.ok.inj addressed
      exact ⟨entry, rfl, by simpa using some_, rfl⟩

theorem addressInfo_answered {port : Port} {hints : Hints}
    (yields : (addressInfo name port hints).Yields back (.ok answer)) :
    ∃ service records, port.toService = .ok service ∧ records ≠ [] ∧
      back = [.engine (.addressInfo { hints with host := name, service }) (.ok records)] ∧
      answer = .records (Record.backfill records hints.socketType hints.protocol) := by
  generalize outcome : (.ok answer : Result) = result at yields
  unfold addressInfo at yields
  split at yields
  · cases yields
    contradiction
  · next service named =>
    cases yields with
    | closed => contradiction
    | engine reply rest =>
      cases rest
      cases reply with
      | error fault => contradiction
      | ok records =>
        cases records with
        | nil => contradiction
        | cons first more =>
          exact ⟨service, first :: more, named, List.cons_ne_nil first more, rfl, Except.ok.inj outcome⟩

end Attempt

namespace Plan

variable {host : Host} {family : Family} {front back : List Reply} {answer : Answer}

theorem hostEntry_answered {finish : Result → Result} (errors : ∀ e, finish (.error e) = .error e)
    (yields : (hostEntry host family finish).Yields front back (.ok answer)) :
    ∃ (name : Bytes) (entry : HostEntry) (reply : Reply), host.toBytes = .ok name ∧
      entry.Replied name family reply ∧ front ++ back = [reply] ∧ finish (.ok (.entry entry)) = .ok answer := by
  generalize outcome : (.ok answer : Result) = result at yields
  unfold hostEntry at yields
  split at yields
  · cases yields
    exact nomatch outcome.trans (errors _)
  · next name encoded =>
    split at yields
    · next special =>
      cases yields with
      | native reply rest =>
        cases rest
        cases reply with
        | error e => exact nomatch outcome.trans (errors e)
        | ok entry =>
          exact ⟨name, entry, _, encoded, .native (isLocalOrBroadcast_iff.mp special), rfl, rfl⟩
    · next ordinary =>
      have other : name ∉ specialNames := fun member => ordinary (isLocalOrBroadcast_iff.mpr member)
      cases yields with
      | @attempts loop back result body =>
        cases result with
        | error e => exact nomatch outcome.trans (errors _)
        | ok own =>
          obtain ⟨entry, rfl, addressed, rfl⟩ := Attempt.hostByName_answered body
          exact ⟨name, entry, _, encoded, .engine other addressed, rfl, rfl⟩

theorem firstAddress_answered {entry : HostEntry} (answered : firstAddress (.ok (.entry entry)) = .ok answer) :
    ∃ ip more, entry.addresses = ip :: more ∧ answer = .ip ip := by
  unfold firstAddress at answered
  cases addresses : entry.addresses with
  | nil => simp [addresses] at answered
  | cons ip more =>
    simp only [addresses, Except.ok.injEq] at answered
    exact ⟨ip, more, rfl, answered.symm⟩

theorem hostByName_answered (yields : (hostByName host family).Yields front back (.ok answer)) :
    ∃ (before : List Reply) (name : Bytes) (entry : HostEntry) (reply : Reply) (ip : Ip) (more : List Ip),
      host.StandsFor family before name ∧ entry.Replied name family reply ∧
      front ++ back = before ++ [reply] ∧ entry.addresses = ip :: more ∧ answer = .ip ip := by
  have errors (e : LookupError) : firstAddress (.error e) = .error e := rfl
  rcases wildcard_yields yields with ⟨given, rest⟩ | ⟨empty, reply, rest, rfl, failed | several | only⟩
  · obtain ⟨name, entry, reply, encoded, replied, heard, first⟩ := hostEntry_answered errors rest
    obtain ⟨ip, more, addresses, rfl⟩ := firstAddress_answered first
    exact ⟨[], name, entry, reply, ip, more, .own given encoded, replied, heard, addresses, rfl⟩
  · obtain ⟨e, -, -, -, same⟩ := failed
    contradiction
  · obtain ⟨records, -, -, -, -, same⟩ := several
    contradiction
  · obtain ⟨only, rfl, rest⟩ := only
    obtain ⟨name, entry, last, encoded, replied, heard, first⟩ := hostEntry_answered errors rest
    obtain rfl := Except.ok.inj (encoded.symm.trans (Host.toBytes_ofIp _))
    obtain ⟨ip, more, addresses, rfl⟩ := firstAddress_answered first
    exact ⟨_, _, entry, last, ip, more, .wildcard empty only, replied, congrArg _ heard, addresses, rfl⟩

theorem addressInfo_answered {port : Port} {hints : Hints}
    (yields : (addressInfo host port hints).Yields front back (.ok answer)) :
    ∃ infos reply, answer = .records infos ∧ AddressInfo.Replied host port hints infos reply ∧
      front ++ back = [reply] := by
  generalize outcome : (.ok answer : Result) = result at yields
  unfold addressInfo at yields
  split at yields
  · cases yields
    contradiction
  · next name routed =>
    cases yields with
    | native reply rest =>
      cases rest
      cases reply with
      | error e => contradiction
      | ok infos => exact ⟨infos, _, Except.ok.inj outcome, .native routed, rfl⟩
  · next name routed =>
    cases yields with
    | attempts body =>
      dsimp only [id_eq] at outcome
      subst outcome
      obtain ⟨service, records, named, known, rfl, rfl⟩ := Attempt.addressInfo_answered body
      exact ⟨_, _, rfl, .engine routed named known rfl, rfl⟩

end Plan

theorem Resolver.Reachable.answered {s : State} {id : Nat} {call : Call} {answer : Answer} (reachable : Reachable s)
    (called : (s.history id).call = some call) (done : (id, .ok answer) ∈ s.results) :
    ∃ front back, front ++ back ⊆ heard (s.notes id) ∧
      (call.plan s.config.convention).Yields front back (.ok answer) := by
  obtain ⟨front, stale, back, replies, yields⟩ := reachable.yields (started_of_called called) done
  refine ⟨front, back, ?_, yields⟩
  rw [replies]
  exact List.append_subset.mpr ⟨by simp, by simp⟩

theorem Resolver.answered_alone {s : State} {id : Nat} {call : Call} {query : NativeQuery}
    {result : Except LookupError query.Answer → Result}
    (plan : call.plan s.config.convention = .native query fun reply => .finish (result reply))
    (fresh : s.task? id = some ⟨id, .fresh call, false⟩) (idle : s.busy = none) (ready : .task id ∈ s.ready)
    (reply : NativeReply) : (id, result (reply query)) ∈ (run s [.poll id, .answerNative reply]).results := by
  obtain ⟨busy, -⟩ := step_poll_asks idle ready fresh plan
  have ended := step_answer_ends busy reply
  have ran : run s [.poll id, .answerNative reply] = step (step s (.poll id)) (.answerNative reply) := rfl
  rw [ran]
  refine State.mem_results.mpr ?_
  rw [ended]
  exact List.mem_append_right _ (List.mem_singleton.mpr rfl)

section AtOnce

variable {s : State} {id : Nat} {call : Call} {loop : Loop} {query : EngineQuery}
  {result : Except Fault query.Answer → Result}

theorem Resolver.State.answerEngine_ends {channel : Nat}
    (busy : s.busy = some (id, .engine loop s.generation channel query fun reply => .finish (result reply)))
    {reaction : Reaction} {reply : EngineReply} (at_once : reaction.reply? = some reply) :
    s.answerEngine reaction = ((s.note id (.heard (.engine query (reply query)))).note id
      (.ended s.generation (result (reply query)))).conclude id (loop.finish (result (reply query))) := by
  have goes : s.answerEngine reaction = (s.note id (.heard (.engine query (reply query)))).resume id loop
      s.generation (.finish (result (reply query))) := by
    simp only [answerEngine, busy, at_once]
  have same : (s.note id (.heard (.engine query (reply query)))).generation = s.generation := rfl
  rw [goes, resume_ends rfl, same, isStale_self]
  rfl

variable (plan : call.plan s.config.convention = .attempts loop)
  (body : loop.body = .engine query fun reply => .finish (result reply))
  (fresh : s.task? id = some ⟨id, .fresh call, false⟩) (idle : s.busy = none) (ready : .task id ∈ s.ready)

include plan body fresh idle ready

theorem Resolver.answered_at_once {slot : Slot} (live : s.slot = some slot) {reaction : Reaction}
    {reply : EngineReply} (at_once : reaction.reply? = some reply) :
    (id, .engine slot.channel query) ∈ (step s (.poll id)).issues ∧
      (id, loop.finish (result (reply query))) ∈ (run s [.poll id, .answerEngine reaction]).results := by
  let woken := State.removeTask { s with ready := s.ready.erase (.task id) } id
  have polled : act s (.poll id) = (woken.note id (.began s.generation)).ask id
      (.engine loop s.generation slot.channel query fun reply => .finish (result reply)) := by
    rw [act_poll_fresh idle ready fresh, plan, State.follow]
    exact State.begin_asks (by rw [body]; exact State.advance_engine live _ _ _)
  have stays : step s (.poll id) = act s (.poll id) := by
    rw [step, polled]
    exact settleOwner_busy (by simp [State.ask])
  have ran : run s [.poll id, .answerEngine reaction] = step (step s (.poll id)) (.answerEngine reaction) := rfl
  refine ⟨State.mem_issues.mpr ?_, State.mem_results.mpr ?_⟩
  · rw [stays, polled, State.notes_ask]
    exact List.mem_append_right _ (List.mem_singleton_self _)
  · rw [ran, stays, step, (retains_settleOwner _).notes, polled, act, State.answerEngine_ends rfl at_once,
      State.conclude]
    exact (State.notes_note _ id _).symm ▸ List.mem_append_right _ (List.mem_singleton_self _)

theorem Resolver.closed_at_once (empty : s.slot = none) :
    (id, loop.finish (.error .closed)) ∈ (step s (.poll id)).results := by
  let woken := State.removeTask { s with ready := s.ready.erase (.task id) } id
  have polled : act s (.poll id) = ((woken.note id (.began s.generation)).note id
      (.ended s.generation (.error .closed))).conclude id (loop.finish (.error .closed)) := by
    rw [act_poll_fresh idle ready fresh, plan, State.follow]
    exact State.begin_ends (by rw [body]; exact State.advance_engine_closed empty _ _ _)
  refine State.mem_results.mpr ?_
  rw [step, (retains_settleOwner _).notes, polled, State.conclude]
  exact (State.notes_note _ id _).symm ▸ List.mem_append_right _ (List.mem_singleton_self _)

end AtOnce

end HostLookup
