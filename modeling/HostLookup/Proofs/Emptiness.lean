import HostLookup.Proofs.Answers
import HostLookup.Proofs.Entries
import HostLookup.Proofs.Expansion

/-! Answers without records or addresses. An engine's are errors on every route; the platform's are passed on where it
answers alone, and it has such an answer where the library knows none of the entries that were found. -/
namespace HostLookup
open Resolver

def Answer.IsEmpty : Answer → Prop
  | .records infos => infos = []
  | .entry found => found.addresses = []
  | .ip _ | .names _ => False

/-- What the platform replies to a call that it answers alone, and passes for an answer that is empty. -/
inductive Call.Hollow (call : Call) : Reply → Answer → Prop
  | records {host : Option Bytes} {port : Port} {hints : Hints}
      (bypasses : call.Bypasses (.addressInfo host port hints)) :
      Hollow call (.native (.addressInfo host port hints) (.ok [])) (.records [])
  | entry {name : Bytes} {entry : HostEntry} (bypasses : call.Bypasses (.hostByName name))
      (none : entry.addresses = []) : Hollow call (.native (.hostByName name) (.ok entry)) (.entry entry)

inductive Resolver.Reply.Barren : Reply → LookupError → Prop
  | records (query : AddressQuery) : Barren (.engine (.addressInfo query) (.ok [])) .nameNotKnown
  | entry (name : Bytes) (family : Family) {entry : HostEntry} (none : entry.addresses = []) :
      Barren (.engine (.hostByName name family) (.ok entry))
        (.host AddressCode.noName (AddressCode.text AddressCode.noName))

def Call.AsksAddresses : Call → Prop
  | .hostByName .. | .hostEntry .. | .addressInfo .. => True
  | .hostByAddress _ | .nameInfo .. => False

section Attempts

variable {asked : List Lookup} {heard : List Reply} {ending : Ending} {reply : Reply} {e : LookupError}

theorem Attempt.hostByName_barren {name : Bytes} {family : Family}
    (runs : (hostByName name family).Runs asked heard ending) (member : reply ∈ heard) (barren : reply.Barren e) :
    ∃ finish, ending = some (finish, .error e) := by
  cases runs with
  | unserved => nomatch member
  | awaitsEngine => nomatch member
  | engine answer rest =>
    cases rest with
    | finish finish =>
      obtain rfl := List.mem_singleton.mp member
      cases barren with
      | entry name family none =>
        exact ⟨finish, by simp [Except.mapError, bind, Except.bind, HostEntry.requireAddresses, none]⟩

theorem Attempt.addressInfo_barren {host : Bytes} {port : Port} {hints : Hints}
    (runs : (addressInfo host port hints).Runs asked heard ending) (member : reply ∈ heard)
    (barren : reply.Barren e) : ∃ finish, ending = some (finish, .error e) := by
  unfold addressInfo at runs
  split at runs
  · cases runs
    nomatch member
  · cases runs with
    | unserved => nomatch member
    | awaitsEngine => nomatch member
    | engine answer rest =>
      cases rest with
      | finish finish =>
        obtain rfl := List.mem_singleton.mp member
        cases barren with
        | records query => exact ⟨finish, rfl⟩

end Attempts

theorem Call.Makes.barren {convention : Convention} {call : Call} {loop : Loop} (makes : call.Makes convention loop)
    (addresses : call.AsksAddresses) {asked : List Lookup} {heard : List Reply} {ending : Ending}
    (runs : loop.body.Runs asked heard ending) {reply : Reply} (member : reply ∈ heard) {e : LookupError}
    (barren : reply.Barren e) : ∃ finish, ending = some (finish, .error e) := by
  cases makes with
  | hostByName ordinary => exact Attempt.hostByName_barren runs member barren
  | hostEntry ordinary => exact Attempt.hostByName_barren runs member barren
  | addressInfo routed => exact Attempt.addressInfo_barren runs member barren
  | hostByAddress address => nomatch addresses
  | nameInfo checked => nomatch addresses

theorem hollow_of_yields {convention : Convention} {call : Call} {front back : List Reply} {answer : Answer}
    (yields : (call.plan convention).Yields front back (.ok answer)) (addresses : call.AsksAddresses)
    (empty : answer.IsEmpty) : ∃ reply, front ++ back = [reply] ∧ call.Hollow reply answer := by
  cases call with
  | hostByName host family =>
    obtain ⟨before, name, entry, reply, ip, more, -, -, -, -, rfl⟩ := Plan.hostByName_answered yields
    nomatch empty
  | hostEntry host family =>
    obtain ⟨name, entry, reply, encoded, replied, heard, same⟩ := Plan.hostEntry_answered (fun _ => rfl) yields
    obtain rfl := Except.ok.inj same
    cases replied with
    | engine ordinary addressed => exact absurd empty addressed
    | native special => exact ⟨_, heard, .entry (.hostEntry family encoded special) empty⟩
  | addressInfo host port hints =>
    obtain ⟨infos, reply, rfl, replied, heard⟩ := Plan.addressInfo_answered yields
    obtain rfl : infos = [] := empty
    cases replied with
    | engine routed named known completed => exact absurd (Record.backfill_eq_nil.mp completed.symm) known
    | native routed => exact ⟨_, heard, .records (.of_route routed port)⟩
  | hostByAddress host => nomatch addresses
  | nameInfo endpoint flags => nomatch addresses

theorem Call.Hollow.result_eq {call : Call} {query : NativeQuery} {given : Except LookupError query.Answer}
    {answer : Answer} (hollow : call.Hollow (.native query given) answer) :
    call.Bypasses query ∧ query.result given = .ok answer := by
  cases hollow with
  | records bypasses => exact ⟨bypasses, rfl⟩
  | entry bypasses none => exact ⟨bypasses, rfl⟩

namespace Platform

theorem literals_addressInfo_eq_nil {host : Option Bytes} {port : Port} {hints : Hints} {infos : List AddressInfo}
    (ok : literals.addressInfo host port hints = .ok infos) :
    infos = [] ↔ hints.socketType = none ∧ hints.protocol = unmodelledProtocol := by
  obtain ⟨service, entries, -, found, rfl⟩ := Search.addressInfo_eq_ok ok
  obtain ⟨name, read, chosen, located, -, transports, addresses, rfl⟩ := search_eq_ok (literals_eq_ok.mp found)
  obtain ⟨address, member⟩ := List.exists_mem_of_ne_nil located (admits_addresses addresses).1
  rw [collect_entriesOf_eq_nil, ← unmodelled_iff transports]
  exact ⟨fun each => each address member, fun each _ _ => each⟩

theorem literals_hostByName_ne_nil {name : Bytes} {entry : HostEntry} (ok : literals.hostByName name = .ok entry) :
    entry.addresses ≠ [] := by
  obtain ⟨records, found, rfl⟩ := Search.hostByName_eq_ok ok
  rw [ne_eq, addresses_hostEntry_eq_nil, literals_addressInfo_eq_nil found]
  exact fun both => nomatch both.1

end Platform

namespace Resolver

/-- Empty answers come from the platform alone. Where addresses are asked for, a lookup succeeds without any only if
the platform, which answers the call alone, has replied just that; and the one address of a host is the first of a list
that was had for this host. An empty answer of an engine ends its attempt with an error. Each empty reply of the
platform to such a call is the answer; and it replies so where it knows nothing of the entries that are found, which,
without files and a network, is so for one protocol alone, and never for the entry of a name. -/
theorem empty_answers {s : State} (reachable : Reachable s) :
    (∀ id call answer, call.AsksAddresses → (s.history id).call = some call → (id, .ok answer) ∈ s.results →
      answer.IsEmpty → ∃ reply ∈ heard (s.notes id), call.Hollow reply answer) ∧
    (∀ id host family answer, (s.history id).call = some (.hostByName host family) →
      (id, .ok answer) ∈ s.results →
      ∃ (before : List Reply) (name : Bytes) (entry : HostEntry) (reply : Reply) (ip : Ip) (more : List Ip),
        host.StandsFor family before name ∧ entry.Replied name family reply ∧
          before ++ [reply] ⊆ heard (s.notes id) ∧ entry.addresses = ip :: more ∧ answer = .ip ip) ∧
    (∀ id call, call.AsksAddresses → (s.history id).call = some call → ∀ t ∈ (s.history id).trials,
      ∀ reply ∈ t.replies, ∀ e, reply.Barren e → ∃ finish, t.ending = some (finish, .error e)) ∧
    (∀ id call query given answer, call.Hollow (.native query given) answer →
      s.task? id = some ⟨id, .fresh call, false⟩ → s.busy = none → .task id ∈ s.ready →
      ∀ reply : NativeReply, reply query = given →
        (id, .ok answer) ∈ (run s [.poll id, .answerNative reply]).results) ∧
    (∀ (search : Platform.Search) host port hints, search.addressInfo host port hints = .ok [] →
      ∃ service entries, search host service hints = .ok entries ∧ ∀ entry ∈ entries, entry.toInfo? = none) ∧
    (∀ host port hints infos, Platform.literals.addressInfo host port hints = .ok infos →
      (infos = [] ↔ hints.socketType = none ∧ hints.protocol = 33)) ∧
    ∀ name entry, Platform.literals.hostByName name = .ok entry → entry.addresses ≠ [] := by
  refine ⟨fun id call answer addresses called done empty => ?_, fun id host family answer called done => ?_,
    fun id call addresses called t member reply among e barren => ?_,
    fun id call query given answer hollow fresh idle ready reply same => ?_, fun search host port hints ok => ?_,
    fun host port hints infos => Platform.literals_addressInfo_eq_nil,
    fun name entry => Platform.literals_hostByName_ne_nil⟩
  · obtain ⟨front, back, among, yields⟩ := reachable.answered called done
    obtain ⟨reply, whole, hollow⟩ := hollow_of_yields yields addresses empty
    exact ⟨reply, among (whole ▸ List.mem_singleton_self reply), hollow⟩
  · obtain ⟨front, back, among, yields⟩ := reachable.answered called done
    obtain ⟨before, name, entry, reply, ip, more, stands, replied, whole, first, rfl⟩ :=
      Plan.hostByName_answered yields
    exact ⟨before, name, entry, reply, ip, more, stands, replied, whole ▸ among, first, rfl⟩
  · obtain ⟨loop, makes, runs⟩ := reachable.makes_trials called member
    exact makes.barren addresses runs among barren
  · obtain ⟨bypasses, result⟩ := hollow.result_eq
    have answered := answered_alone (bypasses.plan_eq _) fresh idle ready reply
    rw [same, result] at answered
    exact answered
  · obtain ⟨service, entries, -, found, none⟩ := Platform.Search.addressInfo_eq_ok ok
    exact ⟨service, entries, found, List.filterMap_eq_nil_iff.mp none.symm⟩

def unmodelledLookup : Call :=
  .addressInfo (.text "10.0.0.1") .absent { flags := .numericHost, protocol := 33 }

theorem empty_answers_unmodelled :
    let s := run plain [.start unmodelledLookup]
    let t := run s [.poll 0, .answerNative Platform.reply]
    (0, .ok (.records [])) ∈ t.results ∧
      ∃ reply ∈ heard (t.notes 0), unmodelledLookup.Hollow reply (.records []) := by
  intro s t
  have numeric : Call.Bypasses unmodelledLookup (.addressInfo (some (Text.toBytes "10.0.0.1")) .absent
      { flags := .numericHost, protocol := 33 }) :=
    .addressInfo .absent rfl (.inr rfl)
  have none : Platform.reply (.addressInfo (some (Text.toBytes "10.0.0.1")) .absent
      { flags := .numericHost, protocol := 33 }) = .ok [] := by
    decide +kernel
  obtain ⟨-, -, -, passes, -⟩ := empty_answers (Reachable.run reached_plain [.start unmodelledLookup])
  have done : (0, .ok (.records [])) ∈ t.results :=
    passes 0 _ _ _ _ (.records numeric) rfl rfl (by decide) Platform.reply none
  obtain ⟨only, -⟩ := empty_answers (s := t) (Reachable.run (Reachable.run reached_plain _) _)
  exact ⟨done, only 0 unmodelledLookup (.records []) trivial rfl done rfl⟩

end Resolver

end HostLookup
