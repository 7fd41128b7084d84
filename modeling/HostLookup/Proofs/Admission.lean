import HostLookup.Proofs.Answers
import HostLookup.Proofs.BuiltIn
import HostLookup.Proofs.Entries

/-! The family that is asked for. What a lookup by name answers with belongs to it, where an engine has been asked and
where any interface was meant; the platform is asked for the entry of a special name without a family, and answers
with addresses of IPv4. -/
namespace HostLookup
open Resolver

theorem Family.inet_admits {ip : Ip} : inet.admits ip = true ↔ ip.family = .inet := by
  cases ip <;> simp [admits, Ip.family]

/-- The addresses that are found belong to the family asked for. -/
def Platform.Search.KeepsFamily (search : Platform.Search) : Prop :=
  ∀ host service hints entries, search host service hints = .ok entries →
    ∀ entry ∈ entries, ∀ address ∈ entry.address, hints.family.admits address.ip = true

namespace Platform

theorem literals_keepsFamily : literals.KeepsFamily := by
  intro host service hints entries ok entry member address located
  obtain ⟨name, read, chosen, found, -, -, addresses, rfl⟩ := search_eq_ok (literals_eq_ok.mp ok)
  obtain ⟨own, among, transport, -, same⟩ := mem_entriesOf member
  obtain rfl : withPort (portOf read) own = address :=
    Option.some.inj ((congrArg Entry.address same).symm.trans located)
  rw [ip_withPort]
  exact (admits_addresses addresses).2 own among

namespace Search.KeepsFamily

variable {search : Search}

theorem addressInfo (keeps : search.KeepsFamily) {host : Option Bytes} {port : Port} {hints : Hints}
    {infos : List AddressInfo} (ok : search.addressInfo host port hints = .ok infos) :
    ∀ info ∈ infos, hints.family.admits info.address.ip = true := by
  obtain ⟨service, entries, -, found, rfl⟩ := Search.addressInfo_eq_ok ok
  intro info member
  obtain ⟨entry, among, made⟩ := List.mem_filterMap.mp member
  exact keeps host service hints entries found entry among info.address (Entry.address_of_toInfo? made)

theorem hostByName (keeps : search.KeepsFamily) {name : Bytes} {entry : HostEntry}
    (ok : search.hostByName name = .ok entry) : ∀ ip ∈ entry.addresses, ip.family = .inet := by
  obtain ⟨records, found, rfl⟩ := Search.hostByName_eq_ok ok
  intro ip member
  obtain ⟨record, among, rfl⟩ := mem_addresses_hostEntry.mp member
  exact Family.inet_admits.mp (keeps.addressInfo found record among)

end Search.KeepsFamily

end Platform

/-- An address belongs to the family that was asked for; but that of a special name is one of IPv4. -/
structure Family.Suits (family : Family) (name : Bytes) (ip : Ip) : Prop where
  admitted : name ∉ specialNames ∨ family ≠ .inet6 → family.admits ip = true
  special : name ∈ specialNames → ip.family = .inet

theorem Family.suits_of_admits {family : Family} {name : Bytes} {ip : Ip} (ordinary : name ∉ specialNames)
    (admitted : family.admits ip = true) : family.Suits name ip :=
  ⟨fun _ => admitted, fun special => absurd special ordinary⟩

theorem Family.suits_of_inet {family : Family} {name : Bytes} {ip : Ip} (special : name ∈ specialNames)
    (inet : ip.family = .inet) : family.Suits name ip := by
  refine ⟨fun either => ?_, fun _ => inet⟩
  have other := either.resolve_left (not_not_intro special)
  cases family with
  | unspec => rfl
  | inet => exact inet_admits.mpr inet
  | inet6 => contradiction

theorem Engine.literal?_specialNames : ∀ name ∈ specialNames,
    literal? name = none ∨ literal? name = some (.v4 ⟨255, 255, 255, 255⟩) := by
  decide +kernel

theorem inet_of_special_text {ip : Ip} (special : Text.toBytes ip.text ∈ specialNames) : ip.family = .inet := by
  rcases Engine.literal?_specialNames _ special with none | broadcast
  · exact nomatch (Engine.literal?_text ip).symm.trans none
  · rw [Option.some.inj ((Engine.literal?_text ip).symm.trans broadcast)]
    rfl

theorem HostEntry.Replied.suits {name : Bytes} {family : Family} {entry : HostEntry} {reply : Reply}
    (replied : entry.Replied name family reply) {search : Platform.Search} (keeps : search.KeepsFamily)
    (native : ∀ query own, reply = .native query own → own = search.reply query)
    (engine : ∀ name family entry, reply = .engine (.hostByName name family) (.ok entry) →
      ∀ ip ∈ entry.addresses, family.admits ip = true) :
    ∀ ip ∈ entry.addresses, family.Suits name ip := by
  intro ip member
  cases replied with
  | engine ordinary addressed => exact Family.suits_of_admits ordinary (engine name family entry rfl ip member)
  | native special =>
    exact Family.suits_of_inet special (keeps.hostByName (native (.hostByName name) _ rfl).symm ip member)

namespace Resolver

/-- The family that is asked for is kept, where an engine answers with addresses of the family it is asked for, as the
built-in one does, and the platform's resolver works on a search that keeps the family, as the one without files and a
network does. Each address of a host's entry, and the one address of a host, is of the family that the lookup has asked
for; but those of a special name are of IPv4 whichever was asked for. What any interface stands for is always of the
family. -/
theorem family_admitted {s : State} (reachable : Reachable s) {id : Nat} {search : Platform.Search}
    (keeps : search.KeepsFamily)
    (native : ∀ query own, .native query own ∈ heard (s.notes id) → own = search.reply query)
    (engine : ∀ name family entry, .engine (.hostByName name family) (.ok entry) ∈ heard (s.notes id) →
      ∀ ip ∈ entry.addresses, family.admits ip = true) :
    (∀ host family answer, (s.history id).call = some (.hostEntry host family) → (id, .ok answer) ∈ s.results →
      ∃ name entry, host.toBytes = .ok name ∧ answer = .entry entry ∧
        ∀ ip ∈ entry.addresses, family.Suits name ip) ∧
    (∀ host family answer, (s.history id).call = some (.hostByName host family) → (id, .ok answer) ∈ s.results →
      ∃ before name ip, host.StandsFor family before name ∧ before ⊆ heard (s.notes id) ∧ answer = .ip ip ∧
        family.Suits name ip ∧ (host.isEmpty = true → family.admits ip = true)) ∧
    (∀ name family entry, Engine.Gives (.hostByName name family) (.ok entry) →
      ∀ ip ∈ entry.addresses, family.admits ip = true) ∧
    Platform.literals.KeepsFamily := by
  have suits {name : Bytes} {family : Family} {entry : HostEntry} {reply : Reply}
      (replied : entry.Replied name family reply) (among : reply ∈ heard (s.notes id)) :
      ∀ ip ∈ entry.addresses, family.Suits name ip :=
    replied.suits keeps (fun query own same => native query own (same ▸ among))
      fun name family entry same => engine name family entry (same ▸ among)
  refine ⟨fun host family answer called done => ?_, fun host family answer called done => ?_,
    fun name family entry gives => gives.addresses, Platform.literals_keepsFamily⟩
  · obtain ⟨front, back, among, yields⟩ := reachable.answered called done
    obtain ⟨name, entry, reply, encoded, replied, whole, same⟩ := Plan.hostEntry_answered (fun _ => rfl) yields
    obtain rfl := Except.ok.inj same
    exact ⟨name, entry, encoded, rfl, suits replied (among (whole ▸ List.mem_singleton_self reply))⟩
  · obtain ⟨front, back, among, yields⟩ := reachable.answered called done
    obtain ⟨before, name, entry, reply, ip, more, stands, replied, whole, first, rfl⟩ :=
      Plan.hostByName_answered yields
    rw [whole] at among
    have suited : family.Suits name ip :=
      suits replied (among (List.mem_append_right _ (List.mem_singleton_self reply))) ip (by simp [first])
    refine ⟨before, name, ip, stands, fun _ member => among (List.mem_append_left _ member), rfl, suited, ?_⟩
    intro empty
    cases stands with
    | own given => exact nomatch given.symm.trans empty
    | wildcard empty only =>
      have replied : search.addressInfo none (.number 0)
          { family, socketType := some .datagram, flags := .passive } = .ok [only] :=
        (native (.addressInfo none _ _) _ (among (by simp))).symm
      have own : family.admits only.address.ip = true :=
        keeps.addressInfo replied only (List.mem_singleton_self only)
      refine suited.admitted ?_
      by_cases special : Text.toBytes only.address.ip.text ∈ specialNames
      · refine .inr fun inet6 => ?_
        have inet := inet_of_special_text special
        subst inet6
        simp [Family.admits, inet] at own
      · exact .inl special

def anyInterface (family : Family) : List Event :=
  [.start (.hostByName (.text "") family), .poll 0, .answerNative Platform.reply,
    .answerEngine (.complete Engine.answer)]

def broadcastAddress (family : Family) : List Event :=
  [.start (.hostByName (.text "<broadcast>") family), .poll 0, .answerNative Platform.reply]

theorem family_admitted_anyInterface :
    (0, .ok (.ip (.v6 .unspecified))) ∈ (run plain (anyInterface .inet6)).results ∧
      Family.inet6.admits (.v6 .unspecified) = true := by
  let asked : NativeQuery := .addressInfo none (.number 0)
    { family := .inet6, socketType := some .datagram, flags := .passive }
  let query : EngineQuery := .hostByName (Text.toBytes "::") .inet6
  have whole : heard ((run plain (anyInterface .inet6)).notes 0) =
      [.native asked (Platform.reply asked), .engine query (Engine.answer query)] := by
    with_unfolding_all rfl
  have native : ∀ other own, .native other own ∈ heard ((run plain (anyInterface .inet6)).notes 0) →
      own = Platform.literals.reply other := by
    intro other own member
    rw [whole] at member
    simp only [List.mem_cons, List.not_mem_nil, or_false, reduceCtorEq, Reply.native.injEq] at member
    obtain ⟨rfl, same⟩ := member
    exact eq_of_heq same
  have engine : ∀ name family entry,
      .engine (.hostByName name family) (.ok entry) ∈ heard ((run plain (anyInterface .inet6)).notes 0) →
        ∀ ip ∈ entry.addresses, family.admits ip = true := by
    intro name family entry member
    rw [whole] at member
    simp only [List.mem_cons, List.not_mem_nil, or_false, false_or, reduceCtorEq, Reply.engine.injEq, query,
      EngineQuery.hostByName.injEq] at member
    obtain ⟨⟨rfl, rfl⟩, same⟩ := member
    have accepted : Engine.refusal? query = none := by decide +kernel
    have gives : Engine.Gives query (.ok entry) :=
      eq_of_heq same ▸ Engine.Replies.gives (.answered accepted Engine.unserved)
    exact gives.addresses
  have done : (0, .ok (.ip (.v6 .unspecified))) ∈ (run plain (anyInterface .inet6)).results := by
    decide +kernel
  obtain ⟨-, one, -⟩ :=
    family_admitted (Reachable.run reached_plain _) Platform.literals_keepsFamily native engine
  obtain ⟨before, name, ip, -, -, same, -, admitted⟩ := one (.text "") .inet6 _ (by decide +kernel) done
  obtain rfl := Answer.ip.inj same
  exact ⟨done, admitted rfl⟩

/-- Asked for the address of a special name in IPv6, a lookup answers with one of IPv4. -/
theorem family_overridden :
    Platform.literals.KeepsFamily ∧
    (∀ query own, .native query own ∈ heard ((run plain (broadcastAddress .inet6)).notes 0) →
      own = Platform.literals.reply query) ∧
    (∀ query own, .engine query own ∉ heard ((run plain (broadcastAddress .inet6)).notes 0)) ∧
    ∃ ip, (0, .ok (.ip ip)) ∈ (run plain (broadcastAddress .inet6)).results ∧ Family.inet6.admits ip = false := by
  let asked : NativeQuery := .hostByName (Text.toBytes "<broadcast>")
  have whole : heard ((run plain (broadcastAddress .inet6)).notes 0) =
      [.native asked (Platform.reply asked)] := by
    with_unfolding_all rfl
  refine ⟨Platform.literals_keepsFamily, fun query own member => ?_, fun query own => by simp [whole],
    .v4 ⟨255, 255, 255, 255⟩, by decide +kernel, rfl⟩
  rw [whole, List.mem_singleton, Reply.native.injEq] at member
  obtain ⟨rfl, same⟩ := member
  exact eq_of_heq same

end Resolver

end HostLookup
