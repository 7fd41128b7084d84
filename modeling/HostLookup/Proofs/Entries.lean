import HostLookup.Platform
import HostLookup.Proofs.Origins

/-! What the platform's resolver makes of the entries that a search finds, and what the search without files or a
network finds: the address of a literal, or those of no host, with each of the transports that were chosen. -/
namespace HostLookup
open Text

@[simp] theorem Family.ofRaw?_toRaw (family : Family) : ofRaw? family.toRaw = some family := by
  cases family <;> decide

@[simp] theorem SocketType.ofRaw?_toRaw (type : SocketType) : ofRaw? type.toRaw = some type := by
  cases type <;> decide

namespace Platform

@[simp] theorem ip_withPort (port : UInt16) (address : SocketAddress) : (withPort port address).ip = address.ip := by
  cases address <;> rfl

@[simp] theorem port_withPort (port : UInt16) (address : SocketAddress) : (withPort port address).port = port := by
  cases address <;> rfl

/-! Entries, and the records that are made of them. -/

def Entry.unnamed (entry : Entry) : Entry :=
  { entry with canonicalName := none }

theorem Entry.toInfo?_unnamed (entry : Entry) :
    entry.unnamed.toInfo? = entry.toInfo?.map fun info => { info with canonicalName := "" } := by
  unfold unnamed toInfo?
  cases Family.ofRaw? entry.family <;> cases SocketType.ofRaw? entry.socketType <;> cases entry.address <;> rfl

theorem Entry.toInfo?_of (port : UInt16) (address : SocketAddress) (transport : Transport) :
    (Entry.of port address transport).toInfo? = (SocketType.ofRaw? transport.socketType).map fun socketType =>
      { family := address.ip.family, socketType, protocol := transport.protocol, canonicalName := ""
        address := withPort port address } := by
  simp only [toInfo?, of, Family.ofRaw?_toRaw]
  cases SocketType.ofRaw? transport.socketType <;> rfl

theorem Entry.address_of_toInfo? {entry : Entry} {info : AddressInfo} (made : entry.toInfo? = some info) :
    entry.address = some info.address := by
  unfold toInfo? at made
  simp only [Option.bind_eq_bind, Option.bind_eq_some_iff, Option.pure_def, Option.some.injEq] at made
  obtain ⟨family, -, type, -, address, located, rfl⟩ := made
  exact located

section Made

variable {name : Option Bytes} {port : UInt16} {found : List SocketAddress} {chosen : List Transport}

theorem map_unnamed_entriesOf (name : Option Bytes) (port : UInt16) (found : List SocketAddress)
    (chosen : List Transport) : (entriesOf name port found chosen).map Entry.unnamed =
      found.flatMap fun address => chosen.map (Entry.of port address) := by
  have plain : ∀ entry ∈ found.flatMap fun address => chosen.map (Entry.of port address),
      entry.unnamed = entry := by
    simp only [List.mem_flatMap, List.mem_map]
    rintro entry ⟨address, -, transport, -, rfl⟩
    rfl
  unfold entriesOf
  generalize (found.flatMap fun address => chosen.map (Entry.of port address)) = entries at plain
  cases entries with
  | nil => rfl
  | cons first rest =>
    obtain ⟨head, tail⟩ := List.forall_mem_cons.mp plain
    rw [List.map_cons, List.map_congr_left tail, List.map_id']
    exact congrArg (· :: rest) head

theorem mem_entriesOf {entry : Entry} (member : entry ∈ entriesOf name port found chosen) :
    ∃ address ∈ found, ∃ transport ∈ chosen, entry.unnamed = Entry.of port address transport := by
  have unnamed : entry.unnamed ∈ found.flatMap fun address => chosen.map (Entry.of port address) :=
    map_unnamed_entriesOf name port found chosen ▸ List.mem_map_of_mem member
  simp only [List.mem_flatMap, List.mem_map] at unnamed
  obtain ⟨address, located, transport, carried, same⟩ := unnamed
  exact ⟨address, located, transport, carried, same.symm⟩

theorem collect_entriesOf_eq_nil : collect (entriesOf name port found chosen) = [] ↔
    ∀ address ∈ found, ∀ transport ∈ chosen, SocketType.ofRaw? transport.socketType = none := by
  have dropped (entry : Entry) : entry.toInfo? = none ↔ entry.unnamed.toInfo? = none := by
    rw [entry.toInfo?_unnamed, Option.map_eq_none_iff]
  calc collect (entriesOf name port found chosen) = []
    _ ↔ ∀ entry ∈ entriesOf name port found chosen, entry.toInfo? = none := List.filterMap_eq_nil_iff
    _ ↔ ∀ entry ∈ entriesOf name port found chosen, entry.unnamed.toInfo? = none :=
      forall₂_congr fun entry _ => dropped entry
    _ ↔ ∀ entry ∈ found.flatMap fun address => chosen.map (Entry.of port address), entry.toInfo? = none := by
      rw [← map_unnamed_entriesOf name, List.forall_mem_map]
    _ ↔ ∀ address ∈ found, ∀ transport ∈ chosen, SocketType.ofRaw? transport.socketType = none := by
      simp only [List.forall_mem_flatMap, List.forall_mem_map, Entry.toInfo?_of, Option.map_eq_none_iff]

end Made

/-! The search without files or a network. -/

section Searched

variable {host service : Option Bytes} {hints : Hints} {family : Family} {flags : Flags} {socketType : Int32}
  {protocol : Protocol} {read : Option ServiceText} {chosen : List Transport}

theorem search_eq_ok {entries : List Entry} (ok : Platform.search host service hints = .ok entries) :
    ∃ name read chosen found, serviceRead (present service) hints.flags = .ok read ∧
      chooseTransports ((hints.socketType.map SocketType.toRaw).getD 0) hints.protocol read = .ok chosen ∧
      addresses (present host) hints.family hints.flags = .ok found ∧
      entries = entriesOf name (portOf read) found chosen := by
  unfold Platform.search at ok
  dsimp only at ok
  split at ok
  · contradiction
  · obtain ⟨read, service, ok⟩ := bind_eq_ok.mp ok
    obtain ⟨chosen, transports, ok⟩ := bind_eq_ok.mp ok
    obtain ⟨found, located, ok⟩ := bind_eq_ok.mp ok
    exact ⟨_, read, chosen, found, service, transports, located, (Except.ok.inj ok).symm⟩

theorem admits_ipv4Address {ip : Ipv4} {address : SocketAddress} (ok : ipv4Address family flags ip = .ok address) :
    family.admits address.ip = true := by
  cases family with
  | unspec => rfl
  | inet =>
    obtain rfl := Except.ok.inj ok
    rfl
  | inet6 =>
    simp only [ipv4Address] at ok
    split at ok
    · obtain rfl := Except.ok.inj ok
      rfl
    · contradiction

theorem admits_ipv6Address {ip : Ipv6} {address : SocketAddress} (ok : ipv6Address family ip = .ok address) :
    family.admits address.ip = true := by
  cases family with
  | unspec => rfl
  | inet =>
    cases mapped : ip.mapped? with
    | none => simp [ipv6Address, mapped] at ok
    | some inner =>
      simp only [ipv6Address, mapped, Except.ok.injEq] at ok
      obtain rfl := ok
      rfl
  | inet6 =>
    obtain rfl := Except.ok.inj ok
    rfl

theorem ip_inScope {scope : Option (List Char)} {address inside : SocketAddress}
    (ok : inScope scope address = .ok inside) : inside.ip = address.ip := by
  unfold inScope at ok
  split at ok
  · rw [Except.ok.inj ok]
  · split at ok
    · contradiction
    · obtain rfl := Except.ok.inj ok
      cases address <;> rfl

theorem admits_literalAddress {literal : Literal} {address : SocketAddress}
    (ok : literalAddress family flags literal = .ok address) : family.admits address.ip = true := by
  cases literal with
  | v4 ip => exact admits_ipv4Address ok
  | v6 ip scope =>
    obtain ⟨plain, located, inside⟩ := bind_eq_ok.mp ok
    rw [ip_inScope inside]
    exact admits_ipv6Address located

theorem admits_addresses {found : List SocketAddress} (ok : addresses host family flags = .ok found) :
    found ≠ [] ∧ ∀ address ∈ found, family.admits address.ip = true := by
  unfold addresses at ok
  split at ok
  · obtain rfl := Except.ok.inj ok
    cases family <;> cases flags.has .passive <;> decide
  · split at ok
    · contradiction
    · split at ok
      · contradiction
      · next literal _ =>
        obtain ⟨address, located, rfl⟩ := map_eq_ok.mp ok
        simpa using admits_literalAddress located

theorem chooseTransports_cases (ok : chooseTransports socketType protocol read = .ok chosen) :
    socketType = 0 ∧ protocol = .any ∧ chosen = transports.filter (·.isDefault) ∨
      ¬(socketType = 0 ∧ protocol = .any) ∧ ∃ transport own,
        transports.find? (·.fits socketType protocol) = some transport ∧
          chosen = [{ transport with protocol := own }] := by
  unfold chooseTransports at ok
  split at ok
  · next neither =>
    simp only [Bool.and_eq_true, decide_eq_true_eq] at neither
    split at ok
    · contradiction
    · exact .inl ⟨neither.1, neither.2, (Except.ok.inj ok).symm⟩
  · next either =>
    simp only [Bool.and_eq_true, decide_eq_true_eq] at either
    refine .inr ⟨either, ?_⟩
    split at ok
    · contradiction
    · next transport fits => exact ⟨transport, _, fits, (Except.ok.inj ok).symm⟩
    · next transport port fits =>
      split at ok
      · contradiction
      · exact ⟨transport, transport.protocol, fits, (Except.ok.inj ok).symm⟩
    · contradiction

/-- Of all protocols only one has a socket type of its own that the library does not know. -/
def unmodelledProtocol : Protocol := 33

theorem fits_unmodelled {transport : Transport} (fits : transports.find? (·.fits 0 protocol) = some transport)
    (either : protocol ≠ .any) (unknown : SocketType.ofRaw? transport.socketType = none) :
    protocol = unmodelledProtocol := by
  have listed := List.mem_of_find?_eq_some fits
  have fitting := List.find?_some fits
  simp only [transports, List.mem_cons, List.not_mem_nil, or_false] at listed
  rcases listed with rfl | rfl | rfl | rfl | rfl | rfl | rfl
  · contradiction
  · contradiction
  · simpa [Transport.fits, either, unmodelledProtocol] using fitting
  · contradiction
  · contradiction
  · -- The protocol has another transport, which comes first.
    obtain rfl : protocol = 132 := by simpa [Transport.fits, either] using fitting
    have first : transports.find? (·.fits 0 132) = some { socketType := 1, protocol := 132 } := rfl
    cases first.symm.trans fits
  · contradiction

theorem socketType_of_fits {transport : Transport} (fits : transport.fits socketType protocol = true)
    (given : socketType ≠ 0) : transport.socketType = socketType := by
  simp only [Transport.fits, Bool.and_eq_true, Bool.or_eq_true, beq_iff_eq, given, false_or] at fits
  exact fits.1.symm

theorem unmodelled_iff {asked : Option SocketType}
    (ok : chooseTransports ((asked.map SocketType.toRaw).getD 0) protocol read = .ok chosen) :
    (∀ transport ∈ chosen, SocketType.ofRaw? transport.socketType = none) ↔
      asked = none ∧ protocol = unmodelledProtocol := by
  rcases chooseTransports_cases ok with ⟨-, rfl, rfl⟩ | ⟨either, transport, own, fits, rfl⟩
  · refine iff_of_false (by decide) fun both => ?_
    exact absurd both.2 (by decide)
  · rw [List.forall_mem_singleton]
    cases asked with
    | some type =>
      have given : type.toRaw ≠ 0 := by cases type <;> decide
      have same : transport.socketType = type.toRaw := socketType_of_fits (List.find?_some fits) given
      simp [same]
    | none =>
      simp only [Option.map_none, Option.getD_none, true_and] at fits either ⊢
      refine ⟨fits_unmodelled fits either, ?_⟩
      rintro rfl
      have third : transports.find? (·.fits 0 unmodelledProtocol) = some { socketType := 6, protocol := 33 } := rfl
      obtain rfl := Option.some.inj (third.symm.trans fits)
      rfl

end Searched

/-! Lookups by a search. -/

theorem checked_eq_ok {bytes same : Bytes} (ok : checked bytes = .ok same) : same = bytes := by
  unfold checked at ok
  split at ok
  · contradiction
  · exact (Except.ok.inj ok).symm

theorem literals_eq_ok {host service : Option Bytes} {hints : Hints} {entries : List Entry} :
    literals host service hints = .ok entries ↔ Platform.search host service hints = .ok entries :=
  mapError_eq_ok

namespace Search

variable {search : Search} {host : Option Bytes} {port : Port} {hints : Hints} {infos : List AddressInfo}

theorem addressInfo_eq_ok (ok : search.addressInfo host port hints = .ok infos) :
    ∃ service entries, serviceText port = .ok service ∧ search host service hints = .ok entries ∧
      infos = collect entries := by
  have rest (ok : (do
      let service ← serviceText port
      let entries ← (search host service hints).mapError Failure.error
      return collect entries) = Except.ok infos) :
      ∃ service entries, serviceText port = .ok service ∧ search host service hints = .ok entries ∧
        infos = collect entries := by
    obtain ⟨service, named, ok⟩ := bind_eq_ok.mp ok
    obtain ⟨entries, found, ok⟩ := bind_eq_ok.mp ok
    exact ⟨service, entries, named, mapError_eq_ok.mp found, (Except.ok.inj ok).symm⟩
  unfold Search.addressInfo at ok
  cases host with
  | none => exact rest ok
  | some name =>
    obtain ⟨own, given, made⟩ := bind_eq_ok.mp ok
    obtain ⟨same, whole, rfl⟩ := map_eq_ok.mp given
    rw [checked_eq_ok whole] at made
    exact rest made

theorem hostByName_eq_ok {host : Bytes} {entry : HostEntry} (ok : search.hostByName host = .ok entry) :
    ∃ records, search.addressInfo (some (queried host)) .absent entryHints = .ok records ∧
      entry = hostEntry host records := by
  obtain ⟨records, found, ok⟩ := bind_eq_ok.mp ok
  exact ⟨records, found, (Except.ok.inj ok).symm⟩

end Search

theorem mem_distinct {ip : Ip} {ips : List Ip} : ip ∈ distinct ips ↔ ip ∈ ips := by
  induction ips with
  | nil => rfl
  | cons first rest ih =>
    by_cases same : ip = first
    · simp [distinct, same]
    · simp [distinct, same, ih]

theorem mem_addresses_hostEntry {host : Bytes} {records : List AddressInfo} {ip : Ip} :
    ip ∈ (hostEntry host records).addresses ↔ ∃ record ∈ records, record.address.ip = ip := by
  simp [hostEntry, mem_distinct]

theorem addresses_hostEntry_eq_nil {host : Bytes} {records : List AddressInfo} :
    (hostEntry host records).addresses = [] ↔ records = [] := by
  simp only [List.eq_nil_iff_forall_not_mem, mem_addresses_hostEntry, not_exists, not_and]
  exact ⟨fun none record member => none _ record member rfl,
    fun none _ record member => absurd member (none record)⟩

end Platform

end HostLookup
