import HostLookup.Proofs.Entries
import HostLookup.Proofs.Numerals
import Mathlib.Data.List.Forall2
import Mathlib.Data.List.Perm.Basic

/-! The platform's entry of a host, as it is gathered from the list of what was found. The entries that the library
knows become records, in order; the entry has each of their addresses once, where it comes first, and the first name
that one of them has. -/
namespace HostLookup
open Text

/-- What a list has, each once, in the order in which it comes first. -/
structure FirstOccurrences {α : Type} [DecidableEq α] (all kept : List α) : Prop where
  nodup : kept.Nodup
  mem_iff : ∀ a, a ∈ kept ↔ a ∈ all
  ordered : kept.Pairwise fun a b => all.idxOf a < all.idxOf b

namespace FirstOccurrences

variable {α : Type} [DecidableEq α] {all kept other : List α} {a : α}

theorem nil : FirstOccurrences ([] : List α) [] :=
  ⟨.nil, fun _ => .rfl, .nil⟩

theorem concat (first : FirstOccurrences all kept) (a : α) :
    FirstOccurrences (all ++ [a]) (if a ∈ kept then kept else kept ++ [a]) := by
  -- What is there already keeps its place when one more comes after it.
  have earlier {b : α} (member : b ∈ kept) : (all ++ [a]).idxOf b = all.idxOf b :=
    List.idxOf_append_of_mem ((first.mem_iff b).mp member)
  have still : kept.Pairwise fun b c => (all ++ [a]).idxOf b < (all ++ [a]).idxOf c := by
    refine first.ordered.imp_of_mem fun front back before => ?_
    rwa [earlier front, earlier back]
  by_cases known : a ∈ kept
  · rw [if_pos known]
    refine ⟨first.nodup, fun b => ?_, still⟩
    rw [first.mem_iff, List.mem_append, List.mem_singleton]
    refine ⟨.inl, fun either => either.elim id ?_⟩
    rintro rfl
    exact (first.mem_iff b).mp known
  · rw [if_neg known]
    have fresh : a ∉ all := mt (first.mem_iff a).mpr known
    have single : (kept ++ [a]).Nodup := List.concat_eq_append ▸ first.nodup.concat known
    refine ⟨single, fun b => ?_, List.pairwise_append.mpr ⟨still, List.pairwise_singleton _ _, ?_⟩⟩
    · rw [List.mem_append, List.mem_append, first.mem_iff]
    · intro b member c last
      obtain rfl := List.mem_singleton.mp last
      rw [earlier member, List.idxOf_append_of_notMem fresh]
      exact Nat.lt_add_right _ (List.idxOf_lt_length_of_mem ((first.mem_iff b).mp member))

theorem unique (first : FirstOccurrences all kept) (again : FirstOccurrences all other) : kept = other := by
  have same : kept.Perm other :=
    (List.perm_ext_iff_of_nodup first.nodup again.nodup).mpr fun a => (first.mem_iff a).trans (again.mem_iff a).symm
  refine same.eq_of_pairwise (fun a b _ _ before after => ?_) first.ordered again.ordered
  exact absurd before (Nat.lt_asymm after)

end FirstOccurrences

theorem Family.ofRaw?_eq_some_iff {raw : Int32} {family : Family} : ofRaw? raw = some family ↔ family.toRaw = raw := by
  refine ⟨fun found => by simpa using List.find?_some found, ?_⟩
  rintro rfl
  exact ofRaw?_toRaw family

theorem SocketType.ofRaw?_eq_some_iff {raw : Int32} {type : SocketType} : ofRaw? raw = some type ↔ type.toRaw = raw := by
  refine ⟨fun found => by simpa using List.find?_some found, ?_⟩
  rintro rfl
  exact ofRaw?_toRaw type

theorem Family.exists_toRaw {number : Int32} : (∃ family, toRaw family = number) ↔ number ∈ [0, 2, 10] := by
  have listed : [0, 2, 10] = [unspec, inet, inet6].map toRaw := rfl
  rw [listed, List.mem_map]
  exact exists_congr fun family => by cases family <;> simp

theorem SocketType.exists_toRaw {number : Int32} : (∃ type, toRaw type = number) ↔ number ∈ [1, 2, 3] := by
  have listed : [1, 2, 3] = [stream, datagram, raw].map toRaw := rfl
  rw [listed, List.mem_map]
  exact exists_congr fun type => by cases type <;> simp

namespace Platform

namespace Entry

variable {entry : Entry} {info : AddressInfo}

/-- The library knows family, socket type and address: the first two are among the numbers of unspecified, IPv4 and
IPv6, and of stream, datagram and raw. -/
def Known (entry : Entry) : Prop :=
  entry.family ∈ [0, 2, 10] ∧ entry.socketType ∈ [1, 2, 3] ∧ entry.address.isSome

instance (entry : Entry) : Decidable entry.Known :=
  inferInstanceAs (Decidable (_ ∧ _ ∧ _))

/-- The record of an entry has its numbers, its address, and its name as far as it has one. -/
structure Describes (entry : Entry) (info : AddressInfo) : Prop where
  family : info.family.toRaw = entry.family
  socketType : info.socketType.toRaw = entry.socketType
  protocol : info.protocol = entry.protocol
  address : entry.address = some info.address
  canonicalName : info.canonicalName = entry.canonicalName.elim "" ofBytesLossy

theorem toInfo?_eq_some_iff : entry.toInfo? = some info ↔ entry.Describes info := by
  have name : (entry.canonicalName.map ofBytesLossy).getD "" = entry.canonicalName.elim "" ofBytesLossy := by
    cases entry.canonicalName <;> rfl
  unfold toInfo?
  simp only [Option.bind_eq_bind, Option.bind_eq_some_iff, Option.pure_def, Option.some.injEq,
    Family.ofRaw?_eq_some_iff, SocketType.ofRaw?_eq_some_iff, name]
  constructor
  · rintro ⟨family, numbered, type, typed, address, located, rfl⟩
    exact ⟨numbered, typed, rfl, located, rfl⟩
  · rintro ⟨family, type, protocol, address, name⟩
    refine ⟨_, family, _, type, _, address, ?_⟩
    rw [← protocol, ← name]

theorem known_iff : entry.Known ↔ ∃ info, entry.Describes info := by
  constructor
  · rintro ⟨family, type, address⟩
    obtain ⟨family, numbered⟩ := Family.exists_toRaw.mpr family
    obtain ⟨type, typed⟩ := SocketType.exists_toRaw.mpr type
    obtain ⟨address, located⟩ := Option.isSome_iff_exists.mp address
    exact ⟨⟨family, type, entry.protocol, _, address⟩, numbered, typed, rfl, located, rfl⟩
  · rintro ⟨info, described⟩
    exact ⟨Family.exists_toRaw.mp ⟨_, described.family⟩, SocketType.exists_toRaw.mp ⟨_, described.socketType⟩,
      Option.isSome_iff_exists.mpr ⟨_, described.address⟩⟩

theorem toInfo?_eq_none_iff : entry.toInfo? = none ↔ ¬ entry.Known := by
  rw [known_iff, Option.eq_none_iff_forall_ne_some, not_exists]
  exact forall_congr' fun info => not_congr toInfo?_eq_some_iff

end Entry

theorem forall₂_collect_iff {entries : List Entry} {records : List AddressInfo} :
    List.Forall₂ Entry.Describes (entries.filter (·.Known)) records ↔ records = collect entries := by
  induction entries generalizing records with
  | nil => simp [collect]
  | cons entry rest ih =>
    cases made : entry.toInfo? with
    | none =>
      have unknown := Entry.toInfo?_eq_none_iff.mp made
      rw [List.filter_cons_of_neg (by simpa using unknown), ih, collect, collect, List.filterMap_cons_none made]
    | some info =>
      have described := Entry.toInfo?_eq_some_iff.mp made
      have known : entry.Known := Entry.known_iff.mpr ⟨info, described⟩
      rw [List.filter_cons_of_pos (by simpa using known), collect, List.filterMap_cons_some made]
      constructor
      · rintro (_ | ⟨own, others⟩)
        rw [Entry.toInfo?_eq_some_iff.mpr own, Option.some.injEq] at made
        rw [made, ih.mp others, collect]
      · rintro rfl
        exact .cons described (ih.mpr rfl)

theorem distinct_concat (ips : List Ip) (ip : Ip) :
    distinct (ips ++ [ip]) = if ip ∈ distinct ips then distinct ips else distinct ips ++ [ip] := by
  simp only [mem_distinct]
  induction ips with
  | nil => rfl
  | cons first rest ih =>
    rw [List.cons_append, distinct, distinct, ih]
    by_cases known : ip ∈ rest
    · simp [known]
    · by_cases same : ip = first
      · simp [← same, known]
      · simp [known, same]

theorem firstOccurrences_distinct (ips : List Ip) : FirstOccurrences ips (distinct ips) := by
  induction ips using List.reverseRecOn with
  | nil => exact .nil
  | append_singleton ips ip ih =>
    rw [distinct_concat]
    exact ih.concat ip

/-- The name of a host's entry: the first that a record has, or, where none has one, what was asked for. -/
inductive NamedFor (host : Bytes) (records : List AddressInfo) : String → Prop
  | canonical {before after : List AddressInfo} {record : AddressInfo} (split : records = before ++ record :: after)
      (unnamed : ∀ earlier ∈ before, earlier.canonicalName = "") (named : record.canonicalName ≠ "") :
      NamedFor host records record.canonicalName
  | broadcast (unnamed : ∀ record ∈ records, record.canonicalName = "") (word : host = toBytes "<broadcast>") :
      NamedFor host records "255.255.255.255"
  | asked (unnamed : ∀ record ∈ records, record.canonicalName = "") (other : host ≠ toBytes "<broadcast>") :
      NamedFor host records (ofBytesLossy host)

section Gathered

variable {host : Bytes} {records : List AddressInfo}

theorem name_hostEntry (host : Bytes) (records : List AddressInfo) : (hostEntry host records).name =
    ((records.find? (!·.canonicalName.isEmpty)).map (·.canonicalName)).getD (ofBytesLossy (queried host)) := by
  rw [hostEntry, List.find?_map]
  rfl

theorem find?_unnamed : records.find? (!·.canonicalName.isEmpty) = none ↔
    ∀ record ∈ records, record.canonicalName = "" := by
  simp

theorem find?_named {record : AddressInfo} : records.find? (!·.canonicalName.isEmpty) = some record ↔
    record.canonicalName ≠ "" ∧ ∃ before after, records = before ++ record :: after ∧
      ∀ earlier ∈ before, earlier.canonicalName = "" := by
  simp [List.find?_eq_some_iff_append]

theorem ofBytesLossy_broadcastLiteral : ofBytesLossy broadcastLiteral = "255.255.255.255" :=
  ofBytesLossy_toBytes (by decide +kernel)

theorem namedFor_iff {name : String} : NamedFor host records name ↔ name = (hostEntry host records).name := by
  rw [name_hostEntry]
  constructor
  · intro named
    cases named with
    | canonical split unnamed named =>
      rw [find?_named.mpr ⟨named, _, _, split, unnamed⟩]
      rfl
    | broadcast unnamed word =>
      rw [find?_unnamed.mpr unnamed, word]
      exact ofBytesLossy_broadcastLiteral.symm
    | asked unnamed other =>
      have own : queried host = host := if_neg other
      rw [find?_unnamed.mpr unnamed, own]
      rfl
  · rintro rfl
    cases found : records.find? (!·.canonicalName.isEmpty) with
    | some record =>
      obtain ⟨named, before, after, split, unnamed⟩ := find?_named.mp found
      exact .canonical split unnamed named
    | none =>
      have unnamed := find?_unnamed.mp found
      by_cases word : host = broadcastName
      · rw [queried, if_pos word, ofBytesLossy_broadcastLiteral]
        exact .broadcast unnamed word
      · rw [queried, if_neg word]
        exact .asked unnamed word

structure Gathers (host : Bytes) (records : List AddressInfo) (entry : HostEntry) : Prop where
  name : NamedFor host records entry.name
  aliases : entry.aliases = []
  addresses : FirstOccurrences (records.map (·.address.ip)) entry.addresses

theorem gathers_iff {entry : HostEntry} : Gathers host records entry ↔ entry = hostEntry host records := by
  have own : FirstOccurrences (records.map (·.address.ip)) (hostEntry host records).addresses :=
    firstOccurrences_distinct _
  constructor
  · rintro ⟨name, aliases, addresses⟩
    calc entry = ⟨entry.name, entry.aliases, entry.addresses⟩ := rfl
      _ = hostEntry host records := by
        rw [namedFor_iff.mp name, aliases, addresses.unique own]
        rfl
  · rintro rfl
    exact ⟨namedFor_iff.mpr rfl, rfl, own⟩

theorem zero_mem_queried : 0 ∈ queried host ↔ 0 ∈ host := by
  unfold queried
  split
  · next word =>
    rw [word]
    decide
  · rfl

end Gathered

namespace Search

variable (search : Search) (host : Bytes)

theorem addressInfo_asked (name : Bytes) (hints : Hints) : search.addressInfo (some name) .absent hints =
    if 0 ∈ name then .error (.value "embedded null byte")
    else ((search (some name) none hints).mapError Failure.error).map collect := by
  unfold Search.addressInfo checked
  by_cases zero : 0 ∈ name
  · simp [zero, bind, Except.bind, Except.map]
  · cases found : search (some name) none hints <;>
      simp [zero, found, serviceText, bind, Except.bind, Except.map, Except.mapError, pure, Except.pure]

/-- A host whose text has a zero byte is refused, and where nothing is found, what failed is the error. Whatever list of
entries is found for a host that is asked for, its entry is what is gathered from the records of those that the library
knows, in the order of the list; and nothing else is. -/
theorem entry_gathered :
    (0 ∈ host → search.hostByName host = .error (.value "embedded null byte")) ∧
    (0 ∉ host → ∀ failure, search (some (queried host)) none entryHints = .error failure →
      search.hostByName host = .error failure.error) ∧
    (0 ∉ host → ∀ entries, search (some (queried host)) none entryHints = .ok entries →
      ∃ records entry, List.Forall₂ Entry.Describes (entries.filter (·.Known)) records ∧
        search.addressInfo (some (queried host)) .absent entryHints = .ok records ∧
        search.hostByName host = .ok entry ∧ Gathers host records entry ∧
        ∀ other, Gathers host records other → other = entry) := by
  have asked := search.addressInfo_asked (queried host) entryHints
  simp only [zero_mem_queried] at asked
  have made : search.hostByName host =
      (search.addressInfo (some (queried host)) .absent entryHints).map (hostEntry host) := rfl
  rw [made]
  refine ⟨fun zero => ?_, fun whole failure failed => ?_, fun whole entries found => ?_⟩
  · rw [asked, if_pos zero]
    rfl
  · rw [asked, if_neg whole, failed]
    rfl
  · rw [if_neg whole, found] at asked
    rw [asked]
    exact ⟨collect entries, hostEntry host (collect entries), forall₂_collect_iff.mpr rfl, rfl, rfl,
      gathers_iff.mpr rfl, fun other => gathers_iff.mp⟩

def listed : Search := fun host _ _ =>
  let entry (name : Option Bytes) (ip : Ipv4) : Entry :=
    { family := 2, socketType := 1, protocol := .tcp, canonicalName := name, address := some (.v4 ip 0) }
  if host = some (toBytes "localhost") then
    .ok [entry (some (toBytes "localhost")) .loopback, entry none ⟨127, 0, 1, 1⟩, entry none .loopback]
  else .error (.code AddressCode.noName)

theorem entry_gathered_listed :
    listed.hostByName [0] = .error (.value "embedded null byte") ∧
      listed.hostByName (toBytes "nowhere") = .error (.ofAddressCode AddressCode.noName) ∧
      ∃ records, records.length = 3 ∧ Gathers (toBytes "localhost") records
        ⟨"localhost", [], [.v4 .loopback, .v4 ⟨127, 0, 1, 1⟩]⟩ := by
  obtain ⟨refused, -⟩ := entry_gathered listed [0]
  obtain ⟨-, fails, -⟩ := entry_gathered listed (toBytes "nowhere")
  obtain ⟨-, -, gathered⟩ := entry_gathered listed (toBytes "localhost")
  refine ⟨refused (by decide), fails (by decide) (.code AddressCode.noName) rfl, ?_⟩
  obtain ⟨records, entry, described, -, made, gathers, -⟩ := gathered (by decide) _ rfl
  have known : listed.hostByName (toBytes "localhost") =
      .ok ⟨"localhost", [], [.v4 .loopback, .v4 ⟨127, 0, 1, 1⟩]⟩ := by
    decide +kernel
  obtain rfl := Except.ok.inj (made.symm.trans known)
  exact ⟨records, described.length_eq.symm, gathers⟩

end Search

end Platform

end HostLookup
