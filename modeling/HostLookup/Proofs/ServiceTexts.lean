import HostLookup.Proofs.BuiltIn

/-! Ports and service texts. What is written for a port, as a number or by the name of its service, is read as that
port; and a number that is no port is no service. The names of the table and the numerals do not meet. -/
namespace HostLookup
open Text

theorem Text.Numeral.IsMark.toLower_isAlpha {c : Char} (mark : IsMark c) : c.toLower.isAlpha = false :=
  mark.holds (·.toLower.isAlpha = false) (by decide) (by decide)

namespace Service

/-! The table goes both ways, and no name of it is a numeral. -/

theorem isAlpha_names : ∀ entry ∈ table, ((entry.1.toList.map Char.toLower).head?.any Char.isAlpha) = true := by
  decide

theorem toPort_names : ∀ entry ∈ table, toPort false (toBytes entry.1) = .ok entry.2 := by
  decide +kernel

theorem sameName_ofInt {entry : String × UInt16} (member : entry ∈ table) (n : Int) :
    sameName entry.1 (Numeral.ofInt n) = false := by
  obtain ⟨c, rest, numeral, mark⟩ := Numeral.signedDecimal_eq_cons n
  have alpha := isAlpha_names entry member
  rw [sameName, Numeral.ofInt, String.toList_ofList, numeral]
  refine beq_eq_false_iff_ne.mpr fun same => ?_
  rw [same, List.map_cons, List.head?_cons, Option.any_some, mark.toLower_isAlpha] at alpha
  contradiction

theorem find?_ofInt (n : Int) : (table.find? fun entry => sameName entry.1 (Numeral.ofInt n)) = none :=
  List.find?_eq_none.mpr fun _ member => Bool.eq_false_iff.mp (sameName_ofInt member n)

theorem toPort_ofInt (numericOnly : Bool) (n : Int) :
    toPort numericOnly (toBytes (Numeral.ofInt n)) =
      if 0 ≤ n ∧ n ≤ mostPort then .ok (.ofNat n.toNat) else .error .service := by
  have read := Numeral.unsigned?_signedDecimal n mostPort
  have other := find?_ofInt n
  unfold toPort
  rw [ofBytes?_toBytes (Numeral.isAscii_ofInt n)]
  dsimp only
  rw [other, Numeral.ofInt, String.toList_ofList, read]
  by_cases fits : 0 ≤ n ∧ n ≤ mostPort
  · rw [if_pos fits, if_pos fits]
  · rw [if_neg fits, if_neg fits]
    exact ite_self _

theorem toPort_ofNat (numericOnly : Bool) (port : UInt16) :
    toPort numericOnly (toBytes (Numeral.ofNat port.toNat)) = .ok port := by
  have small : port.toNat ≤ mostPort := Nat.le_of_lt_succ port.toNat_lt
  have read := toPort_ofInt numericOnly port.toNat
  rw [if_pos ⟨by omega, by omega⟩, Int.toNat_natCast, UInt16.ofNat_toNat] at read
  exact read

theorem toPort_of_name? {port : UInt16} {name : String} (named : name? port = some name) :
    toPort false (toBytes name) = .ok port := by
  obtain ⟨entry, found, rfl⟩ := Option.map_eq_some_iff.mp named
  have same : entry.2 = port := by simpa using List.find?_some found
  rw [toPort_names entry (List.mem_of_find?_eq_some found), same]

end Service

namespace Engine

def readPort (query : AddressQuery) : Except Fault UInt16 :=
  match query.service with
  | none => .ok 0
  | some service => Service.toPort (query.flags.has .numericService) service

section Reading

variable {query : AddressQuery} {port : UInt16} {fault : Fault}

theorem readPort_of_toPort {service : Bytes} (given : query.service = some service) :
    readPort query = Service.toPort (query.flags.has .numericService) service := by
  rw [readPort, given]

theorem portOf_of_readPort (read : readPort query = .ok port) : portOf query = port := by
  unfold portOf
  cases given : query.service with
  | none =>
    rw [readPort, given] at read
    exact Except.ok.inj read
  | some service =>
    rw [readPort_of_toPort given] at read
    simp only [read]

theorem refusal?_of_readPort (text : (ofBytes? query.host).isSome) :
    refusal? (.addressInfo query) = match readPort query with
      | .ok _ => none
      | .error fault => some fault := by
  have host : (ofBytes? query.host).isNone = false := by simpa [Option.isSome_iff_ne_none] using text
  simp only [refusal?, readPort, host]
  cases query.service with
  | none => rfl
  | some service => cases read : Service.toPort (query.flags.has .numericService) service <;> simp [read]

theorem readPort_of_accepted (accepted : refusal? (.addressInfo query) = none) :
    (ofBytes? query.host).isSome ∧ ∃ port, readPort query = .ok port := by
  have text : (ofBytes? query.host).isSome := by
    refine Option.isSome_iff_ne_none.mpr fun none => ?_
    simp [refusal?, none] at accepted
  rw [refusal?_of_readPort text] at accepted
  cases read : readPort query with
  | error fault => simp [read] at accepted
  | ok port => exact ⟨text, port, rfl⟩

theorem Gives.port_eq {records : List Record} (gives : Gives (.addressInfo query) (.ok records))
    (read : readPort query = .ok port) : ∀ record ∈ records, record.address.port = port := by
  obtain ⟨-, name, ips, rfl, -⟩ := gives.records
  simp only [List.mem_map]
  rintro _ ⟨ip, -, rfl⟩
  rw [record, portOf_of_readPort read]
  cases ip <;> rfl

end Reading

theorem toPort_of_serviceOf {port : UInt16} {flags : Flags} {text : String} (named : serviceOf port flags = some text)
    (numericOnly : Bool) (numeric : numericOnly = true → flags.has .nameNumericService = true) :
    Service.toPort numericOnly (toBytes text) = .ok port := by
  unfold serviceOf at named
  split at named
  · obtain rfl := Option.some.inj named
    exact Service.toPort_ofNat numericOnly port
  · next free =>
    obtain rfl : numericOnly = false := Bool.eq_false_iff.mpr fun only => free (numeric only)
    split at named
    · contradiction
    · obtain rfl := Option.some.inj named
      cases known : Service.name? port with
      | none => exact Service.toPort_ofNat false port
      | some name => exact Service.toPort_of_name? known

theorem Gives.service_eq {address : SocketAddress} {flags : Flags} {info : NodeInfo}
    (gives : Gives (.nameInfo address flags) (.ok info)) : info.service = serviceOf address.port flags := by
  have replies := gives.replies
  generalize outcome : (.ok info : Except Fault (EngineQuery.nameInfo address flags).Answer) = reply at replies
  cases replies with
  | refused refusal => contradiction
  | destroyed accepted => contradiction
  | answered accepted directory =>
    simp only [Directory.answer] at outcome
    cases node : directory.node address.ip flags with
    | error fault => simp [node, Except.map] at outcome
    | ok name =>
      simp only [node, Except.map, Except.ok.injEq] at outcome
      rw [outcome]

theorem readPort_number {n : Int} {query : AddressQuery} (asked : (Port.number n).toService = .ok query.service) :
    readPort query = if 0 ≤ n ∧ n ≤ Service.mostPort then .ok (.ofNat n.toNat) else .error .service := by
  have service := Except.ok.inj asked
  by_cases zero : n = 0
  · subst zero
    rw [if_pos rfl] at service
    rw [readPort, ← service]
    rfl
  · rw [if_neg zero] at service
    rw [readPort_of_toPort service.symm, Service.toPort_ofInt]

/-- Services go around. What a channel reports as the service of a port is read as that port, also where numbers alone
are read if numbers alone were to be reported. A number that is asked for as a port is read as itself if it is one, and
is no service otherwise. What is read is what a channel goes by: the addresses that it answers with have the port, and
a query whose service is not read is not started. -/
theorem service_round_trip :
    (∀ (address : SocketAddress) (flags : Flags) (info : NodeInfo) (text : String),
      Gives (.nameInfo address flags) (.ok info) → info.service = some text →
      ∀ query : AddressQuery, query.service = some (toBytes text) →
        (query.flags.has .numericService = true → flags.has .nameNumericService = true) →
        readPort query = .ok address.port) ∧
    (∀ (n : Int) (query : AddressQuery), (Port.number n).toService = .ok query.service →
      (0 ≤ n → n ≤ 65535 → ∃ port, readPort query = .ok port ∧ (port.toNat : Int) = n) ∧
        (n < 0 ∨ 65535 < n → readPort query = .error .service)) ∧
    ∀ query : AddressQuery,
      (∀ (port : UInt16) (records : List Record), readPort query = .ok port →
        Gives (.addressInfo query) (.ok records) → ∀ record ∈ records, record.address.port = port) ∧
      ((ofBytes? query.host).isSome → ∀ (port : UInt16) (c : Channel), readPort query = .ok port →
        c.destroyed = false → ∃ started, c.issue (.addressInfo query) = .ok started) ∧
      ((ofBytes? query.host).isSome → ∀ (fault : Fault) (c : Channel), readPort query = .error fault →
        c.issue (.addressInfo query) = .error fault) := by
  refine ⟨fun address flags info text gives named query service numeric => ?_, fun n query asked => ⟨?_, ?_⟩,
    fun query => ⟨fun port records read gives => gives.port_eq read, fun text port c read live => ?_,
      fun text fault c read => ?_⟩⟩
  · rw [gives.service_eq] at named
    rw [readPort_of_toPort service]
    exact toPort_of_serviceOf named _ numeric
  · intro least most
    have read := readPort_number asked
    rw [if_pos ⟨least, most⟩] at read
    refine ⟨_, read, ?_⟩
    rw [UInt16.toNat_ofNat_of_lt' (by simp only [UInt16.size]; omega)]
    omega
  · intro outside
    have read := readPort_number asked
    rwa [if_neg (by simp only [Service.mostPort]; omega)] at read
  · have accepted := refusal?_of_readPort text
    rw [read] at accepted
    simp [Channel.issue, accepted, live]
  · have refused := refusal?_of_readPort text
    rw [read] at refused
    simp [Channel.issue, refused]

def serviceQuery (service : String) (flags : Flags) : AddressQuery :=
  { host := toBytes "127.0.0.1", service := some (toBytes service), family := .unspec, socketType := none,
    protocol := .any, flags }

theorem service_round_trip_https :
    (Gives (.nameInfo (.v4 .loopback 443) .nameNumericHost) (.ok ⟨"127.0.0.1", some "https"⟩) ∧
      readPort (serviceQuery "https" 0) = .ok 443) ∧
    (Gives (.nameInfo (.v4 .loopback 443) 3) (.ok ⟨"127.0.0.1", some "443"⟩) ∧
      readPort (serviceQuery "443" .numericService) = .ok 443) ∧
    readPort (serviceQuery "65536" 0) = .error .service ∧
      ({} : Channel).issue (.addressInfo (serviceQuery "65536" 0)) = .error .service := by
  obtain ⟨named, numbered, asked⟩ := service_round_trip
  have name : Gives (.nameInfo (.v4 .loopback 443) .nameNumericHost) (.ok ⟨"127.0.0.1", some "https"⟩) := by
    have answer : unserved.answer (.nameInfo (.v4 .loopback 443) .nameNumericHost) =
        .ok ⟨"127.0.0.1", some "https"⟩ := by
      with_unfolding_all rfl
    exact answer ▸ Replies.gives (.answered rfl unserved)
  have number : Gives (.nameInfo (.v4 .loopback 443) 3) (.ok ⟨"127.0.0.1", some "443"⟩) := by
    have answer : unserved.answer (.nameInfo (.v4 .loopback 443) 3) = .ok ⟨"127.0.0.1", some "443"⟩ := by
      with_unfolding_all rfl
    exact answer ▸ Replies.gives (.answered rfl unserved)
  have large : readPort (serviceQuery "65536" 0) = .error .service :=
    (numbered 65536 _ (by decide +kernel)).2 (.inr (by decide))
  obtain ⟨-, -, refused⟩ := asked (serviceQuery "65536" 0)
  exact ⟨⟨name, named _ _ _ _ name rfl _ rfl (by decide)⟩,
    ⟨number, named _ _ _ _ number rfl _ rfl (by decide)⟩, large, refused (by decide +kernel) _ _ large⟩

end Engine

end HostLookup
