import HostLookup.Proofs.Entries
import HostLookup.Proofs.Requests
import HostLookup.Proofs.ServiceTexts

/-! Ports that are given as numbers. The built-in engine answers with just that port, or refuses a number that is no
port; the platform reads the number into sixty-four bits and goes by the lower ones. -/
namespace HostLookup
open Text Resolver

theorem Text.Numeral.IsMark.plain {c : Char} (mark : IsMark c) :
    Platform.isSpace c = false ∧ c ≠ '*' ∧ c.toNat ≠ 0 :=
  mark.holds (fun c => Platform.isSpace c = false ∧ c ≠ '*' ∧ c.toNat ≠ 0) (by decide) (by decide)

namespace Platform

theorem characters_toBytes {text : String} (ascii : isAscii text = true) :
    characters (toBytes text) = text.toList := by
  have each : ∀ c ∈ text.toList, c.toNat < 0x80 := by simpa [isAscii] using ascii
  rw [← text.ofList_toList]
  generalize text.toList = cs at each
  induction cs with
  | nil => rfl
  | cons c rest ih =>
    obtain ⟨small, others⟩ := List.forall_mem_cons.mp each
    have byte : (UInt8.ofNat c.toNat).toNat = c.toNat := UInt8.toNat_ofNat_of_lt' (small.trans (by decide))
    have tail := ih others
    rw [String.toList_ofList] at tail ⊢
    rw [toBytes_cons small, characters, List.map_cons, byte, Char.ofNat_toNat]
    exact congrArg (c :: ·) tail

theorem characters_ofInt (n : Int) : characters (toBytes (Numeral.ofInt n)) = Numeral.signedDecimal n := by
  rw [characters_toBytes (Numeral.isAscii_ofInt n), Numeral.ofInt, String.toList_ofList]

def lowPort (n : Int) : UInt16 :=
  .ofNat (n % 65536).toNat

def IsLow (n : Int) : Prop :=
  n % 4294967296 < 2147483648

instance (n : Int) : Decidable (IsLow n) :=
  inferInstanceAs (Decidable (_ < _))

theorem ServiceText.ofValue_eq {value : Nat} {n : Int}
    (same : (value : Int) % 18446744073709551616 = n % 18446744073709551616) :
    ofValue value = if IsLow n then .number (lowPort n) else .name := by
  have port : UInt16.ofNat value = lowPort n := by
    apply UInt16.toNat_inj.mp
    simp only [lowPort, UInt16.toNat_ofNat']
    omega
  have low : value % UInt32.size < 0x80000000 ↔ IsLow n := by
    simp only [IsLow, UInt32.size]
    omega
  unfold ofValue
  rw [port]
  exact if_congr low rfl rfl

theorem splitSign_decimal (n : Nat) : splitSign (Numeral.decimal n) = (false, Numeral.decimal n) := by
  have digits := Numeral.digits_decimal n
  generalize Numeral.decimal n = cs at digits
  unfold splitSign
  split
  · nomatch digits '-' List.mem_cons_self
  · nomatch digits '+' List.mem_cons_self
  · rfl

theorem readService_ofInt {n : Int} (least : -9223372036854775808 ≤ n) (most : n < 9223372036854775808) :
    readService (toBytes (Numeral.ofInt n)) = some (if IsLow n then .number (lowPort n) else .name) := by
  obtain ⟨c, rest, numeral, mark⟩ := Numeral.signedDecimal_eq_cons n
  have text : (characters (toBytes (Numeral.ofInt n))).dropWhile isSpace = Numeral.signedDecimal n := by
    rw [characters_ofInt, numeral]
    exact List.dropWhile_cons_of_neg (by simp [mark.plain.1])
  unfold readService
  rw [text]
  cases n with
  | ofNat m =>
    rw [Numeral.signedDecimal, splitSign_decimal]
    dsimp only
    rw [Numeral.natural?_decimal, Option.map_some]
    refine congrArg some (ServiceText.ofValue_eq ?_)
    have small : m < 18446744073709551616 := by
      rw [Int.ofNat_eq_natCast] at most
      omega
    simp only [inSixtyFour, UInt64.size, Bool.false_eq_true, if_false]
    rw [if_neg (by omega)]
    rfl
  | negSucc m =>
    rw [Numeral.signedDecimal, splitSign]
    dsimp only
    rw [Numeral.natural?_decimal, Option.map_some]
    refine congrArg some (ServiceText.ofValue_eq ?_)
    simp only [inSixtyFour, UInt64.size, if_true]
    rw [if_neg (by omega)]
    omega

theorem serviceText_number (n : Int) : serviceText (.number n) = .ok (some (toBytes (Numeral.ofInt n))) := by
  have whole : (toBytes (Numeral.ofInt n)).contains 0 = false := by
    refine Bool.eq_false_iff.mpr fun zero => ?_
    have member : Char.ofNat (0 : UInt8).toNat ∈ characters (toBytes (Numeral.ofInt n)) :=
      List.mem_map_of_mem (List.contains_iff_mem.mp zero)
    rw [characters_ofInt] at member
    exact (Numeral.isMark_signedDecimal n _ member).plain.2.2 rfl
  rw [serviceText, checked, whole]
  rfl

theorem serviceRead_of_readService {text : Bytes} {read : ServiceText} (number : readService text = some read)
    (flags : Flags) : serviceRead (present (some text)) flags = .ok (some read) := by
  have asterisk : text ≠ toBytes "*" := by
    rintro rfl
    nomatch number.symm.trans (by decide : readService (toBytes "*") = none)
  have content : text ≠ [] := by
    rintro rfl
    nomatch number.symm.trans (by decide : readService [] = none)
  have kept : (present (some text)).filter (!·.isEmpty) = some text := by
    simp [present, Option.filter, asterisk, content]
  rw [serviceRead, kept]
  dsimp only
  rw [number]

theorem chooseTransports_name {socketType : Int32} {protocol : Protocol} {chosen : List Transport} :
    chooseTransports socketType protocol (some .name) ≠ .ok chosen := by
  intro ok
  unfold chooseTransports at ok
  split at ok
  · contradiction
  · generalize transports.find? (·.fits socketType protocol) = fitting at ok
    cases fitting <;> contradiction

/-- The text of a number is read into sixty-four bits. The entries that are found have the low sixteen of them as
their port, and none are found where the lower thirty-two of them are a negative number. -/
structure Search.ReadsNumbers (search : Search) : Prop where
  port : ∀ host text hints port entries, readService text = some (.number port) →
    search host (some text) hints = .ok entries → ∀ entry ∈ entries, ∀ address ∈ entry.address, address.port = port
  name : ∀ host text hints entries, readService text = some .name → search host (some text) hints ≠ .ok entries

theorem literals_readsNumbers : literals.ReadsNumbers where
  port := by
    intro host text hints port entries number ok entry member address located
    obtain ⟨name, read, chosen, found, service, -, -, rfl⟩ := search_eq_ok (literals_eq_ok.mp ok)
    obtain rfl := Except.ok.inj ((serviceRead_of_readService number hints.flags).symm.trans service)
    obtain ⟨own, -, transport, -, same⟩ := mem_entriesOf member
    obtain rfl : withPort port own = address := Option.some.inj ((congrArg Entry.address same).symm.trans located)
    exact port_withPort port own
  name := by
    intro host text hints entries number ok
    obtain ⟨name, read, chosen, found, service, transports, -, -⟩ := search_eq_ok (literals_eq_ok.mp ok)
    obtain rfl := Except.ok.inj ((serviceRead_of_readService number hints.flags).symm.trans service)
    exact chooseTransports_name transports

theorem Search.ReadsNumbers.addressInfo {search : Search} (reads : search.ReadsNumbers) {n : Int}
    (least : -9223372036854775808 ≤ n) (most : n < 9223372036854775808) {host : Option Bytes} {hints : Hints}
    {infos : List AddressInfo} (ok : search.addressInfo host (.number n) hints = .ok infos) :
    IsLow n ∧ ∀ info ∈ infos, info.address.port = lowPort n := by
  obtain ⟨service, entries, named, found, rfl⟩ := Search.addressInfo_eq_ok ok
  obtain rfl := Except.ok.inj ((serviceText_number n).symm.trans named)
  have number := readService_ofInt least most
  by_cases low : IsLow n
  · rw [if_pos low] at number
    refine ⟨low, fun info member => ?_⟩
    obtain ⟨entry, among, made⟩ := List.mem_filterMap.mp member
    exact reads.port _ _ _ _ _ number found entry among info.address (Entry.address_of_toInfo? made)
  · rw [if_neg low] at number
    exact absurd found (reads.name _ _ _ _ number)

theorem toNat_lowPort (n : Int) : ((lowPort n).toNat : Int) = n % 65536 := by
  rw [lowPort, UInt16.toNat_ofNat_of_lt' (by simp only [UInt16.size]; omega)]
  omega

end Platform

namespace Engine

variable {n : Int} {query : AddressQuery}

theorem Gives.number_eq {records : List Record} (gives : Gives (.addressInfo query) (.ok records))
    (asked : (Port.number n).toService = .ok query.service) :
    (0 ≤ n ∧ n ≤ 65535) ∧ ∀ record ∈ records, (record.address.port.toNat : Int) = n := by
  obtain ⟨-, port, read⟩ := readPort_of_accepted gives.records.1
  have number := readPort_number asked
  by_cases fits : 0 ≤ n ∧ n ≤ Service.mostPort
  · rw [if_pos fits] at number
    refine ⟨fits, fun record member => ?_⟩
    have small : n ≤ 65535 := fits.2
    rw [gives.port_eq number record member, UInt16.toNat_ofNat_of_lt' (by simp only [UInt16.size]; omega)]
    omega
  · rw [if_neg fits, read] at number
    contradiction

theorem refusal?_number (asked : (Port.number n).toService = .ok query.service) (outside : n < 0 ∨ 65535 < n) :
    ∃ fault, refusal? (.addressInfo query) = some fault ∧ ((ofBytes? query.host).isSome → fault = .service) := by
  have number := readPort_number asked
  rw [if_neg (by simp only [Service.mostPort]; omega)] at number
  by_cases text : (ofBytes? query.host).isSome
  · refine ⟨.service, ?_, fun _ => rfl⟩
    rw [refusal?_of_readPort text, number]
  · refine ⟨.badName, ?_, fun named => absurd named text⟩
    simp [refusal?, Option.not_isSome_iff_eq_none.mp text]

end Engine

theorem Call.plan_engine {host : Host} {name : Bytes} {port : Port} {hints : Hints} (convention : Convention)
    (routed : host.route hints.flags = .ok (.engine name)) : Call.plan convention (.addressInfo host port hints) =
      .attempts { family := .addressInfo, body := .addressInfo name port hints, finish := id } := by
  simp only [Call.plan, Plan.addressInfo, routed]

theorem Attempt.addressInfo_eq {host : Bytes} {port : Port} {hints : Hints} {service : Option Bytes}
    (named : port.toService = .ok service) : addressInfo host port hints =
      .engine (.addressInfo { hints with host, service }) fun reply => .finish do
        let records ← Record.require (← reply.mapError Fault.toAddressError)
        return .records (Record.backfill records hints.socketType hints.protocol) := by
  unfold addressInfo
  rw [named]

namespace Resolver

variable {s : State} {id : Nat} {n : Int} {host : Host} {hints : Hints}

theorem refused_number {name : Bytes} (routed : host.route hints.flags = .ok (.engine name))
    (outside : n < 0 ∨ 65535 < n)
    (fresh : s.task? id = some ⟨id, .fresh (.addressInfo host (.number n) hints), false⟩) (idle : s.busy = none)
    (ready : .task id ∈ s.ready) :
    (s.slot = none → (id, .error .closed) ∈ (step s (.poll id)).results) ∧
    ∀ slot, s.slot = some slot → ∃ query fault, (id, .engine slot.channel (.addressInfo query)) ∈
      (step s (.poll id)).issues ∧ query.host = name ∧ Engine.refusal? (.addressInfo query) = some fault ∧
        ((ofBytes? name).isSome → fault = .service) ∧
        (id, .error fault.toAddressError) ∈ (run s [.poll id, .answerEngine (.refuse fault)]).results := by
  let query : AddressQuery :=
    { hints with host := name, service := if n = 0 then none else some (toBytes (Numeral.ofInt n)) }
  have named : (Port.number n).toService = .ok query.service := rfl
  have plan := @Call.plan_engine host name (.number n) hints s.config.convention routed
  have body : Attempt.addressInfo name (.number n) hints = .engine (.addressInfo query) _ :=
    Attempt.addressInfo_eq named
  refine ⟨closed_at_once plan body fresh idle ready, fun slot live => ?_⟩
  obtain ⟨fault, refused, known⟩ := Engine.refusal?_number named outside
  have at_once : (Reaction.refuse fault).reply? = some fun _ => .error fault := rfl
  obtain ⟨asked, done⟩ := answered_at_once plan body fresh idle ready live at_once
  exact ⟨query, fault, asked, rfl, refused, known, done⟩

/-- Numbers as ports, of sixty-four bits with a sign. From the built-in engine and from the platform's resolver, the
records of a lookup have as their port the low sixteen bits of the number that was asked for, which are the number if
it is a port. The engine answers for no other number: it refuses it, and the lookup is over with an error, as it is
where no channel is live. The platform answers for another number too, if the lower thirty-two bits of it are no
negative number; if they are one, the lookup is over with an error. The platform is any search that reads the text
of a number as such; the one for literals does. -/
theorem integer_port {s : State} (reachable : Reachable s) {n : Int} (least : -9223372036854775808 ≤ n)
    (most : n < 9223372036854775808) (host : Host) (hints : Hints) :
    Platform.literals.ReadsNumbers ∧ ∀ search : Platform.Search, search.ReadsNumbers →
    (∀ id, (s.history id).call = some (.addressInfo host (.number n) hints) →
      (∀ query own, .engine query own ∈ heard (s.notes id) → Engine.Gives query own) →
      (∀ query own, .native query own ∈ heard (s.notes id) → own = search.reply query) →
      ∀ answer, (id, .ok answer) ∈ s.results → ∃ infos, answer = .records infos ∧
        (∀ info ∈ infos, (info.address.port.toNat : Int) = n % 65536) ∧
        (0 ≤ n → n ≤ 65535 → ∀ info ∈ infos, (info.address.port.toNat : Int) = n) ∧
        (∀ name, host.route hints.flags = .ok (.engine name) → 0 ≤ n ∧ n ≤ 65535) ∧
        ∀ name, host.route hints.flags = .ok (.native name) → n % 4294967296 < 2147483648) ∧
    ∀ id, s.task? id = some ⟨id, .fresh (.addressInfo host (.number n) hints), false⟩ → s.busy = none →
      .task id ∈ s.ready →
      (∀ name, host.route hints.flags = .ok (.engine name) → n < 0 ∨ 65535 < n →
        (s.slot = none → (id, .error .closed) ∈ (step s (.poll id)).results) ∧
        ∀ slot, s.slot = some slot → ∃ query fault, (id, .engine slot.channel (.addressInfo query)) ∈
          (step s (.poll id)).issues ∧ query.host = name ∧ Engine.refusal? (.addressInfo query) = some fault ∧
            ((ofBytes? name).isSome → fault = .service) ∧
            (id, .error fault.toAddressError) ∈ (run s [.poll id, .answerEngine (.refuse fault)]).results) ∧
      ∀ name, host.route hints.flags = .ok (.native name) → ¬ n % 4294967296 < 2147483648 →
        ∃ e, (id, .error e) ∈ (run s [.poll id, .answerNative search.reply]).results := by
  refine ⟨Platform.literals_readsNumbers, fun search reads => ⟨fun id called engine native answer done => ?_,
    fun id fresh idle ready => ⟨fun name routed outside => ?_, fun name routed high => ?_⟩⟩⟩
  · obtain ⟨front, back, among, yields⟩ := reachable.answered called done
    obtain ⟨infos, reply, rfl, replied, whole⟩ := Plan.addressInfo_answered yields
    have member : reply ∈ heard (s.notes id) := among (whole ▸ List.mem_singleton_self reply)
    refine ⟨infos, rfl, ?_⟩
    cases replied with
    | @engine name service records routed named known completed =>
      obtain ⟨fits, ports⟩ := (engine _ _ member).number_eq named
      have port : ∀ info ∈ infos, (info.address.port.toNat : Int) = n := by
        intro info listed
        rw [completed] at listed
        obtain ⟨record, given, completes⟩ := List.mem_flatMap.mp listed
        rw [(Record.keeps_of_mem_expand completes).address]
        exact ports record given
      refine ⟨fun info listed => ?_, fun _ _ => port, fun _ _ => fits, fun own other => ?_⟩
      · rw [port info listed, Int.emod_eq_of_lt fits.1 (by omega)]
      · nomatch routed.symm.trans other
    | @native name routed =>
      obtain ⟨low, ports⟩ := reads.addressInfo least most (native _ _ member).symm
      have port : ∀ info ∈ infos, (info.address.port.toNat : Int) = n % 65536 := by
        intro info listed
        rw [ports info listed, Platform.toNat_lowPort]
      refine ⟨port, fun nonneg small info listed => ?_, fun own other => ?_, fun _ _ => low⟩
      · rw [port info listed, Int.emod_eq_of_lt nonneg (by omega)]
      · nomatch routed.symm.trans other
  · exact refused_number routed outside fresh idle ready
  · have bypasses := Call.Bypasses.of_route routed (.number n)
    have answered := answered_alone (bypasses.plan_eq _) fresh idle ready search.reply
    cases reply : search.addressInfo name (.number n) hints with
    | ok infos => exact absurd (reads.addressInfo least most reply).1 high
    | error e =>
      have same : search.reply (.addressInfo name (.number n) hints) = .error e := reply
      rw [same] at answered
      exact ⟨e, answered⟩

def numberedLookup (n : Int) (flags : Flags) : Call :=
  .addressInfo (.text "10.0.0.1") (.number n) { socketType := some .stream, flags }

theorem integer_port_https :
    let s := run plain [.start (numberedLookup 443 0), .poll 0, .answerEngine (.complete Engine.answer)]
    ∃ infos : List AddressInfo, (0, .ok (.records infos)) ∈ s.results ∧ infos.length = 1 ∧
      ∀ info ∈ infos, (info.address.port.toNat : Int) = 443 := by
  intro s
  let query : EngineQuery := .addressInfo
    { host := toBytes "10.0.0.1", service := some (toBytes "443"), family := .unspec, socketType := some .stream,
      protocol := .any, flags := 0 }
  have whole : heard (s.notes 0) = [.engine query (Engine.answer query)] := by
    with_unfolding_all rfl
  have engine : ∀ other own, .engine other own ∈ heard (s.notes 0) → Engine.Gives other own := by
    intro other own member
    rw [whole, List.mem_singleton, Reply.engine.injEq] at member
    obtain ⟨rfl, same⟩ := member
    have accepted : Engine.refusal? query = none := by decide +kernel
    exact eq_of_heq same ▸ Engine.Replies.gives (.answered accepted Engine.unserved)
  have native : ∀ other own, .native other own ∈ heard (s.notes 0) → own = Platform.reply other := by
    intro other own member
    rw [whole, List.mem_singleton] at member
    nomatch member
  have done : (0, .ok (.records [⟨.inet, .stream, .tcp, "", .v4 ⟨10, 0, 0, 1⟩ 443⟩])) ∈ s.results := by
    decide +kernel
  obtain ⟨literals, number⟩ := integer_port (s := s) (Reachable.run reached_plain _) (n := 443) (by decide)
    (by decide) (.text "10.0.0.1") { socketType := some .stream, flags := 0 }
  obtain ⟨kept, -⟩ := number Platform.literals literals
  obtain ⟨infos, same, -, port, -⟩ := kept 0 (by with_unfolding_all rfl) engine native _ done
  obtain rfl := Answer.records.inj same
  exact ⟨_, done, rfl, port (by decide) (by decide)⟩

/-- The number past the last port is port zero to the platform. -/
theorem integer_port_wrapped :
    let s := run plain [.start (numberedLookup 65536 .numericHost), .poll 0, .answerNative Platform.reply]
    ∃ info : AddressInfo, (0, .ok (.records [info])) ∈ s.results ∧ info.address.port = 0 := by
  intro s
  exact ⟨⟨.inet, .stream, .tcp, "", .v4 ⟨10, 0, 0, 1⟩ 0⟩, by decide +kernel, rfl⟩

end Resolver

end HostLookup
