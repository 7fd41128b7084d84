import HostLookup.Proofs.Refusals
import HostLookup.Proofs.ServiceTexts
import HostLookup.Proofs.Trials

/-! Name information of a socket address. The address is taken apart into a literal, a service, a flow and a scope;
its literal is looked up; and the engine is asked about the address put together again, which is the same one. -/
namespace HostLookup
open Resolver

inductive Numbered : Option Bytes → UInt16 → Prop
  | absent : Numbered none 0
  | numeral (port : UInt16) : Numbered (some (Text.toBytes (Text.Numeral.ofNat port.toNat))) port

/-- The addresses of a literal, where they are known, are that one at the port asked for, if it is of the family asked
for. -/
def ResolvesLiterals (replies : List Reply) : Prop :=
  ∀ (query : AddressQuery) (records : List Record) (ip : Ip) (port : UInt16),
    .engine (.addressInfo query) (.ok records) ∈ replies → query.host = Text.toBytes ip.text →
    Numbered query.service port → query.family.admits ip = true →
    ∃ record, records = [record] ∧ record.family = ip.family ∧ record.address = .ofIp ip port

theorem ResolvesLiterals.mono {replies more : List Reply} (resolves : ResolvesLiterals more)
    (among : replies ⊆ more) : ResolvesLiterals replies :=
  fun query records ip port heard => resolves query records ip port (among heard)

/-! The built-in engine resolves literals so, as long as its directory knows them. -/

namespace Engine

theorem readPort_of_numbered {query : AddressQuery} {port : UInt16} (numbered : Numbered query.service port) :
    readPort query = .ok port := by
  cases service : query.service with
  | none =>
    rw [service] at numbered
    cases numbered
    rw [readPort, service]
  | some text =>
    rw [service] at numbered
    cases numbered
    rw [readPort_of_toPort service, Service.toPort_ofNat]

def Directory.KnowsLiterals (directory : Directory) : Prop :=
  ∀ ip : Ip, ∃ links, directory.forward ip.text = .ok ⟨[ip], links⟩

theorem unserved_knowsLiterals : unserved.KnowsLiterals := by
  intro ip
  exact ⟨[], by simp [unserved, ip.ofText?_text]⟩

theorem Directory.KnowsLiterals.resolves {replies : List Reply}
    (known : ∀ query records, .engine (.addressInfo query) (.ok records) ∈ replies →
      ∃ directory : Directory, directory.KnowsLiterals ∧ directory.answer (.addressInfo query) = .ok records) :
    ResolvesLiterals replies := by
  intro query records ip port heard literal numbered family
  obtain ⟨directory, knows, answered⟩ := known query records heard
  obtain ⟨links, found⟩ := knows ip
  have name : Text.ofBytesLossy query.host = ip.text := by
    rw [literal, Text.ofBytesLossy_toBytes ip.isAscii_text]
  simp only [Directory.answer, Directory.resolve, name, found, Except.mapError, bind, Except.bind, pure, Except.pure,
    Except.ok.injEq, List.filter_cons_of_pos family, List.filter_nil, List.map_cons, List.map_nil] at answered
  refine ⟨_, answered.symm, rfl, ?_⟩
  rw [record, portOf_of_readPort (readPort_of_numbered numbered)]

end Engine

def SocketAddress.flow? : SocketAddress → Option UInt32
  | .v4 .. => none
  | .v6 _ _ flow _ => some flow

def literalQuery (address : SocketAddress) : AddressQuery where
  host := Text.toBytes address.ip.text
  service := if address.port = 0 then none else some (Text.toBytes (Text.Numeral.ofNat address.port.toNat))
  family := .unspec
  socketType := some .datagram
  protocol := .any
  flags := 0

theorem numbered_literalQuery (address : SocketAddress) :
    Numbered (literalQuery address).service address.port := by
  unfold literalQuery
  dsimp only
  split
  · next zero =>
    rw [zero]
    exact .absent
  · exact .numeral address.port

theorem Engine.literal?_localNames : ∀ name ∈ localNames, Engine.literal? name = none := by
  decide +kernel

theorem not_isLocal_text (ip : Ip) : isLocal (Text.toBytes ip.text) = false := by
  refine Bool.eq_false_iff.mpr fun known => ?_
  have unread := Engine.literal?_localNames _ (isLocal_iff.mp known)
  rw [Engine.literal?_text] at unread
  contradiction

theorem Endpoint.flow_ofSocketAddress (address : SocketAddress) : (ofSocketAddress address).flow = address.flow? := by
  cases address <;> rfl

theorem Endpoint.toBytes_ofSocketAddress (address : SocketAddress) :
    (ofSocketAddress address).host.toBytes = .ok (Text.toBytes address.ip.text) := by
  cases address <;> exact Host.toBytes_ofIp _

theorem Endpoint.port_ofSocketAddress (address : SocketAddress) :
    (ofSocketAddress address).port = address.port.toNat := by
  cases address <;> rfl

theorem Endpoint.target_ofSocketAddress {address : SocketAddress} (small : ∀ flow ∈ address.flow?, flow ≤ 0xFFFFF) :
    (ofSocketAddress address).target = .ok ⟨Text.toBytes address.ip.text, address.port⟩ := by
  have within : (ofSocketAddress address).flow.any (mostFlow < ·) = false := by
    rw [flow_ofSocketAddress]
    cases flow : address.flow? with
    | none => rfl
    | some most => exact decide_eq_false (UInt32.not_lt.mpr (small most flow))
  have fits : (address.port.toNat : Int) < 0x10000 := by
    have bound := address.port.toNat_lt
    omega
  unfold target
  rw [toBytes_ofSocketAddress, within, port_ofSocketAddress]
  simp [bind, Except.bind, pure, Except.pure, fits]

theorem Record.nameInfoAddress_ofSocketAddress {record : Record} {address : SocketAddress}
    (family : record.family = address.ip.family) (same : record.address = .ofIp address.ip address.port) :
    record.nameInfoAddress (.ofSocketAddress address) = .ok address := by
  unfold nameInfoAddress
  rw [family, same]
  cases address <;> rfl

theorem Attempt.candidates_literal (address : SocketAddress) (next : Except LookupError (List Record) → Attempt) :
    candidates (Text.toBytes address.ip.text) (.number address.port.toNat) datagram next =
      .engine (.addressInfo (literalQuery address)) fun reply => next (reply.mapError Fault.toAddressError) := by
  have service : (Port.number address.port.toNat).toService = .ok (literalQuery address).service := by
    unfold literalQuery
    by_cases zero : address.port = 0
    · simp [Port.toService, zero]
    · have positive : address.port.toNat ≠ 0 := by
        simpa [← UInt16.toNat_inj] using zero
      simp [Port.toService, zero, positive, Text.Numeral.ofInt, Text.Numeral.ofNat, Text.Numeral.signedDecimal]
  unfold candidates
  rw [not_isLocal_text, service]
  rfl

/-- How an attempt goes on that knows the address: it is asked about, as the caller has given it. -/
inductive Named (convention : Convention) (address : SocketAddress) (flags : Flags) :
    List Lookup → List Reply → Ending → Prop
  | unserved : Named convention address flags [] [] (some (none, .error .closed))
  | awaits : Named convention address flags [.inr (.nameInfo address flags)] [] none
  | answered (reply : Except Fault NodeInfo) (finish : Option Nat) :
      Named convention address flags [.inr (.nameInfo address flags)] [.engine (.nameInfo address flags) reply]
        (some (finish, do
          let info ← reply.mapError Fault.toAddressError
          return .names (← info.finish convention)))

inductive Inquiry (convention : Convention) (address : SocketAddress) (flags : Flags) :
    List Lookup → List Reply → Ending → Prop
  | unserved : Inquiry convention address flags [] [] (some (none, .error .closed))
  | awaits : Inquiry convention address flags [.inr (.addressInfo (literalQuery address))] [] none
  | failed (fault : Fault) (finish : Option Nat) :
      Inquiry convention address flags [.inr (.addressInfo (literalQuery address))]
        [.engine (.addressInfo (literalQuery address)) (.error fault)] (some (finish, .error fault.toAddressError))
  | found {records : List Record} {asked : List Lookup} {heard : List Reply} {ending : Ending}
      (rest : Named convention address flags asked heard ending) :
      Inquiry convention address flags (.inr (.addressInfo (literalQuery address)) :: asked)
        (.engine (.addressInfo (literalQuery address)) (.ok records) :: heard) ending

section Runs

variable {convention : Convention} {address : SocketAddress} {flags : Flags} {asked : List Lookup}
  {heard : List Reply} {ending : Ending}

theorem nameInfo_runs (resolves : ResolvesLiterals heard)
    (runs : (Attempt.nameInfo convention ⟨Text.toBytes address.ip.text, address.port⟩ (.ofSocketAddress address)
      flags).Runs asked heard ending) : Inquiry convention address flags asked heard ending := by
  unfold Attempt.nameInfo at runs
  rw [Attempt.candidates_literal] at runs
  cases runs with
  | unserved => exact .unserved
  | awaitsEngine => exact .awaits
  | engine reply rest =>
    cases reply with
    | error fault =>
      cases rest with
      | finish finish result => exact .failed fault finish
    | ok records =>
      -- What the engine is asked about next is put together from this one record.
      obtain ⟨record, rfl, family, same⟩ := resolves _ records address.ip address.port List.mem_cons_self rfl
        (numbered_literalQuery address) rfl
      have whole := Record.nameInfoAddress_ofSocketAddress family same
      simp only [Except.mapError, bind, Except.bind, Record.single, whole] at rest
      refine .found ?_
      cases rest with
      | unserved => exact .unserved
      | awaitsEngine => exact .awaits
      | engine reply rest =>
        cases rest with
        | finish finish result => exact .answered reply finish

theorem Inquiry.asks_once (inquiry : Inquiry convention address flags asked heard ending) {query : AddressQuery}
    {records : List Record} {later : List Reply}
    (known : heard = .engine (.addressInfo query) (.ok records) :: later) :
    asked = [.inr (.addressInfo (literalQuery address)), .inr (.nameInfo address flags)] ∨
      asked = [.inr (.addressInfo (literalQuery address))] ∧ ending = some (none, .error .closed) := by
  cases inquiry with
  | unserved => nomatch known
  | awaits => nomatch known
  | failed fault finish => simp at known
  | found rest =>
    cases rest with
    | unserved => exact .inr ⟨rfl, rfl⟩
    | awaits => exact .inl rfl
    | answered reply finish => exact .inl rfl

end Runs

theorem Endpoint.malformed_ofSocketAddress {address : SocketAddress} {flow : UInt32} (given : flow ∈ address.flow?)
    (large : 0xFFFFF < flow) :
    (ofSocketAddress address).Malformed (.overflow "getnameinfo(): flowinfo must be 0-1048575.") := by
  refine .flow (Host.wellFormed_iff.mp ⟨_, toBytes_ofSocketAddress address⟩) ?_ ?_ large
  · rw [port_ofSocketAddress]
    omega
  · rw [flow_ofSocketAddress]
    exact given

namespace Resolver

variable {s : State} {id : Nat}

theorem Reachable.inquiry (reachable : Reachable s) {address : SocketAddress} {flags : Flags}
    (called : (s.history id).call = some (.nameInfo (.ofSocketAddress address) flags))
    (small : ∀ flow ∈ address.flow?, flow ≤ 0xFFFFF) (resolves : ResolvesLiterals (heard (s.notes id)))
    {t : Trial} (member : t ∈ (s.history id).trials) :
    Inquiry s.config.convention address flags t.lookups t.replies t.ending := by
  rcases reachable.trials_run called with none | ⟨front, loop, becomes, -, runs⟩
  · simp [none] at member
  · simp only [Call.plan, Plan.nameInfo, Endpoint.target_ofSocketAddress small] at becomes
    cases becomes
    exact nameInfo_runs (resolves.mono (replies_trials member)) (runs t member)

/-- Asked for the names of a socket address, a lookup asks the engine about just that address, with the flags it was
given, once in each attempt that has heard the address of the literal, unless the channel is gone by then. An address
whose flow is too large is refused, at the first poll, and nothing is asked. -/
theorem socketAddress_kept (address : SocketAddress) (flags : Flags) {s : State} {id : Nat} (reachable : Reachable s) :
    ((∀ flow ∈ address.flow?, flow ≤ 0xFFFFF) →
      (s.history id).call = some (.nameInfo (.ofSocketAddress address) flags) →
      ResolvesLiterals (heard (s.notes id)) →
      ∀ t ∈ (s.history id).trials, Inquiry s.config.convention address flags t.lookups t.replies t.ending ∧
        ∀ query records later, t.replies = .engine (.addressInfo query) (.ok records) :: later →
          t.lookups = [.inr (.addressInfo (literalQuery address)), .inr (.nameInfo address flags)] ∨
            t.lookups = [.inr (.addressInfo (literalQuery address))] ∧
              t.ending = some (none, .error .closed)) ∧
    ∀ flow ∈ address.flow?, 0xFFFFF < flow →
      (.started (.nameInfo (.ofSocketAddress address) flags) ∈ s.notes id →
        asked (s.notes id) = [] ∧ ∀ result, (id, result) ∈ s.results →
          result = .error (.overflow "getnameinfo(): flowinfo must be 0-1048575.")) ∧
      (s.task? id = some ⟨id, .fresh (.nameInfo (.ofSocketAddress address) flags), false⟩ → s.busy = none →
        (id, .error (.overflow "getnameinfo(): flowinfo must be 0-1048575.")) ∈ (step s (.poll id)).results ∧
          (step s (.poll id)).issues = s.issues) := by
  refine ⟨fun small called resolves t member => ?_, fun flow given large => ⟨fun started => ?_, fun fresh idle => ?_⟩⟩
  · have inquiry := reachable.inquiry called small resolves member
    exact ⟨inquiry, fun query records later => inquiry.asks_once⟩
  · have malformed := Call.Malformed.nameInfo flags (Endpoint.malformed_ofSocketAddress given large)
    obtain ⟨point, walk⟩ := reachable.walk_of_started started
    obtain ⟨fails, silent⟩ := walk.fails malformed
    refine ⟨silent, fun result concluded => ?_⟩
    obtain rfl := walk.finished_of_mem (State.mem_results.mp concluded)
    exact fails
  · have malformed := Call.Malformed.nameInfo flags (Endpoint.malformed_ofSocketAddress given large)
    obtain ⟨free, concluded, -⟩ := reachable.poll_fails malformed fresh idle
    have retains : Retains (act s (.poll id)) (step s (.poll id)) := retains_settleOwner _
    refine ⟨State.mem_results.mpr ?_, ?_⟩
    · rw [retains.notes]
      exact concluded
    · cases asks_step s (.poll id) with
      | nothing issues _ => exact issues
      | query issues busy => exact nomatch busy.symm.trans (retains.busy.trans free)

def linkLocal (flow : UInt32) : SocketAddress :=
  .v6 ⟨[0xfe80, 0, 0, 0, 0, 0, 0, 1], rfl⟩ 443 flow 2

def namesOfLinkLocal : List Event :=
  [.start (.nameInfo (.ofSocketAddress (linkLocal 7)) Flags.nameRequired), .poll 0,
    .answerEngine (.complete Engine.unserved.answer),
    .answerEngine (.complete fun
      | .nameInfo .. => .ok ⟨"host", some "https"⟩
      | _ => .error .serverFailure)]

theorem socketAddress_kept_linkLocal :
    (0, .ok (.names ⟨"host", "https"⟩)) ∈ (run plain namesOfLinkLocal).results ∧
      (∃ t, ((run plain namesOfLinkLocal).history 0).trials = [t] ∧
        Inquiry .modern (linkLocal 7) Flags.nameRequired t.lookups t.replies t.ending) ∧
      let s := run plain [.start (.nameInfo (.ofSocketAddress (linkLocal 0x100000)) Flags.nameRequired)]
      (0, .error (.overflow "getnameinfo(): flowinfo must be 0-1048575.")) ∈ (step s (.poll 0)).results ∧
        (step s (.poll 0)).issues = [] := by
  refine ⟨by decide +kernel, ?_, ?_⟩
  · have replies : heard ((run plain namesOfLinkLocal).notes 0) =
        [.engine (.addressInfo (literalQuery (linkLocal 7))) (Engine.unserved.answer _),
          .engine (.nameInfo (linkLocal 7) Flags.nameRequired) (.ok ⟨"host", some "https"⟩)] := by
      with_unfolding_all rfl
    have resolves : ResolvesLiterals (heard ((run plain namesOfLinkLocal).notes 0)) := by
      refine Engine.Directory.KnowsLiterals.resolves fun query records member => ?_
      rw [replies] at member
      simp only [List.mem_cons, Reply.engine.injEq, EngineQuery.addressInfo.injEq, reduceCtorEq, false_and,
        List.not_mem_nil, or_false] at member
      obtain ⟨rfl, same⟩ := member
      exact ⟨Engine.unserved, Engine.unserved_knowsLiterals, (eq_of_heq same).symm⟩
    have called : ((run plain namesOfLinkLocal).history 0).call =
        some (.nameInfo (.ofSocketAddress (linkLocal 7)) Flags.nameRequired) := by
      decide +kernel
    have one : ((run plain namesOfLinkLocal).history 0).trials.length = 1 := by decide +kernel
    obtain ⟨t, only⟩ := List.length_eq_one_iff.mp one
    have reachable : Reachable (run plain namesOfLinkLocal) := Reachable.run reached_plain _
    obtain ⟨kept, -⟩ := socketAddress_kept (linkLocal 7) Flags.nameRequired reachable
    have small : ∀ flow ∈ (linkLocal 7).flow?, flow ≤ 0xFFFFF := by
      intro flow given
      obtain rfl := Option.some.inj given
      decide
    have config : (run plain namesOfLinkLocal).config.convention = .modern := by decide +kernel
    exact ⟨t, only, config ▸ (kept small called resolves t (by simp [only])).1⟩
  · intro s
    have reachable : Reachable s := Reachable.run reached_plain _
    obtain ⟨-, refused⟩ := socketAddress_kept (linkLocal 0x100000) Flags.nameRequired reachable
    obtain ⟨-, fails⟩ := refused 0x100000 rfl (by decide)
    exact fails rfl rfl

end Resolver

end HostLookup
