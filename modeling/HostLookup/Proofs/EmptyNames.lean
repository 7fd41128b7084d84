import HostLookup.Proofs.Answers
import HostLookup.Proofs.Encoding
import HostLookup.Proofs.Ignored
import HostLookup.Proofs.Reverse

/-! Queries about the empty name. A host is tested for being empty before it is encoded, so that a host of which nothing
is left passes the test and the engines are asked about nothing. They are asked so for no other host. -/
namespace HostLookup
open Resolver

def EngineQuery.name? : EngineQuery → Option Bytes
  | .hostByName name _ => some name
  | .addressInfo query => some query.host
  | .hostByAddress address => some address
  | .nameInfo .. => none

def Filled (lookup : Lookup) : Prop :=
  ∀ query, lookup = .inr query → query.name? ≠ some []

namespace Filled

theorem native (query : NativeQuery) : Filled (.inl query) := by
  simp [Filled]

theorem engine {query : EngineQuery} {name : Bytes} (about : query.name? = some name) (filled : name ≠ []) :
    Filled (.inr query) := by
  intro other same
  obtain rfl := Sum.inr.inj same
  simpa [about] using filled

end Filled

theorem Ip.toBytes_text_ne_nil (ip : Ip) : Text.toBytes ip.text ≠ [] := by
  intro nothing
  have read := ip.ofText?_text
  rw [Text.toBytes_eq_nil_iff.mp nothing] at read
  contradiction

namespace Attempt

variable {name : Bytes}

theorem candidates_within {scope : Lookup → Prop} {next : Except LookupError (List Record) → Attempt}
    (fallback : scope (fallbackLookup name)) (rest : ∀ found, (next found).Within scope) :
    (candidates name .absent datagram next).Within scope := by
  unfold candidates
  split
  · next special =>
    have lookup : fallbackLookup name = .inl (.addressInfo (some name) .absent datagram) :=
      if_pos (isLocal_iff.mp special)
    exact ⟨lookup ▸ fallback, fun reply => rest _⟩
  · next ordinary =>
    have lookup : fallbackLookup name = .inr (.addressInfo { datagram with host := name, service := none }) :=
      if_neg fun known => ordinary (isLocal_iff.mpr known)
    exact ⟨lookup ▸ fallback, fun reply => rest _⟩

theorem hostByAddress_within {scope : Lookup → Prop} (first : scope (.inr (.hostByAddress name)))
    (fallback : scope (fallbackLookup name)) (another : ∀ ip : Ip, scope (.inr (.hostByAddress (Text.toBytes ip.text)))) :
    (hostByAddress name).Within scope := by
  refine ⟨first, fun reply => ?_⟩
  dsimp only
  split
  · refine candidates_within fallback fun found => ?_
    split
    · trivial
    · trivial
    · split
      · trivial
      · exact ⟨another _, fun reply => trivial⟩
  · trivial

theorem hostByName_filled (filled : name ≠ []) (family : Family) : (hostByName name family).Within Filled :=
  ⟨.engine rfl filled, fun _ => trivial⟩

theorem hostByAddress_filled (filled : name ≠ []) : (hostByAddress name).Within Filled := by
  refine hostByAddress_within (.engine rfl filled) ?_ fun ip => .engine rfl ip.toBytes_text_ne_nil
  unfold fallbackLookup
  split
  · exact .native _
  · exact .engine rfl filled

end Attempt

/-- The lookups that take an empty host for the address of any interface, with the family of that. -/
inductive Call.Resolves : Call → Host → Family → Prop
  | hostByName (host : Host) (family : Family) : Resolves (.hostByName host family) host family
  | hostByAddress (host : Host) : Resolves (.hostByAddress host) host .unspec

namespace Plan

variable {host : Host} {family : Family}

theorem wildcard_filled {next : Host → Plan} (kept : ¬ host.Vanishes)
    (rest : ∀ named : Host, named.toBytes ≠ .ok [] → (next named).Within Filled) :
    (wildcard host family next).Within Filled := by
  unfold wildcard
  split
  · refine ⟨.native _, fun reply => ?_⟩
    dsimp only
    split
    · trivial
    · next only =>
      refine rest _ fun nothing => ?_
      rw [Host.toBytes_ofIp, Except.ok.injEq] at nothing
      exact Ip.toBytes_text_ne_nil _ nothing
    · trivial
  · next given => exact rest host fun nothing => kept (Host.vanishes_iff.mpr ⟨by simpa using given, nothing⟩)

end Plan

theorem Call.Resolves.filled {call : Call} {host : Host} {family : Family} (resolves : call.Resolves host family)
    (kept : ¬ host.Vanishes) (convention : Convention) : (call.plan convention).Within Filled := by
  -- The wildcard leads to an address, which has a text; any other host is encoded as it is given.
  cases resolves with
  | hostByName host family =>
    rw [Call.plan, Plan.hostByName]
    refine Plan.wildcard_filled kept fun named filled => ?_
    unfold Plan.hostEntry
    split
    · trivial
    · next name encoded =>
      split
      · exact ⟨.native _, fun _ => trivial⟩
      · exact Attempt.hostByName_filled (fun nothing => filled (nothing ▸ encoded)) _
  | hostByAddress host =>
    rw [Call.plan, Plan.hostByAddress]
    refine Plan.wildcard_filled kept fun named filled => ?_
    split
    · trivial
    · next address encoded => exact Attempt.hostByAddress_filled fun nothing => filled (nothing ▸ encoded)

def AsksEngine (lookup : Lookup) : Prop :=
  ∃ query, lookup = .inr query

theorem Call.Resolves.engines {call : Call} {host : Host} {family : Family} (resolves : call.Resolves host family)
    (vanishes : host.Vanishes) (convention : Convention) : (call.plan convention).Within AsksEngine := by
  obtain ⟨given, nothing⟩ := Host.vanishes_iff.mp vanishes
  have own (family : Family) (next : Host → Plan) : Plan.wildcard host family next = next host :=
    if_neg (by simp [given])
  cases resolves with
  | hostByName host family =>
    rw [Call.plan, Plan.hostByName, own, Plan.hostEntry_of_toBytes nothing, if_neg (by decide)]
    exact ⟨⟨_, rfl⟩, fun reply => trivial⟩
  | hostByAddress host =>
    rw [Call.plan, Plan.hostByAddress, own]
    simp only [nothing]
    exact Attempt.hostByAddress_within ⟨_, rfl⟩ ⟨_, if_neg (by decide)⟩ fun ip => ⟨_, rfl⟩

theorem Attempt.Runs.head? {body : Attempt} {asked : List Lookup} {heard : List Reply} {ending : Ending}
    (runs : body.Runs asked heard ending) : ∀ lookup ∈ asked.head?, body.lookup? = some lookup := by
  cases runs <;> simp [Attempt.lookup?]

theorem Plan.hostEntry_becomes {host : Host} {family : Family} {finish : Result → Result} {front : List Reply}
    {loop : Loop} (becomes : (hostEntry host family finish).Becomes front (.attempts loop)) :
    front = [] ∧ ∃ name, host.toBytes = .ok name ∧ loop.body = .hostByName name family := by
  unfold hostEntry at becomes
  split at becomes
  · nomatch becomes
  · next name encoded =>
    split at becomes
    · cases becomes with
      | native reply rest => nomatch rest
    · cases becomes
      exact ⟨rfl, name, encoded, rfl⟩

theorem Call.Resolves.becomes {call : Call} {host : Host} {family : Family} (resolves : call.Resolves host family)
    {convention : Convention} {front : List Reply} {loop : Loop}
    (becomes : (call.plan convention).Becomes front (.attempts loop)) :
    ∃ name, host.StandsFor family front name ∧
      ∃ query, loop.body.lookup? = some (.inr query) ∧ query.name? = some name := by
  cases resolves with
  | hostByName host family =>
    rw [Call.plan, Plan.hostByName] at becomes
    rcases Plan.wildcard_becomes becomes with ⟨given, rest⟩ | ⟨empty, only, later, rfl, rest⟩
    · obtain ⟨rfl, name, encoded, body⟩ := Plan.hostEntry_becomes rest
      exact ⟨name, .own given encoded, _, by rw [body]; rfl, rfl⟩
    · obtain ⟨rfl, name, encoded, body⟩ := Plan.hostEntry_becomes rest
      obtain rfl := Except.ok.inj (encoded.symm.trans (Host.toBytes_ofIp _))
      exact ⟨_, .wildcard empty only, _, by rw [body]; rfl, rfl⟩
  | hostByAddress host =>
    obtain ⟨address, argument, body⟩ := Plan.hostByAddress_becomes becomes
    refine ⟨address, ?_, _, by rw [body]; rfl, rfl⟩
    cases argument with
    | named filled encoded => exact .own filled encoded
    | wildcard empty encoded =>
      obtain rfl := Except.ok.inj (encoded.symm.trans (Host.toBytes_ofIp _))
      exact .wildcard empty _

theorem Host.StandsFor.eq_nil_iff {host : Host} {family : Family} {front : List Reply} {name : Bytes}
    (stands : host.StandsFor family front name) : name = [] ↔ host.Vanishes := by
  rw [Host.vanishes_iff]
  cases stands with
  | own given encoded => simp [given, encoded]
  | wildcard empty only => simp [empty, Ip.toBytes_text_ne_nil]

namespace Resolver

variable {s : State} {id : Nat}

/-- Hosts that come to nothing. A host vanishes if it is not empty and all its characters are left out of what is made
of it; then the engines are asked about the empty name, by every attempt, and the platform is not asked what address any
interface has. For any other host no engine is asked about the empty name: an empty host stands for the address that the
platform has answered with, and each attempt asks about that first. -/
theorem empty_names_asked (reachable : Reachable s) {call : Call} {host : Host} {family : Family}
    (called : (s.history id).call = some call) (resolves : call.Resolves host family) :
    (host.Vanishes ↔ host.isEmpty = false ∧ host.toBytes = .ok []) ∧
    (∀ channel query, .engine channel query ∈ asked (s.notes id) → query.name? = some [] → host.Vanishes) ∧
    (host.Vanishes → ∀ issue ∈ asked (s.notes id), ∃ channel query, issue = .engine channel query) ∧
    ((s.history id).trials = [] ∨ ∃ front name, front <+: heard (s.notes id) ∧ host.StandsFor family front name ∧
      (name = [] ↔ host.Vanishes) ∧ ∀ t ∈ (s.history id).trials, ∀ lookup ∈ t.lookup?,
        ∃ query, lookup = .inr query ∧ query.name? = some name) := by
  have started := started_of_called called
  refine ⟨Host.vanishes_iff, fun channel query issued nothing => ?_, fun vanishes issue issued => ?_, ?_⟩
  · by_contra kept
    exact reachable.within started (resolves.filled kept _) _ issued query rfl nothing
  · obtain ⟨query, lookup⟩ := reachable.within started (resolves.engines vanishes _) issue issued
    cases issue with
    | native own => contradiction
    | engine channel own => exact ⟨channel, own, rfl⟩
  · rcases reachable.trials_run called with none | ⟨front, loop, becomes, before, runs⟩
    · exact .inl none
    · obtain ⟨name, stands, query, first, about⟩ := resolves.becomes becomes
      refine .inr ⟨front, name, before, stands, stands.eq_nil_iff, fun t member lookup asks => ?_⟩
      have head : t.lookups.head? = some lookup := by
        rw [Trial.lookups, List.head?_map]
        exact asks
      exact ⟨query, Option.some.inj ((first.symm.trans ((runs t member).head? lookup head)).symm), about⟩

theorem empty_names_asked_hyphen :
    let forward := run plain [.start (.hostByName (.text "\u00AD") .inet), .poll 0]
    let backward := run plain [.start (.hostByAddress (.text "\u00AD")), .poll 0]
    (Host.text "\u00AD").Vanishes ∧ (Host.text "\u00AD").toBytes = .ok [] ∧
      (asked (forward.notes 0) = [.engine 0 (.hostByName [] .inet)] ∧
        ∃ t, (forward.history 0).trials = [t] ∧ ∀ lookup ∈ t.lookup?,
          ∃ query, lookup = .inr query ∧ query.name? = some []) ∧
      asked (backward.notes 0) = [.engine 0 (.hostByAddress [])] ∧
        ∃ t, (backward.history 0).trials = [t] ∧ ∀ lookup ∈ t.lookup?,
          ∃ query, lookup = .inr query ∧ query.name? = some [] := by
  intro forward backward
  have ran : ((forward.history 0).call = some (.hostByName (.text "\u00AD") .inet) ∧
      (forward.history 0).trials.length = 1) ∧
      (backward.history 0).call = some (.hostByAddress (.text "\u00AD")) ∧
        (backward.history 0).trials.length = 1 := by
    decide +kernel
  obtain ⟨⟨called, one⟩, reversed, single⟩ := ran
  have ignored : Idna.IsIgnored '\u00AD' := by decide +kernel
  have vanishes : (Host.text "\u00AD").Vanishes := ⟨by decide, by simpa using ignored⟩
  have first {s : State} {call : Call} {family : Family} (reachable : Reachable s)
      (called : (s.history 0).call = some call) (resolves : call.Resolves (.text "\u00AD") family)
      (one : (s.history 0).trials.length = 1) : ∃ t, (s.history 0).trials = [t] ∧ ∀ lookup ∈ t.lookup?,
        ∃ query, lookup = .inr query ∧ query.name? = some [] := by
    obtain ⟨t, only⟩ := List.length_eq_one_iff.mp one
    obtain ⟨-, -, -, none | ⟨front, name, -, -, nothing, asks⟩⟩ := empty_names_asked reachable called resolves
    · simp [none] at only
    · exact ⟨t, only, nothing.mpr vanishes ▸ asks t (by simp [only])⟩
  exact ⟨vanishes, (Host.vanishes_iff.mp vanishes).2,
    ⟨by decide +kernel, first (Reachable.run reached_plain _) called (.hostByName _ _) one⟩,
    by decide +kernel, first (Reachable.run reached_plain _) reversed (.hostByAddress _) single⟩

end Resolver

end HostLookup
