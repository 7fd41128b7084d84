import HostLookup.Proofs.Retry
import HostLookup.Proofs.Trials
import Mathlib.Algebra.Order.BigOperators.Group.List
import Mathlib.Algebra.Order.Group.Nat

/-! Looking up the name of an address. What turns out to be no address is looked up itself, and the first address
found is asked about in its place, once. -/
namespace HostLookup
open Resolver

/-- What is asked for the addresses of a name that was to be an address: those of any family, for datagrams, with no
service and no flags. -/
def fallbackLookup (name : Bytes) : Lookup :=
  if name ∈ localNames then
    .inl (.addressInfo (some name) .absent
      { family := .unspec, socketType := some .datagram, protocol := .any, flags := 0 })
  else
    .inr (.addressInfo
      { host := name, service := none
        family := .unspec, socketType := some .datagram, protocol := .any, flags := 0 })

/-- A reply to that, and what it comes to. -/
inductive Found (name : Bytes) : Reply → Except LookupError (List Record) → Prop
  | native (known : name ∈ localNames) (reply : Except LookupError (List AddressInfo)) :
      Found name (.native (.addressInfo (some name) .absent Attempt.datagram) reply)
        (reply.map fun infos => infos.map AddressInfo.toRecord)
  | engine (other : name ∉ localNames) (reply : Except Fault (List Record)) :
      Found name (.engine (.addressInfo { Attempt.datagram with host := name, service := none }) reply)
        (reply.mapError Fault.toAddressError)

/-- How an attempt goes on to ask about the address that was found: the reply is final, whatever it is. -/
inductive Redirected (address : Bytes) : List Lookup → List Reply → Ending → Prop
  | unserved : Redirected address [] [] (some (none, .error .closed))
  | awaits : Redirected address [.inr (.hostByAddress address)] [] none
  | answered (reply : Except Fault HostEntry) (finish : Option Nat) :
      Redirected address [.inr (.hostByAddress address)] [.engine (.hostByAddress address) reply]
        (some (finish, (reply.mapError Fault.toHostError).map .entry))

inductive Fallback (name : Bytes) (reason : String) : List Lookup → List Reply → Ending → Prop
  | unserved (other : name ∉ localNames) : Fallback name reason [] [] (some (none, .error .closed))
  | awaits : Fallback name reason [fallbackLookup name] [] none
  | failed {reply : Reply} {e : LookupError} (found : Found name reply (.error e)) (finish : Option Nat) :
      Fallback name reason [fallbackLookup name] [reply] (some (finish, .error e))
  | unknown {reply : Reply} (found : Found name reply (.ok [])) (finish : Option Nat) :
      Fallback name reason [fallbackLookup name] [reply] (some (finish, .error .nameNotKnown))
  | itself {reply : Reply} {first : Record} {more : List Record} (found : Found name reply (.ok (first :: more)))
      (same : Text.toBytes first.address.ip.text = name) (finish : Option Nat) :
      Fallback name reason [fallbackLookup name] [reply] (some (finish, .error (.invalidIp reason)))
  | another {reply : Reply} {first : Record} {more : List Record} {asked : List Lookup} {heard : List Reply}
      {ending : Ending} (found : Found name reply (.ok (first :: more)))
      (other : Text.toBytes first.address.ip.text ≠ name)
      (rest : Redirected (Text.toBytes first.address.ip.text) asked heard ending) :
      Fallback name reason (fallbackLookup name :: asked) (reply :: heard) ending

inductive Reverse (address : Bytes) : List Lookup → List Reply → Ending → Prop
  | unserved : Reverse address [] [] (some (none, .error .closed))
  | awaits : Reverse address [.inr (.hostByAddress address)] [] none
  | answered {reply : Except Fault HostEntry} (legal : ∀ reason, reply ≠ .error (.invalidIp reason))
      (finish : Option Nat) :
      Reverse address [.inr (.hostByAddress address)] [.engine (.hostByAddress address) reply]
        (some (finish, (reply.mapError Fault.toHostError).map .entry))
  | rejected {reason : String} {asked : List Lookup} {heard : List Reply} {ending : Ending}
      (rest : Fallback address reason asked heard ending) :
      Reverse address (.inr (.hostByAddress address) :: asked)
        (.engine (.hostByAddress address) (.error (.invalidIp reason)) :: heard) ending

/-- The address that a lookup asks about: the host, or the address of any interface, as the platform has it. -/
inductive Host.Argument (host : Host) : List Reply → Bytes → Prop
  | named {address : Bytes} (filled : host.isEmpty = false) (encoded : host.toBytes = .ok address) :
      Argument host [] address
  | wildcard {only : AddressInfo} {address : Bytes} (empty : host.isEmpty = true)
      (encoded : (Host.ofIp only.address.ip).toBytes = .ok address) :
      Argument host [.native (.addressInfo none (.number 0)
        { family := .unspec, socketType := some .datagram, flags := .passive }) (.ok [only])] address

section Runs

variable {asked : List Lookup} {heard : List Reply} {ending : Ending}

theorem finishEntry_runs {reply : Except Fault HostEntry}
    (runs : (Attempt.finishEntry reply).Runs asked heard ending) :
    asked = [] ∧ heard = [] ∧ ∃ finish, ending = some (finish, (reply.mapError Fault.toHostError).map .entry) := by
  cases runs with
  | finish finish result => exact ⟨rfl, rfl, finish, rfl⟩

theorem redirected_runs {address : Bytes}
    (runs : (Attempt.engine (.hostByAddress address) Attempt.finishEntry).Runs asked heard ending) :
    Redirected address asked heard ending := by
  cases runs with
  | unserved => exact .unserved
  | awaitsEngine => exact .awaits
  | engine reply rest =>
    obtain ⟨rfl, rfl, finish, rfl⟩ := finishEntry_runs rest
    exact .answered reply finish

theorem candidates_runs {name : Bytes} {next : Except LookupError (List Record) → Attempt}
    (runs : (Attempt.candidates name .absent Attempt.datagram next).Runs asked heard ending) :
    (name ∉ localNames ∧ asked = [] ∧ heard = [] ∧ ending = some (none, .error .closed)) ∨
      (asked = [fallbackLookup name] ∧ heard = [] ∧ ending = none) ∨
      ∃ reply found later more, asked = fallbackLookup name :: later ∧ heard = reply :: more ∧
        Found name reply found ∧ (next found).Runs later more ending := by
  unfold Attempt.candidates at runs
  split at runs
  · next special =>
    have known : name ∈ localNames := isLocal_iff.mp special
    have lookup : fallbackLookup name = .inl (.addressInfo (some name) .absent Attempt.datagram) := if_pos known
    rw [lookup]
    cases runs with
    | awaitsNative => exact .inr (.inl ⟨rfl, rfl, rfl⟩)
    | native reply rest => exact .inr (.inr ⟨_, _, _, _, rfl, rfl, .native known reply, rest⟩)
  · next ordinary =>
    have other : name ∉ localNames := fun known => ordinary (isLocal_iff.mpr known)
    have lookup : fallbackLookup name =
        .inr (.addressInfo { Attempt.datagram with host := name, service := none }) := if_neg other
    rw [lookup]
    cases runs with
    | unserved => exact .inl ⟨other, rfl, rfl, rfl⟩
    | awaitsEngine => exact .inr (.inl ⟨rfl, rfl, rfl⟩)
    | engine reply rest => exact .inr (.inr ⟨_, _, _, _, rfl, rfl, .engine other reply, rest⟩)

theorem hostByAddress_runs {address : Bytes} (runs : (Attempt.hostByAddress address).Runs asked heard ending) :
    Reverse address asked heard ending := by
  cases runs with
  | unserved => exact .unserved
  | awaitsEngine => exact .awaits
  | engine reply rest =>
    dsimp only at rest
    split at rest
    · next reason =>
      -- The reply was that the argument is no address: the one branch that asks on.
      refine .rejected ?_
      rcases candidates_runs rest with
        ⟨other, rfl, rfl, rfl⟩ | ⟨rfl, rfl, rfl⟩ | ⟨answer, found, later, more, rfl, rfl, comes, rest⟩
      · exact .unserved other
      · exact .awaits
      · split at rest
        · cases rest with
          | finish finish result => exact .failed comes finish
        · cases rest with
          | finish finish result => exact .unknown comes finish
        · split at rest
          · next same =>
            cases rest with
            | finish finish result => exact .itself comes same finish
          · next other => exact .another comes other (redirected_runs rest)
    · next legal =>
      obtain ⟨rfl, rfl, finish, rfl⟩ := finishEntry_runs rest
      exact .answered legal finish

theorem Redirected.length_le {address : Bytes} (redirected : Redirected address asked heard ending) :
    asked.length ≤ 1 := by
  cases redirected <;> simp

theorem Fallback.length_le {name : Bytes} {reason : String} (fallback : Fallback name reason asked heard ending) :
    asked.length ≤ 2 := by
  cases fallback with
  | another found other rest => exact Nat.succ_le_succ rest.length_le
  | _ => simp

theorem Reverse.length_le {address : Bytes} (reverse : Reverse address asked heard ending) : asked.length ≤ 3 := by
  cases reverse with
  | rejected rest => exact Nat.succ_le_succ rest.length_le
  | _ => simp

end Runs

theorem Plan.wildcard_becomes {host : Host} {family : Family} {next : Host → Plan} {front : List Reply} {loop : Loop}
    (becomes : (wildcard host family next).Becomes front (.attempts loop)) :
    (host.isEmpty = false ∧ (next host).Becomes front (.attempts loop)) ∨
      host.isEmpty = true ∧ ∃ only rest, front = .native (.addressInfo none (.number 0)
          { family, socketType := some .datagram, flags := .passive }) (.ok [only]) :: rest ∧
        (next (.ofIp only.address.ip)).Becomes rest (.attempts loop) := by
  unfold wildcard at becomes
  split at becomes
  · next empty =>
    cases becomes with
    | native reply rest =>
      dsimp only at rest
      split at rest
      · nomatch rest
      · next only => exact .inr ⟨empty, only, _, rfl, rest⟩
      · nomatch rest
  · next filled => exact .inl ⟨by simpa using filled, becomes⟩

theorem Plan.hostByAddress_becomes {host : Host} {front : List Reply} {loop : Loop}
    (becomes : (hostByAddress host).Becomes front (.attempts loop)) :
    ∃ address, host.Argument front address ∧ loop.body = .hostByAddress address := by
  rcases wildcard_becomes becomes with ⟨filled, rest⟩ | ⟨empty, only, later, rfl, rest⟩
  · split at rest
    · nomatch rest
    · next address encoded =>
      cases rest
      exact ⟨address, .named filled encoded, rfl⟩
  · split at rest
    · nomatch rest
    · next address encoded =>
      cases rest
      exact ⟨address, .wildcard empty encoded, rfl⟩

namespace Resolver

variable {s : State} {id : Nat}

theorem Trial.length_channels_le (t : Trial) : t.channels.length ≤ t.lookups.length := by
  rw [lookups, List.length_map]
  exact List.length_filterMap_le _ _

theorem length_flatMap_channels_le {trials : List Trial} {n : Nat} (each : ∀ t ∈ trials, t.channels.length ≤ n) :
    (trials.flatMap Trial.channels).length ≤ trials.length * n := by
  rw [List.length_flatMap, ← List.length_map fun t : Trial => t.channels.length]
  refine List.sum_le_card_nsmul _ n fun length member => ?_
  obtain ⟨t, among, rfl⟩ := List.mem_map.mp member
  exact each t among

/-- Each attempt of a lookup by address asks about the argument first. Only if that is no address, it asks for the
addresses of the argument, and only if the first one that is found has another text, it asks about that, and the
reply is final. So there are three queries of engines at most to an attempt, and as many attempts at most as the slot
has changed under them, and one. -/
theorem reverse_fallback (reachable : Reachable s) {host : Host}
    (called : (s.history id).call = some (.hostByAddress host)) :
    ((s.history id).trials = [] ∨ ∃ front address, front <+: heard (s.notes id) ∧ host.Argument front address ∧
      ∀ t ∈ (s.history id).trials, Reverse address t.lookups t.replies t.ending) ∧
    (channelsAsked (s.notes id)).length ≤ 3 * (((s.history id).trials.map Trial.changes).sum + 1) := by
  have made := reachable.trials_run called
  have reverses : (s.history id).trials = [] ∨ ∃ front address, front <+: heard (s.notes id) ∧
      host.Argument front address ∧ ∀ t ∈ (s.history id).trials, Reverse address t.lookups t.replies t.ending := by
    rcases made with none | ⟨front, loop, becomes, before, runs⟩
    · exact .inl none
    · obtain ⟨address, argument, body⟩ := Plan.hostByAddress_becomes becomes
      refine .inr ⟨front, address, before, argument, fun t member => ?_⟩
      have ran := runs t member
      rw [Trial.Runs, body] at ran
      exact hostByAddress_runs ran
  refine ⟨reverses, ?_⟩
  have each : ∀ t ∈ (s.history id).trials, t.channels.length ≤ 3 := by
    intro t member
    rcases reverses with none | ⟨front, address, -, -, reverse⟩
    · simp [none] at member
    · exact t.length_channels_le.trans (reverse t member).length_le
  have asked := length_flatMap_channels_le each
  have attempts := (reachable.lawful called).length_le
  rw [reachable.channelsAsked_eq called]
  omega

def twiceRejected : List Event :=
  let reaction : Reaction := .complete fun
    | .addressInfo _ => .ok [⟨.inet, none, none, "", .v4 ⟨10, 0, 0, 7⟩ 0⟩]
    | _ => .error (.invalidIp "www")
  [.start (.hostByAddress (.bytes [119, 119, 119])), .poll 0, .answerEngine reaction, .answerEngine reaction,
    .answerEngine reaction]

theorem reverse_fallback_twice :
    (0, .error (.invalidIp "www")) ∈ (run plain twiceRejected).results ∧
      channelsAsked ((run plain twiceRejected).notes 0) = [0, 0, 0] ∧
      ∃ t, ((run plain twiceRejected).history 0).trials = [t] ∧
        Reverse [119, 119, 119] t.lookups t.replies t.ending := by
  have called : ((run plain twiceRejected).history 0).call = some (.hostByAddress (.bytes [119, 119, 119])) := by
    decide +kernel
  have one : ((run plain twiceRejected).history 0).trials.length = 1 := by decide +kernel
  obtain ⟨t, only⟩ := List.length_eq_one_iff.mp one
  obtain ⟨reverses, -⟩ := reverse_fallback (Reachable.run reached_plain twiceRejected) called
  refine ⟨by decide +kernel, by decide +kernel, t, only, ?_⟩
  rcases reverses with none | ⟨front, address, -, argument, each⟩
  · simp [none] at only
  · cases argument with
    | named filled encoded =>
      obtain rfl := Except.ok.inj encoded
      exact each t (by simp [only])
    | wildcard empty encoded => contradiction

end Resolver

end HostLookup
