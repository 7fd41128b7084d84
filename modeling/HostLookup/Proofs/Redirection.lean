import HostLookup.Proofs.BuiltIn
import HostLookup.Proofs.Reverse

/-! Lookups by address over the built-in engine. It takes the written form of every address, so that a lookup whose
argument it has refused asks about the address that was found, and is never refused again. -/
namespace HostLookup
open Resolver

theorem Attempt.Yields.runs {attempt : Attempt} {replies : List Reply} {result : Result}
    (yields : attempt.Yields replies result) :
    ∃ asked finish, attempt.Runs asked replies (some (finish, result)) := by
  induction yields with
  | finish result => exact ⟨[], none, .finish none result⟩
  | closed => exact ⟨[], none, .unserved⟩
  | native reply rest ih =>
    obtain ⟨asked, finish, runs⟩ := ih
    exact ⟨_, finish, .native reply runs⟩
  | engine reply rest ih =>
    obtain ⟨asked, finish, runs⟩ := ih
    exact ⟨_, finish, .engine reply runs⟩

theorem Fault.toHostError_eq_invalidIp {fault : Fault} {text : String} :
    fault.toHostError = .invalidIp text ↔ fault = .invalidIp text := by
  cases fault <;> simp [toHostError, LookupError.ofHostCode]

theorem Fault.toAddressError_eq_invalidIp {fault : Fault} {text : String} :
    fault.toAddressError = .invalidIp text ↔ fault = .invalidIp text := by
  cases fault <;> simp [toAddressError, LookupError.ofAddressCode]

/-- The engine is the built-in one, and the platform does not say that something is no address. -/
structure BuiltInReplies (replies : List Reply) : Prop where
  engine : ∀ query reply, .engine query reply ∈ replies → Engine.Gives query reply
  native : ∀ query text, .native query (.error (.invalidIp text)) ∉ replies

theorem BuiltInReplies.mono {replies more : List Reply} (builtIn : BuiltInReplies more) (among : replies ⊆ more) :
    BuiltInReplies replies :=
  ⟨fun query reply heard => builtIn.engine query reply (among heard),
    fun query text heard => builtIn.native query text (among heard)⟩

section Endings

variable {address : Bytes} {asked : List Lookup} {heard : List Reply} {ending : Ending} {text : String}

theorem entry_eq_invalidIp {reply : Except Fault HostEntry}
    (failed : (reply.mapError Fault.toHostError).map Answer.entry = .error (.invalidIp text)) :
    reply = .error (.invalidIp text) := by
  cases reply with
  | error fault => rw [Fault.toHostError_eq_invalidIp.mp (Except.error.inj failed)]
  | ok entry => contradiction

theorem ne_of_refused {reason : String}
    (refused : Engine.Gives (.hostByAddress address) (.error (.invalidIp reason))) (ip : Ip) :
    Text.toBytes ip.text ≠ address := by
  rintro rfl
  obtain ⟨_, same, illegal⟩ := refused.invalidIp
  obtain rfl := EngineQuery.hostByAddress.inj same
  rw [Engine.literal?_text] at illegal
  contradiction

theorem Redirected.legal {ip : Ip} (redirected : Redirected (Text.toBytes ip.text) asked heard ending)
    (builtIn : BuiltInReplies heard) (finish : Option Nat) : ending ≠ some (finish, .error (.invalidIp text)) := by
  rintro same
  cases redirected with
  | unserved => simp at same
  | awaits => contradiction
  | answered reply _ =>
    simp only [Option.some.injEq, Prod.mk.injEq] at same
    obtain rfl := entry_eq_invalidIp same.2
    exact ne_of_refused (builtIn.engine _ _ (List.mem_singleton_self _)) ip rfl

theorem Found.legal {name : Bytes} {reply : Reply} {e : LookupError} (found : Found name reply (.error e))
    (builtIn : BuiltInReplies [reply]) : e ≠ .invalidIp text := by
  rintro rfl
  generalize outcome : (.error (.invalidIp text) : Except LookupError (List Record)) = comes at found
  cases found with
  | native known reply =>
    cases reply with
    | error failure =>
      obtain rfl := Except.error.inj outcome
      exact builtIn.native _ text (List.mem_singleton_self _)
    | ok infos => contradiction
  | engine other reply =>
    obtain ⟨fault, rfl, same⟩ := mapError_eq_error.mp outcome.symm
    obtain rfl := Fault.toAddressError_eq_invalidIp.mp same
    obtain ⟨_, other, -⟩ := (builtIn.engine _ _ (List.mem_singleton_self _)).invalidIp
    contradiction

theorem Fallback.legal {reason : String} (fallback : Fallback address reason asked heard ending)
    (refused : Engine.Gives (.hostByAddress address) (.error (.invalidIp reason))) (builtIn : BuiltInReplies heard)
    (finish : Option Nat) : ending ≠ some (finish, .error (.invalidIp text)) := by
  cases fallback with
  | unserved other => simp
  | awaits => simp
  | failed found finish => simpa using fun _ => found.legal builtIn
  | unknown found finish => simp [LookupError.nameNotKnown, LookupError.ofAddressCode]
  -- The one branch that fails with the refusal: the address found would be what was refused.
  | itself found same finish => exact absurd same (ne_of_refused refused _)
  | another found other rest => exact rest.legal (builtIn.mono (List.subset_cons_self _ _)) finish

theorem Reverse.legal (reverse : Reverse address asked heard ending) (builtIn : BuiltInReplies heard)
    (finish : Option Nat) : ending ≠ some (finish, .error (.invalidIp text)) := by
  cases reverse with
  | unserved => simp
  | awaits => simp
  | answered legal finish =>
    simp only [ne_eq, Option.some.injEq, Prod.mk.injEq, not_and]
    exact fun _ failed => legal text (entry_eq_invalidIp failed)
  | rejected rest =>
    exact rest.legal (builtIn.engine _ _ List.mem_cons_self) (builtIn.mono (List.subset_cons_self _ _)) finish

theorem Found.unique {name : Bytes} {reply : Reply} {found other : Except LookupError (List Record)}
    (comes : Found name reply found) (again : Found name reply other) : other = found := by
  cases comes with
  | native known reply =>
    cases again
    rfl
  | engine unknown reply =>
    cases again
    rfl

theorem Reverse.redirected {name : Bytes} {reason : String} {reply : Reply} {first : Record} {more : List Record}
    {later : List Reply} (reverse : Reverse address asked heard ending)
    (replies : heard = .engine (.hostByAddress name) (.error (.invalidIp reason)) :: reply :: later)
    (found : Found name reply (.ok (first :: more))) (other : Text.toBytes first.address.ip.text ≠ name) :
    ∃ rest, asked = .inr (.hostByAddress name) :: fallbackLookup name :: rest ∧
      Redirected (Text.toBytes first.address.ip.text) rest later ending := by
  cases reverse with
  | unserved => nomatch replies
  | awaits => nomatch replies
  | answered legal finish => simp at replies
  | rejected rest =>
    simp only [List.cons.injEq, Reply.engine.injEq, EngineQuery.hostByAddress.injEq] at replies
    obtain ⟨⟨rfl, -⟩, rfl⟩ := replies
    cases rest with
    | failed comes finish => exact nomatch found.unique comes
    | unknown comes finish => exact nomatch found.unique comes
    | itself comes same finish =>
      obtain ⟨rfl, -⟩ := List.cons.inj (Except.ok.inj (found.unique comes))
      exact absurd same other
    | another comes different rest =>
      obtain ⟨rfl, -⟩ := List.cons.inj (Except.ok.inj (found.unique comes))
      exact ⟨_, rfl, rest⟩

end Endings

theorem Plan.hostByAddress_legal {host : Host} {front back : List Reply} {result : Result} {text : String}
    (yields : (hostByAddress host).Yields front back result) (builtIn : BuiltInReplies (front ++ back)) :
    result ≠ .error (.invalidIp text) := by
  have attempts {address : Bytes} {rest : List Reply}
      (yields : (Plan.attempts { family := .host, body := .hostByAddress address, finish := id }).Yields rest back
        result) : result ≠ .error (.invalidIp text) := by
    cases yields with
    | @attempts loop rest own body =>
      obtain ⟨asked, finish, runs⟩ := body.runs
      have legal : some (finish, own) ≠ some (finish, .error (.invalidIp text)) :=
        (hostByAddress_runs runs).legal (builtIn.mono (List.subset_append_right front back)) finish
      simpa using legal
  have refused {named : Host} {e : LookupError} {rest : List Reply} (unnamed : named.toBytes = .error e)
      (yields : (Plan.finish (.error e)).Yields rest back result) : result ≠ .error (.invalidIp text) := by
    cases yields
    rintro same
    obtain rfl := Except.error.inj same
    exact nomatch Host.toBytes_refusal unnamed
  rcases wildcard_yields yields with ⟨-, rest⟩ | ⟨-, reply, rest, rfl, failed | several | only⟩
  · split at rest
    · next unnamed => exact refused unnamed rest
    · exact attempts rest
  · obtain ⟨e, rfl, rfl, rfl, rfl⟩ := failed
    rintro same
    obtain rfl := Except.error.inj same
    exact builtIn.native _ text List.mem_cons_self
  · obtain ⟨records, -, -, -, -, rfl⟩ := several
    simp
  · obtain ⟨only, -, rest⟩ := only
    split at rest
    · next unnamed => exact refused unnamed rest
    · exact attempts rest

namespace Resolver

variable {s : State} {id : Nat}

theorem Reachable.reverse (reachable : Reachable s) {host : Host}
    (called : (s.history id).call = some (.hostByAddress host)) {t : Trial} (member : t ∈ (s.history id).trials) :
    ∃ address, Reverse address t.lookups t.replies t.ending := by
  rcases reachable.trials_run called with none | ⟨front, loop, becomes, -, runs⟩
  · simp [none] at member
  · obtain ⟨address, -, body⟩ := Plan.hostByAddress_becomes becomes
    have ran := runs t member
    rw [Trial.Runs, body] at ran
    exact ⟨address, hostByAddress_runs ran⟩

/-- The built-in engine takes the written form of every address for that address. So a lookup by address never fails
because something is no address, unless the platform says so: where the engine has refused the argument, the first
address that is found is written in another way, and the engine does not refuse that. -/
theorem literals_read_back :
    (∀ ip : Ip, ∃ bytes, (Host.ofIp ip).toBytes = .ok bytes ∧ Engine.literal? bytes = some ip ∧
      Engine.refusal? (.hostByAddress bytes) = none ∧
      ∀ directory : Engine.Directory, directory.answer (.hostByAddress bytes) = directory.entryOf ip) ∧
    ∀ {s : State} {id : Nat} {host : Host}, Reachable s → (s.history id).call = some (.hostByAddress host) →
      BuiltInReplies (heard (s.notes id)) →
      (∀ text, (id, .error (.invalidIp text)) ∉ s.results) ∧
      ∀ t ∈ (s.history id).trials, (∀ finish text, t.ending ≠ some (finish, .error (.invalidIp text))) ∧
        ∀ address reason reply first more later,
          t.replies = .engine (.hostByAddress address) (.error (.invalidIp reason)) :: reply :: later →
          Found address reply (.ok (first :: more)) →
          Text.toBytes first.address.ip.text ≠ address ∧
            Engine.refusal? (.hostByAddress (Text.toBytes first.address.ip.text)) = none ∧
            ∃ asked, t.lookups = .inr (.hostByAddress address) :: fallbackLookup address :: asked ∧
              Redirected (Text.toBytes first.address.ip.text) asked later t.ending := by
  refine ⟨fun ip => ⟨_, Host.toBytes_ofIp ip, Engine.literal?_text ip, Engine.refusal?_text ip,
    fun directory => directory.answer_text ip⟩, ?_⟩
  intro s id host reachable called builtIn
  refine ⟨fun text failed => ?_, fun t member => ⟨fun finish text => ?_, ?_⟩⟩
  · obtain ⟨front, stale, back, replies, yields⟩ := reachable.yields (started_of_called called) failed
    have among : front ++ back ⊆ heard (s.notes id) := by
      rw [replies]
      exact List.append_subset.mpr ⟨by simp, by simp⟩
    exact Plan.hostByAddress_legal yields (builtIn.mono among) rfl
  · obtain ⟨address, reverse⟩ := reachable.reverse called member
    exact reverse.legal (builtIn.mono (replies_trials member)) finish
  · intro address reason reply first more later replies found
    have refused : Engine.Gives (.hostByAddress address) (.error (.invalidIp reason)) :=
      builtIn.engine _ _ (replies_trials member (by simp [replies]))
    have other := ne_of_refused refused first.address.ip
    obtain ⟨own, reverse⟩ := reachable.reverse called member
    exact ⟨other, Engine.refusal?_text _, reverse.redirected replies found other⟩

def oneHost : Engine.Directory where
  forward _ := .ok { addresses := [.v6 ⟨[0x2001, 0xdb8, 0, 0, 1, 0, 0, 7], rfl⟩] }
  reverse _ := .ok ["www.", "ftp."]

def foundAddress : List Event :=
  [.start (.hostByAddress (.bytes [119, 119, 119])), .poll 0, .answerEngine (.refuse (.invalidIp "www")),
    .answerEngine (.complete oneHost.answer), .answerEngine (.complete oneHost.answer)]

theorem literals_read_back_found :
    (0, .ok (.entry ⟨"www", ["ftp"], [.v6 ⟨[0x2001, 0xdb8, 0, 0, 1, 0, 0, 7], rfl⟩]⟩)) ∈
        (run plain foundAddress).results ∧
      Engine.refusal? (.hostByAddress (Text.toBytes "2001:db8::1:0:0:7")) = none ∧
      ∀ text, (0, .error (.invalidIp text)) ∉ (run plain foundAddress).results := by
  have replies : heard ((run plain foundAddress).notes 0) =
      [.engine (.hostByAddress [119, 119, 119]) (.error (.invalidIp "www")),
        .engine (.addressInfo ⟨[119, 119, 119], none, .unspec, some .datagram, .any, 0⟩) (oneHost.answer _),
        .engine (.hostByAddress (Text.toBytes "2001:db8::1:0:0:7")) (oneHost.answer _)] := by
    with_unfolding_all rfl
  have builtIn : BuiltInReplies (heard ((run plain foundAddress).notes 0)) := by
    rw [replies]
    refine ⟨?_, fun query text member => by simp at member⟩
    intro query reply member
    refine Engine.Replies.gives ?_
    simp only [List.mem_cons, Reply.engine.injEq, List.not_mem_nil, or_false] at member
    rcases member with ⟨rfl, same⟩ | ⟨rfl, same⟩ | ⟨rfl, same⟩
    all_goals rw [eq_of_heq same]
    · exact .refused (by decide +kernel)
    · exact .answered (by decide +kernel) oneHost
    · exact .answered (by decide +kernel) oneHost
  have called : ((run plain foundAddress).history 0).call = some (.hostByAddress (.bytes [119, 119, 119])) := by
    decide +kernel
  obtain ⟨legal, -⟩ := literals_read_back.2 (Reachable.run reached_plain foundAddress) called builtIn
  exact ⟨by decide +kernel, by decide +kernel, legal⟩

end Resolver

end HostLookup
