import HostLookup.Proofs.Origins

/-! The families of errors. What a lookup may fail with depends on what it looks up: errors keep to the family of
the operation, with few and known exceptions, as long as the platform does the same. -/
namespace HostLookup
open Resolver

namespace LookupError

theorem IsRefusal.kind {e : LookupError} (refusal : e.IsRefusal) : e.kind = .type ∨ e.kind = .value := by
  cases refusal with
  | type message => exact .inl rfl
  | value message => exact .inr rfl

theorem kind_ofForward_ne_host {code : Int32} {message : String} {e : LookupError}
    (same : e.ofForward = .host code message) : code ≠ HostCode.notFound := by
  cases e with
  | host other text =>
    simp only [ofForward] at same
    split at same
    · contradiction
    · next different =>
      rw [LookupError.host.injEq] at same
      exact same.1 ▸ different
  | _ => simp [ofForward] at same

theorem ofForward_of_kind {e : LookupError} (kind : e.ofForward.kind = .addressInfo)
    (other : e.kind ≠ .addressInfo) : e.ofForward = .nameNotKnown := by
  cases e with
  | host code message =>
    simp only [ofForward] at kind ⊢
    split at kind
    · next unknown => rw [if_pos unknown]
    · contradiction
  | addressInfo code message => exact absurd rfl other
  | _ => simp [ofForward, LookupError.kind] at kind

end LookupError

theorem EngineQuery.toError_kind (query : EngineQuery) (fault : Fault) :
    (query.toError fault).kind = query.family ∨
      ∃ text, fault = .invalidIp text ∧ query.toError fault = .invalidIp text := by
  by_cases legal : ∀ text, fault ≠ .invalidIp text
  · exact .inl (query.kind_toError legal)
  · push Not at legal
    obtain ⟨text, rfl⟩ := legal
    exact .inr ⟨text, rfl, by cases query <;> rfl⟩

theorem Endpoint.target_error {endpoint : Endpoint} {e : LookupError} (refused : endpoint.target = .error e) :
    e.IsRefusal ∨ ∃ message, e = .overflow message := by
  unfold Endpoint.target at refused
  rcases bind_eq_error refused with unencoded | ⟨host, -, refused⟩
  · exact .inl (Host.toBytes_refusal unencoded)
  · simp only [bind, Except.bind, throw, throwThe, MonadExceptOf.throw, pure, Except.pure] at refused
    split at refused
    · cases refused
      exact .inr ⟨_, rfl⟩
    · split at refused
      · cases refused
        exact .inr ⟨_, rfl⟩
      · contradiction

theorem Record.single_error {records : List Record} {e : LookupError} (several : single records = .error e) :
    records.length ≠ 1 ∧ ∃ message, e = .system message := by
  unfold single at several
  split at several
  · cases several
    exact ⟨by simp, _, rfl⟩
  · contradiction
  · next records none one =>
    cases several
    refine ⟨fun single => ?_, _, rfl⟩
    obtain ⟨record, rfl⟩ := List.length_eq_one_iff.mp single
    exact one record rfl

theorem Record.nameInfoAddress_error {record : Record} {endpoint : Endpoint} {e : LookupError}
    (refused : record.nameInfoAddress endpoint = .error e) :
    record.family = .inet ∧ endpoint.length ≠ 2 ∧ ∃ message, e = .system message := by
  unfold nameInfoAddress at refused
  split at refused
  · next inet =>
    split at refused
    · contradiction
    · next arity =>
      cases refused
      exact ⟨inet, arity, _, rfl⟩
  · contradiction
  · contradiction

theorem Candidates.error {host : Bytes} {port : Port} {hints : Hints} {reply : Reply} {e : LookupError}
    (candidates : Candidates host port hints reply (.error e)) :
    (∃ query, reply = .native query (.error e)) ∨ e.kind = .addressInfo ∨
      ∃ query text, reply = .engine query (.error (.invalidIp text)) ∧ e = .invalidIp text := by
  generalize outcome : (Except.error e : Except LookupError (List Record)) = found at candidates
  cases candidates with
  | native reply =>
    cases reply with
    | error failure =>
      obtain rfl := Except.error.inj outcome
      exact .inl ⟨_, rfl⟩
    | ok infos => contradiction
  | @engine service named reply =>
    cases reply with
    | error fault =>
      obtain rfl := Except.error.inj outcome
      let query : AddressQuery := { hints with host, service }
      rcases (EngineQuery.addressInfo query).toError_kind fault with kind | ⟨text, rfl, same⟩
      · exact .inr (.inl kind)
      · exact .inr (.inr ⟨_, text, rfl, same⟩)
    | ok records => contradiction

theorem Call.passes_toError (call : Call) (query : EngineQuery) (fault : Fault) :
    (call.passes (query.toError fault)).kind = .host ∨ (call.passes (query.toError fault)).kind = .addressInfo ∨
      ∃ text, fault = .invalidIp text ∧ call.passes (query.toError fault) = .invalidIp text := by
  have families : query.family = .host ∨ query.family = .addressInfo := by
    cases query <;> simp [EngineQuery.family]
  have forward (e : LookupError) (kind : e.kind = .host ∨ e.kind = .addressInfo) :
      e.ofForward.kind = .host ∨ e.ofForward.kind = .addressInfo := by
    cases e with
    | host code message =>
      simp only [LookupError.ofForward]
      split
      · exact .inr rfl
      · exact .inl rfl
    | addressInfo code message => exact .inr rfl
    | _ => simp [LookupError.kind] at kind
  rcases query.toError_kind fault with own | ⟨text, rfl, same⟩
  · have kind : (call.passes (query.toError fault)).kind = .host ∨
        (call.passes (query.toError fault)).kind = .addressInfo := by
      rw [← own] at families
      cases call <;> first | exact forward _ families | exact families
    exact kind.imp_right .inl
  · refine .inr (.inr ⟨text, rfl, ?_⟩)
    rw [same]
    cases call <;> rfl

namespace Origin

variable {call : Call} {front back : List Reply} {e : LookupError}

/-- The platform keeps to other families than the host's, and refuses nothing as too large. -/
abbrev Native (replies : List Reply) : Prop :=
  ∀ query e, .native query (.error e) ∈ replies → e.kind ≠ .host ∧ e.kind ≠ .overflow

theorem kind_ne_host (origin : Origin call front back e) (native : Native (front ++ back))
    (own : call.family = .addressInfo) : e.kind ≠ .host := by
  cases origin with
  | refused refusal => rcases refusal.kind with kind | kind <;> simp [kind]
  | endpoint check =>
    rcases Endpoint.target_error check with refusal | ⟨message, rfl⟩
    · rcases refusal.kind with kind | kind <;> simp [kind]
    · simp [LookupError.kind]
  | closed => simp [LookupError.kind]
  | @platform _ _ query _ asks => exact (native query e (by simp)).1
  | ambiguous asks several => simp [LookupError.kind]
  | @fault _ _ _ query failure same =>
    rcases query.toError_kind failure with kind | ⟨text, -, known⟩
    · cases call <;> simp_all [Call.passes, Call.family]
    · cases call <;> simp_all [Call.passes, Call.family, LookupError.kind]
  | unaddressed forward => cases call <;> simp_all [Call.IsForward, Call.family]
  | unknown other => simp [LookupError.kind, LookupError.nameNotKnown, LookupError.ofAddressCode]
  | auxiliary argument candidates failed => contradiction
  | itself => contradiction
  | candidates checked failed =>
    rcases failed.error with ⟨query, rfl⟩ | kind | ⟨query, text, -, rfl⟩
    · exact (native query e (by simp)).1
    · simp [kind]
    · simp [LookupError.kind]
  | single checked found several =>
    obtain ⟨-, message, rfl⟩ := Record.single_error several
    simp [LookupError.kind]
  | arity checked found refused =>
    obtain ⟨-, -, message, rfl⟩ := Record.nameInfoAddress_error refused
    simp [LookupError.kind]

theorem ne_notFound (origin : Origin call front back e) (native : Native (front ++ back)) (forward : call.IsForward)
    (message : String) : e ≠ .host HostCode.notFound message := by
  rintro same
  cases origin with
  | refused refusal => rcases refusal.kind with kind | kind <;> simp [same, LookupError.kind] at kind
  | closed => contradiction
  | @platform _ _ query _ asks => exact (native query e (by simp)).1 (by rw [same]; rfl)
  | ambiguous asks several => contradiction
  | fault own =>
    have passes : call.passes = LookupError.ofForward := by
      cases call <;> first | rfl | exact forward.elim
    rw [passes] at same
    exact LookupError.kind_ofForward_ne_host same rfl
  | unaddressed forward => simp [HostCode.notFound, AddressCode.noName] at same
  | unknown other => contradiction
  | _ => exact forward.elim

theorem hostEntry_cases {host : Host} {family : Family} (origin : Origin (.hostEntry host family) front back e)
    (kind : e.kind = .addressInfo) : e = .nameNotKnown ∨ ∃ name ∈ specialNames, host.toBytes = .ok name := by
  cases origin with
  | refused refusal => rcases refusal.kind with other | other <;> simp [kind] at other
  | closed => contradiction
  | platform asks => exact .inr asks
  | ambiguous asks several => contradiction
  | @fault _ _ _ query failure own =>
    refine .inl (LookupError.ofForward_of_kind kind ?_)
    rcases query.toError_kind failure with same | ⟨text, -, known⟩
    · simp [same, own, Call.family]
    · simp [known, LookupError.kind]
  | unaddressed forward => contradiction
  | unknown other => exact .inl rfl

theorem hostByAddress_auxiliary {host : Host} (origin : Origin (.hostByAddress host) front back e)
    (named : host.isEmpty = false) (kind : e.kind = .addressInfo) :
    ∃ address text reply found, host.toBytes = .ok address ∧
      back = [.engine (.hostByAddress address) (.error (.invalidIp text)), reply] ∧
      Candidates address .absent Attempt.datagram reply found ∧ (found = .error e ∨ found = .ok []) := by
  cases origin with
  | refused refusal => rcases refusal.kind with other | other <;> simp [kind] at other
  | closed => contradiction
  | platform asks =>
    have empty : host.isEmpty = true := asks
    simp [named] at empty
  | ambiguous asks several => contradiction
  | @fault _ _ _ query failure own =>
    have same : (query.toError failure).kind = .addressInfo := kind
    rcases query.toError_kind failure with other | ⟨text, -, known⟩
    · simp [own, Call.family, same] at other
    · simp [known, LookupError.kind] at same
  | unaddressed forward => exact forward.elim
  | unknown other => exact absurd rfl (other host)
  | auxiliary argument candidates failed =>
    exact ⟨_, _, _, _, argument named, rfl, candidates, failed.imp_right (·.1)⟩
  | itself => contradiction

/-- The only candidate of an endpoint is missing or one of several, or does not take what the endpoint has. -/
def Unfit (call : Call) (replies : List Reply) : Prop :=
  ∃ endpoint flags target reply records, call = .nameInfo endpoint flags ∧ endpoint.target = .ok target ∧
    reply ∈ replies ∧ Candidates target.host (.number target.port.toNat) Attempt.datagram reply (.ok records) ∧
    (records.length ≠ 1 ∨ (∃ record, records = [record] ∧ record.family = .inet) ∧ endpoint.length ≠ 2)

/-- The platform has not one address for any interface. -/
def Ambiguous (call : Call) (replies : List Reply) : Prop :=
  ∃ hints records, call.wildcard? = some hints ∧
    .native (.addressInfo none (.number 0) hints) (.ok records) ∈ replies ∧ records.length ≠ 1

/-- Where an error of neither family comes from. -/
inductive Foreign (call : Call) (replies : List Reply) : LookupError → Prop
  | refused {e : LookupError} (refusal : e.IsRefusal) : Foreign call replies e
  | endpoint {endpoint : Endpoint} {flags : Flags} {e : LookupError} (own : call = .nameInfo endpoint flags)
      (check : endpoint.target = .error e) : Foreign call replies e
  | closed : Foreign call replies .closed
  | native {query : NativeQuery} {e : LookupError} (heard : .native query (.error e) ∈ replies) :
      Foreign call replies e
  | invalidIp {query : EngineQuery} {text : String} (heard : .engine query (.error (.invalidIp text)) ∈ replies) :
      Foreign call replies (.invalidIp text)
  | system {message : String} (own : Ambiguous call replies ∨ Unfit call replies) :
      Foreign call replies (.system message)

theorem foreign_of_candidates {host : Bytes} {port : Port} {hints : Hints} {reply : Reply} {replies : List Reply}
    (failed : Candidates host port hints reply (.error e)) (heard : reply ∈ replies)
    (other : e.kind ≠ .addressInfo) : Foreign call replies e := by
  rcases failed.error with ⟨query, rfl⟩ | kind | ⟨query, text, rfl, rfl⟩
  · exact .native heard
  · exact absurd kind other
  · exact .invalidIp heard

theorem foreign (origin : Origin call front back e) (host : e.kind ≠ .host) (addressInfo : e.kind ≠ .addressInfo) :
    Foreign call (front ++ back) e := by
  cases origin with
  | refused refusal => exact .refused refusal
  | endpoint check => exact .endpoint rfl check
  | closed => exact .closed
  | @platform _ before query _ asks =>
    have heard : .native query (.error e) ∈ before ++ [.native query (.error e)] ++ [] := by simp
    exact .native heard
  | ambiguous asks several => exact .system (.inl ⟨_, _, asks, by simp, several⟩)
  | @fault _ _ before query failure own =>
    rcases call.passes_toError query failure with kind | kind | ⟨text, rfl, same⟩
    · exact absurd kind host
    · exact absurd kind addressInfo
    · have heard : .engine query (.error (.invalidIp text)) ∈
          front ++ (before ++ [.engine query (.error (.invalidIp text))]) := by simp
      rw [same]
      exact .invalidIp heard
  | unaddressed forward => exact absurd rfl host
  | unknown other => exact absurd rfl addressInfo
  | auxiliary argument candidates failed =>
    rcases failed with rfl | ⟨-, rfl⟩
    · exact foreign_of_candidates candidates (by simp) addressInfo
    · exact absurd rfl addressInfo
  | @itself _ _ query text reply =>
    have heard : .engine query (.error (.invalidIp text)) ∈
        front ++ [.engine query (.error (.invalidIp text)), reply] := by simp
    exact .invalidIp heard
  | candidates checked failed => exact foreign_of_candidates failed (by simp) addressInfo
  | single checked found several =>
    obtain ⟨one, message, rfl⟩ := Record.single_error several
    exact .system (.inr ⟨_, _, _, _, _, rfl, checked, by simp, found, .inl one⟩)
  | arity checked found refused =>
    obtain ⟨inet, arity, message, rfl⟩ := Record.nameInfoAddress_error refused
    exact .system (.inr ⟨_, _, _, _, _, rfl, checked, by simp, found, .inr ⟨⟨_, rfl, inet⟩, arity⟩⟩)

end Origin

namespace Origin.Foreign

variable {call : Call} {replies more : List Reply} {e : LookupError}

theorem mono (foreign : Foreign call replies e) (among : replies ⊆ more) : Foreign call more e := by
  cases foreign with
  | refused refusal => exact .refused refusal
  | endpoint own check => exact .endpoint own check
  | closed => exact .closed
  | native heard => exact .native (among heard)
  | invalidIp heard => exact .invalidIp (among heard)
  | system own =>
    rcases own with ⟨hints, records, asks, heard, several⟩ | ⟨endpoint, flags, target, reply, records, own, checked,
      heard, unfit⟩
    · exact .system (.inl ⟨hints, records, asks, among heard, several⟩)
    · exact .system (.inr ⟨endpoint, flags, target, reply, records, own, checked, among heard, unfit⟩)

theorem text_kept {text : String} (foreign : Foreign call replies (.invalidIp text)) :
    (∃ query, .engine query (.error (.invalidIp text)) ∈ replies) ∨
      ∃ query, .native query (.error (.invalidIp text)) ∈ replies := by
  cases foreign with
  | refused refusal => nomatch refusal
  | endpoint own check => rcases Endpoint.target_error check with refusal | ⟨_, other⟩ <;> contradiction
  | native heard => exact .inr ⟨_, heard⟩
  | invalidIp heard => exact .inl ⟨_, heard⟩

theorem system_cases {message : String} (foreign : Foreign call replies (.system message)) :
    (∃ query, .native query (.error (.system message)) ∈ replies) ∨ Ambiguous call replies ∨
      Unfit call replies := by
  cases foreign with
  | refused refusal => nomatch refusal
  | endpoint own check => rcases Endpoint.target_error check with refusal | ⟨_, other⟩ <;> contradiction
  | native heard => exact .inl ⟨_, heard⟩
  | system own => exact .inr own

theorem overflow_cases {message : String} (foreign : Foreign call replies (.overflow message))
    (native : Native replies) :
    ∃ endpoint flags, call = .nameInfo endpoint flags ∧ endpoint.target = .error (.overflow message) := by
  cases foreign with
  | refused refusal => nomatch refusal
  | endpoint own check => exact ⟨_, _, own, check⟩
  | native heard => exact absurd rfl (native _ _ heard).2

end Origin.Foreign

/-- An attempt that hears of an illegal address ends with just that, if it ends there and has a channel. -/
def Attempt.Shows : Attempt → Prop
  | .engine _ next => ∀ text result, (next (.error (.invalidIp text))).Ends result →
      result = .error (.invalidIp text) ∨ result = .error .closed
  | _ => True

namespace Attempt

theorem candidates_shows {host : Bytes} {port : Port} {hints : Hints}
    {next : Except LookupError (List Record) → Attempt} (errors : ∀ e, next (.error e) = .finish (.error e))
    (rest : ∀ found, (next found).Each Shows) : (candidates host port hints next).Each Shows := by
  unfold candidates
  split
  · exact ⟨trivial, fun reply => rest _⟩
  · split
    · exact rest _
    · refine ⟨fun text result ends => ?_, fun reply => rest _⟩
      have last : (Attempt.finish (.error (.invalidIp text))).Ends result := errors (.invalidIp text) ▸ ends
      cases last
      exact .inl rfl

theorem hostByName_shows (name : Bytes) (family : Family) : (hostByName name family).Each Shows := by
  refine ⟨fun text result ends => ?_, fun reply => trivial⟩
  cases ends
  exact .inl rfl

theorem addressInfo_shows (host : Bytes) (port : Port) (hints : Hints) :
    (addressInfo host port hints).Each Shows := by
  unfold addressInfo
  split
  · trivial
  · refine ⟨fun text result ends => ?_, fun reply => trivial⟩
    cases ends
    exact .inl rfl

theorem hostByAddress_shows (address : Bytes) : (hostByAddress address).Each Shows := by
  refine ⟨fun text result ends => ?_, fun reply => ?_⟩
  · dsimp only at ends
    unfold candidates at ends
    split at ends
    · nomatch ends
    · cases ends
      exact .inr rfl
  · dsimp only
    split
    · refine candidates_shows (fun e => rfl) fun found => ?_
      split
      · trivial
      · trivial
      · split
        · trivial
        · refine ⟨fun text result ends => ?_, fun reply => trivial⟩
          cases ends
          exact .inl rfl
    · trivial

theorem nameInfo_shows (convention : Convention) (target : Target) (endpoint : Endpoint) (flags : Flags) :
    (nameInfo convention target endpoint flags).Each Shows := by
  refine candidates_shows (fun e => rfl) fun found => ?_
  split
  · trivial
  · refine ⟨fun text result ends => ?_, fun reply => trivial⟩
    cases ends
    exact .inl rfl

end Attempt

theorem Call.Makes.shows {convention : Convention} {call : Call} {loop : Loop}
    (makes : call.Makes convention loop) : loop.body.Each Attempt.Shows := by
  cases makes with
  | hostByName ordinary => exact Attempt.hostByName_shows _ _
  | hostEntry ordinary => exact Attempt.hostByName_shows _ _
  | addressInfo routed => exact Attempt.addressInfo_shows _ _ _
  | hostByAddress address => exact Attempt.hostByAddress_shows address
  | nameInfo checked => exact Attempt.nameInfo_shows convention _ _ _

theorem Serves.after_shown {call : Call} {loop : Loop} (serves : Serves call loop) {text : String} {result : Result}
    (shown : result = .error (.invalidIp text) ∨ result = .error .closed) (start finish : Option Nat) :
    loop.after start finish result = .finish result := by
  have settled : isStale loop.family start finish result = false := by
    rw [serves.family]
    rcases shown with rfl | rfl <;> cases call <;> rfl
  have same : loop.finish result = result := by
    rw [serves.finish]
    rcases shown with rfl | rfl <;> cases call <;> rfl
  rw [Loop.after, settled, same, if_neg Bool.false_ne_true]

def Point.Shown (text : String) : Point → Prop
  | .attempts _ _ rest => ∀ result, rest.Ends result →
      result = .error (.invalidIp text) ∨ result = .error .closed
  | .follows (.finish result) | .finished result => result = .error (.invalidIp text) ∨ result = .error .closed
  | .follows _ => False
  | .waits _ => True

theorem Walk.shown {convention : Convention} {call : Call} {notes : List Note} {point : Point}
    (walk : Walk convention call notes point) {query : EngineQuery} {text : String}
    (last : (heard notes).getLast? = some (.engine query (.error (.invalidIp text)))) : point.Shown text := by
  induction walk with
  | started => contradiction
  | @snoc notes point next note before step ih =>
    have all := before.all (plan_makes call convention) fun loop makes => makes.shows
    have more : heard (notes ++ [note]) = heard notes ++ heard [note] := List.filterMap_append
    rw [more] at last
    cases step with
    | hearsPlan reply => simp [heard, Note.reply?] at last
    | hearsNative reply => simp [heard, Note.reply?] at last
    | hearsEngine reply =>
      simp only [heard, List.filterMap_cons, Note.reply?, List.filterMap_nil, List.getLast?_append,
        List.getLast?_singleton, Option.some_or, Option.some.injEq, Reply.engine.injEq] at last
      obtain ⟨rfl, same⟩ := last
      rw [eq_of_heq same]
      exact all.2.1 text
    | concludes =>
      rw [Point.append_heard_silent rfl] at last
      exact ih last
    | asksPlan =>
      rw [Point.append_heard_silent rfl] at last
      exact (ih last).elim
    | begins start =>
      rw [Point.append_heard_silent rfl] at last
      exact (ih last).elim
    | asksNative => trivial
    | asksEngine channel => trivial
    | @ends loop start rest result finish ending =>
      rw [Point.append_heard_silent rfl] at last
      have shown := ih last result ending
      rw [all.1.serves.after_shown shown]
      exact shown

namespace Resolver

variable {s : State} {id : Nat} {call : Call}

/-- What a lookup fails with, where the platform keeps to other families than the host's and refuses nothing as
too large: host errors and address errors are those of the operation, and all others have known origins. -/
theorem error_families (reachable : Reachable s) (started : .started call ∈ s.notes id)
    (native : ∀ query e, .native query (.error e) ∈ heard (s.notes id) → e.kind ≠ .host ∧ e.kind ≠ .overflow) :
    (∀ e, (id, .error e) ∈ s.results →
      (call.family = .addressInfo → e.kind ≠ .host) ∧
      (call.IsForward → ∀ message, e ≠ .host HostCode.notFound message) ∧
      (∀ host family, call = .hostEntry host family → e.kind = .addressInfo →
        e = .nameNotKnown ∨ ∃ name ∈ specialNames, host.toBytes = .ok name) ∧
      (∀ host, call = .hostByAddress host → host.isEmpty = false → e.kind = .addressInfo →
        ∃ address text reply found, host.toBytes = .ok address ∧
          [.engine (.hostByAddress address) (.error (.invalidIp text)), reply] <:+ heard (s.notes id) ∧
          Candidates address .absent Attempt.datagram reply found ∧ (found = .error e ∨ found = .ok [])) ∧
      (∀ text, e = .invalidIp text →
        (∃ query, .engine query (.error (.invalidIp text)) ∈ heard (s.notes id)) ∨
          ∃ query, .native query (.error (.invalidIp text)) ∈ heard (s.notes id)) ∧
      (∀ message, e = .system message →
        (∃ query, .native query (.error (.system message)) ∈ heard (s.notes id)) ∨
          Origin.Ambiguous call (heard (s.notes id)) ∨ Origin.Unfit call (heard (s.notes id))) ∧
      (∀ message, e = .overflow message →
        ∃ endpoint flags, call = .nameInfo endpoint flags ∧ endpoint.target = .error (.overflow message))) ∧
    ∀ query text result, (heard (s.notes id)).getLast? = some (.engine query (.error (.invalidIp text))) →
      (id, result) ∈ s.results → result = .error (.invalidIp text) ∨ result = .error .closed := by
  refine ⟨fun e failed => ?_, fun query text result last done => ?_⟩
  · obtain ⟨front, stale, back, replies, yields⟩ := reachable.yields started failed
    have origin := plan_origin yields
    have among : front ++ back ⊆ heard (s.notes id) := by
      rw [replies]
      intro reply member
      simp only [List.mem_append] at member ⊢
      exact member.imp_left .inl
    have kept : Origin.Native (front ++ back) := fun query e member => native query e (among member)
    have foreign (host : e.kind ≠ .host) (addressInfo : e.kind ≠ .addressInfo) :
        Origin.Foreign call (heard (s.notes id)) e := (origin.foreign host addressInfo).mono among
    refine ⟨origin.kind_ne_host kept, origin.ne_notFound kept, ?_, ?_, ?_, ?_, ?_⟩
    · rintro host family rfl kind
      exact origin.hostEntry_cases kind
    · rintro host rfl named kind
      obtain ⟨address, text, reply, found, argument, last, asked, nothing⟩ :=
        origin.hostByAddress_auxiliary named kind
      refine ⟨address, text, reply, found, argument, ?_, asked, nothing⟩
      rw [replies, last]
      exact List.suffix_append _ _
    · rintro text rfl
      exact (foreign (by simp [LookupError.kind]) (by simp [LookupError.kind])).text_kept
    · rintro message rfl
      exact (foreign (by simp [LookupError.kind]) (by simp [LookupError.kind])).system_cases
    · rintro message rfl
      exact (foreign (by simp [LookupError.kind]) (by simp [LookupError.kind])).overflow_cases native
  · obtain ⟨point, walk⟩ := reachable.walk_of_started started
    obtain rfl := walk.finished_of_mem (State.mem_results.mp done)
    exact walk.shown last

def unknownAuxiliary : List Event :=
  [.start (.hostByAddress (.bytes [119, 119, 119])), .poll 0,
    .answerEngine (.complete fun _ => .error (.invalidIp "www")),
    .answerEngine (.complete fun _ => .error .notFound)]

theorem error_families_auxiliary :
    (0, .error .nameNotKnown) ∈ (run plain unknownAuxiliary).results ∧
      ∃ text reply, [.engine (.hostByAddress [119, 119, 119]) (.error (.invalidIp text)), reply] <:+
        heard ((run plain unknownAuxiliary).notes 0) := by
  have replies : heard ((run plain unknownAuxiliary).notes 0) =
      [.engine (.hostByAddress [119, 119, 119]) (.error (.invalidIp "www")),
        .engine (.addressInfo ⟨[119, 119, 119], none, .unspec, some .datagram, .any, 0⟩) (.error .notFound)] := rfl
  have started : .started (.hostByAddress (.bytes [119, 119, 119])) ∈ (run plain unknownAuxiliary).notes 0 :=
    List.Mem.head _
  have failed : (0, .error .nameNotKnown) ∈ (run plain unknownAuxiliary).results := List.Mem.head _
  obtain ⟨families, -⟩ := error_families (Reachable.run reached_plain unknownAuxiliary) started (by
    intro query e member
    rw [replies] at member
    simp at member)
  obtain ⟨-, -, -, auxiliary, -⟩ := families _ failed
  obtain ⟨address, text, reply, found, encoded, last, -⟩ := auxiliary _ rfl rfl rfl
  obtain rfl := Except.ok.inj encoded
  exact ⟨failed, text, reply, last⟩

end Resolver

end HostLookup
