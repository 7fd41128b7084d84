import HostLookup.Proofs.Bypass
import HostLookup.Proofs.Origins
import HostLookup.Proofs.Independence

/-! Malformed arguments. The check of a call's arguments comes before everything else: a call that it refuses is
over after its first poll, has asked nothing, and fails in the same way whatever state the resolver is in. -/
namespace HostLookup
open Resolver

/-! What is malformed, with the error that says so. -/

inductive Host.Malformed : Host → LookupError → Prop
  | absent : Malformed .absent (.type "Expected str, bytes or bytearray, not NoneType")
  | unsupported (typeName : String) :
      Malformed (.unsupported typeName) (.type ("Expected str, bytes or bytearray, not " ++ typeName))
  | unencodable {name : String} (foreign : Text.isAscii name = false) (fails : Idna.toAscii? name.toList = none) :
      Malformed (.text name) (.value ("encoding with 'idna' codec failed: " ++ Text.quote name))

inductive Port.Malformed : Port → LookupError → Prop
  | unsupported (typeName : String) :
      Malformed (.unsupported typeName) (.type ("Expected int, str or bytes for port, not " ++ typeName))
  | foreign {name : String} (foreign : Text.isAscii name = false) :
      Malformed (.text name) (.value ("encoding with 'ascii' codec failed: " ++ Text.quote name))

/-- The host is checked first, then the port, then the flow. -/
inductive Endpoint.Malformed (endpoint : Endpoint) : LookupError → Prop
  | host {e : LookupError} (host : endpoint.host.Malformed e) : Malformed endpoint e
  | port (named : ∀ e, ¬ endpoint.host.Malformed e) (negative : endpoint.port < 0) :
      Malformed endpoint (.overflow "getnameinfo(): port must be 0-65535.")
  | flow {flow : UInt32} (named : ∀ e, ¬ endpoint.host.Malformed e) (port : 0 ≤ endpoint.port)
      (given : endpoint.flow = some flow) (large : 0xFFFFF < flow) :
      Malformed endpoint (.overflow "getnameinfo(): flowinfo must be 0-1048575.")

/-- The records of no host may be asked for, and the platform has its own view of a port. -/
inductive Call.Malformed : Call → LookupError → Prop
  | hostByName {host : Host} {e : LookupError} (family : Family) (unnamed : host.Malformed e) :
      Malformed (.hostByName host family) e
  | hostEntry {host : Host} {e : LookupError} (family : Family) (unnamed : host.Malformed e) :
      Malformed (.hostEntry host family) e
  | addressHost {host : Host} {e : LookupError} (port : Port) (hints : Hints) (present : host ≠ .absent)
      (unnamed : host.Malformed e) : Malformed (.addressInfo host port hints) e
  | addressPort {host : Host} {port : Port} {hints : Hints} {name : Bytes} {e : LookupError}
      (routed : host.route hints.flags = .ok (.engine name)) (unserved : port.Malformed e) :
      Malformed (.addressInfo host port hints) e
  | hostByAddress {host : Host} {e : LookupError} (unnamed : host.Malformed e) :
      Malformed (.hostByAddress host) e
  | nameInfo {endpoint : Endpoint} {e : LookupError} (flags : Flags) (unfit : endpoint.Malformed e) :
      Malformed (.nameInfo endpoint flags) e

variable {e : LookupError} {call : Call}

theorem Host.malformed_iff {host : Host} : host.toBytes = .error e ↔ host.Malformed e := by
  constructor
  · intro refused
    cases host with
    | text name =>
      simp only [toBytes, encode] at refused
      split at refused
      · contradiction
      · next foreign =>
        split at refused
        · contradiction
        · next fails =>
          cases refused
          exact .unencodable (by simpa using foreign) fails
    | bytes name => contradiction
    | absent =>
      cases refused
      exact .absent
    | unsupported typeName =>
      cases refused
      exact .unsupported typeName
  · intro malformed
    cases malformed with
    | absent => rfl
    | unsupported typeName => rfl
    | unencodable foreign fails => simp [toBytes, encode, foreign, fails]

theorem Port.malformed_iff {port : Port} : port.toService = .error e ↔ port.Malformed e := by
  constructor
  · intro refused
    cases port with
    | number n => contradiction
    | absent => contradiction
    | text name =>
      simp only [toService] at refused
      split at refused
      · contradiction
      · next foreign =>
        cases refused
        exact .foreign (by simpa using foreign)
    | unsupported typeName =>
      cases refused
      exact .unsupported typeName
  · intro malformed
    cases malformed with
    | unsupported typeName => rfl
    | foreign foreign => simp [toService, foreign]

theorem Host.wellFormed_iff {host : Host} : (∃ name, host.toBytes = .ok name) ↔ ∀ e, ¬ host.Malformed e := by
  simp only [← malformed_iff]
  cases host.toBytes <;> simp

theorem Endpoint.malformed_iff {endpoint : Endpoint} : endpoint.target = .error e ↔ endpoint.Malformed e := by
  unfold target
  cases unnamed : endpoint.host.toBytes with
  | error other =>
    have refused := Host.malformed_iff.mp unnamed
    have named : ¬ ∀ e, ¬ endpoint.host.Malformed e := fun named => named other refused
    have same : (Except.error other : Except LookupError Target) = .error e ↔ endpoint.host.Malformed e := by
      rw [← Host.malformed_iff, unnamed, Except.error.injEq, Except.error.injEq]
    refine same.trans ⟨.host, fun malformed => ?_⟩
    cases malformed with
    | host host => exact host
    | port wellFormed => exact absurd wellFormed named
    | flow wellFormed => exact absurd wellFormed named
  | ok name =>
    have named := Host.wellFormed_iff.mp ⟨name, unnamed⟩
    have flows : endpoint.flow.any (mostFlow < ·) = true ↔ ∃ flow, endpoint.flow = some flow ∧ 0xFFFFF < flow := by
      simp only [Option.any_eq_true, decide_eq_true_eq]
      rfl
    simp only [bind, Except.bind, throw, throwThe, MonadExceptOf.throw, pure, Except.pure]
    by_cases negative : endpoint.port < 0
    · simp only [negative, if_true]
      constructor
      · intro same
        cases same
        exact .port named negative
      · intro malformed
        cases malformed with
        | host unnamed => exact absurd unnamed (named e)
        | port _ _ => rfl
        | flow _ port => exact absurd negative (Int.not_lt.mpr port)
    · simp only [negative, if_false]
      split
      · next large =>
        constructor
        · intro same
          cases same
          obtain ⟨flow, given, large⟩ := flows.mp large
          exact .flow named (Int.not_lt.mp negative) given large
        · intro malformed
          cases malformed with
          | host unnamed => exact absurd unnamed (named e)
          | port _ below => exact absurd below negative
          | flow _ _ given large => rfl
      · next small =>
        constructor
        · intro same
          contradiction
        · intro malformed
          cases malformed with
          | host unnamed => exact absurd unnamed (named e)
          | port _ below => exact absurd below negative
          | flow _ _ given large => exact absurd (flows.mpr ⟨_, given, large⟩) small

def Call.Refuses (e : LookupError) : Call → Prop
  | .hostByName host _ | .hostEntry host _ | .hostByAddress host => host.toBytes = .error e
  | .addressInfo host port hints =>
    host.route hints.flags = .error e ∨
      ∃ name, host.route hints.flags = .ok (.engine name) ∧ port.toService = .error e
  | .nameInfo endpoint _ => endpoint.target = .error e

theorem Host.route_malformed {host : Host} {flags : Flags} :
    host.route flags = .error e ↔ host ≠ .absent ∧ host.Malformed e := by
  rw [← Host.malformed_iff]
  unfold route
  split
  · simp
  · next present =>
    have some_ : host ≠ .absent := present
    simp only [ne_eq, some_, not_false_eq_true, true_and]
    constructor
    · intro refused
      rcases bind_eq_error refused with unnamed | ⟨name, -, routed⟩
      · exact unnamed
      · contradiction
    · intro unnamed
      rw [unnamed]
      rfl

theorem Call.malformed_iff : call.Refuses e ↔ call.Malformed e := by
  cases call with
  | hostByName host family =>
    rw [Refuses, Host.malformed_iff]
    exact ⟨.hostByName family, fun malformed => by cases malformed; assumption⟩
  | hostEntry host family =>
    rw [Refuses, Host.malformed_iff]
    exact ⟨.hostEntry family, fun malformed => by cases malformed; assumption⟩
  | hostByAddress host =>
    rw [Refuses, Host.malformed_iff]
    exact ⟨.hostByAddress, fun malformed => by cases malformed; assumption⟩
  | nameInfo endpoint flags =>
    rw [Refuses, Endpoint.malformed_iff]
    exact ⟨.nameInfo flags, fun malformed => by cases malformed; assumption⟩
  | addressInfo host port hints =>
    rw [Refuses, Host.route_malformed, Port.malformed_iff]
    constructor
    · rintro (⟨present, unnamed⟩ | ⟨name, routed, unserved⟩)
      · exact .addressHost port hints present unnamed
      · exact .addressPort routed unserved
    · intro malformed
      cases malformed with
      | addressHost _ _ present unnamed => exact .inl ⟨present, unnamed⟩
      | addressPort routed unserved => exact .inr ⟨_, routed, unserved⟩

inductive Plan.Fails (e : LookupError) : Plan → Prop
  | finish : Fails e (.finish (.error e))
  | attempts {loop : Loop} (body : loop.body = .finish (.error e)) (final : loop.finish (.error e) = .error e)
      (other : e.kind ≠ loop.family) : Fails e (.attempts loop)

theorem Host.Malformed.isEmpty {host : Host} (malformed : host.Malformed e) : host.isEmpty = false := by
  cases malformed with
  | absent => rfl
  | unsupported typeName => rfl
  | @unencodable name foreign fails =>
    cases empty : (Host.text name).isEmpty with
    | false => rfl
    | true =>
      have none : name = "" := String.isEmpty_iff.mp empty
      subst none
      simp [Text.isAscii] at foreign

theorem Port.Malformed.kind {port : Port} (malformed : port.Malformed e) : e.kind ≠ .addressInfo := by
  cases malformed <;> simp [LookupError.kind]

namespace Plan

theorem wildcard_fails {host : Host} (malformed : host.Malformed e) (family : Family) {next : Host → Plan}
    (fails : (next host).Fails e) : (wildcard host family next).Fails e := by
  rw [wildcard, malformed.isEmpty, if_neg Bool.false_ne_true]
  exact fails

theorem hostEntry_fails {host : Host} (malformed : host.Malformed e) (family : Family) {finish : Result → Result}
    (final : finish (.error e) = .error e) : (hostEntry host family finish).Fails e := by
  have refused := Host.malformed_iff.mpr malformed
  rw [hostEntry, refused]
  dsimp only
  rw [final]
  exact .finish

end Plan

theorem Call.Malformed.plan (malformed : call.Malformed e) (convention : Convention) :
    (call.plan convention).Fails e := by
  cases malformed with
  | hostByName family unnamed =>
    simp only [Call.plan, Plan.hostByName]
    exact Plan.wildcard_fails unnamed family (Plan.hostEntry_fails unnamed family rfl)
  | hostEntry family unnamed => exact Plan.hostEntry_fails unnamed family rfl
  | addressHost port hints present unnamed =>
    simp only [Call.plan, Plan.addressInfo, Host.route_malformed.mpr ⟨present, unnamed⟩]
    exact .finish
  | addressPort routed unserved =>
    simp only [Call.plan, Plan.addressInfo, routed]
    refine .attempts ?_ rfl unserved.kind
    simp only [Attempt.addressInfo, Port.malformed_iff.mpr unserved]
  | hostByAddress unnamed =>
    simp only [Call.plan, Plan.hostByAddress]
    refine Plan.wildcard_fails unnamed .unspec ?_
    rw [Host.malformed_iff.mpr unnamed]
    exact .finish
  | nameInfo flags unfit =>
    simp only [Call.plan, Plan.nameInfo, Endpoint.malformed_iff.mpr unfit]
    exact .finish

def Point.Fails (e : LookupError) : Point → Prop
  | .follows plan => plan.Fails e
  | .attempts loop _ rest =>
    rest = .finish (.error e) ∧ loop.finish (.error e) = .error e ∧ e.kind ≠ loop.family
  | .waits _ => False
  | .finished result => result = .error e

theorem Point.Fails.step {point next : Point} {note : Note} (fails : point.Fails e)
    (step : point.Step note next) : next.Fails e ∧ note.issue? = none := by
  cases step with
  | concludes =>
    cases fails
    exact ⟨rfl, rfl⟩
  | asksPlan => nomatch fails
  | @begins loop start =>
    cases fails with
    | attempts body final other => exact ⟨⟨body, final, other⟩, rfl⟩
  | asksNative => exact absurd fails.1 (by simp)
  | asksEngine channel => exact absurd fails.1 (by simp)
  | @ends loop start rest result finish ending =>
    obtain ⟨rfl, final, other⟩ := fails
    cases ending
    have settled : isStale loop.family start finish (.error e) = false := by simp [isStale, other]
    refine ⟨?_, rfl⟩
    rw [Point.Fails, Loop.after, settled, if_neg Bool.false_ne_true, final]
    exact .finish
  | hearsPlan => exact fails.elim
  | hearsNative => exact fails.elim
  | hearsEngine => exact fails.elim

theorem Walk.fails {convention : Convention} {notes : List Note} {point : Point}
    (walk : Walk convention call notes point) (malformed : call.Malformed e) :
    point.Fails e ∧ Resolver.asked notes = [] := by
  induction walk with
  | started => exact ⟨malformed.plan convention, rfl⟩
  | snoc before step ih =>
    obtain ⟨fails, unasked⟩ := ih
    obtain ⟨next, silent⟩ := fails.step step
    refine ⟨next, ?_⟩
    rw [Resolver.asked, List.filterMap_append, ← Resolver.asked, unasked, List.filterMap_cons_none silent]
    rfl

theorem Call.Refuses.unique {other : LookupError} (refused : call.Refuses e) (again : call.Refuses other) :
    other = e := by
  cases call with
  | addressInfo host port hints =>
    rcases refused with unnamed | ⟨name, routed, unserved⟩ <;>
      rcases again with same | ⟨also, route, service⟩
    · exact Except.error.inj (same.symm.trans unnamed)
    · exact nomatch route.symm.trans unnamed
    · exact nomatch same.symm.trans routed
    · exact Except.error.inj (service.symm.trans unserved)
  | _ => exact Except.error.inj (Eq.trans (Eq.symm again) refused)

namespace Resolver

variable {s : State} {id : Nat}

theorem follow_fails {plan : Plan} (fails : plan.Fails e) (s : State) (id : Nat) :
    (s.follow id plan).busy = none ∧ .concluded (.error e) ∈ (s.follow id plan).notes id := by
  cases fails with
  | finish => exact ⟨rfl, s.concluded_mem id _⟩
  | @attempts loop body final other =>
    have ends : s.advance loop s.generation loop.body = .inr (.error e) := by
      rw [body]
      rfl
    rw [State.follow, State.begin_ends ends, final]
    exact ⟨rfl, State.concluded_mem _ id _⟩

theorem Reachable.fresh_of_malformed (reachable : Reachable s) (malformed : call.Malformed e)
    (started : .started call ∈ s.notes id) {place : Place} (found : s.place? id = some place) :
    place = .inl (.fresh call) := by
  have here : s.place? id ≠ none := by simp [found]
  obtain ⟨own, point, walk, stands⟩ := reachable.walks (reachable.coherent.lt_of_place here)
  obtain rfl := walk.started_mem started
  have fails := (walk.fails malformed).1
  have stand := stands place found
  cases place with
  | inr request =>
    obtain rfl : point = .waits request := stand
    exact fails.elim
  | inl stage =>
    cases stage with
    | fresh same =>
      obtain ⟨rfl, -⟩ := stand
      rfl
    | waiting loop start query next stored =>
      obtain ⟨channel, rfl⟩ := stand
      exact fails.elim

theorem Reachable.poll_fails (reachable : Reachable s) (malformed : call.Malformed e)
    (fresh : s.task? id = some ⟨id, .fresh call, false⟩) (idle : s.busy = none) :
    (act s (.poll id)).busy = none ∧ .concluded (.error e) ∈ (act s (.poll id)).notes id ∧
      Only (State.removeTask { s with ready := s.ready.erase (.task id) } id) (act s (.poll id)) id := by
  have member := (State.task?_some fresh).1
  have ready : .task id ∈ s.ready := reachable.awake.ready _ member (.inr fun pending => pending)
  have fails := malformed.plan s.config.convention
  rw [act_poll_fresh idle ready fresh]
  obtain ⟨free, concluded⟩ := follow_fails fails (State.removeTask { s with ready := s.ready.erase (.task id) } id) id
  exact ⟨free, concluded, (Goes.follow _ id _).only⟩

/-- A call whose arguments the check refuses is over after its first poll, whatever state the resolver is in: it
asks nothing, does not wait, leaves the channels and the hub as they are, and fails with the error that names what
is malformed. -/
theorem malformed_refused (refused : call.Refuses e) (reachable : Reachable s) (id : Nat) :
    (∀ other, call.Malformed other ↔ other = e) ∧
    (.started call ∈ s.notes id →
      asked (s.notes id) = [] ∧ (∀ result, (id, result) ∈ s.results → result = .error e) ∧
        ∀ place, s.place? id = some place → place = .inl (.fresh call)) ∧
    (s.task? id = some ⟨id, .fresh call, false⟩ → s.busy = none →
      let t := step s (.poll id)
      (id, .error e) ∈ t.results ∧ t.issues = s.issues ∧ t.busy = none ∧ t.task? id = none ∧
        (act s (.poll id)).toLifecycle = s.toLifecycle ∧
        (s.released = false → t.toLifecycle = s.toLifecycle)) := by
  have malformed : call.Malformed e := Call.malformed_iff.mp refused
  refine ⟨fun other => ⟨fun also => ?_, fun same => same ▸ malformed⟩, fun started => ?_, fun fresh idle => ?_⟩
  · exact refused.unique (Call.malformed_iff.mpr also)
  · obtain ⟨point, walk⟩ := reachable.walk_of_started started
    obtain ⟨fails, silent⟩ := walk.fails malformed
    refine ⟨silent, fun result concluded => ?_, fun place => reachable.fresh_of_malformed malformed started⟩
    obtain rfl := walk.finished_of_mem (State.mem_results.mp concluded)
    exact fails
  · intro t
    obtain ⟨free, concluded, only⟩ := reachable.poll_fails malformed fresh idle
    have acted : (act s (.poll id)).toLifecycle = s.toLifecycle := only.lifecycle
    have retains : Retains (act s (.poll id)) t := retains_settleOwner _
    have still : t.busy = none := retains.busy.trans free
    refine ⟨State.mem_results.mpr ?_, ?_, still, ?_, acted, fun owned => ?_⟩
    · rw [retains.notes]
      exact concluded
    · cases asks_step s (.poll id) with
      | nothing issues _ => exact issues
      | query issues busy => exact nomatch busy.symm.trans still
    · have tasks := (State.tasks_settleOwner (act s (.poll id))).trans only.tasks
      exact (State.task?_congr tasks id).trans (State.task?_removeTask _ id)
    · have same : t = act s (.poll id) := settleOwner_unreleased (only.released.trans owned)
      rw [same, acted]

def emptyAtFork : State :=
  run plain
    [.obstruct (some (.system "no engine")), .setPid 2, .reinit, .turn, .setPid 3, .reinit,
      .start (.nameInfo { host := .text "::1", port := -1 } 0)]

theorem malformed_refused_empty :
    let t := step emptyAtFork (.poll 0)
    (0, .error (.overflow "getnameinfo(): port must be 0-65535.")) ∈ t.results ∧ t.slot = none ∧
      t.hub.queue = [.destroy 0, .fork] := by
  have reachable : Reachable emptyAtFork := Reachable.run reached_plain _
  have refused : (Call.nameInfo { host := .text "::1", port := -1 } 0).Refuses
      (.overflow "getnameinfo(): port must be 0-65535.") := rfl
  obtain ⟨-, -, fails⟩ := malformed_refused refused reachable 0
  obtain ⟨concluded, -, -, -, -, same⟩ := fails rfl rfl
  intro t
  rw [same rfl]
  exact ⟨concluded, rfl, rfl⟩

end Resolver

end HostLookup
