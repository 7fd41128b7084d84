import HostLookup.Proofs.Walk

/-! The names that no engine is asked for. Whatever a lookup is and hears, the engines are asked for the addresses
of other names only; and a lookup of such a name asks the platform, once, and ends with its answer. -/
namespace HostLookup
open Resolver

/-- The names whose host entry is the platform's. -/
def specialNames : List Bytes :=
  localNames ++ [broadcastLiteral, broadcastName]

example : specialNames = ["localhost", "ip6-localhost", "255.255.255.255", "<broadcast>"].map Text.toBytes := rfl

theorem isLocal_iff {name : Bytes} : isLocal name = true ↔ name ∈ localNames := by
  simp [isLocal]

theorem isLocalOrBroadcast_iff {name : Bytes} : isLocalOrBroadcast name = true ↔ name ∈ specialNames := by
  simp [isLocalOrBroadcast, specialNames, isLocal_iff, or_assoc]

/-- What engines may be asked: no special name, and no host that has to be numeric. -/
def EngineQuery.Ordinary : EngineQuery → Prop
  | .hostByName name _ => name ∉ specialNames
  | .addressInfo query => query.host ∉ localNames ∧ query.flags.has .numericHost = false
  | .hostByAddress _ | .nameInfo .. => True

def Attempt.AsksOrdinary : Attempt → Prop
  | .engine query _ => query.Ordinary
  | _ => True

namespace Attempt

theorem candidates_ordinary {host : Bytes} {port : Port} {hints : Hints}
    {next : Except LookupError (List Record) → Attempt} (rest : ∀ found, (next found).Each AsksOrdinary) :
    (candidates host port hints next).Each AsksOrdinary := by
  unfold candidates
  split
  · exact ⟨trivial, fun reply => rest _⟩
  · next ordinary =>
    simp only [Bool.or_eq_true, not_or, Bool.not_eq_true] at ordinary
    have other : host ∉ localNames := fun member => by simp [isLocal_iff.mpr member] at ordinary
    split
    · exact rest _
    · exact ⟨⟨other, ordinary.1⟩, fun reply => rest _⟩

theorem hostByName_ordinary {name : Bytes} (ordinary : isLocalOrBroadcast name = false) (family : Family) :
    (hostByName name family).Each AsksOrdinary := by
  refine ⟨fun special => ?_, fun reply => trivial⟩
  simp [isLocalOrBroadcast_iff.mpr special] at ordinary

theorem addressInfo_ordinary {host : Bytes} {hints : Hints} (other : isLocal host = false)
    (numeric : hints.flags.has .numericHost = false) (port : Port) :
    (addressInfo host port hints).Each AsksOrdinary := by
  unfold addressInfo
  split
  · trivial
  · refine ⟨⟨fun member => ?_, numeric⟩, fun reply => trivial⟩
    simp [isLocal_iff.mpr member] at other

theorem hostByAddress_ordinary (address : Bytes) : (hostByAddress address).Each AsksOrdinary := by
  refine ⟨trivial, fun reply => ?_⟩
  dsimp only
  split
  · refine candidates_ordinary fun found => ?_
    split
    · trivial
    · trivial
    · split
      · trivial
      · exact ⟨trivial, fun reply => trivial⟩
  · trivial

theorem nameInfo_ordinary (convention : Convention) (target : Target) (endpoint : Endpoint) (flags : Flags) :
    (nameInfo convention target endpoint flags).Each AsksOrdinary := by
  refine candidates_ordinary fun found => ?_
  split
  · trivial
  · exact ⟨trivial, fun reply => trivial⟩

end Attempt

theorem Host.route_engine {host : Host} {flags : Flags} {name : Bytes}
    (routed : host.route flags = .ok (.engine name)) : isLocal name = false ∧ flags.has .numericHost = false := by
  have routes : ∀ encoded : Bytes,
      (if flags.has .numericHost || isLocal encoded then Route.native (some encoded) else .engine encoded) =
        .engine name → isLocal name = false ∧ flags.has .numericHost = false := by
    intro encoded same
    split at same
    · contradiction
    · next other =>
      obtain rfl := Route.engine.inj same
      simp only [Bool.or_eq_true, not_or, Bool.not_eq_true] at other
      exact other.symm
  unfold Host.route at routed
  split at routed
  · simp at routed
  · cases encoded : host.toBytes with
    | error e => simp [encoded, bind, Except.bind] at routed
    | ok bytes =>
      simp only [encoded, bind, Except.bind, pure, Except.pure, Except.ok.injEq] at routed
      exact routes bytes routed

theorem Call.Makes.ordinary {convention : Convention} {call : Call} {loop : Loop}
    (makes : call.Makes convention loop) : loop.body.Each Attempt.AsksOrdinary := by
  cases makes with
  | hostByName ordinary => exact Attempt.hostByName_ordinary ordinary _
  | hostEntry ordinary => exact Attempt.hostByName_ordinary ordinary _
  | addressInfo routed =>
    obtain ⟨other, numeric⟩ := Host.route_engine routed
    exact Attempt.addressInfo_ordinary other numeric _
  | hostByAddress address => exact Attempt.hostByAddress_ordinary address
  | nameInfo checked => exact Attempt.nameInfo_ordinary convention _ _ _

/-- The calls that the platform answers alone, each with what it is asked. -/
inductive Call.Bypasses : Call → NativeQuery → Prop
  | hostEntry {host : Host} {name : Bytes} (family : Family) (encoded : host.toBytes = .ok name)
      (special : name ∈ specialNames) : Bypasses (.hostEntry host family) (.hostByName name)
  | noHost (port : Port) (hints : Hints) :
      Bypasses (.addressInfo .absent port hints) (.addressInfo none port hints)
  | addressInfo {host : Host} {name : Bytes} {hints : Hints} (port : Port) (encoded : host.toBytes = .ok name)
      (special : name ∈ localNames ∨ hints.flags.has .numericHost = true) :
      Bypasses (.addressInfo host port hints) (.addressInfo (some name) port hints)

def NativeQuery.result : (query : NativeQuery) → Except LookupError query.Answer → Result
  | .addressInfo .. => fun reply => reply.map .records
  | .hostByName _ => fun reply => reply.map .entry

theorem Call.Bypasses.plan_eq {call : Call} {query : NativeQuery} (bypasses : call.Bypasses query)
    (convention : Convention) : call.plan convention = .native query fun reply => .finish (query.result reply) := by
  cases bypasses with
  | @hostEntry host name family encoded special =>
    simp only [Call.plan, Plan.hostEntry, encoded, isLocalOrBroadcast_iff.mpr special, if_true]
    rfl
  | noHost port hints => rfl
  | @addressInfo host name hints port encoded special =>
    have routed : host.route hints.flags = .ok (.native (some name)) := by
      have native : (hints.flags.has .numericHost || isLocal name) = true := by
        rcases special with known | numeric
        · simp [isLocal_iff.mpr known]
        · simp [numeric]
      unfold Host.route
      split
      · simp [Host.toBytes] at encoded
      · simp only [encoded, bind, Except.bind, pure, Except.pure, native, if_true]
    simp only [Call.plan, Plan.addressInfo, routed]
    rfl

theorem Call.Bypasses.plan {call : Call} {query : NativeQuery} (bypasses : call.Bypasses query)
    (convention : Convention) :
    ∃ finish : Except LookupError query.Answer → Result,
      call.plan convention = .native query fun reply => .finish (finish reply) :=
  ⟨query.result, bypasses.plan_eq convention⟩

theorem Call.Bypasses.of_route {host : Host} {name : Option Bytes} {hints : Hints}
    (routed : host.route hints.flags = .ok (.native name)) (port : Port) :
    Call.Bypasses (.addressInfo host port hints) (.addressInfo name port hints) := by
  have named {own : Bytes} (encoded : host.toBytes = .ok own)
      (same : (if hints.flags.has .numericHost || isLocal own then Route.native (some own) else .engine own) =
        .native name) : Call.Bypasses (.addressInfo host port hints) (.addressInfo name port hints) := by
    split at same
    · next special =>
      obtain rfl := Route.native.inj same
      rw [Bool.or_eq_true, isLocal_iff] at special
      exact .addressInfo port encoded special.symm
    · contradiction
  unfold Host.route at routed
  split at routed
  · obtain rfl := Route.native.inj (Except.ok.inj routed)
    exact .noHost port hints
  · cases encoded : host.toBytes with
    | error e => simp [encoded, bind, Except.bind] at routed
    | ok own =>
      simp only [encoded, bind, Except.bind, pure, Except.pure, Except.ok.injEq] at routed
      exact named encoded routed

namespace Resolver

def Note.issue? : Note → Option Issue
  | .asked issue => some issue
  | _ => none

def asked (notes : List Note) : List Issue :=
  notes.filterMap Note.issue?

inductive Bypassed (call : Call) (query : NativeQuery)
    (finish : Except LookupError query.Answer → Result) : List Note → Point → Prop
  | started : Bypassed call query finish [.started call]
      (.follows (.native query fun reply => .finish (finish reply)))
  | asked : Bypassed call query finish [.started call, .asked (.native query)]
      (.waits (.plan query fun reply => .finish (finish reply)))
  | heard (reply : Except LookupError query.Answer) : Bypassed call query finish
      [.started call, .asked (.native query), .heard (.native query reply)] (.follows (.finish (finish reply)))
  | concluded (reply : Except LookupError query.Answer) : Bypassed call query finish
      [.started call, .asked (.native query), .heard (.native query reply), .concluded (finish reply)]
      (.finished (finish reply))

variable {convention : Convention} {call : Call} {query : NativeQuery} {notes : List Note} {point : Point}
  {finish : Except LookupError query.Answer → Result}

theorem bypassed_of_walk (walk : Walk convention call notes point)
    (plan : call.plan convention = .native query fun reply => .finish (finish reply)) :
    Bypassed call query finish notes point := by
  induction walk with
  | started =>
    rw [plan]
    exact .started
  | snoc before step ih =>
    cases ih with
    | started =>
      cases step
      exact .asked
    | asked =>
      cases step with
      | hearsPlan reply => exact .heard reply
    | heard reply =>
      cases step
      exact .concluded reply
    | concluded reply => nomatch step

theorem Bypassed.asked_cases (bypassed : Bypassed call query finish notes point) :
    (Resolver.asked notes = [] ∨ Resolver.asked notes = [.native query]) ∧
      ∀ result, .concluded result ∈ notes → Resolver.asked notes = [.native query] := by
  cases bypassed with
  | started => exact ⟨.inl rfl, fun result member => by simp at member⟩
  | asked => exact ⟨.inr rfl, fun result _ => rfl⟩
  | heard reply => exact ⟨.inr rfl, fun result _ => rfl⟩
  | concluded reply => exact ⟨.inr rfl, fun result _ => rfl⟩

variable {s : State} {id : Nat}

theorem settleOwner_busy (busy : s.busy ≠ none) : s.settleOwner = s := by
  rcases settleOwner_unused s with same | ⟨-, -, idle, -⟩
  · exact same
  · exact absurd idle busy

theorem act_poll_fresh (idle : s.busy = none) (ready : .task id ∈ s.ready)
    (fresh : s.task? id = some ⟨id, .fresh call, false⟩) : act s (.poll id) =
      (State.removeTask { s with ready := s.ready.erase (.task id) } id).follow id
        (call.plan s.config.convention) := by
  have may : ¬(s.busy.isSome || .task id ∉ s.ready) = true := by simp [idle, ready]
  rw [act, if_neg may]
  simp only [State.poll, fresh, Bool.false_eq_true, if_false]

theorem step_poll_asks {next : Except LookupError query.Answer → Plan} (idle : s.busy = none)
    (ready : .task id ∈ s.ready) (fresh : s.task? id = some ⟨id, .fresh call, false⟩)
    (plan : call.plan s.config.convention = .native query next) :
    (step s (.poll id)).busy = some (id, .plan query next) ∧
      (step s (.poll id)).notes id = s.notes id ++ [.asked (.native query)] := by
  have polled : act s (.poll id) =
      State.ask (State.removeTask { s with ready := s.ready.erase (.task id) } id) id (.plan query next) := by
    rw [act_poll_fresh idle ready fresh, plan, State.follow]
  have stays : step s (.poll id) = act s (.poll id) := by
    rw [step, polled]
    exact settleOwner_busy (by simp [State.ask])
  rw [stays, polled]
  exact ⟨rfl, State.notes_note _ id _⟩

theorem step_answer_ends {result : Except LookupError query.Answer → Result}
    (busy : s.busy = some (id, .plan query fun reply => .finish (result reply))) (reply : NativeReply) :
    (step s (.answerNative reply)).notes id =
      s.notes id ++ [.heard (.native query (reply query))] ++ [.concluded (result (reply query))] := by
  have answered : act s (.answerNative reply) =
      (s.note id (.heard (.native query (reply query)))).conclude id (result (reply query)) := by
    simp only [act, State.answerNative, busy, State.follow]
  rw [step, (retains_settleOwner _).notes, answered, State.conclude]
  exact (State.notes_note _ id _).trans (by rw [State.notes_note])

/-- No engine is asked for the addresses of a special name, by any lookup, in any run. What the platform alone
answers asks it once and asks no engine; it asks it at its first poll, also where no channel is in the slot, and
the answer ends it. -/
theorem special_names_bypass (reachable : Reachable s) :
    (∀ id channel name family, (id, .engine channel (.hostByName name family)) ∈ s.issues →
      name ∉ specialNames) ∧
    (∀ id channel query, (id, .engine channel (.addressInfo query)) ∈ s.issues →
      query.host ∉ localNames ∧ query.flags.has .numericHost = false) ∧
    ∀ call query, call.Bypasses query →
      (∀ id, .started call ∈ s.notes id →
        (asked (s.notes id) = [] ∨ asked (s.notes id) = [.native query]) ∧
          ∀ result, (id, result) ∈ s.results → asked (s.notes id) = [.native query]) ∧
      ∀ id, s.task? id = some ⟨id, .fresh call, false⟩ → s.busy = none → .task id ∈ s.ready →
        ∀ reply, asked ((run s [.poll id, .answerNative reply]).notes id) = [.native query] ∧
          ∃ result, (id, result) ∈ (run s [.poll id, .answerNative reply]).results := by
  have ordinary : ∀ {id channel query}, (id, .engine channel query) ∈ s.issues → query.Ordinary := by
    intro id channel query issued
    have noted := State.mem_issues.mp issued
    obtain ⟨call, point, walk⟩ := reachable.walk noted
    obtain ⟨next, asks⟩ := walk.asked (plan_makes call _) (fun loop makes => makes.ordinary) noted
    exact asks
  refine ⟨fun id channel name family => ordinary, fun id channel query => ordinary, ?_⟩
  intro call query bypasses
  obtain ⟨finish, plan⟩ := bypasses.plan s.config.convention
  refine ⟨fun id started => ?_, fun id fresh idle ready reply => ?_⟩
  · obtain ⟨point, walk⟩ := reachable.walk_of_started started
    obtain ⟨so_far, done⟩ := (bypassed_of_walk walk plan).asked_cases
    exact ⟨so_far, fun result member => done result (State.mem_results.mp member)⟩
  · obtain ⟨member, -⟩ := State.task?_some fresh
    obtain ⟨own, point, walk, stands⟩ := reachable.walks (reachable.coherent.settled.bound _ member)
    obtain ⟨same, rfl⟩ := stands _ (State.place?_task fresh)
    rw [← same] at walk
    obtain ⟨busy, polled⟩ := step_poll_asks idle ready fresh plan
    have answered := step_answer_ends busy reply
    have notes : s.notes id = [.started call] := by
      have bypassed := bypassed_of_walk walk plan
      rw [plan] at bypassed
      generalize s.notes id = notes at bypassed
      cases bypassed
      rfl
    rw [polled, notes] at answered
    have ran : run s [.poll id, .answerNative reply] = step (step s (.poll id)) (.answerNative reply) := rfl
    rw [ran]
    refine ⟨by rw [answered]; rfl, finish (reply query), State.mem_results.mpr ?_⟩
    rw [answered]
    exact List.mem_append_right _ (List.mem_singleton.mpr rfl)

theorem special_names_bypass_closed :
    let s := run plain [.close, .start (.hostEntry (.text "localhost") .inet)]
    s.slot = none ∧ asked ((run s [.poll 0, .answerNative fun _ => .error .closed]).notes 0) =
      [.native (.hostByName (Text.toBytes "localhost"))] := by
  intro s
  have reachable : Reachable s := Reachable.run reached_plain _
  have special : Text.toBytes "localhost" ∈ specialNames := List.Mem.head _
  obtain ⟨-, -, alone⟩ := special_names_bypass reachable
  have encoded : (Host.text "localhost").toBytes = .ok (Text.toBytes "localhost") := rfl
  obtain ⟨-, asks⟩ := alone _ _ (.hostEntry .inet encoded special)
  exact ⟨rfl, (asks 0 rfl rfl (List.Mem.tail _ (List.Mem.head _)) fun _ => .error .closed).1⟩

end Resolver

end HostLookup
