import HostLookup.Proofs.History

/-! What the plans of the calls come to: attempts of the call's own family, in which a fault ends the attempt
and no attempt succeeds unless an engine has answered. -/
namespace HostLookup

def Call.family : Call → ErrorKind
  | .hostByName .. | .hostEntry .. | .hostByAddress _ => .host
  | .addressInfo .. | .nameInfo .. => .addressInfo

def Call.finish : Call → Result → Result
  | .hostByName .. => fun result => Plan.firstAddress (result.mapError LookupError.ofForward)
  | .hostEntry .. => fun result => result.mapError LookupError.ofForward
  | _ => id

theorem Call.finish_closed (call : Call) : call.finish (.error .closed) = .error .closed := by
  cases call <;> rfl

def EngineQuery.family : EngineQuery → ErrorKind
  | .hostByName .. | .hostByAddress _ => .host
  | .addressInfo _ | .nameInfo .. => .addressInfo

def EngineQuery.toError : EngineQuery → Fault → LookupError
  | .hostByName .. | .hostByAddress _ => Fault.toHostError
  | .addressInfo _ | .nameInfo .. => Fault.toAddressError

/-- The lookup of the addresses of a host that was to be an address itself. -/
def Call.isAuxiliary : Call → EngineQuery → Bool
  | .hostByAddress _, .addressInfo _ => true
  | _, _ => false

/-- Every fault but an illegal address ends the attempt, as an error of the call's family unless the query is
the auxiliary one. -/
inductive Attempt.Orderly (call : Call) : Attempt → Prop
  | finish (result : Result) : Orderly call (.finish result)
  | native {query : NativeQuery} {next : Except LookupError query.Answer → Attempt}
      (rest : ∀ reply, Orderly call (next reply)) : Orderly call (.native query next)
  | engine {query : EngineQuery} {next : Except Fault query.Answer → Attempt}
      (family : call.isAuxiliary query = false → query.family = call.family)
      (faults : ∀ fault, (∀ text, fault ≠ .invalidIp text) →
        next (.error fault) = .finish (.error (query.toError fault)))
      (rest : ∀ reply, Orderly call (next reply)) : Orderly call (.engine query next)

inductive Attempt.NeedsEngine : Attempt → Prop
  | finish (e : LookupError) : NeedsEngine (.finish (.error e))
  | native {query : NativeQuery} {next : Except LookupError query.Answer → Attempt}
      (rest : ∀ reply, NeedsEngine (next reply)) : NeedsEngine (.native query next)
  | engine {query : EngineQuery} {next : Except Fault query.Answer → Attempt} :
      NeedsEngine (.engine query next)

def Attempt.lookup? : Attempt → Option (NativeQuery ⊕ EngineQuery)
  | .finish _ => none
  | .native query _ => some (.inl query)
  | .engine query _ => some (.inr query)

structure Serves (call : Call) (loop : Loop) : Prop where
  family : loop.family = call.family
  finish : loop.finish = call.finish
  orderly : loop.body.Orderly call
  needsEngine : loop.body.NeedsEngine
  native : ∀ query, loop.body.lookup? = some (.inl query) → ∃ endpoint flags, call = .nameInfo endpoint flags

inductive Plan.All (P : Loop → Prop) : Plan → Prop
  | finish (result : Result) : All P (.finish result)
  | native {query : NativeQuery} {next : Except LookupError query.Answer → Plan}
      (rest : ∀ reply, All P (next reply)) : All P (.native query next)
  | attempts {loop : Loop} (holds : P loop) : All P (.attempts loop)

theorem Fault.kind_toHostError {fault : Fault} (legal : ∀ text, fault ≠ .invalidIp text) :
    fault.toHostError.kind = .host := by
  cases fault <;> first | rfl | exact absurd rfl (legal _)

theorem Fault.kind_toAddressError {fault : Fault} (legal : ∀ text, fault ≠ .invalidIp text) :
    fault.toAddressError.kind = .addressInfo := by
  cases fault <;> first | rfl | exact absurd rfl (legal _)

theorem EngineQuery.kind_toError (query : EngineQuery) {fault : Fault}
    (legal : ∀ text, fault ≠ .invalidIp text) : (query.toError fault).kind = query.family := by
  cases query with
  | hostByName => exact Fault.kind_toHostError legal
  | hostByAddress => exact Fault.kind_toHostError legal
  | addressInfo => exact Fault.kind_toAddressError legal
  | nameInfo => exact Fault.kind_toAddressError legal

namespace Attempt

theorem candidates_orderly {call : Call} {host : Bytes} {port : Port} {hints : Hints}
    {next : Except LookupError (List Record) → Attempt}
    (family : ∀ query, call.isAuxiliary (.addressInfo query) = false → call.family = .addressInfo)
    (errors : ∀ e, next (.error e) = .finish (.error e)) (rest : ∀ found, Orderly call (next found)) :
    Orderly call (candidates host port hints next) := by
  unfold candidates
  split
  · exact .native fun reply => rest _
  · split
    · exact rest _
    · refine .engine (fun other => (family _ other).symm) ?_ fun reply => rest _
      intro fault _
      exact errors _

theorem candidates_needsEngine {host : Bytes} {port : Port} {hints : Hints}
    {next : Except LookupError (List Record) → Attempt} (rest : ∀ found, NeedsEngine (next found)) :
    NeedsEngine (candidates host port hints next) := by
  unfold candidates
  split
  · exact .native fun reply => rest _
  · split
    · exact rest _
    · exact .engine

theorem finishEntry_fault (fault : Fault) :
    finishEntry (.error fault) = .finish (.error fault.toHostError) := rfl

theorem hostByAddress_orderly (host : Host) (address : Bytes) :
    Orderly (.hostByAddress host) (hostByAddress address) := by
  refine .engine (fun _ => rfl) ?_ ?_
  · intro fault legal
    cases fault <;> first | rfl | exact absurd rfl (legal _)
  · intro reply
    split
    · refine candidates_orderly (fun query other => by simp [Call.isAuxiliary] at other) (fun e => rfl) ?_
      intro found
      split
      · exact .finish _
      · exact .finish _
      · dsimp only
        split
        · exact .finish _
        · exact .engine (fun _ => rfl) (fun fault _ => finishEntry_fault fault) fun reply => .finish _
    · exact .finish _

theorem nameInfo_orderly (convention : Convention) (target : Target) (endpoint : Endpoint)
    (flags : Flags) :
    Orderly (.nameInfo endpoint flags) (nameInfo convention target endpoint flags) := by
  refine candidates_orderly (fun query _ => rfl) (fun e => rfl) ?_
  intro found
  split
  · exact .finish _
  · exact .engine (fun _ => rfl) (fun fault _ => rfl) fun reply => .finish _

theorem nameInfo_needsEngine (convention : Convention) (target : Target) (endpoint : Endpoint)
    (flags : Flags) : NeedsEngine (nameInfo convention target endpoint flags) := by
  refine candidates_needsEngine ?_
  intro found
  split
  · exact .finish _
  · exact .engine

end Attempt

namespace Plan

theorem wildcard_all {P : Loop → Prop} {host : Host} {family : Family} {next : Host → Plan}
    (rest : ∀ host, (next host).All P) : (wildcard host family next).All P := by
  unfold wildcard
  split
  · refine .native fun reply => ?_
    split
    · exact .finish _
    · exact rest _
    · exact .finish _
  · exact rest host

theorem hostEntry_all {P : Loop → Prop} {host : Host} {family : Family} {finish : Result → Result}
    (attempts : ∀ name, isLocalOrBroadcast name = false → P
      { family := .host
        body := .hostByName name family
        finish := fun result => finish (result.mapError LookupError.ofForward) }) :
    (hostEntry host family finish).All P := by
  unfold hostEntry
  split
  · exact .finish _
  · split
    · exact .native fun reply => .finish _
    · next ordinary => exact .attempts (attempts _ (by simpa using ordinary))

end Plan

theorem serves_hostByName {call : Call} {name : Bytes} {family : Family} {finish : Result → Result}
    (own : call.family = .host) (same : finish = call.finish) :
    Serves call { family := .host, body := .hostByName name family, finish } where
  family := own.symm
  finish := same
  orderly := .engine (fun _ => own.symm) (fun fault _ => rfl) fun reply => .finish _
  needsEngine := .engine
  native := by
    intro query first
    simp [Attempt.hostByName, Attempt.lookup?] at first

theorem serves_addressInfo (host : Host) (name : Bytes) (port : Port) (hints : Hints) :
    Serves (.addressInfo host port hints)
      { family := .addressInfo, body := .addressInfo name port hints, finish := id } where
  family := rfl
  finish := rfl
  orderly := by
    unfold Attempt.addressInfo
    split
    · exact .finish _
    · exact .engine (fun _ => rfl) (fun fault _ => rfl) fun reply => .finish _
  needsEngine := by
    unfold Attempt.addressInfo
    split
    · exact .finish _
    · exact .engine
  native := by
    intro query first
    unfold Attempt.addressInfo at first
    split at first <;> simp [Attempt.lookup?] at first

/-- The attempts that a call can lead to. -/
inductive Call.Makes (convention : Convention) : Call → Loop → Prop
  | hostByName {host : Host} {family : Family} {name : Bytes} (ordinary : isLocalOrBroadcast name = false) :
      Makes convention (.hostByName host family)
        { family := .host
          body := .hostByName name family
          finish := fun result => Plan.firstAddress (result.mapError LookupError.ofForward) }
  | hostEntry {host : Host} {family : Family} {name : Bytes} (ordinary : isLocalOrBroadcast name = false) :
      Makes convention (.hostEntry host family)
        { family := .host
          body := .hostByName name family
          finish := fun result => id (result.mapError LookupError.ofForward) }
  | addressInfo {host : Host} {port : Port} {hints : Hints} {name : Bytes}
      (routed : host.route hints.flags = .ok (.engine name)) :
      Makes convention (.addressInfo host port hints)
        { family := .addressInfo, body := .addressInfo name port hints, finish := id }
  | hostByAddress {host : Host} (address : Bytes) :
      Makes convention (.hostByAddress host)
        { family := .host, body := .hostByAddress address, finish := id }
  | nameInfo {endpoint : Endpoint} {flags : Flags} {target : Target} (checked : endpoint.target = .ok target) :
      Makes convention (.nameInfo endpoint flags)
        { family := .addressInfo, body := .nameInfo convention target endpoint flags, finish := id }

theorem Plan.All.mono {P Q : Loop → Prop} {plan : Plan} (all : plan.All P) (imp : ∀ loop, P loop → Q loop) :
    plan.All Q := by
  induction all with
  | finish result => exact .finish result
  | native rest ih => exact .native ih
  | attempts holds => exact .attempts (imp _ holds)

theorem plan_makes (call : Call) (convention : Convention) :
    (call.plan convention).All (call.Makes convention) := by
  cases call with
  | hostByName host family =>
    simp only [Call.plan, Plan.hostByName]
    exact Plan.wildcard_all fun named => Plan.hostEntry_all fun name ordinary => .hostByName ordinary
  | hostEntry host family => exact Plan.hostEntry_all fun name ordinary => .hostEntry ordinary
  | addressInfo host port hints =>
    simp only [Call.plan, Plan.addressInfo]
    split
    · exact .finish _
    · exact .native fun reply => .finish _
    · next routed => exact .attempts (.addressInfo routed)
  | hostByAddress host =>
    simp only [Call.plan, Plan.hostByAddress]
    refine Plan.wildcard_all fun named => ?_
    split
    · exact .finish _
    · exact .attempts (.hostByAddress _)
  | nameInfo endpoint flags =>
    simp only [Call.plan, Plan.nameInfo]
    split
    · exact .finish _
    · next checked => exact .attempts (.nameInfo checked)

theorem Call.Makes.serves {convention : Convention} {call : Call} {loop : Loop}
    (makes : call.Makes convention loop) : Serves call loop := by
  cases makes with
  | hostByName ordinary => exact serves_hostByName rfl rfl
  | hostEntry ordinary => exact serves_hostByName rfl rfl
  | addressInfo routed => exact serves_addressInfo _ _ _ _
  | @hostByAddress host address =>
    refine ⟨rfl, rfl, Attempt.hostByAddress_orderly host _, .engine, ?_⟩
    intro query first
    simp [Attempt.hostByAddress, Attempt.lookup?] at first
  | @nameInfo endpoint flags target checked =>
    exact ⟨rfl, rfl, Attempt.nameInfo_orderly convention _ endpoint flags,
      Attempt.nameInfo_needsEngine convention _ endpoint flags, fun _ _ => ⟨endpoint, flags, rfl⟩⟩

theorem plan_serves (call : Call) (convention : Convention) :
    (call.plan convention).All (Serves call) :=
  (plan_makes call convention).mono fun _ makes => makes.serves

end HostLookup
