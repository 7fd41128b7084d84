import HostLookup.Proofs.Bypass
import HostLookup.Proofs.Independence

/-! Lookups where no channel is live. None waits for an engine: a lookup is over after its first poll and two
answers of the platform at most. -/
namespace HostLookup
open Resolver

/-- Where no channel is live, the attempt ends with so many answers of the platform. -/
def Attempt.Brief : Nat → Attempt → Prop
  | _, .finish _ => True
  | _, .engine _ _ => True
  | 0, .native _ _ => False
  | answers + 1, .native _ next => ∀ reply, (next reply).Brief answers

def Plan.Brief : Nat → Plan → Prop
  | _, .finish _ => True
  | answers, .attempts loop => loop.body.Brief answers
  | 0, .native _ _ => False
  | answers + 1, .native _ next => ∀ reply, (next reply).Brief answers

def Resolver.Request.Brief : Nat → Request → Prop
  | answers + 1, .plan _ next => ∀ reply, (next reply).Brief answers
  | answers + 1, .native _ start _ next => start = none ∧ ∀ reply, (next reply).Brief answers
  | _, _ => False

@[simp] theorem Attempt.brief_finish (answers : Nat) (result : Result) : (finish result).Brief answers := by
  simp [Brief]

@[simp] theorem Attempt.brief_engine (answers : Nat) (query : EngineQuery)
    (next : Except Fault query.Answer → Attempt) : (engine query next).Brief answers := by
  simp [Brief]

@[simp] theorem Plan.brief_finish (answers : Nat) (result : Result) : (finish result).Brief answers := by
  simp [Brief]

@[simp] theorem Plan.brief_attempts (answers : Nat) (loop : Loop) :
    (attempts loop).Brief answers ↔ loop.body.Brief answers := by
  simp [Brief]

theorem Attempt.candidates_brief {host : Bytes} {port : Port} {hints : Hints}
    {next : Except LookupError (List Record) → Attempt} {answers : Nat}
    (now : ∀ found, (next found).Brief (answers + 1)) (later : ∀ found, (next found).Brief answers) :
    (candidates host port hints next).Brief (answers + 1) := by
  unfold candidates
  split
  · exact fun reply => later _
  · split
    · exact now _
    · exact brief_engine _ _ _

theorem Attempt.nameInfo_brief (convention : Convention) (target : Target) (endpoint : Endpoint)
    (flags : Flags) (answers : Nat) : (nameInfo convention target endpoint flags).Brief (answers + 1) := by
  refine candidates_brief ?_ ?_ <;> intro found <;> split <;> simp

theorem Attempt.addressInfo_brief (host : Bytes) (port : Port) (hints : Hints) (answers : Nat) :
    (addressInfo host port hints).Brief answers := by
  unfold addressInfo
  split <;> simp

namespace Plan

theorem wildcard_brief {host : Host} {family : Family} {next : Host → Plan} {answers : Nat}
    (now : ∀ host, (next host).Brief (answers + 1)) (later : ∀ host, (next host).Brief answers) :
    (wildcard host family next).Brief (answers + 1) := by
  unfold wildcard
  split
  · intro reply
    dsimp only
    split
    · exact brief_finish _ _
    · exact later _
    · exact brief_finish _ _
  · exact now host

theorem hostEntry_brief (host : Host) (family : Family) (finish : Result → Result) (answers : Nat) :
    (hostEntry host family finish).Brief (answers + 1) := by
  unfold hostEntry
  split
  · exact brief_finish _ _
  · split
    · exact fun reply => brief_finish _ _
    · exact (brief_attempts _ _).mpr (Attempt.brief_engine _ _ _)

end Plan

theorem plan_brief (call : Call) (convention : Convention) : (call.plan convention).Brief 2 := by
  cases call with
  | hostByName host family =>
    simp only [Call.plan, Plan.hostByName]
    exact Plan.wildcard_brief (fun _ => Plan.hostEntry_brief _ _ _ 1) fun _ => Plan.hostEntry_brief _ _ _ 0
  | hostEntry host family => exact Plan.hostEntry_brief _ _ _ 1
  | addressInfo host port hints =>
    simp only [Call.plan, Plan.addressInfo]
    split
    · exact Plan.brief_finish _ _
    · exact fun reply => Plan.brief_finish _ _
    · exact (Plan.brief_attempts _ _).mpr (Attempt.addressInfo_brief _ _ _ _)
  | hostByAddress host =>
    simp only [Call.plan, Plan.hostByAddress]
    refine Plan.wildcard_brief ?_ ?_
    all_goals
      intro host
      split
      · exact Plan.brief_finish _ _
      · exact (Plan.brief_attempts _ _).mpr (Attempt.brief_engine _ _ _)
  | nameInfo endpoint flags =>
    simp only [Call.plan, Plan.nameInfo]
    split
    · exact Plan.brief_finish _ _
    · exact (Plan.brief_attempts _ _).mpr (Attempt.nameInfo_brief _ _ _ _ 1)

namespace Resolver

inductive State.Ending (s : State) (id answers : Nat) : Prop
  | finished {result : Result} (noted : .concluded result ∈ s.notes id) (idle : s.busy = none)
  | waits {request : Request} (busy : s.busy = some (id, request)) (brief : request.Brief answers)

variable {s : State} {id answers : Nat} {loop : Loop}

theorem ending_conclude (s : State) (id answers : Nat) (result : Result) :
    (s.conclude id result).Ending id answers :=
  .finished (s.concluded_mem id result) rfl

theorem ending_begin (empty : s.slot = none) (brief : loop.body.Brief answers) :
    (s.begin id loop).Ending id answers := by
  cases body : loop.body with
  | finish result =>
    have ends : s.advance loop s.generation loop.body = .inr result := by rw [body]; rfl
    rw [State.begin_ends ends]
    exact ending_conclude _ id answers _
  | engine query next =>
    have ends : s.advance loop s.generation loop.body = .inr (.error .closed) := by
      rw [body, State.advance_engine_closed empty]
    rw [State.begin_ends ends]
    exact ending_conclude _ id answers _
  | native query next =>
    have asks : s.advance loop s.generation loop.body = .inl (.native loop s.generation query next) := by
      rw [body]
      rfl
    rw [State.begin_asks asks]
    rw [body] at brief
    refine .waits rfl ?_
    cases answers with
    | zero => exact brief.elim
    | succ answers => exact ⟨by simp [Lifecycle.generation, empty], brief⟩

theorem ending_resume {attempt : Attempt} (empty : s.slot = none) (brief : attempt.Brief answers) :
    (s.resume id loop none attempt).Ending id answers := by
  have still : s.generation = none := by simp [Lifecycle.generation, empty]
  have settled : ∀ {result}, s.advance loop none attempt = .inr result →
      (s.resume id loop none attempt).Ending id answers := by
    intro result ends
    rw [State.resume_ends ends, still, isStale_self, if_neg Bool.false_ne_true]
    exact ending_conclude _ id answers _
  cases attempt with
  | finish result => exact settled rfl
  | engine query next => exact settled (State.advance_engine_closed empty _ query next)
  | native query next =>
    have asks : s.advance loop none (.native query next) = .inl (.native loop none query next) := rfl
    rw [State.resume_asks asks]
    refine .waits rfl ?_
    cases answers with
    | zero => exact brief.elim
    | succ answers => exact ⟨rfl, brief⟩

theorem ending_follow {plan : Plan} (empty : s.slot = none) (brief : plan.Brief answers) :
    (s.follow id plan).Ending id answers := by
  cases plan with
  | finish result => exact ending_conclude s id answers result
  | attempts loop => exact ending_begin empty ((Plan.brief_attempts _ _).mp brief)
  | native query next =>
    refine .waits rfl ?_
    cases answers with
    | zero => exact brief.elim
    | succ answers => exact brief

namespace State.Ending

theorem answer (ending : s.Ending id (answers + 1)) (empty : s.slot = none) (reply : NativeReply) :
    (s.answerNative reply).Ending id answers := by
  cases ending with
  | finished noted idle =>
    have same : s.answerNative reply = s := by simp [answerNative, idle]
    rw [same]
    exact .finished noted idle
  | @waits request busy brief =>
    cases request with
    | plan query next =>
      simp only [answerNative, busy]
      exact ending_follow (s := s.note id _) empty (brief _)
    | native loop start query next =>
      obtain ⟨rfl, brief⟩ := brief
      simp only [answerNative, busy]
      exact ending_resume (s := s.note id _) empty (brief _)
    | engine loop start channel query next => exact brief.elim

theorem settle (ending : s.Ending id answers) : s.settleOwner.Ending id answers := by
  have retains := retains_settleOwner s
  cases ending with
  | finished noted idle => exact .finished (by rw [retains.notes]; exact noted) (retains.busy.trans idle)
  | waits busy brief => exact .waits (retains.busy.trans busy) brief

theorem step_answer (ending : s.Ending id (answers + 1)) (empty : s.slot = none) (reply : NativeReply) :
    (step s (.answerNative reply)).Ending id answers :=
  (ending.answer empty reply).settle

end State.Ending

theorem empty_step {event : Event} (empty : s.slot = none) (rest : event.change s.busy.isSome = .rest) :
    (step s event).slot = none := by
  rcases toLifecycle_step s event with same | closed
  · rw [same, rest]
    exact empty
  · rw [closed]
    exact Lifecycle.slot_detach _

/-- A lookup that starts where no channel is live, and has the thread to itself, is over after two answers. -/
theorem brief_run (reachable : Reachable s) (owned : s.released = false) (idle : s.busy = none)
    (empty : s.slot = none) (call : Call) (first second : NativeReply) :
    (run s [.start call, .poll s.nextTask, .answerNative first, .answerNative second]).Ending s.nextTask 0 := by
  have started : step s (.start call) = s.startTask call := step_start owned call
  have here : (s.startTask call).slot = none := by
    rw [State.toLifecycle_startTask]
    exact empty
  have waits : (s.startTask call).busy = none := (Quiet.startTask s call).busy.trans idle
  have ready : .task s.nextTask ∈ (s.startTask call).ready := State.mem_ready_wake _ _
  have fresh := reachable.coherent.task?_startTask call
  have polled : (step (s.startTask call) (.poll s.nextTask)).Ending s.nextTask 2 := by
    rw [step, act_poll_fresh waits ready fresh]
    refine State.Ending.settle (ending_follow ?_ (plan_brief call _))
    exact here
  have after_poll : (step (s.startTask call) (.poll s.nextTask)).slot = none := empty_step here rfl
  have answered := (polled.step_answer after_poll first).step_answer (empty_step after_poll rfl) second
  rw [← started] at answered
  exact answered

theorem State.Ending.result (ending : s.Ending id 0) :
    (∃ result, (id, result) ∈ s.results) ∧ s.busy = none := by
  cases ending with
  | finished noted idle => exact ⟨⟨_, State.mem_results.mpr noted⟩, idle⟩
  | @waits request busy brief => cases request <;> exact brief.elim

end Resolver

end HostLookup
