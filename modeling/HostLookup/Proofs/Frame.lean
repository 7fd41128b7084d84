import HostLookup.Proofs.Custody
import HostLookup.Resolver.Step

/-! What the pieces of a step leave as it is. Lookups do not touch the channels, and the life of the channels
goes on without touching the lookups; a step is one change of the channels, and a close after it if nobody
holds the resolver any more. -/
namespace HostLookup.Resolver
open Lifecycle

namespace State

variable (s : State) (id : Nat) (loop : Loop) (generation : Option Nat)

/-! Pieces that leave the channels alone. -/

@[simp] theorem toLifecycle_note (note : Note) : (s.note id note).toLifecycle = s.toLifecycle := rfl

@[simp] theorem toLifecycle_ask (request : Request) :
    (s.ask id request).toLifecycle = s.toLifecycle := rfl

@[simp] theorem toLifecycle_conclude (result : Result) :
    (s.conclude id result).toLifecycle = s.toLifecycle := rfl

@[simp] theorem toLifecycle_updateTask (update : Task → Task) :
    (s.updateTask id update).toLifecycle = s.toLifecycle := rfl

@[simp] theorem toLifecycle_removeTask : (s.removeTask id).toLifecycle = s.toLifecycle := rfl

@[simp] theorem toLifecycle_wake (runnable : Runnable) :
    (s.wake runnable).toLifecycle = s.toLifecycle := by
  unfold wake
  split <;> rfl

@[simp] theorem toLifecycle_wakeHub : s.wakeHub.toLifecycle = s.toLifecycle := by
  unfold wakeHub
  split
  · rfl
  · exact toLifecycle_wake s .hub

@[simp] theorem toLifecycle_begin : (s.begin id loop).toLifecycle = s.toLifecycle := by
  unfold begin
  dsimp only
  split <;> simp

@[simp] theorem toLifecycle_resume (attempt : Attempt) :
    (s.resume id loop generation attempt).toLifecycle = s.toLifecycle := by
  unfold resume
  split
  · simp
  · dsimp only
    split <;> simp

@[simp] theorem toLifecycle_follow (plan : Plan) : (s.follow id plan).toLifecycle = s.toLifecycle := by
  cases plan <;> simp [follow]

@[simp] theorem toLifecycle_poll : (s.poll id).toLifecycle = s.toLifecycle := by
  unfold poll
  dsimp only
  split
  · rfl
  · split
    · simp
    · split <;> simp

@[simp] theorem toLifecycle_answerNative (reply : NativeReply) :
    (s.answerNative reply).toLifecycle = s.toLifecycle := by
  unfold answerNative
  split <;> simp

@[simp] theorem toLifecycle_answerEngine (reaction : Reaction) :
    (s.answerEngine reaction).toLifecycle = s.toLifecycle := by
  unfold answerEngine
  split
  · split <;> simp
  · rfl

@[simp] theorem toLifecycle_signal (reply : EngineReply) :
    (s.signal id reply).toLifecycle = s.toLifecycle := by
  unfold signal
  split <;> simp

@[simp] theorem toLifecycle_deliver (reply : EngineReply) :
    (s.deliver id reply).toLifecycle = s.toLifecycle := by
  unfold deliver
  split <;> simp

@[simp] theorem toLifecycle_startTask (call : Call) :
    (s.startTask call).toLifecycle = s.toLifecycle := by
  simp [startTask]

@[simp] theorem toLifecycle_cancel : (s.cancel id).toLifecycle = s.toLifecycle := by
  unfold cancel
  split <;> simp

@[simp] theorem toLifecycle_manage (change : Lifecycle → Lifecycle) :
    (s.manage change).toLifecycle = change s.toLifecycle := by
  simp [manage]

theorem manage_eq (change : Lifecycle → Lifecycle) : ∃ ready, s.manage change =
    { s with
      toLifecycle := change s.toLifecycle
      ready
      journal := s.journal ++
        if s.generation = (change s.toLifecycle).generation then []
        else [.replaced (change s.toLifecycle).generation] } := by
  unfold manage wakeHub wake
  dsimp only
  split
  · exact ⟨_, rfl⟩
  · split <;> exact ⟨_, rfl⟩

theorem toLifecycle_signalAll (completions : List Held) (reply : EngineReply) :
    (completions.foldl (fun s (completion : Held) => s.signal completion.task reply) s).toLifecycle =
      s.toLifecycle := by
  induction completions generalizing s with
  | nil => rfl
  | cons completion rest ih => rw [List.foldl_cons, ih, toLifecycle_signal]

@[simp] theorem toLifecycle_destroy (channel : Nat) :
    (s.destroy channel).toLifecycle = s.toLifecycle.destroy channel := by
  unfold destroy
  dsimp only
  split
  · rw [toLifecycle_signalAll]
    exact toLifecycle_manage s _
  · exact toLifecycle_manage s _

@[simp] theorem toLifecycle_runCallback (callback : Callback) :
    (s.runCallback callback).toLifecycle = s.toLifecycle.runCallback callback := by
  cases callback <;> simp [runCallback, Lifecycle.runCallback]

theorem toLifecycle_turn : s.turn.toLifecycle = s.toLifecycle.apply .turn := by
  unfold turn apply
  cases s.hub.next? with
  | none => rfl
  | some next =>
    dsimp only
    split
    · exact toLifecycle_runCallback _ next.1
    · exact toLifecycle_runCallback _ next.1

end State

def Event.change (busy : Bool) : Event → Change
  | .setPid pid => .setPid pid
  | .obstruct obstacle => .obstruct obstacle
  | .reinit => .reinit
  | .close => .close
  | .turn => if busy then .rest else .turn
  | _ => .rest

theorem act_start (s : State) (call : Call) : act s (.start call) = s ∨
    s.released = false ∧ act s (.start call) = s.startTask call := by
  cases released : s.released with
  | true => exact Or.inl (if_pos released)
  | false => exact Or.inr ⟨rfl, if_neg (by simp [released])⟩

theorem act_poll (s : State) (task : Nat) : act s (.poll task) = s ∨
    s.busy = none ∧ .task task ∈ s.ready ∧ act s (.poll task) = s.poll task := by
  by_cases waits : s.busy.isSome || .task task ∉ s.ready
  · exact Or.inl (if_pos waits)
  · have free : s.busy = none ∧ .task task ∈ s.ready := by simpa using waits
    exact Or.inr ⟨free.1, free.2, if_neg waits⟩

theorem act_turn (s : State) : act s .turn = s ∨ s.busy = none ∧ act s .turn = s.turn := by
  cases busy : s.busy with
  | none => exact Or.inr ⟨rfl, if_neg (by simp [busy])⟩
  | some stopped => exact Or.inl (if_pos (by simp [busy]))

theorem toLifecycle_act (s : State) (event : Event) :
    (act s event).toLifecycle = s.toLifecycle.apply (event.change s.busy.isSome) := by
  cases event with
  | turn =>
    cases busy : s.busy.isSome with
    | true => simp [act, Event.change, busy, apply]
    | false => simpa [act, Event.change, busy] using s.toLifecycle_turn
  | start call =>
    unfold act
    dsimp only
    split <;> simp [Event.change, apply]
  | poll task =>
    unfold act
    dsimp only
    split <;> simp [Event.change, apply]
  | close => simp [act, State.close, Event.change, apply]
  | setPid pid => simp [act, Event.change, apply]
  | reinit => simp [act, Event.change, apply]
  | obstruct obstacle => rfl
  | release => rfl
  | answerNative reply => simp [act, Event.change, apply]
  | answerEngine reaction => simp [act, Event.change, apply]
  | deliver task reply => simp [act, Event.change, apply]
  | abandon task => simp [act, Event.change, apply]
  | cancel task => simp [act, Event.change, apply]

theorem settleOwner_cases (s : State) : s.settleOwner = s ∨ s.settleOwner = s.close := by
  unfold State.settleOwner
  split
  · exact Or.inr rfl
  · exact Or.inl rfl

theorem toLifecycle_step (s : State) (event : Event) :
    let after := s.toLifecycle.apply (event.change s.busy.isSome)
    (step s event).toLifecycle = after ∨ (step s event).toLifecycle = after.close := by
  rcases settleOwner_cases (act s event) with same | closed
  · exact Or.inl (by rw [step, same, toLifecycle_act])
  · exact Or.inr (by rw [step, closed, State.close, State.toLifecycle_manage, toLifecycle_act])

end HostLookup.Resolver
