import HostLookup.Proofs.Waking

/-! What the lookups are while none of them starts, is cancelled or goes on: each stays where it is, but may be
given the reply that it waits for. -/
namespace HostLookup.Resolver

theorem receive_receive (first second : EngineReply) (task : Task) :
    State.receive second (State.receive first task) = State.receive first task := by
  obtain ⟨id, stage, cancelled⟩ := task
  cases stage with
  | fresh call => rfl
  | waiting loop generation query next reply => cases reply <;> rfl

def Task.Given (task later : Task) : Prop :=
  later = task ∨ ∃ reply, later = State.receive reply task

namespace Task.Given

variable {task later last : Task}

theorem trans (first : task.Given later) (second : later.Given last) : task.Given last := by
  rcases second with rfl | ⟨reply, rfl⟩
  · exact first
  · rcases first with rfl | ⟨earlier, rfl⟩
    · exact Or.inr ⟨reply, rfl⟩
    · exact Or.inr ⟨earlier, receive_receive earlier reply task⟩

theorem same_id (given : task.Given later) : later.id = task.id := by
  rcases given with rfl | ⟨reply, rfl⟩
  · rfl
  · exact id_receive reply task

theorem cancelled (given : task.Given later) : later.cancelled = task.cancelled := by
  rcases given with rfl | ⟨reply, rfl⟩
  · rfl
  · unfold State.receive
    split <;> rfl

end Task.Given

/-- No lookup starts, is cancelled or goes on from `s` to `t`. -/
structure Retains (s t : State) : Prop where
  nextTask : t.nextTask = s.nextTask
  released : s.released = true → t.released = true
  busy : t.busy = s.busy
  notes : ∀ id, t.notes id = s.notes id
  tasks : ∃ update : Task → Task, t.tasks = s.tasks.map update ∧ ∀ task : Task, task.Given (update task)

variable {s t u : State} {id : Nat}

namespace Retains

theorem of_eq (nextTask : t.nextTask = s.nextTask) (released : s.released = true → t.released = true)
    (busy : t.busy = s.busy) (notes : ∀ id, t.notes id = s.notes id) (tasks : t.tasks = s.tasks) :
    Retains s t :=
  ⟨nextTask, released, busy, notes, fun task => task, by rw [tasks, List.map_id'], fun _ => Or.inl rfl⟩

theorem refl (s : State) : Retains s s :=
  .of_eq rfl (fun released => released) rfl (fun _ => rfl) rfl

theorem trans (first : Retains s t) (second : Retains t u) : Retains s u := by
  obtain ⟨update, tasks, given⟩ := first.tasks
  obtain ⟨further, later, more⟩ := second.tasks
  refine ⟨second.nextTask.trans first.nextTask, second.released ∘ first.released, second.busy.trans first.busy,
    fun id => (second.notes id).trans (first.notes id), further ∘ update, ?_, ?_⟩
  · rw [later, tasks, List.map_map]
  · exact fun task => (given task).trans (more (update task))

theorem remains (retains : Retains s t) {task : Task} (member : task ∈ s.tasks) :
    ∃ later ∈ t.tasks, later.id = task.id ∧ later.cancelled = task.cancelled := by
  obtain ⟨update, tasks, given⟩ := retains.tasks
  refine ⟨update task, ?_, (given task).same_id, (given task).cancelled⟩
  rw [tasks]
  exact List.mem_map_of_mem member

theorem task? (retains : Retains s t) (id : Nat) :
    s.task? id = none ∧ t.task? id = none ∨
      ∃ task later, s.task? id = some task ∧ t.task? id = some later ∧ task.Given later := by
  obtain ⟨update, tasks, given⟩ := retains.tasks
  have found : t.task? id = (s.task? id).map update := by
    have same : (fun task => task.id == id) ∘ update = fun task : Task => task.id == id := by
      funext task
      rw [Function.comp_apply, (given task).same_id]
    rw [State.task?, tasks, List.find?_map, same, State.task?]
  rw [found]
  cases s.task? id with
  | none => exact Or.inl ⟨rfl, rfl⟩
  | some task => exact Or.inr ⟨task, update task, rfl, rfl, given task⟩

theorem wake (s : State) (runnable : Runnable) : Retains s (s.wake runnable) := by
  unfold State.wake
  split <;> exact .of_eq rfl (fun released => released) rfl (fun _ => rfl) rfl

theorem manage (s : State) (change : Lifecycle → Lifecycle) : Retains s (s.manage change) := by
  have notes := fun id => s.notes_manage id change
  obtain ⟨ready, managed⟩ := s.manage_eq change
  rw [managed] at notes ⊢
  exact .of_eq rfl (fun released => released) rfl notes rfl

theorem signal (s : State) (id : Nat) (reply : EngineReply) : Retains s (s.signal id reply) := by
  unfold State.signal
  split
  · exact refl s
  · have updated : Retains s (s.updateTask id (State.receive reply)) := by
      refine ⟨rfl, fun released => released, rfl, fun _ => rfl, _, rfl, fun task => ?_⟩
      split
      · exact Or.inr ⟨reply, rfl⟩
      · exact Or.inl rfl
    exact updated.trans (wake _ _)

theorem signalAll (s : State) (completions : List Held) (reply : EngineReply) :
    Retains s (completions.foldl (fun s (completion : Held) => s.signal completion.task reply) s) := by
  induction completions generalizing s with
  | nil => exact refl s
  | cons completion rest ih => exact (signal s completion.task reply).trans (ih _)

theorem aside (s : State) (lifecycle : Lifecycle) (held : List Held) (ready : List Runnable) :
    Retains s { s with toLifecycle := lifecycle, held, ready } :=
  .of_eq rfl (fun released => released) rfl (fun _ => rfl) rfl

theorem deliver (s : State) (id : Nat) (reply : EngineReply) : Retains s (s.deliver id reply) := by
  unfold State.deliver
  split
  · exact refl s
  · next held _ =>
    exact (aside s s.toLifecycle (s.held.erase held) s.ready).trans (signal _ id reply)

theorem destroy (s : State) (channel : Nat) : Retains s (s.destroy channel) := by
  have managed := manage s (·.destroy channel)
  unfold State.destroy
  dsimp only
  split
  · exact (managed.trans (aside _ _ _ _)).trans (signalAll _ _ lost)
  · exact managed

theorem turn (s : State) : Retains s s.turn := by
  unfold State.turn
  split
  · exact aside s _ _ _
  · next callback hub _ =>
    have popped : Retains s { s with hub } := aside s _ _ _
    have ran : Retains s (({ s with hub } : State).runCallback callback) := by
      cases callback with
      | destroy channel => exact popped.trans (destroy _ channel)
      | fork => exact popped.trans (manage _ Lifecycle.onFork)
    dsimp only
    split
    · exact ran.trans (aside _ _ _ _)
    · exact ran

end Retains

theorem lookups_act (s : State) (event : Event) :
    (∃ call, event = .start call ∧ s.released = false ∧ act s event = s.startTask call) ∨
      (∃ id, event = .cancel id) ∨ event.goesOn = true ∨ event.goesOn = false ∧ Retains s (act s event) := by
  cases event with
  | start call =>
    rcases act_start s call with same | ⟨unreleased, started⟩
    · exact Or.inr (Or.inr (Or.inr ⟨rfl, same.symm ▸ .refl s⟩))
    · exact Or.inl ⟨call, rfl, unreleased, started⟩
  | cancel task => exact Or.inr (Or.inl ⟨task, rfl⟩)
  | poll task => exact Or.inr (Or.inr (Or.inl rfl))
  | answerNative reply => exact Or.inr (Or.inr (Or.inl rfl))
  | answerEngine reaction => exact Or.inr (Or.inr (Or.inl rfl))
  | turn =>
    refine Or.inr (Or.inr (Or.inr ⟨rfl, ?_⟩))
    rcases act_turn s with same | ⟨-, turned⟩
    · exact same.symm ▸ .refl s
    · exact turned.symm ▸ .turn s
  | deliver task reply => exact Or.inr (Or.inr (Or.inr ⟨rfl, .deliver s task reply⟩))
  | abandon task => exact Or.inr (Or.inr (Or.inr ⟨rfl, .deliver s task lost⟩))
  | setPid pid => exact Or.inr (Or.inr (Or.inr ⟨rfl, .manage s (·.setPid pid)⟩))
  | reinit => exact Or.inr (Or.inr (Or.inr ⟨rfl, .manage s Lifecycle.reinit⟩))
  | close => exact Or.inr (Or.inr (Or.inr ⟨rfl, .manage s Lifecycle.close⟩))
  | release =>
    exact Or.inr (Or.inr (Or.inr ⟨rfl, .of_eq rfl (fun _ => rfl) rfl (fun _ => rfl) rfl⟩))
  | obstruct obstacle => exact Or.inr (Or.inr (Or.inr ⟨rfl, .aside s _ _ _⟩))

/-- How an event may go on with a lookup: nothing is noted, or the lookup whose turn it is goes on until its poll
stops, and the others stay where they are. -/
inductive Proceeds (s : State) (event : Event) (t : State) : Prop
  | still (apart : t.nextTask = s.nextTask ∧ t.released = s.released) (busy : t.busy = s.busy ∨ t.busy = none)
      (notes : ∀ id, t.notes id = s.notes id)
  | goes {id : Nat} {u : State} (apart : t.nextTask = s.nextTask ∧ t.released = s.released)
      (turn : event = .poll id ∨ ∃ request, s.busy = some (id, request)) (goes : Goes id u t)
      (notes : ∀ other, id ≠ other → t.notes other = s.notes other)

namespace Proceeds

variable {event : Event}

theorem refl (s : State) (event : Event) : Proceeds s event s :=
  .still ⟨rfl, rfl⟩ (.inl rfl) fun _ => rfl

theorem of_only {v : State} (only : Only u t id) (goes : Goes id v t)
    (turn : event = .poll id ∨ ∃ request, s.busy = some (id, request))
    (apart : u.nextTask = s.nextTask ∧ u.released = s.released) (notes : ∀ other, u.notes other = s.notes other) :
    Proceeds s event t := by
  refine .goes ⟨only.nextTask.trans apart.1, only.released.trans apart.2⟩ turn goes fun other different => ?_
  rw [only.notes other different, notes]

theorem poll (s : State) (id : Nat) : Proceeds s (.poll id) (s.poll id) := by
  unfold State.poll
  dsimp only
  split
  · exact .still ⟨rfl, rfl⟩ (.inl rfl) fun _ => rfl
  · split
    · exact .still ⟨rfl, rfl⟩ (.inl rfl) fun _ => rfl
    · split
      · exact of_only (Goes.follow _ id _).only (.follow _ id _) (.inl rfl) ⟨rfl, rfl⟩ fun _ => rfl
      · exact of_only (Goes.resume _ id _ _ _).only_heard (.resume _ id _ _ _) (.inl rfl) ⟨rfl, rfl⟩ fun _ => rfl
      · exact .still ⟨rfl, rfl⟩ (.inl rfl) fun _ => rfl

theorem answerNative (s : State) (reply : NativeReply) :
    Proceeds s (.answerNative reply) (s.answerNative reply) := by
  unfold State.answerNative
  split
  · next id query next busy =>
    exact of_only (Goes.follow _ id _).only_heard (.follow _ id _) (.inr ⟨_, busy⟩) ⟨rfl, rfl⟩ fun _ => rfl
  · next id loop start query next busy =>
    have turn : ∃ request, s.busy = some (id, request) := ⟨_, busy⟩
    exact of_only (Goes.resume _ id _ _ _).only_heard (.resume _ id _ _ _) (.inr turn) ⟨rfl, rfl⟩ fun _ => rfl
  · exact refl s _

theorem answerEngine (s : State) (reaction : Reaction) :
    Proceeds s (.answerEngine reaction) (s.answerEngine reaction) := by
  unfold State.answerEngine
  split
  · next id loop start channel query next busy =>
    have turn : ∃ request, s.busy = some (id, request) := ⟨_, busy⟩
    split
    · exact of_only (Goes.resume _ id _ _ _).only_heard (.resume _ id _ _ _) (.inr turn) ⟨rfl, rfl⟩ fun _ => rfl
    · exact .still ⟨rfl, rfl⟩ (.inr rfl) fun _ => rfl
  · exact refl s _

theorem apart (proceeds : Proceeds s event t) : t.nextTask = s.nextTask ∧ t.released = s.released := by
  cases proceeds <;> assumption

end Proceeds

theorem proceeds_act (s : State) {event : Event} (goes : event.goesOn = true) : Proceeds s event (act s event) := by
  cases event with
  | poll task =>
    rcases act_poll s task with same | ⟨-, -, polled⟩
    · rw [same]
      exact .refl s _
    · rw [polled]
      exact .poll s task
  | answerNative reply => exact .answerNative s reply
  | answerEngine reaction => exact .answerEngine s reaction
  | _ => contradiction

namespace State

theorem apart_cancel (s : State) (id : Nat) :
    (s.cancel id).nextTask = s.nextTask ∧ (s.cancel id).released = s.released := by
  unfold cancel
  split
  · exact ⟨rfl, rfl⟩
  · unfold wake
    split <;> exact ⟨rfl, rfl⟩

theorem nextTask_startTask (s : State) (call : Call) : (s.startTask call).nextTask = s.nextTask + 1 :=
  nextTask_wake _ _

end State

theorem apart_act (s : State) (event : Event) :
    (act s event).nextTask = s.nextTask ∧ (s.released = true → (act s event).released = true) ∨
      s.released = false ∧ ∃ call, event = .start call ∧ act s event = s.startTask call := by
  rcases lookups_act s event with ⟨call, starts, unreleased, started⟩ | ⟨other, rfl⟩ | goes | ⟨-, retains⟩
  · exact Or.inr ⟨unreleased, call, starts, started⟩
  · have apart := s.apart_cancel other
    exact Or.inl ⟨apart.1, apart.2.trans⟩
  · have apart := (proceeds_act s goes).apart
    exact Or.inl ⟨apart.1, apart.2.trans⟩
  · exact Or.inl ⟨retains.nextTask, retains.released⟩

theorem settleOwner_unused (s : State) : s.settleOwner = s ∨
    s.released = true ∧ s.tasks = [] ∧ s.busy = none ∧ s.settleOwner = s.close := by
  unfold State.settleOwner
  split
  · next unused =>
    simp only [Bool.and_eq_true, List.isEmpty_iff, Option.isNone_iff_eq_none] at unused
    exact Or.inr ⟨unused.1.1, unused.1.2, unused.2, rfl⟩
  · exact Or.inl rfl

theorem retains_settleOwner (s : State) : Retains s s.settleOwner := by
  rcases settleOwner_cases s with same | closed
  · rw [same]
    exact .refl s
  · rw [closed]
    exact .manage s Lifecycle.close

theorem State.tasks_settleOwner (s : State) : s.settleOwner.tasks = s.tasks := by
  rcases settleOwner_cases s with same | closed
  · rw [same]
  · rw [closed, State.close, State.tasks_manage]

theorem nextTask_le_step (s : State) (event : Event) : s.nextTask ≤ (step s event).nextTask := by
  rw [step, (retains_settleOwner _).nextTask]
  rcases apart_act s event with ⟨same, -⟩ | ⟨-, call, -, started⟩
  · exact same.ge
  · rw [started, State.nextTask_startTask]
    exact Nat.le_succ _

theorem nextTask_le_run (s : State) (events : List Event) : s.nextTask ≤ (run s events).nextTask := by
  induction events generalizing s with
  | nil => exact le_rfl
  | cons event rest ih => exact (nextTask_le_step s event).trans (ih _)

namespace State

@[simp] theorem released_wake (s : State) (runnable : Runnable) : (s.wake runnable).released = s.released := by
  unfold wake
  split <;> rfl

@[simp] theorem released_manage (s : State) (change : Lifecycle → Lifecycle) :
    (s.manage change).released = s.released := by
  obtain ⟨ready, managed⟩ := s.manage_eq change
  rw [managed]

@[simp] theorem released_signal (s : State) (id : Nat) (reply : EngineReply) :
    (s.signal id reply).released = s.released := by
  unfold signal
  split
  · rfl
  · exact released_wake _ _

@[simp] theorem released_deliver (s : State) (id : Nat) (reply : EngineReply) :
    (s.deliver id reply).released = s.released := by
  unfold deliver
  split
  · rfl
  · exact released_signal _ id reply

theorem released_signalAll (s : State) (completions : List Held) (reply : EngineReply) :
    (completions.foldl (fun s (completion : Held) => s.signal completion.task reply) s).released =
      s.released := by
  induction completions generalizing s with
  | nil => rfl
  | cons completion rest ih => exact (ih _).trans (released_signal s completion.task reply)

theorem released_runCallback (s : State) (callback : Callback) :
    (s.runCallback callback).released = s.released := by
  cases callback with
  | fork => exact released_manage s Lifecycle.onFork
  | destroy channel =>
    unfold runCallback destroy
    dsimp only
    split
    · exact (released_signalAll _ _ lost).trans (released_manage s (·.destroy channel))
    · exact released_manage s (·.destroy channel)

theorem released_turn (s : State) : s.turn.released = s.released := by
  unfold turn
  split
  · rfl
  · next callback hub _ =>
    have ran := released_runCallback { s with hub } callback
    dsimp only
    split <;> exact ran

end State

theorem released_step_of_ne {event : Event} (other : event ≠ .release) :
    (step s event).released = s.released := by
  have settled : ∀ t : State, t.settleOwner.released = t.released := by
    intro t
    rcases settleOwner_cases t with same | closed
    · rw [same]
    · rw [closed, State.close, State.released_manage]
  rw [step, settled]
  cases event with
  | start call =>
    rcases act_start s call with same | ⟨-, started⟩
    · rw [same]
    · rw [started, State.startTask, State.released_wake]
      rfl
  | poll task =>
    have goes : (Event.poll task).goesOn = true := rfl
    exact (proceeds_act s goes).apart.2
  | turn =>
    rcases act_turn s with same | ⟨-, turned⟩
    · rw [same]
    · rw [turned, s.released_turn]
  | answerNative reply => exact (Proceeds.answerNative s reply).apart.2
  | answerEngine reaction => exact (Proceeds.answerEngine s reaction).apart.2
  | cancel task => exact (s.apart_cancel task).2
  | deliver task reply => exact s.released_deliver task reply
  | abandon task => exact s.released_deliver task lost
  | setPid pid => exact s.released_manage _
  | reinit => exact s.released_manage _
  | close => exact s.released_manage _
  | obstruct obstacle => rfl
  | release => contradiction

theorem released_run_of_ne {events : List Event} (others : ∀ event ∈ events, event ≠ .release) :
    (run s events).released = s.released := by
  induction events generalizing s with
  | nil => rfl
  | cons event rest ih =>
    have first := released_step_of_ne (s := s) (others event (by simp))
    have later := ih (s := step s event) fun other member => others other (by simp [member])
    exact later.trans first

theorem released_step (released : s.released = true) (event : Event) : (step s event).released = true := by
  refine (retains_settleOwner _).released ?_
  rcases apart_act s event with ⟨-, still⟩ | ⟨unreleased, -⟩
  · exact still released
  · simp [released] at unreleased

end HostLookup.Resolver
