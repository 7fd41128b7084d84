import HostLookup.Proofs.Attendance
import HostLookup.Proofs.Turnover

/-! No lookup is stranded. A lookup that could go on is among the ready, and one that could not has a completion
in the hands of an engine that was not torn down; the hub is among the ready while anything is queued. -/
namespace HostLookup.Resolver

def Stage.Pending : Stage → Prop
  | .waiting _ _ _ _ none => True
  | _ => False

/-- Nothing that could run is left out. Those in `told` are about to get a reply, and may lack a completion. -/
structure Awake (s : State) (told : List Nat) : Prop where
  ready : ∀ task ∈ s.tasks, task.cancelled = true ∨ ¬ task.stage.Pending → .task task.id ∈ s.ready
  held : ∀ task ∈ s.tasks, task.id ∉ told → task.stage.Pending →
    ∃ completion ∈ s.held, completion.task = task.id
  created : ∀ completion ∈ s.held, completion.channel < s.destroyed.length
  untorn : s.config.dropsHeld = true →
    ∀ completion ∈ s.held, s.timesDestroyed completion.channel = 0
  hub : s.hub.queue ≠ [] → .hub ∈ s.ready

variable {s t : State} {id : Nat} {told : List Nat}

namespace State

theorem mem_ready_wake (s : State) (runnable : Runnable) : runnable ∈ (s.wake runnable).ready := by
  unfold wake
  split
  · assumption
  · exact List.mem_append_right _ (List.mem_singleton.mpr rfl)

theorem ready_wake_of_mem {runnable other : Runnable} (member : other ∈ s.ready) :
    other ∈ (s.wake runnable).ready := by
  unfold wake
  split
  · exact member
  · exact List.mem_append_left _ member

@[simp] theorem tasks_wake (s : State) (runnable : Runnable) : (s.wake runnable).tasks = s.tasks := by
  unfold wake
  split <;> rfl

@[simp] theorem held_wake (s : State) (runnable : Runnable) : (s.wake runnable).held = s.held := by
  unfold wake
  split <;> rfl

@[simp] theorem nextTask_wake (s : State) (runnable : Runnable) :
    (s.wake runnable).nextTask = s.nextTask := by
  unfold wake
  split <;> rfl

theorem ready_manage_of_mem {change : Lifecycle → Lifecycle} {runnable : Runnable}
    (member : runnable ∈ s.ready) : runnable ∈ (s.manage change).ready := by
  unfold manage wakeHub
  dsimp only
  split
  · exact member
  · exact ready_wake_of_mem member

theorem hub_mem_ready_manage (s : State) {change : Lifecycle → Lifecycle}
    (queued : (change s.toLifecycle).hub.queue ≠ []) : .hub ∈ (s.manage change).ready := by
  unfold manage wakeHub
  dsimp only
  split
  · next empty => exact absurd (List.isEmpty_iff.mp empty) queued
  · exact mem_ready_wake _ _

theorem held_manage (s : State) (change : Lifecycle → Lifecycle) : (s.manage change).held = s.held := by
  obtain ⟨ready, managed⟩ := s.manage_eq change
  rw [managed]

theorem tasks_manage (s : State) (change : Lifecycle → Lifecycle) :
    (s.manage change).tasks = s.tasks := by
  obtain ⟨ready, managed⟩ := s.manage_eq change
  rw [managed]

theorem manage_held (s : State) (change : Lifecycle → Lifecycle) (held : List Held) :
    { s.manage change with held } = { s with held }.manage change := by
  unfold manage wakeHub wake
  dsimp only
  split
  · rfl
  · split <;> rfl

end State

theorem Goes.ready (goes : Goes id s t) : t.ready = s.ready := by
  induction goes with
  | stops live => rfl
  | concludes result => rfl
  | begins rest ih => exact ih
  | ends rest ih => exact ih

namespace Awake

theorem of_wake (ready : ∀ task ∈ s.tasks, task.id ≠ id → task.cancelled = true ∨ ¬ task.stage.Pending →
      .task task.id ∈ s.ready)
    (held : ∀ task ∈ s.tasks, task.id ∉ told → task.stage.Pending →
      ∃ completion ∈ s.held, completion.task = task.id)
    (created : ∀ completion ∈ s.held, completion.channel < s.destroyed.length)
    (untorn : s.config.dropsHeld = true →
      ∀ completion ∈ s.held, s.timesDestroyed completion.channel = 0)
    (hub : s.hub.queue ≠ [] → .hub ∈ s.ready) : Awake (s.wake (.task id)) told := by
  refine ⟨?_, ?_, ?_, ?_, ?_⟩
  · rw [State.tasks_wake]
    intro task member free
    by_cases woken : task.id = id
    · rw [woken]
      exact State.mem_ready_wake s _
    · exact State.ready_wake_of_mem (ready task member woken free)
  · rw [State.tasks_wake, State.held_wake]
    exact held
  · rw [State.held_wake, State.toLifecycle_wake]
    exact created
  · rw [State.held_wake, State.toLifecycle_wake]
    exact untorn
  · rw [State.toLifecycle_wake]
    exact fun queued => State.ready_wake_of_mem (hub queued)

theorem remove (awake : Awake s told) (id : Nat) : Awake (s.removeTask id) told := by
  have fewer : ∀ task ∈ (s.removeTask id).tasks, task ∈ s.tasks := fun task member =>
    (List.mem_filter.mp member).1
  exact ⟨fun task member => awake.ready task (fewer task member),
    fun task member => awake.held task (fewer task member), awake.created, awake.untorn, awake.hub⟩

theorem goes_on (awake : Awake s told) (only : Only s t id) (ready : t.ready = s.ready) :
    Awake t told := by
  refine ⟨?_, ?_, ?_, ?_, ?_⟩
  · rw [only.tasks, ready]
    exact awake.ready
  · rw [only.tasks, only.held]
    exact awake.held
  · rw [only.held, only.lifecycle]
    exact awake.created
  · rw [only.held, only.lifecycle]
    exact awake.untorn
  · rw [only.lifecycle, ready]
    exact awake.hub

theorem erase (awake : Awake s told) (id : Nat) (rests : ∀ task ∈ s.tasks, task.id = id →
    task.cancelled = false ∧ task.stage.Pending) :
    Awake { s with ready := s.ready.erase (.task id) } told := by
  refine ⟨?_, awake.held, awake.created, awake.untorn, ?_⟩
  · intro task member free
    have other : Runnable.task task.id ≠ .task id := by
      intro same
      obtain ⟨going, pending⟩ := rests task member (by simpa using same)
      rcases free with cancelled | ready
      · simp [going] at cancelled
      · exact ready pending
    exact (List.mem_erase_of_ne other).mpr (awake.ready task member free)
  · exact fun queued => (List.mem_erase_of_ne (by simp)).mpr (awake.hub queued)

theorem take (awake : Awake s told) (id : Nat) :
    Awake (State.removeTask { s with ready := s.ready.erase (.task id) } id) told := by
  refine (awake.remove id).erase id ?_
  intro task member same
  have other := (List.mem_filter.mp member).2
  simp [same] at other

theorem poll (awake : Awake s told) (coherent : Coherent s) (id : Nat) : Awake (s.poll id) told := by
  have taken := awake.take id
  unfold State.poll
  dsimp only
  split
  · next missing =>
    refine awake.erase id fun task member same => ?_
    have absent := List.find?_eq_none.mp missing task member
    simp [same] at absent
  · next task found =>
    obtain ⟨among, own⟩ := State.task?_some found
    split
    · exact taken
    · next going =>
      split
      · exact taken.goes_on (Goes.follow _ id _).only (Goes.follow _ id _).ready
      · exact taken.goes_on (Goes.resume _ id _ _ _).only_heard (Goes.resume _ id _ _ _).ready
      · next stage =>
        refine awake.erase id fun other member same => ?_
        obtain rfl := List.inj_on_of_nodup_map coherent.settled.distinct member among (same.trans own.symm)
        exact ⟨by simpa using going, by rw [stage]; trivial⟩

theorem answerNative (awake : Awake s told) (reply : NativeReply) :
    Awake (s.answerNative reply) told := by
  unfold State.answerNative
  split
  · exact awake.goes_on (Goes.follow _ _ _).only_heard (Goes.follow _ _ _).ready
  · exact awake.goes_on (Goes.resume _ _ _ _ _).only_heard (Goes.resume _ _ _ _ _).ready
  · exact awake

theorem answerEngine (awake : Awake s told) (reachable : Reachable s) (reaction : Reaction) :
    Awake (s.answerEngine reaction) told := by
  unfold State.answerEngine
  split
  · next id loop generation channel query next busy =>
    split
    · exact awake.goes_on (Goes.resume _ _ _ _ _).only_heard (Goes.resume _ _ _ _ _).ready
    · have created : channel < s.destroyed.length := by
        have bound := (reachable.asked_since busy).2
        rw [reachable.custody.next] at bound
        omega
      refine ⟨?_, ?_, ?_, ?_, awake.hub⟩
      · refine List.forall_mem_append.mpr ⟨awake.ready, List.forall_mem_singleton.mpr ?_⟩
        rintro (cancelled | ready)
        · contradiction
        · exact absurd trivial ready
      · refine List.forall_mem_append.mpr ⟨?_, List.forall_mem_singleton.mpr ?_⟩
        · intro task member untold pending
          obtain ⟨completion, among, own⟩ := awake.held task member untold pending
          exact ⟨completion, List.mem_append_left _ among, own⟩
        · exact fun _ _ => ⟨⟨id, channel⟩, List.mem_append_right _ (List.mem_singleton.mpr rfl), rfl⟩
      · exact List.forall_mem_append.mpr ⟨awake.created, List.forall_mem_singleton.mpr created⟩
      · intro drops
        exact List.forall_mem_append.mpr ⟨awake.untorn drops,
          List.forall_mem_singleton.mpr (reachable.asked busy)⟩
  · exact awake

theorem startTask (awake : Awake s told) (call : Call) : Awake (s.startTask call) told := by
  refine of_wake ?_ ?_ awake.created awake.untorn awake.hub
  · refine List.forall_mem_append.mpr ⟨fun task member _ => awake.ready task member,
      List.forall_mem_singleton.mpr ?_⟩
    exact fun other => absurd rfl other
  · refine List.forall_mem_append.mpr ⟨awake.held, List.forall_mem_singleton.mpr ?_⟩
    exact fun _ pending => pending.elim

theorem cancel (awake : Awake s told) (id : Nat) : Awake (s.cancel id) told := by
  unfold State.cancel
  split
  · exact awake
  · refine of_wake ?_ ?_ awake.created awake.untorn awake.hub
    · intro task member other free
      obtain ⟨old, remains, rfl⟩ := List.mem_map.mp member
      by_cases mine : old.id = id
      · simp [mine] at other
      · simp only [if_neg mine] at free ⊢
        exact awake.ready old remains free
    · intro task member untold pending
      obtain ⟨old, remains, rfl⟩ := List.mem_map.mp member
      by_cases mine : old.id = id
      · simp only [if_pos mine] at untold pending ⊢
        exact awake.held old remains untold pending
      · simp only [if_neg mine] at untold pending ⊢
        exact awake.held old remains untold pending

theorem not_pending_receive (reply : EngineReply) (task : Task) :
    ¬ (State.receive reply task).stage.Pending := by
  unfold State.receive
  cases stage : task.stage with
  | fresh call => simp [stage, Stage.Pending]
  | waiting loop generation query next delivered =>
    cases delivered <;> simp [stage, Stage.Pending]

theorem signal (awake : Awake s (id :: told)) (reply : EngineReply) : Awake (s.signal id reply) told := by
  unfold State.signal
  split
  · next missing =>
    refine ⟨awake.ready, ?_, awake.created, awake.untorn, awake.hub⟩
    intro task member untold pending
    refine awake.held task member ?_ pending
    have absent := List.find?_eq_none.mp missing task member
    simpa [untold] using absent
  · refine of_wake ?_ ?_ awake.created awake.untorn awake.hub
    · intro task member other free
      obtain ⟨old, remains, rfl⟩ := List.mem_map.mp member
      by_cases mine : old.id = id
      · rw [if_pos mine, id_receive] at other
        exact absurd mine other
      · rw [if_neg mine] at free ⊢
        exact awake.ready old remains free
    · intro task member untold pending
      obtain ⟨old, remains, rfl⟩ := List.mem_map.mp member
      by_cases mine : old.id = id
      · rw [if_pos mine] at pending
        exact absurd pending (not_pending_receive reply old)
      · rw [if_neg mine] at untold pending ⊢
        exact awake.held old remains (by simp [mine, untold]) pending

theorem signalAll {completions : List Held} (reply : EngineReply)
    (awake : Awake s (completions.map Held.task)) :
    Awake (completions.foldl (fun s (completion : Held) => s.signal completion.task reply) s) [] := by
  induction completions generalizing s with
  | nil => exact awake
  | cons completion rest ih => exact ih (awake.signal reply)

theorem fewer (awake : Awake s []) {held : List Held} (sublist : held.Sublist s.held)
    (kept : ∀ completion ∈ s.held, completion.task ∉ told → completion ∈ held) :
    Awake { s with held } told := by
  refine ⟨awake.ready, ?_, fun completion member => awake.created completion (sublist.subset member),
    fun drops completion member => awake.untorn drops completion (sublist.subset member), awake.hub⟩
  intro task member untold pending
  obtain ⟨completion, among, own⟩ := awake.held task member (by simp) pending
  exact ⟨completion, kept completion among (own ▸ untold), own⟩

theorem deliver (awake : Awake s []) (id : Nat) (reply : EngineReply) :
    Awake (s.deliver id reply) [] := by
  unfold State.deliver
  split
  · exact awake
  · next held found =>
    have owner : held.task = id := by simpa using List.find?_some found
    refine signal (awake.fewer List.erase_sublist ?_) reply
    intro completion member untold
    refine (List.mem_erase_of_ne ?_).mpr member
    rintro rfl
    simp [owner] at untold

theorem manage (awake : Awake s told) (change : Lifecycle → Lifecycle)
    (config : (change s.toLifecycle).config = s.config)
    (length : s.destroyed.length ≤ (change s.toLifecycle).destroyed.length)
    (times : s.config.dropsHeld = true → ∀ completion ∈ s.held,
      (change s.toLifecycle).timesDestroyed completion.channel =
        s.timesDestroyed completion.channel) : Awake (s.manage change) told := by
  refine ⟨?_, ?_, ?_, ?_, ?_⟩
  · rw [State.tasks_manage]
    exact fun task member free => State.ready_manage_of_mem (awake.ready task member free)
  · rw [State.tasks_manage, State.held_manage]
    exact awake.held
  · rw [State.held_manage, State.toLifecycle_manage]
    exact fun completion member => (awake.created completion member).trans_le length
  · rw [State.held_manage, State.toLifecycle_manage, config]
    exact fun drops completion member =>
      (times drops completion member).trans (awake.untorn drops completion member)
  · rw [State.toLifecycle_manage]
    exact fun queued => State.hub_mem_ready_manage s queued

theorem destroy (awake : Awake s []) (channel : Nat) : Awake (s.destroy channel) [] := by
  have config : (s.manage (·.destroy channel)).config = s.config := by
    rw [State.toLifecycle_manage]
    rfl
  have length : s.destroyed.length ≤ (s.toLifecycle.destroy channel).destroyed.length := by
    simp [Lifecycle.destroy]
  unfold State.destroy
  dsimp only
  split
  · rw [List.partition_eq_filter_filter]
    dsimp only
    refine signalAll lost ?_
    rw [State.manage_held, State.held_manage]
    -- Who waited on the channel is told; all other completions are on channels that are not torn down.
    refine manage (awake.fewer List.filter_sublist ?_) (·.destroy channel) rfl length ?_
    · intro completion member untold
      refine List.mem_filter.mpr ⟨member, ?_⟩
      by_contra on
      refine untold (List.mem_map.mpr ⟨completion, List.mem_filter.mpr ⟨member, ?_⟩, rfl⟩)
      simpa using on
    · intro _ completion member
      have off := (List.mem_filter.mp member).2
      by_contra torn
      obtain ⟨same, -⟩ := Lifecycle.timesDestroyed_destroy torn
      simp [same] at off
  · next keeps =>
    rw [config] at keeps
    exact awake.manage (·.destroy channel) rfl length fun drops => absurd drops keeps

theorem turn (awake : Awake s []) : Awake s.turn [] := by
  unfold State.turn
  cases queued : s.hub.queue with
  | nil =>
    simp only [Hub.next?, queued]
    refine ⟨?_, awake.held, awake.created, awake.untorn, fun some => absurd queued some⟩
    exact fun task member free => (List.mem_erase_of_ne (by simp)).mpr (awake.ready task member free)
  | cons callback rest =>
    simp only [Hub.next?, queued]
    have popped : Awake { s with hub := { s.hub with queue := rest } } [] :=
      ⟨awake.ready, awake.held, awake.created, awake.untorn, fun _ => awake.hub (by simp [queued])⟩
    have ran : Awake (({ s with hub := { s.hub with queue := rest } } : State).runCallback callback) [] := by
      cases callback with
      | destroy channel => exact popped.destroy channel
      | fork =>
        obtain ⟨config, length⟩ := Lifecycle.kept_onFork { s.toLifecycle with hub := { s.hub with queue := rest } }
        exact popped.manage Lifecycle.onFork config length fun _ completion _ => Lifecycle.timesDestroyed_onFork _ _
    split
    · next empty =>
      refine ⟨?_, ran.held, ran.created, ran.untorn, fun some => absurd (List.isEmpty_iff.mp empty) some⟩
      exact fun task member free => (List.mem_erase_of_ne (by simp)).mpr (ran.ready task member free)
    · exact ran

theorem close (awake : Awake s []) : Awake s.close [] := by
  obtain ⟨teardowns, -, closed⟩ := Lifecycle.close_eq s.toLifecycle
  refine awake.manage Lifecycle.close ?_ ?_ fun _ completion _ => Lifecycle.timesDestroyed_close _ _
  · rw [closed]
  · rw [closed]

theorem act (awake : Awake s []) (reachable : Reachable s) (event : Event) : Awake (act s event) [] := by
  cases event with
  | start call =>
    rcases act_start s call with same | ⟨-, started⟩
    · exact same.symm ▸ awake
    · exact started.symm ▸ awake.startTask call
  | poll task =>
    rcases act_poll s task with same | ⟨-, -, polled⟩
    · exact same.symm ▸ awake
    · exact polled.symm ▸ awake.poll reachable.coherent task
  | turn =>
    rcases act_turn s with same | ⟨-, turned⟩
    · exact same.symm ▸ awake
    · exact turned.symm ▸ awake.turn
  | answerNative reply => exact awake.answerNative reply
  | answerEngine reaction => exact awake.answerEngine reachable reaction
  | deliver task reply => exact awake.deliver task reply
  | abandon task => exact awake.deliver task lost
  | cancel task => exact awake.cancel task
  | setPid pid => exact awake.manage (·.setPid pid) rfl le_rfl fun _ _ _ => rfl
  | reinit => exact awake.manage Lifecycle.reinit rfl le_rfl fun _ _ _ => rfl
  | close => exact awake.close
  | release => exact ⟨awake.ready, awake.held, awake.created, awake.untorn, awake.hub⟩
  | obstruct obstacle => exact ⟨awake.ready, awake.held, awake.created, awake.untorn, awake.hub⟩

end Awake

theorem Reachable.awake (reachable : Reachable s) : Awake s [] := by
  induction reachable with
  | @built builder obstacle hub s clear ok =>
    obtain ⟨-, config, rfl⟩ := build_eq ok
    refine ⟨fun _ member => by contradiction, fun _ member => by contradiction,
      fun _ member => by contradiction, fun _ _ member => by contradiction, ?_⟩
    intro queued
    exact absurd clear.queue queued
  | @step s event before _ ih =>
    have acted := ih.act (Reached.reachable before) event
    rcases settleOwner_cases (Resolver.act s event) with same | closed
    · rw [Resolver.step, same]
      exact acted
    · rw [Resolver.step, closed]
      exact acted.close

end HostLookup.Resolver
