import HostLookup.Proofs.Closing
import HostLookup.Proofs.Freshness
import HostLookup.Proofs.Replies

/-! Calm runs: the process number stays, and nobody closes the resolver. The slot stays as it is, and no channel
is torn down, unless there is no lookup left to see it. -/
namespace HostLookup.Resolver

namespace Lifecycle

/-- The channel in the slot is that of the process number, and nothing but notices is queued. -/
structure Calm (slot : Option Slot) (pid : Nat) (l : Lifecycle) : Prop where
  slot : l.slot = slot
  livePid : l.hub.livePid = pid
  filled : l.pid = pid
  queue : ∀ callback ∈ l.hub.queue, callback = .fork

variable {slot : Option Slot} {pid : Nat} {l : Lifecycle} {change : Change}

theorem Calm.onFork (calm : Calm slot pid l) : l.onFork = l := by
  simp [Lifecycle.onFork, calm.livePid, calm.filled]

theorem Calm.apply (calm : Calm slot pid l) (notices : ∀ entry ∈ l.hub.watchers, entry.2 = .fork)
    (stays : change.Stays pid) (other : change ≠ .close) : Calm slot pid (l.apply change) := by
  cases change with
  | setPid new =>
    obtain rfl := stays new rfl
    exact ⟨calm.slot, rfl, calm.filled, calm.queue⟩
  | obstruct obstacle => exact ⟨calm.slot, calm.livePid, calm.filled, calm.queue⟩
  | reinit =>
    refine ⟨calm.slot, by simpa [Lifecycle.apply, Lifecycle.reinit] using calm.livePid, calm.filled, ?_⟩
    unfold Lifecycle.apply Lifecycle.reinit Hub.reinit
    dsimp only
    split
    · exact calm.queue
    · rw [Hub.queue_pushAll]
      refine List.forall_mem_append.mpr ⟨calm.queue, fun callback member => ?_⟩
      split at member
      · obtain ⟨entry, among, rfl⟩ := List.mem_map.mp member
        exact notices entry among
      · contradiction
  | close => contradiction
  | rest => exact calm
  | turn =>
    cases queued : l.hub.queue with
    | nil => simpa [Lifecycle.apply, Hub.next?, queued] using calm
    | cons callback rest =>
      obtain ⟨notice, forks⟩ := List.forall_mem_cons.mp (queued ▸ calm.queue)
      have popped : Calm slot pid { l with hub := { l.hub with queue := rest } } :=
        ⟨calm.slot, calm.livePid, calm.filled, forks⟩
      subst notice
      simp only [Lifecycle.apply, Hub.next?, queued, runCallback]
      rw [popped.onFork]
      exact popped

theorem Shut.close_eq (shut : Shut l) : l.close = l := by
  have same : l.hub.stop l.watcher = l.hub := by
    have kept : l.hub.watchers.filter (·.1 != l.watcher) = l.hub.watchers :=
      List.filter_eq_self.mpr fun entry member => by simpa using shut.deaf entry member
    rw [Hub.stop, kept]
  unfold Lifecycle.close
  rw [same, ← shut.closed]
  change l.detach = l
  simp only [Lifecycle.detach, shut.slot]

end Lifecycle

structure Unused (s : State) : Prop where
  released : s.released = true
  tasks : s.tasks = []
  busy : s.busy = none

open Lifecycle

variable {s s₀ t : State} {id : Nat} {event : Event} {slot : Option Slot} {pid : Nat}

theorem Unused.retained (unused : Unused s) (retains : Retains s t) : Unused t := by
  obtain ⟨update, tasks, -⟩ := retains.tasks
  refine ⟨retains.released unused.released, ?_, retains.busy.trans unused.busy⟩
  rw [tasks, unused.tasks, List.map_nil]

theorem Unused.step (unused : Unused s) (event : Event) : Unused (step s event) := by
  refine Unused.retained ?_ (retains_settleOwner (act s event))
  have missing : ∀ id, s.task? id = none := fun id => by rw [State.task?, unused.tasks, List.find?_nil]
  rcases lookups_act s event with ⟨call, -, unreleased, -⟩ | ⟨other, rfl⟩ | goes | ⟨-, retains⟩
  · simp [unused.released] at unreleased
  · simpa [act, State.cancel, missing] using unused
  · cases event with
    | poll task =>
      rcases act_poll s task with same | ⟨-, -, polled⟩
      · exact same.symm ▸ unused
      · rw [polled, State.poll, missing]
        exact ⟨unused.released, unused.tasks, unused.busy⟩
    | answerNative reply => simpa [act, State.answerNative, unused.busy] using unused
    | answerEngine reaction => simpa [act, State.answerEngine, unused.busy] using unused
    | _ => contradiction
  · exact unused.retained retains

theorem Reachable.closed_of_unused (reachable : Reachable s) (unused : Unused s) : s.closed = true := by
  cases reachable with
  | built clear ok =>
    obtain ⟨-, config, rfl⟩ := build_eq ok
    have unreleased := unused.released
    contradiction
  | @step s event before _ => exact closed_settleOwner _ unused.released unused.tasks unused.busy

theorem Reachable.settleOwner_eq (reachable : Reachable s) (lifecycle : t.toLifecycle = s.toLifecycle)
    (ready : t.ready = s.ready) (unused : Unused t → Unused s) : t.settleOwner = t := by
  rcases settleOwner_unused t with same | ⟨released, gone, idle, closed⟩
  · exact same
  · have shut := reachable.shut (reachable.closed_of_unused (unused ⟨released, gone, idle⟩))
    have hub := reachable.awake.hub
    rw [← lifecycle] at shut hub
    rw [← ready] at hub
    rw [closed, State.close, State.manage, shut.close_eq, if_pos rfl, List.append_nil, State.wakeHub]
    split
    · rfl
    · next queued => exact if_pos (hub fun empty => queued (by simp [empty]))

theorem Event.change_ne_close (other : event ≠ .close) (busy : Bool) : event.change busy ≠ .close := by
  cases event with
  | close => contradiction
  | turn => cases busy <;> simp [Event.change]
  | _ => simp [Event.change]

theorem calm_step (reachable : Reachable s) (calm : Calm slot pid s.toLifecycle ∨ Unused s)
    (stays : event.Stays pid) (other : event ≠ .close) :
    (act s event).slot = s.slot ∧ (Calm slot pid (step s event).toLifecycle ∨ Unused (step s event)) := by
  rcases calm with calm | unused
  · have change : event.change s.busy.isSome ≠ .close := by
      cases event <;> cases s.busy.isSome <;> simp_all [Event.change]
    have after : Calm slot pid (act s event).toLifecycle := by
      rw [toLifecycle_act]
      exact calm.apply reachable.custody.notices (stays.change _) (Event.change_ne_close other _)
    refine ⟨after.slot.trans calm.slot.symm, ?_⟩
    rcases settleOwner_unused (act s event) with same | ⟨released, gone, idle, -⟩
    · rw [step, same]
      exact Or.inl after
    · exact Or.inr (Unused.retained ⟨released, gone, idle⟩ (retains_settleOwner _))
  · have shut := reachable.shut (reachable.closed_of_unused unused)
    have later := (shut.apply (event.change s.busy.isSome)).1
    rw [← toLifecycle_act] at later
    exact ⟨later.slot.trans shut.slot.symm, Or.inr (unused.step event)⟩

theorem calm_run {builder : Builder} {obstacle : Option LookupError} {hub : Hub Callback} {events : List Event}
    (clear : hub.IsClear) (ok : builder.build obstacle hub = .ok s₀)
    (calm : ∀ event ∈ events, event.Stays hub.livePid ∧ event ≠ .close) :
    Steadily s₀ (run s₀ events) ∧
      (Calm s₀.slot hub.livePid (run s₀ events).toLifecycle ∨ Unused (run s₀ events)) ∧
      ∀ id, Heard (given s₀ id events) (run s₀ events) id := by
  have reachable : Reachable s₀ := .built clear ok
  obtain ⟨-, config, rfl⟩ := build_eq ok
  induction events using List.reverseRecOn with
  | nil =>
    refine ⟨.here, Or.inl ⟨rfl, rfl, rfl, ?_⟩, fun id => ⟨none, rfl, Or.inl rfl⟩⟩
    intro callback member
    have queued : callback ∈ hub.queue := member
    simp [clear.queue] at queued
  | append_singleton events event ih =>
    obtain ⟨before, calm_before, heard_before⟩ := ih fun other member => calm other (by simp [member])
    obtain ⟨stays, other⟩ := calm event (by simp)
    obtain ⟨same, after⟩ := calm_step (reachable.run events) calm_before stays other
    rw [run_concat]
    refine ⟨before.step same, after, fun id => ?_⟩
    rw [given_concat]
    exact (heard_before id).step (reachable.run events)
      (calm_before.imp (fun calm => calm.queue) fun unused => unused.tasks) event

end HostLookup.Resolver
