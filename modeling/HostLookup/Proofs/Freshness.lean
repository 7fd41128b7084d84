import HostLookup.Proofs.Reachable
import HostLookup.Proofs.Turnover
import Mathlib.Data.List.Nodup

/-! Freshness after a fork. The process number is kept in three places: as it is, as the hub saw it last, and as
it was when the slot was last filled. While they differ, the hub has still to look or a notice is queued, unless
the number comes back to an earlier value. -/
namespace HostLookup.Resolver

namespace Lifecycle

variable {past : List Nat} {l after : Lifecycle} {change : Change}

/-- What holds while the process number is a new one; `past` are those that it had before. -/
structure Timely (past : List Nat) (l : Lifecycle) : Prop where
  new : l.hub.livePid ∉ past
  seen : l.hub.seenPid = l.hub.livePid ∨ l.hub.seenPid ∈ past
  since : ∀ creation ∈ l.creations,
    creation.pid ∈ past ∨ creation.pid = l.hub.livePid ∧ l.pid = l.hub.livePid
  once : (l.creations.map Creation.pid).Nodup
  watched : l.closed = false → (l.watcher, .fork) ∈ l.hub.watchers
  latest : l.closed = false → ∃ creation ∈ l.creations,
    creation.pid = l.pid ∧ l.generation = creation.outcome.toOption

def Noticed (l : Lifecycle) : Prop :=
  l.closed = false →
    l.pid = l.hub.livePid ∨ l.hub.seenPid ≠ l.hub.livePid ∨ Callback.fork ∈ l.hub.queue

def Change.Stays (pid : Nat) (change : Change) : Prop :=
  ∀ other, change = .setPid other → other = pid

theorem Timely.of_queue (timely : Timely past l) (queue : List Callback) :
    Timely past { l with hub := { l.hub with queue } } :=
  ⟨timely.new, timely.seen, timely.since, timely.once, timely.watched, timely.latest⟩

theorem Timely.close (timely : Timely past l) : Timely past l.close := by
  obtain ⟨teardowns, -, closed⟩ := close_eq l
  rw [closed]
  exact ⟨timely.new, timely.seen, timely.since, timely.once, by simp, by simp⟩

theorem Timely.onFork (timely : Timely past l) : Timely past l.onFork := by
  rcases onFork_cases l with ⟨same, -⟩ | rebuilt
  · rw [same]
    exact timely
  · obtain ⟨outcome, generation, creations⟩ := rebuilt.created
    have earlier : ∀ creation ∈ l.creations, creation.pid ∈ past := by
      intro creation member
      rcases timely.since creation member with before | ⟨-, same⟩
      · exact before
      · exact absurd same rebuilt.behind
    refine ⟨?_, ?_, ?_, ?_, ?_, ?_⟩
    · rw [rebuilt.livePid]
      exact timely.new
    · rw [rebuilt.livePid, rebuilt.seenPid]
      exact timely.seen
    · rw [creations, rebuilt.livePid, rebuilt.pid]
      refine List.forall_mem_append.mpr ⟨?_, List.forall_mem_singleton.mpr (Or.inr ⟨rfl, rfl⟩)⟩
      exact fun creation member => Or.inl (earlier creation member)
    · rw [creations, List.map_append, List.map_singleton, ← List.concat_eq_append, List.nodup_concat]
      refine ⟨?_, timely.once⟩
      intro again
      obtain ⟨creation, member, equal⟩ := List.mem_map.mp again
      have before := earlier creation member
      rw [equal] at before
      exact timely.new before
    · intro _
      rw [rebuilt.watcher, rebuilt.watchers]
      exact timely.watched rebuilt.opened
    · intro _
      rw [creations, rebuilt.pid]
      exact ⟨_, List.mem_append_right _ (List.mem_singleton.mpr rfl), rfl, generation⟩

theorem Timely.setPid (timely : Timely past l) {pid : Nat} (new : pid ∉ l.hub.livePid :: past) :
    Timely (l.hub.livePid :: past) (l.setPid pid) := by
  refine ⟨new, ?_, ?_, timely.once, timely.watched, timely.latest⟩
  · rcases timely.seen with same | before
    · exact Or.inr (List.mem_cons.mpr (Or.inl same))
    · exact Or.inr (List.mem_cons_of_mem _ before)
  · intro creation member
    rcases timely.since creation member with before | ⟨same, -⟩
    · exact Or.inl (List.mem_cons_of_mem _ before)
    · exact Or.inl (List.mem_cons.mpr (Or.inl same))

theorem Timely.reinit (timely : Timely past l) : Timely past l.reinit := by
  unfold Lifecycle.reinit
  refine ⟨?_, Or.inl ?_, ?_, timely.once, ?_, timely.latest⟩
  · simpa using timely.new
  · simp
  · simpa using timely.since
  · simpa using timely.watched

theorem Timely.apply (timely : Timely past l) (stays : change.Stays l.hub.livePid) :
    Timely past (l.apply change) := by
  cases change with
  | setPid pid =>
    obtain rfl := stays pid rfl
    exact timely
  | obstruct obstacle =>
    exact ⟨timely.new, timely.seen, timely.since, timely.once, timely.watched, timely.latest⟩
  | reinit => exact timely.reinit
  | close => exact timely.close
  | rest => exact timely
  | turn =>
    cases queued : l.hub.queue with
    | nil => simpa [Lifecycle.apply, Hub.next?, queued] using timely
    | cons callback rest =>
      have popped := timely.of_queue rest
      cases callback with
      | destroy channel =>
        simp only [Lifecycle.apply, Hub.next?, queued, runCallback]
        exact ⟨popped.new, popped.seen, popped.since, popped.once, popped.watched, popped.latest⟩
      | fork =>
        simp only [Lifecycle.apply, Hub.next?, queued, runCallback]
        exact popped.onFork

theorem Noticed.reinit (noticed : Noticed l) (alive : l.hub.alive = true) (timely : Timely past l) :
    Noticed l.reinit := by
  intro opened
  have watched := timely.watched opened
  unfold Lifecycle.reinit Hub.reinit at opened ⊢
  split
  · exact noticed opened
  · refine Or.inr (Or.inr ?_)
    simp only [Hub.queue_pushAll, alive, if_true]
    exact List.mem_append_right _ (List.mem_map.mpr ⟨_, watched, rfl⟩)

theorem Noticed.turn (noticed : Noticed l) : Noticed (l.apply .turn) := by
  cases queued : l.hub.queue with
  | nil => simpa [Lifecycle.apply, Hub.next?, queued] using noticed
  | cons callback rest =>
    cases callback with
    | destroy channel =>
      simpa [Noticed, Lifecycle.apply, Hub.next?, queued, runCallback, destroy] using noticed
    -- The notice is used up, but now the slot has been filled under the number as it is.
    | fork =>
      simp only [Lifecycle.apply, Hub.next?, queued, runCallback]
      intro opened
      refine Or.inl ?_
      rcases onFork_cases { l with hub := { l.hub with queue := rest } } with ⟨same, current | closed⟩ |
        rebuilt
      · rw [same]
        exact current
      · rw [same, closed] at opened
        contradiction
      · rw [rebuilt.pid, rebuilt.livePid]

theorem Noticed.apply (noticed : Noticed l) (alive : l.hub.alive = true) (timely : Timely past l)
    (stays : change.Stays l.hub.livePid) : Noticed (l.apply change) := by
  cases change with
  | setPid pid =>
    obtain rfl := stays pid rfl
    exact noticed
  | obstruct obstacle => exact noticed
  | reinit => exact noticed.reinit alive timely
  | close =>
    intro opened
    rw [Lifecycle.apply, closed_close] at opened
    contradiction
  | rest => exact noticed
  | turn => exact noticed.turn

theorem Timely.noticed_setPid (timely : Timely past l) {pid : Nat} (new : pid ∉ l.hub.livePid :: past) :
    Noticed (l.setPid pid) := by
  refine fun _ => Or.inr (Or.inl ?_)
  intro same
  have same : l.hub.seenPid = pid := same
  refine new (same ▸ List.mem_cons.mpr ?_)
  exact timely.seen

/-- What the hub has seen stays seen, and a slot that is of the process number stays so. -/
structure Keeps (l after : Lifecycle) : Prop where
  livePid : after.hub.livePid = l.hub.livePid
  seen : l.hub.seenPid = l.hub.livePid → after.hub.seenPid = after.hub.livePid
  filled : l.pid = l.hub.livePid → after.pid = after.hub.livePid
  closed : l.closed = true → after.closed = true

theorem Keeps.onFork (l : Lifecycle) : Keeps l l.onFork := by
  rcases onFork_cases l with ⟨same, -⟩ | rebuilt
  · rw [same]
    exact ⟨rfl, id, id, id⟩
  · refine ⟨rebuilt.livePid, ?_, ?_, ?_⟩
    · rw [rebuilt.livePid, rebuilt.seenPid]
      exact id
    · exact fun filled => absurd filled rebuilt.behind
    · intro closed
      rw [rebuilt.opened] at closed
      contradiction

theorem Keeps.apply (stays : change.Stays l.hub.livePid) : Keeps l (l.apply change) := by
  cases change with
  | setPid pid =>
    obtain rfl := stays pid rfl
    exact ⟨rfl, id, id, id⟩
  | obstruct obstacle => exact ⟨rfl, id, id, id⟩
  | reinit =>
    refine ⟨by simp [Lifecycle.apply, Lifecycle.reinit], fun _ => ?_, ?_, id⟩
    · simp [Lifecycle.apply, Lifecycle.reinit]
    · intro filled
      simpa [Lifecycle.apply, Lifecycle.reinit] using filled
  | close =>
    obtain ⟨teardowns, -, closed⟩ := close_eq l
    rw [Lifecycle.apply, closed]
    exact ⟨rfl, id, id, fun _ => rfl⟩
  | rest => exact ⟨rfl, id, id, id⟩
  | turn =>
    cases queued : l.hub.queue with
    | nil =>
      simp only [Lifecycle.apply, Hub.next?, queued]
      exact ⟨rfl, id, id, id⟩
    | cons callback rest =>
      simp only [Lifecycle.apply, Hub.next?, queued]
      cases callback with
      | destroy channel => exact ⟨rfl, id, id, id⟩
      | fork =>
        have kept := Keeps.onFork { l with hub := { l.hub with queue := rest } }
        exact ⟨kept.livePid, kept.seen, kept.filled, kept.closed⟩

theorem Keeps.close (l : Lifecycle) : Keeps l l.close :=
  Keeps.apply (fun pid other => by contradiction : Change.close.Stays l.hub.livePid)

theorem Keeps.trans {later : Lifecycle} (first : Keeps l after) (second : Keeps after later) :
    Keeps l later :=
  ⟨second.livePid.trans first.livePid, fun seen => second.seen (first.seen seen),
    fun filled => second.filled (first.filled filled), fun closed => second.closed (first.closed closed)⟩

end Lifecycle

def Event.Stays (pid : Nat) (event : Event) : Prop :=
  ∀ other, event = .setPid other → other = pid

/-- Runs on which the process number never returns to a value that it had before; `past` are those values. -/
inductive Onward : List Nat → State → Prop
  | built {past : List Nat} {builder : Builder} {obstacle : Option LookupError} {hub : Hub Callback}
      {s : State} (clear : hub.IsClear) (ok : builder.build obstacle hub = .ok s)
      (new : hub.livePid ∉ past) (seen : hub.seenPid = hub.livePid ∨ hub.seenPid ∈ past) : Onward past s
  | step {past : List Nat} {s : State} {event : Event} (before : Onward past s)
      (stays : event.Stays s.hub.livePid) : Onward past (step s event)
  | fork {past : List Nat} {s : State} {pid : Nat} (before : Onward past s)
      (new : pid ∉ s.hub.livePid :: past) : Onward (s.hub.livePid :: past) (step s (.setPid pid))

open Lifecycle

variable {past : List Nat} {s : State} {event : Event} {events : List Event}

theorem Event.Stays.change {pid : Nat} (stays : event.Stays pid) (busy : Bool) :
    (event.change busy).Stays pid := by
  intro other same
  refine stays other ?_
  cases event <;> cases busy <;> simp_all [Event.change]

theorem keeps_step (stays : event.Stays s.hub.livePid) :
    Keeps s.toLifecycle (step s event).toLifecycle := by
  have kept := Keeps.apply (stays.change s.busy.isSome)
  rcases toLifecycle_step s event with same | closed
  · rw [same]
    exact kept
  · rw [closed]
    exact kept.trans (Keeps.close _)

theorem keeps_run (stays : ∀ event ∈ events, event.Stays s.hub.livePid) :
    Keeps s.toLifecycle (run s events).toLifecycle := by
  induction events generalizing s with
  | nil => exact ⟨rfl, id, id, id⟩
  | cons event rest ih =>
    have first := keeps_step (stays event (by simp))
    refine first.trans (ih ?_)
    rw [first.livePid]
    exact fun other member => stays other (by simp [member])

theorem seen_reinit (s : State) :
    (step s .reinit).hub.seenPid = (step s .reinit).hub.livePid := by
  have seen : (s.toLifecycle.apply .reinit).hub.seenPid = (s.toLifecycle.apply .reinit).hub.livePid := by
    simp [apply, reinit]
  rcases toLifecycle_step s .reinit with same | closed
  · rw [same]
    exact seen
  · rw [closed]
    exact (Keeps.close _).seen seen

namespace Onward

theorem reachable (onward : Onward past s) : Reachable s := by
  induction onward with
  | built clear ok => exact .built clear ok
  | step before stays ih => exact ih.step _
  | fork before new ih => exact ih.step _

theorem run (onward : Onward past s) (stays : ∀ event ∈ events, event.Stays s.hub.livePid) :
    Onward past (run s events) := by
  induction events generalizing s with
  | nil => exact onward
  | cons event rest ih =>
    have kept := keeps_step (stays event (by simp))
    refine ih (onward.step (stays event (by simp))) ?_
    rw [kept.livePid]
    exact fun other member => stays other (by simp [member])

theorem timely (onward : Onward past s) : Timely past s.toLifecycle ∧ Noticed s.toLifecycle := by
  induction onward with
  | @built past builder obstacle hub s clear ok new seen =>
    obtain ⟨-, config, rfl⟩ := build_eq ok
    refine ⟨⟨new, seen, ?_, ?_, ?_, ?_⟩, ?_⟩
    · exact List.forall_mem_singleton.mpr (Or.inr ⟨rfl, rfl⟩)
    · exact List.nodup_singleton _
    · exact fun _ => by simp [initial, Hub.start]
    · exact fun _ => ⟨_, List.mem_singleton.mpr rfl, rfl, rfl⟩
    · exact fun _ => Or.inl rfl
  | @step past s event before stays ih =>
    obtain ⟨timely, noticed⟩ := ih
    have stays := stays.change s.busy.isSome
    have after := timely.apply stays
    rcases toLifecycle_step s event with same | closed
    · rw [same]
      exact ⟨after, noticed.apply before.reachable.custody.alive timely stays⟩
    · rw [closed]
      exact ⟨after.close, fun opened => by rw [closed_close] at opened; contradiction⟩
  | @fork past s pid before new ih =>
    obtain ⟨timely, -⟩ := ih
    have after := timely.setPid new
    rcases toLifecycle_step s (.setPid pid) with same | closed
    · rw [same]
      exact ⟨after, timely.noticed_setPid new⟩
    · rw [closed]
      exact ⟨after.close, fun opened => by rw [closed_close] at opened; contradiction⟩

end Onward

/-- Where the process number never returns to an earlier value, at most one channel is asked for under each. If
the hub has looked since the number changed, and its queue has been empty since, then the channel in the slot is
the one that was asked for under the number as it is; or there is none, because its creation failed. -/
theorem fork_fresh (onward : Onward past s) :
    (s.creations.map Creation.pid).Nodup ∧
    ∀ draining later : List Event,
      (∀ event ∈ .reinit :: draining ++ later, event.Stays s.hub.livePid) →
      let drained := run s (.reinit :: draining)
      drained.hub.queue = [] →
      let after := run drained later
      after.closed = false → ∃ creation ∈ after.creations, creation.pid = after.hub.livePid ∧
        after.generation = creation.outcome.toOption := by
  refine ⟨onward.timely.1.once, ?_⟩
  intro draining later stays drained empty after opened
  have before : ∀ event ∈ Event.reinit :: draining, event.Stays s.hub.livePid :=
    fun event member => stays event (List.mem_append_left _ member)
  have kept : Keeps s.toLifecycle drained.toLifecycle := keeps_run before
  have still : Keeps drained.toLifecycle after.toLifecycle := by
    refine keeps_run fun event member => ?_
    rw [kept.livePid]
    exact stays event (List.mem_append_right _ member)
  have ending : Onward past after := by
    refine (onward.run before).run fun event member => ?_
    rw [kept.livePid]
    exact stays event (List.mem_append_right _ member)
  have seen : drained.hub.seenPid = drained.hub.livePid := by
    have looked := keeps_step (before .reinit (by simp))
    have since : Keeps (step s .reinit).toLifecycle drained.toLifecycle := by
      refine keeps_run fun event member => ?_
      rw [looked.livePid]
      exact before event (by simp [member])
    exact since.seen (seen_reinit s)
  have open_then : drained.closed = false := by
    by_contra closed
    rw [still.closed (by simpa using closed)] at opened
    contradiction
  have filled : drained.pid = drained.hub.livePid := by
    rcases (onward.run before).timely.2 open_then with filled | unseen | queued
    · exact filled
    · exact absurd seen unseen
    · rw [empty] at queued
      contradiction
  obtain ⟨creation, member, pid, generation⟩ := ending.timely.1.latest opened
  exact ⟨creation, member, pid.trans (still.filled filled), generation⟩

def piledUp : State :=
  run (initial { settings := {} } ((Hub.create 1).setPid 2)) [.setPid 3, .reinit, .setPid 4]

theorem onward_piledUp : Onward [3, 2, 1] piledUp := by
  have ok : Builder.build { useEnvironment := false } none ((Hub.create 1).setPid 2) =
      .ok (initial { settings := {} } ((Hub.create 1).setPid 2)) := rfl
  have built : Onward [1] (initial { settings := {} } ((Hub.create 1).setPid 2)) :=
    .built ⟨rfl, rfl, rfl⟩ ok (by decide) (by decide)
  have first : Onward [2, 1] (step (initial { settings := {} } ((Hub.create 1).setPid 2)) (.setPid 3)) :=
    built.fork (by decide)
  have looked : Onward [2, 1] (step (step (initial { settings := {} } ((Hub.create 1).setPid 2)) (.setPid 3))
      .reinit) :=
    first.step fun other same => by contradiction
  exact looked.fork (by decide)

theorem fork_fresh_piled_up :
    ∃ creation ∈ (run piledUp [.reinit, .turn, .turn, .turn]).creations,
      creation.pid = 4 ∧ some 2 = creation.outcome.toOption := by
  obtain ⟨-, fresh⟩ := fork_fresh onward_piledUp
  refine fresh [.turn, .turn, .turn] [] ?_ rfl rfl
  simp [Event.Stays]

end HostLookup.Resolver
