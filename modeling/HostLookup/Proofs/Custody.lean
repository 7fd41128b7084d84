import HostLookup.Resolver.Lifecycle
import Mathlib.Data.List.Range
import Mathlib.Data.List.Count

/-! Custody of the channels. A channel is either in the slot, and nothing tears it down, or it has left the
slot, and one callback to tear it down is queued or has run. Generations are given out in order. -/
namespace HostLookup.Resolver.Lifecycle

def channel? (l : Lifecycle) : Option Nat :=
  l.slot.map (·.channel)

def timesQueued (l : Lifecycle) (channel : Nat) : Nat :=
  l.hub.queue.count (.destroy channel)

def timesDestroyed (l : Lifecycle) (channel : Nat) : Nat :=
  l.destroyed[channel]?.getD 0

def teardowns (l : Lifecycle) (channel : Nat) : Nat :=
  l.timesQueued channel + l.timesDestroyed channel

inductive Change where
  | setPid (pid : Nat)
  | obstruct (obstacle : Option LookupError)
  | reinit
  | close
  | turn
  | rest

def runCallback (l : Lifecycle) : Callback → Lifecycle
  | .destroy channel => l.destroy channel
  | .fork => l.onFork

def apply (l : Lifecycle) : Change → Lifecycle
  | .setPid pid => l.setPid pid
  | .obstruct obstacle => { l with obstacle }
  | .reinit => l.reinit
  | .close => l.close
  | .turn =>
    match l.hub.next? with
    | none => l
    | some (callback, hub) => runCallback { l with hub } callback
  | .rest => l

/-- What always holds of the channels on a hub that runs. -/
structure Custody (l : Lifecycle) : Prop where
  alive : l.hub.alive = true
  notices : ∀ entry ∈ l.hub.watchers, entry.2 = .fork
  next : l.nextGeneration = l.destroyed.length + 1
  generations : l.generations = List.range' 1 l.destroyed.length
  settings : ∀ creation ∈ l.creations, creation.settings = l.config.settings
  newest : ∀ slot, l.slot = some slot →
    slot.generation = slot.channel + 1 ∧ slot.channel + 1 = l.destroyed.length
  teardowns : ∀ channel, l.teardowns channel =
    if channel < l.destroyed.length ∧ l.channel? ≠ some channel then 1 else 0

theorem length_created (l : Lifecycle) : l.created.length = l.generations.length := by
  unfold created Lifecycle.generations
  induction l.creations with
  | nil => rfl
  | cons creation rest ih =>
    cases outcome : creation.outcome.toOption <;> simp [outcome, ih]

theorem Custody.length_created {l : Lifecycle} (custody : Custody l) :
    l.created.length = l.destroyed.length := by
  rw [Lifecycle.length_created, custody.generations, List.length_range']

theorem Custody.detach {l : Lifecycle} (custody : Custody l) : Custody l.detach := by
  cases held : l.slot with
  | none => simpa [Lifecycle.detach, held] using custody
  | some slot =>
    have left : l.detach = push { l with slot := none } (.destroy slot.channel) := by
      simp [Lifecycle.detach, held]
    rw [left]
    refine ⟨?_, ?_, custody.next, custody.generations, custody.settings, ?_, ?_⟩
    · simpa [push] using custody.alive
    · simpa [push] using custody.notices
    · intro other found
      simp [push] at found
    · intro channel
      have before := custody.teardowns channel
      simp only [Lifecycle.teardowns, timesQueued, timesDestroyed, channel?, held, Option.map_some,
        push, Hub.queue_push custody.alive, List.count_append, Option.map_none] at before ⊢
      -- The channel that leaves is the one whose teardown is queued now.
      by_cases same : slot.channel = channel
      · subst same
        have inside : slot.channel < l.destroyed.length := by
          have := custody.newest slot held
          omega
        simp [inside] at before ⊢
        omega
      · simp [same] at before ⊢
        omega

theorem slot_detach (l : Lifecycle) : l.detach.slot = none := by
  cases held : l.slot <;> simp [detach, held, push]

theorem Custody.install {l : Lifecycle} (custody : Custody l) (empty : l.slot = none) :
    Custody l.install := by
  cases obstacle : l.obstacle with
  | some e =>
    refine ⟨?_, ?_, ?_, ?_, ?_, ?_, ?_⟩
    · simpa [Lifecycle.install, obstacle] using custody.alive
    · simpa [Lifecycle.install, obstacle] using custody.notices
    · simpa [Lifecycle.install, obstacle] using custody.next
    · simpa [Lifecycle.install, obstacle, Lifecycle.generations, Except.toOption] using
        custody.generations
    · intro creation member
      simp only [Lifecycle.install, obstacle, List.mem_append, List.mem_singleton] at member ⊢
      rcases member with earlier | rfl
      · exact custody.settings creation earlier
      · rfl
    · intro slot found
      simp [Lifecycle.install, obstacle] at found
    · intro channel
      have before := custody.teardowns channel
      simpa [Lifecycle.install, obstacle, Lifecycle.teardowns, timesQueued, timesDestroyed, channel?,
        empty] using before
  | none =>
    refine ⟨?_, ?_, ?_, ?_, ?_, ?_, ?_⟩
    · simpa [Lifecycle.install, obstacle] using custody.alive
    · simpa [Lifecycle.install, obstacle] using custody.notices
    · simpa [Lifecycle.install, obstacle] using custody.next
    · calc l.install.generations
          = l.generations ++ [l.nextGeneration] := by
            simp [Lifecycle.install, obstacle, Lifecycle.generations, Except.toOption]
        _ = List.range' 1 (l.destroyed.length + 1) := by
            rw [custody.generations, custody.next, List.range'_1_concat, Nat.add_comm 1]
        _ = List.range' 1 l.install.destroyed.length := by
            simp [Lifecycle.install, obstacle]
    · intro creation member
      simp only [Lifecycle.install, obstacle, List.mem_append, List.mem_singleton] at member ⊢
      rcases member with earlier | rfl
      · exact custody.settings creation earlier
      · rfl
    · intro slot found
      simp only [Lifecycle.install, obstacle, Option.some.injEq] at found
      subst found
      simp [Lifecycle.install, obstacle, custody.next]
    · intro channel
      have before := custody.teardowns channel
      simp only [Lifecycle.install, obstacle, Lifecycle.teardowns, timesQueued, timesDestroyed,
        channel?, empty, Option.map_none, Option.map_some, List.length_append, List.length_singleton,
        List.getElem?_append] at before ⊢
      -- The new channel is the last one, and its counter starts at zero.
      rcases Nat.lt_trichotomy channel l.destroyed.length with less | same | more
      · simp [less, Nat.ne_of_gt less, Nat.lt_succ_of_lt less] at before ⊢
        omega
      · subst same
        simp at before ⊢
        omega
      · simp [Nat.not_lt.mpr (Nat.le_of_lt more), Nat.ne_of_lt more] at before ⊢
        grind

theorem Custody.of_hub {l : Lifecycle} (custody : Custody l) (hub : Hub Callback)
    (alive : hub.alive = true) (notices : ∀ entry ∈ hub.watchers, entry.2 = .fork)
    (queue : ∀ channel, hub.queue.count (.destroy channel) = l.timesQueued channel) :
    Custody { l with hub } := by
  refine ⟨alive, notices, custody.next, custody.generations, custody.settings, custody.newest, ?_⟩
  intro channel
  have before := custody.teardowns channel
  simp only [Lifecycle.teardowns, timesQueued, timesDestroyed, channel?] at before queue ⊢
  rw [queue channel]
  exact before

theorem Custody.aside {l : Lifecycle} (custody : Custody l) (pid : Nat) (closed : Bool)
    (obstacle : Option LookupError) : Custody { l with pid, closed, obstacle } :=
  ⟨custody.alive, custody.notices, custody.next, custody.generations, custody.settings, custody.newest,
    custody.teardowns⟩

theorem Custody.close {l : Lifecycle} (custody : Custody l) : Custody l.close := by
  have notices : ∀ entry ∈ (l.hub.stop l.watcher).watchers, entry.2 = .fork :=
    fun entry member => custody.notices entry (List.mem_filter.mp member).1
  have stopped := custody.of_hub (l.hub.stop l.watcher) custody.alive notices fun _ => rfl
  exact (stopped.aside l.pid true l.obstacle).detach

theorem Custody.onFork {l : Lifecycle} (custody : Custody l) : Custody l.onFork := by
  unfold Lifecycle.onFork
  split
  · exact custody
  · exact (custody.detach.install (slot_detach l)).aside _ _ _

theorem Custody.reinit {l : Lifecycle} (custody : Custody l) : Custody l.reinit := by
  refine custody.of_hub l.hub.reinit.2 (by simpa using custody.alive) (by simpa using custody.notices) ?_
  intro channel
  unfold Hub.reinit
  split
  · rfl
  · have absent : (l.hub.watchers.map (·.2)).count (.destroy channel) = 0 := by
      rw [List.count_eq_zero]
      intro member
      obtain ⟨entry, inside, equal⟩ := List.mem_map.mp member
      simp [custody.notices entry inside] at equal
    simp only [Hub.queue_pushAll, custody.alive, if_true, List.count_append, absent, timesQueued,
      Nat.add_zero]

theorem Custody.turn {l : Lifecycle} (custody : Custody l) : Custody (l.apply .turn) := by
  cases queued : l.hub.queue with
  | nil => simpa [apply, Hub.next?, queued] using custody
  | cons callback rest =>
    cases callback with
    | fork =>
      have popped := custody.of_hub { l.hub with queue := rest } custody.alive custody.notices
        (fun channel => by simp [timesQueued, queued])
      simpa [apply, Hub.next?, queued, runCallback] using popped.onFork
    | destroy gone =>
      refine ⟨?_, ?_, ?_, ?_, ?_, ?_, ?_⟩
      · simpa [apply, Hub.next?, queued, runCallback, destroy] using custody.alive
      · simpa [apply, Hub.next?, queued, runCallback, destroy] using custody.notices
      · simpa [apply, Hub.next?, queued, runCallback, destroy] using custody.next
      · simpa [apply, Hub.next?, queued, runCallback, destroy, Lifecycle.generations] using
          custody.generations
      · simpa [apply, Hub.next?, queued, runCallback, destroy] using custody.settings
      · simpa [apply, Hub.next?, queued, runCallback, destroy] using custody.newest
      · intro channel
        have before := custody.teardowns channel
        simp only [Lifecycle.teardowns, timesQueued, timesDestroyed, queued, List.count_cons] at before
        simp only [apply, Hub.next?, queued, runCallback, destroy, Lifecycle.teardowns, timesQueued,
          timesDestroyed, channel?, List.length_modify, List.getElem?_modify] at before ⊢
        by_cases same : gone = channel
        · subst same
          have inside : gone < l.destroyed.length := by
            by_contra outside
            simp [outside] at before
          simp [inside] at before ⊢
          omega
        · simp [same] at before ⊢
          exact before

theorem Custody.apply {l : Lifecycle} (custody : Custody l) (change : Change) :
    Custody (l.apply change) := by
  cases change with
  | setPid pid =>
    exact custody.of_hub (l.hub.setPid pid) custody.alive custody.notices fun _ => rfl
  | obstruct obstacle => exact custody.aside l.pid l.closed obstacle
  | reinit => exact custody.reinit
  | close => exact custody.close
  | turn => exact custody.turn
  | rest => exact custody

/-! Only the hub tears a channel down. -/

theorem timesDestroyed_detach (l : Lifecycle) (channel : Nat) :
    l.detach.timesDestroyed channel = l.timesDestroyed channel := by
  cases held : l.slot <;> simp [detach, held, push, timesDestroyed]

theorem timesDestroyed_close (l : Lifecycle) (channel : Nat) :
    l.close.timesDestroyed channel = l.timesDestroyed channel :=
  timesDestroyed_detach _ channel

theorem timesDestroyed_install (l : Lifecycle) (channel : Nat) :
    l.install.timesDestroyed channel = l.timesDestroyed channel := by
  cases obstacle : l.obstacle with
  | some e => simp [install, obstacle, timesDestroyed]
  | none =>
    simp only [install, obstacle, timesDestroyed, List.getElem?_append]
    split
    · rfl
    · next outside =>
      rw [List.getElem?_eq_none (Nat.not_lt.mp outside)]
      cases channel - l.destroyed.length <;> rfl

theorem timesDestroyed_onFork (l : Lifecycle) (channel : Nat) :
    l.onFork.timesDestroyed channel = l.timesDestroyed channel := by
  unfold onFork
  split
  · rfl
  · exact (timesDestroyed_install l.detach channel).trans (timesDestroyed_detach l channel)

theorem timesDestroyed_destroy {l : Lifecycle} {gone channel : Nat}
    (changed : (l.destroy gone).timesDestroyed channel ≠ l.timesDestroyed channel) :
    gone = channel ∧ (l.destroy gone).timesDestroyed channel = l.timesDestroyed channel + 1 := by
  simp only [destroy, timesDestroyed, List.getElem?_modify] at changed ⊢
  cases found : l.destroyed[channel]? with
  | none => simp [found] at changed
  | some times =>
    by_cases same : gone = channel
    · simp [same]
    · simp [found, same] at changed

theorem timesDestroyed_apply {l : Lifecycle} {change : Change} {channel : Nat}
    (changed : (l.apply change).timesDestroyed channel ≠ l.timesDestroyed channel) :
    change = .turn ∧ l.hub.queue.head? = some (.destroy channel) ∧
      (l.apply change).timesDestroyed channel = l.timesDestroyed channel + 1 := by
  cases change with
  | setPid pid => exact absurd rfl changed
  | obstruct obstacle => exact absurd rfl changed
  | reinit => exact absurd rfl changed
  | rest => exact absurd rfl changed
  | close => exact absurd (timesDestroyed_close l channel) changed
  | turn =>
    cases queued : l.hub.queue with
    | nil => simp [apply, Hub.next?, queued] at changed
    | cons callback rest =>
      simp only [apply, Hub.next?, queued] at changed ⊢
      cases callback with
      | fork => exact absurd (timesDestroyed_onFork _ channel) changed
      | destroy gone =>
        obtain ⟨rfl, once⟩ := timesDestroyed_destroy changed
        exact ⟨trivial, rfl, once⟩

end HostLookup.Resolver.Lifecycle
