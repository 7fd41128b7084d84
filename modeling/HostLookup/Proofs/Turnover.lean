import HostLookup.Proofs.Custody

/-! How the channels turn over: what is left of them when one leaves the slot, and what a notice makes of them
when it finds another process number. -/
namespace HostLookup.Resolver.Lifecycle

theorem detach_eq (l : Lifecycle) : ∃ teardowns : List Callback,
    (∀ callback ∈ teardowns, ∃ channel, callback = .destroy channel) ∧
    l.detach = { l with slot := none, hub := { l.hub with queue := l.hub.queue ++ teardowns } } := by
  cases held : l.slot with
  | none =>
    have same : l.detach = l := by simp [detach, held]
    refine ⟨[], by simp, ?_⟩
    rw [same, List.append_nil, ← held]
  | some slot =>
    have left : l.detach = { l with slot := none, hub := l.hub.push (.destroy slot.channel) } := by
      simp [detach, held, push]
    rw [left]
    unfold Hub.push
    split
    · exact ⟨[.destroy slot.channel], by simp, rfl⟩
    · exact ⟨[], by simp, by rw [List.append_nil]⟩

theorem close_eq (l : Lifecycle) : ∃ teardowns : List Callback,
    (∀ callback ∈ teardowns, ∃ channel, callback = .destroy channel) ∧
    l.close = { l with
      closed := true
      slot := none
      hub := { l.hub.stop l.watcher with queue := l.hub.queue ++ teardowns } } :=
  detach_eq { l with closed := true, hub := l.hub.stop l.watcher }

theorem closed_close (l : Lifecycle) : l.close.closed = true := by
  obtain ⟨teardowns, -, closed⟩ := close_eq l
  rw [closed]

theorem install_eq (l : Lifecycle) : ∃ outcome, l.install.generation = outcome.toOption ∧
    l.install.creations = l.creations ++ [⟨l.config.settings, l.hub.livePid, outcome⟩] ∧
    l.install.hub = l.hub ∧ l.install.watcher = l.watcher ∧ l.install.closed = l.closed ∧
    l.install.config = l.config ∧ l.destroyed.length ≤ l.install.destroyed.length := by
  cases obstacle : l.obstacle with
  | some e => exact ⟨.error e, by simp [install, obstacle, generation, Except.toOption]⟩
  | none => exact ⟨.ok l.nextGeneration, by simp [install, obstacle, generation, Except.toOption]⟩

structure Rebuilt (l after : Lifecycle) : Prop where
  behind : l.pid ≠ l.hub.livePid
  opened : l.closed = false
  closed : after.closed = false
  pid : after.pid = l.hub.livePid
  livePid : after.hub.livePid = l.hub.livePid
  seenPid : after.hub.seenPid = l.hub.seenPid
  watchers : after.hub.watchers = l.hub.watchers
  watcher : after.watcher = l.watcher
  config : after.config = l.config
  destroyed : l.destroyed.length ≤ after.destroyed.length
  created : ∃ outcome, after.generation = outcome.toOption ∧
    after.creations = l.creations ++ [⟨l.config.settings, l.hub.livePid, outcome⟩]

theorem onFork_cases (l : Lifecycle) :
    (l.onFork = l ∧ (l.pid = l.hub.livePid ∨ l.closed = true)) ∨ Rebuilt l l.onFork := by
  obtain ⟨teardowns, -, left⟩ := detach_eq l
  obtain ⟨outcome, generation, creations, hub, watcher, closed, config, length⟩ := install_eq l.detach
  unfold onFork
  split
  · next kept =>
    refine Or.inl ⟨rfl, ?_⟩
    rcases Bool.or_eq_true_iff.mp kept with same | closed
    · exact Or.inl (of_decide_eq_true same).symm
    · exact Or.inr closed
  · next behind =>
    simp only [Bool.or_eq_true, decide_eq_true_eq, not_or, Bool.not_eq_true] at behind
    rw [left] at hub creations watcher closed config length
    refine Or.inr ⟨Ne.symm behind.1, behind.2, ?_, rfl, ?_, ?_, ?_, ?_, ?_, ?_, outcome, generation, ?_⟩
    · rw [left, closed, behind.2]
    · rw [left, hub]
    · rw [left, hub]
    · rw [left, hub]
    · rw [left, watcher]
    · rw [left, config]
    · rw [left]
      exact length
    · rw [left, creations]

theorem kept_onFork (l : Lifecycle) :
    l.onFork.config = l.config ∧ l.destroyed.length ≤ l.onFork.destroyed.length := by
  rcases onFork_cases l with ⟨same, -⟩ | rebuilt
  · rw [same]
    exact ⟨rfl, le_rfl⟩
  · exact ⟨rebuilt.config, rebuilt.destroyed⟩

theorem config_apply (l : Lifecycle) (change : Change) : (l.apply change).config = l.config := by
  cases change with
  | close =>
    obtain ⟨teardowns, -, closed⟩ := close_eq l
    rw [apply, closed]
  | turn =>
    unfold apply
    dsimp only
    split
    · rfl
    · next callback hub _ =>
      cases callback with
      | destroy channel => rfl
      | fork => exact (kept_onFork { l with hub }).1
  | _ => rfl

end HostLookup.Resolver.Lifecycle
