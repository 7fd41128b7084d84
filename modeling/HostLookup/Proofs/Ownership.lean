import HostLookup.Proofs.Reachable

/-! Who owns a channel: the slot, or one callback that tears it down. -/
namespace HostLookup.Resolver

theorem timesDestroyed_step {s : State} {event : Event} {channel : Nat}
    (changed : (step s event).timesDestroyed channel ≠ s.timesDestroyed channel) :
    event = .turn ∧ s.busy = none ∧ s.hub.queue.head? = some (.destroy channel) ∧
      (step s event).timesDestroyed channel = s.timesDestroyed channel + 1 := by
  have applied : (step s event).timesDestroyed channel =
      (s.toLifecycle.apply (event.change s.busy.isSome)).timesDestroyed channel := by
    rcases toLifecycle_step s event with same | closed
    · rw [same]
    · rw [closed, Lifecycle.timesDestroyed_close]
  rw [applied] at changed ⊢
  obtain ⟨turned, first, once⟩ := Lifecycle.timesDestroyed_apply changed
  have ran : event = .turn ∧ s.busy = none := by
    cases event <;> cases busy : s.busy <;> simp [Event.change, busy] at turned ⊢
  exact ⟨ran.1, ran.2, first, once⟩

/-- Every channel that was ever created is in the slot and no teardown of it is queued or has run, or it is out
of the slot and exactly one is. Generations count up from one with the creations that succeed, all of which
have the same settings. A teardown runs as a callback of the hub and never within another step. -/
theorem channel_owned_once {s : State} (reachable : Reachable s) :
    (∀ channel < s.created.length,
      s.channel? = some channel ∧ s.teardowns channel = 0 ∨
        s.channel? ≠ some channel ∧ s.teardowns channel = 1) ∧
    (∀ channel, s.created.length ≤ channel → s.channel? ≠ some channel ∧ s.teardowns channel = 0) ∧
    s.generations = List.range' 1 s.created.length ∧
    (∀ slot, s.slot = some slot → s.generations[slot.channel]? = some slot.generation) ∧
    (∀ creation ∈ s.creations, creation.settings = s.config.settings) ∧
    ∀ event channel, (step s event).timesDestroyed channel ≠ s.timesDestroyed channel →
      event = .turn ∧ s.busy = none ∧ s.hub.queue.head? = some (.destroy channel) ∧
        (step s event).timesDestroyed channel = s.timesDestroyed channel + 1 := by
  have custody := reachable.custody
  have count := custody.length_created
  have inside : ∀ slot, s.slot = some slot → slot.channel < s.destroyed.length := by
    intro slot found
    have := custody.newest slot found
    omega
  refine ⟨?_, ?_, ?_, ?_, custody.settings, fun event channel => timesDestroyed_step⟩
  · intro channel bound
    have times := custody.teardowns channel
    rw [count] at bound
    by_cases held : s.channel? = some channel
    · exact Or.inl ⟨held, by simpa [held] using times⟩
    · exact Or.inr ⟨held, by simpa [held, bound] using times⟩
  · intro channel beyond
    rw [count] at beyond
    refine ⟨?_, by simpa [Nat.not_lt.mpr beyond] using custody.teardowns channel⟩
    intro held
    obtain ⟨slot, found, rfl⟩ := Option.map_eq_some_iff.mp held
    exact Nat.not_lt.mpr beyond (inside slot found)
  · rw [count]
    exact custody.generations
  · intro slot found
    have newest := custody.newest slot found
    rw [custody.generations, List.getElem?_range' (inside slot found), newest.1]
    simp [Nat.add_comm]

theorem first_channel_owned_once :
    let s := run plain [.setPid 2, .reinit, .turn, .turn]
    s.channel? ≠ some 0 ∧ s.teardowns 0 = 1 := by
  obtain ⟨owned, -⟩ := channel_owned_once
    (Reachable.run reached_plain [.setPid 2, .reinit, .turn, .turn])
  refine (owned 0 (by decide)).resolve_left ?_
  rintro ⟨held, -⟩
  contradiction

end HostLookup.Resolver
