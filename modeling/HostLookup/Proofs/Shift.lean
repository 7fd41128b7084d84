import HostLookup.Proofs.Course

/-! Shifts of the slot. Whatever happens to the channels, the slot keeps its generation, or is emptied, or gets
a generation that was never given out before. What holds of a lookup holds across a shift: its attempt under
way counts one change more, and is no longer on the channel that it began on. -/
namespace HostLookup.Resolver

/-- How the slot of `after` comes from that of `l`. -/
structure Shift (l after : Lifecycle) : Prop where
  next : l.nextGeneration ≤ after.nextGeneration
  generation : after.generation = l.generation ∨ after.generation = none ∨
    ∃ g, l.nextGeneration ≤ g ∧ after.generation = some g

namespace Shift

theorem older {l after : Lifecycle} (shift : Shift l after) {g : Nat} (bound : g < l.nextGeneration)
    (live : after.generation = some g) : l.generation = some g := by
  rcases shift.generation with same | emptied | ⟨new, newer, filled⟩
  · rw [← same, live]
  · simp [live] at emptied
  · rw [live, Option.some.injEq] at filled
    omega

theorem of_eq {l after : Lifecycle} (slot : after.slot = l.slot)
    (next : after.nextGeneration = l.nextGeneration) : Shift l after :=
  ⟨next.ge, Or.inl (by rw [Lifecycle.generation, slot, Lifecycle.generation])⟩

theorem detach (l : Lifecycle) : Shift l l.detach := by
  refine ⟨?_, Or.inr (Or.inl ?_)⟩
  · cases held : l.slot <;> simp [Lifecycle.detach, held, Lifecycle.push]
  · rw [Lifecycle.generation, Lifecycle.slot_detach, Option.map_none]

theorem install (l : Lifecycle) : Shift l l.install := by
  cases obstacle : l.obstacle with
  | some e => exact ⟨by simp [Lifecycle.install, obstacle], Or.inr (Or.inl (by
      simp [Lifecycle.install, obstacle, Lifecycle.generation]))⟩
  | none => exact ⟨by simp [Lifecycle.install, obstacle], Or.inr (Or.inr ⟨_, le_rfl, by
      simp [Lifecycle.install, obstacle, Lifecycle.generation]⟩)⟩

theorem close (l : Lifecycle) : Shift l l.close :=
  let shift := detach { l with closed := true, hub := l.hub.stop l.watcher }
  ⟨shift.next, shift.generation⟩

theorem onFork (l : Lifecycle) : Shift l l.onFork := by
  unfold Lifecycle.onFork
  split
  · exact of_eq rfl rfl
  · have emptied := detach l
    have filled := install l.detach
    refine ⟨emptied.next.trans filled.next, Or.inr ?_⟩
    rcases filled.generation with same | gone | ⟨g, bound, new⟩
    · exact Or.inl (by
        change l.detach.install.generation = none
        rw [same, Lifecycle.generation, Lifecycle.slot_detach, Option.map_none])
    · exact Or.inl gone
    · exact Or.inr ⟨g, emptied.next.trans bound, new⟩

theorem apply (l : Lifecycle) (change : Lifecycle.Change) : Shift l (l.apply change) := by
  cases change with
  | setPid pid => exact of_eq rfl rfl
  | obstruct obstacle => exact of_eq rfl rfl
  | reinit => exact of_eq rfl rfl
  | rest => exact of_eq rfl rfl
  | close => exact close l
  | turn =>
    unfold Lifecycle.apply
    dsimp only
    split
    · exact of_eq rfl rfl
    · next callback hub _ =>
      cases callback with
      | destroy channel => exact of_eq rfl rfl
      | fork =>
        have shift := onFork { l with hub }
        exact ⟨shift.next, shift.generation⟩

end Shift

theorem nextGeneration_step (s : State) (event : Event) :
    s.nextGeneration ≤ (step s event).nextGeneration := by
  have shift := Shift.apply s.toLifecycle (event.change s.busy.isSome)
  rcases toLifecycle_step s event with same | closed
  · rw [same]
    exact shift.next
  · rw [closed]
    exact shift.next.trans (Shift.close _).next

variable {l after : Lifecycle} {h : History} {call : Call} {loop : Loop} {generation : Option Nat}

namespace History

theorem Idle.across (idle : h.Idle call) : (h.across l after).Idle call := by
  unfold History.across
  split
  · exact idle
  · exact ⟨idle.called, idle.conclusion, by
      simp [History.disturb, idle.trials, List.modifyLast, List.modifyLast.go]⟩

theorem Under.across {rest : Attempt} {extra further : Trial → Prop} (shift : Shift l after)
    (under : h.Under l call loop generation rest extra)
    (served : ∀ t, extra t → t.channels = [] → generation = none → after.generation = l.generation)
    (still : ∀ t changes, extra t → further { t with changes }) :
    (h.across l after).Under after call loop generation rest further := by
  obtain ⟨past, last, trials, before, chained, current, holds⟩ := under.trials
  have bound : ∀ g, generation = some g → g < after.nextGeneration := fun g given =>
    (current.bound g given).trans_le shift.next
  unfold History.across
  split
  · next same =>
    refine ⟨under.called, under.conclusion, under.serves, under.orderly, past, last, trials, before,
      chained, ?_, still last _ holds⟩
    exact ⟨current.start, current.ending, same ▸ current.changes, bound, current.lookup,
      current.faithful, current.heeds⟩
  · next differs =>
    have disturbed : last.disturb = { last with changes := last.changes + 1 } := by
      simp [Trial.disturb, current.ending]
    refine ⟨under.called, under.conclusion, under.serves, under.orderly, past,
      { last with changes := last.changes + 1 }, ?_, before, chained, ?_, still last _ holds⟩
    · rw [History.disturb, trials, List.modifyLast_concat, disturbed]
    · refine ⟨current.start, current.ending, ?_, bound, current.lookup, current.faithful,
        current.heeds⟩
      -- The generation of the begin is gone for good.
      suffices gone : after.generation ≠ generation by simpa using gone
      intro back
      cases given : generation with
      | none => exact differs (served last holds (current.channels_of_none given) given).symm
      | some g =>
        rw [given] at back
        exact differs ((shift.older (current.bound g given) back).trans back.symm)

theorem Lawful.across (lawful : h.Lawful call) : (h.across l after).Lawful call := by
  unfold History.across
  split
  · exact lawful
  · rcases lawful with nothing | ⟨first, past, last, trials, native, before, chained, latest⟩
    · exact Or.inl (by simp [History.disturb, nothing, List.modifyLast, List.modifyLast.go])
    · refine Or.inr ⟨first, past, last.disturb, ?_, native, before, ?_, ?_⟩
      · rw [History.disturb, trials, List.modifyLast_concat]
      · rw [Trial.start_disturb]
        exact chained
      · cases ending : last.ending with
        | some ended =>
          have disturbed : last.disturb = last := by simp [Trial.disturb, ending]
          rw [disturbed]
          exact latest
        | none =>
          have disturbed : last.disturb = { last with changes := last.changes + 1 } := by
            simp [Trial.disturb, ending]
          rw [disturbed]
          refine ⟨latest.unfinished, ?_, latest.lookup, latest.faithful, latest.unserved, latest.heeded⟩
          intro finish result ended
          simp [ending] at ended

end History

theorem Stands.across {stage : Stage} (shift : Shift l after) (stands : Stands l h stage) :
    Stands after (h.across l after) stage := by
  cases stage with
  | fresh call => exact History.Idle.across stands
  | waiting loop generation query next reply =>
    obtain ⟨call, under⟩ := stands
    exact ⟨call, under.across shift (fun t asked nothing => absurd nothing asked) fun t changes asked =>
      asked⟩

theorem Awaits.across {request : Request} (shift : Shift l after)
    (quiet : after.generation = l.generation ∨ after.generation = none) (awaits : Awaits l h request) :
    Awaits after (h.across l after) request := by
  cases request with
  | plan query next =>
    obtain ⟨call, idle, rest⟩ := awaits
    exact ⟨call, idle.across, rest⟩
  | engine loop generation channel query next =>
    obtain ⟨call, under⟩ := awaits
    exact ⟨call, under.across shift (fun t asked nothing => absurd nothing asked) fun t changes asked =>
      asked⟩
  | native loop generation query next =>
    obtain ⟨call, under⟩ := awaits
    refine ⟨call, under.across shift ?_ ?_⟩
    · intro t unsent channels empty
      obtain ⟨unchanged, -⟩ := unsent channels
      rw [empty, or_self] at unchanged
      rcases quiet with same | gone
      · exact same
      · rw [gone, unchanged]
    · intro t changes unsent channels
      obtain ⟨unchanged, needs⟩ := unsent channels
      refine ⟨?_, needs⟩
      rcases quiet with same | gone
      · rw [same]
        exact unchanged
      · exact Or.inl gone

end HostLookup.Resolver
