import HostLookup.Proofs.Moves

/-! Runs on which no event changes the slot. Each lookup does what its transcript says, whatever the others do. -/
namespace HostLookup.Resolver

/-- No event has changed the slot from `s₀` to `s`. -/
inductive Steadily (s₀ : State) : State → Prop
  | here : Steadily s₀ s₀
  | step {s : State} {event : Event} (before : Steadily s₀ s) (slot : (act s event).slot = s.slot) :
      Steadily s₀ (step s event)

/-- Since `before`, a lookup has followed `transcript`, as far as it came. -/
structure Along (before : List Note) (transcript : List Reply → List Note) (s : State) (id : Nat) : Prop where
  inside : id < s.nextTask
  follows : ∃ new, s.notes id = before ++ new ∧
    ((∀ replies, transcript (heard new ++ replies) = new ++ s.remainder id replies) ∧
        (new = [] ∨ s.remainder id [] = []) ∨
      s.place? id = none ∧ (new = [] ∨ new = transcript (heard new)))

variable {s₀ s t : State} {id : Nat} {before : List Note} {transcript : List Reply → List Note}

theorem heard_append (notes more : List Note) : heard (notes ++ more) = heard notes ++ heard more :=
  List.filterMap_append

namespace Along

theorem here (inside : id < s.nextTask) : Along (s.notes id) (s.remainder id) s id :=
  ⟨inside, [], by simp, Or.inl ⟨fun _ => rfl, Or.inl rfl⟩⟩

theorem notes (along : Along before transcript s id) :
    ∃ new, s.notes id = before ++ new ∧ (new = [] ∨ new = transcript (heard new)) := by
  obtain ⟨new, noted, ⟨follows, stops⟩ | ⟨-, whole⟩⟩ := along.follows
  · refine ⟨new, noted, stops.imp_right fun nothing => ?_⟩
    have all := follows []
    rw [List.append_nil, nothing, List.append_nil] at all
    exact all.symm
  · exact ⟨new, noted, whole⟩

theorem onward {new : List Note} {rest : List Reply → List Note} (inside : id < t.nextTask)
    (follows : ∀ replies, transcript (heard new ++ replies) = new ++ rest replies)
    (leads : Leads (before ++ new) t id rest) : Along before transcript t id := by
  obtain ⟨more, noted, unheard, stops, onward⟩ := leads
  refine ⟨inside, new ++ more, by rw [noted, List.append_assoc], Or.inl ⟨fun replies => ?_, Or.inr stops⟩⟩
  rw [heard_append, unheard, List.append_nil, follows, onward, List.append_assoc]

theorem step (along : Along before transcript s id) (coherent : Coherent s) {event : Event}
    (slot : (act s event).slot = s.slot) : Along before transcript (step s event) id := by
  have inside := along.inside.trans_le (nextTask_le_step s event)
  have stands := along.notes
  obtain ⟨new, noted, follows⟩ := along.follows
  cases moves_step coherent event id with
  | rests same remainder kept =>
    refine ⟨inside, new, same.trans noted, ?_⟩
    rw [remainder slot]
    exact follows.imp_right fun gone => ⟨(kept (Or.inl gone.1)).trans gone.1, gone.2⟩
  | starts call next new => exact absurd new along.inside.ne
  | drops same gone =>
    obtain ⟨all, kept, whole⟩ := stands
    exact ⟨inside, all, same.trans kept, Or.inr ⟨gone, whole⟩⟩
  | begins found unread leads =>
    obtain ⟨follows, -⟩ | ⟨gone, -⟩ := follows
    · exact onward inside follows (noted ▸ leads)
    · exact absurd gone found
  | @hears reply rest found due takes leads =>
    obtain ⟨follows, -⟩ | ⟨gone, -⟩ := follows
    · have after : ∀ replies, transcript (heard (new ++ [.heard reply]) ++ replies) =
          new ++ [.heard reply] ++ rest replies := by
        intro replies
        rw [heard_append, List.append_assoc, List.append_assoc]
        exact (follows (reply :: replies)).trans (congrArg (new ++ ·) (takes replies))
      rw [noted, List.append_assoc] at leads
      exact onward inside after leads
    · exact absurd gone found

end Along

theorem settleOwner_startTask (s : State) (call : Call) : (s.startTask call).settleOwner = s.startTask call := by
  rcases settleOwner_unused (s.startTask call) with same | ⟨-, gone, -⟩
  · exact same
  · rw [State.startTask, State.tasks_wake] at gone
    simp at gone

theorem step_start {s : State} (owned : s.released = false) (call : Call) :
    step s (.start call) = s.startTask call := by
  rw [step, act, if_neg (by simp [owned]), settleOwner_startTask]

namespace Steadily

theorem reachable (steadily : Steadily s₀ s) (reachable : Reachable s₀) : Reachable s := by
  induction steadily with
  | here => exact reachable
  | step before slot ih => exact ih.step _

theorem config (steadily : Steadily s₀ s) : s.config = s₀.config := by
  induction steadily with
  | here => rfl
  | step before slot ih => exact (config_step _ _).trans ih

theorem slot (steadily : Steadily s₀ s) : s.slot = s₀.slot ∨ s.released = true := by
  induction steadily with
  | here => exact Or.inl rfl
  | @step s event before slot ih =>
    rcases ih with same | released
    · rcases settleOwner_unused (act s event) with open_ | ⟨released, -, -, closed⟩
      · exact Or.inl (by rw [Resolver.step, open_, slot, same])
      · exact Or.inr ((retains_settleOwner _).released released)
    · exact Or.inr (released_step released event)

theorem along (steadily : Steadily s₀ s) (reachable : Reachable s₀) (inside : id < s₀.nextTask) :
    Along (s₀.notes id) (s₀.remainder id) s id := by
  induction steadily with
  | here => exact .here inside
  | step before slot ih => exact ih.step (before.reachable reachable).coherent slot

theorem along_started (steadily : Steadily s₀ s) (reachable : Reachable s₀) (later : s₀.nextTask ≤ id)
    (inside : id < s.nextTask) :
    ∃ call, Along [.started call] ((call.plan s₀.config.convention).transcript s₀.slot) s id := by
  induction steadily with
  | here => exact absurd inside (Nat.not_lt.mpr later)
  | @step s event before slot ih =>
    have coherent := (before.reachable reachable).coherent
    rcases Nat.lt_or_ge id s.nextTask with known | beyond
    · obtain ⟨call, along⟩ := ih known
      exact ⟨call, along.step coherent slot⟩
    · rcases apart_act s event with ⟨same, -⟩ | ⟨unreleased, call, -, started⟩
      · have next : (Resolver.step s event).nextTask = s.nextTask := (retains_settleOwner _).nextTask.trans same
        omega
      · have stepped : Resolver.step s event = s.startTask call := by
          rw [Resolver.step, started, settleOwner_startTask]
        rw [stepped] at inside ⊢
        obtain rfl : id = s.nextTask := by
          rw [State.nextTask_startTask] at inside
          omega
        have notes : (s.startTask call).notes s.nextTask = [.started call] := by
          rw [notes_startTask, (before.reachable reachable).notes_beyond le_rfl]
          rfl
        have remainder := remainder_startTask coherent call
        have unchanged := before.slot.resolve_right (by simp [unreleased])
        rw [before.config, unchanged] at remainder
        refine ⟨call, ?_⟩
        rw [← notes, ← remainder]
        exact .here inside

end Steadily

end HostLookup.Resolver
