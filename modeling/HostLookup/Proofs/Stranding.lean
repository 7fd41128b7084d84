import HostLookup.Proofs.Bystanders
import HostLookup.Proofs.Teardown

/-! What becomes of a lookup: it runs, or it has a result, or it was cancelled. When nothing is left to run, those
that have no result wait for the channel in the slot. -/
namespace HostLookup.Resolver

def State.Runs (s : State) (id : Nat) : Prop :=
  (∃ task ∈ s.tasks, task.id = id ∧ task.cancelled = false) ∨ ∃ request, s.busy = some (id, request)

def State.Accounts (s : State) (id : Nat) : Prop :=
  s.Runs id ∨ ∃ result, (id, result) ∈ s.results

variable {s t : State} {id : Nat} {event : Event}

theorem Silent.results_subset (silent : Silent s t) : s.results ⊆ t.results := by
  obtain ⟨new, journal, -⟩ := silent
  rw [State.results, State.results, journal, List.filterMap_append]
  exact List.subset_append_left _ _

theorem results_subset_step (s : State) (event : Event) : s.results ⊆ (step s event).results := by
  have noted : ∀ id reply, s.results ⊆ (s.note id (.heard reply)).results := by
    intro id reply
    simp [State.results, State.note, Entry.result?]
  cases hears_step s event with
  | nothing silent => exact silent.results_subset
  | native silent => exact List.Subset.trans (noted _ _) silent.results_subset
  | prompt _ _ _ silent => exact List.Subset.trans (noted _ _) silent.results_subset
  | stored _ _ silent => exact List.Subset.trans (noted _ _) silent.results_subset

theorem Goes.accounts (goes : Goes id s t) : t.Accounts id := by
  induction goes with
  | @stops s request live => exact Or.inl (Or.inr ⟨request, rfl⟩)
  | @concludes s result =>
    refine Or.inr ⟨result, ?_⟩
    simp [State.results, State.conclude, State.note, Entry.result?]
  | begins rest ih => exact ih
  | ends rest ih => exact ih

theorem State.Runs.retained (runs : s.Runs id) (retains : Retains s t) : t.Runs id := by
  rcases runs with ⟨task, member, own, going⟩ | ⟨request, asked⟩
  · obtain ⟨later, among, same, still⟩ := retains.remains member
    exact Or.inl ⟨later, among, same.trans own, still.trans going⟩
  · exact Or.inr ⟨request, retains.busy.trans asked⟩

theorem State.Runs.cancel (runs : s.Runs id) {other : Nat} (different : other ≠ id) :
    (s.cancel other).Runs id := by
  rcases runs with ⟨task, member, own, going⟩ | asked
  · unfold State.cancel
    split
    · exact Or.inl ⟨task, member, own, going⟩
    · refine Or.inl ⟨task, ?_, own, going⟩
      rw [State.tasks_wake]
      exact List.mem_map.mpr ⟨task, member, if_neg fun same => different (same.symm.trans own)⟩
  · have quiet := Quiet.cancel s other
    rw [← quiet.busy] at asked
    exact Or.inr asked

theorem State.Runs.startTask (runs : s.Runs id) (call : Call) : (s.startTask call).Runs id := by
  rcases runs with ⟨task, member, own, going⟩ | asked
  · refine Or.inl ⟨task, ?_, own, going⟩
    rw [State.startTask, State.tasks_wake]
    exact List.mem_append_left _ member
  · have quiet := Quiet.startTask s call
    rw [← quiet.busy] at asked
    exact Or.inr asked

theorem State.runs_startTask (s : State) (call : Call) : (s.startTask call).Runs s.nextTask := by
  refine Or.inl ⟨⟨s.nextTask, .fresh call, false⟩, ?_, rfl, rfl⟩
  rw [State.startTask, State.tasks_wake]
  exact List.mem_append_right _ (List.mem_singleton.mpr rfl)

theorem State.Runs.poll (runs : s.Runs id) (coherent : Coherent s) (idle : s.busy = none) (worker : Nat) :
    (s.poll worker).Accounts id := by
  rcases runs with ⟨task, member, own, going⟩ | ⟨request, asked⟩
  · have remains : worker ≠ id → ∀ t : State,
        t.tasks = (State.removeTask { s with ready := s.ready.erase (.task worker) } worker).tasks →
        t.Accounts id := by
      intro different t tasks
      refine Or.inl (Or.inl ⟨task, ?_, own, going⟩)
      rw [tasks]
      exact List.mem_filter.mpr ⟨member, by simpa [own] using different.symm⟩
    unfold State.poll
    dsimp only
    split
    · exact Or.inl (Or.inl ⟨task, member, own, going⟩)
    · next other found =>
      obtain ⟨among, mine⟩ := State.task?_some found
      by_cases same : worker = id
      · subst same
        obtain rfl := List.inj_on_of_nodup_map coherent.settled.distinct member among
          (own.trans mine.symm)
        rw [if_neg (by simp [going])]
        split
        · exact (Goes.follow _ _ _).accounts
        · exact (Goes.resume _ _ _ _ _).accounts
        · exact Or.inl (Or.inl ⟨task, member, own, going⟩)
      · split
        · exact remains same _ rfl
        · split
          · exact remains same _ (Goes.follow _ _ _).only.tasks
          · exact remains same _ (Goes.resume _ _ _ _ _).only_heard.tasks
          · exact Or.inl (Or.inl ⟨task, member, own, going⟩)
  · simp [idle] at asked

theorem State.Runs.goes_on (runs : s.Runs id) {worker : Nat} {request : Request}
    (busy : s.busy = some (worker, request)) {u : State} (goes : Goes worker u t) (only : Only s t worker) :
    t.Accounts id := by
  rcases runs with ⟨task, member, own, going⟩ | ⟨other, asked⟩
  · exact Or.inl (Or.inl ⟨task, only.tasks ▸ member, own, going⟩)
  · rw [busy, Option.some.injEq, Prod.mk.injEq] at asked
    obtain ⟨rfl, -⟩ := asked
    exact goes.accounts

theorem State.Runs.answerNative (runs : s.Runs id) (reply : NativeReply) :
    (s.answerNative reply).Accounts id := by
  unfold State.answerNative
  split
  · next busy => exact runs.goes_on busy (Goes.follow _ _ _) (Goes.follow _ _ _).only_heard
  · next busy => exact runs.goes_on busy (Goes.resume _ _ _ _ _) (Goes.resume _ _ _ _ _).only_heard
  · exact Or.inl runs

theorem State.Runs.answerEngine (runs : s.Runs id) (reaction : Reaction) :
    (s.answerEngine reaction).Accounts id := by
  unfold State.answerEngine
  split
  · next busy =>
    split
    · exact runs.goes_on busy (Goes.resume _ _ _ _ _) (Goes.resume _ _ _ _ _).only_heard
    · rcases runs with ⟨task, member, own, going⟩ | ⟨other, asked⟩
      · exact Or.inl (Or.inl ⟨task, List.mem_append_left _ member, own, going⟩)
      · rw [busy, Option.some.injEq, Prod.mk.injEq] at asked
        exact Or.inl (Or.inl ⟨_, List.mem_append_right _ (List.mem_singleton.mpr rfl), asked.1, rfl⟩)
  · exact Or.inl runs

theorem State.Runs.act (runs : s.Runs id) (coherent : Coherent s) (kept : event ≠ .cancel id) :
    (act s event).Accounts id := by
  rcases lookups_act s event with ⟨call, -, -, started⟩ | ⟨other, rfl⟩ | goes | ⟨-, retains⟩
  · rw [started]
    exact Or.inl (runs.startTask call)
  · exact Or.inl (runs.cancel fun same => kept (same ▸ rfl))
  · cases event with
    | poll task =>
      rcases act_poll s task with same | ⟨idle, -, polled⟩
      · exact same.symm ▸ Or.inl runs
      · exact polled.symm ▸ runs.poll coherent idle task
    | answerNative reply => exact runs.answerNative reply
    | answerEngine reaction => exact runs.answerEngine reaction
    | _ => contradiction
  · exact Or.inl (runs.retained retains)

theorem Reached.accounts {dropped : List Nat}
    (reached : Reached (fun _ event => ∀ id, event = .cancel id → id ∈ dropped) s) (inside : id < s.nextTask)
    (kept : id ∉ dropped) : s.Accounts id := by
  induction reached with
  | built clear ok =>
    obtain ⟨-, config, rfl⟩ := build_eq ok
    contradiction
  | @step s event before admitted ih =>
    have coherent := before.reachable.coherent
    have retains := retains_settleOwner (Resolver.act s event)
    change id < (Resolver.act s event).settleOwner.nextTask at inside
    rw [retains.nextTask] at inside
    have runs_or_over : s.Accounts id → (Resolver.step s event).Accounts id := by
      rintro (runs | ⟨result, done⟩)
      · rcases runs.act coherent fun same => kept (admitted id same) with runs | ⟨result, done⟩
        · exact Or.inl (runs.retained retains)
        · refine Or.inr ⟨result, State.mem_results.mpr ?_⟩
          exact retains.notes id ▸ State.mem_results.mp done
      · exact Or.inr ⟨result, results_subset_step s event done⟩
    rcases apart_act s event with ⟨same, -⟩ | ⟨-, call, -, started⟩
    · exact runs_or_over (ih (same ▸ inside))
    · rw [started, State.nextTask_startTask] at inside
      by_cases new : id = s.nextTask
      · have runs := s.runs_startTask call
        rw [← started, ← new] at runs
        exact Or.inl (runs.retained retains)
      · exact runs_or_over (ih (by omega))

/-- Where the engines drop what they hold when they are torn down and nothing is left to run, nothing is queued
either, and every lookup that is not over waits for a completion that the channel in the slot holds. Without a
channel in the slot there is no such lookup. What was started and not cancelled is such a lookup or has a
result. -/
theorem no_lookup_stranded {dropped : List Nat}
    (reached : Reached (fun _ event => ∀ id, event = .cancel id → id ∈ dropped) s)
    (drops : s.config.dropsHeld = true) (idle : s.busy = none) (still : s.ready = []) :
    s.hub.queue = [] ∧
    (∀ task ∈ s.tasks, task.cancelled = false ∧ task.stage.Pending ∧
      ∃ slot, s.slot = some slot ∧ ⟨task.id, slot.channel⟩ ∈ s.held) ∧
    (s.slot = none → s.tasks = []) ∧
    ∀ id < s.nextTask, id ∉ dropped →
      (∃ result, (id, result) ∈ s.results) ∨ ∃ task ∈ s.tasks, task.id = id := by
  have awake := reached.reachable.awake
  have custody := reached.reachable.custody
  have drained : s.hub.queue = [] := by
    by_contra queued
    have member := awake.hub queued
    simp [still] at member
  have suspended : ∀ task ∈ s.tasks, task.cancelled = false ∧ task.stage.Pending ∧
      ∃ slot, s.slot = some slot ∧ ⟨task.id, slot.channel⟩ ∈ s.held := by
    intro task member
    have quiet : ¬ (task.cancelled = true ∨ ¬ task.stage.Pending) := by
      intro free
      have ready := awake.ready task member free
      simp [still] at ready
    obtain ⟨going, pending⟩ := not_or.mp quiet
    have pending := not_not.mp pending
    refine ⟨by simpa using going, pending, ?_⟩
    obtain ⟨completion, held, own⟩ := awake.held task member (by simp) pending
    have untorn := awake.untorn drops completion held
    have times := custody.teardowns completion.channel
    -- Neither queued nor run: the channel has not left the slot.
    have teardowns : s.teardowns completion.channel = 0 := by
      simp [Lifecycle.teardowns, Lifecycle.timesQueued, drained, untorn]
    rw [teardowns] at times
    have live : s.channel? = some completion.channel := by
      by_contra out
      simp [awake.created completion held, out] at times
    obtain ⟨slot, found, same⟩ := Option.map_eq_some_iff.mp live
    exact ⟨slot, found, by rw [← own, same]; exact held⟩
  refine ⟨drained, suspended, ?_, ?_⟩
  · intro empty
    refine List.eq_nil_iff_forall_not_mem.mpr fun task member => ?_
    obtain ⟨-, -, slot, found, -⟩ := suspended task member
    simp [empty] at found
  · intro id inside kept
    rcases reached.accounts inside kept with (⟨task, member, own, -⟩ | ⟨request, asked⟩) | done
    · exact Or.inr ⟨task, member, own⟩
    · simp [idle] at asked
    · exact Or.inl done

theorem no_lookup_stranded_after_fork :
    let s := run plain (forkedEntry ++ [.answerEngine .hold])
    ∃ slot, s.slot = some slot ∧ ⟨0, slot.channel⟩ ∈ s.held := by
  have reached : Reached (fun _ event => ∀ id, event = .cancel id → id ∈ [])
      (run plain (forkedEntry ++ [.answerEngine .hold])) :=
    reached_plain.run (by simp [forkedEntry])
  obtain ⟨-, suspended, -⟩ := no_lookup_stranded reached rfl rfl rfl
  obtain ⟨-, -, waits⟩ := suspended _ (List.Mem.head _)
  exact waits

end HostLookup.Resolver
