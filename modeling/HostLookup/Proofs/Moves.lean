import HostLookup.Proofs.Bystanders
import HostLookup.Proofs.Transcript

/-! How a lookup moves. A step leaves it where it is, starts it, drops it, or takes it on from the reply that it
hears, to where its transcript says, if the slot stays as it is. -/
namespace HostLookup.Resolver

def Place.stored? : Place → Option Reply
  | .inl (.waiting _ _ query _ (some reply)) => some (.engine query reply)
  | _ => none

def State.stored? (s : State) (id : Nat) : Option Reply :=
  (s.place? id).bind Place.stored?

/-- What a step does to one lookup; `steady` is whether the slot stays as it is. -/
inductive Moves (steady : Prop) (s t : State) (id : Nat) : Prop
  | rests (notes : t.notes id = s.notes id) (remainder : steady → t.remainder id = s.remainder id)
      (kept : s.place? id = none ∨ s.stored? id ≠ none → t.place? id = s.place? id)
  | starts (call : Call) (nextTask : t.nextTask = s.nextTask + 1) (new : id = s.nextTask)
      (notes : t.notes id = s.notes id ++ [.started call])
      (remainder : t.remainder id = (call.plan s.config.convention).transcript s.slot)
  | drops (notes : t.notes id = s.notes id) (place : t.place? id = none)
  | begins (place : s.place? id ≠ none) (unread : s.stored? id = none)
      (leads : Leads (s.notes id) t id (s.remainder id))
  | hears {reply : Reply} {rest : List Reply → List Note} (place : s.place? id ≠ none)
      (due : ∀ stored, s.stored? id = some stored → stored = reply)
      (takes : ∀ replies, s.remainder id (reply :: replies) = .heard reply :: rest replies)
      (leads : Leads (s.notes id ++ [.heard reply]) t id rest)

variable {s t u : State} {id : Nat}

namespace State

theorem task?_congr (tasks : t.tasks = s.tasks) (id : Nat) : t.task? id = s.task? id := by
  rw [task?, tasks, task?]

theorem task?_removeTask_of_ne {worker : Nat} (different : worker ≠ id) :
    (s.removeTask worker).task? id = s.task? id := by
  unfold removeTask task?
  rw [List.find?_filter]
  congr 1
  funext task
  by_cases same : task.id = id <;> simp [same, different.symm]

theorem task?_removeTask (s : State) (id : Nat) : (s.removeTask id).task? id = none := by
  refine List.find?_eq_none.mpr fun task member => ?_
  have other := (List.mem_filter.mp member).2
  simpa using other

theorem task?_updateTask (s : State) (other id : Nat) (update : Task → Task)
    (same : ∀ task, (update task).id = task.id) :
    (s.updateTask other update).task? id =
      (s.task? id).map fun task => if task.id = other then update task else task := by
  unfold updateTask task?
  rw [List.find?_map]
  congr 2
  funext task
  rw [Function.comp_apply]
  split
  · rw [same]
  · rfl

theorem task?_put (task : Task) (put : t.tasks = s.tasks ++ [task]) (away : s.task? task.id = none) :
    t.task? task.id = some task := by
  unfold task? at away ⊢
  rw [put, List.find?_append, away]
  simp

theorem task?_put_of_ne (task : Task) (put : t.tasks = s.tasks ++ [task]) (different : task.id ≠ id) :
    t.task? id = s.task? id := by
  unfold task?
  rw [put, List.find?_append]
  simp [different]

theorem place?_congr (task : t.task? id = s.task? id) (busy : t.busy = s.busy) :
    t.place? id = s.place? id := by
  unfold place?
  rw [task, busy]

theorem remainder_congr (place : t.place? id = s.place? id) (slot : t.slot = s.slot)
    (config : t.config = s.config) : t.remainder id = s.remainder id := by
  funext replies
  rw [remainder, remainder, place, slot, config]

theorem place?_of_others (others : ∀ request, s.busy ≠ some (id, request)) :
    s.place? id = (s.task? id).map fun task => .inl task.stage := by
  unfold place?
  cases s.task? id with
  | some task => rfl
  | none =>
    cases busy : s.busy with
    | none => rfl
    | some poll =>
      obtain ⟨other, request⟩ := poll
      refine if_neg fun same => ?_
      exact others request (by rw [busy, same])

end State

namespace Moves

variable {steady : Prop}

theorem stays (notes : t.notes id = s.notes id) (place : t.place? id = s.place? id)
    (slot : steady → t.slot = s.slot) (config : t.config = s.config) : Moves steady s t id :=
  .rests notes (fun still => State.remainder_congr place (slot still) config) fun _ => place

theorem of_same (moves : Moves steady s t id) (nextTask : u.nextTask = t.nextTask)
    (notes : u.notes id = t.notes id) (place : u.place? id = t.place? id)
    (remainder : u.remainder id = t.remainder id) : Moves steady s u id := by
  have onward : ∀ {before transcript}, Leads before t id transcript → Leads before u id transcript := by
    rintro before transcript ⟨new, noted, unheard, stops, follows⟩
    rw [← remainder] at stops follows
    exact ⟨new, notes.trans noted, unheard, stops, follows⟩
  cases moves with
  | rests same still kept =>
    exact .rests (notes.trans same) (fun held => remainder.trans (still held)) fun quiet =>
      place.trans (kept quiet)
  | starts call next new noted rest =>
    exact .starts call (nextTask.trans next) new (notes.trans noted) (remainder.trans rest)
  | drops same gone => exact .drops (notes.trans same) (place.trans gone)
  | begins found unread leads => exact .begins found unread (onward leads)
  | hears found due takes leads => exact .hears found due takes (onward leads)

theorem notes_grow (moves : Moves steady s t id) : s.notes id <+: t.notes id := by
  cases moves with
  | rests same _ _ => exact same ▸ List.prefix_rfl
  | starts call _ _ noted _ => exact noted ▸ List.prefix_append _ _
  | drops same _ => exact same ▸ List.prefix_rfl
  | begins _ _ leads =>
    obtain ⟨new, noted, -⟩ := leads
    exact noted ▸ List.prefix_append _ _
  | hears _ _ _ leads =>
    obtain ⟨new, noted, -⟩ := leads
    rw [noted, List.append_assoc]
    exact List.prefix_append _ _

end Moves

theorem Task.Given.remainder {task later : Task} (given : task.Given later) (slot : Option Slot)
    (convention : Convention) :
    later.stage.remainder slot convention = task.stage.remainder slot convention := by
  rcases given with rfl | ⟨reply, rfl⟩
  · rfl
  · obtain ⟨id, stage, cancelled⟩ := task
    cases stage with
    | fresh call => rfl
    | waiting loop generation query next delivered => cases delivered <;> rfl

theorem Task.Given.stored {task later : Task} (given : task.Given later) {reply : Reply}
    (stored : Place.stored? (.inl task.stage) = some reply) : later.stage = task.stage := by
  rcases given with rfl | ⟨other, rfl⟩
  · rfl
  · obtain ⟨id, stage, cancelled⟩ := task
    cases stage with
    | fresh call => contradiction
    | waiting loop generation query next delivered =>
      cases delivered with
      | none => contradiction
      | some reply => rfl

theorem Retains.moves (retains : Retains s t) (config : t.config = s.config) (id : Nat) :
    Moves (t.slot = s.slot) s t id := by
  rcases retains.task? id with ⟨gone, missing⟩ | ⟨task, later, found, after, given⟩
  · refine .stays (retains.notes id) ?_ (fun still => still) config
    simp only [State.place?, gone, missing, retains.busy]
  · have before := State.place?_task found
    have place := State.place?_task after
    refine .rests (retains.notes id) ?_ ?_
    · intro still
      rw [State.remainder_of_place before, State.remainder_of_place place, still, config]
      exact given.remainder _ _
    · rintro (gone | stored)
      · simp [before] at gone
      · obtain ⟨reply, kept⟩ := Option.ne_none_iff_exists'.mp stored
        rw [State.stored?, before] at kept
        rw [before, place, given.stored kept]

theorem Coherent.task?_of_mem (coherent : Coherent s) {task : Task} (member : task ∈ s.tasks) :
    s.task? task.id = some task := by
  cases found : s.task? task.id with
  | none =>
    have absent := List.find?_eq_none.mp found task member
    simp at absent
  | some other =>
    obtain ⟨among, own⟩ := State.task?_some found
    rw [List.inj_on_of_nodup_map coherent.settled.distinct among member own]

theorem State.task?_of_away (apart : ∀ task ∈ s.tasks, task.id ≠ id) : s.task? id = none :=
  List.find?_eq_none.mpr fun task member => by simpa using apart task member

theorem Coherent.away (coherent : Coherent s) {request : Request} (busy : s.busy = some (id, request)) :
    s.task? id = none :=
  State.task?_of_away ((coherent.working busy).away id rfl).2

theorem Coherent.unused (coherent : Coherent s) : s.task? s.nextTask = none :=
  State.task?_of_away fun task member => (coherent.settled.bound task member).ne

theorem Coherent.task?_startTask (coherent : Coherent s) (call : Call) :
    (s.startTask call).task? s.nextTask = some ⟨s.nextTask, .fresh call, false⟩ :=
  State.task?_put ⟨s.nextTask, .fresh call, false⟩ (State.tasks_wake _ _) coherent.unused

namespace Moves

variable {steady : Prop}

theorem wake {runnable : Runnable} (moves : Moves steady s t id) : Moves steady s (t.wake runnable) id := by
  have retains := Retains.wake t runnable
  have place : (t.wake runnable).place? id = t.place? id :=
    State.place?_congr (State.task?_congr (State.tasks_wake _ _) id) retains.busy
  have lifecycle := t.toLifecycle_wake runnable
  refine moves.of_same retains.nextTask (retains.notes id) place (State.remainder_congr place ?_ ?_)
  · rw [lifecycle]
  · rw [lifecycle]

end Moves

theorem remainder_startTask (coherent : Coherent s) (call : Call) :
    (s.startTask call).remainder s.nextTask = (call.plan s.config.convention).transcript s.slot := by
  have place := State.place?_task (coherent.task?_startTask call)
  rw [State.remainder_of_place place, State.toLifecycle_startTask]
  rfl

theorem notes_startTask (s : State) (call : Call) :
    (s.startTask call).notes s.nextTask = s.notes s.nextTask ++ [.started call] := by
  unfold State.startTask
  rw [(Retains.wake _ _).notes]
  exact s.notes_note _ _

theorem notes_startTask_of_ne (call : Call) (different : s.nextTask ≠ id) :
    (s.startTask call).notes id = s.notes id := by
  unfold State.startTask
  rw [(Retains.wake _ _).notes]
  exact s.notes_note_of_ne _ _ _ different

namespace Moves

variable {steady : Prop}

theorem startTask (coherent : Coherent s) (call : Call) (id : Nat) :
    Moves steady s (s.startTask call) id := by
  by_cases new : id = s.nextTask
  · subst new
    exact .starts call (s.nextTask_startTask call) rfl (notes_startTask s call)
      (remainder_startTask coherent call)
  · unfold State.startTask
    refine wake (.stays (s.notes_note_of_ne _ _ _ (Ne.symm new)) ?_ (fun _ => rfl) rfl)
    exact State.place?_congr
      (State.task?_put_of_ne ⟨s.nextTask, .fresh call, false⟩ rfl (Ne.symm new)) rfl

theorem cancel (s : State) (other id : Nat) : Moves steady s (s.cancel other) id := by
  unfold State.cancel
  split
  · exact .stays rfl rfl (fun _ => rfl) rfl
  · refine wake (.stays rfl ?_ (fun _ => rfl) rfl)
    have updated := s.task?_updateTask other id (fun task => { task with cancelled := true }) fun _ => rfl
    unfold State.place?
    rw [updated]
    cases s.task? id with
    | none => rfl
    | some task =>
      dsimp only [Option.map_some]
      split <;> rfl

theorem elsewhere {worker : Nat} {v : State} (different : worker ≠ id) (goes : Goes worker v t)
    (only : Only u t worker) (notes : u.notes id = s.notes id) (task : u.task? id = s.task? id)
    (lifecycle : u.toLifecycle = s.toLifecycle) (others : ∀ request, s.busy ≠ some (id, request)) :
    Moves steady s t id := by
  have same := only.lifecycle.trans lifecycle
  have still : ∀ request, t.busy ≠ some (id, request) := fun request asked =>
    different (goes.busy asked).symm
  have found : t.task? id = s.task? id := by
    rw [← task, State.task?, only.tasks, State.task?]
  refine .stays ((only.notes id different).trans notes) ?_ (fun _ => ?_) ?_
  · rw [State.place?_of_others others, State.place?_of_others still, found]
  · rw [same]
  · rw [same]

theorem poll (idle : s.busy = none) (worker id : Nat) : Moves steady s (s.poll worker) id := by
  have unstopped : ∀ request, s.busy ≠ some (id, request) := fun request stopped => by
    simp [idle] at stopped
  unfold State.poll
  dsimp only
  split
  · exact .stays rfl rfl (fun _ => rfl) rfl
  · next task found =>
    by_cases mine : worker = id
    · subst mine
      have place := State.place?_task found
      have away := State.task?_removeTask { s with ready := s.ready.erase (.task worker) } worker
      have here : s.place? worker ≠ none := by simp [place]
      split
      · exact .drops rfl (State.place?_idle away idle)
      · split
        · next call stage =>
          rw [stage] at place
          refine .begins here (by rw [State.stored?, place]; rfl) ?_
          rw [State.remainder_of_place place]
          exact Leads.follow away _
        · next loop generation query next reply stage =>
          rw [stage] at place
          have stored : s.stored? worker = some (.engine query reply) := by
            rw [State.stored?, place]
            rfl
          refine .hears here (fun other same => ?_) (fun replies => ?_)
            (Leads.resume_heard away (.engine query reply) loop generation (next reply))
          · rw [stored] at same
            exact (Option.some.inj same).symm
          · rw [State.remainder_of_place place]
            exact query.hear_self reply _ replies
        · exact .stays rfl rfl (fun _ => rfl) rfl
    · have removed := State.task?_removeTask_of_ne (s := { s with ready := s.ready.erase (.task worker) }) mine
      split
      · exact .stays rfl (State.place?_congr removed rfl) (fun _ => rfl) rfl
      · split
        · exact elsewhere mine (Goes.follow _ worker _) (Goes.follow _ worker _).only rfl removed rfl unstopped
        · exact elsewhere mine (Goes.resume _ worker _ _ _) (Goes.resume _ worker _ _ _).only_heard rfl removed
            rfl unstopped
        · exact .stays rfl rfl (fun _ => rfl) rfl

theorem hears_request {request : Request} {reply : Reply} {rest : List Reply → List Note}
    (coherent : Coherent s) (busy : s.busy = some (id, request))
    (takes : ∀ replies, request.remainder s.slot (reply :: replies) = .heard reply :: rest replies)
    (leads : s.task? id = none → Leads (s.notes id ++ [.heard reply]) t id rest) : Moves steady s t id := by
  have away := coherent.away busy
  have place := State.place?_busy away busy
  refine .hears (by simp [place]) (fun stored same => ?_) (fun replies => ?_) (leads away)
  · rw [State.stored?, place] at same
    contradiction
  · rw [State.remainder_of_place place]
    exact takes replies

theorem answerNative (coherent : Coherent s) (reply : NativeReply) (id : Nat) :
    Moves steady s (s.answerNative reply) id := by
  unfold State.answerNative
  split
  · next worker query next busy =>
    by_cases mine : worker = id
    · subst mine
      refine hears_request coherent busy (fun replies => query.hear_self (reply query) _ replies) fun away => ?_
      exact Leads.follow_heard away _ _
    · refine elsewhere mine (Goes.follow _ worker _) (Goes.follow _ worker _).only_heard rfl rfl rfl ?_
      simp [busy, mine]
  · next worker loop generation query next busy =>
    by_cases mine : worker = id
    · subst mine
      refine hears_request coherent busy (fun replies => query.hear_self (reply query) _ replies) fun away => ?_
      exact Leads.resume_heard away _ _ _ _
    · refine elsewhere mine (Goes.resume _ worker _ _ _) (Goes.resume _ worker _ _ _).only_heard rfl rfl rfl ?_
      simp [busy, mine]
  · exact .stays rfl rfl (fun _ => rfl) rfl

theorem answerEngine (coherent : Coherent s) (reaction : Reaction) (id : Nat) :
    Moves steady s (s.answerEngine reaction) id := by
  unfold State.answerEngine
  split
  · next worker loop generation channel query next busy =>
    have away := coherent.away busy
    split
    · next reply given =>
      by_cases mine : worker = id
      · subst mine
        refine hears_request coherent busy (fun replies => query.hear_self (reply query) _ replies) fun away => ?_
        exact Leads.resume_heard away _ _ _ _
      · refine elsewhere mine (Goes.resume _ worker _ _ _) (Goes.resume _ worker _ _ _).only_heard rfl rfl rfl ?_
        simp [busy, mine]
    · by_cases mine : worker = id
      · subst mine
        have before := State.place?_busy away busy
        have put : ∀ u : State, u.tasks = s.tasks ++ [⟨worker, .waiting loop generation query next none, false⟩] →
            u.place? worker = some (.inl (.waiting loop generation query next none)) := fun u tasks =>
          State.place?_task (State.task?_put ⟨worker, _, false⟩ tasks away)
        refine .rests rfl (fun _ => ?_) ?_
        · rw [State.remainder_of_place before, State.remainder_of_place (put _ rfl)]
          rfl
        · simp [before, State.stored?, Place.stored?]
      · have others : ∀ request, s.busy ≠ some (id, request) := by simp [busy, mine]
        refine .stays rfl ?_ (fun _ => rfl) rfl
        rw [State.place?_of_others others, State.place?_of_others fun request asked => by contradiction]
        exact congrArg _ (State.task?_put_of_ne ⟨worker, _, false⟩ rfl mine)
  · exact .stays rfl rfl (fun _ => rfl) rfl

end Moves

theorem config_act (s : State) (event : Event) : (act s event).config = s.config := by
  rw [toLifecycle_act]
  exact Lifecycle.config_apply _ _

theorem config_step (s : State) (event : Event) : (step s event).config = s.config := by
  have acted := config_act s event
  rcases settleOwner_cases (act s event) with same | closed
  · rw [step, same, acted]
  · have kept := Lifecycle.config_apply (act s event).toLifecycle .close
    rw [step, closed, State.close, State.toLifecycle_manage, ← acted]
    exact kept

theorem moves_act (coherent : Coherent s) (event : Event) (id : Nat) :
    Moves ((act s event).slot = s.slot) s (act s event) id := by
  rcases lookups_act s event with ⟨call, -, -, started⟩ | ⟨other, rfl⟩ | goes | ⟨-, retains⟩
  · rw [started]
    exact .startTask coherent call id
  · exact .cancel s other id
  · cases event with
    | poll task =>
      rcases act_poll s task with same | ⟨idle, -, polled⟩
      · rw [same]
        exact .stays rfl rfl (fun still => still) rfl
      · rw [polled]
        exact .poll idle task id
    | answerNative reply => exact .answerNative coherent reply id
    | answerEngine reaction => exact .answerEngine coherent reaction id
    | _ => contradiction
  · exact retains.moves (config_act s event) id

theorem moves_step (coherent : Coherent s) (event : Event) (id : Nat) :
    Moves ((act s event).slot = s.slot) s (step s event) id := by
  have moves := moves_act coherent event id
  have retains := retains_settleOwner (act s event)
  rcases settleOwner_unused (act s event) with same | ⟨-, gone, idle, -⟩
  · rw [step, same]
    exact moves
  · have place : ∀ u : State, u.tasks = [] → u.busy = none → u.place? id = none := fun u empty still =>
      State.place?_idle (by rw [State.task?, empty]; rfl) still
    have before := place _ gone idle
    have after : (step s event).place? id = none := by
      exact place _ ((State.tasks_settleOwner _).trans gone) (retains.busy.trans idle)
    refine moves.of_same retains.nextTask (retains.notes id) (after.trans before.symm) ?_
    rw [State.remainder_of_none after, State.remainder_of_none before]

theorem Coherent.lt_of_place (coherent : Coherent s) (found : s.place? id ≠ none) : id < s.nextTask := by
  cases task : s.task? id with
  | some task =>
    obtain ⟨member, own⟩ := State.task?_some task
    exact own ▸ coherent.settled.bound _ member
  | none =>
    by_contra beyond
    have others : ∀ request, s.busy ≠ some (id, request) := fun request busy =>
      beyond ((coherent.working busy).away id rfl).1
    exact found (by rw [State.place?_of_others others, task, Option.map_none])

theorem Reachable.notes_beyond (reachable : Reachable s) (beyond : s.nextTask ≤ id) : s.notes id = [] := by
  induction reachable with
  | built clear ok =>
    obtain ⟨-, config, rfl⟩ := build_eq ok
    rfl
  | @step s event before _ ih =>
    have coherent := (Reached.reachable before).coherent
    have beyond_before := (nextTask_le_step s event).trans beyond
    have nothing := ih beyond_before
    cases moves_step coherent event id with
    | rests same _ _ => exact same.trans nothing
    | starts call next new =>
      rw [next, new] at beyond
      omega
    | drops same _ => exact same.trans nothing
    | begins found _ _ => exact absurd (coherent.lt_of_place found) (Nat.not_lt.mpr beyond_before)
    | hears found _ _ _ => exact absurd (coherent.lt_of_place found) (Nat.not_lt.mpr beyond_before)

end HostLookup.Resolver
