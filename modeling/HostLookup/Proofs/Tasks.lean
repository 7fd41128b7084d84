import HostLookup.Engine.Workload

/-! The tasks of a channel, one by one: how a task stands with the uses of its completion and with what was read, and
what becomes of it in a step of the workload. -/
namespace HostLookup.Engine

def Use.outcome (query : EngineQuery) : Use → Outcome
  | .delivered outcome => outcome
  | .dropped => ⟨query, .error .destruction⟩

theorem Task.read_eq_some {task after : Task} {outcome : Outcome} (found : task.read = (some outcome, after)) :
    task.halves.waiter = true ∧ after = { task with halves := { task.halves with waiter := false, slot := none } } := by
  unfold Task.read Rendezvous.get at found
  cases waits : task.halves.waiter with
  | false => simp [waits] at found
  | true =>
    refine ⟨rfl, ?_⟩
    cases slot : task.halves.slot with
    | some result =>
      simp only [waits, slot, if_true] at found
      exact (Prod.mk.inj found).2.symm
    | none =>
      cases whole : task.halves.completion with
      | true => simp [waits, slot, whole] at found
      | false =>
        simp only [waits, slot, whole, if_true, Bool.false_eq_true, if_false] at found
        simpa [whole] using (Prod.mk.inj found).2.symm

/-- How a task and its halves stand, with the uses of the completion and the readings there have been. -/
structure Task.Stands (task : Task) (uses : List Use) (readings : List Outcome) : Prop where
  unused : task.stage ≠ .ended → uses = [] ∧ task.halves.completion = true ∧ task.halves.slot = none
  used : task.stage = .ended → task.halves.completion = false ∧
    ((∃ result, uses = [.delivered ⟨task.query, result⟩] ∧
        (task.halves.waiter = true → task.halves.slot = some result)) ∨
      uses = [.dropped] ∧ task.halves.slot = none)
  read : ∀ outcome ∈ readings, readings = [outcome] ∧ task.halves.waiter = false ∧
    ∃ use, uses = [use] ∧ outcome = use.outcome task.query

namespace Task.Stands

variable {task : Task} {uses : List Use} {readings : List Outcome}

theorem started (query : EngineQuery) : Stands { query } [] [] :=
  ⟨fun _ => ⟨rfl, rfl, rfl⟩, fun ended => (nomatch ended), fun _ member => (nomatch member)⟩

theorem unread (stands : task.Stands [] readings) : readings = [] := by
  refine List.eq_nil_iff_forall_not_mem.mpr fun outcome member => ?_
  obtain ⟨-, -, use, used, -⟩ := stands.read outcome member
  exact nomatch used

theorem finish (stands : task.Stands uses readings) (running : task.stage = .running) (reply : EngineReply) :
    (task.finish reply).Stands (uses ++ [.delivered ⟨task.query, reply task.query⟩]) readings := by
  obtain ⟨rfl, whole, -⟩ := stands.unused (by simp [running])
  obtain rfl := stands.unread
  refine ⟨fun running => absurd rfl running, fun _ => ⟨?_, .inl ⟨reply task.query, rfl, fun waits => ?_⟩⟩,
    fun _ member => (nomatch member)⟩
  · simp [Task.finish, Rendezvous.deliver, whole]
  · have waits : task.halves.waiter = true := by simpa [Task.finish, Rendezvous.deliver, whole] using waits
    simp [Task.finish, Rendezvous.deliver, whole, waits]

theorem discard (stands : task.Stands uses readings) (aborted : task.stage = .aborted) :
    task.discard.Stands (uses ++ [.dropped]) readings := by
  obtain ⟨rfl, -, empty⟩ := stands.unused (by simp [aborted])
  obtain rfl := stands.unread
  exact ⟨fun running => absurd rfl running, fun _ => ⟨rfl, .inr ⟨rfl, empty⟩⟩, fun _ member => (nomatch member)⟩

theorem abort (stands : task.Stands uses readings) : task.abort.Stands uses readings := by
  refine ⟨fun going => stands.unused fun ended => ?_, fun ended => stands.used ?_, stands.read⟩
  · simp [Task.abort, ended] at going
  · simp only [Task.abort] at ended
    split at ended
    · contradiction
    · exact ended

theorem leave (stands : task.Stands uses readings) : task.leave.Stands uses readings := by
  refine ⟨fun going => ?_, fun ended => ?_, fun outcome member => ?_⟩
  · obtain ⟨unused, whole, -⟩ := stands.unused going
    exact ⟨unused, whole, rfl⟩
  · obtain ⟨gone, ⟨result, delivered, -⟩ | ⟨dropped, -⟩⟩ := stands.used ended
    · exact ⟨gone, .inl ⟨result, delivered, fun waits => (nomatch waits)⟩⟩
    · exact ⟨gone, .inr ⟨dropped, rfl⟩⟩
  · obtain ⟨sole, -, use⟩ := stands.read outcome member
    exact ⟨sole, rfl, use⟩

theorem read_eq (stands : task.Stands uses readings) (waits : task.halves.waiter = true) :
    task.read.1 = uses.head?.map (Use.outcome task.query) := by
  by_cases ended : task.stage = .ended
  · obtain ⟨gone, ⟨result, rfl, delivered⟩ | ⟨rfl, empty⟩⟩ := stands.used ended
    · simp [Task.read, Rendezvous.get, waits, delivered waits, Use.outcome]
    · simp [Task.read, Rendezvous.get, waits, empty, gone, Use.outcome]
  · obtain ⟨rfl, whole, empty⟩ := stands.unused ended
    simp [Task.read, Rendezvous.get, waits, empty, whole]

theorem read_next (stands : task.Stands uses readings) {outcome : Outcome} {after : Task}
    (found : task.read = (some outcome, after)) : after.Stands uses (readings ++ [outcome]) := by
  obtain ⟨waits, rfl⟩ := Task.read_eq_some found
  have unread : readings = [] := by
    refine List.eq_nil_iff_forall_not_mem.mpr fun earlier member => ?_
    obtain ⟨-, departed, -⟩ := stands.read earlier member
    exact Bool.false_ne_true (departed.symm.trans waits)
  have reads : some outcome = uses.head?.map (Use.outcome task.query) := by
    rw [← stands.read_eq waits, found]
  subst unread
  refine ⟨fun going => ?_, fun ended => ?_, fun other member => ?_⟩
  · obtain ⟨rfl, -⟩ := stands.unused going
    contradiction
  · obtain ⟨gone, ⟨result, delivered, -⟩ | ⟨dropped, -⟩⟩ := stands.used ended
    · exact ⟨gone, .inl ⟨result, delivered, fun waits => (nomatch waits)⟩⟩
    · exact ⟨gone, .inr ⟨dropped, rfl⟩⟩
  · obtain rfl := List.mem_singleton.mp member
    refine ⟨rfl, rfl, ?_⟩
    by_cases ended : task.stage = .ended
    · obtain ⟨-, ⟨result, rfl, -⟩ | ⟨rfl, -⟩⟩ := stands.used ended
      · exact ⟨_, rfl, Option.some.inj reads⟩
      · exact ⟨_, rfl, Option.some.inj reads⟩
    · obtain ⟨rfl, -⟩ := stands.unused ended
      contradiction

end Task.Stands

namespace Workload

/-! The parts of a workload after each of its operations. -/

@[simp] theorem uses_used (w : Workload) (id other : Nat) (use : Use) :
    (w.note (.used id use)).uses other = w.uses other ++ if id = other then [use] else [] := by
  unfold uses note
  rw [List.filterMap_append]
  by_cases same : id = other <;> simp [Note.use?, same]

@[simp] theorem readings_used (w : Workload) (id other : Nat) (use : Use) :
    (w.note (.used id use)).readings other = w.readings other := by
  simp [readings, note, Note.reading?]

@[simp] theorem uses_read (w : Workload) (id other : Nat) (outcome : Outcome) :
    (w.note (.read id outcome)).uses other = w.uses other := by
  simp [uses, note, Note.use?]

@[simp] theorem readings_read (w : Workload) (id other : Nat) (outcome : Outcome) :
    (w.note (.read id outcome)).readings other = w.readings other ++ if id = other then [outcome] else [] := by
  unfold readings note
  rw [List.filterMap_append]
  by_cases same : id = other <;> simp [Note.reading?, same]

@[simp] theorem tasks_note (w : Workload) (note : Note) : (w.note note).tasks = w.tasks := rfl

@[simp] theorem tracked_note (w : Workload) (note : Note) : (w.note note).tracked = w.tracked := rfl

@[simp] theorem uses_update (w : Workload) (id : Nat) (change : Task → Task) :
    (w.update id change).uses = w.uses := rfl

@[simp] theorem readings_update (w : Workload) (id : Nat) (change : Task → Task) :
    (w.update id change).readings = w.readings := rfl

@[simp] theorem tracked_update (w : Workload) (id : Nat) (change : Task → Task) :
    (w.update id change).tracked = w.tracked := rfl

@[simp] theorem destroyed_update (w : Workload) (id : Nat) (change : Task → Task) :
    (w.update id change).destroyed = w.destroyed := rfl

theorem task?_update (w : Workload) (id other : Nat) (change : Task → Task) :
    (w.update id change).tasks[other]? = if id = other then w.tasks[other]?.map change else w.tasks[other]? := by
  rw [update, List.getElem?_modify]
  by_cases same : id = other <;> simp [same]

@[simp] theorem tasks_untrack (w : Workload) (id : Nat) : (w.untrack id).tasks = w.tasks := rfl

@[simp] theorem uses_untrack (w : Workload) (id : Nat) : (w.untrack id).uses = w.uses := rfl

@[simp] theorem readings_untrack (w : Workload) (id : Nat) : (w.untrack id).readings = w.readings := rfl

theorem mem_untrack {w : Workload} {id other : Nat} :
    other ∈ (w.untrack id).tracked ↔ other ∈ w.tracked ∧ other ≠ id := by
  simp [untrack]

theorem spawn_eq {w : Workload} (intact : w.destroyed = false) (query : EngineQuery) :
    w.spawn query = (.ok w.tasks.length, w.enroll query) := by
  have begins : (w.enroll query).hasEnded w.tasks.length = false := by simp [hasEnded, enroll]
  simp [spawn, intact, begins]

theorem ask_cases (w : Workload) (query : EngineQuery) :
    (∃ fault, w.ask query = (.error fault, w) ∧
      (refusal? query = some fault ∨ refusal? query = none ∧ w.destroyed = true ∧ fault = .destruction)) ∨
      refusal? query = none ∧ w.destroyed = false ∧ w.ask query = (.ok w.tasks.length, w.enroll query) := by
  unfold ask
  cases refusal? query with
  | some fault => exact .inl ⟨fault, rfl, .inl rfl⟩
  | none =>
    cases destroyed : w.destroyed with
    | true => exact .inl ⟨.destruction, by simp [spawn, destroyed], .inr ⟨rfl, rfl, rfl⟩⟩
    | false => exact .inr ⟨rfl, rfl, spawn_eq destroyed query⟩

theorem ask_fresh {w : Workload} {query : EngineQuery} {id : Nat} (accepted : (w.ask query).1 = .ok id) :
    w.tasks[id]? = none := by
  rcases w.ask_cases query with ⟨fault, refused, -⟩ | ⟨-, -, started⟩
  · simp [refused] at accepted
  · obtain rfl : w.tasks.length = id := by simpa [started] using accepted
    simp

/-! Tearing down lets go of all numbers and aborts their tasks, in whatever order they come. -/

theorem tracked_abort (w : Workload) (id : Nat) : (w.abort id).tracked = w.tracked.filter (· != id) := by
  unfold abort
  split
  · rfl
  · next away =>
    refine (List.filter_eq_self.mpr fun other member => ?_).symm
    exact bne_iff_ne.mpr fun same => away (same ▸ member)

theorem journal_abort (w : Workload) (id : Nat) : (w.abort id).journal = w.journal := by
  unfold abort
  split <;> rfl

theorem destroyed_abort (w : Workload) (id : Nat) : (w.abort id).destroyed = w.destroyed := by
  unfold abort
  split <;> rfl

theorem task?_abort (w : Workload) (id other : Nat) :
    (w.abort id).tasks[other]? =
      if id = other ∧ other ∈ w.tracked then w.tasks[other]?.map Task.abort else w.tasks[other]? := by
  unfold abort
  split
  · next kept =>
    rw [task?_update, tasks_untrack]
    by_cases same : id = other
    · subst same
      simp [kept]
    · simp [same]
  · next away =>
    rw [if_neg]
    rintro ⟨rfl, kept⟩
    exact away kept

theorem tracked_abortAll (ids : List Nat) (w : Workload) :
    (ids.foldl abort w).tracked = w.tracked.filter (· ∉ ids) := by
  induction ids generalizing w with
  | nil => exact (List.filter_eq_self.mpr (by simp)).symm
  | cons id rest ih =>
    rw [List.foldl_cons, ih, tracked_abort, List.filter_filter]
    exact List.filter_congr fun other _ => by by_cases same : other = id <;> simp [same]

theorem journal_abortAll (ids : List Nat) (w : Workload) : (ids.foldl abort w).journal = w.journal := by
  induction ids generalizing w with
  | nil => rfl
  | cons id rest ih => rw [List.foldl_cons, ih, journal_abort]

theorem destroyed_abortAll (ids : List Nat) (w : Workload) : (ids.foldl abort w).destroyed = w.destroyed := by
  induction ids generalizing w with
  | nil => rfl
  | cons id rest ih => rw [List.foldl_cons, ih, destroyed_abort]

theorem task?_abortAll (ids : List Nat) (w : Workload) (id : Nat) :
    (ids.foldl abort w).tasks[id]? =
      if id ∈ ids ∧ id ∈ w.tracked then w.tasks[id]?.map Task.abort else w.tasks[id]? := by
  induction ids generalizing w with
  | nil => simp
  | cons first rest ih =>
    rw [List.foldl_cons, ih, tracked_abort, task?_abort]
    by_cases same : first = id
    · subst same
      simp
    · simp [same, Ne.symm same]

theorem tracked_destroy (w : Workload) : w.destroy.tracked = if w.destroyed then w.tracked else [] := by
  unfold destroy
  split
  · rfl
  · rw [tracked_abortAll]
    exact List.filter_eq_nil_iff.mpr fun id kept => by simpa using kept

theorem journal_destroy (w : Workload) : w.destroy.journal = w.journal := by
  unfold destroy
  split
  · rfl
  · exact journal_abortAll _ _

theorem destroyed_destroy (w : Workload) : w.destroy.destroyed = true := by
  unfold destroy
  split
  · assumption
  · exact destroyed_abortAll _ _

theorem task?_destroy (w : Workload) (id : Nat) :
    w.destroy.tasks[id]? =
      if w.destroyed = false ∧ id ∈ w.tracked then w.tasks[id]?.map Task.abort else w.tasks[id]? := by
  unfold destroy
  split
  · next destroyed => simp [destroyed]
  · next intact =>
    rw [task?_abortAll]
    simp [intact]

/-- What a step makes of a task, with the use of the completion and the reading in it. -/
inductive Fares (w : Workload) (id : Nat) (task : Task) : Event → Task → List Use → List Outcome → Prop
  | stays {event : Event}
      (polled : ∀ reply?, event = .poll id reply? → task.stage = .ended ∨ task.stage = .running ∧ reply? = none)
      (torn : event = .destroy → w.destroyed = true ∨ id ∉ w.tracked) : Fares w id task event task [] []
  | finishes (running : task.stage = .running) (reply : EngineReply) :
      Fares w id task (.poll id (some reply)) (task.finish reply) [.delivered ⟨task.query, reply task.query⟩] []
  | discards (aborted : task.stage = .aborted) (reply? : Option EngineReply) :
      Fares w id task (.poll id reply?) task.discard [.dropped] []
  | aborts (intact : w.destroyed = false) (kept : id ∈ w.tracked) : Fares w id task .destroy task.abort [] []
  | reads {outcome : Outcome} {after : Task} (found : task.read = (some outcome, after)) :
      Fares w id task (.read id) after [] [outcome]
  | leaves : Fares w id task (.leave id) task.leave [] []

variable {w : Workload} {id : Nat} {task : Task}

theorem poll_apart {other : Nat} (different : other ≠ id) (w : Workload) (reply? : Option EngineReply) :
    (w.poll other reply?).tasks[id]? = w.tasks[id]? ∧ (w.poll other reply?).uses id = w.uses id ∧
      (w.poll other reply?).readings id = w.readings id := by
  unfold poll
  split
  · exact ⟨rfl, rfl, rfl⟩
  · split <;> simp [task?_update, different]

theorem poll_fares (here : w.tasks[id]? = some task) (reply? : Option EngineReply) :
    ∃ after used, Fares w id task (.poll id reply?) after used [] ∧ (w.poll id reply?).tasks[id]? = some after ∧
      (w.poll id reply?).uses id = w.uses id ++ used ∧ (w.poll id reply?).readings id = w.readings id := by
  have still (quiet : task.stage = .ended ∨ task.stage = .running ∧ reply? = none) :
      Fares w id task (.poll id reply?) task [] [] :=
    .stays (fun other same => by obtain ⟨-, rfl⟩ := Event.poll.inj same; exact quiet) (fun same => nomatch same)
  unfold poll
  rw [here]
  dsimp only
  split
  · next reply running =>
    exact ⟨_, _, .finishes running reply, by simp [task?_update, here], by simp, by simp⟩
  · next running =>
    exact ⟨_, _, still (.inr ⟨running, rfl⟩), here, by simp, rfl⟩
  · next aborted =>
    exact ⟨_, _, .discards aborted _, by simp [task?_update, here], by simp, by simp⟩
  · next ended =>
    exact ⟨_, _, still (.inl ended), here, by simp, rfl⟩

theorem read_fares (here : w.tasks[id]? = some task) :
    ∃ after read, Fares w id task (.read id) after [] read ∧ (w.read id).2.tasks[id]? = some after ∧
      (w.read id).2.uses id = w.uses id ∧ (w.read id).2.readings id = w.readings id ++ read := by
  unfold read
  rw [here, Option.map_some]
  rcases found : task.read with ⟨_ | outcome, after⟩
  · exact ⟨task, [], .stays (fun _ same => nomatch same) (fun same => nomatch same), here, rfl, by simp⟩
  · exact ⟨after, [outcome], .reads found, by simp [task?_update, here], by simp, by simp⟩

theorem read_apart {other : Nat} (different : other ≠ id) (w : Workload) :
    (w.read other).2.tasks[id]? = w.tasks[id]? ∧ (w.read other).2.uses id = w.uses id ∧
      (w.read other).2.readings id = w.readings id := by
  unfold read
  split <;> simp [task?_update, different]

theorem step_fares (here : w.tasks[id]? = some task) (event : Event) :
    ∃ after used read, Fares w id task event after used read ∧ (w.step event).tasks[id]? = some after ∧
      (w.step event).uses id = w.uses id ++ used ∧ (w.step event).readings id = w.readings id ++ read := by
  cases event with
  | ask query =>
    refine ⟨task, [], [], .stays (fun _ same => nomatch same) (fun same => nomatch same), ?_⟩
    rcases w.ask_cases query with ⟨fault, refused, -⟩ | ⟨-, -, accepted⟩
    · simp [step, refused, here]
    · have inside : id < w.tasks.length := (List.getElem?_eq_some_iff.mp here).1
      simp only [step, accepted, enroll, List.append_nil]
      exact ⟨by rw [List.getElem?_append_left inside, here], rfl, rfl⟩
  | poll other reply? =>
    by_cases same : other = id
    · subst same
      obtain ⟨after, used, fares, now, uses, readings⟩ := poll_fares here reply?
      exact ⟨after, used, [], fares, now, uses, readings.trans (List.append_nil _).symm⟩
    · obtain ⟨tasks, uses, readings⟩ := poll_apart same w reply?
      refine ⟨task, [], [], .stays (fun _ equal => ?_) (fun equal => nomatch equal), tasks.trans here,
        uses.trans (List.append_nil _).symm, readings.trans (List.append_nil _).symm⟩
      exact absurd (Event.poll.inj equal).1 same
  | destroy =>
    have now := w.task?_destroy id
    have uses : w.destroy.uses id = w.uses id ++ [] := by simp [Workload.uses, journal_destroy]
    have readings : w.destroy.readings id = w.readings id ++ [] := by simp [Workload.readings, journal_destroy]
    by_cases aborts : w.destroyed = false ∧ id ∈ w.tracked
    · rw [if_pos aborts, here] at now
      exact ⟨task.abort, [], [], .aborts aborts.1 aborts.2, now, uses, readings⟩
    · rw [if_neg aborts, here] at now
      refine ⟨task, [], [], .stays (fun _ same => nomatch same) (fun _ => ?_), now, uses, readings⟩
      cases destroyed : w.destroyed with
      | true => exact .inl rfl
      | false => exact .inr fun kept => aborts ⟨destroyed, kept⟩
  | read other =>
    by_cases same : other = id
    · subst same
      obtain ⟨after, read, fares, now, uses, readings⟩ := read_fares here
      exact ⟨after, [], read, fares, now, uses.trans (List.append_nil _).symm, readings⟩
    · obtain ⟨tasks, uses, readings⟩ := read_apart same w
      exact ⟨task, [], [], .stays (fun _ equal => nomatch equal) (fun equal => nomatch equal), tasks.trans here,
        uses.trans (List.append_nil _).symm, readings.trans (List.append_nil _).symm⟩
  | leave other =>
    by_cases same : other = id
    · subst same
      exact ⟨task.leave, [], [], .leaves, by simp [step, task?_update, here], by simp [step], by simp [step]⟩
    · exact ⟨task, [], [], .stays (fun _ equal => nomatch equal) (fun equal => nomatch equal),
        by simp [step, task?_update, same, here], by simp [step], by simp [step]⟩

theorem step_begins (away : w.tasks[id]? = none) (event : Event) :
    (w.step event).uses id = w.uses id ∧ (w.step event).readings id = w.readings id ∧
      ∀ task, (w.step event).tasks[id]? = some task ↔
        ∃ query, event = .ask query ∧ (w.ask query).1 = .ok id ∧ task = { query } := by
  have idle {other : Event} (now : (w.step other).tasks[id]? = none) (quiet : ∀ query, other ≠ .ask query)
      (task : Task) : (w.step other).tasks[id]? = some task ↔
        ∃ query, other = .ask query ∧ (w.ask query).1 = .ok id ∧ task = { query } := by
    simp [now, quiet]
  cases event with
  | ask query =>
    rcases w.ask_cases query with ⟨fault, refused, -⟩ | ⟨-, -, accepted⟩
    · simp [step, refused, away]
    · have beyond : w.tasks.length ≤ id := List.getElem?_eq_none_iff.mp away
      refine ⟨by simp only [step, accepted]; rfl, by simp only [step, accepted]; rfl, fun task => ?_⟩
      simp only [step, accepted, enroll, List.getElem?_append_right beyond]
      by_cases first : id = w.tasks.length
      · subst first
        simp [accepted, eq_comm]
      · have past : [({ query } : Task)][id - w.tasks.length]? = none :=
          List.getElem?_eq_none_iff.mpr (by rw [List.length_singleton]; omega)
        simp [accepted, past, Ne.symm first]
  | poll other reply? =>
    by_cases same : other = id
    · subst same
      have nothing : w.poll other reply? = w := by simp [poll, away]
      exact ⟨by rw [step, nothing], by rw [step, nothing], idle (by rw [step, nothing, away]) (by simp)⟩
    · obtain ⟨tasks, uses, readings⟩ := poll_apart same w reply?
      exact ⟨uses, readings, idle (tasks.trans away) (by simp)⟩
  | destroy =>
    refine ⟨by simp [step, Workload.uses, journal_destroy], by simp [step, Workload.readings, journal_destroy],
      idle ?_ (by simp)⟩
    simp [step, task?_destroy, away]
  | read other =>
    by_cases same : other = id
    · subst same
      have nothing : (w.read other).2 = w := by simp [read, away]
      exact ⟨by rw [step, nothing], by rw [step, nothing], idle (by rw [step, nothing, away]) (by simp)⟩
    · obtain ⟨tasks, uses, readings⟩ := read_apart same w
      exact ⟨uses, readings, idle (tasks.trans away) (by simp)⟩
  | leave other =>
    exact ⟨rfl, rfl, idle (by simp [step, task?_update, away]) (by simp)⟩

/-! Which numbers are kept. -/

theorem mem_tracked_poll (here : w.tasks[id]? = some task) {reply? : Option EngineReply} {other : Nat} :
    other ∈ (w.poll id reply?).tracked ↔
      other ∈ w.tracked ∧ (other = id → task.stage = .running → reply? = none) := by
  unfold poll
  rw [here]
  dsimp only
  split
  · next running => simp [mem_untrack, running]
  · simp
  · next aborted => simp [aborted]
  · next ended => simp [ended]

theorem tracked_poll_sublist (w : Workload) (id : Nat) (reply? : Option EngineReply) :
    (w.poll id reply?).tracked.Sublist w.tracked := by
  unfold poll
  split
  · exact .refl _
  · split
    · exact List.filter_sublist
    · exact .refl _
    · exact .refl _
    · exact .refl _

@[simp] theorem destroyed_poll (w : Workload) (id : Nat) (reply? : Option EngineReply) :
    (w.poll id reply?).destroyed = w.destroyed := by
  unfold poll
  split
  · rfl
  · split <;> rfl

@[simp] theorem destroyed_read (w : Workload) (id : Nat) : (w.read id).2.destroyed = w.destroyed := by
  unfold read
  split <;> rfl

@[simp] theorem tracked_read (w : Workload) (id : Nat) : (w.read id).2.tracked = w.tracked := by
  unfold read
  split <;> rfl

theorem destroyed_step (w : Workload) (event : Event) :
    (w.step event).destroyed = true ↔ w.destroyed = true ∨ event = .destroy := by
  cases event with
  | ask query =>
    rcases w.ask_cases query with ⟨fault, refused, -⟩ | ⟨-, intact, accepted⟩
    · simp [step, refused]
    · simp [step, accepted, enroll]
  | poll id reply? => simp [step]
  | destroy => simp [step, destroyed_destroy]
  | read id => simp [step]
  | leave id => simp [step]

theorem Fares.stands {event : Event} {after : Task} {used uses : List Use} {read readings : List Outcome}
    (fares : Fares w id task event after used read) (stands : task.Stands uses readings) :
    after.Stands (uses ++ used) (readings ++ read) := by
  cases fares with
  | stays => simpa using stands
  | finishes running reply => simpa using stands.finish running reply
  | discards aborted reply? => simpa using stands.discard aborted
  | aborts => simpa using stands.abort
  | reads found => simpa using stands.read_next found
  | leaves => simpa using stands.leave

theorem Fares.query_eq {event : Event} {after : Task} {used : List Use} {read : List Outcome}
    (fares : Fares w id task event after used read) : after.query = task.query := by
  cases fares with
  | reads found => rw [(Task.read_eq_some found).2]
  | _ => rfl

theorem Fares.stage_of_quiet {event : Event} {after : Task} {used : List Use} {read : List Outcome}
    (fares : Fares w id task event after used read) (unpolled : ∀ reply?, event ≠ .poll id reply?)
    (kept : event ≠ .destroy) : after.stage = task.stage := by
  cases fares with
  | stays => rfl
  | finishes running reply => exact absurd rfl (unpolled _)
  | discards aborted reply? => exact absurd rfl (unpolled _)
  | aborts => exact absurd rfl kept
  | reads found => rw [(Task.read_eq_some found).2]
  | leaves => rfl

end Workload

end HostLookup.Engine
