import HostLookup.Proofs.Flow
import HostLookup.Proofs.Shift
import Mathlib.Data.List.Nodup

/-! What always holds of the lookups of a resolver. A poll goes on with one lookup and leaves the others where
they are; the channels shift under all of them. -/
namespace HostLookup.Resolver

/-- What holds of the tasks between polls and of the lookups that are over, one that is working apart. -/
structure Settled (s : State) (working : Option Nat) : Prop where
  distinct : (s.tasks.map Task.id).Nodup
  bound : ∀ task ∈ s.tasks, task.id < s.nextTask
  unknown : ∀ id, s.nextTask ≤ id → s.history id = {}
  stands : ∀ task ∈ s.tasks, Stands s.toLifecycle (s.history task.id) task.stage
  lawful : ∀ id < s.nextTask, working ≠ some id →
    ∃ call, (s.history id).call = some call ∧ (s.history id).Lawful call
  away : ∀ id, working = some id → id < s.nextTask ∧ ∀ task ∈ s.tasks, task.id ≠ id

structure Coherent (s : State) : Prop where
  settled : Settled s (s.busy.map (·.1))
  awaits : ∀ id request, s.busy = some (id, request) → Awaits s.toLifecycle (s.history id) request

variable {s t : State} {id : Nat}

theorem Settled.of_only (settled : Settled s (some id)) (only : Only s t id) :
    Settled t (some id) := by
  have elsewhere : ∀ other, some id ≠ some other → t.history other = s.history other :=
    fun other different => only.history other fun same => different (congrArg some same)
  obtain ⟨inside, apart⟩ := settled.away id rfl
  refine ⟨?_, ?_, ?_, ?_, ?_, ?_⟩
  · rw [only.tasks]
    exact settled.distinct
  · rw [only.tasks, only.nextTask]
    exact settled.bound
  · intro other beyond
    rw [only.nextTask] at beyond
    rw [only.history other (by omega)]
    exact settled.unknown other beyond
  · intro task member
    rw [only.tasks] at member
    rw [only.lifecycle, only.history task.id (apart task member).symm]
    exact settled.stands task member
  · intro other inside different
    rw [only.nextTask] at inside
    rw [elsewhere other different]
    exact settled.lawful other inside different
  · intro other same
    rw [only.tasks, only.nextTask]
    exact settled.away other same

theorem Settled.coherent (settled : Settled t (some id)) (comes : Comes t id) : Coherent t := by
  rcases comes with ⟨request, busy, awaits⟩ | ⟨idle, call, called, lawful⟩
  · refine ⟨?_, ?_⟩
    · rw [busy]
      exact settled
    · intro other asked found
      rw [busy, Option.some.injEq, Prod.mk.injEq] at found
      obtain ⟨rfl, rfl⟩ := found
      exact awaits
  · refine ⟨⟨settled.distinct, settled.bound, settled.unknown, settled.stands, ?_, ?_⟩, ?_⟩
    · intro other inside _
      by_cases same : id = other
      · subst same
        exact ⟨call, called, lawful⟩
      · exact settled.lawful other inside (by simpa using same)
    · intro other found
      simp [idle] at found
    · intro other asked found
      simp [idle] at found

theorem Coherent.working (coherent : Coherent s) {request : Request}
    (busy : s.busy = some (id, request)) : Settled s (some id) := by
  have settled := coherent.settled
  rw [busy] at settled
  exact settled

theorem Coherent.idle (coherent : Coherent s) (idle : s.busy = none) : Settled s none := by
  have settled := coherent.settled
  rw [idle] at settled
  exact settled

theorem Settled.idle (settled : Settled s none) (idle : s.busy = none) : Coherent s := by
  refine ⟨?_, ?_⟩
  · rw [idle]
    exact settled
  · intro id request found
    simp [idle] at found

theorem State.task?_some {task : Task} (found : s.task? id = some task) :
    task ∈ s.tasks ∧ task.id = id :=
  ⟨List.mem_of_find?_eq_some found, by simpa using List.find?_some found⟩

theorem distinct_put {α : Type} {key : α → Nat} {l : List α} {a : α} (distinct : (l.map key).Nodup)
    (apart : ∀ b ∈ l, key b ≠ key a) : ((l ++ [a]).map key).Nodup := by
  rw [List.map_append, List.map_singleton, ← List.concat_eq_append, List.nodup_concat]
  refine ⟨?_, distinct⟩
  intro among
  obtain ⟨b, member, same⟩ := List.mem_map.mp among
  exact apart b member same

theorem Settled.aside {working : Option Nat} (settled : Settled s working) (released : Bool)
    (held : List Held) (ready : List Runnable) : Settled { s with released, held, ready } working :=
  ⟨settled.distinct, settled.bound, settled.unknown, settled.stands, settled.lawful, settled.away⟩

theorem Coherent.aside (coherent : Coherent s) (released : Bool) (held : List Held)
    (ready : List Runnable) : Coherent { s with released, held, ready } :=
  ⟨coherent.settled.aside released held ready, coherent.awaits⟩

theorem Coherent.wake (coherent : Coherent s) (runnable : Runnable) : Coherent (s.wake runnable) := by
  unfold State.wake
  split
  · exact coherent
  · exact coherent.aside s.released s.held _

theorem Settled.remove (settled : Settled s none) (id : Nat) : Settled (s.removeTask id) none := by
  have fewer : (s.removeTask id).tasks.Sublist s.tasks := List.filter_sublist
  refine ⟨settled.distinct.sublist (fewer.map _), ?_, settled.unknown, ?_, settled.lawful, ?_⟩
  · exact fun task member => settled.bound task (fewer.subset member)
  · exact fun task member => settled.stands task (fewer.subset member)
  · intro other found
    contradiction

theorem Settled.take (settled : Settled s none) {task : Task} (found : s.task? id = some task) :
    Settled (s.removeTask id) (some id) := by
  obtain ⟨member, rfl⟩ := State.task?_some found
  have removed := settled.remove task.id
  refine ⟨removed.distinct, removed.bound, removed.unknown, removed.stands, ?_, ?_⟩
  · exact fun other inside _ => removed.lawful other inside (by simp)
  · intro other same
    obtain rfl := Option.some.inj same
    refine ⟨settled.bound task member, ?_⟩
    intro other remains
    simpa using (List.mem_filter.mp remains).2

theorem Settled.goes_on (settled : Settled s (some id)) (only : Only s t id) (comes : Comes t id) :
    Coherent t :=
  (settled.of_only only).coherent comes

section Polls

variable (custody : s.Custody)
include custody

theorem Coherent.poll (coherent : Coherent s) (idle : s.busy = none) (id : Nat) :
    Coherent (s.poll id) := by
  have woken : Settled { s with ready := s.ready.erase (.task id) } none :=
    (coherent.idle idle).aside s.released s.held _
  unfold State.poll
  dsimp only
  split
  · exact woken.idle idle
  · next task found =>
    have taken := woken.take found
    have stands := (coherent.idle idle).stands task (State.task?_some found).1
    rw [(State.task?_some found).2] at stands
    split
    · exact (woken.remove id).idle idle
    -- From here on the task is away, and what stood with it in the tasks carries the poll.
    · split
      · next call stage =>
        rw [stage] at stands
        exact taken.goes_on (Goes.follow _ id _).only (follow_comes custody stands (plan_serves call _))
      · next loop generation query next reply stage =>
        rw [stage] at stands
        obtain ⟨call, under⟩ := stands
        refine taken.goes_on (Goes.resume _ id loop generation _).only_heard
          (resume_comes custody ⟨call, ?_⟩)
        rw [State.history_note]
        exact under.hears_engine reply
      · exact woken.idle idle

theorem Coherent.answerNative (coherent : Coherent s) (reply : NativeReply) :
    Coherent (s.answerNative reply) := by
  unfold State.answerNative
  split
  · next id query next busy =>
    obtain ⟨call, idle, serves⟩ := coherent.awaits id _ busy
    refine (coherent.working busy).goes_on (Goes.follow _ id _).only_heard
      (follow_comes custody ?_ (serves (reply query)))
    rw [State.history_note]
    exact idle.heard _
  · next id loop generation query next busy =>
    obtain ⟨call, under⟩ := coherent.awaits id _ busy
    refine (coherent.working busy).goes_on (Goes.resume _ id loop generation _).only_heard
      (resume_comes custody ⟨call, ?_⟩)
    rw [State.history_note]
    exact under.hears_native (reply query)
  · exact coherent

theorem Coherent.answerEngine (coherent : Coherent s) (reaction : Reaction) :
    Coherent (s.answerEngine reaction) := by
  unfold State.answerEngine
  split
  · next id loop generation channel query next busy =>
    have working := coherent.working busy
    obtain ⟨inside, apart⟩ := working.away id rfl
    have awaits := coherent.awaits id _ busy
    split
    · next reply given =>
      obtain ⟨call, under⟩ := awaits
      refine working.goes_on (Goes.resume _ id loop generation _).only_heard
        (resume_comes custody ⟨call, ?_⟩)
      rw [State.history_note]
      exact under.hears_engine (reply query)
    · refine Settled.idle ⟨?_, ?_, working.unknown, ?_, ?_, ?_⟩ rfl
      · exact distinct_put working.distinct apart
      · exact List.forall_mem_append.mpr ⟨working.bound, List.forall_mem_singleton.mpr inside⟩
      · exact List.forall_mem_append.mpr ⟨working.stands, List.forall_mem_singleton.mpr awaits⟩
      · intro other bound _
        by_cases same : id = other
        · subst same
          obtain ⟨call, under⟩ := awaits
          exact ⟨call, under.called, under.lawful fun _ => by simp⟩
        · exact working.lawful other bound (by simpa using same)
      · intro other found
        contradiction
  · exact coherent

end Polls

theorem Coherent.updateTask (coherent : Coherent s) (id : Nat) {update : Task → Task}
    (same : ∀ task, (update task).id = task.id)
    (stands : ∀ l h task, Stands l h task.stage → Stands l h (update task).stage) :
    Coherent (s.updateTask id update) := by
  have settled := coherent.settled
  have ids : (s.updateTask id update).tasks.map Task.id = s.tasks.map Task.id := by
    rw [State.updateTask, List.map_map]
    refine List.map_congr_left fun task _ => ?_
    simp only [Function.comp_apply]
    split
    · exact same task
    · rfl
  have from_task : ∀ task ∈ (s.updateTask id update).tasks, ∃ old ∈ s.tasks, task.id = old.id ∧
      ∀ l h, Stands l h old.stage → Stands l h task.stage := by
    intro task member
    obtain ⟨old, remains, rfl⟩ := List.mem_map.mp member
    refine ⟨old, remains, ?_⟩
    split
    · exact ⟨same old, fun l h => stands l h old⟩
    · exact ⟨rfl, fun l h still => still⟩
  refine ⟨⟨ids ▸ settled.distinct, ?_, settled.unknown, ?_, settled.lawful, ?_⟩, coherent.awaits⟩
  · intro task member
    obtain ⟨old, remains, equal, -⟩ := from_task task member
    rw [equal]
    exact settled.bound old remains
  · intro task member
    obtain ⟨old, remains, equal, still⟩ := from_task task member
    rw [equal]
    exact still _ _ (settled.stands old remains)
  · intro other working
    refine ⟨(settled.away other working).1, ?_⟩
    intro task member
    obtain ⟨old, remains, equal, -⟩ := from_task task member
    rw [equal]
    exact (settled.away other working).2 old remains

theorem id_receive (reply : EngineReply) (task : Task) : (State.receive reply task).id = task.id := by
  unfold State.receive
  split <;> rfl

theorem Stands.receive (reply : EngineReply) {l : Lifecycle} {h : History} {task : Task}
    (stands : Stands l h task.stage) : Stands l h (State.receive reply task).stage := by
  unfold State.receive
  split
  · next stage =>
    rw [stage] at stands
    exact stands
  · exact stands

theorem Coherent.signal (coherent : Coherent s) (id : Nat) (reply : EngineReply) :
    Coherent (s.signal id reply) := by
  unfold State.signal
  split
  · exact coherent
  · exact (coherent.updateTask id (id_receive reply) fun _ _ _ => Stands.receive reply).wake _

theorem Coherent.deliver (coherent : Coherent s) (id : Nat) (reply : EngineReply) :
    Coherent (s.deliver id reply) := by
  unfold State.deliver
  split
  · exact coherent
  · exact (coherent.aside s.released _ s.ready).signal id reply

theorem Coherent.cancel (coherent : Coherent s) (id : Nat) : Coherent (s.cancel id) := by
  unfold State.cancel
  split
  · exact coherent
  · refine (coherent.updateTask id ?_ ?_).wake _
    · exact fun _ => rfl
    · exact fun _ _ _ stands => stands

theorem Coherent.startTask (coherent : Coherent s) (call : Call) : Coherent (s.startTask call) := by
  have settled := coherent.settled
  have elsewhere : ∀ id, id ≠ s.nextTask →
      (s.note s.nextTask (.started call)).history id = s.history id := fun id different =>
    s.history_note_of_ne s.nextTask id _ different.symm
  have new : (s.note s.nextTask (.started call)).history s.nextTask = { call := some call } := by
    rw [State.history_note, settled.unknown s.nextTask le_rfl]
    rfl
  have older : ∀ id request, s.busy = some (id, request) → id < s.nextTask := fun id request busy =>
    (settled.away id (by rw [busy]; rfl)).1
  refine Coherent.wake ⟨⟨?_, ?_, ?_, ?_, ?_, ?_⟩, ?_⟩ _
  · exact distinct_put settled.distinct fun task member => (settled.bound task member).ne
  · refine List.forall_mem_append.mpr ⟨?_, List.forall_mem_singleton.mpr (Nat.lt_succ_self _)⟩
    exact fun task member => (settled.bound task member).trans (Nat.lt_succ_self _)
  · intro id beyond
    have beyond : s.nextTask + 1 ≤ id := beyond
    exact (elsewhere id (by omega)).trans (settled.unknown id (by omega))
  · refine List.forall_mem_append.mpr ⟨?_, List.forall_mem_singleton.mpr ?_⟩
    · intro task member
      change Stands s.toLifecycle ((s.note s.nextTask (.started call)).history task.id) task.stage
      rw [elsewhere task.id (settled.bound task member).ne]
      exact settled.stands task member
    · change History.Idle call ((s.note s.nextTask (.started call)).history s.nextTask)
      rw [new]
      exact ⟨rfl, rfl, rfl⟩
  · intro id inside working
    have inside : id < s.nextTask + 1 := inside
    change ∃ own, ((s.note s.nextTask (.started call)).history id).call = some own ∧
      ((s.note s.nextTask (.started call)).history id).Lawful own
    by_cases same : id = s.nextTask
    · rw [same, new]
      exact ⟨call, rfl, Or.inl rfl⟩
    · rw [elsewhere id same]
      exact settled.lawful id (by omega) working
  · intro id working
    obtain ⟨inside, apart⟩ := settled.away id working
    refine ⟨inside.trans (Nat.lt_succ_self _), ?_⟩
    exact List.forall_mem_append.mpr ⟨apart, List.forall_mem_singleton.mpr inside.ne'⟩
  · intro id request busy
    change Awaits s.toLifecycle ((s.note s.nextTask (.started call)).history id) request
    rw [elsewhere id (older id request busy).ne]
    exact coherent.awaits id request busy

theorem Coherent.across (coherent : Coherent s) (tasks : t.tasks = s.tasks) (busy : t.busy = s.busy)
    (next : t.nextTask = s.nextTask)
    (history : ∀ id, t.history id = (s.history id).across s.toLifecycle t.toLifecycle)
    (shift : Shift s.toLifecycle t.toLifecycle)
    (quiet : s.busy.isSome → t.generation = s.generation ∨ t.generation = none) : Coherent t := by
  have settled := coherent.settled
  refine ⟨⟨?_, ?_, ?_, ?_, ?_, ?_⟩, ?_⟩
  · rw [tasks]
    exact settled.distinct
  · rw [tasks, next]
    exact settled.bound
  · intro id beyond
    rw [next] at beyond
    rw [history id, settled.unknown id beyond]
    unfold History.across
    split <;> rfl
  · intro task member
    rw [tasks] at member
    rw [history task.id]
    exact (settled.stands task member).across shift
  · intro id inside working
    rw [next] at inside
    rw [busy] at working
    obtain ⟨call, called, lawful⟩ := settled.lawful id inside working
    rw [history id, History.call_across]
    exact ⟨call, called, lawful.across⟩
  · rw [tasks, busy, next]
    exact settled.away
  · intro id request asked
    rw [busy] at asked
    rw [history id]
    exact (coherent.awaits id request asked).across shift (quiet (by simp [asked]))

theorem Coherent.manage (coherent : Coherent s) {change : Lifecycle → Lifecycle}
    (shift : Shift s.toLifecycle (change s.toLifecycle))
    (quiet : s.busy.isSome → (change s.toLifecycle).generation = s.generation ∨
      (change s.toLifecycle).generation = none) : Coherent (s.manage change) := by
  have history := fun id => s.history_manage id change
  obtain ⟨ready, managed⟩ := s.manage_eq change
  rw [managed] at history ⊢
  exact coherent.across rfl rfl rfl history shift quiet

theorem Coherent.keep (coherent : Coherent s) (change : Lifecycle → Lifecycle)
    (slot : (change s.toLifecycle).slot = s.slot)
    (next : (change s.toLifecycle).nextGeneration = s.nextGeneration) : Coherent (s.manage change) :=
  coherent.manage (.of_eq slot next) fun _ => Or.inl (by
    rw [Lifecycle.generation, slot, Lifecycle.generation])

theorem Coherent.close (coherent : Coherent s) : Coherent s.close :=
  coherent.manage (.close s.toLifecycle) fun _ => Or.inr (by
    rw [Lifecycle.generation, Lifecycle.close, Lifecycle.slot_detach, Option.map_none])

theorem Coherent.signalAll (coherent : Coherent s) (completions : List Held) (reply : EngineReply) :
    Coherent (completions.foldl (fun s (completion : Held) => s.signal completion.task reply) s) := by
  induction completions generalizing s with
  | nil => exact coherent
  | cons completion rest ih => exact ih (coherent.signal completion.task reply)

theorem Coherent.destroy (coherent : Coherent s) (channel : Nat) : Coherent (s.destroy channel) := by
  have torn : Coherent (s.manage (·.destroy channel)) := coherent.keep _ rfl rfl
  unfold State.destroy
  dsimp only
  split
  · exact (torn.aside _ _ _).signalAll _ _
  · exact torn

theorem Coherent.hub (coherent : Coherent s) (hub : Hub Callback) : Coherent { s with hub } := by
  refine coherent.across rfl rfl rfl ?_ (.of_eq rfl rfl) fun _ => Or.inl rfl
  exact fun id => (History.across_of_eq rfl).symm

theorem Coherent.turn (coherent : Coherent s) (idle : s.busy = none) : Coherent s.turn := by
  unfold State.turn
  split
  · exact coherent.aside _ _ _
  · next callback hub _ =>
    have popped := coherent.hub hub
    have ran : Coherent (({ s with hub } : State).runCallback callback) := by
      cases callback with
      | destroy channel => exact popped.destroy channel
      | fork => exact popped.manage (.onFork _) fun busy => by simp [idle] at busy
    dsimp only
    split
    · exact ran.aside _ _ _
    · exact ran

theorem Coherent.act (coherent : Coherent s) (custody : s.Custody) (event : Event) :
    Coherent (act s event) := by
  cases event with
  | start call =>
    rcases act_start s call with same | ⟨-, started⟩
    · exact same.symm ▸ coherent
    · exact started.symm ▸ coherent.startTask call
  | poll task =>
    rcases act_poll s task with same | ⟨idle, -, polled⟩
    · exact same.symm ▸ coherent
    · exact polled.symm ▸ coherent.poll custody idle task
  | turn =>
    rcases act_turn s with same | ⟨idle, turned⟩
    · exact same.symm ▸ coherent
    · exact turned.symm ▸ coherent.turn idle
  | answerNative reply => exact coherent.answerNative custody reply
  | answerEngine reaction => exact coherent.answerEngine custody reaction
  | deliver task reply => exact coherent.deliver task reply
  | abandon task => exact coherent.deliver task lost
  | cancel task => exact coherent.cancel task
  | setPid pid => exact coherent.keep (·.setPid pid) rfl rfl
  | reinit => exact coherent.keep Lifecycle.reinit rfl rfl
  | close => exact coherent.close
  | release => exact coherent.aside true s.held s.ready
  | obstruct obstacle =>
    refine coherent.across rfl rfl rfl ?_ (.of_eq rfl rfl) fun _ => Or.inl rfl
    exact fun id => (History.across_of_eq rfl).symm

theorem Coherent.step (coherent : Coherent s) (custody : s.Custody) (event : Event) :
    Coherent (step s event) := by
  rcases settleOwner_cases (Resolver.act s event) with same | closed
  · rw [Resolver.step, same]
    exact coherent.act custody event
  · rw [Resolver.step, closed]
    exact (coherent.act custody event).close

theorem Coherent.of_built {builder : Builder} {obstacle : Option LookupError} {hub : Hub Callback}
    (ok : builder.build obstacle hub = .ok s) : Coherent s := by
  obtain ⟨-, config, rfl⟩ := build_eq ok
  refine ⟨⟨List.nodup_nil, ?_, fun _ _ => rfl, ?_, ?_, ?_⟩, ?_⟩
  · intro task member
    contradiction
  · intro task member
    contradiction
  · intro id inside
    contradiction
  · intro id working
    contradiction
  · intro id request busy
    contradiction

theorem Reachable.coherent (reachable : Reachable s) : Coherent s := by
  induction reachable with
  | built clear ok => exact .of_built ok
  | step before _ ih => exact ih.step (Reached.reachable before).custody _

theorem Reachable.lawful_of_lt (reachable : Reachable s) (inside : id < s.nextTask) :
    ∃ call, (s.history id).call = some call ∧ (s.history id).Lawful call := by
  have coherent := reachable.coherent
  cases busy : s.busy with
  | none => exact (coherent.idle busy).lawful id inside (by simp)
  | some poll =>
    obtain ⟨other, request⟩ := poll
    by_cases same : other = id
    · subst same
      have awaits := coherent.awaits other request busy
      cases request with
      | plan query next =>
        obtain ⟨call, idle, -⟩ := awaits
        exact ⟨call, idle.called, Or.inl idle.trials⟩
      | native loop generation query next =>
        obtain ⟨call, under⟩ := awaits
        exact ⟨call, under.called, under.lawful fun _ => by simp⟩
      | engine loop generation channel query next =>
        obtain ⟨call, under⟩ := awaits
        exact ⟨call, under.called, under.lawful fun _ => by simp⟩
    · exact (coherent.working busy).lawful id inside (by simpa using same)

theorem Reachable.lawful (reachable : Reachable s) {call : Call}
    (called : (s.history id).call = some call) : (s.history id).Lawful call := by
  have inside : id < s.nextTask := by
    by_contra beyond
    rw [reachable.coherent.settled.unknown id (Nat.not_lt.mp beyond)] at called
    contradiction
  obtain ⟨own, called', lawful⟩ := reachable.lawful_of_lt inside
  obtain rfl : own = call := Option.some.inj (called'.symm.trans called)
  exact lawful

theorem Reachable.faithful (reachable : Reachable s) {t : Trial}
    (member : t ∈ (s.history id).trials) : t.Faithful := by
  rcases Nat.lt_or_ge id s.nextTask with inside | beyond
  · obtain ⟨call, -, lawful⟩ := reachable.lawful_of_lt inside
    exact lawful.each (fun _ _ past => past.faithful) (fun _ _ last => last.faithful) t member
  · rw [reachable.coherent.settled.unknown id beyond] at member
    contradiction

end HostLookup.Resolver
