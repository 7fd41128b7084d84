import HostLookup.Proofs.Coherence
import HostLookup.Proofs.Dispatch

/-! The completions in the hands of the engines, where an engine says that a channel was torn down only after
it was. Each belongs to one lookup that waits for it, and what a lookup is told of a teardown is told after the
slot has changed under it. -/
namespace HostLookup.Resolver

/-- Waits for a reply, on a generation that is not newer than the channel. -/
def Stage.Attends (channel : Nat) : Stage → Prop
  | .waiting _ generation _ _ reply => reply = none ∧ ∃ g, generation = some g ∧ g ≤ channel + 1
  | .fresh _ => False

/-- If a reply that was not read yet tells of a teardown, the generation of the attempt is not that of `now`. -/
def Stage.Told (now : Option Nat) : Stage → Prop
  | .waiting _ generation _ _ reply => reply = some (.error .destruction) → now ≠ generation
  | .fresh _ => True

def Stage.Tells (reply : EngineReply) : Stage → Prop
  | .waiting _ _ query _ none => reply query = .error .destruction
  | _ => False

structure Attended (s : State) : Prop where
  distinct : (s.held.map Held.task).Nodup
  bound : ∀ held ∈ s.held, held.task < s.nextTask ∧ held.channel + 1 < s.nextGeneration
  apart : ∀ id request, s.busy = some (id, request) → ∀ held ∈ s.held, held.task ≠ id
  attends : ∀ task ∈ s.tasks, ∀ held ∈ s.held, held.task = task.id → task.stage.Attends held.channel
  told : ∀ task ∈ s.tasks, task.stage.Told s.generation

def State.Truthful (s : State) (id : Nat) (reply : EngineReply) : Prop :=
  ∀ task ∈ s.tasks, ∀ held, task.id = id → s.heldOf? id = some held → task.stage.Tells reply →
    0 < s.timesDestroyed held.channel

/-- The engines name a teardown, or drop a completion, only when it has run. -/
def Event.Honest (s : State) : Event → Prop
  | .answerEngine reaction => ∀ id loop generation channel query next reply,
      s.busy = some (id, .engine loop generation channel query next) → reaction.reply? = some reply →
      reply query = .error .destruction → 0 < s.timesDestroyed channel
  | .deliver id reply => s.Truthful id reply
  | .abandon id => s.Truthful id lost
  | _ => True

variable {s t u : State} {id : Nat}

theorem Lifecycle.Custody.generation_ne {l : Lifecycle} (custody : l.Custody) {channel g : Nat}
    (torn : 0 < l.timesDestroyed channel) (older : g ≤ channel + 1) : l.generation ≠ some g := by
  intro live
  obtain ⟨slot, found, rfl⟩ := Option.map_eq_some_iff.mp live
  obtain ⟨given, newest⟩ := custody.newest slot found
  have times := custody.teardowns channel
  simp only [Lifecycle.teardowns] at times
  split at times
  · next out =>
    obtain rfl : slot.channel = channel := by omega
    exact out.2 (by rw [Lifecycle.channel?, found, Option.map_some])
  · omega

theorem Stands.bound {l : Lifecycle} {h : History} {loop : Loop} {generation : Option Nat}
    {query : EngineQuery} {next : Except Fault query.Answer → Attempt}
    {reply : Option (Except Fault query.Answer)}
    (stands : Stands l h (.waiting loop generation query next reply)) :
    ∃ g, generation = some g ∧ g < l.nextGeneration := by
  obtain ⟨call, under⟩ := stands
  obtain ⟨past, last, trials, before, chained, current, asked⟩ := under.trials
  cases given : generation with
  | none => exact absurd (current.channels_of_none given) asked
  | some g => exact ⟨g, rfl, current.bound g given⟩

theorem Reachable.asked_since (reachable : Reachable s) {channel : Nat} {loop : Loop}
    {generation : Option Nat} {query : EngineQuery} {next : Except Fault query.Answer → Attempt}
    (busy : s.busy = some (id, .engine loop generation channel query next)) :
    (∃ g, generation = some g ∧ g ≤ channel + 1) ∧ channel + 1 < s.nextGeneration := by
  induction reachable generalizing id channel loop generation query next with
  | built clear ok =>
    obtain ⟨-, config, rfl⟩ := build_eq ok
    contradiction
  | @step s event before _ ih =>
    have after := (Reached.reachable before).step event
    cases asks_step s event with
    | nothing issues stops =>
      rcases stops with same | idle
      · rw [same] at busy
        obtain ⟨since, created⟩ := ih busy
        exact ⟨since, created.trans_le (nextGeneration_step s event)⟩
      · simp [idle] at busy
    | query issues stops live =>
      have awaits := after.coherent.awaits id _ busy
      obtain ⟨g, given, bound⟩ := Stands.bound (show Stands _ _ (.waiting loop generation query next none)
        from awaits)
      rw [busy, Option.some.injEq, Prod.mk.injEq] at stops
      obtain ⟨-, rfl⟩ := stops
      have newest := (after.custody.dispatched (live channel rfl)).2.1
      rw [after.custody.length_created] at newest
      have next := after.custody.next
      exact ⟨⟨g, given, by omega⟩, by omega⟩

namespace Attended

theorem across (attended : Attended s) (coherent : Coherent s) (tasks : t.tasks = s.tasks)
    (held : t.held = s.held) (busy : t.busy = s.busy) (next : t.nextTask = s.nextTask)
    (shift : Shift s.toLifecycle t.toLifecycle) : Attended t := by
  refine ⟨?_, ?_, ?_, ?_, ?_⟩
  · rw [held]
    exact attended.distinct
  · rw [held, next]
    intro completion member
    obtain ⟨older, created⟩ := attended.bound completion member
    exact ⟨older, created.trans_le shift.next⟩
  · rw [busy, held]
    exact attended.apart
  · rw [tasks, held]
    exact attended.attends
  · rw [tasks]
    intro task member
    have stands := coherent.settled.stands task member
    have told := attended.told task member
    cases stage : task.stage with
    | fresh call => trivial
    | waiting loop generation query next reply =>
      rw [stage] at stands told
      intro tells back
      obtain ⟨g, given, bound⟩ := stands.bound
      rw [given] at back
      exact told tells ((shift.older bound back).trans given.symm)

theorem ready (attended : Attended s) (ready : List Runnable) : Attended { s with ready } :=
  ⟨attended.distinct, attended.bound, attended.apart, attended.attends, attended.told⟩

theorem wake (attended : Attended s) (runnable : Runnable) : Attended (s.wake runnable) := by
  unfold State.wake
  split
  · exact attended
  · exact attended.ready _

theorem goes_on (attended : Attended s) (only : Only s t id) (goes : Goes id u t)
    (apart : ∀ held ∈ s.held, held.task ≠ id) : Attended t := by
  refine ⟨?_, ?_, ?_, ?_, ?_⟩
  · rw [only.held]
    exact attended.distinct
  · rw [only.held, only.nextTask, only.lifecycle]
    exact attended.bound
  · intro other request stops
    obtain rfl := goes.busy stops
    rw [only.held]
    exact apart
  · rw [only.tasks, only.held]
    exact attended.attends
  · rw [only.tasks, only.lifecycle]
    exact attended.told

theorem remove (attended : Attended s) (id : Nat) : Attended (s.removeTask id) := by
  have fewer : ∀ task ∈ (s.removeTask id).tasks, task ∈ s.tasks := fun task member =>
    (List.mem_filter.mp member).1
  exact ⟨attended.distinct, attended.bound, attended.apart,
    fun task member => attended.attends task (fewer task member),
    fun task member => attended.told task (fewer task member)⟩

theorem poll (attended : Attended s) (id : Nat) : Attended (s.poll id) := by
  have woken : Attended { s with ready := s.ready.erase (.task id) } := attended.ready _
  unfold State.poll
  dsimp only
  split
  · exact woken
  · next task found =>
    obtain ⟨member, rfl⟩ := State.task?_some found
    have removed := woken.remove task.id
    split
    · exact removed
    · split
      · next call stage =>
        refine removed.goes_on (Goes.follow _ _ _).only (.follow _ _ _) ?_
        intro held among same
        have attends := attended.attends task member held among same
        rw [stage] at attends
        exact attends
      · next loop generation query next reply stage =>
        refine removed.goes_on (Goes.resume _ _ _ _ _).only_heard (.resume _ _ _ _ _) ?_
        intro held among same
        have attends := attended.attends task member held among same
        rw [stage] at attends
        exact absurd attends.1 (by simp)
      · exact woken

theorem answerNative (attended : Attended s) (reply : NativeReply) :
    Attended (s.answerNative reply) := by
  unfold State.answerNative
  split
  · next id query next busy =>
    exact attended.goes_on (Goes.follow _ _ _).only_heard (.follow _ _ _) (attended.apart id _ busy)
  · next id loop generation query next busy =>
    exact attended.goes_on (Goes.resume _ _ _ _ _).only_heard (.resume _ _ _ _ _)
      (attended.apart id _ busy)
  · exact attended

theorem answerEngine (attended : Attended s) (reachable : Reachable s) (reaction : Reaction) :
    Attended (s.answerEngine reaction) := by
  unfold State.answerEngine
  split
  · next id loop generation channel query next busy =>
    have apart := attended.apart id _ busy
    split
    · exact attended.goes_on (Goes.resume _ _ _ _ _).only_heard (.resume _ _ _ _ _) apart
    · obtain ⟨since, created⟩ := reachable.asked_since busy
      obtain ⟨inside, elsewhere⟩ := (reachable.coherent.working busy).away id rfl
      refine ⟨?_, ?_, ?_, ?_, ?_⟩
      · exact distinct_put attended.distinct apart
      · exact List.forall_mem_append.mpr ⟨attended.bound, List.forall_mem_singleton.mpr ⟨inside, created⟩⟩
      · intro other request stops
        contradiction
      · refine List.forall_mem_append.mpr ⟨?_, List.forall_mem_singleton.mpr ?_⟩
        · intro task member
          refine List.forall_mem_append.mpr ⟨attended.attends task member,
            List.forall_mem_singleton.mpr ?_⟩
          exact fun same => absurd same.symm (elsewhere task member)
        · refine List.forall_mem_append.mpr ⟨?_, List.forall_mem_singleton.mpr fun _ => ⟨rfl, since⟩⟩
          exact fun held among same => absurd same (apart held among)
      · exact List.forall_mem_append.mpr ⟨attended.told,
          List.forall_mem_singleton.mpr fun tells => absurd tells (by simp)⟩
  · exact attended

theorem updateTask (attended : Attended s) (id : Nat) {update : Task → Task}
    (same : ∀ task, (update task).id = task.id)
    (attends : ∀ task ∈ s.tasks, task.id = id → ∀ held ∈ s.held, held.task = id →
      (update task).stage.Attends held.channel)
    (told : ∀ task ∈ s.tasks, task.id = id → (update task).stage.Told s.generation) :
    Attended (s.updateTask id update) := by
  refine ⟨attended.distinct, attended.bound, attended.apart, ?_, ?_⟩
  · intro task member held among waits
    obtain ⟨old, remains, rfl⟩ := List.mem_map.mp member
    by_cases mine : old.id = id
    · simp only [if_pos mine] at waits ⊢
      rw [same] at waits
      exact attends old remains mine held among (waits.trans mine)
    · simp only [if_neg mine] at waits ⊢
      exact attended.attends old remains held among waits
  · intro task member
    obtain ⟨old, remains, rfl⟩ := List.mem_map.mp member
    by_cases mine : old.id = id
    · simp only [if_pos mine]
      exact told old remains mine
    · simp only [if_neg mine]
      exact attended.told old remains

theorem cancel (attended : Attended s) (id : Nat) : Attended (s.cancel id) := by
  unfold State.cancel
  split
  · exact attended
  · refine (attended.updateTask id ?_ ?_ ?_).wake _
    · exact fun _ => rfl
    · intro task member mine held among same
      exact attended.attends task member held among (same.trans mine.symm)
    · exact fun task member _ => attended.told task member

theorem signal (attended : Attended s) {id : Nat} {reply : EngineReply}
    (gone : ∀ held ∈ s.held, held.task ≠ id)
    (told : ∀ task ∈ s.tasks, task.id = id → (State.receive reply task).stage.Told s.generation) :
    Attended (s.signal id reply) := by
  unfold State.signal
  split
  · exact attended
  · refine (attended.updateTask id (id_receive reply) ?_ told).wake _
    intro task member mine held among same
    exact absurd same (gone held among)

end Attended

theorem Stage.Told.receive {now : Option Nat} {reply : EngineReply} {task : Task}
    (told : task.stage.Told now)
    (honest : ∀ loop generation query next, task.stage = .waiting loop generation query next none →
      reply query = .error .destruction → now ≠ generation) :
    (State.receive reply task).stage.Told now := by
  unfold State.receive
  split
  · next loop generation query next stage =>
    exact fun tells => honest loop generation query next stage (Option.some.inj tells)
  · exact told

theorem stage_of_receive {reply : EngineReply} {task : Task} {loop : Loop} {generation : Option Nat}
    {query : EngineQuery} {next : Except Fault query.Answer → Attempt}
    (stage : (State.receive reply task).stage = .waiting loop generation query next none) :
    task.stage = .waiting loop generation query next none := by
  unfold State.receive at stage
  split at stage
  · simp only [Stage.waiting.injEq] at stage
    obtain ⟨-, -, rfl, -, missing⟩ := stage
    simp at missing
  · exact stage

namespace State

theorem held_signal (s : State) (id : Nat) (reply : EngineReply) : (s.signal id reply).held = s.held := by
  unfold signal
  split
  · rfl
  · unfold wake
    split <;> rfl

theorem tasks_signal (s : State) (id : Nat) (reply : EngineReply) :
    ∀ task ∈ (s.signal id reply).tasks, task ∈ s.tasks ∨ ∃ old ∈ s.tasks, task = receive reply old := by
  have updated : ∀ task ∈ (s.updateTask id (receive reply)).tasks,
      task ∈ s.tasks ∨ ∃ old ∈ s.tasks, task = receive reply old := by
    intro task member
    obtain ⟨old, remains, rfl⟩ := List.mem_map.mp member
    by_cases mine : old.id = id
    · exact Or.inr ⟨old, remains, if_pos mine⟩
    · rw [if_neg mine]
      exact Or.inl remains
  unfold signal
  split
  · exact fun task member => Or.inl member
  · unfold wake
    split <;> exact updated

end State

namespace Attended

theorem signalAll (attended : Attended s) {completions : List Held} {reply : EngineReply}
    (gone : ∀ completion ∈ completions, ∀ held ∈ s.held, held.task ≠ completion.task)
    (late : ∀ completion ∈ completions, ∀ task ∈ s.tasks, task.id = completion.task →
      ∀ loop generation query next, task.stage = .waiting loop generation query next none →
        s.generation ≠ generation) :
    Attended (completions.foldl (fun s (completion : Held) => s.signal completion.task reply) s) := by
  induction completions generalizing s with
  | nil => exact attended
  | cons completion rest ih =>
    refine ih (attended.signal (gone completion (by simp)) ?_) ?_ ?_
    · intro task member mine
      refine (attended.told task member).receive fun loop generation query next stage _ => ?_
      exact late completion (by simp) task member mine loop generation query next stage
    · intro other among
      rw [State.held_signal]
      exact gone other (by simp [among])
    · intro other among task member mine loop generation query next stage
      rw [State.toLifecycle_signal]
      rcases s.tasks_signal completion.task reply task member with same | ⟨old, remains, rfl⟩
      · exact late other (by simp [among]) task same mine loop generation query next stage
      · rw [id_receive] at mine
        exact late other (by simp [among]) old remains mine loop generation query next
          (stage_of_receive stage)

theorem fewer (attended : Attended s) {held : List Held} (sublist : held.Sublist s.held) :
    Attended { s with held } :=
  ⟨attended.distinct.sublist (sublist.map _),
    fun completion member => attended.bound completion (sublist.subset member),
    fun id request busy completion member => attended.apart id request busy completion
      (sublist.subset member),
    fun task member completion among => attended.attends task member completion (sublist.subset among),
    attended.told⟩

theorem eq_of_task (attended : Attended s) {held other : Held} (member : held ∈ s.held)
    (among : other ∈ s.held) (same : held.task = other.task) : held = other :=
  List.inj_on_of_nodup_map attended.distinct member among same

theorem deliver (attended : Attended s) (custody : s.Custody) {id : Nat} {reply : EngineReply}
    (truthful : s.Truthful id reply) : Attended (s.deliver id reply) := by
  unfold State.deliver
  split
  · exact attended
  · next held found =>
    have member : held ∈ s.held := List.mem_of_find?_eq_some found
    have owner : held.task = id := by simpa using List.find?_some found
    refine (attended.fewer List.erase_sublist).signal ?_ ?_
    · intro other remains same
      obtain ⟨different, among⟩ := (List.Nodup.of_map _ attended.distinct).mem_erase_iff.mp remains
      exact different (attended.eq_of_task among member (same.trans owner.symm))
    · intro task among mine
      refine (attended.told task among).receive ?_
      intro loop generation query next stage tells
      have attends := attended.attends task among held member (owner.trans mine.symm)
      rw [stage] at attends
      obtain ⟨-, g, rfl, older⟩ := attends
      refine custody.generation_ne (truthful task among held mine found ?_) older
      rw [stage]
      exact tells

theorem startTask (attended : Attended s) (call : Call) : Attended (s.startTask call) := by
  unfold State.startTask
  refine wake ?_ _
  refine ⟨attended.distinct, ?_, attended.apart, ?_, ?_⟩
  · intro held member
    obtain ⟨older, created⟩ := attended.bound held member
    exact ⟨older.trans (Nat.lt_succ_self _), created⟩
  · refine List.forall_mem_append.mpr ⟨attended.attends, List.forall_mem_singleton.mpr ?_⟩
    exact fun held among same => absurd same (attended.bound held among).1.ne
  · exact List.forall_mem_append.mpr ⟨attended.told, List.forall_mem_singleton.mpr trivial⟩

theorem manage (attended : Attended s) (coherent : Coherent s) (change : Lifecycle → Lifecycle)
    (shift : Shift s.toLifecycle (change s.toLifecycle)) : Attended (s.manage change) := by
  obtain ⟨ready, managed⟩ := s.manage_eq change
  rw [managed]
  exact attended.across coherent rfl rfl rfl rfl shift

theorem destroy (attended : Attended s) (coherent : Coherent s) {channel : Nat}
    (custody : (s.toLifecycle.destroy channel).Custody) : Attended (s.destroy channel) := by
  have torn : Attended (s.manage (·.destroy channel)) :=
    attended.manage coherent (·.destroy channel) (.of_eq rfl rfl)
  unfold State.destroy
  dsimp only
  split
  · rw [List.partition_eq_filter_filter]
    dsimp only
    refine (torn.fewer List.filter_sublist).signalAll ?_ ?_
    · intro completion dropped held kept same
      obtain ⟨member, on⟩ := List.mem_filter.mp dropped
      obtain ⟨among, off⟩ := List.mem_filter.mp kept
      rw [torn.eq_of_task among member same] at off
      simp [on] at off
    -- Who waits on the channel that is torn down began no later than it, and it has left the slot.
    · intro completion dropped task among mine loop generation query next stage
      obtain ⟨member, on⟩ := List.mem_filter.mp dropped
      have attends := torn.attends task among completion member mine.symm
      rw [stage] at attends
      obtain ⟨-, g, rfl, older⟩ := attends
      have created := (torn.bound completion member).2
      obtain rfl : completion.channel = channel := by simpa using on
      rw [State.toLifecycle_manage] at created
      rw [custody.next] at created
      change (s.manage (·.destroy completion.channel)).generation ≠ some g
      rw [State.toLifecycle_manage]
      refine custody.generation_ne ?_ older
      simp only [Lifecycle.destroy, List.length_modify] at created
      simp [Lifecycle.destroy, Lifecycle.timesDestroyed,
        List.getElem?_eq_getElem (Nat.lt_of_succ_lt_succ created)]
  · exact torn

theorem turn (attended : Attended s) (coherent : Coherent s) (custody : s.Custody) :
    Attended s.turn := by
  have after := custody.turn
  unfold State.turn
  unfold Lifecycle.apply at after
  split
  · exact attended.ready _
  · next callback hub popped =>
    rw [popped] at after
    have waiting : Attended { s with hub } := attended.across coherent rfl rfl rfl rfl (.of_eq rfl rfl)
    have ran : Attended (({ s with hub } : State).runCallback callback) := by
      cases callback with
      | destroy channel => exact waiting.destroy (coherent.hub hub) after
      | fork => exact waiting.manage (coherent.hub hub) Lifecycle.onFork (.onFork _)
    dsimp only
    split
    · exact ran.ready _
    · exact ran

theorem act (attended : Attended s) (reachable : Reachable s) {event : Event}
    (honest : event.Honest s) : Attended (act s event) := by
  have coherent := reachable.coherent
  have custody := reachable.custody
  cases event with
  | start call =>
    rcases act_start s call with same | ⟨-, started⟩
    · exact same.symm ▸ attended
    · exact started.symm ▸ attended.startTask call
  | poll task =>
    rcases act_poll s task with same | ⟨-, -, polled⟩
    · exact same.symm ▸ attended
    · exact polled.symm ▸ attended.poll task
  | turn =>
    rcases act_turn s with same | ⟨-, turned⟩
    · exact same.symm ▸ attended
    · exact turned.symm ▸ attended.turn coherent custody
  | answerNative reply => exact attended.answerNative reply
  | answerEngine reaction => exact attended.answerEngine reachable reaction
  | deliver task reply => exact attended.deliver custody honest
  | abandon task => exact attended.deliver custody honest
  | cancel task => exact attended.cancel task
  | setPid pid => exact attended.manage coherent (·.setPid pid) (.of_eq rfl rfl)
  | reinit => exact attended.manage coherent Lifecycle.reinit (.of_eq rfl rfl)
  | close => exact attended.manage coherent Lifecycle.close (.close _)
  | release =>
    exact ⟨attended.distinct, attended.bound, attended.apart, attended.attends, attended.told⟩
  | obstruct obstacle => exact attended.across coherent rfl rfl rfl rfl (.of_eq rfl rfl)

theorem step (attended : Attended s) (reachable : Reachable s) {event : Event}
    (honest : event.Honest s) : Attended (step s event) := by
  have acted := attended.act reachable honest
  rcases settleOwner_cases (Resolver.act s event) with same | closed
  · rw [Resolver.step, same]
    exact acted
  · rw [Resolver.step, closed]
    exact acted.manage (reachable.coherent.act reachable.custody event) Lifecycle.close (.close _)

end Attended

def HonestlyReachable (s : State) : Prop :=
  Reached (fun s event => event.Honest s) s

theorem HonestlyReachable.attended (honestly : HonestlyReachable s) : Attended s := by
  induction honestly with
  | built clear ok =>
    obtain ⟨-, config, rfl⟩ := build_eq ok
    exact ⟨.nil, fun _ member => by contradiction, fun _ _ busy => by contradiction,
      fun _ member => by contradiction, fun _ member => by contradiction⟩
  | step before honest ih => exact ih.step before.reachable honest

theorem HonestlyReachable.run (honestly : HonestlyReachable s) {events : List Event}
    (honest : ∀ event ∈ events, ∀ s, event.Honest s) : HonestlyReachable (run s events) :=
  Reached.run honestly honest

end HostLookup.Resolver
