import HostLookup.Proofs.Steady

/-! What is given to a lookup: its call, and the replies to its queries. It hears each reply once and in their
order; the last one may be unread, or lost with a lookup that was cancelled. -/
namespace HostLookup.Resolver

def Stage.pending? : Stage → Option EngineQuery
  | .waiting _ _ query _ none => some query
  | _ => none

def State.pending? (s : State) (id : Nat) : Option EngineQuery :=
  (s.task? id).bind fun task => task.stage.pending?

/-- The reply that an event gives to a query of the lookup, while no channel is torn down. -/
def State.given? (s : State) (id : Nat) : Event → Option Reply
  | .answerNative reply =>
    match s.busy with
    | some (other, .plan query _) | some (other, .native _ _ query _) =>
      if other = id then some (.native query (reply query)) else none
    | _ => none
  | .answerEngine reaction =>
    match s.busy with
    | some (other, .engine _ _ _ query _) =>
      if other = id then reaction.reply?.map fun reply => .engine query (reply query) else none
    | _ => none
  | .deliver task reply =>
    if task = id then (s.pending? id).map fun query => .engine query (reply query) else none
  | .abandon task =>
    if task = id then (s.pending? id).map fun query => .engine query (lost query) else none
  | _ => none

def given (s : State) (id : Nat) : List Event → List Reply
  | [] => []
  | event :: rest => (s.given? id event).toList ++ given (step s event) id rest

def Event.call? : Event → Option Call
  | .start call => some call
  | _ => none

/-- The calls in the order in which lookups are started for them; lookups are numbered in that order. -/
def calls (events : List Event) : List Call :=
  events.filterMap Event.call?

/-- The replies that the lookup has heard, and the one that it has not read. -/
def State.received (s : State) (id : Nat) : List Reply :=
  heard (s.notes id) ++ (s.stored? id).toList

inductive Gets (s t : State) (id : Nat) (reply : Option Reply) : Prop
  | receives (received : t.received id = s.received id ++ reply.toList)
  | drops (nothing : reply = none) (inside : id < s.nextTask) (notes : t.notes id = s.notes id)
      (place : t.place? id = none) (unfinished : ∀ result, .concluded result ∉ s.notes id)

variable {s t u : State} {id : Nat} {reply : Option Reply}

theorem given_concat (s : State) (id : Nat) (events : List Event) (event : Event) :
    given s id (events ++ [event]) = given s id events ++ ((run s events).given? id event).toList := by
  induction events generalizing s with
  | nil => exact List.append_nil _
  | cons first rest ih =>
    rw [List.cons_append, given, ih, given, List.append_assoc]
    rfl

namespace State

theorem stored?_eq (s : State) (id : Nat) :
    s.stored? id = (s.task? id).bind fun task => Place.stored? (.inl task.stage) := by
  unfold stored? place?
  cases s.task? id with
  | some task => rfl
  | none =>
    cases s.busy with
    | none => rfl
    | some poll => dsimp only; split <;> rfl

theorem received_congr (notes : t.notes id = s.notes id) (task : t.task? id = s.task? id) :
    t.received id = s.received id := by
  rw [received, received, notes, stored?_eq, stored?_eq, task]

theorem received_away (away : s.task? id = none) : s.received id = heard (s.notes id) := by
  rw [received, stored?_eq, away]
  exact List.append_nil _

theorem received_task {task : Task} (found : s.task? id = some task) :
    s.received id = heard (s.notes id) ++ (Place.stored? (.inl task.stage)).toList := by
  rw [received, stored?_eq, found, Option.bind_some]

end State

theorem Only.received {worker : Nat} (only : Only s t worker) (different : worker ≠ id) :
    t.received id = s.received id :=
  State.received_congr (only.notes id different) (State.task?_congr only.tasks id)

theorem Leads.received {before : List Note} {transcript : List Reply → List Note}
    (leads : Leads before t id transcript) (away : t.task? id = none) : t.received id = heard before := by
  obtain ⟨new, notes, unheard, -⟩ := leads
  rw [State.received_away away, notes, heard_append, unheard, List.append_nil]

namespace State

theorem received_follow (away : s.task? id = none) (plan : Plan) :
    (s.follow id plan).received id = heard (s.notes id) :=
  (Leads.follow away plan).received ((State.task?_congr (Goes.follow s id plan).only.tasks id).trans away)

theorem received_follow_heard (away : s.task? id = none) (reply : Reply) (plan : Plan) :
    ((s.note id (.heard reply)).follow id plan).received id = heard (s.notes id) ++ [reply] := by
  have only := (Goes.follow (s.note id (.heard reply)) id plan).only
  have after := (State.task?_congr only.tasks id).trans away
  rw [(Leads.follow_heard away reply plan).received after, heard_append]
  rfl

theorem received_resume_heard (away : s.task? id = none) (reply : Reply) (loop : Loop) (start : Option Nat)
    (attempt : Attempt) :
    ((s.note id (.heard reply)).resume id loop start attempt).received id = heard (s.notes id) ++ [reply] := by
  have only := (Goes.resume (s.note id (.heard reply)) id loop start attempt).only
  have after := (State.task?_congr only.tasks id).trans away
  rw [(Leads.resume_heard away reply loop start attempt).received after, heard_append]
  rfl

end State

theorem stored?_receive (reply : EngineReply) (task : Task) :
    (Place.stored? (.inl (State.receive reply task).stage)).toList = (Place.stored? (.inl task.stage)).toList ++
      (task.stage.pending?.map fun query => Reply.engine query (reply query)).toList := by
  obtain ⟨id, stage, cancelled⟩ := task
  cases stage with
  | fresh call => rfl
  | waiting loop start query next delivered => cases delivered <;> rfl

theorem Awake.not_pending (awake : Awake s []) (missing : s.heldOf? id = none) : s.pending? id = none := by
  unfold State.pending?
  cases found : s.task? id with
  | none => rfl
  | some task =>
    obtain ⟨member, own⟩ := State.task?_some found
    rw [Option.bind_some]
    cases stage : task.stage with
    | fresh call => rfl
    | waiting loop start query next delivered =>
      cases delivered with
      | some reply => rfl
      | none =>
        obtain ⟨completion, held, mine⟩ := awake.held task member (by simp) (by rw [stage]; trivial)
        have other := List.find?_eq_none.mp missing completion held
        simp [mine, own] at other

theorem Coherent.unfinished (coherent : Coherent s) {task : Task} (member : task ∈ s.tasks) (result : Result) :
    .concluded result ∉ s.notes task.id := by
  have stands := coherent.settled.stands task member
  intro concluded
  refine State.conclusion_of_mem concluded ?_
  cases stage : task.stage with
  | fresh call =>
    rw [stage] at stands
    exact stands.conclusion
  | waiting loop start query next delivered =>
    rw [stage] at stands
    obtain ⟨call, under⟩ := stands
    exact under.conclusion

namespace Gets

theorem same (received : t.received id = s.received id) : Gets s t id none :=
  .receives (by simpa using received)

theorem of_eq (notes : t.notes id = s.notes id) (tasks : t.tasks = s.tasks) : Gets s t id none :=
  same (State.received_congr notes (State.task?_congr tasks id))

theorem settle (gets : Gets s t id reply) : Gets s t.settleOwner id reply := by
  have retains := retains_settleOwner t
  have task := State.task?_congr (State.tasks_settleOwner t) id
  cases gets with
  | receives received => exact .receives ((State.received_congr (retains.notes id) task).trans received)
  | drops nothing inside notes place unfinished =>
    exact .drops nothing inside ((retains.notes id).trans notes)
      ((State.place?_congr task retains.busy).trans place) unfinished

theorem startTask (coherent : Coherent s) (call : Call) (id : Nat) : Gets s (s.startTask call) id none := by
  by_cases new : id = s.nextTask
  · subst new
    refine same ?_
    rw [State.received_task (coherent.task?_startTask call), State.received_away coherent.unused,
      notes_startTask, heard_append, List.append_assoc]
    exact List.append_nil _
  · refine same (State.received_congr ?_ ?_)
    · exact notes_startTask_of_ne call (Ne.symm new)
    · exact State.task?_put_of_ne ⟨s.nextTask, .fresh call, false⟩ (State.tasks_wake _ _) (Ne.symm new)

theorem cancel (s : State) (other id : Nat) : Gets s (s.cancel other) id none := by
  unfold State.cancel
  split
  · exact same rfl
  · next task _ =>
    have woken := Retains.wake (s.updateTask other fun task => { task with cancelled := true }) (.task other)
    have updated := s.task?_updateTask other id (fun task => { task with cancelled := true }) fun _ => rfl
    refine same ?_
    rw [State.received, State.received, woken.notes, State.stored?_eq, State.stored?_eq, State.task?,
      State.tasks_wake, ← State.task?, updated]
    cases s.task? id with
    | none => rfl
    | some task =>
      dsimp only [Option.map_some, Option.bind_some]
      split <;> rfl

theorem poll (coherent : Coherent s) (idle : s.busy = none) (worker id : Nat) :
    Gets s (s.poll worker) id none := by
  unfold State.poll
  dsimp only
  split
  · exact same rfl
  · next task found =>
    by_cases mine : worker = id
    · subst mine
      have away := State.task?_removeTask { s with ready := s.ready.erase (.task worker) } worker
      have before := State.received_task found
      split
      · obtain ⟨member, own⟩ := State.task?_some found
        exact .drops rfl (own ▸ coherent.settled.bound task member) rfl (State.place?_idle away idle)
          (own ▸ coherent.unfinished member)
      · split
        · next call stage =>
          refine same ((State.received_follow away _).trans ?_)
          rw [before, stage]
          exact (List.append_nil _).symm
        · next stage =>
          refine same ((State.received_resume_heard away _ _ _ _).trans ?_)
          rw [before, stage]
          rfl
        · exact same rfl
    · have taken : (State.removeTask { s with ready := s.ready.erase (.task worker) } worker).received id =
          s.received id :=
        State.received_congr rfl (State.task?_removeTask_of_ne mine)
      split
      · exact same taken
      · split
        · exact same (((Goes.follow _ worker _).only.received mine).trans taken)
        · exact same (((Goes.resume _ worker _ _ _).only_heard.received mine).trans taken)
        · exact same rfl

theorem answerNative (coherent : Coherent s) (reply : NativeReply) (id : Nat) :
    Gets s (s.answerNative reply) id (s.given? id (.answerNative reply)) := by
  cases busy : s.busy with
  | none =>
    simp only [State.answerNative, State.given?, busy]
    exact same rfl
  | some stopped =>
    obtain ⟨worker, request⟩ := stopped
    have away := coherent.away busy
    cases request with
    | plan query next =>
      simp only [State.answerNative, State.given?, busy]
      split
      · next mine =>
        subst mine
        refine .receives ?_
        rw [State.received_follow_heard away, State.received_away away]
        rfl
      · next other => exact same ((Goes.follow _ worker _).only_heard.received other)
    | native loop start query next =>
      simp only [State.answerNative, State.given?, busy]
      split
      · next mine =>
        subst mine
        refine .receives ?_
        rw [State.received_resume_heard away, State.received_away away]
        rfl
      · next other => exact same ((Goes.resume _ worker _ _ _).only_heard.received other)
    | engine loop start channel query next =>
      simp only [State.answerNative, State.given?, busy]
      exact same rfl

theorem answerEngine (coherent : Coherent s) (reaction : Reaction) (id : Nat) :
    Gets s (s.answerEngine reaction) id (s.given? id (.answerEngine reaction)) := by
  cases busy : s.busy with
  | none =>
    simp only [State.answerEngine, State.given?, busy]
    exact same rfl
  | some stopped =>
    obtain ⟨worker, request⟩ := stopped
    have away := coherent.away busy
    cases request with
    | engine loop start channel query next =>
      simp only [State.answerEngine, State.given?, busy]
      cases answered : reaction.reply? with
      | some reply =>
        dsimp only [Option.map_some]
        split
        · next mine =>
          subst mine
          refine .receives ?_
          rw [State.received_resume_heard away, State.received_away away]
          rfl
        · next other => exact same ((Goes.resume _ worker _ _ _).only_heard.received other)
      | none =>
        rw [Option.map_none, ite_self]
        by_cases mine : worker = id
        · subst mine
          refine same ?_
          rw [State.received_away away]
          exact (State.received_task (State.task?_put ⟨worker, _, false⟩ rfl away)).trans (List.append_nil _)
        · exact same (State.received_congr rfl (State.task?_put_of_ne ⟨worker, _, false⟩ rfl mine))
    | plan query next | native loop start query next =>
      simp only [State.answerEngine, State.given?, busy]
      exact same rfl

theorem signal (s : State) (worker : Nat) (reply : EngineReply) (id : Nat) :
    Gets s (s.signal worker reply) id
      (if worker = id then (s.pending? id).map fun query => .engine query (reply query) else none) := by
  unfold State.signal
  split
  · next missing =>
    split
    · next mine =>
      rw [State.pending?, ← mine, missing]
      exact same rfl
    · exact same rfl
  · next told found =>
    have woken := Retains.wake (s.updateTask worker (State.receive reply)) (.task worker)
    have after : ((s.updateTask worker (State.receive reply)).wake (.task worker)).task? id =
        (s.task? id).map fun task => if task.id = worker then State.receive reply task else task := by
      rw [State.task?, State.tasks_wake]
      exact s.task?_updateTask worker id _ (id_receive reply)
    have own := (State.task?_some found).2
    split
    · next mine =>
      subst mine
      rw [found, Option.map_some, if_pos own] at after
      refine .receives ?_
      rw [State.received_task after, State.received_task found, woken.notes, State.pending?, found,
        stored?_receive, List.append_assoc]
      rfl
    · next other =>
      refine same (State.received_congr (woken.notes id) (after.trans ?_))
      cases present : s.task? id with
      | none => rfl
      | some task =>
        have different : task.id ≠ worker := fun same => other (same.symm.trans (State.task?_some present).2)
        rw [Option.map_some, if_neg different]

theorem deliver (awake : Awake s []) (worker : Nat) (reply : EngineReply) (id : Nat) :
    Gets s (s.deliver worker reply) id
      (if worker = id then (s.pending? id).map fun query => .engine query (reply query) else none) := by
  unfold State.deliver
  split
  · next missing =>
    split
    · next mine =>
      rw [awake.not_pending (mine ▸ missing)]
      exact same rfl
    · exact same rfl
  · next completion _ =>
    -- Which completions the engines hold does not matter to the tasks.
    cases signal { s with held := s.held.erase completion } worker reply id with
    | receives received => exact .receives received
    | drops nothing inside notes place unfinished => exact .drops nothing inside notes place unfinished

theorem turn (quiet : (∀ callback ∈ s.hub.queue, callback = .fork) ∨ s.tasks = []) (id : Nat) :
    Gets s s.turn id none := by
  have retains := Retains.turn s
  refine of_eq (retains.notes id) ?_
  -- A notice tells no lookup anything; a teardown would, but only if one is left.
  rcases quiet with forks | empty
  · unfold State.turn
    cases queued : s.hub.queue with
    | nil => simp only [Hub.next?, queued]
    | cons callback rest =>
      obtain rfl : callback = .fork := forks callback (by simp [queued])
      simp only [Hub.next?, queued]
      split
      · exact State.tasks_manage _ _
      · exact State.tasks_manage _ _
  · obtain ⟨update, tasks, -⟩ := retains.tasks
    rw [tasks, empty, List.map_nil]

theorem act (awake : Awake s []) (coherent : Coherent s)
    (quiet : (∀ callback ∈ s.hub.queue, callback = .fork) ∨ s.tasks = []) (event : Event) (id : Nat) :
    Gets s (act s event) id (s.given? id event) := by
  cases event with
  | start call =>
    rcases act_start s call with waits | ⟨-, started⟩
    · exact waits.symm ▸ same rfl
    · exact started.symm ▸ startTask coherent call id
  | poll task =>
    rcases act_poll s task with waits | ⟨idle, -, polled⟩
    · exact waits.symm ▸ same rfl
    · exact polled.symm ▸ poll coherent idle task id
  | turn =>
    rcases act_turn s with waits | ⟨-, turned⟩
    · exact waits.symm ▸ same rfl
    · exact turned.symm ▸ turn quiet id
  | answerNative reply => exact answerNative coherent reply id
  | answerEngine reaction => exact answerEngine coherent reaction id
  | deliver task reply => exact deliver awake task reply id
  | abandon task => exact deliver awake task lost id
  | cancel task => exact cancel s task id
  | setPid pid => exact of_eq (s.notes_manage id _) (s.tasks_manage _)
  | reinit => exact of_eq (s.notes_manage id _) (s.tasks_manage _)
  | close => exact of_eq (s.notes_manage id _) (s.tasks_manage _)
  | release => exact of_eq rfl rfl
  | obstruct obstacle => exact of_eq rfl rfl

end Gets

theorem State.place?_eq_none (gone : s.place? id = none) :
    s.task? id = none ∧ ∀ request, s.busy ≠ some (id, request) := by
  cases found : s.task? id with
  | some task => simp [place?_task found] at gone
  | none => exact ⟨rfl, fun request busy => by simp [place?_busy found busy] at gone⟩

theorem given?_of_gone (gone : s.place? id = none) (event : Event) : s.given? id event = none := by
  obtain ⟨away, others⟩ := State.place?_eq_none gone
  have pending : s.pending? id = none := by rw [State.pending?, away, Option.bind_none]
  cases event with
  | answerNative reply =>
    unfold State.given?
    dsimp only
    split
    · next busy => exact if_neg fun same => others _ (same ▸ busy)
    · next busy => exact if_neg fun same => others _ (same ▸ busy)
    · rfl
  | answerEngine reaction =>
    unfold State.given?
    dsimp only
    split
    · next busy => exact if_neg fun same => others _ (same ▸ busy)
    · rfl
  | deliver task reply => simp [State.given?, pending]
  | abandon task => simp [State.given?, pending]
  | _ => rfl

theorem gone_step (coherent : Coherent s) (gone : s.place? id = none) (inside : id < s.nextTask) (event : Event) :
    (step s event).notes id = s.notes id ∧ (step s event).place? id = none := by
  cases moves_step coherent event id with
  | rests same _ kept => exact ⟨same, (kept (Or.inl gone)).trans gone⟩
  | starts call _ new => exact absurd new inside.ne
  | drops same place => exact ⟨same, place⟩
  | begins found _ _ => exact absurd gone found
  | hears found _ _ _ => exact absurd gone found

/-- The lookup has heard all replies that were given to it, but for one that it has not read, or did not read
before it was dropped. -/
def Heard (replies : List Reply) (s : State) (id : Nat) : Prop :=
  ∃ unread : Option Reply, replies = heard (s.notes id) ++ unread.toList ∧ (unread = s.stored? id ∨
    id < s.nextTask ∧ s.place? id = none ∧ ∀ result, .concluded result ∉ s.notes id)

theorem Heard.step {replies : List Reply} (before : Heard replies s id) (reachable : Reachable s)
    (quiet : (∀ callback ∈ s.hub.queue, callback = .fork) ∨ s.tasks = []) (event : Event) :
    Heard (replies ++ (s.given? id event).toList) (step s event) id := by
  obtain ⟨unread, all, same | ⟨inside, gone, unfinished⟩⟩ := before
  · have received : replies = s.received id := by rw [all, same, State.received]
    cases (Gets.act reachable.awake reachable.coherent quiet event id).settle with
    | receives later => exact ⟨_, by rw [received, ← later]; rfl, Or.inl rfl⟩
    | drops nothing inside notes place unfinished =>
      refine ⟨unread, ?_, Or.inr ⟨inside.trans_le (nextTask_le_step s event), place, notes ▸ unfinished⟩⟩
      rw [nothing, all, Resolver.step, notes]
      exact List.append_nil _
  · obtain ⟨notes, place⟩ := gone_step reachable.coherent gone inside event
    refine ⟨unread, ?_, Or.inr ⟨inside.trans_le (nextTask_le_step s event), place, notes ▸ unfinished⟩⟩
    rw [given?_of_gone gone, all, notes]
    exact List.append_nil _

theorem calls_concat (events : List Event) (event : Event) :
    calls (events ++ [event]) = calls events ++ event.call?.toList := by
  rw [calls, List.filterMap_append, ← calls]
  cases event <;> rfl

structure Numbered (events : List Event) (s : State) : Prop where
  bound : s.nextTask ≤ (calls events).length
  all : s.released = false → s.nextTask = (calls events).length
  call : ∀ id < s.nextTask, ∃ call, (calls events)[id]? = some call ∧ [.started call] <+: s.notes id

namespace Numbered

variable {events : List Event} {event : Event}

theorem built (config : Config) (hub : Hub Callback) : Numbered [] (initial config hub) :=
  ⟨le_rfl, fun _ => rfl, fun _ inside => absurd inside (Nat.not_lt_zero _)⟩

theorem step (numbered : Numbered events s) (reachable : Reachable s) (event : Event) :
    Numbered (events ++ [event]) (step s event) := by
  have retains : Retains (act s event) (Resolver.step s event) := retains_settleOwner _
  have earlier : ∀ id < s.nextTask, ∃ call, (calls (events ++ [event]))[id]? = some call ∧
      [.started call] <+: (Resolver.step s event).notes id := by
    intro id inside
    obtain ⟨call, own, started⟩ := numbered.call id inside
    refine ⟨call, ?_, started.trans (moves_step reachable.coherent event id).notes_grow⟩
    rw [calls_concat, List.getElem?_append_left (inside.trans_le numbered.bound), own]
  rcases apart_act s event with ⟨same, still⟩ | ⟨unreleased, call, rfl, started⟩
  · have next : (Resolver.step s event).nextTask = s.nextTask := retains.nextTask.trans same
    refine ⟨?_, fun unreleased => ?_, next ▸ earlier⟩
    · rw [next, calls_concat, List.length_append]
      exact numbered.bound.trans (Nat.le_add_right _ _)
    · have before : s.released = false := by
        by_contra released
        rw [retains.released (still (by simpa using released))] at unreleased
        contradiction
      have none_starts : event.call? = none := by
        cases event with
        | start call => simp [act, before, State.nextTask_startTask] at same
        | _ => rfl
      rw [next, calls_concat, none_starts, numbered.all before]
      exact congrArg List.length (List.append_nil _).symm
  · have stepped : Resolver.step s (.start call) = s.startTask call := by
      rw [Resolver.step, started, settleOwner_startTask]
    have length := numbered.all unreleased
    rw [stepped] at earlier ⊢
    have all : (s.startTask call).nextTask = (calls (events ++ [.start call])).length := by
      rw [s.nextTask_startTask, calls_concat, length, List.length_append]
      rfl
    refine ⟨all.le, fun _ => all, fun id inside => ?_⟩
    rw [s.nextTask_startTask] at inside
    rcases Nat.lt_succ_iff_lt_or_eq.mp inside with known | rfl
    · exact earlier id known
    · refine ⟨call, ?_, ?_⟩
      · rw [calls_concat, length]
        exact List.getElem?_concat_length
      · rw [notes_startTask, reachable.notes_beyond le_rfl]
        exact List.prefix_rfl

theorem run {builder : Builder} {obstacle : Option LookupError} {hub : Hub Callback} (clear : hub.IsClear)
    (ok : builder.build obstacle hub = .ok s) (events : List Event) : Numbered events (run s events) := by
  have reachable : Reachable s := .built clear ok
  obtain ⟨-, config, rfl⟩ := build_eq ok
  induction events using List.reverseRecOn with
  | nil => exact built config hub
  | append_singleton events event ih =>
    rw [run_concat]
    exact ih.step (reachable.run events) event

end Numbered

end HostLookup.Resolver
