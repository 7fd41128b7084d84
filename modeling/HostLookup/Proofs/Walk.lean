import HostLookup.Proofs.Moves

/-! How a lookup goes through its plan, note by note. Whatever happens around it, what is noted of it is a walk
through the plan of its call, and where it stands is where the walk has come to. -/
namespace HostLookup
open Resolver

/-- How an attempt may end: with its result, or at a query of an engine for want of a channel. -/
inductive Attempt.Ends : Attempt → Result → Prop
  | finish (result : Result) : Ends (.finish result) result
  | closed {query : EngineQuery} {next : Except Fault query.Answer → Attempt} :
      Ends (.engine query next) (.error .closed)

inductive Point where
  | follows (plan : Plan)
  | attempts (loop : Loop) (start : Option Nat) (rest : Attempt)
  | waits (request : Request)
  | finished (result : Result)

def Loop.after (loop : Loop) (start finish : Option Nat) (result : Result) : Plan :=
  if isStale loop.family start finish result then .attempts loop else .finish (loop.finish result)

namespace Point

inductive Step : Point → Note → Point → Prop
  | concludes {result : Result} : Step (.follows (.finish result)) (.concluded result) (.finished result)
  | asksPlan {query : NativeQuery} {next : Except LookupError query.Answer → Plan} :
      Step (.follows (.native query next)) (.asked (.native query)) (.waits (.plan query next))
  | begins {loop : Loop} (start : Option Nat) :
      Step (.follows (.attempts loop)) (.began start) (.attempts loop start loop.body)
  | asksNative {loop : Loop} {start : Option Nat} {query : NativeQuery}
      {next : Except LookupError query.Answer → Attempt} :
      Step (.attempts loop start (.native query next)) (.asked (.native query))
        (.waits (.native loop start query next))
  | asksEngine {loop : Loop} {start : Option Nat} {query : EngineQuery}
      {next : Except Fault query.Answer → Attempt} (channel : Nat) :
      Step (.attempts loop start (.engine query next)) (.asked (.engine channel query))
        (.waits (.engine loop start channel query next))
  | ends {loop : Loop} {start : Option Nat} {rest : Attempt} {result : Result} (finish : Option Nat)
      (ending : rest.Ends result)
      (unserved : ∀ query next, rest = .engine query next → finish = none) :
      Step (.attempts loop start rest) (.ended finish result) (.follows (loop.after start finish result))
  | hearsPlan {query : NativeQuery} {next : Except LookupError query.Answer → Plan}
      (reply : Except LookupError query.Answer) :
      Step (.waits (.plan query next)) (.heard (.native query reply)) (.follows (next reply))
  | hearsNative {loop : Loop} {start : Option Nat} {query : NativeQuery}
      {next : Except LookupError query.Answer → Attempt} (reply : Except LookupError query.Answer) :
      Step (.waits (.native loop start query next)) (.heard (.native query reply))
        (.attempts loop start (next reply))
  | hearsEngine {loop : Loop} {start : Option Nat} {channel : Nat} {query : EngineQuery}
      {next : Except Fault query.Answer → Attempt} (reply : Except Fault query.Answer) :
      Step (.waits (.engine loop start channel query next)) (.heard (.engine query reply))
        (.attempts loop start (next reply))

end Point

/-- What was noted of a lookup has taken it through the plan of its call to a point. -/
inductive Walk (convention : Convention) (call : Call) : List Note → Point → Prop
  | started : Walk convention call [.started call] (.follows (call.plan convention))
  | snoc {notes : List Note} {point next : Point} {note : Note} (before : Walk convention call notes point)
      (step : point.Step note next) : Walk convention call (notes ++ [note]) next

namespace Walk

variable {convention : Convention} {call : Call} {notes : List Note} {point : Point}

theorem started_mem (walk : Walk convention call notes point) {other : Call}
    (member : .started other ∈ notes) : other = call := by
  induction walk with
  | started => simpa using member
  | snoc before step ih =>
    rcases List.mem_append.mp member with earlier | last
    · exact ih earlier
    · cases List.mem_singleton.mp last
      nomatch step

theorem finished_of_mem (walk : Walk convention call notes point) {result : Result}
    (member : .concluded result ∈ notes) : point = .finished result := by
  induction walk with
  | started => simp at member
  | snoc before step ih =>
    rcases List.mem_append.mp member with earlier | last
    · rw [ih earlier] at step
      nomatch step
    · cases List.mem_singleton.mp last
      cases step
      rfl

end Walk

def Attempt.Each (P : Attempt → Prop) : Attempt → Prop
  | .finish result => P (.finish result)
  | .native query next => P (.native query next) ∧ ∀ reply, (next reply).Each P
  | .engine query next => P (.engine query next) ∧ ∀ reply, (next reply).Each P

theorem Attempt.Each.here {P : Attempt → Prop} {attempt : Attempt} (each : attempt.Each P) : P attempt := by
  cases attempt with
  | finish result => exact each
  | native query next => exact each.1
  | engine query next => exact each.1

def Point.All (Q : Loop → Prop) (P : Attempt → Prop) : Point → Prop
  | .follows plan => plan.All Q
  | .attempts loop _ rest => Q loop ∧ rest.Each P
  | .waits (.plan query next) => (Plan.native query next).All Q
  | .waits (.native loop _ query next) => Q loop ∧ (Attempt.native query next).Each P
  | .waits (.engine loop _ _ query next) => Q loop ∧ (Attempt.engine query next).Each P
  | .finished _ => True

section All

variable {Q : Loop → Prop} {P : Attempt → Prop} {convention : Convention} {call : Call} {notes : List Note}
  {point next : Point} {note : Note}

theorem Point.All.step (body : ∀ loop, Q loop → loop.body.Each P) (all : point.All Q P)
    (step : point.Step note next) : next.All Q P := by
  cases step with
  | concludes => trivial
  | asksPlan => exact all
  | begins start =>
    cases all with
    | attempts holds => exact ⟨holds, body _ holds⟩
  | asksNative => exact all
  | asksEngine channel => exact all
  | ends finish ending =>
    unfold Loop.after
    split
    · exact Plan.All.attempts all.1
    · exact Plan.All.finish _
  | hearsPlan reply =>
    cases all with
    | native rest => exact rest reply
  | hearsNative reply => exact ⟨all.1, all.2.2 reply⟩
  | hearsEngine reply => exact ⟨all.1, all.2.2 reply⟩

theorem Walk.all (walk : Walk convention call notes point) (plan : (call.plan convention).All Q)
    (body : ∀ loop, Q loop → loop.body.Each P) : point.All Q P := by
  induction walk with
  | started => exact plan
  | snoc before step ih => exact ih.step body step

theorem Walk.asked (walk : Walk convention call notes point) (plan : (call.plan convention).All Q)
    (body : ∀ loop, Q loop → loop.body.Each P) {channel : Nat} {query : EngineQuery}
    (member : .asked (.engine channel query) ∈ notes) : ∃ next, P (.engine query next) := by
  induction walk with
  | started => simp at member
  | snoc before step ih =>
    rcases List.mem_append.mp member with earlier | last
    · exact ih earlier
    · cases List.mem_singleton.mp last
      have all := before.all plan body
      cases step with
      | asksEngine => exact ⟨_, all.2.here⟩

end All

namespace Resolver

/-- Where a lookup stands for a walk; one that waits in the tasks does not tell which channel it asked. -/
def Place.Stands (convention : Convention) (call : Call) : Place → Point → Prop
  | .inl (.fresh own), point => own = call ∧ point = .follows (call.plan convention)
  | .inl (.waiting loop start query next _), point =>
    ∃ channel, point = .waits (.engine loop start channel query next)
  | .inr request, point => point = .waits request

/-- What is noted of a lookup is a walk, and the lookup stands where that has come to, if it is not gone. -/
def State.Walks (s : State) (id : Nat) : Prop :=
  ∃ call point, Walk s.config.convention call (s.notes id) point ∧
    ∀ place, s.place? id = some place → place.Stands s.config.convention call point

variable {s t u : State} {id : Nat} {call : Call}

theorem State.Walks.stays (walks : s.Walks id) (config : t.config = s.config) (notes : t.notes id = s.notes id)
    (places : ∀ place, t.place? id = some place → ∃ old, s.place? id = some old ∧
      ∀ convention call point, old.Stands convention call point → place.Stands convention call point) :
    t.Walks id := by
  obtain ⟨call, point, walk, stands⟩ := walks
  refine ⟨call, point, by rw [config, notes]; exact walk, ?_⟩
  intro place found
  obtain ⟨old, before, onward⟩ := places place found
  rw [config]
  exact onward _ _ _ (stands old before)

theorem State.Walks.same (walks : s.Walks id) (config : t.config = s.config) (notes : t.notes id = s.notes id)
    (place : t.place? id = s.place? id) : t.Walks id :=
  walks.stays config notes fun here found => ⟨here, place ▸ found, fun _ _ _ stands => stands⟩

theorem Task.Given.stands {task later : Task} (given : task.Given later) (convention : Convention) (call : Call)
    (point : Point) (stands : Place.Stands convention call (.inl task.stage) point) :
    Place.Stands convention call (.inl later.stage) point := by
  rcases given with rfl | ⟨reply, rfl⟩
  · exact stands
  · obtain ⟨id, stage, cancelled⟩ := task
    cases stage with
    | fresh call => exact stands
    | waiting loop start query next delivered => cases delivered <;> exact stands

theorem State.Walks.retained (walks : s.Walks id) (retains : Retains s t) (config : t.config = s.config) :
    t.Walks id := by
  refine walks.stays config (retains.notes id) fun place found => ?_
  rcases retains.task? id with ⟨gone, missing⟩ | ⟨task, later, before, after, given⟩
  · have same : t.place? id = s.place? id := by
      simp only [State.place?, gone, missing, retains.busy]
    exact ⟨place, same ▸ found, fun _ _ _ stands => stands⟩
  · rw [State.place?_task after, Option.some.injEq] at found
    subst found
    exact ⟨_, State.place?_task before, given.stands⟩

section Goes

variable {point : Point} {loop : Loop}

theorem walks_ask (walk : Walk s.config.convention call (s.notes id) point) (away : s.task? id = none)
    {request : Request} (step : point.Step (.asked request.issue) (.waits request)) :
    (s.ask id request).Walks id := by
  refine ⟨call, .waits request, s.notes_ask id request ▸ walk.snoc step, fun place found => ?_⟩
  have stopped : (s.ask id request).place? id = some (.inr request) :=
    State.place?_busy (s := s.ask id request) away rfl
  rw [stopped, Option.some.injEq] at found
  subst found
  rfl

theorem walks_conclude {result : Result}
    (walk : Walk s.config.convention call (s.notes id) (.follows (.finish result))) (away : s.task? id = none) :
    (s.conclude id result).Walks id := by
  refine ⟨call, .finished result, s.notes_conclude id result ▸ walk.snoc .concludes, fun place found => ?_⟩
  rw [State.place?_idle (s := s.conclude id result) away rfl] at found
  contradiction

theorem advance_asks {start : Option Nat} {attempt : Attempt} {request : Request}
    (asks : s.advance loop start attempt = .inl request) :
    (Point.attempts loop start attempt).Step (.asked request.issue) (.waits request) := by
  cases attempt with
  | finish result => contradiction
  | native query next =>
    obtain rfl := Sum.inl.inj asks
    exact .asksNative
  | engine query next =>
    cases live : s.slot with
    | none =>
      rw [State.advance_engine_closed live] at asks
      contradiction
    | some slot =>
      rw [State.advance_engine live] at asks
      obtain rfl := Sum.inl.inj asks
      exact .asksEngine slot.channel

theorem advance_ends {start : Option Nat} {attempt : Attempt} {result : Result}
    (ends : s.advance loop start attempt = .inr result) : attempt.Ends result := by
  cases attempt with
  | finish other =>
    obtain rfl := Sum.inr.inj ends
    exact .finish other
  | native query next => contradiction
  | engine query next =>
    cases live : s.slot with
    | none =>
      rw [State.advance_engine_closed live] at ends
      obtain rfl := Sum.inr.inj ends
      exact .closed
    | some slot =>
      rw [State.advance_engine live] at ends
      contradiction

theorem advance_unserved {start : Option Nat} {attempt : Attempt} {result : Result}
    (ends : s.advance loop start attempt = .inr result) (query : EngineQuery)
    (next : Except Fault query.Answer → Attempt) (asks : attempt = .engine query next) : s.generation = none := by
  subst asks
  cases live : s.slot with
  | none => rw [Lifecycle.generation, live, Option.map_none]
  | some slot =>
    rw [State.advance_engine live] at ends
    contradiction

theorem walks_begin (walk : Walk s.config.convention call (s.notes id) (.follows (.attempts loop)))
    (away : s.task? id = none) : (s.begin id loop).Walks id := by
  have begun : Walk s.config.convention call ((s.note id (.began s.generation)).notes id)
      (.attempts loop s.generation loop.body) := by
    rw [s.notes_note]
    exact walk.snoc (.begins _)
  cases first : s.advance loop s.generation loop.body with
  | inl request =>
    rw [State.begin_asks first]
    exact walks_ask (s := s.note id _) begun away (advance_asks first)
  | inr result =>
    rw [State.begin_ends first]
    have ended := begun.snoc (.ends s.generation (advance_ends first) (advance_unserved first))
    rw [← State.notes_note, Loop.after, isStale_self, if_neg Bool.false_ne_true] at ended
    exact walks_conclude (s := (s.note id _).note id _) ended away

theorem walks_resume {start : Option Nat} {attempt : Attempt}
    (walk : Walk s.config.convention call (s.notes id) (.attempts loop start attempt))
    (away : s.task? id = none) : (s.resume id loop start attempt).Walks id := by
  cases first : s.advance loop start attempt with
  | inl request =>
    rw [State.resume_asks first]
    exact walks_ask walk away (advance_asks first)
  | inr result =>
    rw [State.resume_ends first]
    have ended := walk.snoc (.ends s.generation (advance_ends first) (advance_unserved first))
    rw [← State.notes_note, Loop.after] at ended
    split
    · next stale =>
      rw [if_pos stale] at ended
      exact walks_begin (s := s.note id _) ended away
    · next settled =>
      rw [if_neg settled] at ended
      exact walks_conclude (s := s.note id _) ended away

theorem walks_follow {plan : Plan} (walk : Walk s.config.convention call (s.notes id) (.follows plan))
    (away : s.task? id = none) : (s.follow id plan).Walks id := by
  cases plan with
  | finish result => exact walks_conclude walk away
  | native query next => exact walks_ask walk away .asksPlan
  | attempts loop => exact walks_begin walk away

end Goes

namespace State.Walks

theorem startTask (walks : s.Walks id) (different : id ≠ s.nextTask) (call : Call) :
    (s.startTask call).Walks id := by
  have put := State.task?_put_of_ne (t := s.startTask call) ⟨s.nextTask, .fresh call, false⟩
    (State.tasks_wake _ _) different.symm
  refine walks.same (by rw [State.toLifecycle_startTask]) ?_ ?_
  · exact notes_startTask_of_ne call different.symm
  · exact State.place?_congr put (Quiet.startTask s call).busy

theorem cancel (walks : s.Walks id) (other : Nat) : (s.cancel other).Walks id := by
  unfold State.cancel
  split
  · exact walks
  · refine retained (s := s.updateTask other fun task => { task with cancelled := true }) ?_ (.wake _ _)
      (by rw [State.toLifecycle_wake])
    refine walks.same rfl rfl ?_
    unfold State.place?
    rw [State.task?_updateTask]
    · cases s.task? id with
      | none => rfl
      | some task =>
        dsimp only [Option.map_some]
        split <;> rfl
    · exact fun _ => rfl

theorem elsewhere (walks : s.Walks id) {worker : Nat} {v : State} (different : worker ≠ id)
    (goes : Goes worker v t) (only : Only u t worker) (notes : u.notes id = s.notes id)
    (task : u.task? id = s.task? id) (lifecycle : u.toLifecycle = s.toLifecycle)
    (others : ∀ request, s.busy ≠ some (id, request)) : t.Walks id := by
  have still : ∀ request, t.busy ≠ some (id, request) := fun request asked =>
    different (goes.busy asked).symm
  have found : t.task? id = s.task? id := by
    rw [← task, State.task?, only.tasks, State.task?]
  refine walks.same (by rw [only.lifecycle, lifecycle]) ((only.notes id different).trans notes) ?_
  rw [State.place?_of_others others, State.place?_of_others still, found]

theorem poll (walks : s.Walks id) (idle : s.busy = none) (worker : Nat) : (s.poll worker).Walks id := by
  have unstopped : ∀ request, s.busy ≠ some (id, request) := fun request stopped => by
    simp [idle] at stopped
  unfold State.poll
  dsimp only
  split
  · exact walks.same rfl rfl rfl
  · next task found =>
    by_cases mine : worker = id
    · subst mine
      have away := State.task?_removeTask { s with ready := s.ready.erase (.task worker) } worker
      have here := walks
      obtain ⟨call, point, walk, stands⟩ := walks
      have stands := stands _ (State.place?_task found)
      split
      · refine ⟨call, point, walk, fun place found => ?_⟩
        rw [State.place?_idle away idle] at found
        contradiction
      · split
        · next own stage =>
          rw [stage] at stands
          obtain ⟨rfl, rfl⟩ := stands
          exact walks_follow walk away
        · next loop start query next reply stage =>
          rw [stage] at stands
          obtain ⟨channel, rfl⟩ := stands
          have heard := walk.snoc (.hearsEngine reply)
          rw [← State.notes_note] at heard
          exact walks_resume (s := State.note _ worker _) heard away
        · exact here.same rfl rfl rfl
    · have removed := State.task?_removeTask_of_ne (s := { s with ready := s.ready.erase (.task worker) }) mine
      split
      · exact walks.same rfl rfl (State.place?_congr removed rfl)
      · split
        · exact walks.elsewhere mine (Goes.follow _ worker _) (Goes.follow _ worker _).only rfl removed rfl unstopped
        · exact walks.elsewhere mine (Goes.resume _ worker _ _ _) (Goes.resume _ worker _ _ _).only_heard rfl
            removed rfl unstopped
        · exact walks.same rfl rfl rfl

theorem waits (walks : s.Walks id) (coherent : Coherent s) {request : Request}
    (busy : s.busy = some (id, request)) :
    s.task? id = none ∧ ∃ call, Walk s.config.convention call (s.notes id) (.waits request) := by
  have away := coherent.away busy
  obtain ⟨call, point, walk, stands⟩ := walks
  have stands := stands _ (State.place?_busy away busy)
  obtain rfl : point = _ := stands
  exact ⟨away, call, walk⟩

theorem answerNative (walks : s.Walks id) (coherent : Coherent s) (reply : NativeReply) :
    (s.answerNative reply).Walks id := by
  unfold State.answerNative
  split
  · next worker query next busy =>
    by_cases mine : worker = id
    · subst mine
      obtain ⟨away, call, walk⟩ := walks.waits coherent busy
      have heard := walk.snoc (.hearsPlan (reply query))
      rw [← State.notes_note] at heard
      exact walks_follow (s := s.note worker _) heard away
    · exact walks.elsewhere mine (Goes.follow _ worker _) (Goes.follow _ worker _).only_heard rfl rfl rfl
        (by simp [busy, mine])
  · next worker loop start query next busy =>
    by_cases mine : worker = id
    · subst mine
      obtain ⟨away, call, walk⟩ := walks.waits coherent busy
      have heard := walk.snoc (.hearsNative (reply query))
      rw [← State.notes_note] at heard
      exact walks_resume (s := s.note worker _) heard away
    · exact walks.elsewhere mine (Goes.resume _ worker _ _ _) (Goes.resume _ worker _ _ _).only_heard rfl rfl rfl
        (by simp [busy, mine])
  · exact walks

theorem answerEngine (walks : s.Walks id) (coherent : Coherent s) (reaction : Reaction) :
    (s.answerEngine reaction).Walks id := by
  unfold State.answerEngine
  split
  · next worker loop start channel query next busy =>
    split
    · next reply given =>
      by_cases mine : worker = id
      · subst mine
        obtain ⟨away, call, walk⟩ := walks.waits coherent busy
        have heard := walk.snoc (.hearsEngine (reply query))
        rw [← State.notes_note] at heard
        exact walks_resume (s := s.note worker _) heard away
      · exact walks.elsewhere mine (Goes.resume _ worker _ _ _) (Goes.resume _ worker _ _ _).only_heard rfl rfl rfl
          (by simp [busy, mine])
    · by_cases mine : worker = id
      · subst mine
        obtain ⟨away, call, walk⟩ := walks.waits coherent busy
        refine ⟨call, _, walk, fun place found => ?_⟩
        rw [State.place?_task (State.task?_put ⟨worker, _, false⟩ rfl away), Option.some.injEq] at found
        subst found
        exact ⟨channel, rfl⟩
      · have others : ∀ request, s.busy ≠ some (id, request) := by simp [busy, mine]
        refine walks.same rfl rfl ?_
        rw [State.place?_of_others others, State.place?_of_others fun request asked => by contradiction]
        exact congrArg _ (State.task?_put_of_ne ⟨worker, _, false⟩ rfl mine)
  · exact walks

theorem act (walks : s.Walks id) (coherent : Coherent s) (inside : id < s.nextTask) (event : Event) :
    (Resolver.act s event).Walks id := by
  rcases lookups_act s event with ⟨call, -, -, started⟩ | ⟨other, rfl⟩ | goes | ⟨-, retains⟩
  · rw [started]
    exact walks.startTask inside.ne call
  · exact walks.cancel other
  · cases event with
    | poll task =>
      rcases act_poll s task with same | ⟨idle, -, polled⟩
      · rw [same]
        exact walks
      · rw [polled]
        exact walks.poll idle task
    | answerNative reply => exact walks.answerNative coherent reply
    | answerEngine reaction => exact walks.answerEngine coherent reaction
    | _ => contradiction
  · exact walks.retained retains (config_act s event)

end State.Walks

theorem walks_startTask (coherent : Coherent s) (unnoted : s.notes s.nextTask = []) (call : Call) :
    (s.startTask call).Walks s.nextTask := by
  have notes : (s.startTask call).notes s.nextTask = [.started call] := by
    rw [notes_startTask, unnoted]
    rfl
  refine ⟨call, .follows (call.plan _), by rw [notes]; exact .started, fun place found => ?_⟩
  rw [State.place?_task (coherent.task?_startTask call), Option.some.injEq] at found
  subst found
  exact ⟨rfl, rfl⟩

theorem Reachable.walks (reachable : Reachable s) (inside : id < s.nextTask) : s.Walks id := by
  induction reachable with
  | built clear ok =>
    obtain ⟨-, config, rfl⟩ := build_eq ok
    contradiction
  | @step s event before _ ih =>
    have reachable : Reachable s := before
    have coherent := reachable.coherent
    have retains := retains_settleOwner (act s event)
    have acted : (act s event).Walks id := by
      change id < (act s event).settleOwner.nextTask at inside
      rw [retains.nextTask] at inside
      rcases Nat.lt_or_ge id s.nextTask with known | beyond
      · exact (ih known).act coherent known event
      · rcases apart_act s event with ⟨same, -⟩ | ⟨-, call, -, started⟩
        · omega
        · rw [started] at inside ⊢
          obtain rfl : id = s.nextTask := by
            rw [State.nextTask_startTask] at inside
            omega
          exact walks_startTask coherent (reachable.notes_beyond le_rfl) call
    exact acted.retained retains ((config_step s event).trans (config_act s event).symm)

theorem Reachable.walk (reachable : Reachable s) {note : Note} (noted : note ∈ s.notes id) :
    ∃ call point, Walk s.config.convention call (s.notes id) point := by
  have inside : id < s.nextTask := by
    by_contra beyond
    simp [reachable.notes_beyond (Nat.not_lt.mp beyond)] at noted
  obtain ⟨call, point, walk, -⟩ := reachable.walks inside
  exact ⟨call, point, walk⟩

theorem Reachable.walk_of_started (reachable : Reachable s) (started : .started call ∈ s.notes id) :
    ∃ point, Walk s.config.convention call (s.notes id) point := by
  obtain ⟨own, point, walk⟩ := reachable.walk started
  obtain rfl := walk.started_mem started
  exact ⟨point, walk⟩

theorem State.mem_issues {issue : Issue} : (id, issue) ∈ s.issues ↔ .asked issue ∈ s.notes id := by
  simp only [issues, notes, List.mem_filterMap]
  constructor
  · rintro ⟨entry, member, found⟩
    refine ⟨entry, member, ?_⟩
    unfold Entry.issue? at found
    split at found <;> simp_all [Entry.note?]
  · rintro ⟨entry, member, found⟩
    refine ⟨entry, member, ?_⟩
    unfold Entry.note? at found
    split at found <;> simp_all [Entry.issue?]

end Resolver

end HostLookup
