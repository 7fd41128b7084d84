import HostLookup.Proofs.Steady

/-! A close is final. No channel is created, asked or sent to its teardown any more, and a lookup that comes to a
query of an engine is over. -/
namespace HostLookup
open Resolver

/-- The replies take the attempt to a query of an engine, or to a result after which there is another one. -/
inductive Attempt.Reaches (again : Result → List Reply → Prop) : Attempt → List Reply → Prop
  | engine {query : EngineQuery} {next : Except Fault query.Answer → Attempt} {replies : List Reply} :
      Reaches again (.engine query next) replies
  | native {query : NativeQuery} {next : Except LookupError query.Answer → Attempt}
      {reply : Except LookupError query.Answer} {replies : List Reply}
      (rest : Reaches again (next reply) replies) :
      Reaches again (.native query next) (.native query reply :: replies)
  | finish {result : Result} {replies : List Reply} (rest : again result replies) :
      Reaches again (.finish result) replies

namespace Loop

def Reaches (loop : Loop) (replies : List Reply) : Prop :=
  loop.body.Reaches (fun _ _ => False) replies

def Returns (loop : Loop) (start : Option Nat) (attempt : Attempt) (replies : List Reply) : Prop :=
  attempt.Reaches (fun result left => isStale loop.family start none result = true ∧ loop.Reaches left) replies

end Loop

inductive Plan.Reaches : Plan → List Reply → Prop
  | native {query : NativeQuery} {next : Except LookupError query.Answer → Plan}
      {reply : Except LookupError query.Answer} {replies : List Reply} (rest : Reaches (next reply) replies) :
      Reaches (.native query next) (.native query reply :: replies)
  | attempts {loop : Loop} {replies : List Reply} (body : loop.Reaches replies) :
      Reaches (.attempts loop) replies

namespace Resolver

inductive Place.Reaches (convention : Convention) : Place → List Reply → Prop
  | fresh {call : Call} {replies : List Reply} (rest : (call.plan convention).Reaches replies) :
      Reaches convention (.inl (.fresh call)) replies
  | waiting {loop : Loop} {start : Option Nat} {query : EngineQuery}
      {next : Except Fault query.Answer → Attempt} {stored : Option (Except Fault query.Answer)}
      {reply : Except Fault query.Answer} {replies : List Reply}
      (rest : loop.Returns start (next reply) replies) :
      Reaches convention (.inl (.waiting loop start query next stored)) (.engine query reply :: replies)
  | engine {loop : Loop} {start : Option Nat} {channel : Nat} {query : EngineQuery}
      {next : Except Fault query.Answer → Attempt} {reply : Except Fault query.Answer}
      {replies : List Reply} (rest : loop.Returns start (next reply) replies) :
      Reaches convention (.inr (.engine loop start channel query next)) (.engine query reply :: replies)
  | native {loop : Loop} {start : Option Nat} {query : NativeQuery}
      {next : Except LookupError query.Answer → Attempt} {reply : Except LookupError query.Answer}
      {replies : List Reply} (rest : loop.Returns start (next reply) replies) :
      Reaches convention (.inr (.native loop start query next)) (.native query reply :: replies)
  | plan {query : NativeQuery} {next : Except LookupError query.Answer → Plan}
      {reply : Except LookupError query.Answer} {replies : List Reply} (rest : (next reply).Reaches replies) :
      Reaches convention (.inr (.plan query next)) (.native query reply :: replies)

/-- The lookup has ended for want of a channel. -/
def EndsClosed (notes : List Note) : Prop :=
  [.ended none (.error .closed), .concluded (.error .closed)] <:+ notes

theorem EndsClosed.cons {notes : List Note} (ends : EndsClosed notes) (note : Note) :
    EndsClosed (note :: notes) :=
  ends.trans (List.suffix_cons note notes)

end Resolver

variable {call : Call} {loop : Loop} {replies : List Reply}

theorem Serves.closes (serves : Serves call loop) (start : Option Nat) :
    loop.finish (.error .closed) = .error .closed ∧
      isStale loop.family start none (.error .closed) = false := by
  rw [serves.finish, serves.family]
  refine ⟨call.finish_closed, ?_⟩
  cases call <;> rfl

theorem Attempt.Reaches.ends {again : Result → List Reply → Prop} {finish : Result → List Reply → List Note}
    {attempt : Attempt} (reaches : attempt.Reaches again replies)
    (closed : ∀ left, EndsClosed (finish (.error .closed) left))
    (more : ∀ result left, again result left → EndsClosed (finish result left)) :
    EndsClosed (attempt.transcript none finish replies) := by
  induction reaches with
  | engine => exact closed _
  | @native query next reply replies rest ih =>
    simp only [Attempt.transcript, query.hear_self]
    exact (ih.cons _).cons _
  | finish rest => exact more _ _ rest

theorem Loop.Reaches.ends (reaches : loop.Reaches replies) (serves : Serves call loop) :
    EndsClosed (loop.transcript none replies) := by
  refine EndsClosed.cons (Attempt.Reaches.ends reaches (fun left => ?_) fun _ _ never => never.elim) _
  rw [(serves.closes none).1]
  exact List.suffix_rfl

theorem Loop.Returns.ends {start : Option Nat} {attempt : Attempt} (returns : loop.Returns start attempt replies)
    (serves : Serves call loop) : EndsClosed (loop.remainder none start attempt replies) := by
  obtain ⟨final, settled⟩ := serves.closes start
  refine Attempt.Reaches.ends returns (fun left => ?_) fun result left stale => ?_
  · simp only [Option.map_none, settled, final]
    exact List.suffix_rfl
  · simp only [Option.map_none, stale.1, if_true]
    exact (stale.2.ends serves).cons _

theorem Plan.Reaches.ends {plan : Plan} (reaches : plan.Reaches replies) (serves : plan.All (Serves call)) :
    EndsClosed (plan.transcript none replies) := by
  induction reaches with
  | @native query next reply replies rest ih =>
    simp only [Plan.transcript, query.hear_self]
    cases serves with
    | native all => exact ((ih (all reply)).cons _).cons _
  | attempts body =>
    cases serves with
    | attempts serves => exact body.ends serves

namespace Resolver

def Place.Served : Place → Prop
  | .inl (.fresh _) => True
  | .inl (.waiting loop _ _ _ _) | .inr (.native loop _ _ _) | .inr (.engine loop _ _ _ _) =>
    ∃ call, Serves call loop
  | .inr (.plan _ next) => ∃ call, ∀ reply, (next reply).All (Serves call)

theorem Place.Reaches.ends {convention : Convention} {place : Place} (reaches : place.Reaches convention replies)
    (served : place.Served) : EndsClosed (place.remainder none convention replies) := by
  cases reaches with
  | @fresh call replies rest => exact rest.ends (plan_serves call convention)
  | @waiting loop start query next stored reply replies rest =>
    obtain ⟨call, serves⟩ := served
    rw [Place.remainder, Stage.remainder, query.hear_self]
    exact (rest.ends serves).cons _
  | @engine loop start channel query next reply replies rest =>
    obtain ⟨call, serves⟩ := served
    rw [Place.remainder, Request.remainder, query.hear_self]
    exact (rest.ends serves).cons _
  | @native loop start query next reply replies rest =>
    obtain ⟨call, serves⟩ := served
    rw [Place.remainder, Request.remainder, query.hear_self]
    exact (rest.ends serves).cons _
  | @plan query next reply replies rest =>
    obtain ⟨call, serves⟩ := served
    rw [Place.remainder, Request.remainder, query.hear_self]
    exact (rest.ends (serves reply)).cons _

variable {s t : State} {id : Nat}

theorem Coherent.served (coherent : Coherent s) {place : Place} (found : s.place? id = some place) :
    place.Served := by
  unfold State.place? at found
  split at found
  · next task among =>
    obtain rfl := Option.some.inj found
    have stands := coherent.settled.stands task (State.task?_some among).1
    cases stage : task.stage with
    | fresh call => trivial
    | waiting loop start query next stored =>
      rw [stage] at stands
      obtain ⟨call, under⟩ := stands
      exact ⟨call, under.serves⟩
  · split at found
    · next other request busy =>
      split at found
      · obtain rfl := Option.some.inj found
        have awaits := coherent.awaits other request busy
        cases request with
        | plan query next =>
          obtain ⟨call, -, serves⟩ := awaits
          exact ⟨call, serves⟩
        | native loop start query next =>
          obtain ⟨call, under⟩ := awaits
          exact ⟨call, under.serves⟩
        | engine loop start channel query next =>
          obtain ⟨call, under⟩ := awaits
          exact ⟨call, under.serves⟩
      · contradiction
    · contradiction

namespace Lifecycle

/-- What always holds once the resolver was closed: its slot is empty, and the hub does not call it. -/
structure Shut (l : Lifecycle) : Prop where
  closed : l.closed = true
  slot : l.slot = none
  deaf : ∀ entry ∈ l.hub.watchers, entry.1 ≠ l.watcher

variable {l : Lifecycle}

theorem Shut.close (l : Lifecycle) : Shut l.close := by
  obtain ⟨teardowns, -, closed⟩ := close_eq l
  rw [closed]
  refine ⟨rfl, rfl, fun entry member => ?_⟩
  simpa using (List.mem_filter.mp member).2

theorem onFork_of_closed (closed : l.closed = true) : l.onFork = l := by
  simp [onFork, closed]

theorem Shut.apply (shut : Shut l) (change : Change) :
    Shut (l.apply change) ∧ (l.apply change).creations = l.creations := by
  cases change with
  | setPid pid => exact ⟨⟨shut.closed, shut.slot, shut.deaf⟩, rfl⟩
  | obstruct obstacle => exact ⟨⟨shut.closed, shut.slot, shut.deaf⟩, rfl⟩
  | reinit => exact ⟨⟨shut.closed, shut.slot, by simpa [Lifecycle.apply, reinit] using shut.deaf⟩, rfl⟩
  | close =>
    refine ⟨Shut.close l, ?_⟩
    obtain ⟨teardowns, -, closed⟩ := close_eq l
    rw [Lifecycle.apply, closed]
  | rest => exact ⟨shut, rfl⟩
  | turn =>
    cases queued : l.hub.queue with
    | nil =>
      have same : l.apply .turn = l := by simp only [Lifecycle.apply, Hub.next?, queued]
      rw [same]
      exact ⟨shut, rfl⟩
    | cons callback rest =>
      simp only [Lifecycle.apply, Hub.next?, queued]
      have popped : Shut { l with hub := { l.hub with queue := rest } } :=
        ⟨shut.closed, shut.slot, shut.deaf⟩
      cases callback with
      | destroy channel => exact ⟨⟨popped.closed, popped.slot, popped.deaf⟩, rfl⟩
      | fork =>
        rw [runCallback, onFork_of_closed popped.closed]
        exact ⟨popped, rfl⟩

theorem closed_apply {change : Change} (opened : l.closed = false) (other : change ≠ .close) :
    (l.apply change).closed = false := by
  cases change with
  | close => contradiction
  | turn =>
    cases queued : l.hub.queue with
    | nil => simpa only [Lifecycle.apply, Hub.next?, queued] using opened
    | cons callback rest =>
      simp only [Lifecycle.apply, Hub.next?, queued]
      cases callback with
      | destroy channel => exact opened
      | fork =>
        rcases onFork_cases { l with hub := { l.hub with queue := rest } } with ⟨same, -⟩ | rebuilt
        · rw [runCallback, same]
          exact opened
        · exact rebuilt.closed
  | _ => exact opened

end Lifecycle

open Lifecycle

theorem Reachable.shut (reachable : Reachable s) (closed : s.closed = true) : Shut s.toLifecycle := by
  refine reachable.lifecycle (P := fun l => l.closed = true → Shut l) ?_ ?_ closed
  · intro builder obstacle hub s clear ok closed
    obtain ⟨-, config, rfl⟩ := build_eq ok
    contradiction
  · intro l change before closed
    cases open_ : l.closed with
    | true => exact ((before open_).apply change).1
    | false =>
      by_cases close : change = .close
      · rw [close]
        exact Shut.close l
      · rw [closed_apply open_ close] at closed
        contradiction

/-- What has become of the channels since `s`, which was closed: nothing, but that those whose teardown was
queued may have been torn down. -/
structure Ceased (s t : State) : Prop where
  closed : t.closed = true
  slot : t.slot = none
  creations : t.creations = s.creations
  asked : t.issues.filterMap (·.2.channel?) = s.issues.filterMap (·.2.channel?)
  teardowns : ∀ channel, t.teardowns channel = s.teardowns channel

theorem Lifecycle.Custody.length_destroyed_eq {l after : Lifecycle} (custody : l.Custody) (later : after.Custody)
    (creations : after.creations = l.creations) : after.destroyed.length = l.destroyed.length := by
  rw [← custody.length_created, ← later.length_created, Lifecycle.created, creations, Lifecycle.created]

theorem shut_step (shut : Shut s.toLifecycle) (event : Event) :
    Shut (step s event).toLifecycle ∧ (step s event).creations = s.creations := by
  have acted := shut.apply (event.change s.busy.isSome)
  rcases toLifecycle_step s event with same | closed
  · rw [same]
    exact acted
  · have again := acted.1.apply .close
    rw [closed]
    exact ⟨again.1, again.2.trans acted.2⟩

theorem ceased_step (reachable : Reachable s) (closed : s.closed = true) (event : Event) :
    Ceased s (step s event) := by
  have shut := reachable.shut closed
  have after := shut_step shut event
  refine ⟨after.1.closed, after.1.slot, after.2, ?_, fun channel => ?_⟩
  · cases asks_step s event with
    | nothing issues busy => rw [issues]
    | @query id request issues busy live =>
      have unasked : request.issue.channel? = none := by
        cases asked : request.issue.channel? with
        | none => rfl
        | some channel =>
          have found := live channel asked
          simp [Lifecycle.channel?, after.1.slot] at found
      simp [issues, unasked]
  · have custody := reachable.custody
    have later := (reachable.step event).custody
    rw [custody.teardowns, later.teardowns, custody.length_destroyed_eq later after.2]
    simp [Lifecycle.channel?, shut.slot, after.1.slot]

theorem ceased_run (reachable : Reachable s) (closed : s.closed = true) (events : List Event) :
    Ceased s (run s events) := by
  induction events generalizing s with
  | nil => exact ⟨closed, (reachable.shut closed).slot, rfl, rfl, fun _ => rfl⟩
  | cons event rest ih =>
    have first := ceased_step reachable closed event
    have later := ih (reachable.step event) first.closed
    exact ⟨later.closed, later.slot, later.creations.trans first.creations, later.asked.trans first.asked,
      fun channel => (later.teardowns channel).trans (first.teardowns channel)⟩

theorem closed_settleOwner (s : State) (released : s.settleOwner.released = true)
    (gone : s.settleOwner.tasks = []) (idle : s.settleOwner.busy = none) : s.settleOwner.closed = true := by
  unfold State.settleOwner at *
  split
  · rw [State.close, State.toLifecycle_manage]
    exact (Shut.close _).closed
  · next used =>
    rw [if_neg used] at released gone idle
    simp [released, gone, idle] at used

theorem steadily_of_closed (reachable : Reachable s) (closed : s.closed = true) (events : List Event) :
    Steadily s (run s events) := by
  induction events using List.reverseRecOn with
  | nil => exact .here
  | append_singleton events event ih =>
    have before := (reachable.run events).shut (ceased_run reachable closed events).closed
    have acted := (before.apply (event.change (run s events).busy.isSome)).1
    rw [run_concat]
    refine ih.step ?_
    rw [before.slot, toLifecycle_act, acted.slot]

theorem stored_run {stored : Reply} (reachable : Reachable s) (waits : s.stored? id = some stored)
    (events : List Event) :
    ((run s events).notes id = s.notes id ∧
        ((run s events).place? id = s.place? id ∨ (run s events).place? id = none)) ∨
      s.notes id ++ [.heard stored] <+: (run s events).notes id := by
  have here : s.place? id ≠ none := by
    intro gone
    simp [State.stored?, gone] at waits
  induction events using List.reverseRecOn with
  | nil => exact Or.inl ⟨rfl, Or.inl rfl⟩
  | append_singleton events event ih =>
    have coherent := (reachable.run events).coherent
    have inside : id < (run s events).nextTask :=
      (reachable.coherent.lt_of_place here).trans_le (nextTask_le_run s events)
    rw [run_concat]
    have moves := moves_step coherent event id
    rcases ih with ⟨noted, place⟩ | further
    · have unread : (run s events).place? id = s.place? id → (run s events).stored? id = some stored :=
        fun same => by rw [State.stored?, same, ← State.stored?, waits]
      cases moves with
      | rests same _ kept =>
        refine Or.inl ⟨same.trans noted, ?_⟩
        rcases place with still | gone
        · exact Or.inl ((kept (Or.inr (by simp [unread still]))).trans still)
        · exact Or.inr ((kept (Or.inl gone)).trans gone)
      | starts call _ new => exact absurd new inside.ne
      | drops same gone => exact Or.inl ⟨same.trans noted, Or.inr gone⟩
      | begins found empty _ =>
        have still := place.resolve_right found
        simp [unread still] at empty
      | hears found due _ leads =>
        have still := place.resolve_right found
        obtain rfl := due stored (unread still)
        obtain ⟨new, later, -⟩ := leads
        rw [later, noted]
        exact Or.inr (List.prefix_append _ _)
    · exact Or.inr (further.trans moves.notes_grow)

/-- The reply that the lookup has not read is the success of its last query; `notes` are what comes of it. -/
inductive Stage.Succeeds : Stage → List Note → Prop
  | delivered {loop : Loop} {start : Option Nat} {query : EngineQuery}
      {next : Except Fault query.Answer → Attempt} {reply : Except Fault query.Answer} {answer : Answer}
      (last : next reply = .finish (.ok answer)) :
      Succeeds (.waiting loop start query next (some reply))
        [.heard (.engine query reply), .ended none (.ok answer), .concluded (loop.finish (.ok answer))]

theorem Stage.Succeeds.remainder {stage : Stage} {notes : List Note} (succeeds : stage.Succeeds notes)
    (convention : Convention) : ∃ reply, Place.stored? (.inl stage) = some reply ∧
      ∀ replies, stage.remainder none convention (reply :: replies) = notes := by
  cases succeeds with
  | @delivered loop start query next reply answer last =>
    refine ⟨.engine query reply, rfl, fun replies => ?_⟩
    rw [Stage.remainder, query.hear_self, last]
    rfl

theorem success_run (reachable : Reachable s) (closed : s.closed = true) {task : Task}
    (member : task ∈ s.tasks) {notes : List Note} (succeeds : task.stage.Succeeds notes)
    (events : List Event) :
    (run s events).notes task.id = s.notes task.id ∨
      (run s events).notes task.id = s.notes task.id ++ notes := by
  obtain ⟨stored, waits, remainder⟩ := succeeds.remainder s.config.convention
  have place := State.place?_task (reachable.coherent.task?_of_mem member)
  have inside := reachable.coherent.settled.bound task member
  obtain ⟨new, noted, whole⟩ := ((steadily_of_closed reachable closed events).along reachable inside).notes
  have unread : s.stored? task.id = some stored := by
    rw [State.stored?, place]
    exact waits
  rcases stored_run reachable unread events with ⟨same, -⟩ | ⟨more, further⟩
  · exact Or.inl same
  · rw [List.append_assoc, noted, List.append_cancel_left_eq] at further
    have follows : new = s.remainder task.id (heard new) := whole.resolve_left (by simp [← further])
    have first : heard new = stored :: heard more := by
      rw [← further]
      rfl
    rw [State.remainder_of_place place, (reachable.shut closed).slot, first] at follows
    exact Or.inr (by rw [noted, follows]; exact congrArg _ (remainder _))

theorem poll_stored {loop : Loop} {start : Option Nat} {query : EngineQuery}
    {next : Except Fault query.Answer → Attempt} {reply : Except Fault query.Answer}
    (found : s.task? id = some ⟨id, .waiting loop start query next (some reply), false⟩) :
    ∃ new, (s.poll id).notes id = s.notes id ++ .heard (.engine query reply) :: new := by
  have away := State.task?_removeTask { s with ready := s.ready.erase (.task id) } id
  obtain ⟨new, noted, -⟩ := Leads.resume_heard away (.engine query reply) loop start (next reply)
  refine ⟨new, ?_⟩
  unfold State.poll
  simp only [found, Bool.false_eq_true, if_false]
  rw [List.append_assoc] at noted
  exact noted

theorem success_poll (reachable : Reachable s) (closed : s.closed = true) (idle : s.busy = none)
    {task : Task} (member : task ∈ s.tasks) (going : task.cancelled = false) {notes : List Note}
    (succeeds : task.stage.Succeeds notes) :
    (step s (.poll task.id)).notes task.id = s.notes task.id ++ notes := by
  refine (success_run reachable closed member succeeds [.poll task.id]).resolve_left ?_
  have found := reachable.coherent.task?_of_mem member
  have awake := reachable.awake.ready task member
  change (step s (.poll task.id)).notes task.id ≠ s.notes task.id
  rw [step, (retains_settleOwner _).notes]
  obtain ⟨id, stage, cancelled⟩ := task
  obtain rfl : cancelled = false := going
  cases succeeds with
  | @delivered loop start query next reply answer last =>
    have ready : .task id ∈ s.ready := awake (Or.inr fun pending => pending)
    have polled : act s (.poll id) = s.poll id := by simp [act, idle, ready]
    obtain ⟨new, noted⟩ := poll_stored found
    rw [polled, noted]
    simp

theorem closed_step_close (s : State) : (step s .close).closed = true := by
  have closed := Shut.close s.toLifecycle
  rcases toLifecycle_step s .close with same | again
  · rw [same]
    exact closed.closed
  · rw [again]
    exact (Shut.close _).closed

/-- A close is final, whether it was called or nobody holds the resolver any more. From then on the slot stays
empty, no channel is asked for or asked, and no other teardown is queued. Every lookup goes on as its transcript
says where no channel is live: those that were under way, and those that start later. One that comes to a query
of an engine ends there as closed; a success that was delivered before it was read is its result. -/
theorem close_final (reachable : Reachable s) :
    (step s .close).closed = true ∧
    (∀ event, let t := step s event
      t.released = true → t.tasks = [] → t.busy = none → t.closed = true) ∧
    (s.closed = true →
      (∀ events, let t := run s events
        Ceased s t ∧
        (∀ id < s.nextTask, ∃ new, t.notes id = s.notes id ++ new ∧
          (new = [] ∨ new = s.remainder id (heard new)) ∧
          ∀ place, s.place? id = some place → place.Reaches s.config.convention (heard new) →
            new = [] ∨ EndsClosed new) ∧
        (∀ id, s.nextTask ≤ id → id < t.nextTask → ∃ call new, t.notes id = .started call :: new ∧
          (new = [] ∨ new = (call.plan s.config.convention).transcript none (heard new)) ∧
          ((call.plan s.config.convention).Reaches (heard new) → new = [] ∨ EndsClosed new)) ∧
        ∀ task ∈ s.tasks, ∀ notes, task.stage.Succeeds notes →
          t.notes task.id = s.notes task.id ∨ t.notes task.id = s.notes task.id ++ notes) ∧
      (s.busy = none → ∀ task ∈ s.tasks, task.cancelled = false → ∀ notes, task.stage.Succeeds notes →
        (step s (.poll task.id)).notes task.id = s.notes task.id ++ notes)) := by
  refine ⟨closed_step_close s, ?_, fun closed => ⟨fun events => ⟨?_, ?_, ?_, ?_⟩, ?_⟩⟩
  · exact fun event => closed_settleOwner (act s event)
  · exact ceased_run reachable closed events
  · intro id inside
    have along := (steadily_of_closed reachable closed events).along reachable inside
    obtain ⟨new, noted, whole⟩ := along.notes
    refine ⟨new, noted, whole, fun place found reaches => whole.imp_right fun follows => ?_⟩
    rw [State.remainder_of_place found, (reachable.shut closed).slot] at follows
    exact follows ▸ reaches.ends (reachable.coherent.served found)
  · intro id later inside
    obtain ⟨call, along⟩ := (steadily_of_closed reachable closed events).along_started reachable later inside
    rw [(reachable.shut closed).slot] at along
    obtain ⟨new, noted, whole⟩ := along.notes
    refine ⟨call, new, noted, whole, fun reaches => whole.imp_right fun follows => ?_⟩
    exact follows ▸ reaches.ends (plan_serves call s.config.convention)
  · intro task member notes succeeds
    exact success_run reachable closed member succeeds events
  · intro idle task member going notes succeeds
    exact success_poll reachable closed idle member going succeeds

def closedAtFork : State :=
  run plain
    [.start (.hostEntry (.bytes [119, 119, 119]) .unspec), .poll 0, .answerEngine .hold, .setPid 2, .reinit,
      .close]

theorem close_final_at_fork :
    let t := run closedAtFork [.turn, .turn, .poll 0]
    t.slot = none ∧ t.creations = closedAtFork.creations ∧ t.teardowns 0 = 1 := by
  have reachable : Reachable closedAtFork := Reachable.run reached_plain _
  obtain ⟨-, -, final⟩ := close_final reachable
  obtain ⟨ceased, -⟩ := (final rfl).1 [.turn, .turn, .poll 0]
  exact ⟨ceased.slot, ceased.creations, ceased.teardowns 0⟩

end Resolver

end HostLookup
