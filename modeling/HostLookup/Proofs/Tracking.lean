import HostLookup.Proofs.Tasks
import Mathlib.Data.List.Induction

/-! The numbers that a channel keeps are those of the accepted queries that have not finished and were not aborted; and
a completion is used up once, with the result of its own query unless the channel was torn down first. -/
namespace HostLookup.Engine.Workload

variable {w : Workload} {id : Nat} {task : Task}

structure Sound (w : Workload) : Prop where
  stands : ∀ id (task : Task), w.tasks[id]? = some task → task.Stands (w.uses id) (w.readings id)
  beyond : ∀ id, w.tasks[id]? = none → w.uses id = [] ∧ w.readings id = []
  tracked : ∀ id, id ∈ w.tracked ↔ ∃ task, w.tasks[id]? = some task ∧ task.stage = .running
  distinct : w.tracked.Nodup
  torn : w.destroyed = true → w.tracked = []

namespace Sound

theorem empty : Sound {} :=
  ⟨fun _ _ here => (nomatch here), fun _ _ => ⟨rfl, rfl⟩, fun id => by simp, .nil, fun torn => (nomatch torn)⟩

theorem unused (sound : w.Sound) (here : w.tasks[id]? = some task) (going : task.stage ≠ .ended) : w.uses id = [] :=
  ((sound.stands id task here).unused going).1

theorem tracked_quiet (sound : w.Sound) (event : Event) (same : (w.step event).tracked = w.tracked)
    (unasked : ∀ query, event ≠ .ask query) (unpolled : ∀ id reply?, event ≠ .poll id reply?)
    (kept : event ≠ .destroy) (id : Nat) :
    id ∈ (w.step event).tracked ↔ ∃ task, (w.step event).tasks[id]? = some task ∧ task.stage = .running := by
  rw [same, sound.tracked]
  cases here : w.tasks[id]? with
  | none =>
    obtain ⟨-, -, begins⟩ := step_begins here event
    simp [begins, unasked]
  | some task =>
    obtain ⟨after, used, read, fares, now, -⟩ := step_fares here event
    simp [now, fares.stage_of_quiet (unpolled id) kept]

theorem tracked_enroll (sound : w.Sound) (query : EngineQuery) (id : Nat) :
    id ∈ (w.enroll query).tracked ↔ ∃ task, (w.enroll query).tasks[id]? = some task ∧ task.stage = .running := by
  simp only [enroll, List.mem_append, List.mem_singleton, sound.tracked]
  rcases Nat.lt_trichotomy id w.tasks.length with inside | rfl | past
  · rw [List.getElem?_append_left inside]
    simp [Nat.ne_of_lt inside]
  · simp
  · have none : (w.tasks ++ [({ query } : Task)])[id]? = none :=
      List.getElem?_eq_none_iff.mpr (by rw [List.length_append, List.length_singleton]; omega)
    have away : w.tasks[id]? = Option.none := List.getElem?_eq_none_iff.mpr (Nat.le_of_lt past)
    simp [none, away, Nat.ne_of_gt past]

theorem tracked_poll (sound : w.Sound) (id : Nat) (reply? : Option EngineReply) (other : Nat) :
    other ∈ (w.poll id reply?).tracked ↔
      ∃ task, (w.poll id reply?).tasks[other]? = some task ∧ task.stage = .running := by
  cases here : w.tasks[id]? with
  | none =>
    have nothing : w.poll id reply? = w := by simp [poll, here]
    rw [nothing, sound.tracked]
  | some task =>
    rw [mem_tracked_poll here, sound.tracked]
    by_cases own : id = other
    · subst own
      obtain ⟨after, used, fares, now, -⟩ := poll_fares here reply?
      rw [here, now]
      cases fares with
      | stays polled =>
        rcases polled reply? rfl with ended | ⟨running, rfl⟩
        · simp [ended]
        · simp [running]
      | finishes running reply => simp [running, Task.finish]
      | discards aborted => simp [aborted, Task.discard]
    · rw [(poll_apart own w reply?).1]
      simp [Ne.symm own]

theorem not_running_destroy (sound : w.Sound) (here : w.destroy.tasks[id]? = some task) :
    task.stage ≠ .running := by
  rw [task?_destroy] at here
  intro running
  split at here
  · obtain ⟨before, -, rfl⟩ := Option.map_eq_some_iff.mp here
    simp only [Task.abort] at running
    split at running
    · contradiction
    · contradiction
  · next spared =>
    have kept : id ∈ w.tracked := (sound.tracked id).mpr ⟨task, here, running⟩
    have torn : w.destroyed = true := by simpa [kept] using spared
    simp [sound.torn torn] at kept

theorem tracked_destroy (sound : w.Sound) : w.destroy.tracked = [] := by
  rw [Workload.tracked_destroy]
  split
  · exact sound.torn ‹_›
  · rfl

theorem tracked_step (sound : w.Sound) (event : Event) (id : Nat) :
    id ∈ (w.step event).tracked ↔ ∃ task, (w.step event).tasks[id]? = some task ∧ task.stage = .running := by
  cases event with
  | ask query =>
    rcases w.ask_cases query with ⟨fault, refused, -⟩ | ⟨-, -, accepted⟩
    · simpa [step, refused] using sound.tracked id
    · simpa [step, accepted] using sound.tracked_enroll query id
  | poll other reply? => exact sound.tracked_poll other reply? id
  | destroy =>
    rw [step, sound.tracked_destroy]
    constructor
    · intro kept
      exact absurd kept List.not_mem_nil
    · rintro ⟨task, here, running⟩
      exact absurd running (sound.not_running_destroy here)
  | read other => exact sound.tracked_quiet (.read other) (w.tracked_read other) (by simp) (by simp) (by simp) id
  | leave other => exact sound.tracked_quiet (.leave other) rfl (by simp) (by simp) (by simp) id

theorem distinct_step (sound : w.Sound) (event : Event) : (w.step event).tracked.Nodup := by
  cases event with
  | ask query =>
    rcases w.ask_cases query with ⟨fault, refused, -⟩ | ⟨-, -, accepted⟩
    · simpa [step, refused] using sound.distinct
    · have fresh : w.tasks.length ∉ w.tracked := by simp [sound.tracked]
      simp only [step, accepted, enroll]
      exact List.nodup_append.mpr ⟨sound.distinct, by simp, by grind⟩
  | poll id reply? => exact sound.distinct.sublist (w.tracked_poll_sublist id reply?)
  | destroy =>
    rw [step, sound.tracked_destroy]
    exact .nil
  | read id => simpa [step] using sound.distinct
  | leave id => exact sound.distinct

theorem torn_step (sound : w.Sound) (event : Event) (torn : (w.step event).destroyed = true) :
    (w.step event).tracked = [] := by
  rcases (w.destroyed_step event).mp torn with before | rfl
  · refine List.eq_nil_iff_forall_not_mem.mpr fun id kept => ?_
    cases event with
    | ask query =>
      rcases w.ask_cases query with ⟨fault, refused, -⟩ | ⟨-, intact, -⟩
      · simp [step, refused, sound.torn before] at kept
      · simp [before] at intact
    | poll other reply? =>
      have earlier := (w.tracked_poll_sublist other reply?).subset kept
      simp [sound.torn before] at earlier
    | destroy => simp [step, sound.tracked_destroy] at kept
    | read other => simp [step, sound.torn before] at kept
    | leave other => simp [step, sound.torn before] at kept
  · exact sound.tracked_destroy

theorem step (sound : w.Sound) (event : Event) : (w.step event).Sound := by
  refine ⟨fun id task now => ?_, fun id gone => ?_, sound.tracked_step event, sound.distinct_step event,
    sound.torn_step event⟩
  · cases here : w.tasks[id]? with
    | none =>
      obtain ⟨uses, readings, begins⟩ := step_begins here event
      obtain ⟨query, -, -, rfl⟩ := (begins task).mp now
      rw [uses, readings, (sound.beyond id here).1, (sound.beyond id here).2]
      exact .started query
    | some before =>
      obtain ⟨after, used, read, fares, stays, uses, readings⟩ := step_fares here event
      obtain rfl := Option.some.inj (now.symm.trans stays)
      rw [uses, readings]
      exact fares.stands (sound.stands id before here)
  · cases here : w.tasks[id]? with
    | none =>
      obtain ⟨uses, readings, -⟩ := step_begins here event
      rw [uses, readings]
      exact sound.beyond id here
    | some before =>
      obtain ⟨after, -, -, -, stays, -⟩ := step_fares here event
      exact nomatch gone.symm.trans stays

theorem run (sound : w.Sound) (events : List Event) : (w.run events).Sound := by
  induction events generalizing w with
  | nil => exact sound
  | cons event rest ih => exact ih (sound.step event)

end Sound

/-- There was an event like this, after the events before it. -/
def Happens (what : List Event → Event → Prop) (events : List Event) : Prop :=
  ∃ before event after, events = before ++ event :: after ∧ what before event

def Accepts (events : List Event) (id : Nat) (query : EngineQuery) : Prop :=
  Happens (fun before event => event = .ask query ∧ ((run {} before).ask query).1 = .ok id) events

/-- The query of a number has no result so far, and the channel is intact. -/
def Pends (events : List Event) (id : Nat) : Prop :=
  (∃ query, Accepts events id query) ∧ (run {} events).uses id = [] ∧ .destroy ∉ events

/-- A task got its turn when there was a reply to its query, before anything else ended it. -/
def Finishes (events : List Event) (id : Nat) (reply : EngineReply) : Prop :=
  Happens (fun before event => event = .poll id (some reply) ∧ Pends before id) events

def Aborts (events : List Event) (id : Nat) : Prop :=
  Happens (fun before event => event = .destroy ∧ Pends before id) events

theorem happens_concat {what : List Event → Event → Prop} {events : List Event} {last : Event} :
    Happens what (events ++ [last]) ↔ Happens what events ∨ what events last := by
  constructor
  · rintro ⟨before, event, after, split, happens⟩
    rcases List.eq_nil_or_concat after with rfl | ⟨rest, final, rfl⟩
    · obtain ⟨rfl, same⟩ := List.append_inj' split rfl
      obtain rfl := List.singleton_inj.mp same
      exact .inr happens
    · rw [List.concat_eq_append, ← List.cons_append, ← List.append_assoc] at split
      obtain ⟨earlier, -⟩ := List.append_inj' split rfl
      exact .inl ⟨before, event, rest, earlier, happens⟩
  · rintro (⟨before, event, after, rfl, happens⟩ | happens)
    · exact ⟨before, event, after ++ [last], by simp, happens⟩
    · exact ⟨events, last, [], rfl, happens⟩

@[simp] theorem run_concat (w : Workload) (events : List Event) (last : Event) :
    w.run (events ++ [last]) = (w.run events).step last :=
  List.foldl_append

theorem Happens.append {what : List Event → Event → Prop} {events : List Event} (happens : Happens what events)
    (more : List Event) : Happens what (events ++ more) := by
  obtain ⟨before, event, after, rfl, here⟩ := happens
  exact ⟨before, event, after ++ more, by simp, here⟩

variable {events : List Event} {last : Event} {query : EngineQuery} {reply : EngineReply}

theorem not_happens_nil (what : List Event → Event → Prop) : ¬Happens what [] := by
  rintro ⟨before, event, after, split, -⟩
  simp at split

theorem accepts_concat : Accepts (events ++ [last]) id query ↔
    Accepts events id query ∨ last = .ask query ∧ ((run {} events).ask query).1 = .ok id :=
  happens_concat

theorem finishes_concat : Finishes (events ++ [last]) id reply ↔
    Finishes events id reply ∨ last = .poll id (some reply) ∧ Pends events id :=
  happens_concat

theorem aborts_concat : Aborts (events ++ [last]) id ↔ Aborts events id ∨ last = .destroy ∧ Pends events id :=
  happens_concat

theorem sound_run (events : List Event) : (run {} events).Sound :=
  Sound.empty.run events

theorem destroyed_run : (run {} events).destroyed = true ↔ .destroy ∈ events := by
  induction events using List.reverseRecOn with
  | nil => simp [run]
  | append_singleton events last ih =>
    rw [run_concat, destroyed_step, ih, List.mem_append, List.mem_singleton, eq_comm (a := last)]

theorem accepts_iff : Accepts events id query ↔ ∃ task, (run {} events).tasks[id]? = some task ∧ task.query = query := by
  induction events using List.reverseRecOn with
  | nil => exact ⟨fun accepts => absurd accepts (not_happens_nil _), fun ⟨_, here, _⟩ => nomatch here⟩
  | append_singleton events last ih =>
    rw [accepts_concat, ih, run_concat]
    cases here : (run {} events).tasks[id]? with
    | none =>
      obtain ⟨-, -, begins⟩ := step_begins here last
      constructor
      · rintro (⟨_, there, -⟩ | ⟨rfl, accepted⟩)
        · exact nomatch there
        · exact ⟨{ query }, (begins _).mpr ⟨query, rfl, accepted, rfl⟩, rfl⟩
      · rintro ⟨task, now, rfl⟩
        obtain ⟨query, rfl, accepted, rfl⟩ := (begins task).mp now
        exact .inr ⟨rfl, accepted⟩
    | some task =>
      obtain ⟨after, used, read, fares, now, -⟩ := step_fares here last
      rw [now]
      constructor
      · rintro (⟨_, same, rfl⟩ | ⟨rfl, accepted⟩)
        · obtain rfl := Option.some.inj same
          exact ⟨after, rfl, fares.query_eq⟩
        · exact nomatch here.symm.trans (ask_fresh accepted)
      · rintro ⟨_, same, rfl⟩
        obtain rfl := Option.some.inj same
        exact .inl ⟨task, rfl, fares.query_eq.symm⟩

theorem Finishes.accepts (finishes : Finishes events id reply) : ∃ query, Accepts events id query := by
  obtain ⟨before, event, after, rfl, -, ⟨query, accepts⟩, -⟩ := finishes
  exact ⟨query, accepts.append _⟩

theorem Aborts.accepts (aborts : Aborts events id) : ∃ query, Accepts events id query := by
  obtain ⟨before, event, after, rfl, -, ⟨query, accepts⟩, -⟩ := aborts
  exact ⟨query, accepts.append _⟩

inductive Fate (events : List Event) (id : Nat) (task : Task) (uses : List Use) : Prop
  | running (stage : task.stage = .running) (unfinished : ∀ reply, ¬Finishes events id reply)
      (spared : ¬Aborts events id)
  | aborted (stage : task.stage = .aborted) (unfinished : ∀ reply, ¬Finishes events id reply)
      (aborts : Aborts events id)
  | finished (reply : EngineReply) (stage : task.stage = .ended)
      (finishes : ∀ other, Finishes events id other ↔ other = reply) (spared : ¬Aborts events id)
      (used : uses = [.delivered ⟨task.query, reply task.query⟩])
  | dropped (stage : task.stage = .ended) (unfinished : ∀ reply, ¬Finishes events id reply)
      (aborts : Aborts events id) (used : uses = [.dropped])

namespace Fate

variable {after : Task} {uses : List Use}

theorem same (fate : Fate events id task uses) (stage : after.stage = task.stage) (query : after.query = task.query)
    (finishes : ∀ reply, ¬(last = .poll id (some reply) ∧ Pends events id))
    (aborts : ¬(last = .destroy ∧ Pends events id)) : Fate (events ++ [last]) id after uses := by
  have alike reply : Finishes (events ++ [last]) id reply ↔ Finishes events id reply := by
    rw [finishes_concat, or_iff_left (finishes reply)]
  have spares : Aborts (events ++ [last]) id ↔ Aborts events id := by
    rw [aborts_concat, or_iff_left aborts]
  cases fate with
  | running running unfinished spared =>
    exact .running (stage.trans running) (by simpa only [alike] using unfinished) (by rwa [spares])
  | aborted aborted unfinished aborts =>
    exact .aborted (stage.trans aborted) (by simpa only [alike] using unfinished) (by rwa [spares])
  | finished reply ended finishes spared used =>
    exact .finished reply (stage.trans ended) (by simpa only [alike] using finishes) (by rwa [spares])
      (by rwa [query])
  | dropped ended unfinished aborts used =>
    exact .dropped (stage.trans ended) (by simpa only [alike] using unfinished) (by rwa [spares]) used

theorem of_running (fate : Fate events id task uses) (running : task.stage = .running) :
    (∀ reply, ¬Finishes events id reply) ∧ ¬Aborts events id := by
  cases fate with
  | running _ unfinished spared => exact ⟨unfinished, spared⟩
  | aborted stage => exact nomatch stage.symm.trans running
  | finished _ stage => exact nomatch stage.symm.trans running
  | dropped stage => exact nomatch stage.symm.trans running

theorem of_aborted (fate : Fate events id task uses) (aborted : task.stage = .aborted) :
    (∀ reply, ¬Finishes events id reply) ∧ Aborts events id := by
  cases fate with
  | running stage => exact nomatch stage.symm.trans aborted
  | aborted _ unfinished aborts => exact ⟨unfinished, aborts⟩
  | finished _ stage => exact nomatch stage.symm.trans aborted
  | dropped stage => exact nomatch stage.symm.trans aborted

theorem pends_iff (fate : Fate events id task ((run {} events).uses id))
    (here : (run {} events).tasks[id]? = some task) : Pends events id ↔ task.stage = .running := by
  have sound := sound_run events
  constructor
  · rintro ⟨-, unused, intact⟩
    cases fate with
    | running running => exact running
    | aborted stage unfinished aborts =>
      obtain ⟨before, event, after, rfl, rfl, -⟩ := aborts
      simp at intact
    | finished reply stage finishes spared used => exact nomatch unused.symm.trans used
    | dropped stage unfinished aborts used => exact nomatch unused.symm.trans used
  · intro running
    refine ⟨⟨task.query, accepts_iff.mpr ⟨task, here, rfl⟩⟩, sound.unused here (by simp [running]),
      fun torn => ?_⟩
    have kept : id ∈ (run {} events).tracked := (sound.tracked id).mpr ⟨task, here, running⟩
    simp [sound.torn (destroyed_run.mpr torn)] at kept

theorem step {used : List Use} {read : List Outcome} (fate : Fate events id task ((run {} events).uses id))
    (here : (run {} events).tasks[id]? = some task)
    (fares : Fares (run {} events) id task last after used read) :
    Fate (events ++ [last]) id after ((run {} events).uses id ++ used) := by
  have sound := sound_run events
  have pends := fate.pends_iff here
  have tracked : id ∈ (run {} events).tracked ↔ task.stage = .running := by simp [sound.tracked, here]
  cases fares with
  | stays polled torn =>
    rw [List.append_nil]
    refine fate.same rfl rfl (fun reply ⟨turn, pending⟩ => ?_) fun ⟨destroys, pending⟩ => ?_
    · rcases polled _ turn with ended | ⟨-, same⟩
      · exact nomatch ended.symm.trans (pends.mp pending)
      · exact nomatch same
    · have kept := tracked.mpr (pends.mp pending)
      rcases torn destroys with before | away
      · simp [sound.torn before] at kept
      · exact away kept
  | finishes running reply =>
    have unused : (run {} events).uses id = [] := sound.unused here (by simp [running])
    obtain ⟨unfinished, spared⟩ := fate.of_running running
    refine .finished reply rfl (fun other => ?_) ?_ (by rw [unused]; rfl)
    · simp [finishes_concat, unfinished, pends, running, eq_comm]
    · simp [aborts_concat, spared]
  | discards aborted reply? =>
    have unused : (run {} events).uses id = [] := sound.unused here (by simp [aborted])
    have idle : ¬Pends events id := fun pending => nomatch aborted.symm.trans (pends.mp pending)
    obtain ⟨unfinished, aborts⟩ := fate.of_aborted aborted
    exact .dropped rfl (by simp [finishes_concat, unfinished, idle]) (by simp [aborts_concat, aborts])
      (by rw [unused]; rfl)
  | aborts intact kept =>
    have running := tracked.mp kept
    rw [List.append_nil]
    exact .aborted (by simp [Task.abort, running]) (by simp [finishes_concat, (fate.of_running running).1])
      (by simp [aborts_concat, pends, running])
  | reads found =>
    rw [List.append_nil]
    have after := (Task.read_eq_some found).2
    exact fate.same (by rw [after]) (by rw [after]) (by simp) (by simp)
  | leaves =>
    rw [List.append_nil]
    exact fate.same rfl rfl (by simp) (by simp)

end Fate

theorem fate (here : (run {} events).tasks[id]? = some task) : Fate events id task ((run {} events).uses id) := by
  induction events using List.reverseRecOn generalizing task with
  | nil => exact nomatch here
  | append_singleton events last ih =>
    rw [run_concat] at here ⊢
    cases before : (run {} events).tasks[id]? with
    | none =>
      have away : ¬∃ query, Accepts events id query := by
        rintro ⟨query, accepts⟩
        obtain ⟨_, there, -⟩ := accepts_iff.mp accepts
        exact nomatch before.symm.trans there
      obtain ⟨-, -, begins⟩ := step_begins before last
      obtain ⟨query, rfl, -, rfl⟩ := (begins task).mp here
      refine .running rfl (fun reply finishes => ?_) fun aborts => ?_
      · rcases finishes_concat.mp finishes with earlier | ⟨turn, -⟩
        · exact away earlier.accepts
        · exact nomatch turn
      · rcases aborts_concat.mp aborts with earlier | ⟨turn, -⟩
        · exact away earlier.accepts
        · exact nomatch turn
    | some earlier =>
      obtain ⟨after, used, read, fares, now, uses, -⟩ := step_fares before last
      obtain rfl := Option.some.inj (here.symm.trans now)
      rw [uses]
      exact (ih before).step before fares

theorem waits (here : (run {} events).tasks[id]? = some task) (stayed : .leave id ∉ events)
    (unread : (run {} events).readings id = []) : task.halves.waiter = true := by
  induction events using List.reverseRecOn generalizing task with
  | nil => exact nomatch here
  | append_singleton events last ih =>
    rw [run_concat] at here unread
    simp only [List.mem_append, List.mem_singleton, not_or] at stayed
    cases before : (run {} events).tasks[id]? with
    | none =>
      obtain ⟨-, -, begins⟩ := step_begins before last
      obtain ⟨query, -, -, rfl⟩ := (begins task).mp here
      rfl
    | some earlier =>
      obtain ⟨after, used, read, fares, now, -, readings⟩ := step_fares before last
      obtain rfl := Option.some.inj (here.symm.trans now)
      obtain ⟨quiet, rfl⟩ := List.append_eq_nil_iff.mp (readings.symm.trans unread)
      have waited := ih before stayed.1 quiet
      cases fares with
      | stays => exact waited
      | finishes running reply =>
        unfold Task.finish Rendezvous.deliver
        dsimp only
        split <;> exact waited
      | discards => exact waited
      | aborts => exact waited
      | leaves => exact absurd rfl stayed.2

theorem finishes_uses (accepts : Accepts events id query) (finishes : Finishes events id reply) :
    (run {} events).uses id = [.delivered ⟨query, reply query⟩] ∧ ¬Aborts events id := by
  obtain ⟨task, here, rfl⟩ := accepts_iff.mp accepts
  cases fate here with
  | running _ unfinished => exact absurd finishes (unfinished reply)
  | aborted _ unfinished => exact absurd finishes (unfinished reply)
  | finished other _ only spared used =>
    obtain rfl := (only reply).mp finishes
    exact ⟨used, spared⟩
  | dropped _ unfinished => exact absurd finishes (unfinished reply)

theorem aborts_uses (aborts : Aborts events id) :
    ((run {} events).uses id = [] ∨ (run {} events).uses id = [.dropped]) ∧
      ∀ reply?, ((run {} events).poll id reply?).uses id = [.dropped] := by
  obtain ⟨query, accepts⟩ := aborts.accepts
  obtain ⟨task, here, -⟩ := accepts_iff.mp accepts
  cases fate here with
  | running _ _ spared => exact absurd aborts spared
  | aborted stage =>
    have unused := (sound_run events).unused here (by simp [stage])
    refine ⟨.inl unused, fun reply? => ?_⟩
    obtain ⟨after, used, fares, -, uses, -⟩ := poll_fares here reply?
    rw [uses, unused]
    cases fares with
    | stays polled => simpa [stage] using polled reply? rfl
    | finishes running => exact nomatch stage.symm.trans running
    | discards => rfl
  | finished _ _ _ spared => exact absurd aborts spared
  | dropped stage _ _ dropped =>
    refine ⟨.inr dropped, fun reply? => ?_⟩
    obtain ⟨after, used, fares, -, uses, -⟩ := poll_fares here reply?
    rw [uses, dropped]
    cases fares with
    | stays => rfl
    | finishes running => exact nomatch stage.symm.trans running
    | discards aborted => exact nomatch stage.symm.trans aborted

theorem mem_tracked_iff : id ∈ (run {} events).tracked ↔
    (∃ query, Accepts events id query) ∧ (∀ reply, ¬Finishes events id reply) ∧ ¬Aborts events id := by
  rw [(sound_run events).tracked]
  constructor
  · rintro ⟨task, here, running⟩
    exact ⟨⟨task.query, accepts_iff.mpr ⟨task, here, rfl⟩⟩, (fate here).of_running running⟩
  · rintro ⟨⟨query, accepts⟩, unfinished, spared⟩
    obtain ⟨task, here, -⟩ := accepts_iff.mp accepts
    cases fate here with
    | running stage => exact ⟨task, here, stage⟩
    | aborted _ _ aborts => exact absurd aborts spared
    | finished reply _ only => exact absurd ((only reply).mpr rfl) (unfinished reply)
    | dropped _ _ aborts => exact absurd aborts spared

theorem read_of_waiting (accepts : Accepts events id query) (stayed : .leave id ∉ events)
    (unread : (run {} events).readings id = []) :
    ((run {} events).read id).1 = ((run {} events).uses id).head?.map (Use.outcome query) := by
  obtain ⟨task, here, rfl⟩ := accepts_iff.mp accepts
  rw [← ((sound_run events).stands id task here).read_eq (waits here stayed unread), read, here, Option.map_some]
  rcases task.read with ⟨_ | outcome, after⟩ <;> rfl

theorem ask_torn (torn : w.destroyed = true) (query : EngineQuery) : ∃ fault, w.ask query = (.error fault, w) := by
  rcases w.ask_cases query with ⟨fault, refused, -⟩ | ⟨-, intact, -⟩
  · exact ⟨fault, refused⟩
  · exact nomatch torn.symm.trans intact

/-- A channel keeps the numbers of the accepted queries that have neither finished nor were aborted, and nothing of a
query that it refuses. The completion of an accepted query is used up once: with the reply to its own query if it
finishes, and without one, in the next turn of its task, if the channel is torn down first. That is what its waiter
reads, and it reads it once. Nothing is kept or accepted after the channel was torn down, and to do that again changes
nothing. -/
theorem completions_used_once (events : List Event) :
    let w := run {} events
    (w.tracked.Nodup ∧ ∀ id, id ∈ w.tracked ↔
      (∃ query, Accepts events id query) ∧ (∀ reply, ¬Finishes events id reply) ∧ ¬Aborts events id) ∧
    (∀ query, (∀ id, (w.ask query).1 = .ok id → ∀ other, ¬Accepts events id other) ∧
      ∀ fault, (w.ask query).1 = .error fault → (w.ask query).2 = w) ∧
    (∀ id query, Accepts events id query →
      (∀ reply, Finishes events id reply → w.uses id = [.delivered ⟨query, reply query⟩] ∧ ¬Aborts events id) ∧
      (Aborts events id → (w.uses id = [] ∨ w.uses id = [.dropped]) ∧
        ∀ reply?, (w.poll id reply?).uses id = [.dropped]) ∧
      ((∀ reply, ¬Finishes events id reply) → ¬Aborts events id → w.uses id = []) ∧
      (∀ outcome ∈ w.readings id, w.readings id = [outcome] ∧
        ∃ use, w.uses id = [use] ∧ outcome = use.outcome query) ∧
      (.leave id ∉ events → w.readings id = [] → (w.read id).1 = (w.uses id).head?.map (Use.outcome query))) ∧
    (.destroy ∈ events → w.tracked = [] ∧ (∀ query, ∃ fault, w.ask query = (.error fault, w)) ∧ w.destroy = w) := by
  intro w
  have sound := sound_run events
  refine ⟨⟨sound.distinct, fun id => mem_tracked_iff⟩, fun query => ⟨fun id accepted other accepts => ?_,
    fun fault refused => ?_⟩, fun id query accepts => ⟨fun reply finishes => finishes_uses accepts finishes,
    aborts_uses, fun unfinished spared => ?_, fun outcome member => ?_, read_of_waiting accepts⟩, fun destroys => ?_⟩
  · obtain ⟨task, here, -⟩ := accepts_iff.mp accepts
    exact nomatch here.symm.trans (ask_fresh accepted)
  · rcases w.ask_cases query with ⟨_, same, -⟩ | ⟨-, -, accepted⟩
    · rw [same]
    · exact nomatch (congrArg Prod.fst accepted).symm.trans refused
  · obtain ⟨task, here, running⟩ := (sound.tracked id).mp (mem_tracked_iff.mpr ⟨⟨query, accepts⟩, unfinished, spared⟩)
    exact sound.unused here (by simp [running])
  · obtain ⟨task, here, rfl⟩ := accepts_iff.mp accepts
    obtain ⟨sole, -, use⟩ := (sound.stands id task here).read outcome member
    exact ⟨sole, use⟩
  · have torn : w.destroyed = true := destroyed_run.mpr destroys
    exact ⟨sound.torn torn, ask_torn torn, by rw [destroy, if_pos torn]⟩

def localService (port : UInt16) : EngineQuery :=
  .nameInfo (.v4 .loopback port) .nameNumericHost

def tornDown : List Event :=
  [.ask (localService 80), .ask (localService 443), .ask (localService 53), .poll 0 (some answer), .destroy,
    .poll 1 (some answer), .read 0, .read 1]

theorem completions_used_once_tornDown :
    let w := run {} tornDown
    w.uses 0 = [.delivered ⟨localService 80, answer (localService 80)⟩] ∧
      w.readings 1 = [⟨localService 443, .error .destruction⟩] ∧
      (w.poll 2 (some answer)).uses 2 = [.dropped] ∧ w.tracked = [] := by
  obtain ⟨-, -, queries, torn⟩ := completions_used_once tornDown
  have first : Accepts tornDown 0 (localService 80) := ⟨[], _, _, rfl, rfl, rfl⟩
  have second : Accepts tornDown 1 (localService 443) := ⟨[_], _, _, rfl, rfl, rfl⟩
  have third : Accepts tornDown 2 (localService 53) := ⟨[_, _], _, _, rfl, rfl, rfl⟩
  have finishes : Finishes tornDown 0 answer :=
    ⟨[_, _, _], _, _, rfl, rfl, ⟨_, [], _, _, rfl, rfl, rfl⟩, rfl, by simp⟩
  have aborts : Aborts tornDown 2 :=
    ⟨[_, _, _, _], _, _, rfl, rfl, ⟨_, [_, _], _, _, rfl, rfl, rfl⟩, rfl, by simp⟩
  exact ⟨((queries 0 _ first).1 answer finishes).1,
    ((queries 1 _ second).2.2.2.1 _ (List.mem_singleton.mpr rfl)).1,
    ((queries 2 _ third).2.1 aborts).2 (some answer), (torn (by simp [tornDown])).1⟩

end HostLookup.Engine.Workload
