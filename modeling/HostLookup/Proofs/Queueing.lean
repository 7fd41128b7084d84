import HostLookup.Hub.Step
import Mathlib.Data.List.Infix

/-! The queue of a hub. What is queued runs once, in the order in which it was queued and never while it is
being queued, as long as the hub works; a flush waits for all that was queued before it, and for nothing once
the hub has ended its work. -/
namespace HostLookup.Hub

variable {κ : Type}

def turns (events : List (Event κ)) : Nat :=
  events.countP fun
    | .turn _ => true
    | _ => false

@[simp] theorem turns_cons_deed (deed : Deed κ) (events : List (Event κ)) :
    turns (.deed deed :: events) = turns events := by
  simp [turns]

@[simp] theorem turns_cons_turn (deeds : List (Deed κ)) (events : List (Event κ)) :
    turns (.turn deeds :: events) = turns events + 1 := by
  simp [turns]

@[simp] theorem turns_cons_shutdown (events : List (Event κ)) :
    turns (.shutdown :: events) = turns events := by
  simp [turns]

theorem queue_reinit (hub : Hub κ) :
    hub.reinit.2.queue = hub.queue ++ if hub.alive then hub.notices else [] := by
  unfold reinit notices
  by_cases same : hub.seenPid = hub.livePid
  · simp [same]
  · simp only [same, if_false]
    exact queue_pushAll _ _

theorem next?_eq_some {hub left : Hub κ} {item : κ} (h : hub.next? = some (item, left)) :
    hub.queue = item :: left.queue ∧ left = { hub with queue := left.queue } := by
  unfold next? at h
  cases queue : hub.queue with
  | nil => simp [queue] at h
  | cons first rest =>
    simp only [queue, Option.some.injEq, Prod.mk.injEq] at h
    obtain ⟨rfl, rfl⟩ := h
    exact ⟨rfl, rfl⟩

namespace State

variable {s t u : State κ}

theorem queued_of_journal {notes : List (Note κ)} (journal : t.journal = s.journal ++ notes) :
    t.queued = s.queued ++ notes.filterMap Note.queued? := by
  rw [queued, journal, List.filterMap_append, ← queued]

theorem ran_of_journal {notes : List (Note κ)} (journal : t.journal = s.journal ++ notes) :
    t.ran = s.ran ++ notes.filterMap Note.ran? := by
  rw [ran, journal, List.filterMap_append, ← ran]

theorem queued_arrivals (s : State κ) (items : List (Queued κ)) :
    (s.arrivals items).filterMap Note.queued? = if s.hub.alive then items else [] := by
  unfold arrivals
  split
  · simp [Note.queued?, Function.comp_def]
  · rfl

theorem arrivals_silent {α : Type} {reading : Note κ → Option α} (silent : ∀ item, reading (.queued item) = none)
    (s : State κ) (items : List (Queued κ)) : (s.arrivals items).filterMap reading = [] := by
  unfold arrivals
  split <;> simp [silent]

@[simp] theorem queued_took (s : State κ) (item : Queued κ) (hub : Hub (Queued κ)) :
    (s.took item hub).queued = s.queued :=
  (queued_of_journal rfl).trans (List.append_nil _)

@[simp] theorem ran_took (s : State κ) (item : Queued κ) (hub : Hub (Queued κ)) :
    (s.took item hub).ran = s.ran ++ [item] := by
  have added : (s.took item hub).ran = s.ran ++ [.ran item].filterMap Note.ran? := ran_of_journal rfl
  exact added

/-- From `s` to `t` nothing has run, and just `new` has come to the queue, at its end. -/
structure Adds (s t : State κ) (new : List (Queued κ)) : Prop where
  queue : t.hub.queue = s.hub.queue ++ new
  queued : t.queued = s.queued ++ new
  ran : t.ran = s.ran

theorem Adds.refl (s : State κ) : Adds s s [] :=
  ⟨(List.append_nil _).symm, (List.append_nil _).symm, rfl⟩

theorem Adds.trans {new more : List (Queued κ)} (first : Adds s t new) (second : Adds t u more) :
    Adds s u (new ++ more) where
  queue := by rw [second.queue, first.queue, List.append_assoc]
  queued := by rw [second.queued, first.queued, List.append_assoc]
  ran := second.ran.trans first.ran

/-- What is let into the queue of some items: nothing, once nobody holds the hub or its work has ended. -/
def admitted (s : State κ) (items : List (Queued κ)) : List (Queued κ) :=
  if s.held && s.hub.alive then items else []

def sends (s : State κ) : Deed κ → List (Queued κ)
  | .push callback => s.admitted [.callback callback]
  | .flush => s.admitted [.marker s.flushes]
  | .reinit => s.admitted s.hub.notices
  | _ => []

def sendsAll (s : State κ) : List (Deed κ) → List (Queued κ)
  | [] => []
  | deed :: rest => s.sends deed ++ (s.perform deed).sendsAll rest

/-- What the callback that a turn takes sends to the queue; a marker sends nothing. -/
def turnSends (s : State κ) (deeds : List (Deed κ)) : List (Queued κ) :=
  match s.hub.queue with
  | .callback callback :: queue => (s.took (.callback callback) { s.hub with queue }).sendsAll deeds
  | _ => []

def stepSends (s : State κ) : Event κ → List (Queued κ)
  | .deed deed => s.sends deed
  | .turn deeds => s.turnSends deeds
  | .shutdown => []

def runSends (s : State κ) : List (Event κ) → List (Queued κ)
  | [] => []
  | event :: rest => s.stepSends event ++ (s.step event).runSends rest

@[simp] theorem admitted_of_held (held : s.held = true) (items : List (Queued κ)) :
    s.admitted items = if s.hub.alive then items else [] := by
  simp [admitted, held]

def Shut (s : State κ) : Prop :=
  s.held = false ∨ s.hub.alive = false

theorem Shut.admitted (shut : s.Shut) (items : List (Queued κ)) : s.admitted items = [] := by
  rcases shut with released | dead <;> simp [State.admitted, *]

theorem Shut.sends (shut : s.Shut) (deed : Deed κ) : s.sends deed = [] := by
  cases deed <;> first | exact shut.admitted _ | rfl

/-- A watcher holds a callback, never the marker of a flush. -/
def Proper (s : State κ) : Prop :=
  ∀ entry ∈ s.hub.watchers, ∃ callback, entry.2 = .callback callback

theorem Proper.notices (proper : s.Proper) {item : Queued κ} (member : item ∈ s.hub.notices) :
    ∃ callback, item = .callback callback := by
  unfold Hub.notices at member
  split at member
  · contradiction
  · obtain ⟨entry, found, rfl⟩ := List.mem_map.mp member
    exact proper entry found

theorem Proper.stop (proper : s.Proper) (watcher : Nat) :
    ∀ entry ∈ (s.hub.stop watcher).watchers, ∃ callback, entry.2 = .callback callback :=
  fun entry member => proper entry (List.mem_of_mem_filter member)

theorem Proper.start (proper : s.Proper) (watcher : Nat) (callback : κ) :
    ∀ entry ∈ (s.hub.start watcher (.callback callback)).watchers,
      ∃ callback, entry.2 = .callback callback := by
  intro entry member
  rcases List.mem_append.mp member with earlier | last
  · exact proper.stop watcher entry earlier
  · exact ⟨callback, by rw [List.mem_singleton.mp last]⟩

structure Grows (s t : State κ) (new : List (Queued κ)) : Prop extends Adds s t new where
  proper : t.Proper
  held : s.held = false → t.held = false
  alive : t.hub.alive = s.hub.alive
  flushes : s.flushes ≤ t.flushes
  fresh : ∀ flush, .marker flush ∈ new → s.flushes ≤ flush
  ended : s.hub.alive = false → new = []

namespace Grows

theorem refl (proper : s.Proper) : Grows s s [] :=
  ⟨.refl s, proper, id, rfl, le_rfl, by simp, fun _ => rfl⟩

theorem trans {new more : List (Queued κ)} (first : Grows s t new) (second : Grows t u more) :
    Grows s u (new ++ more) where
  toAdds := first.toAdds.trans second.toAdds
  proper := second.proper
  held := second.held ∘ first.held
  alive := second.alive.trans first.alive
  flushes := first.flushes.trans second.flushes
  fresh := by
    intro flush member
    rcases List.mem_append.mp member with earlier | latest
    · exact first.fresh flush earlier
    · exact first.flushes.trans (second.fresh flush latest)
  ended := by
    intro dead
    rw [first.ended dead, second.ended (first.alive.trans dead), List.append_nil]

theorem aside (proper : t.Proper) (held : s.held = false → t.held = false) (alive : t.hub.alive = s.hub.alive)
    (flushes : t.flushes = s.flushes) (queue : t.hub.queue = s.hub.queue) (queued : t.queued = s.queued)
    (ran : t.ran = s.ran) : Grows s t [] :=
  ⟨⟨by simpa using queue, by simpa using queued, ran⟩, proper, held, alive, flushes.ge, by simp, fun _ => rfl⟩

theorem push (proper : s.Proper) {item : Queued κ} {flushes : Nat} (more : s.flushes ≤ flushes)
    (fresh : ∀ flush, item = .marker flush → s.flushes ≤ flush) :
    Grows s { s.push item with flushes } (if s.hub.alive then [item] else []) where
  queue := queue_pushAll s.hub [item]
  queued := (queued_of_journal rfl).trans (by rw [queued_arrivals])
  ran := (ran_of_journal rfl).trans (by rw [arrivals_silent fun _ => rfl, List.append_nil])
  proper := by
    intro entry member
    exact proper entry (by simpa [State.push] using member)
  held := id
  alive := alive_push _ _
  flushes := more
  fresh := by
    intro flush member
    split at member
    · exact fresh flush (List.mem_singleton.mp member).symm
    · contradiction
  ended := fun dead => by simp [dead]

theorem reinit (proper : s.Proper) : Grows s s.reinit (if s.hub.alive then s.hub.notices else []) where
  queue := queue_reinit s.hub
  queued := (queued_of_journal rfl).trans (by rw [List.filterMap_cons_none rfl, queued_arrivals])
  ran := (ran_of_journal rfl).trans
    (by rw [List.filterMap_cons_none rfl, arrivals_silent fun _ => rfl, List.append_nil])
  proper := by
    intro entry member
    exact proper entry (by simpa [State.reinit] using member)
  held := id
  alive := alive_reinit _
  flushes := le_rfl
  fresh := by
    intro flush member
    split at member
    · obtain ⟨callback, same⟩ := proper.notices member
      contradiction
    · contradiction
  ended := fun dead => by simp [dead]

theorem stop (proper : s.Proper) (watcher : Nat) (watchers : List Nat) :
    Grows s { s.stop watcher with watchers } [] :=
  aside (proper.stop watcher) id rfl rfl rfl
    ((queued_of_journal rfl).trans (List.append_nil _)) ((ran_of_journal rfl).trans (List.append_nil _))

theorem perform (proper : s.Proper) (deed : Deed κ) : Grows s (s.perform deed) (s.sends deed) := by
  have unheld (items : List (Queued κ)) (released : ¬s.held = true) : Grows s s (s.admitted items) := by
    rw [Shut.admitted (.inl (by simpa using released))]
    exact refl proper
  cases deed with
  | setPid pid => exact aside proper id rfl rfl rfl rfl rfl
  | push callback =>
    simp only [State.perform, State.sends]
    split
    · next held =>
      rw [admitted_of_held held]
      exact push proper le_rfl (by simp)
    · next released => exact unheld _ released
  | flush =>
    simp only [State.perform, State.sends]
    split
    · next held =>
      rw [admitted_of_held held]
      exact push proper (Nat.le_succ _) (by simp)
    · next released => exact unheld _ released
  | reinit =>
    simp only [State.perform, State.sends]
    split
    · next held =>
      rw [admitted_of_held held]
      exact reinit proper
    · next released => exact unheld _ released
  | watch =>
    simp only [State.perform]
    split
    · exact aside proper id rfl rfl rfl rfl rfl
    · exact refl proper
  | start watcher callback =>
    simp only [State.perform]
    split
    · exact aside (proper.start watcher callback) id rfl rfl rfl
        ((queued_of_journal rfl).trans (List.append_nil _)) ((ran_of_journal rfl).trans (List.append_nil _))
    · exact refl proper
  | stop watcher =>
    simp only [State.perform]
    split
    · exact stop proper watcher _
    · exact refl proper
  | drop watcher =>
    simp only [State.perform]
    split
    · exact stop proper watcher _
    · exact refl proper
  | release => exact aside proper (fun _ => rfl) rfl rfl rfl rfl rfl

theorem performAll (proper : s.Proper) (deeds : List (Deed κ)) :
    Grows s (s.performAll deeds) (s.sendsAll deeds) := by
  induction deeds generalizing s with
  | nil => exact refl proper
  | cons deed rest ih =>
    have first := perform proper deed
    exact first.trans (ih first.proper)

end Grows

theorem turn_cases (proper : s.Proper) (deeds : List (Deed κ)) :
    s.hub.queue = [] ∧ s.turn deeds = s ∧ s.turnSends deeds = [] ∨
      ∃ item rest, s.hub.queue = item :: rest ∧
        Grows (s.took item { s.hub with queue := rest }) (s.turn deeds) (s.turnSends deeds) := by
  cases queue : s.hub.queue with
  | nil => exact .inl ⟨rfl, by simp [turn, next?, queue], by simp [turnSends, queue]⟩
  | cons item rest =>
    refine .inr ⟨item, rest, rfl, ?_⟩
    have kept : (s.took item { s.hub with queue := rest }).Proper := proper
    simp only [turn, turnSends, next?, queue]
    cases item with
    | callback callback => exact .performAll kept deeds
    | marker flush => exact .refl kept

/-- What the queue of a hub keeps to: as long as the hub works, what was queued has run or waits in the queue,
in the order of its queueing. -/
structure Ordered (s : State κ) : Prop where
  proper : s.Proper
  waiting : s.hub.alive = true → s.queued = s.ran ++ s.hub.queue
  ran : s.ran <+: s.queued
  ended : s.hub.alive = false → s.hub.queue = []

theorem Ordered.grows {new : List (Queued κ)} (ordered : s.Ordered) (grows : Grows s t new) : t.Ordered where
  proper := grows.proper
  waiting := by
    intro alive
    have before := ordered.waiting (grows.alive ▸ alive)
    rw [grows.queued, before, grows.queue, grows.ran, List.append_assoc]
  ran := by
    rw [grows.ran, grows.queued]
    exact ordered.ran.trans (List.prefix_append _ _)
  ended := by
    intro dead
    have before : s.hub.alive = false := grows.alive ▸ dead
    rw [grows.queue, grows.ended before, ordered.ended before, List.append_nil]

theorem Ordered.alive_of_queue (ordered : s.Ordered) {item : Queued κ} {rest : List (Queued κ)}
    (queue : s.hub.queue = item :: rest) : s.hub.alive = true := by
  by_contra dead
  have empty := ordered.ended (Bool.not_eq_true _ ▸ dead)
  rw [queue] at empty
  contradiction

theorem Ordered.took (ordered : s.Ordered) {item : Queued κ} {rest : List (Queued κ)}
    (queue : s.hub.queue = item :: rest) : (s.took item { s.hub with queue := rest }).Ordered := by
  have alive := ordered.alive_of_queue queue
  have all : s.queued = s.ran ++ [item] ++ rest := by
    rw [ordered.waiting alive, queue, List.append_assoc]
    rfl
  refine ⟨ordered.proper, ?_, ?_, ?_⟩
  · intro _
    simpa using all
  · rw [ran_took, queued_took, all]
    exact List.prefix_append _ _
  · intro dead
    exact absurd alive (by simpa using dead)

/-- From `s` to `t` the journal has grown, and a hub that had ended its work has run nothing more. -/
structure Onward (s t : State κ) : Prop where
  flushes : s.flushes ≤ t.flushes
  queued : ∃ new, t.queued = s.queued ++ new ∧ ∀ flush, .marker flush ∈ new → s.flushes ≤ flush
  ran : s.ran <+: t.ran
  ended : s.hub.alive = false → t.hub.alive = false ∧ t.ran = s.ran

namespace Onward

theorem refl (s : State κ) : Onward s s :=
  ⟨le_rfl, ⟨[], by simp⟩, List.prefix_rfl, fun dead => ⟨dead, rfl⟩⟩

theorem trans (first : Onward s t) (second : Onward t u) : Onward s u where
  flushes := first.flushes.trans second.flushes
  queued := by
    obtain ⟨new, queued, fresh⟩ := first.queued
    obtain ⟨more, also, fresher⟩ := second.queued
    refine ⟨new ++ more, by rw [also, queued, List.append_assoc], ?_⟩
    intro flush member
    rcases List.mem_append.mp member with earlier | latest
    · exact fresh flush earlier
    · exact first.flushes.trans (fresher flush latest)
  ran := first.ran.trans second.ran
  ended := by
    intro dead
    obtain ⟨still, same⟩ := first.ended dead
    obtain ⟨after, again⟩ := second.ended still
    exact ⟨after, again.trans same⟩

theorem of_grows {new : List (Queued κ)} (grows : Grows s t new) : Onward s t where
  flushes := grows.flushes
  queued := ⟨new, grows.queued, grows.fresh⟩
  ran := by rw [grows.ran]
  ended := fun dead => ⟨grows.alive.trans dead, grows.ran⟩

theorem took (alive : s.hub.alive = true) (item : Queued κ) (rest : List (Queued κ)) :
    Onward s (s.took item { s.hub with queue := rest }) where
  flushes := le_rfl
  queued := ⟨[], by simp⟩
  ran := by simp
  ended := by simp [alive]

theorem alive (onward : Onward s t) (alive : t.hub.alive = true) : s.hub.alive = true := by
  by_contra dead
  have still := onward.ended (Bool.not_eq_true _ ▸ dead)
  exact Bool.false_ne_true (still.1.symm.trans alive)

theorem queued_prefix (onward : Onward s t) : s.queued <+: t.queued := by
  obtain ⟨new, queued, -⟩ := onward.queued
  exact ⟨new, queued.symm⟩

end Onward

structure Stepped (s : State κ) (event : Event κ) (t : State κ) : Prop where
  ordered : t.Ordered
  onward : Onward s t
  shut : s.Shut → t.Shut
  queued : t.queued = s.queued ++ s.stepSends event
  ran : t.ran = s.ran ∨
    ∃ deeds item rest, event = .turn deeds ∧ s.hub.queue = item :: rest ∧ t.ran = s.ran ++ [item]

theorem Grows.shut {new : List (Queued κ)} (grows : Grows s t new) (shut : s.Shut) : t.Shut :=
  shut.imp grows.held grows.alive.trans

theorem Ordered.step (ordered : s.Ordered) (event : Event κ) : Stepped s event (s.step event) := by
  cases event with
  | deed deed =>
    have grows := Grows.perform ordered.proper deed
    exact ⟨ordered.grows grows, .of_grows grows, grows.shut, grows.queued, .inl grows.ran⟩
  | turn deeds =>
    rcases turn_cases ordered.proper deeds with ⟨-, same, nothing⟩ | ⟨item, rest, queue, grows⟩
    · simp only [State.step, same]
      exact ⟨ordered, .refl s, id, by rw [stepSends, nothing, List.append_nil], .inl rfl⟩
    · have taken := Onward.took (ordered.alive_of_queue queue) item rest
      have ran := grows.ran
      rw [ran_took] at ran
      have queued := grows.queued
      rw [queued_took] at queued
      exact ⟨(ordered.took queue).grows grows, taken.trans (.of_grows grows), grows.shut, queued,
        .inr ⟨deeds, item, rest, rfl, queue, ran⟩⟩
  | shutdown =>
    exact ⟨⟨ordered.proper, by simp [State.step, Hub.shutdown], ordered.ran, fun _ => rfl⟩,
      ⟨le_rfl, ⟨[], by simp [State.step, State.queued]⟩, List.prefix_rfl, fun _ => ⟨rfl, rfl⟩⟩,
      fun _ => .inr rfl, (List.append_nil _).symm, .inl rfl⟩

theorem ordered_create (pid : Nat) : (create pid : State κ).Ordered :=
  ⟨by simp [Proper, create, Hub.create], fun _ => rfl, List.prefix_rfl, fun _ => rfl⟩

theorem Ordered.run (ordered : s.Ordered) (events : List (Event κ)) :
    (s.run events).Ordered ∧ Onward s (s.run events) := by
  induction events generalizing s with
  | nil => exact ⟨ordered, .refl s⟩
  | cons event rest ih =>
    have stepped := ordered.step event
    obtain ⟨after, onward⟩ := ih stepped.ordered
    exact ⟨after, stepped.onward.trans onward⟩

theorem Ordered.queued_run (ordered : s.Ordered) (events : List (Event κ)) :
    (s.run events).queued = s.queued ++ s.runSends events := by
  induction events generalizing s with
  | nil => exact (List.append_nil _).symm
  | cons event rest ih =>
    have stepped := ordered.step event
    exact (ih stepped.ordered).trans (by rw [stepped.queued, runSends, List.append_assoc])

theorem Shut.turnSends (shut : s.Shut) (ordered : s.Ordered) (deeds : List (Deed κ)) :
    s.turnSends deeds = [] := by
  have all (t : State κ) (proper : t.Proper) (ended : t.Shut) : t.sendsAll deeds = [] := by
    induction deeds generalizing t with
    | nil => rfl
    | cons deed rest ih =>
      have grows := Grows.perform proper deed
      rw [sendsAll, ended.sends, ih _ grows.proper (grows.shut ended), List.append_nil]
  unfold State.turnSends
  split
  · exact all _ ordered.proper shut
  · rfl

theorem Ordered.queued_run_of_shut (ordered : s.Ordered) (shut : s.Shut) (events : List (Event κ)) :
    (s.run events).queued = s.queued := by
  induction events generalizing s with
  | nil => rfl
  | cons event rest ih =>
    have stepped := ordered.step event
    refine (ih stepped.ordered (stepped.shut shut)).trans ?_
    have nothing : s.stepSends event = [] := by
      cases event with
      | deed deed => exact shut.sends deed
      | turn deeds => exact shut.turnSends ordered deeds
      | shutdown => rfl
    rw [stepped.queued, nothing, List.append_nil]

theorem Ordered.gets_on (ordered : s.Ordered) (later : List (Event κ))
    (alive : (s.run later).hub.alive = true) :
    s.ran.length + turns later ≤ (s.run later).ran.length ∨ s.queued.length ≤ (s.run later).ran.length := by
  induction later generalizing s with
  | nil => exact .inl le_rfl
  | cons event rest ih =>
    have stepped := ordered.step event
    obtain ⟨-, onward⟩ := stepped.ordered.run rest
    have ran := onward.ran.length_le
    have start := stepped.onward.ran.length_le
    have all := ordered.waiting ((stepped.onward.trans onward).alive alive)
    rcases ih stepped.ordered alive with going | done
    · cases event with
      | deed deed =>
        left
        simp only [turns_cons_deed]
        exact (Nat.add_le_add_right start _).trans going
      | shutdown =>
        left
        simp only [turns_cons_shutdown]
        exact (Nat.add_le_add_right start _).trans going
      | turn deeds =>
        rcases turn_cases ordered.proper deeds with ⟨empty, -, -⟩ | ⟨item, left, queue, grows⟩
        · right
          rw [all, empty, List.append_nil]
          exact start.trans ran
        · left
          have one : (s.step (.turn deeds)).ran = s.ran ++ [item] := by
            have same := grows.ran
            rwa [ran_took] at same
          rw [one] at going
          simp only [List.length_append, List.length_singleton] at going
          rw [turns_cons_turn, ← Nat.add_assoc, Nat.add_right_comm]
          exact going
    · right
      exact stepped.onward.queued_prefix.length_le.trans done

theorem Ordered.prefix_ran (ordered : s.Ordered) (before : List (Queued κ)) (was : before <+: s.queued)
    (long : before.length ≤ s.ran.length) : before <+: s.ran :=
  List.prefix_of_prefix_length_le was ordered.ran long

theorem Ordered.all_run (ordered : s.Ordered) (later : List (Event κ))
    (alive : (s.run later).hub.alive = true) (enough : s.hub.queue.length ≤ turns later) :
    s.queued <+: (s.run later).ran := by
  obtain ⟨after, onward⟩ := ordered.run later
  have all := congrArg List.length (ordered.waiting (onward.alive alive))
  rw [List.length_append] at all
  refine after.prefix_ran _ onward.queued_prefix ?_
  rcases ordered.gets_on later alive with going | done <;> omega

theorem Ordered.run_before (ordered : s.Ordered) (alive : s.hub.alive = true) {flush : Nat}
    {before after : List (Queued κ)} (queued : s.queued = before ++ .marker flush :: after)
    (gone : .marker flush ∉ s.hub.queue) : before <+: s.ran := by
  refine ordered.prefix_ran before ⟨_, queued.symm⟩ ?_
  by_contra short
  -- a marker that is not among what has run is in the queue
  have rest : s.hub.queue = (before ++ .marker flush :: after).drop s.ran.length := by
    rw [← queued, ordered.waiting alive, List.drop_left]
  refine gone ?_
  rw [rest, List.drop_append_of_le_length (by omega)]
  simp

theorem Ordered.returns (ordered : s.Ordered) (held : s.held = true) (later : List (Event κ))
    (enough : s.hub.queue.length < turns later ∨ ((s.perform .flush).run later).hub.alive = false) :
    ((s.perform .flush).run later).Returned s.flushes := by
  have grows := Grows.perform ordered.proper (.flush : Deed κ)
  have flushes : (s.perform .flush).flushes = s.flushes + 1 := by simp [perform, held]
  have length : (s.perform .flush).hub.queue.length ≤ s.hub.queue.length + 1 := by
    rw [grows.queue, List.length_append, sends, admitted_of_held held]
    split <;> simp
  have began := ordered.grows grows
  obtain ⟨after, onward⟩ := began.run later
  refine ⟨by have := onward.flushes; omega, ?_⟩
  by_cases dead : ((s.perform .flush).run later).hub.alive = false
  · rw [after.ended dead]
    exact List.not_mem_nil
  -- what is in the queue was queued later, and its markers have later numbers
  have alive : ((s.perform .flush).run later).hub.alive = true := by simpa using dead
  have done := began.all_run later alive (by rcases enough with many | none <;> [omega; contradiction])
  obtain ⟨new, queued, fresh⟩ := onward.queued
  intro waits
  have suffix : ((s.perform .flush).run later).hub.queue <:+ new := by
    have all := after.waiting alive
    rw [queued] at all
    obtain ⟨more, ran⟩ := done
    rw [← ran, List.append_assoc, List.append_cancel_left_eq] at all
    exact ⟨more, all.symm⟩
  have bound := fresh _ (suffix.mem waits)
  omega

/-- While the hub works, what was queued has run or waits, in the order of its queueing, and a step runs
nothing or what was first in the queue before it; every turn gets on with the queue. What is queued is what
the steps send: a callback, the marker of a flush, the notices of a look, and in a turn all that its callback
does, one after the other; once nobody holds the hub or its work has ended, nothing is. A flush that has
returned waited for all that was queued before it; it returns after as many turns as things waited, and also
when the hub has ended its work, after which nothing runs. -/
theorem callbacks_run_once_in_order (pid : Nat) (events : List (Event κ)) :
    let s := (create pid).run events
    (s.hub.alive = true → s.queued = s.ran ++ s.hub.queue) ∧
      s.ran <+: s.queued ∧
      s.queued = (create pid).runSends events ∧
      (s.held = true → s.hub.alive = true →
        (∀ callback, Adds s (s.perform (.push callback)) [.callback callback]) ∧
          Adds s (s.perform .flush) [.marker s.flushes] ∧
          Adds s (s.perform .reinit) s.hub.notices) ∧
      (∀ deed, Adds s (s.perform deed) (s.sends deed)) ∧
      (∀ deeds item rest, s.hub.queue = item :: rest →
        (s.turn deeds).ran = s.ran ++ [item] ∧
          (s.turn deeds).queued = s.queued ++ s.turnSends deeds ∧
          (s.turn deeds).hub.queue = rest ++ s.turnSends deeds) ∧
      (∀ deeds, s.hub.queue = [] → s.turn deeds = s) ∧
      ((s.perform .release).held = false ∧ (s.step .shutdown).hub.alive = false) ∧
      (s.held = false ∨ s.hub.alive = false → ∀ later, (s.run later).queued = s.queued) ∧
      (∀ event, s.queued <+: (s.step event).queued ∧
        ((s.step event).ran = s.ran ∨
          ∃ deeds item rest, event = .turn deeds ∧ s.hub.queue = item :: rest ∧
            (s.step event).ran = s.ran ++ [item])) ∧
      (∀ later, (s.run later).hub.alive = true → s.hub.queue.length ≤ turns later →
        s.queued <+: (s.run later).ran) ∧
      (s.hub.alive = true → ∀ flush before after, s.queued = before ++ .marker flush :: after →
        s.Returned flush → before <+: s.ran) ∧
      (s.held = true → ∀ later,
        let t := (s.perform .flush).run later
        (t.hub.alive = true → t.Returned s.flushes → s.queued <+: t.ran) ∧
          (s.hub.queue.length < turns later → t.Returned s.flushes) ∧
          (t.hub.alive = false → t.Returned s.flushes)) ∧
      (s.hub.alive = false → ∀ later, (s.run later).hub.alive = false ∧ (s.run later).ran = s.ran) := by
  intro s
  have ordered : s.Ordered := ((ordered_create pid).run events).1
  have adds (deed : Deed κ) : Adds s (s.perform deed) (s.sends deed) := (Grows.perform ordered.proper deed).toAdds
  refine ⟨ordered.waiting, ordered.ran, (ordered_create pid).queued_run events, ?_, adds, ?_, ?_, ⟨rfl, rfl⟩,
    ordered.queued_run_of_shut, ?_, ordered.all_run, ?_, ?_, ?_⟩
  · intro held alive
    have admits {items : List (Queued κ)} {t : State κ} (added : Adds s t (s.admitted items)) : Adds s t items := by
      rwa [admitted_of_held held, if_pos alive] at added
    exact ⟨fun callback => admits (adds (.push callback)), admits (adds .flush), admits (adds .reinit)⟩
  · intro deeds item rest queue
    rcases turn_cases ordered.proper deeds with ⟨empty, -, -⟩ | ⟨first, left, same, grows⟩
    · exact absurd (queue.symm.trans empty) (List.cons_ne_nil _ _)
    · obtain ⟨rfl, rfl⟩ := List.cons.inj (queue.symm.trans same)
      exact ⟨by rw [grows.ran, ran_took], by rw [grows.queued, queued_took], grows.queue⟩
  · intro deeds empty
    simp [turn, next?, empty]
  · intro event
    have stepped := ordered.step event
    exact ⟨stepped.onward.queued_prefix, stepped.ran⟩
  · intro alive flush before after queued returned
    exact ordered.run_before alive queued returned.2
  · intro held later t
    refine ⟨?_, fun many => ordered.returns held later (.inl many),
      fun dead => ordered.returns held later (.inr dead)⟩
    intro alive returned
    have grows := Grows.perform ordered.proper (.flush : Deed κ)
    obtain ⟨after, onward⟩ := (ordered.grows grows).run later
    have working : s.hub.alive = true := grows.alive ▸ onward.alive alive
    have marked : (s.perform .flush).queued = s.queued ++ [.marker s.flushes] :=
      grows.queued.trans (by simp [sends, held, working])
    obtain ⟨new, queued, -⟩ := onward.queued
    rw [marked, List.append_assoc] at queued
    exact after.run_before alive queued returned.2
  · intro dead later
    exact (ordered.run later).2.ended dead

/-- The first callback queues others, flushes and looks after a fork; then the hub is released, and what waits
runs. -/
theorem callbacks_run_once_in_order_nested :
    let s := (create 100 : State Nat).run
      [.deed .watch, .deed (.start 1 9), .deed (.push 1), .deed (.push 2), .deed (.setPid 101),
        .turn [.push 3, .flush, .reinit, .push 4]]
    let t := s.run [.deed .release, .turn [.push 5], .turn [], .turn [], .turn [], .turn []]
    s.queued = [.callback 1, .callback 2, .callback 3, .marker 0, .callback 9, .callback 4] ∧
      s.ran = [.callback 1] ∧
      Adds s (s.perform (.push 6)) [.callback 6] ∧
      t.hub.alive = true ∧ s.queued <+: t.ran ∧ t.queued = s.queued := by
  intro s t
  obtain ⟨-, -, -, added, -, -, -, -, -, -, all, -⟩ := callbacks_run_once_in_order 100
    [.deed .watch, .deed (.start 1 9), .deed (.push 1), .deed (.push 2), .deed (.setPid 101),
      .turn [.push 3, .flush, .reinit, .push 4]]
  have alive : t.hub.alive = true := by decide
  exact ⟨by decide, by decide, (added (by decide) (by decide)).1 6, alive, all _ alive (by decide), by decide⟩

end State

end HostLookup.Hub
