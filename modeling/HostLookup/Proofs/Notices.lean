import HostLookup.Proofs.Queueing
import Mathlib.Data.Set.List

/-! The notices of a hub. A look at the process number finds a change since the last look, and then queues
what each started watcher was last started with, once; what is queued stays as it is, whatever becomes of the
watchers, and each watcher has its own say. -/
namespace HostLookup.Hub

variable {κ : Type}

theorem reinit_fst (hub : Hub κ) : hub.reinit.1 = true ↔ hub.seenPid ≠ hub.livePid := by
  unfold reinit
  split <;> simp_all

def idle (hub : Hub κ) : Hub κ :=
  { hub with queue := [], alive := true }

theorem idle_eq_iff {hub other : Hub κ} : hub.idle = other.idle ↔
    hub.livePid = other.livePid ∧ hub.seenPid = other.seenPid ∧ hub.watchers = other.watchers ∧
      hub.nextWatcher = other.nextWatcher := by
  simp [idle]

@[simp] theorem idle_push (hub : Hub κ) (callback : κ) : (hub.push callback).idle = hub.idle := by
  unfold push
  split <;> rfl

@[simp] theorem idle_pushAll (hub : Hub κ) (callbacks : List κ) : (hub.pushAll callbacks).idle = hub.idle := by
  induction callbacks generalizing hub with
  | nil => rfl
  | cons callback rest ih => rw [pushAll_cons, ih, idle_push]

@[simp] theorem idle_reinit (hub : Hub κ) :
    hub.reinit.2.idle = { hub.idle with seenPid := hub.idle.livePid } := by
  unfold reinit
  split
  · next same => simp [idle, ← same]
  · exact idle_pushAll _ _

@[simp] theorem nextWatcher_push (hub : Hub κ) (callback : κ) :
    (hub.push callback).nextWatcher = hub.nextWatcher := by
  unfold push
  split <;> rfl

@[simp] theorem nextWatcher_reinit (hub : Hub κ) : hub.reinit.2.nextWatcher = hub.nextWatcher := by
  have same : hub.reinit.2.idle = { hub with seenPid := hub.livePid }.idle := idle_reinit hub
  exact (idle_eq_iff.mp same).2.2.2

theorem mem_watchers_stop {hub : Hub κ} {watcher other : Nat} {callback : κ} :
    (other, callback) ∈ (hub.stop watcher).watchers ↔ other ≠ watcher ∧ (other, callback) ∈ hub.watchers := by
  simp [stop, and_comm]

theorem mem_watchers_start {hub : Hub κ} {watcher other : Nat} {callback started : κ} :
    (other, callback) ∈ (hub.start watcher started).watchers ↔
      other = watcher ∧ callback = started ∨ other ≠ watcher ∧ (other, callback) ∈ hub.watchers := by
  simp only [start, List.mem_append, mem_watchers_stop, List.mem_singleton, Prod.mk.injEq]
  exact Or.comm

theorem isActive_iff {hub : Hub κ} {watcher : Nat} :
    hub.isActive watcher = true ↔ ∃ callback, (watcher, callback) ∈ hub.watchers := by
  simp [isActive, List.any_eq_true]

namespace State

variable {s t : State κ}

theorem started?_kept {notes : List (Note κ)} {watcher : Nat} (journal : t.journal = s.journal ++ notes)
    (silent : notes.filterMap (Note.started? watcher) = []) : t.started? watcher = s.started? watcher := by
  rw [started?, journal, List.filterMap_append, silent, List.append_nil, ← started?]

theorem started?_told {note : Note κ} {watcher : Nat} {callback : Option κ}
    (journal : t.journal = s.journal ++ [note]) (told : note.started? watcher = some callback) :
    t.started? watcher = callback := by
  rw [started?, journal, List.filterMap_append, List.filterMap_cons_some told]
  simp

theorem recorded?_kept {notes : List (Note κ)} (journal : t.journal = s.journal ++ notes)
    (silent : notes.filterMap Note.pid? = []) : t.recorded? = s.recorded? := by
  rw [recorded?, journal, List.filterMap_append, silent, List.append_nil, ← recorded?]

theorem recorded?_reinit (s : State κ) : s.reinit.recorded? = some s.hub.livePid := by
  rw [recorded?, reinit, List.filterMap_append, List.filterMap_cons_some (f := Note.pid?) rfl,
    arrivals_silent fun _ => rfl]
  simp

/-- The watcher that something is done with, which may be one that is made. -/
def touched? (s : State κ) : Deed κ → Option Nat
  | .watch => some s.hub.nextWatcher
  | .start watcher _ | .stop watcher | .drop watcher => some watcher
  | _ => none

theorem started?_perform (s : State κ) (deed : Deed κ) {other : Nat} (apart : s.touched? deed ≠ some other) :
    (s.perform deed).started? other = s.started? other := by
  have stopped (watcher : Nat) (differs : some watcher ≠ some other) :
      (s.stop watcher).started? other = s.started? other := by
    have silent : (Note.stopped watcher : Note κ).started? other = none := if_neg fun same => differs (by rw [same])
    exact started?_kept rfl (List.filterMap_cons_none silent)
  cases deed with
  | setPid pid => rfl
  | push callback =>
    simp only [perform]
    split
    · exact started?_kept rfl (arrivals_silent (fun _ => rfl) _ _)
    · rfl
  | flush =>
    simp only [perform]
    split
    · exact started?_kept rfl (arrivals_silent (fun _ => rfl) _ _)
    · rfl
  | reinit =>
    simp only [perform]
    split
    · exact started?_kept rfl ((List.filterMap_cons_none rfl).trans (arrivals_silent (fun _ => rfl) _ _))
    · rfl
  | watch =>
    simp only [perform]
    split <;> rfl
  | start watcher callback =>
    simp only [perform]
    split
    · have silent : (Note.started watcher callback).started? other = none :=
        if_neg fun same => apart (by rw [touched?, same])
      exact started?_kept rfl (List.filterMap_cons_none silent)
    · rfl
  | stop watcher =>
    simp only [perform]
    split
    · exact stopped watcher apart
    · rfl
  | drop watcher =>
    simp only [perform]
    split
    · exact stopped watcher apart
    · rfl
  | release => rfl

theorem mem_watchers_perform (s : State κ) (deed : Deed κ) {other : Nat} (apart : s.touched? deed ≠ some other) :
    other ∈ (s.perform deed).watchers ↔ other ∈ s.watchers := by
  cases deed with
  | setPid pid | release => rfl
  | push callback | flush | reinit | start watcher callback | stop watcher =>
    simp only [perform]
    split <;> rfl
  | watch =>
    have made : other ≠ s.hub.watch.1 := fun same => apart (congrArg some same.symm)
    simp only [perform]
    split <;> simp [made]
  | drop watcher =>
    have differs : other ≠ watcher := fun same => apart (congrArg some same.symm)
    simp only [perform]
    split <;> simp [differs]

/-- What holds at the start of a run, and is kept by all that a step is made of, holds at its end. -/
theorem run_induction {P : State κ → Prop} (start : P s) (perform : ∀ s deed, P s → P (s.perform deed))
    (took : ∀ s item queue, P s → P (s.took item { s.hub with queue }))
    (shutdown : ∀ s, P s → P { s with hub := s.hub.shutdown }) (events : List (Event κ)) : P (s.run events) := by
  have performAll (deeds : List (Deed κ)) (s : State κ) (h : P s) : P (s.performAll deeds) := by
    induction deeds generalizing s with
    | nil => exact h
    | cons deed rest ih => exact ih _ (perform s deed h)
  induction events generalizing s with
  | nil => exact start
  | cons event rest ih =>
    refine ih ?_
    cases event with
    | deed deed => exact perform s deed start
    | shutdown => exact shutdown s start
    | turn deeds =>
      simp only [step, turn]
      split
      · exact start
      · next callback left found =>
        rw [(next?_eq_some found).2]
        exact performAll deeds _ (took _ _ _ start)
      · next flush left found =>
        rw [(next?_eq_some found).2]
        exact took _ _ _ start

/-- The hub agrees with its journal, and keeps its watchers apart. -/
structure Told (s : State κ) : Prop where
  recorded : s.recorded? = some s.hub.seenPid
  started : ∀ watcher item, (watcher, item) ∈ s.hub.watchers ↔
    ∃ callback, item = .callback callback ∧ s.started? watcher = some callback
  distinct : (s.hub.watchers.map (·.1)).Nodup
  present : ∀ entry ∈ s.hub.watchers, entry.1 ∈ s.watchers
  fresh : ∀ watcher ∈ s.watchers, watcher < s.hub.nextWatcher

namespace Told

theorem create (pid : Nat) : (create pid : State κ).Told where
  recorded := rfl
  started := by simp [State.create, Hub.create, started?, Note.started?]
  distinct := List.nodup_nil
  present := by simp [State.create, Hub.create]
  fresh := by simp [State.create]

theorem aside (told : s.Told) (recorded : t.recorded? = some t.hub.seenPid)
    (started : ∀ watcher, t.started? watcher = s.started? watcher)
    (active : t.hub.watchers = s.hub.watchers) (watchers : t.watchers = s.watchers)
    (next : t.hub.nextWatcher = s.hub.nextWatcher) : t.Told where
  recorded := recorded
  started := by simpa only [active, started] using told.started
  distinct := by simpa only [active] using told.distinct
  present := by simpa only [active, watchers] using told.present
  fresh := by simpa only [watchers, next] using told.fresh

theorem distinct_stop (told : s.Told) (watcher : Nat) :
    ((s.hub.stop watcher).watchers.map (·.1)).Nodup :=
  told.distinct.sublist (List.filter_sublist.map _)

theorem stop (told : s.Told) (watcher : Nat) {watchers : List Nat}
    (kept : ∀ other ∈ s.watchers, other ≠ watcher → other ∈ watchers) (fewer : watchers ⊆ s.watchers) :
    { s.stop watcher with watchers }.Told where
  recorded := (recorded?_kept (t := { s.stop watcher with watchers }) rfl rfl).trans told.recorded
  started := by
    intro other item
    refine mem_watchers_stop.trans ?_
    by_cases same : other = watcher
    · subst same
      have ended : { s.stop other with watchers }.started? other = none :=
        started?_told rfl (if_pos rfl)
      simp [ended]
    · have silent : (Note.stopped watcher : Note κ).started? other = none := if_neg (Ne.symm same)
      have kept : { s.stop watcher with watchers }.started? other = s.started? other :=
        started?_kept rfl (List.filterMap_cons_none silent)
      rw [kept, ← told.started]
      simp [same]
  distinct := told.distinct_stop watcher
  present := by
    intro entry member
    obtain ⟨differs, before⟩ := mem_watchers_stop.mp member
    exact kept _ (told.present _ before) differs
  fresh := fun other member => told.fresh other (fewer member)

theorem start (told : s.Told) {watcher : Nat} (callback : κ) (present : watcher ∈ s.watchers) :
    (s.start watcher callback).Told where
  recorded := (recorded?_kept rfl rfl).trans told.recorded
  started := by
    intro other item
    refine mem_watchers_start.trans ?_
    by_cases same : other = watcher
    · subst same
      have begun : (s.start other callback).started? other = some callback :=
        started?_told rfl (if_pos rfl)
      simp [begun]
    · have silent : (Note.started watcher callback).started? other = none := if_neg (Ne.symm same)
      have kept : (s.start watcher callback).started? other = s.started? other :=
        started?_kept rfl (List.filterMap_cons_none silent)
      rw [kept, ← told.started]
      simp [same]
  distinct := by
    have apart : watcher ∉ (s.hub.stop watcher).watchers.map (·.1) := by
      intro member
      obtain ⟨entry, found, same⟩ := List.mem_map.mp member
      exact (mem_watchers_stop.mp found).1 same
    simp only [State.start, Hub.start, List.map_append, List.map_cons, List.map_nil]
    refine List.nodup_append.mpr ⟨told.distinct_stop watcher, List.pairwise_singleton _ _, ?_⟩
    intro other earlier last made same
    rw [List.mem_singleton.mp made] at same
    exact apart (same ▸ earlier)
  present := by
    intro entry member
    rcases mem_watchers_start.mp member with ⟨same, -⟩ | ⟨-, before⟩
    · exact same ▸ present
    · exact told.present entry before
  fresh := told.fresh

theorem watch (told : s.Told) :
    { s with hub := s.hub.watch.2, watchers := s.watchers ++ [s.hub.watch.1] }.Told where
  recorded := told.recorded
  started := told.started
  distinct := told.distinct
  present := fun entry member => List.mem_append_left _ (told.present entry member)
  fresh := by
    intro watcher member
    rcases List.mem_append.mp member with earlier | made
    · exact Nat.lt_succ_of_lt (told.fresh watcher earlier)
    · rw [List.mem_singleton.mp made]
      exact Nat.lt_succ_self _

theorem push (told : s.Told) (item : Queued κ) (flushes : Nat) :
    { s.push item with flushes }.Told :=
  told.aside
    ((recorded?_kept rfl (arrivals_silent (fun _ => rfl) _ _)).trans (by simpa [State.push] using told.recorded))
    (fun _ => started?_kept rfl (arrivals_silent (fun _ => rfl) _ _))
    (watchers_push _ _) rfl (nextWatcher_push _ _)

theorem reinit (told : s.Told) : s.reinit.Told :=
  told.aside ((recorded?_reinit s).trans (by simp [State.reinit]))
    (fun _ => started?_kept rfl ((List.filterMap_cons_none rfl).trans (arrivals_silent (fun _ => rfl) _ _)))
    (watchers_reinit _) rfl (nextWatcher_reinit _)

theorem perform (told : s.Told) (deed : Deed κ) : (s.perform deed).Told := by
  cases deed with
  | setPid pid => exact told.aside told.recorded (fun _ => rfl) rfl rfl rfl
  | push callback =>
    simp only [State.perform]
    split
    · exact told.push _ _
    · exact told
  | flush =>
    simp only [State.perform]
    split
    · exact told.push _ _
    · exact told
  | reinit =>
    simp only [State.perform]
    split
    · exact told.reinit
    · exact told
  | watch =>
    simp only [State.perform]
    split
    · exact told.watch
    · exact told
  | start watcher callback =>
    simp only [State.perform]
    split
    · next may =>
      simp only [Bool.and_eq_true, List.contains_iff_mem] at may
      exact told.start callback may.2
    · exact told
  | stop watcher =>
    simp only [State.perform]
    split
    · exact told.stop watcher (fun _ member _ => member) (fun _ member => member)
    · exact told
  | drop watcher =>
    simp only [State.perform]
    split
    · exact told.stop watcher (fun _ member differs => List.mem_filter.mpr ⟨member, by simpa using differs⟩)
        (List.filter_subset_self _)
    · exact told
  | release => exact told.aside told.recorded (fun _ => rfl) rfl rfl rfl

theorem took (told : s.Told) (item : Queued κ) (queue : List (Queued κ)) :
    (s.took item { s.hub with queue }).Told :=
  told.aside ((recorded?_kept rfl rfl).trans told.recorded) (fun _ => started?_kept rfl rfl) rfl rfl rfl

theorem shutdown (told : s.Told) : { s with hub := s.hub.shutdown }.Told :=
  told.aside told.recorded (fun _ => rfl) rfl rfl rfl

theorem run (told : s.Told) (events : List (Event κ)) : (s.run events).Told :=
  run_induction told (fun _ deed told => told.perform deed) (fun _ item queue told => told.took item queue)
    (fun _ told => told.shutdown) events

theorem started_iff (told : s.Told) (watcher : Nat) (callback : κ) :
    s.started? watcher = some callback ↔ (watcher, .callback callback) ∈ s.hub.watchers := by
  simp [told.started]

theorem isActive_iff (told : s.Told) (watcher : Nat) :
    s.hub.isActive watcher = true ↔ ∃ callback, s.started? watcher = some callback := by
  simp [Hub.isActive_iff, told.started]

theorem started?_absent (told : s.Told) {watcher : Nat} (absent : watcher ∉ s.watchers) :
    s.started? watcher = none := by
  by_contra started
  obtain ⟨callback, started⟩ := Option.ne_none_iff_exists'.mp started
  exact absent (told.present _ ((told.started_iff watcher callback).mp started))

theorem entries (told : s.Told) : ∃ entries : List (Nat × κ), (entries.map (·.1)).Nodup ∧
    (∀ watcher callback, (watcher, callback) ∈ entries ↔ s.started? watcher = some callback) ∧
    s.hub.watchers.map (·.2) = entries.map fun entry => .callback entry.2 := by
  have proper : ∀ entry ∈ s.hub.watchers, entry ∈ Set.range (Prod.map id Queued.callback : Nat × κ → _) := by
    intro entry member
    obtain ⟨callback, same, -⟩ := (told.started entry.1 entry.2).mp member
    exact ⟨(entry.1, callback), Prod.ext rfl same.symm⟩
  obtain ⟨entries, same⟩ := (Set.range_list_map _).ge proper
  refine ⟨entries, ?_, ?_, ?_⟩
  · simpa [← same, Function.comp_def] using told.distinct
  · intro watcher callback
    rw [told.started_iff, ← same]
    simp
  · simp [← same]

end Told

/-- The two know the same of the process and of the watchers, whatever waits in their queues. -/
structure Agrees (s t : State κ) : Prop where
  held : s.held = t.held
  watchers : s.watchers = t.watchers
  idle : s.hub.idle = t.hub.idle
  recorded : s.recorded? = t.recorded?
  started : ∀ watcher, s.started? watcher = t.started? watcher

namespace Agrees

theorem of_told (told : s.Told) (also : t.Told) (held : s.held = t.held) (watchers : s.watchers = t.watchers)
    (idle : s.hub.idle = t.hub.idle) : Agrees s t where
  held := held
  watchers := watchers
  idle := idle
  recorded := by
    obtain ⟨-, seen, -⟩ := idle_eq_iff.mp idle
    rw [told.recorded, also.recorded, seen]
  started := by
    obtain ⟨-, -, active, -⟩ := idle_eq_iff.mp idle
    intro watcher
    ext callback
    rw [told.started_iff, also.started_iff, active]

theorem perform (told : s.Told) (also : t.Told) (agrees : Agrees s t) (deed : Deed κ) :
    Agrees (s.perform deed) (t.perform deed) := by
  have idle := agrees.idle
  suffices (s.perform deed).held = (t.perform deed).held ∧ (s.perform deed).watchers = (t.perform deed).watchers ∧
      (s.perform deed).hub.idle = (t.perform deed).hub.idle from
    of_told (told.perform deed) (also.perform deed) this.1 this.2.1 this.2.2
  cases deed with
  | setPid pid => exact ⟨agrees.held, agrees.watchers, congrArg (Hub.setPid · pid) idle⟩
  | push callback | flush =>
    simp only [State.perform, agrees.held]
    split
    · exact ⟨agrees.held, agrees.watchers, by simpa [State.push] using idle⟩
    · exact ⟨agrees.held, agrees.watchers, idle⟩
  | reinit =>
    simp only [State.perform, agrees.held]
    split
    · exact ⟨agrees.held, agrees.watchers, by simp [State.reinit, idle]⟩
    · exact ⟨agrees.held, agrees.watchers, idle⟩
  | watch =>
    simp only [State.perform, agrees.held]
    split
    · have next : s.hub.watch.1 = t.hub.watch.1 := (idle_eq_iff.mp idle).2.2.2
      exact ⟨rfl, by rw [agrees.watchers, next], congrArg (fun hub => hub.watch.2) idle⟩
    · exact ⟨agrees.held, agrees.watchers, idle⟩
  | start watcher callback =>
    simp only [State.perform, agrees.held, agrees.watchers]
    split
    · exact ⟨agrees.held, agrees.watchers, congrArg (Hub.start · watcher (Queued.callback callback)) idle⟩
    · exact ⟨agrees.held, agrees.watchers, idle⟩
  | stop watcher =>
    simp only [State.perform, agrees.watchers]
    split
    · exact ⟨agrees.held, agrees.watchers, congrArg (Hub.stop · watcher) idle⟩
    · exact ⟨agrees.held, agrees.watchers, idle⟩
  | drop watcher =>
    simp only [State.perform, agrees.watchers]
    split
    · exact ⟨agrees.held, rfl, congrArg (Hub.stop · watcher) idle⟩
    · exact ⟨agrees.held, agrees.watchers, idle⟩
  | release => exact ⟨rfl, agrees.watchers, idle⟩

theorem performAll (told : s.Told) (also : t.Told) (agrees : Agrees s t) (deeds : List (Deed κ)) :
    Agrees (s.performAll deeds) (t.performAll deeds) := by
  induction deeds generalizing s t with
  | nil => exact agrees
  | cons deed rest ih => exact ih (told.perform deed) (also.perform deed) (agrees.perform told also deed)

end Agrees

theorem Told.agrees_turn (told : s.Told) (deeds : List (Deed κ)) {callback : κ} {rest : List (Queued κ)}
    (queue : s.hub.queue = .callback callback :: rest) : Agrees (s.turn deeds) (s.run (deeds.map .deed)) := by
  have taken : s.turn deeds = (s.took (.callback callback) { s.hub with queue := rest }).performAll deeds := by
    simp [turn, next?, queue]
  have plain : s.run (deeds.map .deed) = s.performAll deeds := List.foldl_map
  have also := told.took (.callback callback) rest
  rw [taken, plain]
  exact .performAll also told (.of_told also told rfl rfl rfl) deeds

/-- What becomes of the watchers and of the number that was recorded, deed by deed. -/
structure Registers (s : State κ) : Prop where
  watch : s.held = true → (s.perform .watch).watchers = s.watchers ++ [s.hub.nextWatcher] ∧
    (s.perform .watch).started? s.hub.nextWatcher = none
  start : s.held = true → ∀ watcher ∈ s.watchers, ∀ callback,
    (s.perform (.start watcher callback)).started? watcher = some callback ∧
      (s.perform (.start watcher callback)).isActive watcher = true
  stop : ∀ watcher ∈ s.watchers, (s.perform (.stop watcher)).started? watcher = none ∧
    (s.perform (.stop watcher)).isActive watcher = false
  drop : ∀ watcher ∈ s.watchers, (s.perform (.drop watcher)).started? watcher = none ∧
    (s.perform (.drop watcher)).isActive watcher = false ∧ watcher ∉ (s.perform (.drop watcher)).watchers
  absent : ∀ watcher ∉ s.watchers, s.started? watcher = none ∧ s.isActive watcher = false ∧
    (∀ callback, s.perform (.start watcher callback) = s) ∧ s.perform (.stop watcher) = s ∧
      s.perform (.drop watcher) = s
  released : s.held = false → s.perform .watch = s ∧ s.perform .reinit = s ∧
    (∀ watcher callback, s.perform (.start watcher callback) = s) ∧ ∀ watcher, s.isActive watcher = false
  look : s.held = true → (s.perform .reinit).recorded? = some s.hub.livePid ∧
    (s.perform .reinit).hub.reinit.1 = false
  recorded : ∀ deed, deed ≠ .reinit → (s.perform deed).recorded? = s.recorded?
  livePid : (∀ pid, (s.perform (.setPid pid)).hub.livePid = pid) ∧
    ∀ deed, (∀ pid, deed ≠ .setPid pid) → (s.perform deed).hub.livePid = s.hub.livePid

theorem started?_stop (s : State κ) (watcher : Nat) : (s.stop watcher).started? watcher = none :=
  started?_told rfl (if_pos rfl)

theorem started?_start (s : State κ) (watcher : Nat) (callback : κ) :
    (s.start watcher callback).started? watcher = some callback :=
  started?_told rfl (if_pos rfl)

@[simp] theorem isActive_stop (s : State κ) (watcher : Nat) : (s.stop watcher).hub.isActive watcher = false := by
  simp [State.stop, Hub.stop, Hub.isActive]

@[simp] theorem isActive_start (s : State κ) (watcher : Nat) (callback : κ) :
    (s.start watcher callback).hub.isActive watcher = true := by
  simp [State.start, Hub.start, Hub.isActive]

theorem recorded?_perform (s : State κ) (deed : Deed κ) (other : deed ≠ .reinit) :
    (s.perform deed).recorded? = s.recorded? := by
  cases deed with
  | reinit => contradiction
  | setPid pid | release => rfl
  | push callback | flush =>
    simp only [perform]
    split
    · exact recorded?_kept rfl (arrivals_silent (fun _ => rfl) _ _)
    · rfl
  | watch =>
    simp only [perform]
    split <;> rfl
  | start watcher callback | stop watcher | drop watcher =>
    simp only [perform]
    split
    · exact recorded?_kept rfl rfl
    · rfl

theorem livePid_perform (s : State κ) (deed : Deed κ) (other : ∀ pid, deed ≠ .setPid pid) :
    (s.perform deed).hub.livePid = s.hub.livePid := by
  cases deed with
  | setPid pid => exact absurd rfl (other pid)
  | push callback | flush =>
    simp only [perform]
    split
    · exact livePid_push _ _
    · rfl
  | reinit =>
    simp only [perform]
    split
    · exact livePid_reinit _
    · rfl
  | watch | start watcher callback | stop watcher | drop watcher =>
    simp only [perform]
    split <;> rfl
  | release => rfl

theorem Told.registers (told : s.Told) : s.Registers where
  watch := by
    intro held
    have fresh : s.hub.nextWatcher ∉ s.watchers := fun member => Nat.lt_irrefl _ (told.fresh _ member)
    simp only [State.perform, held, if_true]
    exact ⟨rfl, told.started?_absent fresh⟩
  start := by
    intro held watcher present callback
    simp only [State.perform, held, List.contains_iff_mem.mpr present, Bool.and_self, if_true]
    refine ⟨started?_start s watcher callback, ?_⟩
    rw [State.isActive, isActive_start, Bool.and_true]
    exact held
  stop := by
    intro watcher present
    simp [State.perform, State.isActive, present, started?_stop]
  drop := by
    intro watcher present
    simp only [State.perform, List.contains_iff_mem.mpr present, if_true]
    exact ⟨started?_stop s watcher, by simp [State.isActive], by simp⟩
  absent := by
    intro watcher absent
    have inactive : s.hub.isActive watcher = false := by
      by_contra active
      obtain ⟨callback, started⟩ := (told.isActive_iff watcher).mp (by simpa using active)
      exact absurd ((told.started?_absent absent).symm.trans started) (Option.some_ne_none _).symm
    exact ⟨told.started?_absent absent, by simp [State.isActive, inactive], by simp [State.perform, absent],
      by simp [State.perform, absent], by simp [State.perform, absent]⟩
  released := by
    intro released
    simp [State.perform, State.isActive, released]
  look := by
    intro held
    simp only [State.perform, held, if_true]
    refine ⟨recorded?_reinit s, ?_⟩
    by_contra again
    exact (reinit_fst _).mp (by simpa using again) (by simp [State.reinit])
  recorded := recorded?_perform s
  livePid := ⟨fun _ => rfl, livePid_perform s⟩

/-- A change of the process number since it was last recorded is found, and then the callback that each
started watcher was last started with is queued once, after all that waits, and nothing else is. The hub records
the number when it is made and at every look; a watcher is started by its starts, and stopped by its stops and
when it is dropped, in a turn as anywhere else. What becomes of a watcher leaves the queue and the other watchers
alone, and what waits runs as it was queued. -/
theorem fork_notices (pid : Nat) (events : List (Event κ)) :
    let s := (create pid).run events
    (s.hub.reinit.1 = true ↔ s.recorded? ≠ some s.hub.livePid) ∧
      (s.held = true → s.hub.alive = true → s.hub.reinit.1 = true →
        ∃ notified : List (Nat × κ), (notified.map (·.1)).Nodup ∧
          (∀ watcher callback, (watcher, callback) ∈ notified ↔ s.started? watcher = some callback) ∧
          (s.perform .reinit).hub.queue = s.hub.queue ++ notified.map fun entry => .callback entry.2) ∧
      (s.hub.reinit.1 = false → (s.perform .reinit).hub.queue = s.hub.queue) ∧
      (∀ watcher, s.isActive watcher = true ↔ s.held = true ∧ ∃ callback, s.started? watcher = some callback) ∧
      (create pid : State κ).recorded? = some pid ∧
      (∀ watcher, (create pid : State κ).started? watcher = none) ∧
      s.Registers ∧
      (∀ deeds callback rest, s.hub.queue = .callback callback :: rest →
        Agrees (s.turn deeds) (s.run (deeds.map .deed))) ∧
      (∀ deeds flush rest, s.hub.queue = .marker flush :: rest → Agrees (s.turn deeds) s) ∧
      (∀ deeds, s.hub.queue = [] → s.turn deeds = s) ∧
      Agrees (s.step .shutdown) s ∧
      (s.hub.nextWatcher ∉ s.watchers ∧ s.hub.isActive s.hub.nextWatcher = false) ∧
      (∀ deed watcher, s.touched? deed = some watcher → (s.perform deed).hub.queue = s.hub.queue) ∧
      (∀ deed other, s.touched? deed ≠ some other →
        (s.perform deed).started? other = s.started? other ∧
          (s.perform deed).hub.isActive other = s.hub.isActive other ∧
          (other ∈ (s.perform deed).watchers ↔ other ∈ s.watchers)) ∧
      (∀ later, (s.run later).hub.alive = true →
        s.ran ++ s.hub.queue <+: (s.run later).ran ++ (s.run later).hub.queue) := by
  intro s
  have told : s.Told := (Told.create pid).run events
  have ordered : s.Ordered := ((ordered_create pid).run events).1
  have found : s.hub.reinit.1 = true ↔ s.recorded? ≠ some s.hub.livePid := by
    rw [reinit_fst, told.recorded]
    simp
  have looks (held : s.held = true) : (s.perform .reinit).hub.queue = s.hub.reinit.2.queue := by
    simp [perform, held, State.reinit]
  refine ⟨found, ?_, ?_, ?_, rfl, fun _ => rfl, told.registers, ?_, ?_, ?_,
    .of_told told.shutdown told rfl rfl rfl, ?_, ?_, ?_, ?_⟩
  · intro held alive changed
    obtain ⟨notified, distinct, started, same⟩ := told.entries
    refine ⟨notified, distinct, started, ?_⟩
    rw [looks held, queue_reinit, alive, notices, if_neg ((reinit_fst _).mp changed), if_pos rfl, same]
  · intro unchanged
    have seen : s.hub.seenPid = s.hub.livePid := by
      by_contra differs
      exact Bool.false_ne_true (unchanged.symm.trans ((reinit_fst _).mpr differs))
    by_cases held : s.held = true
    · rw [looks held, queue_reinit, notices, if_pos seen]
      simp
    · simp [perform, held]
  · intro watcher
    rw [State.isActive, Bool.and_eq_true, told.isActive_iff]
  · intro deeds callback rest queue
    exact told.agrees_turn deeds queue
  · intro deeds flush rest queue
    have taken : s.turn deeds = s.took (.marker flush) { s.hub with queue := rest } := by
      simp [turn, next?, queue]
    rw [taken]
    exact .of_told (told.took (.marker flush) rest) told rfl rfl rfl
  · intro deeds empty
    simp [turn, next?, empty]
  · have absent : s.hub.nextWatcher ∉ s.watchers := fun member => Nat.lt_irrefl _ (told.fresh _ member)
    refine ⟨absent, ?_⟩
    by_contra active
    obtain ⟨callback, member⟩ := Hub.isActive_iff.mp (by simpa using active)
    exact absent (told.present _ member)
  · intro deed watcher touched
    cases deed <;> simp only [touched?, reduceCtorEq] at touched
    all_goals
      simp only [perform]
      split <;> rfl
  · intro deed other apart
    have same := started?_perform s deed apart
    refine ⟨same, ?_, ?_⟩
    · rw [Bool.eq_iff_iff, (told.perform deed).isActive_iff, told.isActive_iff, same]
    · exact mem_watchers_perform s deed apart
  · intro later alive
    obtain ⟨after, onward⟩ := ordered.run later
    rw [← ordered.waiting (onward.alive alive), ← after.waiting alive]
    exact onward.queued_prefix

/-- The first fork is told to the watcher that was started again and not to the one that was stopped; at the
second, the first watcher has been stopped with its notice in the queue, and the other one started again. -/
theorem fork_notices_twice :
    let once : List (Event Nat) := [.deed .watch, .deed .watch, .deed (.start 1 7), .deed (.start 1 8),
      .deed (.start 2 9), .deed (.stop 2), .deed (.setPid 101)]
    let s := (create 100).run once
    let t := (create 100).run (once ++ [.deed .reinit, .deed (.stop 1), .deed (.start 2 5), .deed (.setPid 102)])
    (s.recorded? = some 100 ∧ s.hub.reinit.1 = true ∧ s.started? 1 = some 8 ∧ s.started? 2 = none) ∧
      (s.perform .reinit).hub.queue = [.callback 8] ∧ (s.perform .reinit).recorded? = some 101 ∧
      (t.recorded? = some 101 ∧ t.hub.reinit.1 = true ∧ t.started? 1 = none ∧ t.started? 2 = some 5) ∧
      (t.perform .reinit).hub.queue = [.callback 8, .callback 5] ∧ (t.perform .reinit).hub.reinit.1 = false := by
  intro once s t
  obtain ⟨changed, -, -, -, -, -, registers, -⟩ := fork_notices 100 once
  obtain ⟨again, -, -, -, -, -, later, -⟩ := fork_notices 100
    (once ++ [.deed .reinit, .deed (.stop 1), .deed (.start 2 5), .deed (.setPid 102)])
  have before : s.recorded? = some 100 := by decide
  have between : t.recorded? = some 101 := by decide
  exact ⟨⟨before, changed.mpr (by rw [before]; decide), by decide, by decide⟩, by decide,
    (registers.look (by decide)).1, ⟨between, again.mpr (by rw [between]; decide), by decide, by decide⟩, by decide,
    (later.look (by decide)).2⟩

end State

end HostLookup.Hub
