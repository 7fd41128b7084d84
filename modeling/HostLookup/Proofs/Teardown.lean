import HostLookup.Proofs.Attendance
import HostLookup.Proofs.Retry

/-! What a lookup makes of the teardown of its channel, where the engines tell the truth about teardowns. The
slot has changed by the time that a lookup hears of it, so that the attempt is stale and another one is made;
only the auxiliary lookup of an address fails in another family, and its failure is final. -/
namespace HostLookup.Resolver

/-- What a step may hear: nothing, or one reply, before anything else. -/
inductive Hears (s : State) (event : Event) (t : State) : Prop
  | nothing (silent : Silent s t)
  | native {id : Nat} {query : NativeQuery} {reply : Except LookupError query.Answer}
      (silent : Silent (s.note id (.heard (.native query reply))) t)
  | prompt {id channel : Nat} {loop : Loop} {generation : Option Nat} {query : EngineQuery}
      {next : Except Fault query.Answer → Attempt} {reaction : Reaction} {reply : EngineReply}
      (answered : event = .answerEngine reaction)
      (busy : s.busy = some (id, .engine loop generation channel query next))
      (given : reaction.reply? = some reply)
      (silent : Silent (s.note id (.heard (.engine query (reply query)))) t)
  | stored {task : Task} {loop : Loop} {generation : Option Nat} {query : EngineQuery}
      {next : Except Fault query.Answer → Attempt} {reply : Except Fault query.Answer}
      (member : task ∈ s.tasks) (stage : task.stage = .waiting loop generation query next (some reply))
      (silent : Silent (s.note task.id (.heard (.engine query reply))) t)

variable {s t u : State} {id : Nat} {event : Event}

theorem Hears.followed (hears : Hears s event t) (silent : Silent t u) : Hears s event u := by
  cases hears with
  | nothing before => exact .nothing (before.trans silent)
  | native before => exact .native (before.trans silent)
  | prompt answered busy given before => exact .prompt answered busy given (before.trans silent)
  | stored member stage before => exact .stored member stage (before.trans silent)

theorem hears_poll (s : State) (id : Nat) : Hears s (.poll id) (s.poll id) := by
  unfold State.poll
  dsimp only
  split
  · exact .nothing ((Silent.refl _).of_eq rfl)
  · next task found =>
    obtain ⟨member, rfl⟩ := State.task?_some found
    split
    · exact .nothing ((Silent.refl _).of_eq rfl)
    · split
      · exact .nothing ((Goes.follow _ _ _).silent.of_eq rfl)
      · next stage => exact .stored member stage ((Goes.resume _ _ _ _ _).silent.of_eq rfl)
      · exact .nothing ((Silent.refl _).of_eq rfl)

theorem hears_act (s : State) (event : Event) : Hears s event (act s event) := by
  cases goes : event.goesOn with
  | false => exact .nothing (quiet_act s goes).silent
  | true =>
    cases event with
    | poll task =>
      rcases act_poll s task with same | ⟨-, -, polled⟩
      · exact same.symm ▸ .nothing (.refl s)
      · exact polled.symm ▸ hears_poll s task
    | answerNative reply =>
      unfold act State.answerNative
      dsimp only
      split
      · exact .native (Goes.follow _ _ _).silent
      · exact .native (Goes.resume _ _ _ _ _).silent
      · exact .nothing (.refl s)
    | answerEngine reaction =>
      unfold act State.answerEngine
      dsimp only
      split
      · next busy =>
        split
        · next given => exact .prompt rfl busy given (Goes.resume _ _ _ _ _).silent
        · exact .nothing ((Silent.refl _).of_eq rfl)
      · exact .nothing (.refl s)
    | _ => contradiction

theorem hears_step (s : State) (event : Event) : Hears s event (step s event) := by
  rcases settleOwner_cases (act s event) with same | closed
  · rw [step, same]
    exact hears_act s event
  · rw [step, closed]
    exact (hears_act s event).followed (Quiet.manage _ Lifecycle.close).silent

/-- The slot has changed under every attempt that has heard of a teardown. -/
def History.Severed (h : History) : Prop :=
  ∀ t ∈ h.trials, ∀ query, Reply.engine query (.error .destruction) ∈ t.replies → t.changes ≠ 0

theorem History.Severed.add {h : History} (severed : h.Severed) {entry : Entry}
    (told : ∀ query, entry = .task id (.heard (.engine query (.error .destruction))) →
      ∀ t ∈ h.trials.getLast?, t.changes ≠ 0) : (h.add id entry).Severed := by
  intro t member query torn
  rcases History.mem_add member with ⟨old, came⟩ | ⟨-, nothing⟩
  · have more := came.changes
    rcases came.replies with same | ⟨reply, rfl, longer, last⟩
    · have := severed old came.member query (same ▸ torn)
      omega
    · rw [longer] at torn
      rcases List.mem_append.mp torn with earlier | latest
      · have := severed old came.member query earlier
        omega
      · have := told query (by rw [List.mem_singleton.mp latest]) old last
        omega
  · simp [nothing] at torn

theorem History.Severed.of_silent (severed : (s.history id).Severed) (silent : Silent s t) :
    (t.history id).Severed := by
  obtain ⟨new, journal, unheard⟩ := silent
  unfold State.history at severed ⊢
  rw [journal, List.foldl_append]
  generalize s.journal.foldl (History.add id) {} = h at severed ⊢
  clear journal
  induction new generalizing h with
  | nil => exact severed
  | cons entry rest ih =>
    refine ih (fun other member => unheard other (by simp [member])) _ (severed.add ?_)
    rintro query rfl
    have := unheard _ (List.mem_cons_self ..)
    contradiction

theorem HonestlyReachable.severed (honestly : HonestlyReachable s) (id : Nat) :
    (s.history id).Severed := by
  induction honestly with
  | built clear ok =>
    obtain ⟨-, config, rfl⟩ := build_eq ok
    intro t member
    contradiction
  | @step s event before honest ih =>
    have reachable := before.reachable
    cases hears_step s event with
    | nothing silent => exact ih.of_silent silent
    | native silent =>
      refine History.Severed.of_silent ?_ silent
      rw [State.history_note_add]
      exact ih.add fun query same => by simp at same
    | prompt answered busy given silent =>
      refine History.Severed.of_silent ?_ silent
      rw [State.history_note_add]
      refine ih.add fun query same => ?_
      simp only [Entry.task.injEq, Note.heard.injEq, Reply.engine.injEq] at same
      obtain ⟨-, rfl, told⟩ := same
      -- While an engine is asked, its channel is not torn down.
      have torn := (answered ▸ honest) _ _ _ _ _ _ _ busy given (eq_of_heq told)
      rw [reachable.asked busy] at torn
      contradiction
    | @stored task loop generation other next reply member stage silent =>
      refine History.Severed.of_silent ?_ silent
      rw [State.history_note_add]
      refine ih.add fun query same last latest => ?_
      simp only [Entry.task.injEq, Note.heard.injEq, Reply.engine.injEq] at same
      obtain ⟨rfl, rfl, told⟩ := same
      obtain rfl := eq_of_heq told
      have moved := (HonestlyReachable.attended before).told task member
      have stands := reachable.coherent.settled.stands task member
      rw [stage] at moved stands
      obtain ⟨call, under⟩ := stands
      obtain ⟨past, current, trials, -, -, holds, -⟩ := under.trials
      obtain rfl : current = last := by simpa [trials] using latest
      exact fun unchanged => moved rfl (holds.changes.mp unchanged)

theorem Trial.lookup_of_channels {t : Trial} (unasked : t.channels = []) :
    t.lookup? = none ∨ ∃ query, t.lookup? = some (.inl query) := by
  unfold Trial.channels at unasked
  unfold Trial.lookup?
  cases issues : t.issues with
  | nil => exact Or.inl rfl
  | cons issue rest =>
    cases issue with
    | native query => exact Or.inr ⟨query, rfl⟩
    | engine channel query => simp [issues, Issue.channel?] at unasked

theorem Trial.Last.gives_up {call : Call} {first : Option Lookup} {conclusion : Option Result} {t : Trial}
    (last : t.Last call first conclusion) (empty : t.start = none) (asked : first ≠ none)
    (native : ∀ query, first = some (.inl query) → ∃ endpoint flags, call = .nameInfo endpoint flags) :
    conclusion = some (.error .closed) ∨ (∃ endpoint flags, call = .nameInfo endpoint flags) ∧
      (∃ query, t.lookup? = some (.inl query)) ∧
      ∀ result, conclusion = some result → ∃ e, result = .error e := by
  have unsent := Trial.lookup_of_channels (last.faithful.channels_of_none empty)
  cases ending : t.ending with
  | none =>
    obtain ⟨unconcluded, -, lookup⟩ := last.unfinished ending
    rcases unsent with nothing | ⟨query, asks⟩
    · exact absurd (lookup.symm.trans nothing) asked
    · exact Or.inr ⟨native query (lookup.symm.trans asks), ⟨query, asks⟩,
        fun result concluded => by simp [unconcluded] at concluded⟩
  | some ended =>
    obtain ⟨-, -, concluded⟩ := last.finished ended.1 ended.2 ending
    obtain ⟨-, ⟨e, failed⟩, closed⟩ := last.unserved empty ended.1 ended.2 ending
    rcases unsent with nothing | ⟨query, asks⟩
    · rw [closed nothing asked, call.finish_closed] at concluded
      exact Or.inl concluded
    · have same : first = some (.inl query) := by
        rcases last.lookup with lookup | ⟨nothing, -⟩
        · exact lookup.symm.trans asks
        · simp [nothing] at asks
      obtain ⟨endpoint, flags, rfl⟩ := native query same
      refine Or.inr ⟨⟨endpoint, flags, rfl⟩, ⟨query, asks⟩, fun result given => ⟨e, ?_⟩⟩
      rw [concluded, failed] at given
      exact (Option.some.inj given).symm

namespace History

variable {call : Call} {h : History}

theorem Lawful.precedes (lawful : h.Lawful call) {i : Nat} {t next : Trial}
    (found : h.trials[i]? = some t) (after : h.trials[i + 1]? = some next) : t.Precedes next := by
  rcases lawful with nothing | ⟨first, past, last, trials, -, -, chained, -⟩
  · simp [nothing] at found
  · obtain ⟨bound, rfl⟩ := List.getElem?_eq_some_iff.mp found
    obtain ⟨inside, rfl⟩ := List.getElem?_eq_some_iff.mp after
    exact List.isChain_iff_getElem.mp (trials ▸ chained.isChain) i inside

theorem Lawful.asks_again (lawful : h.Lawful call) {i : Nat} {t next : Trial}
    (found : h.trials[i]? = some t) (stale : t.Stale call) (after : h.trials[i + 1]? = some next)
    (live : next.start ≠ none) : next.lookup? = t.lookup? := by
  rcases lawful with nothing | ⟨first, past, last, trials, native, before, -, latest⟩
  · simp [nothing] at found
  · rcases getElem?_trials trials found with ⟨inside, member⟩ | ⟨rfl, rfl⟩
    · have first_eq := (before t member).lookup
      rcases getElem?_trials trials after with ⟨-, among⟩ | ⟨-, rfl⟩
      · exact (before next among).lookup.2.trans first_eq.2.symm
      · rcases latest.lookup with same | ⟨-, empty⟩
        · exact same.trans first_eq.2.symm
        · exact absurd (empty first_eq.1) live
    · exact absurd stale latest.not_stale

theorem Lawful.gives_up (lawful : h.Lawful call) {i : Nat} {t next : Trial}
    (found : h.trials[i]? = some t) (stale : t.Stale call) (after : h.trials[i + 1]? = some next)
    (empty : next.start = none) :
    next.channels = [] ∧ i + 2 = h.trials.length ∧ (h.conclusion = some (.error .closed) ∨
      (∃ endpoint flags, call = .nameInfo endpoint flags) ∧
        (∃ query, next.lookup? = some (.inl query)) ∧
        ∀ result, h.conclusion = some result → ∃ e, result = .error e) := by
  rcases lawful with nothing | ⟨first, past, last, trials, native, before, -, latest⟩
  · simp [nothing] at found
  · rcases getElem?_trials trials found with ⟨inside, member⟩ | ⟨rfl, rfl⟩
    · rcases getElem?_trials trials after with ⟨-, among⟩ | ⟨same, rfl⟩
      · obtain ⟨finish, e, ended, -, moved⟩ := (before next among).stale_of
        obtain ⟨gone, -⟩ := (before next among).unserved empty finish _ ended
        exact absurd (gone.trans empty.symm) moved
      · exact ⟨latest.faithful.channels_of_none empty, by simp [trials, same],
          latest.gives_up empty (before t member).lookup.1 native⟩
    · exact absurd stale latest.not_stale

end History

/-- A lookup that hears of the teardown of its channel does not fail for it: the slot has changed by then, and
another attempt follows at once. On a live channel it asks the same again, and the engine that it asks first is
that of the replacement. Without one it asks no engine, and the lookup fails: it is closed, unless the attempt
has asked the platform again. Only the auxiliary lookup of an address fails, as a failure of that family. -/
theorem teardown_hidden {s : State} (honestly : HonestlyReachable s) {id : Nat} {call : Call}
    (called : (s.history id).call = some call) {i : Nat} {t : Trial}
    (found : (s.history id).trials[i]? = some t) {query : EngineQuery}
    (torn : Reply.engine query (.error .destruction) ∈ t.replies) :
    (call.isAuxiliary query = false → ∃ next, (s.history id).trials[i + 1]? = some next ∧
      t.ending = some (next.start, .error (query.toError .destruction)) ∧ next.start ≠ t.start ∧
      (next.start ≠ none → next.lookup? = t.lookup?) ∧
      (∀ channel, next.channels.head? = some channel → next.start = some (channel + 1)) ∧
      (next.start = none → next.channels = [] ∧ i + 2 = (s.history id).trials.length ∧
        ((s.history id).conclusion = some (.error .closed) ∨
          (∃ endpoint flags, call = .nameInfo endpoint flags) ∧
            (∃ query, next.lookup? = some (.inl query)) ∧
            ∀ result, (s.history id).conclusion = some result → ∃ e, result = .error e))) ∧
    (call.isAuxiliary query = true → i + 1 = (s.history id).trials.length ∧
      (s.history id).conclusion = some (.error (.ofAddressCode AddressCode.fail))) := by
  have reachable := honestly.reachable
  have lawful := reachable.lawful called
  have member := List.mem_of_getElem? found
  have heeded : t.Heeded call :=
    lawful.each (fun _ _ past => past.heeded) (fun _ _ last => last.heeded) t member
  have legal : ∀ text, Fault.destruction ≠ .invalidIp text := fun text => by simp
  obtain ⟨family, finish, ended⟩ := heeded query .destruction legal torn
  refine ⟨?_, ?_⟩
  · intro own
    have kind : (query.toError .destruction).kind = call.family :=
      (query.kind_toError legal).trans (family own)
    have stale : t.Stale call := by
      by_contra settled
      obtain ⟨-, -, unchanged⟩ := lawful.final found ended settled
      exact honestly.severed id t member query torn (unchanged _ rfl kind).2
    have more := (lawful.followed_iff found).mpr stale
    obtain ⟨next, after⟩ : ∃ next, (s.history id).trials[i + 1]? = some next :=
      ⟨_, List.getElem?_eq_getElem more⟩
    obtain ⟨result, same⟩ := lawful.precedes found after
    rw [ended, Option.some.injEq, Prod.mk.injEq] at same
    obtain ⟨rfl, rfl⟩ := same
    obtain ⟨other, e, again, -, moved⟩ := stale
    rw [ended, Option.some.injEq, Prod.mk.injEq] at again
    obtain ⟨rfl, -⟩ := again
    refine ⟨next, after, ended, moved, ?_, ?_, ?_⟩
    · exact lawful.asks_again found ⟨_, _, ended, kind, moved⟩ after
    · exact reachable.faithful (List.mem_of_getElem? after)
    · exact lawful.gives_up found ⟨_, _, ended, kind, moved⟩ after
  · intro auxiliary
    cases call with
    | hostByAddress host =>
      cases query with
      | addressInfo asked =>
        have settled : ¬ t.Stale (.hostByAddress host) := by
          rintro ⟨other, e, again, kind, -⟩
          rw [ended, Option.some.injEq, Prod.mk.injEq] at again
          rw [← Except.error.inj again.2] at kind
          contradiction
        obtain ⟨last, concluded, -⟩ := lawful.final found ended settled
        exact ⟨last, concluded⟩
      | _ => contradiction
    | _ => contradiction

theorem forkedEntry_honest :
    HonestlyReachable (run plain forkedEntry) := by
  refine HonestlyReachable.run reached_plain ?_
  simp [forkedEntry, Event.Honest, Reaction.reply?]

theorem teardown_hidden_after_fork :
    ∃ next, ((run plain forkedEntry).history 0).trials[1]? =
      some next ∧ next.start ≠ some 1 := by
  have found : ((run plain forkedEntry).history 0).trials[0]? =
      some
        { start := some 1
          issues := [.engine 0 (.hostByName [119, 119, 119] .unspec)]
          replies := [.engine (.hostByName [119, 119, 119] .unspec) (.error .destruction)]
          changes := 1
          ending := some (some 2, .error (.ofHostCode HostCode.noRecovery)) } := rfl
  obtain ⟨again, -⟩ := teardown_hidden forkedEntry_honest rfl found (List.mem_singleton.mpr rfl)
  obtain ⟨next, after, -, moved, -⟩ := again rfl
  exact ⟨next, after, moved⟩

def forkedAuxiliary : List Event :=
  [.start (.hostByAddress (.bytes [119, 119, 119])), .poll 0,
    .answerEngine (.complete fun _ => .error (.invalidIp "www")), .answerEngine .hold, .setPid 2, .reinit,
    .turn, .turn, .poll 0]

def closedLocal : List Event :=
  [.start (.nameInfo ⟨.bytes [108, 111, 99, 97, 108, 104, 111, 115, 116], 80, none, none⟩ 0), .poll 0,
    .answerNative fun
      | .addressInfo .. => .ok [⟨.inet, .datagram, .udp, "", .v4 ⟨127, 0, 0, 1⟩ 80⟩]
      | .hostByName _ => .error .closed,
    .answerEngine .hold, .close, .turn, .poll 0, .answerNative fun _ => .error (.system "down")]

/-- The teardown shows where it meets the auxiliary lookup, though a channel is live; and where none is live, a
lookup that asks the platform again fails as the platform does. -/
theorem teardown_shown :
    (HonestlyReachable (run plain forkedAuxiliary) ∧ (run plain forkedAuxiliary).slot = some ⟨2, 1⟩ ∧
      ((run plain forkedAuxiliary).history 0).call = some (.hostByAddress (.bytes [119, 119, 119])) ∧
      ∃ t ∈ ((run plain forkedAuxiliary).history 0).trials, ∃ query,
        Reply.engine query (.error .destruction) ∈ t.replies ∧
        ((run plain forkedAuxiliary).history 0).conclusion = some (.error (query.toError .destruction))) ∧
    HonestlyReachable (run plain closedLocal) ∧ (run plain closedLocal).slot = none ∧
      (∃ t ∈ ((run plain closedLocal).history 0).trials, ∃ query,
        Reply.engine query (.error .destruction) ∈ t.replies) ∧
      ((run plain closedLocal).history 0).conclusion = some (.error (.system "down")) := by
  refine ⟨⟨?_, rfl, rfl, ?_⟩, ?_, rfl, ?_, rfl⟩
  · refine HonestlyReachable.run reached_plain ?_
    simp [forkedAuxiliary, Event.Honest, Reaction.reply?]
  · refine ⟨_, List.mem_of_getElem? (i := 0) rfl, .addressInfo ⟨[119, 119, 119], none, .unspec,
      some .datagram, .any, 0⟩, ?_, rfl⟩
    exact List.mem_of_getElem? (i := 1) rfl
  · refine HonestlyReachable.run reached_plain ?_
    simp [closedLocal, Event.Honest, Reaction.reply?]
  · refine ⟨_, List.mem_of_getElem? (i := 0) rfl, .nameInfo (.v4 ⟨127, 0, 0, 1⟩ 80) 0, ?_⟩
    exact List.mem_of_getElem? (i := 1) rfl

end HostLookup.Resolver
