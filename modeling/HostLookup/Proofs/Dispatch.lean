import HostLookup.Proofs.Coherence
import HostLookup.Proofs.Journal
import HostLookup.Proofs.Ownership

/-! Where the queries go. A step makes one query at most, and the poll stops at it; an engine is only asked
while its channel is in the slot. -/
namespace HostLookup.Resolver

/-- What a step may do about queries: nothing, or one query at which the poll stops. -/
inductive Asks (s t : State) : Prop
  | nothing (issues : t.issues = s.issues) (busy : t.busy = s.busy ∨ t.busy = none)
  | query {id : Nat} {request : Request} (issues : t.issues = s.issues ++ [(id, request.issue)])
      (busy : t.busy = some (id, request))
      (live : ∀ channel, request.issue.channel? = some channel → t.channel? = some channel)

namespace Asks

variable {s t u : State} {id : Nat}

theorem of_quiet (asks : Asks t u) (issues : t.issues = s.issues) (busy : t.busy = s.busy) :
    Asks s u := by
  cases asks with
  | nothing later stops => exact .nothing (later.trans issues) (busy ▸ stops)
  | query later stops live => exact .query (issues ▸ later) stops live

theorem refl (s : State) : Asks s s :=
  .nothing rfl (Or.inl rfl)

theorem of_still (quiet : Quiet s t) : Asks s t :=
  .nothing quiet.issues (Or.inl quiet.busy)

theorem note (s : State) (id : Nat) {note : Note} (quiet : (Entry.task id note).issue? = none)
    (asks : Asks (s.note id note) u) : Asks s u := by
  refine asks.of_quiet ?_ rfl
  simp [State.issues, State.note, quiet]

theorem of_goes (goes : Goes id s t) : Asks s t := by
  induction goes with
  | @stops s request live =>
    refine .query ?_ rfl live
    simp [State.issues, State.ask, State.note, Entry.issue?]
  | @concludes s result =>
    refine .nothing ?_ (Or.inr rfl)
    simp [State.issues, State.conclude, State.note, Entry.issue?]
  | begins rest ih => exact note _ id rfl ih
  | ends rest ih => exact note _ id rfl ih

theorem poll (s : State) (id : Nat) : Asks s (s.poll id) := by
  unfold State.poll
  dsimp only
  split
  · exact .nothing rfl (Or.inl rfl)
  · split
    · exact .nothing rfl (Or.inl rfl)
    · split
      · exact (of_goes (.follow _ id _)).of_quiet rfl rfl
      · exact (note _ id rfl (of_goes (.resume _ id _ _ _))).of_quiet rfl rfl
      · exact .nothing rfl (Or.inl rfl)

theorem answerNative (s : State) (reply : NativeReply) : Asks s (s.answerNative reply) := by
  unfold State.answerNative
  split
  · exact note s _ rfl (of_goes (.follow _ _ _))
  · exact note s _ rfl (of_goes (.resume _ _ _ _ _))
  · exact refl s

theorem answerEngine (s : State) (reaction : Reaction) : Asks s (s.answerEngine reaction) := by
  unfold State.answerEngine
  split
  · split
    · exact note s _ rfl (of_goes (.resume _ _ _ _ _))
    · exact .nothing rfl (Or.inr rfl)
  · exact refl s

end Asks

theorem asks_act (s : State) (event : Event) : Asks s (act s event) := by
  cases goes : event.goesOn with
  | false => exact .of_still (quiet_act s goes)
  | true =>
    cases event with
    | poll task =>
      rcases act_poll s task with same | ⟨-, -, polled⟩
      · exact same.symm ▸ .refl s
      · exact polled.symm ▸ .poll s task
    | answerNative reply => exact .answerNative s reply
    | answerEngine reaction => exact .answerEngine s reaction
    | _ => contradiction

theorem asks_step (s : State) (event : Event) : Asks s (step s event) := by
  unfold step State.settleOwner
  have asks := asks_act s event
  split
  · next free =>
    cases asks with
    | nothing issues busy =>
      have quiet := Quiet.manage (act s event) Lifecycle.close
      exact .nothing (quiet.issues.trans issues) (busy.imp quiet.busy.trans quiet.busy.trans)
    | query issues busy live => simp [busy] at free
  · exact asks

variable {s : State}

theorem Lifecycle.Custody.dispatched {l : Lifecycle} (custody : l.Custody) {channel : Nat}
    (live : l.channel? = some channel) :
    l.slot = some ⟨channel + 1, channel⟩ ∧ l.created.length = channel + 1 ∧
      (∀ g ∈ l.generations, g ≤ channel + 1) ∧ l.teardowns channel = 0 := by
  obtain ⟨⟨generation, _⟩, found, rfl⟩ := Option.map_eq_some_iff.mp live
  obtain ⟨given, newest⟩ := custody.newest _ found
  dsimp only at given newest live ⊢
  refine ⟨by rw [found, given], custody.length_created.trans newest.symm, ?_, ?_⟩
  · intro g member
    rw [custody.generations, List.mem_range'_1] at member
    omega
  · rw [custody.teardowns, if_neg]
    exact fun ⟨_, out⟩ => out live

theorem Reachable.asked (reachable : Reachable s) {id channel : Nat} {loop : Loop}
    {generation : Option Nat} {query : EngineQuery} {next : Except Fault query.Answer → Attempt}
    (busy : s.busy = some (id, .engine loop generation channel query next)) :
    s.timesDestroyed channel = 0 := by
  induction reachable generalizing id channel loop generation query next with
  | built clear ok =>
    obtain ⟨-, config, rfl⟩ := build_eq ok
    contradiction
  | @step s event before _ ih =>
    cases asks_step s event with
    | nothing issues stops =>
      rcases stops with same | idle
      · rw [same] at busy
        by_contra torn
        have untorn := ih busy
        -- Only a callback of the hub tears down, and none runs while a poll has stopped.
        obtain ⟨-, idle, -⟩ := timesDestroyed_step (by rw [untorn]; exact torn)
        simp [idle] at busy
      · simp [idle] at busy
    | query issues stops live =>
      rw [busy, Option.some.injEq, Prod.mk.injEq] at stops
      obtain ⟨-, rfl⟩ := stops
      have custody := (Reachable.step (Reached.reachable before) event).custody
      have := (custody.dispatched (live channel rfl)).2.2.2
      simp only [Lifecycle.teardowns] at this
      omega

theorem Reachable.issued (reachable : Reachable s) {id channel : Nat} {issue : Issue}
    (issued : (id, issue) ∈ s.issues) (asked : issue.channel? = some channel) :
    channel < s.created.length := by
  induction reachable with
  | built clear ok =>
    obtain ⟨-, config, rfl⟩ := build_eq ok
    contradiction
  | @step s event before _ ih =>
    have custody := (Reached.reachable before).custody
    have after := ((Reached.reachable before).step event).custody
    have more : s.created.length ≤ (Resolver.step s event).created.length := by
      have grows := nextGeneration_step s event
      rw [custody.next, after.next] at grows
      rw [custody.length_created, after.length_created]
      omega
    cases asks_step s event with
    | nothing issues stops =>
      rw [issues] at issued
      exact (ih issued).trans_le more
    | query issues stops live =>
      rw [issues] at issued
      rcases List.mem_append.mp issued with earlier | latest
      · exact (ih earlier).trans_le more
      · obtain ⟨-, rfl⟩ := Prod.mk.inj (List.mem_singleton.mp latest)
        have := (after.dispatched (live channel asked)).2.1
        omega

/-- A query for an engine goes to the channel in the slot, which is the newest one, and no teardown of which is
queued or has run; none runs before the engine has reacted. The first channel that an attempt asks is that of
the generation at its begin. -/
theorem dispatch_live (reachable : Reachable s) :
    (∀ event, (step s event).issues = s.issues ∨ ∃ id request,
      (step s event).issues = s.issues ++ [(id, request.issue)] ∧
      (step s event).busy = some (id, request) ∧
      ∀ channel, request.issue.channel? = some channel →
        (step s event).slot = some ⟨channel + 1, channel⟩ ∧
        (step s event).created.length = channel + 1 ∧
        (∀ g ∈ (step s event).generations, g ≤ channel + 1) ∧
        (step s event).teardowns channel = 0) ∧
    (∀ id request channel, s.busy = some (id, request) → request.issue.channel? = some channel →
      s.timesDestroyed channel = 0) ∧
    ∀ id, ∀ t ∈ (s.history id).trials, ∀ channel, t.channels.head? = some channel →
      t.start = some (channel + 1) ∧ s.generations[channel]? = t.start := by
  refine ⟨?_, ?_, ?_⟩
  · intro event
    cases asks_step s event with
    | nothing issues stops => exact Or.inl issues
    | query issues stops live =>
      refine Or.inr ⟨_, _, issues, stops, ?_⟩
      exact fun channel asked => (reachable.step event).custody.dispatched (live channel asked)
  · intro id request channel busy asked
    cases request with
    | plan query next => contradiction
    | native loop generation query next => contradiction
    | engine loop generation other query next =>
      obtain rfl := Option.some.inj asked
      exact reachable.asked busy
  · intro id t member channel first
    obtain ⟨issue, issued, asked⟩ := List.mem_filterMap.mp (List.mem_of_mem_head? first)
    have created := reachable.issued (State.mem_issues_of_history member issued) asked
    have start := reachable.faithful member channel first
    refine ⟨start, ?_⟩
    have custody := reachable.custody
    rw [custody.length_created] at created
    rw [start, custody.generations, List.getElem?_range' created]
    simp [Nat.add_comm]

theorem dispatch_live_closed :
    (run plain
      [.start (.hostEntry (.bytes [119, 119, 119]) .unspec), .poll 0, .close]).timesDestroyed 0 = 0 := by
  obtain ⟨-, untorn, -⟩ := dispatch_live (Reachable.run reached_plain
    [.start (.hostEntry (.bytes [119, 119, 119]) .unspec), .poll 0, .close])
  exact untorn 0 _ 0 rfl rfl

end HostLookup.Resolver
