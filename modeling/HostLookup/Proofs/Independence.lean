import HostLookup.Proofs.Calm

/-! Lookups do not interfere. While the process number stays and nobody closes the resolver, a lookup does what
it would do if it ran alone and got the same replies. -/
namespace HostLookup.Resolver

variable {s s₀ : State} {id : Nat}

theorem State.signal_of_ready (ready : ∀ task ∈ s.tasks, task.id = id → .task id ∈ s.ready)
    (reply : EngineReply) : s.signal id reply = s.updateTask id (State.receive reply) := by
  unfold State.signal
  split
  · next missing =>
    have others : ∀ task ∈ s.tasks, task.id ≠ id := fun task member => by
      simpa using List.find?_eq_none.mp missing task member
    have same : (s.tasks.map fun task => if task.id = id then State.receive reply task else task) = s.tasks :=
      (List.map_congr_left fun task member => if_neg (others task member)).trans (List.map_id' _)
    rw [State.updateTask, same]
  · next task found =>
    obtain ⟨member, own⟩ := State.task?_some found
    exact if_pos (ready task member own)

theorem deliver_to_cancelled (reachable : Reachable s)
    (cancelled : ∀ task ∈ s.tasks, task.id = id → task.cancelled = true) (reply : EngineReply) :
    step s (.deliver id reply) = s ∨ ∃ completion ∈ s.held, completion.task = id ∧
      step s (.deliver id reply) =
        State.updateTask { s with held := s.held.erase completion } id (State.receive reply) := by
  have ready : ∀ task ∈ s.tasks, task.id = id → .task id ∈ s.ready := fun task member own =>
    own ▸ reachable.awake.ready task member (Or.inl (cancelled task member own))
  unfold step act State.deliver
  dsimp only
  split
  · exact Or.inl (reachable.settleOwner_eq rfl rfl fun unused => unused)
  · next completion found =>
    have owner : completion.task = id := by simpa using List.find?_some found
    refine Or.inr ⟨completion, List.mem_of_find?_eq_some found, owner, ?_⟩
    rw [State.signal_of_ready]
    · exact reachable.settleOwner_eq rfl rfl fun ⟨released, gone, idle⟩ =>
        ⟨released, List.map_eq_nil_iff.mp gone, idle⟩
    · exact ready

def Reply.answer : Reply → Event
  | .native query reply =>
    .answerNative fun other => if same : query = other then same ▸ reply else .error default
  | .engine query reply =>
    .answerEngine (.complete fun other => if same : query = other then same ▸ reply else lost other)

/-- One lookup on a new resolver, with each reply given at once. -/
def alone (call : Call) (replies : List Reply) : List Event :=
  .start call :: .poll 0 :: replies.map Reply.answer

/-- The only lookup has heard the replies in `done`, and follows `transcript`. -/
structure Alone (call : Call) (transcript : List Reply → List Note) (done : List Reply) (s : State) : Prop where
  tasks : s.tasks = []
  unreleased : s.released = false
  stops : s.remainder 0 [] = []
  follows : ∃ new, s.notes 0 = .started call :: new ∧ heard new = done ∧
    ∀ replies, transcript (done ++ replies) = new ++ s.remainder 0 replies

theorem hears_answer {request : Request} {reply : Reply} {more : List Reply} (away : s.task? id = none)
    (busy : s.busy = some (id, request)) (fits : request.remainder s.slot (reply :: more) ≠ []) :
    Only s (act s reply.answer) id ∧ ∃ rest, Leads (s.notes id ++ [.heard reply]) (act s reply.answer) id rest ∧
      ∀ replies, request.remainder s.slot (reply :: replies) = .heard reply :: rest replies := by
  cases request with
  | plan query next =>
    cases answers : reply.native? query with
    | none => simp [Request.remainder, NativeQuery.hear, answers] at fits
    | some answer =>
      obtain rfl := Reply.eq_native answers
      have acted : act s (Reply.native query answer).answer =
          (s.note id (.heard (.native query answer))).follow id (next answer) := by
        simp [act, Reply.answer, State.answerNative, busy]
      rw [acted]
      exact ⟨(Goes.follow _ id _).only_heard, _, Leads.follow_heard away _ _, query.hear_self answer _⟩
  | native loop start query next =>
    cases answers : reply.native? query with
    | none => simp [Request.remainder, NativeQuery.hear, answers] at fits
    | some answer =>
      obtain rfl := Reply.eq_native answers
      have acted : act s (Reply.native query answer).answer =
          (s.note id (.heard (.native query answer))).resume id loop start (next answer) := by
        simp [act, Reply.answer, State.answerNative, busy]
      rw [acted]
      exact ⟨(Goes.resume _ id _ _ _).only_heard, _, Leads.resume_heard away _ _ _ _, query.hear_self answer _⟩
  | engine loop start channel query next =>
    cases answers : reply.engine? query with
    | none => simp [Request.remainder, EngineQuery.hear, answers] at fits
    | some answer =>
      obtain rfl := Reply.eq_engine answers
      have acted : act s (Reply.engine query answer).answer =
          (s.note id (.heard (.engine query answer))).resume id loop start (next answer) := by
        simp [act, Reply.answer, State.answerEngine, Reaction.reply?, busy]
      rw [acted]
      exact ⟨(Goes.resume _ id _ _ _).only_heard, _, Leads.resume_heard away _ _ _ _, query.hear_self answer _⟩

theorem settleOwner_unreleased (unreleased : s.released = false) : s.settleOwner = s := by
  rcases settleOwner_unused s with same | ⟨released, -⟩
  · exact same
  · simp [unreleased] at released

namespace Alone

variable {call : Call} {transcript : List Reply → List Note} {done : List Reply}

theorem hear {reply : Reply} {more : List Reply} (alone : Alone call transcript done s)
    (whole : heard (transcript (done ++ reply :: more)) = done ++ reply :: more) :
    Alone call transcript (done ++ [reply]) (step s reply.answer) := by
  obtain ⟨new, noted, before, follows⟩ := alone.follows
  have away : s.task? 0 = none := by rw [State.task?, alone.tasks, List.find?_nil]
  have ahead : heard (s.remainder 0 (reply :: more)) = reply :: more := by
    rw [follows, heard_append, before] at whole
    exact List.append_cancel_left whole
  -- More is to be heard, so the poll has stopped at a query, and the reply fits it.
  obtain ⟨request, busy⟩ : ∃ request, s.busy = some (0, request) := by
    by_contra others
    have gone : s.place? 0 = none := by
      rw [State.place?_of_others fun request busy => others ⟨request, busy⟩, away, Option.map_none]
    rw [State.remainder_of_none gone] at ahead
    contradiction
  have stands : s.remainder 0 = request.remainder s.slot :=
    State.remainder_of_place (State.place?_busy away busy)
  rw [stands] at ahead
  obtain ⟨only, rest, ⟨further, noted_after, unheard, stops, onward⟩, takes⟩ :=
    hears_answer away busy fun nothing => by rw [nothing] at ahead; contradiction
  have unreleased := only.released.trans alone.unreleased
  rw [step, settleOwner_unreleased unreleased]
  refine ⟨only.tasks.trans alone.tasks, unreleased, stops, new ++ .heard reply :: further, ?_, ?_, ?_⟩
  · rw [noted_after, noted, List.append_assoc]
    rfl
  · have one : heard (.heard reply :: further) = [reply] := congrArg (reply :: ·) unheard
    rw [heard_append, before, one]
  · intro replies
    rw [List.append_assoc, List.singleton_append, follows, stands, takes, onward, List.append_assoc]
    rfl

theorem run {more : List Reply} (alone : Alone call transcript done s)
    (whole : heard (transcript (done ++ more)) = done ++ more) :
    Alone call transcript (done ++ more) (run s (more.map Reply.answer)) := by
  induction more generalizing done s with
  | nil =>
    rw [List.append_nil]
    exact alone
  | cons reply more ih =>
    have next := alone.hear whole
    rw [List.append_cons] at whole ⊢
    exact ih next whole

theorem notes (alone : Alone call transcript done s) : s.notes 0 = .started call :: transcript done := by
  obtain ⟨new, noted, -, follows⟩ := alone.follows
  have all := follows []
  rw [List.append_nil, alone.stops, List.append_nil] at all
  rw [noted, all]

theorem start (config : Config) (hub : Hub Callback) (call : Call) :
    Alone call ((call.plan config.convention).transcript (initial config hub).slot) []
      (Resolver.run (initial config hub) [.start call, .poll 0]) := by
  let waiting : State := { initial config hub with nextTask := 1, journal := [.task 0 (.started call)] }
  have polled : Resolver.run (initial config hub) [.start call, .poll 0] =
      (waiting.follow 0 (call.plan config.convention)).settleOwner := rfl
  have only := (Goes.follow waiting 0 (call.plan config.convention)).only
  have away : waiting.task? 0 = none := rfl
  obtain ⟨new, noted, unheard, stops, follows⟩ := Leads.follow away (call.plan config.convention)
  rw [polled, settleOwner_unreleased only.released]
  exact ⟨only.tasks, only.released, stops, new, noted, unheard, follows⟩

end Alone

/-- Lookups do not interfere. While the process number stays and nobody closes the resolver, whatever else
happens, a lookup hears the replies that were given to it; and what it has asked and what has come of it are as
when its call is made alone and those are the replies. A reply to a lookup that was cancelled changes no other
lookup, and nothing of the resolver. -/
theorem lookups_independent {builder : Builder} {obstacle : Option LookupError} {hub : Hub Callback}
    {events : List Event} (clear : hub.IsClear) (ok : builder.build obstacle hub = .ok s₀)
    (calm : ∀ event ∈ events, event.Stays hub.livePid ∧ event ≠ .close) :
    let s := run s₀ events
    (∀ id < s.nextTask, Heard (given s₀ id events) s id ∧
      ∃ call, (calls events)[id]? = some call ∧ (s.notes id = [.started call] ∨
        s.notes id = (run s₀ (alone call (heard (s.notes id)))).notes 0)) ∧
    ∀ id reply, (∀ task ∈ s.tasks, task.id = id → task.cancelled = true) →
      step s (.deliver id reply) = s ∨ ∃ completion ∈ s.held, completion.task = id ∧
        step s (.deliver id reply) =
          State.updateTask { s with held := s.held.erase completion } id (State.receive reply) := by
  intro s
  have reachable : Reachable s₀ := .built clear ok
  obtain ⟨steadily, -, gets⟩ := calm_run clear ok calm
  have numbered := Numbered.run clear ok events
  refine ⟨fun id inside => ⟨gets id, ?_⟩, fun id reply cancelled => ?_⟩
  · obtain ⟨-, config, rfl⟩ := build_eq ok
    obtain ⟨call, along⟩ := steadily.along_started reachable (Nat.zero_le id) inside
    obtain ⟨new, noted, whole⟩ := along.notes
    obtain ⟨own, called, rest, started⟩ := numbered.call id inside
    rw [noted, List.singleton_append, List.singleton_append, List.cons.injEq, Note.started.injEq] at started
    refine ⟨call, started.1 ▸ called, whole.imp (fun nothing => by rw [noted, nothing]; rfl) fun follows => ?_⟩
    -- The transcript hears all of these replies, so alone the lookup comes to its end with them.
    have alone := (Alone.start config hub call).run (congrArg heard follows).symm
    rw [noted]
    exact (congrArg (_ :: ·) follows).trans alone.notes.symm
  · exact deliver_to_cancelled (reachable.run events) cancelled reply

def interleaved : List Event :=
  [.start (.hostEntry (.bytes [119, 119, 119]) .unspec), .start (.hostEntry (.bytes [110, 115]) .unspec),
    .poll 1, .answerEngine .hold, .poll 0, .answerEngine .hold, .cancel 1,
    .deliver 0 fun _ => .error .notFound, .poll 0]

theorem lookups_independent_interleaved :
    let s := run plain interleaved
    s.notes 0 = (run plain (alone (.hostEntry (.bytes [119, 119, 119]) .unspec) (heard (s.notes 0)))).notes 0 ∧
      (step s (.deliver 1 lost)).slot = s.slot := by
  have ok : Builder.build { useEnvironment := false } none (Hub.create 1) = .ok plain := rfl
  obtain ⟨follows, spares⟩ := lookups_independent (Hub.isClear_create 1) ok
    (by simp [interleaved, Event.Stays] : ∀ event ∈ interleaved, event.Stays 1 ∧ event ≠ .close)
  refine ⟨?_, ?_⟩
  · obtain ⟨-, call, called, noted⟩ := follows 0 (by decide)
    obtain rfl := Option.some.inj called
    rcases noted with waits | same
    · exact absurd (congrArg List.length waits) (by decide)
    · exact same
  · rcases spares 1 lost (List.forall_mem_singleton.mpr fun _ => rfl) with same | ⟨completion, -, -, same⟩
    · rw [same]
    · rw [same]
      rfl

end HostLookup.Resolver
