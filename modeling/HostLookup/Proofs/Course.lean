import HostLookup.Proofs.Plans
import HostLookup.Proofs.Reachable
import Mathlib.Data.List.Chain

/-! The course of a lookup: attempts that are alike, each but the last of which failed on a channel that was
replaced under it. What holds of the attempt under way is enough to go on from, whatever the answer. -/
namespace HostLookup.Resolver

namespace Trial

def Faithful (t : Trial) : Prop :=
  ∀ channel, t.channels.head? = some channel → t.start = some (channel + 1)

/-- Where no channel was live at the begin, none is at the end, and the attempt fails. -/
def Unserved (first : Option Lookup) (t : Trial) : Prop :=
  t.start = none → ∀ finish result, t.ending = some (finish, result) →
    finish = none ∧ (∃ e, result = .error e) ∧
      (t.lookup? = none → first ≠ none → result = .error .closed)

/-- A fault that was heard has ended the attempt, unless it was an illegal address. -/
def Heeded (call : Call) (t : Trial) : Prop :=
  ∀ query fault, (∀ text, fault ≠ .invalidIp text) → Reply.engine query (.error fault) ∈ t.replies →
    (call.isAuxiliary query = false → query.family = call.family) ∧
      ∃ finish, t.ending = some (finish, .error (query.toError fault))

def Heeds (call : Call) (rest : Attempt) (t : Trial) : Prop :=
  ∀ query fault, (∀ text, fault ≠ .invalidIp text) → Reply.engine query (.error fault) ∈ t.replies →
    (call.isAuxiliary query = false → query.family = call.family) ∧
      rest = .finish (.error (query.toError fault))

def Precedes (t next : Trial) : Prop :=
  ∃ result, t.ending = some (next.start, result)

/-- Each attempt precedes the one after it; `start` is for the next one. -/
structure Chained (past : List Trial) (start : Option Nat) : Prop where
  chain : past.IsChain Precedes
  latest : ∀ t ∈ past.getLast?, ∃ result, t.ending = some (start, result)

structure Past (call : Call) (first : Option Lookup) (t : Trial) : Prop where
  stale : ∃ finish result, t.ending = some (finish, result) ∧
    isStale call.family t.start finish result = true
  changes : t.changes ≠ 0
  lookup : first ≠ none ∧ t.lookup? = first
  faithful : t.Faithful
  unserved : t.Unserved first
  heeded : t.Heeded call

structure Current (l : Lifecycle) (call : Call) (first : Option Lookup) (generation : Option Nat)
    (rest : Attempt) (t : Trial) : Prop where
  start : t.start = generation
  ending : t.ending = none
  changes : t.changes = 0 ↔ l.generation = generation
  bound : ∀ g, generation = some g → g < l.nextGeneration
  lookup : first ≠ none ∧ t.lookup? = first
  faithful : t.Faithful
  heeds : t.Heeds call rest

structure Last (call : Call) (first : Option Lookup) (conclusion : Option Result) (t : Trial) :
    Prop where
  unfinished : t.ending = none → conclusion = none ∧ first ≠ none ∧ t.lookup? = first
  finished : ∀ finish result, t.ending = some (finish, result) →
    isStale call.family t.start finish result = false ∧ (t.changes = 0 ↔ finish = t.start) ∧
      conclusion = some (call.finish result)
  lookup : t.lookup? = first ∨ t.lookup? = none ∧ (first ≠ none → t.start = none)
  faithful : t.Faithful
  unserved : t.Unserved first
  heeded : t.Heeded call

/-- Nothing was asked of an engine yet: the channel of the begin is live or none is, and what is left of the
attempt cannot do without one. -/
def Unsent (l : Lifecycle) (generation : Option Nat) (rest : Attempt) (t : Trial) : Prop :=
  t.channels = [] → (l.generation = none ∨ l.generation = generation) ∧ rest.NeedsEngine

end Trial

namespace History

structure Idle (call : Call) (h : History) : Prop where
  called : h.call = some call
  conclusion : h.conclusion = none
  trials : h.trials = []

structure Between (call : Call) (first : Option Lookup) (start : Option Nat) (h : History) :
    Prop where
  called : h.call = some call
  conclusion : h.conclusion = none
  past : ∀ t ∈ h.trials, t.Past call first
  chained : Trial.Chained h.trials start

structure Under (l : Lifecycle) (call : Call) (loop : Loop) (generation : Option Nat) (rest : Attempt)
    (extra : Trial → Prop) (h : History) : Prop where
  called : h.call = some call
  conclusion : h.conclusion = none
  serves : Serves call loop
  orderly : rest.Orderly call
  trials : ∃ past last, h.trials = past ++ [last] ∧ (∀ t ∈ past, t.Past call loop.body.lookup?) ∧
    Trial.Chained past generation ∧ last.Current l call loop.body.lookup? generation rest ∧ extra last

/-- The attempts are alike, and each but the last one failed on a channel that was replaced. -/
def Lawful (call : Call) (h : History) : Prop :=
  h.trials = [] ∨ ∃ first past last, h.trials = past ++ [last] ∧
    (∀ query, first = some (.inl query) → ∃ endpoint flags, call = .nameInfo endpoint flags) ∧
    (∀ t ∈ past, t.Past call first) ∧ Trial.Chained past last.start ∧
    last.Last call first h.conclusion

end History

def Awaits (l : Lifecycle) (h : History) : Request → Prop
  | .plan _ next => ∃ call, h.Idle call ∧ ∀ reply, (next reply).All (Serves call)
  | .native loop generation query next => ∃ call,
      h.Under l call loop generation (.native query next) (Trial.Unsent l generation (.native query next))
  | .engine loop generation _ query next => ∃ call,
      h.Under l call loop generation (.engine query next) fun t => t.channels ≠ []

def Stands (l : Lifecycle) (h : History) : Stage → Prop
  | .fresh call => h.Idle call
  | .waiting loop generation query next _ => ∃ call,
      h.Under l call loop generation (.engine query next) fun t => t.channels ≠ []

def Comes (s : State) (id : Nat) : Prop :=
  (∃ request, s.busy = some (id, request) ∧ Awaits s.toLifecycle (s.history id) request) ∨
    s.busy = none ∧ ∃ call, (s.history id).call = some call ∧ (s.history id).Lawful call

namespace Trial

theorem Chained.nil (start : Option Nat) : Chained [] start :=
  ⟨.nil, by simp⟩

theorem Chained.isChain {past : List Trial} {t : Trial} (chained : Chained past t.start) :
    (past ++ [t]).IsChain Precedes := by
  refine List.isChain_append.mpr ⟨chained.chain, .singleton t, ?_⟩
  intro latest found next same
  obtain rfl : t = next := by simpa using same
  exact chained.latest latest found

theorem Chained.snoc {past : List Trial} {t : Trial} {finish : Option Nat} {result : Result}
    (chained : Chained past t.start) (ended : t.ending = some (finish, result)) :
    Chained (past ++ [t]) finish :=
  ⟨chained.isChain, by simp [ended]⟩

theorem Faithful.channels_of_none {t : Trial} (faithful : t.Faithful) (empty : t.start = none) :
    t.channels = [] := by
  cases channels : t.channels with
  | nil => rfl
  | cons channel more =>
    have start := faithful channel (by rw [channels, List.head?_cons])
    rw [empty] at start
    contradiction

theorem Current.channels_of_none {l : Lifecycle} {call : Call} {first : Option Lookup}
    {generation : Option Nat} {rest : Attempt} {t : Trial}
    (current : t.Current l call first generation rest)
    (empty : generation = none) : t.channels = [] :=
  current.faithful.channels_of_none (current.start.trans empty)

theorem Heeds.heeded {call : Call} {t : Trial} {rest : Attempt} (heeds : t.Heeds call rest)
    (more : ∀ result, rest ≠ .finish result) : t.Heeded call :=
  fun query fault legal heard => absurd (heeds query fault legal heard).2 (more _)

end Trial

theorem History.Under.lawful {l : Lifecycle} {call : Call} {loop : Loop} {generation : Option Nat}
    {rest : Attempt} {extra : Trial → Prop} {h : History}
    (under : h.Under l call loop generation rest extra) (more : ∀ result, rest ≠ .finish result) :
    h.Lawful call := by
  obtain ⟨past, last, trials, before, chained, current, -⟩ := under.trials
  refine Or.inr ⟨loop.body.lookup?, past, last, trials, under.serves.native, before,
    current.start ▸ chained, ?_⟩
  refine ⟨fun _ => ⟨under.conclusion, current.lookup⟩, ?_, Or.inl current.lookup.2, current.faithful, ?_,
    current.heeds.heeded more⟩
  · intro finish result ended
    simp [current.ending] at ended
  · intro _ finish result ended
    simp [current.ending] at ended

theorem History.Lawful.each {h : History} {call : Call} (lawful : h.Lawful call) {P : Trial → Prop}
    (past : ∀ first t, Trial.Past call first t → P t)
    (last : ∀ first t, Trial.Last call first h.conclusion t → P t) : ∀ t ∈ h.trials, P t := by
  rcases lawful with nothing | ⟨first, earlier, latest, trials, -, before, -, ends⟩
  · simp [nothing]
  · rw [trials]
    refine List.forall_mem_append.mpr ⟨?_, List.forall_mem_singleton.mpr (last first latest ends)⟩
    exact fun t member => past first t (before t member)

theorem isStale_self (family : ErrorKind) (generation : Option Nat) (result : Result) :
    isStale family generation generation result = false := by
  cases result <;> simp [isStale]

theorem ne_of_isStale {family : ErrorKind} {start finish : Option Nat} {result : Result}
    (stale : isStale family start finish result = true) : finish ≠ start := by
  intro same
  rw [same, isStale_self] at stale
  contradiction

theorem Lifecycle.Custody.generation_lt {l : Lifecycle} (custody : l.Custody) (g : Nat)
    (live : l.generation = some g) : g < l.nextGeneration := by
  obtain ⟨slot, found, rfl⟩ := Option.map_eq_some_iff.mp live
  have := custody.newest slot found
  have := custody.next
  omega

theorem Lifecycle.Custody.generation_eq {l : Lifecycle} (custody : l.Custody) {slot : Slot}
    (live : l.slot = some slot) : l.generation = some (slot.channel + 1) := by
  rw [Lifecycle.generation, live, Option.map_some, (custody.newest slot live).1]

variable {s : State} {id : Nat} {call : Call} {loop : Loop}

namespace State

theorem advance_engine {slot : Slot} (live : s.slot = some slot) (generation : Option Nat)
    (query : EngineQuery) (next : Except Fault query.Answer → Attempt) :
    s.advance loop generation (.engine query next) =
      .inl (.engine loop generation slot.channel query next) := by
  simp [advance, live]

theorem advance_engine_closed (empty : s.slot = none) (generation : Option Nat)
    (query : EngineQuery) (next : Except Fault query.Answer → Attempt) :
    s.advance loop generation (.engine query next) = .inr (.error .closed) := by
  simp [advance, empty]

theorem begin_asks {request : Request} (asks : s.advance loop s.generation loop.body = .inl request) :
    s.begin id loop = (s.note id (.began s.generation)).ask id request := by
  simp [begin, asks]

theorem begin_ends {result : Result} (ends : s.advance loop s.generation loop.body = .inr result) :
    s.begin id loop = ((s.note id (.began s.generation)).note id
      (.ended s.generation result)).conclude id (loop.finish result) := by
  simp [begin, ends]

theorem resume_asks {generation : Option Nat} {attempt : Attempt} {request : Request}
    (asks : s.advance loop generation attempt = .inl request) :
    s.resume id loop generation attempt = s.ask id request := by
  simp [resume, asks]

theorem resume_ends {generation : Option Nat} {attempt : Attempt} {result : Result}
    (ends : s.advance loop generation attempt = .inr result) :
    s.resume id loop generation attempt =
      if isStale loop.family generation s.generation result then
        (s.note id (.ended s.generation result)).begin id loop
      else (s.note id (.ended s.generation result)).conclude id (loop.finish result) := by
  simp [resume, ends]

end State

private theorem begin_ends_lawful {h : History} {generation : Option Nat} {result : Result}
    (between : h.Between call loop.body.lookup? generation) (serves : Serves call loop)
    (failed : generation = none → ∃ e, result = .error e)
    (closed : loop.body.lookup? ≠ none → generation = none ∧ result = .error .closed) :
    (((h.noted (.began generation)).noted (.ended generation result)).noted
      (.concluded (loop.finish result))).Lawful call := by
  refine Or.inr ⟨loop.body.lookup?, h.trials,
    { start := generation, ending := some (generation, result) }, ?_, serves.native, between.past,
    between.chained, ?_⟩
  · simp [History.noted, Trial.noted, List.modifyLast_concat]
  · refine ⟨by simp, ?_, Or.inr ⟨rfl, fun asked => (closed asked).1⟩, ?_, ?_, ?_⟩
    · intro finish other ended
      simp only [Option.some.injEq, Prod.mk.injEq] at ended
      obtain ⟨rfl, rfl⟩ := ended
      exact ⟨isStale_self _ _ _, by simp, by simp [History.noted, serves.finish]⟩
    · intro channel asked
      simp [Trial.channels] at asked
    · intro none finish other ended
      simp only [Option.some.injEq, Prod.mk.injEq] at ended
      obtain ⟨rfl, rfl⟩ := ended
      exact ⟨none, failed none, fun _ asked => (closed asked).2⟩
    · intro query fault _ heard
      contradiction

private theorem begin_asks_under {l : Lifecycle} {h : History} (extra : Trial → Prop) (custody : l.Custody)
    (serves : Serves call loop) (between : h.Between call loop.body.lookup? l.generation) (issue : Issue)
    (first : loop.body.lookup? = some issue.lookup)
    (faithful : ∀ channel, issue.channel? = some channel → l.generation = some (channel + 1))
    (holds : extra { start := l.generation, issues := [issue] }) :
    ((h.noted (.began l.generation)).noted (.asked issue)).Under l call loop l.generation loop.body extra := by
  refine ⟨by simpa [History.noted] using between.called, by simpa [History.noted] using between.conclusion,
    serves, serves.orderly, h.trials, { start := l.generation, issues := [issue] }, ?_, between.past,
    between.chained, ?_, holds⟩
  · simp [History.noted, Trial.noted, List.modifyLast_concat]
  · refine ⟨rfl, rfl, by simp, custody.generation_lt, ?_, ?_, ?_⟩
    · simp [first, Trial.lookup?]
    · intro channel asked
      refine faithful channel ?_
      cases given : issue.channel? with
      | none => simp [Trial.channels, given] at asked
      | some other => simpa [Trial.channels, given] using asked
    · intro query fault _ heard
      contradiction

theorem begin_comes (custody : s.Custody) (serves : Serves call loop)
    (between : (s.history id).Between call loop.body.lookup? s.generation) :
    Comes (s.begin id loop) id := by
  have called : (s.history id).call = some call := between.called
  cases body : loop.body with
  | finish result =>
    rw [State.begin_ends (by rw [body]; rfl)]
    refine Or.inr ⟨rfl, call, by simpa [History.noted] using called, ?_⟩
    simp only [State.history_conclude, State.history_note]
    refine begin_ends_lawful between serves ?_ ?_
    · intro _
      have needs := serves.needsEngine
      rw [body] at needs
      cases needs with
      | finish e => exact ⟨e, rfl⟩
    · intro asked
      simp [body, Attempt.lookup?] at asked
  | native query next =>
    have under := begin_asks_under (Trial.Unsent s.toLifecycle s.generation loop.body) custody serves
      between (.native query) (by rw [body]; rfl) (fun channel asked => by contradiction)
      fun _ => ⟨Or.inr rfl, serves.needsEngine⟩
    rw [body] at under
    rw [State.begin_asks (by rw [body]; rfl)]
    refine Or.inl ⟨_, rfl, call, ?_⟩
    rw [State.history_ask, State.history_note]
    exact under
  | engine query next =>
    cases live : s.slot with
    | none =>
      rw [State.begin_ends (by rw [body, State.advance_engine_closed live])]
      refine Or.inr ⟨rfl, call, by simpa [History.noted] using called, ?_⟩
      simp only [State.history_conclude, State.history_note]
      refine begin_ends_lawful between serves (fun _ => ⟨_, rfl⟩) fun _ => ⟨?_, rfl⟩
      rw [Lifecycle.generation, live, Option.map_none]
    | some slot =>
      have under := begin_asks_under (fun t => t.channels ≠ []) custody serves between
        (.engine slot.channel query) (by rw [body]; rfl) ?_ (by simp [Trial.channels, Issue.channel?])
      · rw [body] at under
        rw [State.begin_asks (by rw [body, State.advance_engine live])]
        refine Or.inl ⟨_, rfl, call, ?_⟩
        rw [State.history_ask, State.history_note]
        exact under
      · intro channel asked
        obtain rfl := Option.some.inj asked
        exact custody.generation_eq live

namespace History.Under

variable {l : Lifecycle} {generation : Option Nat} {rest : Attempt} {extra further : Trial → Prop}
  {h : History}

private theorem heard {left : Attempt} (under : h.Under l call loop generation rest extra)
    (reply : Reply) (more : ∀ result, rest ≠ .finish result) (orderly : left.Orderly call)
    (heeds : ∀ query fault, (∀ text, fault ≠ .invalidIp text) → reply = .engine query (.error fault) →
      (call.isAuxiliary query = false → query.family = call.family) ∧
        left = .finish (.error (query.toError fault)))
    (holds : ∀ t, extra t → further { t with replies := t.replies ++ [reply] }) :
    (h.noted (.heard reply)).Under l call loop generation left further := by
  obtain ⟨past, last, trials, before, chained, current, still⟩ := under.trials
  refine ⟨under.called, under.conclusion, under.serves, orderly, past,
    { last with replies := last.replies ++ [reply] }, ?_, before, chained, ?_, holds last still⟩
  · simp [History.noted, Trial.noted, trials, List.modifyLast_concat]
  · refine ⟨current.start, current.ending, current.changes, current.bound, current.lookup,
      current.faithful, ?_⟩
    intro query fault legal heard
    rcases List.mem_append.mp heard with earlier | latest
    · exact absurd (current.heeds query fault legal earlier).2 (more _)
    · exact heeds query fault legal (List.mem_singleton.mp latest).symm

theorem hears_native {query : NativeQuery} {next : Except LookupError query.Answer → Attempt}
    (under : h.Under l call loop generation (.native query next)
      (Trial.Unsent l generation (.native query next))) (reply : Except LookupError query.Answer) :
    (h.noted (.heard (.native query reply))).Under l call loop generation (next reply)
      (Trial.Unsent l generation (next reply)) := by
  have orderly := under.orderly
  cases orderly with
  | native rest =>
    refine under.heard _ (fun _ => by simp) (rest reply) (fun _ _ _ same => by simp at same) ?_
    intro t unsent channels
    obtain ⟨unchanged, needs⟩ := unsent channels
    cases needs with
    | native rest => exact ⟨unchanged, rest reply⟩

theorem hears_engine {query : EngineQuery} {next : Except Fault query.Answer → Attempt}
    (under : h.Under l call loop generation (.engine query next) fun t => t.channels ≠ [])
    (reply : Except Fault query.Answer) :
    (h.noted (.heard (.engine query reply))).Under l call loop generation (next reply)
      (Trial.Unsent l generation (next reply)) := by
  have orderly := under.orderly
  cases orderly with
  | engine family faults rest =>
    refine under.heard _ (fun _ => by simp) (rest reply) ?_ fun t asked nothing => absurd nothing asked
    intro other fault legal same
    simp only [Reply.engine.injEq] at same
    obtain ⟨rfl, same⟩ := same
    rw [eq_of_heq same]
    exact ⟨family, faults fault legal⟩

theorem asked (under : h.Under l call loop generation rest extra) (issue : Issue)
    (faithful : ∀ t, extra t → t.channels = [] → ∀ channel, issue.channel? = some channel →
      generation = some (channel + 1))
    (holds : ∀ t, extra t → further { t with issues := t.issues ++ [issue] }) :
    (h.noted (.asked issue)).Under l call loop generation rest further := by
  obtain ⟨past, last, trials, before, chained, current, still⟩ := under.trials
  refine ⟨under.called, under.conclusion, under.serves, under.orderly, past,
    { last with issues := last.issues ++ [issue] }, ?_, before, chained, ?_, holds last still⟩
  · simp [History.noted, Trial.noted, trials, List.modifyLast_concat]
  · refine ⟨current.start, current.ending, current.changes, current.bound, ?_, ?_, current.heeds⟩
    · refine ⟨current.lookup.1, ?_⟩
      rw [← current.lookup.2]
      cases issues : last.issues with
      | nil =>
        have lookup := current.lookup
        simp only [Trial.lookup?, issues, List.head?_nil, Option.map_none] at lookup
        exact absurd lookup.2.symm lookup.1
      | cons first more => simp [Trial.lookup?, issues]
    · intro channel found
      rw [Trial.channels_ask] at found
      cases channels : last.channels with
      | nil =>
        rw [channels, List.nil_append] at found
        rw [current.start]
        refine faithful last still channels channel ?_
        cases given : issue.channel? with
        | none => simp [given] at found
        | some other => simpa [given] using found
      | cons first more =>
        refine current.faithful channel ?_
        rw [channels] at found ⊢
        exact found

end History.Under

namespace History.Idle

variable {h : History}

theorem asked (idle : h.Idle call) (issue : Issue) : (h.noted (.asked issue)).Idle call :=
  ⟨idle.called, idle.conclusion, by simp [History.noted, Trial.noted, idle.trials, List.modifyLast,
    List.modifyLast.go]⟩

theorem heard (idle : h.Idle call) (reply : Reply) : (h.noted (.heard reply)).Idle call :=
  ⟨idle.called, idle.conclusion, by simp [History.noted, Trial.noted, idle.trials, List.modifyLast,
    List.modifyLast.go]⟩

end History.Idle

private theorem ends_comes {generation : Option Nat} {attempt : Attempt} {result : Result}
    (custody : s.Custody) (ends : s.advance loop generation attempt = .inr result)
    (under : (s.history id).Under s.toLifecycle call loop generation attempt fun t =>
      (generation = none → s.generation = none ∧ ∃ e, result = .error e) ∧
        { t with ending := some (s.generation, result) }.Heeded call) :
    Comes (s.resume id loop generation attempt) id := by
  have serves := under.serves
  obtain ⟨past, last, trials, before, chained, current, failed, heeded⟩ := under.trials
  let final : Trial := { last with ending := some (s.generation, result) }
  have ended : (s.note id (.ended s.generation result)).history id =
      { s.history id with trials := past ++ [final] } := by
    simp [History.noted, Trial.noted, trials, List.modifyLast_concat, final]
  have unserved : final.Unserved loop.body.lookup? := by
    intro empty finish other result_eq
    simp only [final, Option.some.injEq, Prod.mk.injEq] at result_eq
    obtain ⟨rfl, rfl⟩ := result_eq
    obtain ⟨gone, error⟩ := failed (current.start.symm.trans empty)
    refine ⟨gone, error, ?_⟩
    intro nothing asked
    exact absurd (current.lookup.2.symm.trans nothing) asked
  rw [← current.start] at chained
  rw [State.resume_ends ends]
  split
  · next stale =>
    refine begin_comes (by simpa using custody) serves ?_
    rw [ended]
    refine ⟨under.called, under.conclusion, ?_, Trial.Chained.snoc chained rfl⟩
    intro t member
    rcases List.mem_append.mp member with earlier | latest
    · exact before t earlier
    · rw [List.mem_singleton.mp latest]
      refine ⟨⟨s.generation, result, rfl, ?_⟩, ?_, current.lookup, current.faithful, unserved, heeded⟩
      · rw [current.start, ← serves.family]
        exact stale
      -- A stale failure ends on another generation, so that the slot has changed under the attempt.
      · intro unchanged
        exact ne_of_isStale stale (current.changes.mp unchanged)
  · next settled =>
    refine Or.inr ⟨rfl, call, ?_, ?_⟩
    · rw [State.history_conclude, ended]
      exact under.called
    · rw [State.history_conclude, ended]
      refine Or.inr ⟨loop.body.lookup?, past, final, rfl, serves.native, before, chained, ?_⟩
      refine ⟨by simp [final], ?_, Or.inl current.lookup.2, current.faithful, unserved, heeded⟩
      intro finish other result_eq
      simp only [final, Option.some.injEq, Prod.mk.injEq] at result_eq
      obtain ⟨rfl, rfl⟩ := result_eq
      refine ⟨?_, ?_, by simp [History.noted, serves.finish]⟩
      · rw [current.start, ← serves.family]
        simpa using settled
      · rw [current.start]
        exact current.changes

theorem resume_comes {generation : Option Nat} {attempt : Attempt} (custody : s.Custody)
    (under : ∃ call, (s.history id).Under s.toLifecycle call loop generation attempt
      (Trial.Unsent s.toLifecycle generation attempt)) :
    Comes (s.resume id loop generation attempt) id := by
  obtain ⟨call, under⟩ := under
  obtain ⟨past, last, trials, before, chained, current, unsent⟩ := under.trials
  cases attempt with
  | finish result =>
    refine ends_comes custody rfl ⟨under.called, under.conclusion, under.serves, under.orderly, past,
      last, trials, before, chained, current, ?_, ?_⟩
    · intro empty
      obtain ⟨unchanged, needs⟩ := unsent (current.channels_of_none empty)
      rw [empty, or_self] at unchanged
      cases needs with
      | finish e => exact ⟨unchanged, e, rfl⟩
    · intro query fault legal heard
      obtain ⟨family, rest⟩ := current.heeds query fault legal heard
      obtain rfl := Attempt.finish.inj rest
      exact ⟨family, s.generation, rfl⟩
  | native query next =>
    rw [State.resume_asks rfl]
    refine Or.inl ⟨_, rfl, call, ?_⟩
    rw [State.history_ask]
    refine under.asked _ (fun t _ _ channel asked => by simp [Request.issue, Issue.channel?] at asked) ?_
    intro t unsent channels
    rw [Trial.channels_ask] at channels
    exact unsent (List.append_eq_nil_iff.mp channels).1
  | engine query next =>
    cases live : s.slot with
    | none =>
      refine ends_comes custody (State.advance_engine_closed live _ _ _) ⟨under.called,
        under.conclusion, under.serves, under.orderly, past, last, trials, before, chained, current, ?_, ?_⟩
      · intro _
        exact ⟨by rw [Lifecycle.generation, live, Option.map_none], _, rfl⟩
      · exact fun other fault legal heard =>
          absurd (current.heeds other fault legal heard).2 (by simp)
    | some slot =>
      rw [State.resume_asks (State.advance_engine live _ _ _)]
      refine Or.inl ⟨_, rfl, call, ?_⟩
      rw [State.history_ask]
      refine under.asked _ ?_ ?_
      · intro t unsent channels channel asked
        simp only [Request.issue, Issue.channel?, Option.some.injEq] at asked
        obtain ⟨unchanged, -⟩ := unsent channels
        rw [custody.generation_eq live, asked] at unchanged
        rcases unchanged with gone | same
        · contradiction
        · exact same.symm
      · intro t _
        rw [Trial.channels_ask]
        simp [Request.issue, Issue.channel?]

theorem follow_comes {plan : Plan} (custody : s.Custody) (idle : (s.history id).Idle call)
    (serves : plan.All (Serves call)) : Comes (s.follow id plan) id := by
  cases serves with
  | finish result =>
    refine Or.inr ⟨rfl, call, ?_, Or.inl ?_⟩
    · simpa [State.follow, History.noted] using idle.called
    · simpa [State.follow, History.noted] using idle.trials
  | native rest =>
    refine Or.inl ⟨_, rfl, call, ?_, rest⟩
    rw [State.follow, State.history_ask]
    exact idle.asked _
  | attempts holds =>
    refine begin_comes custody holds ⟨idle.called, idle.conclusion, ?_, ?_⟩
    · intro t member
      simp [idle.trials] at member
    · rw [idle.trials]
      exact .nil _

end HostLookup.Resolver
