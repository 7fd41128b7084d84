import HostLookup.Proofs.Course

/-! The transcript of a lookup: what it asks, hears and ends in, as a function of the replies, while the slot stays
as it is. Where it stops in the middle, the remainder is what is still to come. -/
namespace HostLookup
open Resolver

namespace Resolver

def Note.reply? : Note → Option Reply
  | .heard reply => some reply
  | _ => none

def heard (notes : List Note) : List Reply :=
  notes.filterMap Note.reply?

namespace Reply

def native? (query : NativeQuery) : Reply → Option (Except LookupError query.Answer)
  | .native other reply => if same : other = query then some (same ▸ reply) else none
  | .engine _ _ => none

def engine? (query : EngineQuery) : Reply → Option (Except Fault query.Answer)
  | .native _ _ => none
  | .engine other reply => if same : other = query then some (same ▸ reply) else none

@[simp] theorem native?_self (query : NativeQuery) (reply : Except LookupError query.Answer) :
    (Reply.native query reply).native? query = some reply := by
  simp [native?]

@[simp] theorem engine?_self (query : EngineQuery) (reply : Except Fault query.Answer) :
    (Reply.engine query reply).engine? query = some reply := by
  simp [engine?]

theorem eq_native {reply : Reply} {query : NativeQuery} {answer : Except LookupError query.Answer}
    (answers : reply.native? query = some answer) : reply = .native query answer := by
  cases reply with
  | native other given =>
    by_cases same : other = query
    · subst same
      simpa using answers
    · simp [native?, same] at answers
  | engine other given => contradiction

theorem eq_engine {reply : Reply} {query : EngineQuery} {answer : Except Fault query.Answer}
    (answers : reply.engine? query = some answer) : reply = .engine query answer := by
  cases reply with
  | native other given => contradiction
  | engine other given =>
    by_cases same : other = query
    · subst same
      simpa using answers
    · simp [engine?, same] at answers

end Reply

end Resolver

def NativeQuery.hear (query : NativeQuery)
    (next : Except LookupError query.Answer → List Reply → List Note) : List Reply → List Note
  | [] => []
  | reply :: replies =>
    match reply.native? query with
    | none => []
    | some answer => .heard reply :: next answer replies

def EngineQuery.hear (query : EngineQuery)
    (next : Except Fault query.Answer → List Reply → List Note) : List Reply → List Note
  | [] => []
  | reply :: replies =>
    match reply.engine? query with
    | none => []
    | some answer => .heard reply :: next answer replies

@[simp] theorem NativeQuery.hear_self (query : NativeQuery) (reply : Except LookupError query.Answer)
    (next : Except LookupError query.Answer → List Reply → List Note) (replies : List Reply) :
    query.hear next (.native query reply :: replies) =
      .heard (.native query reply) :: next reply replies := by
  simp [hear]

@[simp] theorem EngineQuery.hear_self (query : EngineQuery) (reply : Except Fault query.Answer)
    (next : Except Fault query.Answer → List Reply → List Note) (replies : List Reply) :
    query.hear next (.engine query reply :: replies) =
      .heard (.engine query reply) :: next reply replies := by
  simp [hear]

/-- What is left of an attempt, with `finish` for what comes of its result. Where no channel is in the slot, a
query of an engine is its end. -/
def Attempt.transcript (slot : Option Slot) (finish : Result → List Reply → List Note) :
    Attempt → List Reply → List Note
  | .finish result => finish result
  | .native query next => fun replies =>
    .asked (.native query) :: query.hear (fun answer => (next answer).transcript slot finish) replies
  | .engine query next =>
    match slot with
    | none => finish (.error .closed)
    | some live => fun replies =>
      .asked (.engine live.channel query) ::
        query.hear (fun answer => (next answer).transcript slot finish) replies

namespace Loop

/-- No attempt that begins under the slot is stale when it ends. -/
def transcript (slot : Option Slot) (loop : Loop) (replies : List Reply) : List Note :=
  let generation := slot.map (·.generation)
  .began generation ::
    loop.body.transcript slot
      (fun result _ => [.ended generation result, .concluded (loop.finish result)]) replies

def remainder (slot : Option Slot) (loop : Loop) (start : Option Nat) (attempt : Attempt) :
    List Reply → List Note :=
  let generation := slot.map (·.generation)
  attempt.transcript slot fun result replies =>
    .ended generation result ::
      if isStale loop.family start generation result then loop.transcript slot replies
      else [.concluded (loop.finish result)]

theorem transcript_eq (slot : Option Slot) (loop : Loop) (replies : List Reply) :
    loop.transcript slot replies = .began (slot.map (·.generation)) ::
      loop.remainder slot (slot.map (·.generation)) loop.body replies := by
  simp [transcript, remainder, isStale_self]

end Loop

def Plan.transcript (slot : Option Slot) : Plan → List Reply → List Note
  | .finish result => fun _ => [.concluded result]
  | .native query next => fun replies =>
    .asked (.native query) :: query.hear (fun answer => (next answer).transcript slot) replies
  | .attempts loop => loop.transcript slot

namespace Resolver

def Request.remainder (slot : Option Slot) : Request → List Reply → List Note
  | .plan query next => query.hear fun answer => (next answer).transcript slot
  | .native loop generation query next =>
    query.hear fun answer => loop.remainder slot generation (next answer)
  | .engine loop generation _ query next =>
    query.hear fun answer => loop.remainder slot generation (next answer)

def Stage.remainder (slot : Option Slot) (convention : Convention) : Stage → List Reply → List Note
  | .fresh call => (call.plan convention).transcript slot
  | .waiting loop generation query next _ =>
    query.hear fun answer => loop.remainder slot generation (next answer)

/-- Where a lookup stands: between polls, or at a query in the middle of one. -/
abbrev Place := Stage ⊕ Request

def Place.remainder (slot : Option Slot) (convention : Convention) : Place → List Reply → List Note
  | .inl stage => stage.remainder slot convention
  | .inr request => request.remainder slot

namespace State

def place? (s : State) (id : Nat) : Option Place :=
  match s.task? id with
  | some task => some (.inl task.stage)
  | none =>
    match s.busy with
    | some (other, request) => if other = id then some (.inr request) else none
    | none => none

/-- What is still to come of a lookup; there is nothing of one that is over or was dropped. -/
def remainder (s : State) (id : Nat) (replies : List Reply) : List Note :=
  match s.place? id with
  | some place => place.remainder s.slot s.config.convention replies
  | none => []

section Place

variable {s : State} {id : Nat}

theorem place?_task {task : Task} (found : s.task? id = some task) :
    s.place? id = some (.inl task.stage) := by
  simp only [place?, found]

theorem place?_busy {request : Request} (away : s.task? id = none) (busy : s.busy = some (id, request)) :
    s.place? id = some (.inr request) := by
  simp only [place?, away, busy, if_true]

theorem place?_idle (away : s.task? id = none) (idle : s.busy = none) : s.place? id = none := by
  simp only [place?, away, idle]

theorem remainder_of_place {place : Place} (found : s.place? id = some place) :
    s.remainder id = place.remainder s.slot s.config.convention := by
  funext replies
  simp [remainder, found]

theorem remainder_of_none (gone : s.place? id = none) : s.remainder id = fun _ => [] := by
  funext replies
  simp [remainder, gone]

end Place

end State

theorem Request.remainder_nil (slot : Option Slot) (request : Request) : request.remainder slot [] = [] := by
  cases request <;> rfl

/-- The poll that went on with the lookup after `before` has stopped where `transcript` says. -/
def Leads (before : List Note) (t : State) (id : Nat) (transcript : List Reply → List Note) : Prop :=
  ∃ new, t.notes id = before ++ new ∧ heard new = [] ∧ t.remainder id [] = [] ∧
    ∀ replies, transcript replies = new ++ t.remainder id replies

variable {s t : State} {id : Nat} {loop : Loop}

namespace Leads

variable {before : List Note} {transcript : List Reply → List Note}

theorem note {note : Note} (leads : Leads (before ++ [note]) t id transcript) (silent : note.reply? = none) :
    Leads before t id fun replies => note :: transcript replies := by
  obtain ⟨new, notes, unheard, stops, follows⟩ := leads
  refine ⟨note :: new, by simpa using notes, ?_, stops, fun replies => ?_⟩
  · simpa [heard, silent] using unheard
  · exact congrArg (note :: ·) (follows replies)

theorem ask (away : s.task? id = none) (request : Request) :
    Leads (s.notes id) (s.ask id request) id fun replies =>
      .asked request.issue :: request.remainder s.slot replies := by
  have rest : (s.ask id request).remainder id = request.remainder s.slot :=
    State.remainder_of_place (s := s.ask id request) (State.place?_busy away rfl)
  refine ⟨[.asked request.issue], s.notes_note id _, rfl, ?_, fun replies => ?_⟩
  · rw [rest, request.remainder_nil]
  · rw [rest, List.singleton_append]

theorem conclude (away : s.task? id = none) (result : Result) :
    Leads (s.notes id) (s.conclude id result) id fun _ => [.concluded result] := by
  have rest : (s.conclude id result).remainder id = fun _ => [] :=
    State.remainder_of_none (s := s.conclude id result) (State.place?_idle away rfl)
  refine ⟨[.concluded result], s.notes_note id _, rfl, ?_, fun replies => ?_⟩
  · rw [rest]
  · rw [rest, List.append_nil]

end Leads

theorem remainder_of_asks {start : Option Nat} {attempt : Attempt} {request : Request}
    (asks : s.advance loop start attempt = .inl request) (replies : List Reply) :
    loop.remainder s.slot start attempt replies = .asked request.issue :: request.remainder s.slot replies := by
  cases attempt with
  | finish result => contradiction
  | native query next =>
    obtain rfl := Sum.inl.inj asks
    rfl
  | engine query next =>
    cases live : s.slot with
    | none =>
      rw [State.advance_engine_closed live] at asks
      contradiction
    | some slot =>
      rw [State.advance_engine live] at asks
      obtain rfl := Sum.inl.inj asks
      rfl

theorem remainder_of_ends {start : Option Nat} {attempt : Attempt} {result : Result}
    (ends : s.advance loop start attempt = .inr result) (replies : List Reply) :
    loop.remainder s.slot start attempt replies = .ended s.generation result ::
      if isStale loop.family start s.generation result then loop.transcript s.slot replies
      else [.concluded (loop.finish result)] := by
  cases attempt with
  | finish other =>
    obtain rfl := Sum.inr.inj ends
    rfl
  | native query next => contradiction
  | engine query next =>
    cases live : s.slot with
    | none =>
      rw [State.advance_engine_closed live] at ends
      obtain rfl := Sum.inr.inj ends
      simp [Loop.remainder, Attempt.transcript, Lifecycle.generation, live]
    | some slot =>
      rw [State.advance_engine live] at ends
      contradiction

namespace Leads

theorem begin (away : s.task? id = none) (loop : Loop) :
    Leads (s.notes id) (s.begin id loop) id (loop.transcript s.slot) := by
  have begun : ∀ replies, loop.transcript s.slot replies =
      .began s.generation :: loop.remainder s.slot s.generation loop.body replies :=
    loop.transcript_eq s.slot
  rw [funext begun]
  refine note ?_ rfl
  rw [← State.notes_note]
  cases first : s.advance loop s.generation loop.body with
  | inl request =>
    rw [State.begin_asks first, funext (remainder_of_asks first)]
    exact ask (s := s.note id _) away request
  | inr result =>
    rw [State.begin_ends first, funext (remainder_of_ends first), isStale_self]
    simp only [Bool.false_eq_true, if_false]
    refine note ?_ rfl
    rw [← State.notes_note]
    exact conclude (s := (s.note id _).note id _) away _

theorem resume (away : s.task? id = none) (loop : Loop) (start : Option Nat) (attempt : Attempt) :
    Leads (s.notes id) (s.resume id loop start attempt) id (loop.remainder s.slot start attempt) := by
  cases first : s.advance loop start attempt with
  | inl request =>
    rw [State.resume_asks first, funext (remainder_of_asks first)]
    exact ask away request
  | inr result =>
    rw [State.resume_ends first, funext (remainder_of_ends first)]
    refine note ?_ rfl
    rw [← State.notes_note]
    split
    · exact begin (s := s.note id _) away loop
    · exact conclude (s := s.note id _) away _

theorem follow (away : s.task? id = none) (plan : Plan) :
    Leads (s.notes id) (s.follow id plan) id (plan.transcript s.slot) := by
  cases plan with
  | finish result => exact conclude away result
  | native query next => exact ask away (.plan query next)
  | attempts loop => exact begin away loop

theorem resume_heard (away : s.task? id = none) (reply : Reply) (loop : Loop) (start : Option Nat)
    (attempt : Attempt) :
    Leads (s.notes id ++ [.heard reply]) ((s.note id (.heard reply)).resume id loop start attempt) id
      (loop.remainder s.slot start attempt) := by
  rw [← s.notes_note]
  exact resume (s := s.note id _) away loop start attempt

theorem follow_heard (away : s.task? id = none) (reply : Reply) (plan : Plan) :
    Leads (s.notes id ++ [.heard reply]) ((s.note id (.heard reply)).follow id plan) id
      (plan.transcript s.slot) := by
  rw [← s.notes_note]
  exact follow (s := s.note id _) away plan

end Leads

end Resolver

end HostLookup
