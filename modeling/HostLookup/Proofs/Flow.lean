import HostLookup.Proofs.History

/-! How a poll goes on with a lookup: attempts end and begin, until the poll stops at a query or the lookup is
over. Nothing else happens on the way. -/
namespace HostLookup.Resolver

/-- The way of a poll from `s` to where it stops. -/
inductive Goes (id : Nat) : State → State → Prop
  | stops {s : State} {request : Request}
      (live : ∀ channel, request.issue.channel? = some channel → s.channel? = some channel) :
      Goes id s (s.ask id request)
  | concludes {s : State} (result : Result) : Goes id s (s.conclude id result)
  | begins {s t : State} (rest : Goes id (s.note id (.began s.generation)) t) : Goes id s t
  | ends {s t : State} {result : Result} (rest : Goes id (s.note id (.ended s.generation result)) t) :
      Goes id s t

variable {s t u : State} {id : Nat}

theorem State.channel_of_advance {loop : Loop} {generation : Option Nat} {attempt : Attempt}
    {request : Request} (asks : s.advance loop generation attempt = .inl request) (channel : Nat)
    (asked : request.issue.channel? = some channel) : s.channel? = some channel := by
  cases attempt with
  | finish result => contradiction
  | native query next =>
    obtain rfl := Sum.inl.inj asks
    contradiction
  | engine query next =>
    cases live : s.slot with
    | none => simp [State.advance, live] at asks
    | some slot =>
      simp only [State.advance, live, Sum.inl.injEq] at asks
      subst asks
      simpa [Lifecycle.channel?, live, Request.issue, Issue.channel?] using asked

namespace Goes

theorem begin (s : State) (id : Nat) (loop : Loop) : Goes id s (s.begin id loop) := by
  unfold State.begin
  dsimp only
  split
  · next request asks => exact .begins (.stops (State.channel_of_advance asks))
  · exact .begins (.ends (.concludes _))

theorem resume (s : State) (id : Nat) (loop : Loop) (generation : Option Nat) (attempt : Attempt) :
    Goes id s (s.resume id loop generation attempt) := by
  unfold State.resume
  split
  · next request asks => exact .stops (State.channel_of_advance asks)
  · dsimp only
    split
    · exact .ends (begin _ id loop)
    · exact .ends (.concludes _)

theorem follow (s : State) (id : Nat) (plan : Plan) : Goes id s (s.follow id plan) := by
  cases plan with
  | finish result => exact .concludes result
  | native query next => exact .stops fun channel asked => by simp [Request.issue, Issue.channel?] at asked
  | attempts loop => exact begin s id loop

theorem busy (goes : Goes id s t) {other : Nat} {request : Request}
    (stops : t.busy = some (other, request)) : other = id := by
  induction goes with
  | stops live => exact (congrArg Prod.fst (Option.some.inj stops)).symm
  | concludes result => contradiction
  | begins rest ih => exact ih stops
  | ends rest ih => exact ih stops

end Goes

/-- What `t` has kept of `s`: all but the history of one lookup, and where its poll stands. -/
structure Only (s t : State) (id : Nat) : Prop where
  lifecycle : t.toLifecycle = s.toLifecycle
  tasks : t.tasks = s.tasks
  nextTask : t.nextTask = s.nextTask
  released : t.released = s.released
  held : t.held = s.held
  history : ∀ other, id ≠ other → t.history other = s.history other
  notes : ∀ other, id ≠ other → t.notes other = s.notes other

namespace Only

theorem trans (first : Only s t id) (second : Only t u id) : Only s u id where
  lifecycle := second.lifecycle.trans first.lifecycle
  tasks := second.tasks.trans first.tasks
  nextTask := second.nextTask.trans first.nextTask
  released := second.released.trans first.released
  held := second.held.trans first.held
  history := fun other different => (second.history other different).trans (first.history other different)
  notes := fun other different => (second.notes other different).trans (first.notes other different)

theorem note (s : State) (id : Nat) (note : Note) : Only s (s.note id note) id :=
  ⟨rfl, rfl, rfl, rfl, rfl, fun other different => s.history_note_of_ne id other note different,
    fun other different => s.notes_note_of_ne id other note different⟩

theorem of_busy (only : Only s t id) (busy : Option (Nat × Request)) : Only s { t with busy } id :=
  ⟨only.lifecycle, only.tasks, only.nextTask, only.released, only.held, only.history, only.notes⟩

end Only

theorem Goes.only (goes : Goes id s t) : Only s t id := by
  induction goes with
  | @stops s request live => exact (Only.note s id _).of_busy _
  | @concludes s result => exact (Only.note s id _).of_busy _
  | begins rest ih => exact (Only.note _ id _).trans ih
  | ends rest ih => exact (Only.note _ id _).trans ih

theorem Goes.only_heard {reply : Reply} (goes : Goes id (s.note id (.heard reply)) t) : Only s t id :=
  (Only.note s id _).trans goes.only

end HostLookup.Resolver
