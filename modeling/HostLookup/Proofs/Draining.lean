import HostLookup.Proofs.Brevity
import HostLookup.Proofs.Sessions

/-! The queue after a close. Nothing is queued any more, so that the hub has torn every channel down once it has
run as many callbacks as were queued; and a lookup of the front end that comes to an engine ends as closed. -/
namespace HostLookup.Resolver

namespace Lifecycle

variable {l : Lifecycle}

theorem queue_apply (shut : Shut l) (unwatched : l.hub.watchers = []) (change : Change) :
    (l.apply change).hub.queue = match change with
      | .turn => l.hub.queue.tail
      | _ => l.hub.queue := by
  cases change with
  | setPid pid => rfl
  | obstruct obstacle => rfl
  | rest => rfl
  | close =>
    have same : l.apply .close = l := shut.close_eq
    rw [same]
  | reinit =>
    dsimp only [apply, reinit]
    unfold Hub.reinit
    split
    · rfl
    · rw [Hub.queue_pushAll, unwatched]
      simp
  | turn =>
    cases queued : l.hub.queue with
    | nil => simp only [apply, Hub.next?, queued, List.tail_nil]
    | cons callback rest =>
      simp only [apply, Hub.next?, queued, List.tail_cons]
      cases callback with
      | destroy channel => rfl
      | fork =>
        have closed : ({ l with hub := { l.hub with queue := rest } } : Lifecycle).closed = true := shut.closed
        rw [runCallback, onFork_of_closed closed]

def OwnWatcher (l : Lifecycle) : Prop :=
  ∀ entry ∈ l.hub.watchers, entry.1 = l.watcher

theorem OwnWatcher.apply (own : OwnWatcher l) (change : Change) : OwnWatcher (l.apply change) := by
  cases change with
  | setPid pid => exact own
  | obstruct obstacle => exact own
  | rest => exact own
  | reinit => simpa [OwnWatcher, Lifecycle.apply, reinit] using own
  | close =>
    obtain ⟨teardowns, -, closed⟩ := close_eq l
    rw [Lifecycle.apply, closed]
    exact fun entry member => own entry (List.mem_of_mem_filter member)
  | turn =>
    cases queued : l.hub.queue with
    | nil => simpa only [Lifecycle.apply, Hub.next?, queued] using own
    | cons callback rest =>
      simp only [Lifecycle.apply, Hub.next?, queued]
      cases callback with
      | destroy channel => exact own
      | fork =>
        rcases onFork_cases { l with hub := { l.hub with queue := rest } } with ⟨same, -⟩ | rebuilt
        · rw [runCallback, same]
          exact own
        · rw [runCallback, OwnWatcher, rebuilt.watchers, rebuilt.watcher]
          exact own

theorem unwatched_of_shut (own : OwnWatcher l) (shut : Shut l) : l.hub.watchers = [] := by
  refine List.eq_nil_iff_forall_not_mem.mpr fun entry member => ?_
  exact shut.deaf entry member (own entry member)

end Lifecycle

open Lifecycle

variable {s t : State}

theorem Reachable.ownWatcher (reachable : Reachable s) : OwnWatcher s.toLifecycle := by
  refine reachable.lifecycle ?_ fun l change own => own.apply change
  intro builder obstacle hub s clear ok
  obtain ⟨-, config, rfl⟩ := build_eq ok
  intro entry member
  simp [initial, Hub.start, Hub.stop, Hub.watch, clear.watchers] at member ⊢
  rw [member]

theorem Reachable.unwatched (reachable : Reachable s) (closed : s.closed = true) : s.hub.watchers = [] :=
  unwatched_of_shut reachable.ownWatcher (reachable.shut closed)

theorem run_append (s : State) (events later : List Event) :
    run (run s events) later = run s (events ++ later) :=
  List.foldl_append.symm

end Resolver

namespace Blocking
open Resolver Lifecycle

variable {s t u v : State} {call : Call} {result : Result}

theorem queue_step (reachable : Reachable s) (closed : s.closed = true) (event : Event) :
    (step s event).hub.queue = s.hub.queue.drop (runsCallback s event).toNat := by
  have shut := reachable.shut closed
  have unwatched := reachable.unwatched closed
  have applied := queue_apply shut unwatched (event.change s.busy.isSome)
  have stepped : (step s event).hub.queue = (s.toLifecycle.apply (event.change s.busy.isSome)).hub.queue := by
    rcases toLifecycle_step s event with same | again
    · rw [same]
    · rw [again, (shut.apply _).1.close_eq]
  rw [stepped, applied]
  cases event with
  | turn =>
    cases busy : s.busy with
    | some poll => simp [Event.change, runsCallback, busy]
    | none => cases queued : s.hub.queue <;> simp [Event.change, runsCallback, busy, queued]
  | _ => rfl

theorem queue_run (reachable : Reachable s) (closed : s.closed = true) (events : List Event) :
    (run s events).hub.queue = s.hub.queue.drop (callbacksRun s events) := by
  induction events generalizing s with
  | nil => rfl
  | cons event rest ih =>
    have first := queue_step reachable closed event
    have later := ih (reachable.step event) (ceased_step reachable closed event).closed
    have ran : run s (event :: rest) = run (step s event) rest := rfl
    rw [ran, later, first, List.drop_drop, callbacksRun]

theorem idle_turn (idle : s.busy = none) : (step s .turn).busy = none := by
  rw [step, (retains_settleOwner _).busy]
  rcases act_turn s with same | ⟨-, turned⟩
  · rw [same, idle]
  · rw [turned, (Retains.turn s).busy, idle]

theorem turnWithin_eq (reachable : Reachable s) (closed : s.closed = true) (idle : s.busy = none) {fuel : Nat}
    (enough : s.hub.queue.length ≤ fuel) :
    ∃ course, Session.turnWithin fuel s = run s course ∧ callbacksRun s course = s.hub.queue.length ∧
      (run s course).busy = none ∧ (run s course).released = s.released := by
  induction fuel generalizing s with
  | zero =>
    have empty : s.hub.queue.length = 0 := Nat.le_zero.mp enough
    exact ⟨[], rfl, empty.symm, idle, rfl⟩
  | succ fuel ih =>
    rw [Session.turnWithin]
    cases queued : s.hub.queue with
    | nil => exact ⟨[], rfl, rfl, idle, rfl⟩
    | cons callback rest =>
      have runs : runsCallback s .turn = true := by simp [runsCallback, idle, queued]
      have left : (step s .turn).hub.queue = rest := by
        rw [queue_step reachable closed, runs, queued]
        rfl
      rw [queued] at enough
      have fewer : (step s .turn).hub.queue.length ≤ fuel := by
        rw [left]
        exact Nat.le_of_succ_le_succ enough
      have still := (ceased_step reachable closed .turn).closed
      obtain ⟨course, ends, counted, ready, owned⟩ := ih (reachable.step .turn) still (idle_turn idle) fewer
      refine ⟨.turn :: course, ends, ?_, ready, ?_⟩
      · rw [callbacksRun, counted, runs, left, List.length_cons, Bool.toNat_true, Nat.add_comm]
      · exact owned.trans (released_step_of_ne (by simp))

theorem flush_closes (reachable : Reachable s) (rests : Rests s) :
    Closes s (Session.flush (step s .close)) := by
  have closed := closed_step_close s
  have idle : (step s .close).busy = none := by
    rw [step, (retains_settleOwner _).busy]
    exact (Retains.manage s Lifecycle.close).busy.trans rests.idle
  have enough : (step s .close).hub.queue.length ≤ 2 * (step s .close).hub.queue.length + 1 := by omega
  obtain ⟨course, ends, counted, ready, owned⟩ := turnWithin_eq (reachable.step .close) closed idle enough
  have held : (step s .close).released = false := (released_step_of_ne (by simp)).trans rests.owned
  rw [Session.flush, ends]
  exact .returns counted.ge ⟨ready, owned.trans held⟩

theorem timesDestroyed_of_drained (reachable : Reachable s) (slot : s.slot = none) (drained : s.hub.queue = [])
    {channel : Nat} (created : channel < s.created.length) : s.timesDestroyed channel = 1 := by
  have custody := reachable.custody
  have inside : channel < s.destroyed.length := custody.length_created ▸ created
  have once := custody.teardowns channel
  simpa [teardowns, timesQueued, drained, channel?, slot, inside] using once

theorem Closes.reachable (closes : Closes s t) (reachable : Reachable s) : Reachable t := by
  cases closes
  exact (reachable.step .close).run _

theorem Closes.drained (closes : Closes s t) (reachable : Reachable s) : t.closed = true ∧ t.hub.queue = [] := by
  obtain @⟨course, flushed, -⟩ := closes
  have closed := closed_step_close s
  have queue := queue_run (reachable.step .close) closed course
  have all := List.drop_eq_nil_of_le flushed
  exact ⟨(ceased_run (reachable.step .close) closed course).closed, queue.trans all⟩

theorem Closes.rests (closes : Closes s t) : Rests t := by
  obtain ⟨-, rests⟩ := closes
  exact rests

theorem Follows.run (follows : Follows s t) : ∃ events, t = Resolver.run s events := by
  induction follows with
  | here => exact ⟨[], rfl⟩
  | @aside t event before interferes ih =>
    obtain ⟨events, rfl⟩ := ih
    exact ⟨events ++ [event], (run_concat s events event).symm⟩
  | call before calls ih =>
    obtain ⟨events, rfl⟩ := ih
    obtain ⟨-, -⟩ := calls
    exact ⟨_, run_append s events _⟩
  | close before closes ih =>
    obtain ⟨events, rfl⟩ := ih
    obtain @⟨course, -, -⟩ := closes
    exact ⟨_, run_append s events (.close :: course)⟩

theorem Follows.rests (follows : Follows s t) (rests : Rests s) : Rests t := by
  induction follows with
  | here => exact rests
  | @aside t event before interferes ih =>
    have retains : Retains t (act t event) := by
      rcases lookups_act t event with ⟨call, rfl, -⟩ | ⟨id, rfl⟩ | goes | ⟨-, retains⟩
      · contradiction
      · contradiction
      · cases event <;> contradiction
      · exact retains
    refine ⟨?_, ?_⟩
    · rw [step, (retains_settleOwner _).busy, retains.busy, ih.idle]
    · rw [released_step_of_ne fun same => by subst same; contradiction, ih.owned]
  | call before calls ih =>
    obtain ⟨-, rests⟩ := calls
    exact rests
  | close before closes ih =>
    obtain ⟨-, rests⟩ := closes
    exact rests

theorem Calls.closed (calls : Calls s call result t) (reachable : Reachable s) (rests : Rests s)
    (closed : s.closed = true)
    (reaches : (call.plan t.config.convention).Reaches (heard (t.notes s.nextTask))) :
    result = .error .closed := by
  obtain @⟨course, concluded, -⟩ := calls
  have started : step s (.start call) = s.startTask call := step_start rests.owned call
  have begun : Reachable (s.startTask call) := started ▸ reachable.step (.start call)
  have shut : (s.startTask call).closed = true := by
    rw [State.toLifecycle_startTask]
    exact closed
  have ran : run s (.start call :: .poll s.nextTask :: course) =
      run (s.startTask call) (.poll s.nextTask :: course) := by
    rw [← started]
    rfl
  rw [ran] at concluded reaches
  have steadily := steadily_of_closed begun shut (.poll s.nextTask :: course)
  have inside : s.nextTask < (s.startTask call).nextTask := by
    rw [State.nextTask_startTask]
    exact Nat.lt_succ_self _
  obtain ⟨new, noted, whole⟩ := (steadily.along begun inside).notes
  have first : (s.startTask call).notes s.nextTask = [.started call] := by
    rw [notes_startTask, reachable.notes_beyond le_rfl]
    rfl
  have slot : s.slot = none := (reachable.shut closed).slot
  rw [first] at noted
  rw [remainder_startTask reachable.coherent, slot] at whole
  rw [noted] at reaches
  have member := State.mem_results.mp concluded
  rw [noted] at member
  have ended : new ≠ [] := by
    rintro rfl
    simp at member
  have convention : (run (s.startTask call) (.poll s.nextTask :: course)).config = s.config := by
    rw [steadily.config, State.toLifecycle_startTask]
  rw [convention] at reaches
  have ends : EndsClosed new := by
    rw [whole.resolve_left ended]
    exact reaches.ends (plan_serves call _)
  have last : .concluded (.error .closed) ∈ new := ends.subset (by simp)
  obtain ⟨own, point, walk⟩ := (begun.run (.poll s.nextTask :: course)).walk (State.mem_results.mp concluded)
  have here := walk.finished_of_mem (State.mem_results.mp concluded)
  have there := walk.finished_of_mem (noted ▸ List.mem_append_right _ last)
  exact Point.finished.inj (here.symm.trans there)

/-- When a close of the front end returns, as that of a session does, every channel that was ever created has been
torn down once, and the queue is empty. From then on no channel is created or asked, whatever happens. Every
lookup returns without waiting for anything but the platform, and ends as closed if it comes to a query of an
engine. A front end that is dropped where it may wait leaves every channel torn down once as well. -/
theorem close_complete {builder : Builder} {obstacle : Option LookupError} {hub : Hub Callback}
    (clear : hub.IsClear) (ok : builder.build obstacle hub = .ok s) (follows : Follows s t) :
    (∀ session : Session, session.scene.resolver = t →
      Closes t session.close.scene.resolver ∧
      ∀ name call script result after, session.lookUp name call script = (some result, after) →
        Calls t call result after.scene.resolver) ∧
    (∀ u, Closes t u →
      (∀ channel < u.created.length, u.timesDestroyed channel = 1) ∧ u.hub.queue = [] ∧
      ∀ v, Follows u v →
        v.creations = u.creations ∧ v.issues.filterMap (·.2.channel?) = u.issues.filterMap (·.2.channel?) ∧
        (∀ call first second, ∃ result, Calls v call result
          (run v [.start call, .poll v.nextTask, .answerNative first, .answerNative second])) ∧
        ∀ call result w, Calls v call result w →
          (call.plan w.config.convention).Reaches (heard (w.notes v.nextTask)) → result = .error .closed) ∧
    ∀ u, Drops t u → ∀ channel < u.created.length, u.timesDestroyed channel = 1 := by
  have built : Rests s := by
    obtain ⟨-, config, rfl⟩ := build_eq ok
    exact ⟨rfl, rfl⟩
  have rests := follows.rests built
  have reachable : Reachable t := by
    obtain ⟨events, rfl⟩ := follows.run
    exact Reachable.run (.built clear ok) events
  refine ⟨fun session here => ⟨?_, ?_⟩, fun u closes => ?_, fun u drops channel created => ?_⟩
  · subst here
    exact flush_closes reachable rests
  · subst here
    intro name call script result after returned
    exact Session.lookUp_calls reachable rests returned
  · have after := closes.reachable reachable
    obtain ⟨closed, drained⟩ := closes.drained reachable
    have slot := (after.shut closed).slot
    refine ⟨fun channel => timesDestroyed_of_drained after slot drained, drained, fun v later => ?_⟩
    have resting := later.rests closes.rests
    obtain ⟨events, rfl⟩ := later.run
    have ceased := ceased_run after closed events
    have onward := after.run events
    refine ⟨ceased.creations, ceased.asked, fun call first second => ?_, fun call result w calls => ?_⟩
    · have ending := brief_run onward resting.owned resting.idle ceased.slot call first second
      obtain ⟨⟨result, concluded⟩, idle⟩ := ending.result
      refine ⟨result, .returns concluded ⟨idle, ?_⟩⟩
      have kept : (run (run u events) [.start call, .poll (run u events).nextTask, .answerNative first,
          .answerNative second]).released = (run u events).released := released_run_of_ne (by simp)
      exact kept.trans resting.owned
    · exact calls.closed onward resting ceased.closed
  · obtain @⟨v, closes⟩ := drops
    have after := closes.reachable reachable
    obtain ⟨closed, drained⟩ := closes.drained reachable
    have ceased := ceased_step after closed .release
    have empty : (step v .release).hub.queue = [] := by
      rw [queue_step after closed, drained, List.drop_nil]
    exact timesDestroyed_of_drained (after.step .release) ceased.slot empty created

def noticeLeft : State :=
  run plain
    [.start (.hostEntry (.bytes [119, 119, 119]) .unspec), .poll 0, .answerEngine (.refuse .notFound), .setPid 2,
      .reinit]

theorem follows_noticeLeft : Follows plain noticeLeft := by
  have called : Calls plain (.hostEntry (.bytes [119, 119, 119]) .unspec) (.error .nameNotKnown)
      (run plain [.start (.hostEntry (.bytes [119, 119, 119]) .unspec), .poll 0,
        .answerEngine (.refuse .notFound)]) :=
    .returns (List.Mem.head _) ⟨rfl, rfl⟩
  have forks : interferes (.setPid 2) = true := rfl
  have notices : interferes .reinit = true := rfl
  have left := ((Follows.here.call called).aside forks).aside notices
  exact left

theorem close_complete_notice_left :
    let closed := (Session.mk .scripted { resolver := noticeLeft } true).close.scene.resolver
    closed.timesDestroyed 0 = 1 ∧ closed.hub.queue = [] := by
  have ok : Builder.build { useEnvironment := false } none (Hub.create 1) = .ok plain := rfl
  obtain ⟨sessions, complete, -⟩ := close_complete (Hub.isClear_create 1) ok follows_noticeLeft
  have returns := (sessions (Session.mk .scripted { resolver := noticeLeft } true) rfl).1
  obtain ⟨destroyed, drained, -⟩ := complete _ returns
  exact ⟨destroyed 0 (by decide), drained⟩

end Blocking

end HostLookup
