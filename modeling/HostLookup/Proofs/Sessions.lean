import HostLookup.Blocking
import HostLookup.Blocking.Operation
import HostLookup.Proofs.Walk

/-! The sessions of the blocking front end carry out its operations: a lookup of a session that has a result is a
call, on either backend and with any script. -/
namespace HostLookup

namespace Resolver

variable {s : State} {id : Nat}

def Event.replies : Event → Bool
  | .answerNative _ | .answerEngine _ | .setPid _ | .reinit | .close => true
  | _ => false

def State.Serves (s : State) (id : Nat) : Prop :=
  ∀ other request, s.busy = some (other, request) → other = id

theorem State.Serves.retained {t : State} (serves : s.Serves id) (retains : Retains s t) : t.Serves id := by
  unfold State.Serves
  rw [retains.busy]
  exact serves

theorem Proceeds.serves {t : State} {event : Event} (proceeds : Proceeds s event t) (serves : s.Serves id)
    (own : ∀ worker, event = .poll worker → worker = id) : t.Serves id := by
  intro other request busy
  cases proceeds with
  | still apart stands notes =>
    rcases stands with same | idle
    · exact serves other request (same ▸ busy)
    · simp [idle] at busy
  | @goes worker u apart turn goes notes =>
    have mine : worker = id := by
      rcases turn with polled | ⟨earlier, asked⟩
      · exact own worker polled
      · exact serves worker earlier asked
    exact (goes.busy busy).trans mine

theorem serves_step (serves : s.Serves id) {event : Event} (replies : event.replies = true) :
    (step s event).Serves id := by
  have acted : (act s event).Serves id := by
    cases event with
    | answerNative reply => exact (proceeds_act s rfl).serves serves (by simp)
    | answerEngine reaction => exact (proceeds_act s rfl).serves serves (by simp)
    | setPid pid => exact serves.retained (.manage s (·.setPid pid))
    | reinit => exact serves.retained (.manage s Lifecycle.reinit)
    | close => exact serves.retained (.manage s Lifecycle.close)
    | _ => contradiction
  exact acted.retained (retains_settleOwner _)

theorem serves_run (serves : s.Serves id) {events : List Event}
    (replies : ∀ event ∈ events, event.replies = true) : (run s events).Serves id := by
  induction events generalizing s with
  | nil => exact serves
  | cons event rest ih =>
    exact ih (serves_step serves (replies event (by simp))) fun other member => replies other (by simp [member])

theorem serves_poll (idle : s.busy = none) (id : Nat) : (step s (.poll id)).Serves id := by
  have quiet : s.Serves id := fun other request busy => by simp [idle] at busy
  have polled : (act s (.poll id)).Serves id := (proceeds_act s rfl).serves quiet (by simp)
  exact polled.retained (retains_settleOwner _)

theorem idle_start (idle : s.busy = none) (call : Call) : (step s (.start call)).busy = none := by
  rw [step, (retains_settleOwner _).busy]
  rcases act_start s call with same | ⟨-, started⟩
  · rw [same, idle]
  · rw [started, (Quiet.startTask s call).busy, idle]

theorem Reachable.idle_of_concluded (reachable : Reachable s) {result : Result}
    (concluded : (id, result) ∈ s.results) {request : Request} (busy : s.busy = some (id, request)) : False := by
  have noted := State.mem_results.mp concluded
  have inside : id < s.nextTask := by
    by_contra beyond
    simp [reachable.notes_beyond (Nat.not_lt.mp beyond)] at noted
  obtain ⟨call, point, walk, stands⟩ := reachable.walks inside
  have waits := stands _ (State.place?_busy (reachable.coherent.away busy) busy)
  have finished := walk.finished_of_mem noted
  rw [finished] at waits
  contradiction

def Replied (s t : State) : Prop :=
  ∃ events : List Event, (∀ event ∈ events, event.replies = true) ∧ t = run s events

theorem Replied.refl (s : State) : Replied s s :=
  ⟨[], by simp, rfl⟩

theorem Replied.trans {t u : State} (first : Replied s t) (second : Replied t u) : Replied s u := by
  obtain ⟨events, replies, rfl⟩ := first
  obtain ⟨later, further, rfl⟩ := second
  exact ⟨events ++ later, List.forall_mem_append.mpr ⟨replies, further⟩, List.foldl_append.symm⟩

theorem Replied.step (s : State) {event : Event} (replies : event.replies = true) :
    Replied s (Resolver.step s event) :=
  ⟨[event], by simpa using replies, rfl⟩

theorem Live.replied_answer (s : State) : Replied s (Live.answer s) := by
  unfold Live.answer
  split
  · exact .refl s
  · exact .step s rfl
  · exact .step s rfl

end Resolver

namespace Script.Scene
open Resolver

theorem replied_runHook (s : Scene) (hook : Hook) : Replied s.resolver (s.runHook hook).resolver := by
  cases hook with
  | fork pid => exact (Replied.step s.resolver rfl).trans (.step _ rfl)
  | close => exact .step s.resolver rfl

theorem replied_runHooks (s : Scene) (hooks : List Hook) : Replied s.resolver (s.runHooks hooks).resolver := by
  have all : Replied s.resolver (hooks.foldl runHook s).resolver := by
    induction hooks generalizing s with
    | nil => exact .refl _
    | cons hook rest ih => exact (replied_runHook s hook).trans (ih _)
  unfold runHooks
  split
  · exact all
  · exact .refl _

theorem replied_answerEngine (s : Scene) (task channel : Nat) :
    Replied s.resolver (s.answerEngine task channel).resolver := by
  unfold answerEngine
  split
  · exact .step s.resolver rfl
  · split
    · exact .step s.resolver rfl
    · next action rest _ =>
      have hooks := replied_runHooks (s.setScript task { s.script task with engine := rest }) action.before
      exact hooks.trans (.step _ rfl)

theorem replied_answerNative (s : Scene) (task : Nat) : Replied s.resolver (s.answerNative task).resolver := by
  unfold answerNative
  split
  · exact .step s.resolver rfl
  · next action rest _ =>
    have hooks := replied_runHooks (s.setScript task { s.script task with native := rest }) action.before
    exact hooks.trans (.step _ rfl)

theorem replied_answer (s : Scene) : Replied s.resolver s.answer.resolver := by
  unfold answer
  split
  · exact .refl _
  · exact replied_answerEngine s _ _
  · exact replied_answerNative s _

end Script.Scene

namespace Blocking.Session
open Resolver Script

variable {s : Session}

theorem replied_answer (s : Session) : Replied s.scene.resolver s.answer.scene.resolver := by
  unfold answer
  split
  · exact s.scene.replied_answer
  · exact Live.replied_answer s.scene.resolver

theorem replied_answerWithin (fuel : Nat) (s : Session) :
    Replied s.scene.resolver (answerWithin fuel s).scene.resolver := by
  induction fuel generalizing s with
  | zero => exact .refl _
  | succ fuel ih =>
    unfold answerWithin
    split
    · exact (replied_answer s).trans (ih _)
    · exact .refl _

/-- What a session gives as the result of a lookup is that of a call, and the call has returned. -/
theorem lookUp_calls (reachable : Reachable s.scene.resolver) (rests : Rests s.scene.resolver) {name : String}
    {call : Call} {script : Script} {result : Result} {after : Session}
    (returned : s.lookUp name call script = (some result, after)) :
    Calls s.scene.resolver call result after.scene.resolver := by
  obtain ⟨found, rfl⟩ := Prod.mk.inj returned
  let task := s.scene.resolver.nextTask
  let polled : Session := { s with scene := (s.scene.start name call script).apply (.poll task) }
  obtain ⟨course, replies, answered⟩ := replied_answerWithin (script.size + 8) polled
  have whole : (answerWithin (script.size + 8) polled).scene.resolver =
      Resolver.run s.scene.resolver (.start call :: .poll task :: course) := answered
  change (answerWithin (script.size + 8) polled).scene.resolver.results.lookup task = some result at found
  change Calls s.scene.resolver call result (answerWithin (script.size + 8) polled).scene.resolver
  rw [whole] at found ⊢
  have concluded : (task, result) ∈ (Resolver.run s.scene.resolver (.start call :: .poll task :: course)).results := by
    obtain ⟨before, later, results, -⟩ := List.lookup_eq_some_iff.mp found
    rw [results]
    exact List.mem_append_right _ (List.mem_cons_self ..)
  have serves := serves_run (serves_poll (idle_start rests.idle call) task) replies
  have kept : ∀ event ∈ Event.start call :: .poll task :: course, event ≠ .release := by
    simp only [List.forall_mem_cons]
    refine ⟨by simp, by simp, fun event member same => ?_⟩
    subst same
    exact absurd (replies _ member) (by simp [Event.replies])
  refine .returns concluded ⟨?_, (released_run_of_ne kept).trans rests.owned⟩
  by_contra busy
  obtain ⟨⟨other, request⟩, stopped⟩ := Option.ne_none_iff_exists'.mp busy
  obtain rfl := serves other request stopped
  exact (reachable.run _).idle_of_concluded concluded stopped

end Blocking.Session

end HostLookup
