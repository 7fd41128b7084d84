import HostLookup.Proofs.Frame
import HostLookup.Resolver.Builder

/-! Reachable states: those that a resolver comes to by any events, in any order, on a hub that runs and on
which nothing of it was before it was built. -/
namespace HostLookup

structure Hub.IsClear {κ : Type} (hub : Hub κ) : Prop where
  alive : hub.alive = true
  queue : hub.queue = []
  watchers : hub.watchers = []

theorem Hub.isClear_create {κ : Type} (pid : Nat) : (Hub.create pid : Hub κ).IsClear :=
  ⟨rfl, rfl, rfl⟩

namespace Resolver

/-- The states that admitted events lead to. -/
inductive Reached (admits : State → Event → Prop) : State → Prop
  | built {builder : Builder} {obstacle : Option LookupError} {hub : Hub Callback} {s : State}
      (clear : hub.IsClear) (ok : builder.build obstacle hub = .ok s) : Reached admits s
  | step {s : State} {event : Event} (before : Reached admits s) (admitted : admits s event) :
      Reached admits (step s event)

def Reachable (s : State) : Prop :=
  Reached (fun _ _ => True) s

variable {admits : State → Event → Prop} {s : State}

theorem Reached.reachable (reached : Reached admits s) : Reachable s := by
  induction reached with
  | built clear ok => exact .built clear ok
  | step _ _ ih => exact .step ih trivial

theorem Reached.run (reached : Reached admits s) {events : List Event}
    (admitted : ∀ event ∈ events, ∀ s, admits s event) : Reached admits (run s events) := by
  induction events generalizing s with
  | nil => exact reached
  | cons event rest ih =>
    exact ih (reached.step (admitted event (by simp) s)) fun other member =>
      admitted other (by simp [member])

theorem Reachable.step (reachable : Reachable s) (event : Event) : Reachable (step s event) :=
  Reached.step reachable trivial

theorem Reachable.run (reachable : Reachable s) (events : List Event) :
    Reachable (run s events) :=
  Reached.run reachable fun _ _ _ => trivial

theorem run_concat (s : State) (events : List Event) (event : Event) :
    Resolver.run s (events ++ [event]) = Resolver.step (Resolver.run s events) event :=
  List.foldl_concat _ _ _ _

def initial (config : Config) (hub : Hub Callback) : State :=
  { config
    hub := hub.watch.2.start hub.watch.1 .fork
    watcher := hub.watch.1
    pid := hub.livePid
    slot := some ⟨1, 0⟩
    nextGeneration := 2
    creations := [⟨config.settings, hub.livePid, .ok 1⟩]
    destroyed := [0] }

def plain : State :=
  initial { settings := {} } (Hub.create 1)

theorem reached_plain : Reached admits plain :=
  @Reached.built admits { useEnvironment := false } none (Hub.create 1) plain (Hub.isClear_create 1) rfl

theorem build_eq {builder : Builder} {obstacle : Option LookupError} {hub : Hub Callback}
    (ok : builder.build obstacle hub = .ok s) :
    obstacle = none ∧ ∃ config : Config, s = initial config hub := by
  unfold Builder.build at ok
  cases settings : builder.finalSettings with
  | error e => simp [settings, bind, Except.bind] at ok
  | ok settings =>
    cases obstacle with
    | some e => simp [settings, bind, Except.bind, State.build, Lifecycle.build] at ok
    | none =>
      simp only [settings, bind, Except.bind, State.build, Lifecycle.build, pure, Except.pure,
        Except.ok.injEq] at ok
      exact ⟨rfl, _, ok.symm⟩

open Lifecycle in
theorem Custody.of_built {builder : Builder} {obstacle : Option LookupError} {hub : Hub Callback}
    (clear : hub.IsClear) (ok : builder.build obstacle hub = .ok s) : Custody s.toLifecycle := by
  obtain ⟨-, config, rfl⟩ := build_eq ok
  unfold initial
  refine ⟨clear.alive, ?_, rfl, rfl, ?_, ?_, ?_⟩
  · simp [Hub.start, Hub.stop, Hub.watch, clear.watchers]
  · simp
  · simp
  · intro channel
    simp only [teardowns, timesQueued, timesDestroyed, channel?, Hub.start, Hub.watch, clear.queue]
    cases channel <;> simp

theorem Reachable.lifecycle {P : Lifecycle → Prop} (reachable : Reachable s)
    (built : ∀ {builder : Builder} {obstacle : Option LookupError} {hub : Hub Callback} {s : State},
      hub.IsClear → builder.build obstacle hub = .ok s → P s.toLifecycle)
    (kept : ∀ l change, P l → P (Lifecycle.apply l change)) : P s.toLifecycle := by
  induction reachable with
  | built clear ok => exact built clear ok
  | @step s event _ _ ih =>
    rcases toLifecycle_step s event with same | closed
    · rw [same]
      exact kept _ _ ih
    · rw [closed]
      exact kept _ .close (kept _ _ ih)

theorem Reachable.custody (reachable : Reachable s) : Lifecycle.Custody s.toLifecycle :=
  reachable.lifecycle Custody.of_built fun _ change custody => custody.apply change

end Resolver

end HostLookup
