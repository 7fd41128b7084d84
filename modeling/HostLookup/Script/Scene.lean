import HostLookup.Script

/-! A resolver whose lookups follow scripts, on a scheduler with one thread: what was woken first runs
first. A query beyond the end of its script fails, and so does one on a channel that was torn down. -/
namespace HostLookup.Script
open Resolver

structure Actor where
  name : String
  task : Nat
  script : Script

structure Scene where
  resolver : State
  actors : List Actor := []
  hooked : Bool := true

namespace Scene

def apply (s : Scene) (event : Event) : Scene :=
  { s with resolver := step s.resolver event }

def script (s : Scene) (task : Nat) : Script :=
  ((s.actors.find? (·.task == task)).map (·.script)).getD {}

def setScript (s : Scene) (task : Nat) (script : Script) : Scene :=
  { s with actors := s.actors.map fun actor =>
      if actor.task = task then { actor with script } else actor }

def runHook (s : Scene) : Hook → Scene
  | .fork pid => (s.apply (.setPid pid)).apply .reinit
  | .close => s.apply .close

def runHooks (s : Scene) (hooks : List Hook) : Scene :=
  if s.hooked then hooks.foldl runHook s else s

def wasDestroyed (s : Scene) (channel : Nat) : Bool :=
  (s.resolver.destroyed[channel]?).any (0 < ·)

def answerEngine (s : Scene) (task channel : Nat) : Scene :=
  if s.wasDestroyed channel then s.apply (.answerEngine (.refuse .destruction))
  else
    match (s.script task).engine with
    | [] => s.apply (.answerEngine (.refuse (.other "unscripted")))
    | action :: rest =>
      let s := s.setScript task { s.script task with engine := rest }
      (s.runHooks action.before).apply (.answerEngine action.reaction)

def answerNative (s : Scene) (task : Nat) : Scene :=
  match (s.script task).native with
  | [] => s.apply (.answerNative (.fail (.system "unscripted native call")))
  | action :: rest =>
    let s := s.setScript task { s.script task with native := rest }
    (s.runHooks action.before).apply (.answerNative action.reply)

def answer (s : Scene) : Scene :=
  match s.resolver.busy with
  | none => s
  | some (task, .engine _ _ channel _ _) => s.answerEngine task channel
  | some (task, _) => s.answerNative task

def next? (s : Scene) : Option Scene :=
  if s.resolver.busy.isSome then some s.answer
  else
    match s.resolver.ready with
    | [] => none
    | .hub :: _ => some (s.apply .turn)
    | .task task :: _ => some (s.apply (.poll task))

/-- No more steps than this are taken before nothing is left to run: every step uses up a scripted action,
a queued callback or a wake-up, or ends an attempt after a change of the slot. -/
def budget (s : Scene) : Nat :=
  let size := s.actors.foldr (fun actor size => actor.script.size + 1 + size) 0 + s.resolver.tasks.length +
    s.resolver.hub.queue.length + s.resolver.ready.length + s.resolver.held.length + 4
  4 * size * size

def settleWithin : Nat → Scene → Scene
  | 0, s => s
  | fuel + 1, s =>
    match s.next? with
    | none => s
    | some s => settleWithin fuel s

def settle (s : Scene) : Scene :=
  settleWithin s.budget s

def start (s : Scene) (name : String) (call : Call) (script : Script) : Scene :=
  { s.apply (.start call) with
    actors := s.actors ++ [⟨name, s.resolver.nextTask, script⟩] }

def tasksOf (s : Scene) (name : String) : List Nat :=
  (s.actors.filter (·.name == name)).map (·.task)

def nameOf (s : Scene) (task : Nat) : String :=
  ((s.actors.find? (·.task == task)).map (·.name)).getD ""

def heldFor? (s : Scene) (name : String) : Option Held :=
  s.resolver.held.find? fun held => (s.tasksOf name).contains held.task

def heldNames (s : Scene) : List String :=
  (s.resolver.held.map fun held => s.nameOf held.task).mergeSort fun a b => !(b < a)

def takeNews (s : Scene) : (List (String × Issue) × List (String × Result)) × Scene :=
  ((s.resolver.issues.map fun (task, issue) => (s.nameOf task, issue),
      s.resolver.results.map fun (task, result) => (s.nameOf task, result)),
    { s with resolver := { s.resolver with journal := [] } })

def channelText (channel : Nat) : String :=
  "Engine#" ++ Text.Numeral.ofNat channel

end Scene

end HostLookup.Script
