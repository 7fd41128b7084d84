import HostLookup.Resolver.Live
import HostLookup.Script.Session

/-! The blocking front end: a resolver on a hub of its own, which runs only while a lookup waits or the
resolver is closed. A lookup that never waits leaves the hub's queue alone. -/
namespace HostLookup.Blocking
open Resolver Script

inductive Backend where
  | scripted
  | live
deriving DecidableEq, Repr

structure Session where
  backend : Backend
  scene : Scene
  present : Bool := true

namespace Session

def answer (s : Session) : Session :=
  match s.backend with
  | .scripted => { s with scene := s.scene.answer }
  | .live => { s with scene := { s.scene with resolver := Live.answer s.scene.resolver } }

/-- Answers queries until the running lookup makes no other one at once. -/
def answerWithin : Nat → Session → Session
  | 0, s => s
  | fuel + 1, s => if s.scene.resolver.busy.isSome then answerWithin fuel s.answer else s

def lookUp (s : Session) (name : String) (call : Call) (script : Script) : Option Result × Session :=
  let task := s.scene.resolver.nextTask
  let scene := (s.scene.start name call script).apply (.poll task)
  let s := answerWithin (script.size + 8) { s with scene }
  (s.scene.resolver.results.lookup task, s)

def turnWithin : Nat → State → State
  | 0, s => s
  | fuel + 1, s => if s.hub.queue.isEmpty then s else turnWithin fuel (step s .turn)

/-- Runs what is queued on the hub; a callback queues at most one other. -/
def flush (s : State) : State :=
  turnWithin (2 * s.hub.queue.length + 1) s

def closeInner (s : Session) : Session :=
  { s with scene := s.scene.apply .close }

def close (s : Session) : Session :=
  let s := s.closeInner
  { s with scene := { s.scene with resolver := flush s.scene.resolver } }

inductive Command where
  | call (name : String) (call : Call) (script : Script)
  | close
  | closeInner
  | drop
  /-- The front end is dropped where it must not wait: what is queued is lost. -/
  | dropInside
  | describe

inductive Outcome where
  | nothing
  | noResolver
  | result (result : Result)
  | text (text : String)

structure Report where
  outcome : Outcome
  issues : List (String × Issue)
  destroyed : List Nat
  closed : Option Bool

def text (s : Session) (pid : String) : String :=
  let channelText := match s.backend with
    | .scripted => Scene.channelText
    | .live => Live.channelText
  Text.Description.whole "BlockingResolver"
    [("resolver", s.scene.resolver.textWith pid channelText)]

def obey (s : Session) (pid : String) : Command → Outcome × Session
  | .call name call script =>
    match s.lookUp name call script with
    | (some result, s) => (.result result, s)
    | (none, s) => (.nothing, s)
  | .close => (.nothing, s.close)
  | .closeInner => (.nothing, s.closeInner)
  | .drop => (.nothing, { s.close with present := false })
  | .dropInside => (.nothing, { s.closeInner with present := false })
  | .describe => (.text (s.text pid), s)

def report (s : Session) (outcome : Outcome) : Report × Session :=
  let ((issues, _), scene) := s.scene.takeNews
  ({ outcome
     issues := if s.backend = .scripted then issues else []
     destroyed := if s.backend = .scripted then s.scene.resolver.destroyed else []
     closed := if s.present then some s.scene.resolver.isClosed else none }, { s with scene })

def perform (s : Session) (pid : String) (command : Command) : Report × Session :=
  if s.present then
    let (outcome, s) := s.obey pid command
    s.report outcome
  else s.report .noResolver

def run (s : Session) (pid : String) : List Command → List Report
  | [] => []
  | command :: rest => (s.perform pid command).1 :: (s.perform pid command).2.run pid rest

def created (s : Session) : List Settings :=
  if s.backend = .scripted then s.scene.resolver.created else []

end Session

def scripted (builder : Builder) (obstacle : Option LookupError) : Except LookupError Session := do
  let scene ← Script.scene builder obstacle 0
  return { backend := .scripted, scene := { scene with hooked := false } }

def live (builder : Builder) : Except LookupError Session := do
  let resolver ← Live.build builder 0
  return { backend := .live, scene := { resolver } }

end HostLookup.Blocking
