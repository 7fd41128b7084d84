import HostLookup.Resolver.Builder
import HostLookup.Resolver.Printer
import HostLookup.Script.Scene

/-! A session with a scripted resolver: commands of its owner, each followed by a report. -/
namespace HostLookup.Script
open Resolver

inductive Delivery where
  | reply (reply : EngineReply)
  | drop

inductive Command where
  | call (name : String) (call : Call) (script : Script)
  | fork (pid : Nat)
  | setPid (pid : Nat)
  | reinit
  | close
  | release
  | obstruct (obstacle : Option LookupError)
  | deliver (name : String) (delivery : Delivery)
  | cancel (name : String)
  | look

inductive Outcome where
  | nothing
  | flag (value : Bool)
  | delivered (channel : Nat) (abandoned : Bool)
  | notHeld
  | noResolver

structure Report where
  outcome : Outcome
  issues : List (String × Issue)
  results : List (String × Result)
  held : List String
  destroyed : List Nat
  /-- Whether the resolver is closed, and its text; its owner sees neither after letting go of it. -/
  view : Option (Bool × String)

namespace Scene

def obey (s : Scene) : Command → Outcome × Scene
  | .call name call script =>
    if s.resolver.released then (.noResolver, s) else (.nothing, s.start name call script)
  | .fork pid =>
    let s := s.apply (.setPid pid)
    (.flag s.resolver.hub.reinit.1, s.apply .reinit)
  | .setPid pid => (.nothing, s.apply (.setPid pid))
  | .reinit => (.flag s.resolver.hub.reinit.1, s.apply .reinit)
  | .close => if s.resolver.released then (.noResolver, s) else (.nothing, s.apply .close)
  | .release => (.nothing, s.apply .release)
  | .obstruct obstacle => (.nothing, s.apply (.obstruct obstacle))
  | .deliver name delivery =>
    match s.heldFor? name with
    | none => (.notHeld, s)
    | some held =>
      let event := match delivery with
        | .reply reply => Event.deliver held.task reply
        | .drop => Event.abandon held.task
      (.delivered held.channel (s.resolver.task? held.task).isNone, s.apply event)
  | .cancel name => (.nothing, (s.tasksOf name).foldl (fun s task => s.apply (.cancel task)) s)
  | .look => (.nothing, s)

def report (s : Scene) (outcome : Outcome) : Report × Scene :=
  let ((issues, results), s) := s.takeNews
  ({ outcome, issues, results, held := s.heldNames, destroyed := s.resolver.destroyed
     view :=
       if s.resolver.released then none
       else some (s.resolver.isClosed, s.resolver.text channelText) }, s)

def perform (s : Scene) (command : Command) (settles : Bool) : Report × Scene :=
  let (outcome, s) := s.obey command
  (if settles then s.settle else s).report outcome

def performAll (s : Scene) : List (Command × Bool) → List Report × Scene
  | [] => ([], s)
  | (command, settles) :: rest =>
    let (report, s) := s.perform command settles
    let (reports, s) := s.performAll rest
    (report :: reports, s)

end Scene

def scene (builder : Builder) (obstacle : Option LookupError) (pid : Nat) :
    Except LookupError Scene := do
  let resolver ← builder.build obstacle (.create pid)
  return { resolver := { resolver with obstacle } }

end HostLookup.Script
