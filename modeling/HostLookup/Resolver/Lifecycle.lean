import HostLookup.Hub
import HostLookup.Operation
import HostLookup.Settings

/-! The life of the channels of a resolver. One engine session at a time, the channel, is in the slot; a
channel leaves the slot when the process number has changed or the resolver is closed, and is torn down
later, by a callback of the hub. -/
namespace HostLookup.Resolver

structure Slot where
  generation : Nat
  channel : Nat
deriving DecidableEq, Repr

inductive Callback where
  | destroy (channel : Nat)
  | fork
deriving DecidableEq, Repr

structure Config where
  settings : Settings
  convention : Convention := .modern
  /-- Whether a channel drops the completions it holds when it is torn down. -/
  dropsHeld : Bool := true

/-- A channel that was asked for: the settings it was to have, the number of the process at that time, and
its generation or the error that its creation met. -/
structure Creation where
  settings : Settings
  pid : Nat
  outcome : Except LookupError Nat

structure Lifecycle where
  config : Config
  hub : Hub Callback
  watcher : Nat
  /-- The process number under which the slot was last filled. -/
  pid : Nat
  closed : Bool := false
  slot : Option Slot
  nextGeneration : Nat
  creations : List Creation
  destroyed : List Nat
  obstacle : Option LookupError := none

namespace Lifecycle

def generation (l : Lifecycle) : Option Nat :=
  l.slot.map (·.generation)

def isClosed (l : Lifecycle) : Bool :=
  l.slot.isNone

def generations (l : Lifecycle) : List Nat :=
  l.creations.filterMap (·.outcome.toOption)

def created (l : Lifecycle) : List Settings :=
  l.creations.filterMap fun creation => creation.outcome.toOption.map fun _ => creation.settings

def push (l : Lifecycle) (callback : Callback) : Lifecycle :=
  { l with hub := l.hub.push callback }

/-- Empties the slot; the channel that was in it is torn down later. -/
def detach (l : Lifecycle) : Lifecycle :=
  match l.slot with
  | none => l
  | some slot => push { l with slot := none } (.destroy slot.channel)

def install (l : Lifecycle) : Lifecycle :=
  match l.obstacle with
  | some e =>
    { l with
      slot := none
      creations := l.creations ++ [⟨l.config.settings, l.hub.livePid, .error e⟩] }
  | none =>
    { l with
      slot := some ⟨l.nextGeneration, l.destroyed.length⟩
      nextGeneration := l.nextGeneration + 1
      creations := l.creations ++ [⟨l.config.settings, l.hub.livePid, .ok l.nextGeneration⟩]
      destroyed := l.destroyed ++ [0] }

def close (l : Lifecycle) : Lifecycle :=
  detach { l with closed := true, hub := l.hub.stop l.watcher }

/-- The resolver's notice: replaces the channel if the process number is not the one it was built under. -/
def onFork (l : Lifecycle) : Lifecycle :=
  if l.hub.livePid = l.pid || l.closed then l
  else { l.detach.install with pid := l.hub.livePid }

def destroy (l : Lifecycle) (channel : Nat) : Lifecycle :=
  { l with destroyed := l.destroyed.modify channel (· + 1) }

def setPid (l : Lifecycle) (pid : Nat) : Lifecycle :=
  { l with hub := l.hub.setPid pid }

def reinit (l : Lifecycle) : Lifecycle :=
  { l with hub := l.hub.reinit.2 }

/-- The first channel is there before the watcher is started. -/
def build (config : Config) (obstacle : Option LookupError) (hub : Hub Callback) :
    Except LookupError Lifecycle :=
  match obstacle with
  | some e => .error e
  | none =>
    .ok
      { config
        hub := hub.watch.2.start hub.watch.1 .fork
        watcher := hub.watch.1
        pid := hub.livePid
        slot := some ⟨1, 0⟩
        nextGeneration := 2
        creations := [⟨config.settings, hub.livePid, .ok 1⟩]
        destroyed := [0] }

end Lifecycle

end HostLookup.Resolver
