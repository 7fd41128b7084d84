import HostLookup.Hub

/-! The steps of a hub. Programs do things with it at any time, and the callbacks of its queue do the same
things when they run; a journal says what was queued, what has run, and what became of the watchers. -/
namespace HostLookup.Hub

inductive Queued (κ : Type) where
  | callback (callback : κ)
  /-- Of a flush, which returns when its marker has run or is dropped. -/
  | marker (flush : Nat)
deriving DecidableEq, Repr

inductive Deed (κ : Type) where
  | setPid (pid : Nat)
  | push (callback : κ)
  | flush
  | reinit
  | watch
  | start (watcher : Nat) (callback : κ)
  | stop (watcher : Nat)
  | drop (watcher : Nat)
  | release

inductive Note (κ : Type) where
  | looked (pid : Nat)
  | started (watcher : Nat) (callback : κ)
  | stopped (watcher : Nat)
  | queued (item : Queued κ)
  | ran (item : Queued κ)

namespace Note

variable {κ : Type}

def pid? : Note κ → Option Nat
  | .looked pid => some pid
  | _ => none

def queued? : Note κ → Option (Queued κ)
  | .queued item => some item
  | _ => none

def ran? : Note κ → Option (Queued κ)
  | .ran item => some item
  | _ => none

def started? (watcher : Nat) : Note κ → Option (Option κ)
  | .started other callback => if other = watcher then some (some callback) else none
  | .stopped other => if other = watcher then some none else none
  | _ => none

end Note

structure State (κ : Type) where
  hub : Hub (Queued κ)
  held : Bool := true
  /-- The watchers that were made and not dropped. -/
  watchers : List Nat := []
  flushes : Nat := 0
  journal : List (Note κ) := []

variable {κ : Type}

/-- The callbacks that a look at the process number queues. -/
def notices (hub : Hub κ) : List κ :=
  if hub.seenPid = hub.livePid then [] else hub.watchers.map (·.2)

namespace State

def create (pid : Nat) : State κ :=
  { hub := .create pid, journal := [.looked pid] }

def queued (s : State κ) : List (Queued κ) :=
  s.journal.filterMap Note.queued?

def ran (s : State κ) : List (Queued κ) :=
  s.journal.filterMap Note.ran?

def recorded? (s : State κ) : Option Nat :=
  (s.journal.filterMap Note.pid?).getLast?

/-- The callback that a watcher was last started with, unless it was stopped or dropped since. -/
def started? (s : State κ) (watcher : Nat) : Option κ :=
  ((s.journal.filterMap (Note.started? watcher)).getLast?).join

/-- Without a handle no watcher is active. -/
def isActive (s : State κ) (watcher : Nat) : Bool :=
  s.held && s.hub.isActive watcher

/-- A flush that was begun waits while its marker is in the queue. -/
def Returned (s : State κ) (flush : Nat) : Prop :=
  flush < s.flushes ∧ .marker flush ∉ s.hub.queue

def arrivals (s : State κ) (items : List (Queued κ)) : List (Note κ) :=
  if s.hub.alive then items.map .queued else []

def push (s : State κ) (item : Queued κ) : State κ :=
  { s with hub := s.hub.push item, journal := s.journal ++ s.arrivals [item] }

def reinit (s : State κ) : State κ :=
  { s with
    hub := s.hub.reinit.2
    journal := s.journal ++ .looked s.hub.livePid :: s.arrivals s.hub.notices }

def start (s : State κ) (watcher : Nat) (callback : κ) : State κ :=
  { s with
    hub := s.hub.start watcher (.callback callback)
    journal := s.journal ++ [.started watcher callback] }

def stop (s : State κ) (watcher : Nat) : State κ :=
  { s with hub := s.hub.stop watcher, journal := s.journal ++ [.stopped watcher] }

/-- Without a handle nothing is done with the hub, and what is not there cannot be started. -/
def perform (s : State κ) : Deed κ → State κ
  | .setPid pid => { s with hub := s.hub.setPid pid }
  | .push callback => if s.held then s.push (.callback callback) else s
  | .flush =>
    if s.held then { s.push (.marker s.flushes) with flushes := s.flushes + 1 } else s
  | .reinit => if s.held then s.reinit else s
  | .watch =>
    if s.held then { s with hub := s.hub.watch.2, watchers := s.watchers ++ [s.hub.watch.1] } else s
  | .start watcher callback =>
    if s.held && s.watchers.contains watcher then s.start watcher callback else s
  | .stop watcher => if s.watchers.contains watcher then s.stop watcher else s
  | .drop watcher =>
    if s.watchers.contains watcher then
      { s.stop watcher with watchers := s.watchers.filter (· != watcher) }
    else s
  | .release => { s with held := false }

def performAll (s : State κ) (deeds : List (Deed κ)) : State κ :=
  deeds.foldl perform s

def took (s : State κ) (item : Queued κ) (hub : Hub (Queued κ)) : State κ :=
  { s with hub, journal := s.journal ++ [.ran item] }

@[simp] theorem hub_took (s : State κ) (item : Queued κ) (hub : Hub (Queued κ)) :
    (s.took item hub).hub = hub := rfl

/-- Runs the first of the queue; `deeds` is what it does if it is a callback. -/
def turn (s : State κ) (deeds : List (Deed κ)) : State κ :=
  match s.hub.next? with
  | none => s
  | some (.callback callback, hub) => (s.took (.callback callback) hub).performAll deeds
  | some (.marker flush, hub) => s.took (.marker flush) hub

end State

inductive Event (κ : Type) where
  | deed (deed : Deed κ)
  | turn (deeds : List (Deed κ))
  | shutdown

namespace State

def step (s : State κ) : Event κ → State κ
  | .deed deed => s.perform deed
  | .turn deeds => s.turn deeds
  | .shutdown => { s with hub := s.hub.shutdown }

def run (s : State κ) (events : List (Event κ)) : State κ :=
  events.foldl step s

end State

end HostLookup.Hub
