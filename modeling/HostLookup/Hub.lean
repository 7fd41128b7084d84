/-! The hub: a queue of callbacks that run at scheduling boundaries, in the order in which they were
queued, and watchers of the process number, whose callbacks are queued when it has changed. -/
namespace HostLookup

structure Hub (κ : Type) where
  livePid : Nat
  /-- The number when the hub last looked. -/
  seenPid : Nat
  queue : List κ := []
  watchers : List (Nat × κ) := []
  nextWatcher : Nat := 1
  alive : Bool := true

namespace Hub

variable {κ : Type}

def create (pid : Nat) : Hub κ :=
  { livePid := pid, seenPid := pid }

def setPid (hub : Hub κ) (pid : Nat) : Hub κ :=
  { hub with livePid := pid }

/-- A callback that cannot run any more is dropped. -/
def push (hub : Hub κ) (callback : κ) : Hub κ :=
  if hub.alive then { hub with queue := hub.queue ++ [callback] } else hub

def pushAll (hub : Hub κ) (callbacks : List κ) : Hub κ :=
  callbacks.foldl push hub

def next? (hub : Hub κ) : Option (κ × Hub κ) :=
  match hub.queue with
  | [] => none
  | callback :: queue => some (callback, { hub with queue })

def shutdown (hub : Hub κ) : Hub κ :=
  { hub with alive := false, queue := [] }

def watch (hub : Hub κ) : Nat × Hub κ :=
  (hub.nextWatcher, { hub with nextWatcher := hub.nextWatcher + 1 })

def stop (hub : Hub κ) (watcher : Nat) : Hub κ :=
  { hub with watchers := hub.watchers.filter (·.1 != watcher) }

/-- Starts a watcher; a callback it was started with before is replaced. -/
def start (hub : Hub κ) (watcher : Nat) (callback : κ) : Hub κ :=
  { hub with watchers := (hub.stop watcher).watchers ++ [(watcher, callback)] }

def isActive (hub : Hub κ) (watcher : Nat) : Bool :=
  hub.watchers.any (·.1 == watcher)

/-- Looks at the process number, and queues the callback of each started watcher if it has changed since
the last look. -/
def reinit (hub : Hub κ) : Bool × Hub κ :=
  if hub.seenPid = hub.livePid then (false, hub)
  else
    let seen := { hub with seenPid := hub.livePid }
    (true, seen.pushAll (seen.watchers.map (·.2)))

@[simp] theorem alive_push (hub : Hub κ) (callback : κ) : (hub.push callback).alive = hub.alive := by
  unfold push
  split <;> rfl

@[simp] theorem watchers_push (hub : Hub κ) (callback : κ) :
    (hub.push callback).watchers = hub.watchers := by
  unfold push
  split <;> rfl

@[simp] theorem livePid_push (hub : Hub κ) (callback : κ) :
    (hub.push callback).livePid = hub.livePid := by
  unfold push
  split <;> rfl

@[simp] theorem seenPid_push (hub : Hub κ) (callback : κ) :
    (hub.push callback).seenPid = hub.seenPid := by
  unfold push
  split <;> rfl

theorem queue_push {hub : Hub κ} (alive : hub.alive = true) (callback : κ) :
    (hub.push callback).queue = hub.queue ++ [callback] := by
  simp [push, alive]

theorem pushAll_cons (hub : Hub κ) (callback : κ) (rest : List κ) :
    hub.pushAll (callback :: rest) = (hub.push callback).pushAll rest := rfl

@[simp] theorem alive_pushAll (hub : Hub κ) (callbacks : List κ) :
    (hub.pushAll callbacks).alive = hub.alive := by
  induction callbacks generalizing hub with
  | nil => rfl
  | cons callback rest ih => rw [pushAll_cons, ih, alive_push]

@[simp] theorem watchers_pushAll (hub : Hub κ) (callbacks : List κ) :
    (hub.pushAll callbacks).watchers = hub.watchers := by
  induction callbacks generalizing hub with
  | nil => rfl
  | cons callback rest ih => rw [pushAll_cons, ih, watchers_push]

@[simp] theorem livePid_pushAll (hub : Hub κ) (callbacks : List κ) :
    (hub.pushAll callbacks).livePid = hub.livePid := by
  induction callbacks generalizing hub with
  | nil => rfl
  | cons callback rest ih => rw [pushAll_cons, ih, livePid_push]

@[simp] theorem seenPid_pushAll (hub : Hub κ) (callbacks : List κ) :
    (hub.pushAll callbacks).seenPid = hub.seenPid := by
  induction callbacks generalizing hub with
  | nil => rfl
  | cons callback rest ih => rw [pushAll_cons, ih, seenPid_push]

theorem queue_pushAll (hub : Hub κ) (callbacks : List κ) :
    (hub.pushAll callbacks).queue = hub.queue ++ if hub.alive then callbacks else [] := by
  induction callbacks generalizing hub with
  | nil => simp [pushAll]
  | cons callback rest ih =>
    rw [pushAll_cons, ih]
    by_cases alive : hub.alive <;> simp [push, alive]

@[simp] theorem alive_reinit (hub : Hub κ) : hub.reinit.2.alive = hub.alive := by
  unfold reinit
  split <;> simp

@[simp] theorem livePid_reinit (hub : Hub κ) : hub.reinit.2.livePid = hub.livePid := by
  unfold reinit
  split <;> simp

@[simp] theorem seenPid_reinit (hub : Hub κ) : hub.reinit.2.seenPid = hub.livePid := by
  unfold reinit
  split
  · next same => exact same
  · simp

@[simp] theorem watchers_reinit (hub : Hub κ) : hub.reinit.2.watchers = hub.watchers := by
  unfold reinit
  split <;> simp

end Hub

end HostLookup
