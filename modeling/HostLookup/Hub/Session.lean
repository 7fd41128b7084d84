import HostLookup.Hub.Step
import HostLookup.Text.Description

/-! A hub at work with labelled callbacks, some of which queue others when they run, and a log of what
has run. -/
namespace HostLookup.Hub
open Text

inductive Job where
  | callback (label : String) (children : List Job)
  | notice (label : String)

mutual

def Job.size : Job → Nat
  | .callback _ children => sizes children + 1
  | .notice _ => 1

def sizes : List Job → Nat
  | [] => 0
  | job :: rest => job.size + sizes rest

end

inductive Entry where
  | callback (label : String)
  | fork (label : String) (pid : Nat)
deriving DecidableEq, Repr

namespace Queued

def entries (pid : Nat) : Queued Job → List Entry
  | .callback (.callback label _) => [.callback label]
  | .callback (.notice label) => [.fork label pid]
  | .marker _ => []

def children : Queued Job → List Job
  | .callback (.callback _ children) => children
  | _ => []

def size : Queued Job → Nat
  | .callback job => job.size
  | .marker _ => 1

end Queued

def totalSize : List (Queued Job) → Nat
  | [] => 0
  | item :: rest => item.size + totalSize rest

theorem totalSize_append (items more : List (Queued Job)) :
    totalSize (items ++ more) = totalSize items + totalSize more := by
  induction items with
  | nil => simp [totalSize]
  | cons item rest ih =>
    simp only [List.cons_append, totalSize, ih]
    omega

theorem Queued.sizes_children (item : Queued Job) : sizes item.children < item.size := by
  cases item with
  | marker flush => exact Nat.zero_lt_one
  | callback job => cases job <;> simp [children, size, Job.size, sizes]

theorem totalSize_pushes (s : State Job) (jobs : List Job) :
    totalSize (s.performAll (jobs.map .push)).hub.queue ≤ totalSize s.hub.queue + sizes jobs := by
  induction jobs generalizing s with
  | nil => simp [State.performAll, sizes]
  | cons job rest ih =>
    have pushed : totalSize (s.perform (.push job)).hub.queue ≤ totalSize s.hub.queue + job.size := by
      simp only [State.perform, State.push, push]
      split
      · split <;> simp [totalSize_append, totalSize, Queued.size]
      · omega
    have later := ih (s.perform (.push job))
    simp only [State.performAll, List.map_cons, List.foldl_cons, sizes] at later ⊢
    omega

def runNext (s : State Job) : Option (List Entry × State Job) :=
  s.hub.queue.head?.map fun item =>
    (item.entries s.hub.livePid, s.step (.turn (item.children.map .push)))

theorem totalSize_runNext {s after : State Job} {entries : List Entry}
    (h : runNext s = some (entries, after)) : totalSize after.hub.queue < totalSize s.hub.queue := by
  unfold runNext at h
  cases queued : s.hub.queue with
  | nil => simp [queued] at h
  | cons item rest =>
    simp only [queued, List.head?_cons, Option.map_some, Option.some.injEq, Prod.mk.injEq] at h
    have less := item.sizes_children
    rw [← h.2]
    simp only [State.step, State.turn, next?, queued]
    cases item with
    | marker flush => simp [totalSize, Queued.size]
    | callback job =>
      refine Nat.lt_of_le_of_lt (totalSize_pushes _ _) ?_
      simp only [State.hub_took, totalSize]
      omega

def drain (s : State Job) : List Entry × State Job :=
  match _found : runNext s with
  | none => ([], s)
  | some (entries, after) => (entries ++ (drain after).1, (drain after).2)
termination_by totalSize s.hub.queue
decreasing_by all_goals exact totalSize_runNext _found

structure Session where
  state : State Job
  watchers : List (String × Nat) := []

inductive Command where
  | callback (job : Job)
  | flush
  | setPid (pid : Nat)
  | getPid
  | reinit
  | watcher (name : String)
  | start (name label : String)
  | stop (name : String)
  | isActive (name : String)
  | dropWatcher (name : String)
  | describe
  | describeWatcher (name : String)
  | dropHub
  | shutdown

inductive Outcome where
  | nothing
  | noHub
  | flag (value : Bool)
  | number (value : Nat)
  | text (value : String)
  | log (entries : List Entry)

def text {κ : Type} (hub : Hub κ) : String :=
  Description.excerpt "Hub"
    [("pid", Numeral.ofNat hub.seenPid), ("fork_watchers", Numeral.ofNat hub.watchers.length)]

namespace Session

def create (pid : Nat) : Session :=
  { state := .create pid }

def find? (s : Session) (name : String) : Option Nat :=
  s.watchers.lookup name

def perform (s : Session) (deed : Deed Job) : Session :=
  { s with state := s.state.step (.deed deed) }

def withWatcher (s : Session) (name : String) (deed : Nat → Deed Job) : Session :=
  match s.find? name with
  | some watcher => s.perform (deed watcher)
  | none => s

def watcherText (s : Session) (watcher : Nat) : String :=
  Description.whole "ForkWatcher"
    [("id", Numeral.ofNat watcher), ("active", Description.boolean (s.state.isActive watcher))]

def forget (s : Session) (name : String) : Session :=
  { s.withWatcher name .drop with watchers := s.watchers.filter (·.1 != name) }

def withHub (s : Session) (command : Session → Outcome × Session) : Outcome × Session :=
  if s.state.held then command s else (.noHub, s)

/-- A flush queues a marker and runs what is queued, and then what that has queued. -/
def flush (s : Session) : Outcome × Session :=
  let (entries, state) := drain (s.perform .flush).state
  (.log entries, { s with state })

/-- A new watcher takes the place of one of the same name, which is dropped. -/
def addWatcher (s : Session) (name : String) : Session :=
  let watcher := s.state.hub.watch.1
  let s := (s.perform .watch).forget name
  { s with watchers := (name, watcher) :: s.watchers }

def step (s : Session) : Command → Outcome × Session
  | .callback job => s.withHub fun s => (.nothing, s.perform (.push job))
  | .flush => s.withHub flush
  | .setPid pid => (.nothing, s.perform (.setPid pid))
  | .getPid => s.withHub fun s => (.number s.state.hub.livePid, s)
  | .reinit => s.withHub fun s => (.flag s.state.hub.reinit.1, s.perform .reinit)
  | .watcher name => s.withHub fun s => (.nothing, s.addWatcher name)
  | .start name label => (.nothing, s.withWatcher name fun watcher => .start watcher (.notice label))
  | .stop name => (.nothing, s.withWatcher name .stop)
  | .isActive name => (.flag ((s.find? name).any s.state.isActive), s)
  | .dropWatcher name => (.nothing, s.forget name)
  | .describe => s.withHub fun s => (.text s.state.hub.text, s)
  | .describeWatcher name =>
    match s.find? name with
    | some watcher => (.text (s.watcherText watcher), s)
    | none => (.nothing, s)
  | .dropHub => (.nothing, s.perform .release)
  | .shutdown => (.nothing, { s with state := s.state.step .shutdown })

def run (s : Session) : List Command → List Outcome
  | [] => []
  | command :: rest => (s.step command).1 :: (s.step command).2.run rest

end Session

end HostLookup.Hub
