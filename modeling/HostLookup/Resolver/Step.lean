import HostLookup.Resolver.State

/-! The steps of a resolver. Everything that can happen to one is an event, and a step is total: an event
that does not fit the state changes nothing. A poll stops at each query until an event answers it. -/
namespace HostLookup.Resolver

inductive Reaction where
  | refuse (fault : Fault)
  | complete (reply : EngineReply)
  | hold
  | drop

/-- The reply that a waiter reads when its completion was dropped. -/
def lost : EngineReply := fun _ => .error .destruction

def Reaction.reply? : Reaction → Option EngineReply
  | .refuse fault => some fun _ => .error fault
  | .complete reply => some reply
  | .hold => none
  | .drop => some lost

/-- A failure that the replacement of the channel may have caused: it is of the family of the lookup, and the
generation of the slot is not what it was at the start of the attempt. -/
def isStale (family : ErrorKind) (start finish : Option Nat) : Result → Bool
  | .error e => e.kind == family && finish != start
  | .ok _ => false

namespace State

def close (s : State) : State :=
  s.manage Lifecycle.close

def settleOwner (s : State) : State :=
  if s.released && s.tasks.isEmpty && s.busy.isNone then s.close else s

def conclude (s : State) (id : Nat) (result : Result) : State :=
  { s.note id (.concluded result) with busy := none }

def ask (s : State) (id : Nat) (request : Request) : State :=
  { s.note id (.asked request.issue) with busy := some (id, request) }

/-- The first step of what is left of an attempt: a query, or the attempt's result. -/
def advance (s : State) (loop : Loop) (generation : Option Nat) : Attempt → Request ⊕ Result
  | .finish result => .inr result
  | .native query next => .inl (.native loop generation query next)
  | .engine query next =>
    match s.slot with
    | none => .inr (.error .closed)
    | some slot => .inl (.engine loop generation slot.channel query next)

def begin (s : State) (id : Nat) (loop : Loop) : State :=
  let started := s.note id (.began s.generation)
  match s.advance loop s.generation loop.body with
  | .inl request => started.ask id request
  | .inr result => (started.note id (.ended s.generation result)).conclude id (loop.finish result)

def resume (s : State) (id : Nat) (loop : Loop) (generation : Option Nat) (attempt : Attempt) :
    State :=
  match s.advance loop generation attempt with
  | .inl request => s.ask id request
  | .inr result =>
    let ended := s.note id (.ended s.generation result)
    if isStale loop.family generation s.generation result then ended.begin id loop
    else ended.conclude id (loop.finish result)

def follow (s : State) (id : Nat) : Plan → State
  | .finish result => s.conclude id result
  | .native query next => s.ask id (.plan query next)
  | .attempts loop => s.begin id loop

def poll (s : State) (id : Nat) : State :=
  let woken := { s with ready := s.ready.erase (.task id) }
  match s.task? id with
  | none => woken
  | some task =>
    if task.cancelled then woken.removeTask id
    else
      match task.stage with
      | .fresh call => (woken.removeTask id).follow id (call.plan s.config.convention)
      | .waiting loop generation query next (some reply) =>
        ((woken.removeTask id).note id (.heard (.engine query reply))).resume id loop generation
          (next reply)
      | .waiting _ _ _ _ none => woken

def answerNative (s : State) (reply : NativeReply) : State :=
  match s.busy with
  | some (id, .plan query next) =>
    (s.note id (.heard (.native query (reply query)))).follow id (next (reply query))
  | some (id, .native loop generation query next) =>
    (s.note id (.heard (.native query (reply query)))).resume id loop generation
      (next (reply query))
  | _ => s

def answerEngine (s : State) (reaction : Reaction) : State :=
  match s.busy with
  | some (id, .engine loop generation channel query next) =>
    match reaction.reply? with
    | some reply =>
      (s.note id (.heard (.engine query (reply query)))).resume id loop generation
        (next (reply query))
    | none =>
      { s with
        busy := none
        tasks := s.tasks ++ [⟨id, .waiting loop generation query next none, false⟩]
        held := s.held ++ [⟨id, channel⟩] }
  | _ => s

def receive (reply : EngineReply) (task : Task) : Task :=
  match task.stage with
  | .waiting loop generation query next none =>
    { task with stage := .waiting loop generation query next (some (reply query)) }
  | _ => task

def signal (s : State) (id : Nat) (reply : EngineReply) : State :=
  match s.task? id with
  | none => s
  | some _ => (s.updateTask id (receive reply)).wake (.task id)

def heldOf? (s : State) (id : Nat) : Option Held :=
  s.held.find? (·.task == id)

/-- Takes the oldest completion for a task out of the engine's hands, and gives the task a reply. -/
def deliver (s : State) (id : Nat) (reply : EngineReply) : State :=
  match s.heldOf? id with
  | none => s
  | some held => signal { s with held := s.held.erase held } id reply

def destroy (s : State) (channel : Nat) : State :=
  let s := s.manage (·.destroy channel)
  if s.config.dropsHeld then
    let (lostHeld, held) := s.held.partition (·.channel == channel)
    lostHeld.foldl (fun s (completion : Held) => s.signal completion.task lost) { s with held }
  else s

def runCallback (s : State) : Callback → State
  | .destroy channel => s.destroy channel
  | .fork => s.manage Lifecycle.onFork

/-- Runs the first queued callback. The hub stays where it is among the ready until its queue is empty. -/
def turn (s : State) : State :=
  match s.hub.next? with
  | none => { s with ready := s.ready.erase .hub }
  | some (callback, hub) =>
    let s := runCallback { s with hub } callback
    if s.hub.queue.isEmpty then { s with ready := s.ready.erase .hub } else s

def startTask (s : State) (call : Call) : State :=
  wake
    { s.note s.nextTask (.started call) with
      nextTask := s.nextTask + 1
      tasks := s.tasks ++ [⟨s.nextTask, .fresh call, false⟩] }
    (.task s.nextTask)

def cancel (s : State) (id : Nat) : State :=
  match s.task? id with
  | none => s
  | some _ => (s.updateTask id fun task => { task with cancelled := true }).wake (.task id)

end State

inductive Event where
  | start (call : Call)
  | poll (task : Nat)
  | turn
  | answerNative (reply : NativeReply)
  | answerEngine (reaction : Reaction)
  | deliver (task : Nat) (reply : EngineReply)
  | abandon (task : Nat)
  | cancel (task : Nat)
  | setPid (pid : Nat)
  | reinit
  | close
  | release
  | obstruct (obstacle : Option LookupError)

/-- Tasks and callbacks wait for the end of a poll; anything else may happen while one has stopped. -/
def act (s : State) : Event → State
  | .start call => if s.released then s else s.startTask call
  | .poll task => if s.busy.isSome || .task task ∉ s.ready then s else s.poll task
  | .turn => if s.busy.isSome then s else s.turn
  | .answerNative reply => s.answerNative reply
  | .answerEngine reaction => s.answerEngine reaction
  | .deliver task reply => s.deliver task reply
  | .abandon task => s.deliver task lost
  | .cancel task => s.cancel task
  | .setPid pid => s.manage (·.setPid pid)
  | .reinit => s.manage Lifecycle.reinit
  | .close => s.close
  | .release => { s with released := true }
  | .obstruct obstacle => { s with obstacle }

def step (s : State) (event : Event) : State :=
  (act s event).settleOwner

def run (s : State) (events : List Event) : State :=
  events.foldl step s

end HostLookup.Resolver
