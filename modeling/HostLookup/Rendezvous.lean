import HostLookup.Fault

/-! Rendezvous: a slot between the engine, which has a completion, and the flow that asked, which has a
waiter. Either half is used up by use, so a result is delivered and read at most once. -/
namespace HostLookup

structure Rendezvous (α : Type) where
  completion : Bool := true
  waiter : Bool := true
  slot : Option (Except Fault α) := none

namespace Rendezvous

variable {α : Type}

inductive Reading (α : Type) where
  /-- There is no waiter, or its result was read before. -/
  | gone
  | pending
  | result (result : Except Fault α)

/-- Delivers a result, which is lost if nobody waits for it; false without a completion. -/
def deliver (r : Rendezvous α) (result : Except Fault α) : Bool × Rendezvous α :=
  if r.completion then
    (true, { r with completion := false, slot := if r.waiter then some result else none })
  else (false, r)

def switch (r : Rendezvous α) (value : α) : Bool × Rendezvous α :=
  r.deliver (.ok value)

def throw (r : Rendezvous α) (fault : Fault) : Bool × Rendezvous α :=
  r.deliver (.error fault)

def dropCompletion (r : Rendezvous α) : Bool × Rendezvous α :=
  (r.completion, { r with completion := false })

/-- Whether there was a waiter to drop; a result that it did not read is lost. -/
def dropWaiter (r : Rendezvous α) : Bool × Rendezvous α :=
  (r.waiter, { r with waiter := false, slot := none })

def isAbandoned? (r : Rendezvous α) : Option Bool :=
  if r.completion then some (!r.waiter) else none

/-- Reads the result. A completion that is gone and delivered nothing reads as destruction. -/
def get (r : Rendezvous α) : Reading α × Rendezvous α :=
  if r.waiter then
    match r.slot with
    | some result => (.result result, { r with waiter := false, slot := none })
    | none =>
      if r.completion then (.pending, r)
      else (.result (.error .destruction), { r with waiter := false })
  else (.gone, r)

inductive Command (α : Type) where
  | pair
  | switch (value : α)
  | throw (fault : Fault)
  | deliver (result : Except Fault α)
  | dropCompletion
  | dropWaiter
  | isAbandoned
  | get

inductive Outcome (α : Type) where
  | nothing
  | gone
  | flag (value : Bool)
  | reading (reading : Reading α)

def Outcome.ofDelivery (there : Bool) : Outcome α :=
  if there then .nothing else .gone

/-- Carries out a command. A new pair takes the place of an old one. -/
def obey (r : Rendezvous α) : Command α → Outcome α × Rendezvous α
  | .pair => (.nothing, {})
  | .switch value => (r.switch value).map .ofDelivery id
  | .throw fault => (r.throw fault).map .ofDelivery id
  | .deliver result => (r.deliver result).map .ofDelivery id
  | .dropCompletion => r.dropCompletion.map .flag id
  | .dropWaiter => r.dropWaiter.map .flag id
  | .isAbandoned => ((r.isAbandoned?.map .flag).getD .gone, r)
  | .get => r.get.map .reading id

/-- Named pairs, the newest of a name first. A name without a pair has neither half. -/
abbrev Table (α : Type) := List (String × Rendezvous α)

namespace Table

def find (table : Table α) (name : String) : Rendezvous α :=
  (table.lookup name).getD ⟨false, false, none⟩

def set (table : Table α) (name : String) (r : Rendezvous α) : Table α :=
  (name, r) :: table.filter (·.1 != name)

def step (table : Table α) (name : String) (command : Command α) : Outcome α × Table α :=
  ((table.find name).obey command).map id (table.set name)

def run (table : Table α) : List (String × Command α) → List (Outcome α)
  | [] => []
  | (name, command) :: rest => (table.step name command).1 :: (table.step name command).2.run rest

def after (table : Table α) (commands : List (String × Command α)) : Table α :=
  commands.foldl (fun table (name, command) => (table.step name command).2) table

end Table

end Rendezvous

end HostLookup
