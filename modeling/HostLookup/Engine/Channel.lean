import HostLookup.Engine

/-! What is to be seen of a channel of the built-in engine: the queries that were accepted and have not ended, and how
the others have. Tearing it down ends all of them, and no other is accepted after that. -/
namespace HostLookup.Engine

structure Outcome where
  query : EngineQuery
  result : Except Fault query.Answer

structure Channel where
  destroyed : Bool := false
  nextQuery : Nat := 0
  tracked : List (Nat × EngineQuery) := []
  ended : List (Nat × Outcome) := []

namespace Channel

/-- Starts a query; the arguments are checked before the channel is. -/
def issue (c : Channel) (query : EngineQuery) : Except Fault (Nat × Channel) :=
  match refusal? query with
  | some fault => .error fault
  | none =>
    if c.destroyed then .error .destruction
    else .ok (c.nextQuery,
      { c with nextQuery := c.nextQuery + 1, tracked := c.tracked ++ [(c.nextQuery, query)] })

def conclude (c : Channel) (reply : EngineReply) (id : Nat) : Channel :=
  match c.tracked.lookup id with
  | none => c
  | some query =>
    { c with
      tracked := c.tracked.filter (·.1 != id)
      ended := c.ended ++ [(id, ⟨query, reply query⟩)] }

def destroy (c : Channel) : Channel :=
  if c.destroyed then c
  else
    { c with
      destroyed := true
      tracked := []
      ended := c.ended ++ c.tracked.map fun (id, query) => (id, ⟨query, .error .destruction⟩) }

def result? (c : Channel) (id : Nat) : Option Outcome :=
  c.ended.lookup id

end Channel

end HostLookup.Engine
