import HostLookup.Resolver.Step

/-! Scripts: what an engine and a platform do with the queries of one lookup, in order, and what happens
while they are asked. -/
namespace HostLookup

inductive Hook where
  | fork (pid : Nat)
  | close

inductive Payload where
  | entry (host : HostEntry)
  | records (found : List Record)
  | node (info : NodeInfo)

namespace Payload

/-- A payload that fits no query of its kind is a fault. -/
def reply : Payload → EngineReply
  | .entry host, .hostByName .. => .ok host
  | .entry host, .hostByAddress _ => .ok host
  | .records found, .addressInfo _ => .ok found
  | .node info, .nameInfo .. => .ok info
  | _, _ => .error (.other "unfit answer")

end Payload

inductive NativePayload where
  | entry (host : HostEntry)
  | infos (found : List AddressInfo)

namespace NativePayload

def reply : NativePayload → NativeReply
  | .entry host, .hostByName _ => .ok host
  | .infos found, .addressInfo .. => .ok found
  | _, _ => .error (.system "unfit answer")

end NativePayload

def EngineReply.fail (fault : Fault) : EngineReply := fun _ => .error fault

def NativeReply.fail (error : LookupError) : NativeReply := fun _ => .error error

structure EngineAction where
  before : List Hook := []
  reaction : Resolver.Reaction

structure NativeAction where
  before : List Hook := []
  reply : NativeReply

structure Script where
  engine : List EngineAction := []
  native : List NativeAction := []

namespace Script

def size (script : Script) : Nat :=
  script.engine.foldr (fun action size => action.before.length + 1 + size) 0 +
    script.native.foldr (fun action size => action.before.length + 1 + size) 0

end Script

end HostLookup
