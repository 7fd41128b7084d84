import HostLookup.Address
import HostLookup.Fault

/-! What an engine learns from name servers: the addresses of a name, with the names that stand for it, and the
names of an address. -/
namespace HostLookup.Engine

inductive Miss where
  | noName
  | noRecords
  | failure
deriving DecidableEq, Repr

def Miss.fault : Miss → Fault
  | .noName => .notFound
  | .noRecords => .noData
  | .failure => .serverFailure

structure Link where
  name : String
  target : String
deriving DecidableEq, Repr

structure Resolution where
  addresses : List Ip
  links : List Link := []
deriving DecidableEq, Repr

structure Directory where
  forward : String → Except Miss Resolution
  reverse : Ip → Except Miss (List String)

/-- A dot at the end of a name is left out, but that of the root. -/
def trimRoot (name : String) : String :=
  if name.toList.getLast? = some '.' ∧ name.length ≠ 1 then String.ofList name.toList.dropLast else name

namespace Resolution

def canonicalName (resolution : Resolution) (asked : String) : String :=
  (resolution.links.getLast?.map fun link => trimRoot link.target).getD asked

def aliases (resolution : Resolution) : List String :=
  resolution.links.map fun link => trimRoot link.name

end Resolution

end HostLookup.Engine
