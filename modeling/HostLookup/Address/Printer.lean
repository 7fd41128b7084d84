import HostLookup.Address
import HostLookup.Text.Numeral

/-! The written form of an address. Four decimal numbers, or the shortest form of eight hexadecimal
groups, in which the first of the longest runs of two or more zero groups is left out. -/
namespace HostLookup
open Text

namespace Ipv4

def print (ip : Ipv4) : List Char :=
  Numeral.decimal ip.a.toNat ++ '.' :: Numeral.decimal ip.b.toNat ++
    '.' :: Numeral.decimal ip.c.toNat ++ '.' :: Numeral.decimal ip.d.toNat

end Ipv4

namespace Ipv6

def zeros (groups : List UInt16) : Nat :=
  (groups.takeWhile (· == 0)).length

/-- Where the first of the longest runs of zeros starts, and its length. `place` is the place of the
head of the list, `start` and `length` the best run so far. -/
def longestFrom (place start length : Nat) : List UInt16 → Nat × Nat
  | [] => (start, length)
  | group :: rest =>
    if length < zeros (group :: rest) then longestFrom (place + 1) place (zeros (group :: rest)) rest
    else longestFrom (place + 1) start length rest

def longest (groups : List UInt16) : Nat × Nat :=
  longestFrom 0 0 0 groups

def printGroups : List UInt16 → List Char
  | [] => []
  | [group] => Numeral.hexadecimal group.toNat
  | group :: rest => Numeral.hexadecimal group.toNat ++ ':' :: printGroups rest

def print (ip : Ipv6) : List Char :=
  match ip.mapped? with
  | some inner => [':', ':', 'f', 'f', 'f', 'f', ':'] ++ inner.print
  | none =>
    let (start, length) := longest ip.groups
    if 1 < length then
      printGroups (ip.groups.take start) ++ ':' :: ':' :: printGroups (ip.groups.drop (start + length))
    else printGroups ip.groups

end Ipv6

namespace Ip

def print : Ip → List Char
  | .v4 ip => ip.print
  | .v6 ip => ip.print

def text (ip : Ip) : String :=
  String.ofList ip.print

end Ip

end HostLookup
