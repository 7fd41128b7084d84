import HostLookup.Address
import HostLookup.Text.Numeral

/-! Reading addresses. A reader takes a list of characters and gives what it read and what is left;
an address literal is a text that one reader takes to its end. -/
namespace HostLookup
open Text

def skip (expected : Char) : List Char → Option (List Char)
  | [] => none
  | c :: rest => if c = expected then some rest else none

namespace Ipv4

/-- A decimal number below 256, of at most three digits and without a leading zero. -/
def readOctet (cs : List Char) : Option (UInt8 × List Char) :=
  let digits := cs.takeWhile fun c => (Numeral.digitValue c).isSome
  let rest := cs.dropWhile fun c => (Numeral.digitValue c).isSome
  if 3 < digits.length || (digits.length ≠ 1 && digits.head? = some '0') then none
  else ((Numeral.natural? digits).filter (· < 256)).map fun n => (.ofNat n, rest)

def read (cs : List Char) : Option (Ipv4 × List Char) := do
  let (a, cs) ← readOctet cs
  let (b, cs) ← readOctet (← skip '.' cs)
  let (c, cs) ← readOctet (← skip '.' cs)
  let (d, cs) ← readOctet (← skip '.' cs)
  return (⟨a, b, c, d⟩, cs)

def parse? (cs : List Char) : Option Ipv4 :=
  match read cs with
  | some (ip, []) => some ip
  | _ => none

end Ipv4

namespace Ipv6

def hexNumber (digits : List Char) : Nat :=
  digits.foldl (fun value c => value * 16 + (Numeral.hexValue c).getD 0) 0

/-- One to four hexadecimal digits; a longer run is no group. -/
def readGroup (cs : List Char) : Option (UInt16 × List Char) :=
  let digits := cs.takeWhile fun c => (Numeral.hexValue c).isSome
  let rest := cs.dropWhile fun c => (Numeral.hexValue c).isSome
  if digits.isEmpty || 4 < digits.length then none else some (.ofNat (hexNumber digits), rest)

structure Groups where
  groups : List UInt16
  closed : Bool
  rest : List Char

def separated (isFirst : Bool) (cs : List Char) : Option (List Char) :=
  if isFirst then some cs else skip ':' cs

/-- Reads at most `room` groups. Where there is room for two, an IPv4 address may stand for both, and
is the last thing read. -/
def readGroups : Nat → Bool → List Char → Groups
  | 0, _, cs => ⟨[], false, cs⟩
  | room + 1, isFirst, cs =>
    match if 0 < room then (separated isFirst cs).bind Ipv4.read else none with
    | some (ip, rest) => ⟨[ip.pair.1, ip.pair.2], true, rest⟩
    | none =>
      match (separated isFirst cs).bind readGroup with
      | some (group, rest) =>
        let more := readGroups room false rest
        { more with groups := group :: more.groups }
      | none => ⟨[], false, cs⟩

/-- Eight groups, or fewer with two colons in place of the zeros between the head and the tail; they
stand for one zero group at least, and an IPv4 address does not come before them. -/
def read (cs : List Char) : Option (Ipv6 × List Char) :=
  let head := readGroups 8 true cs
  match ofGroups? head.groups with
  | some ip => some (ip, head.rest)
  | none =>
    if head.closed then none
    else do
      let rest ← skip ':' (← skip ':' head.rest)
      let tail := readGroups (7 - head.groups.length) true rest
      let gap := List.replicate (8 - head.groups.length - tail.groups.length) 0
      let ip ← ofGroups? (head.groups ++ gap ++ tail.groups)
      return (ip, tail.rest)

def parse? (cs : List Char) : Option Ipv6 :=
  match read cs with
  | some (ip, []) => some ip
  | _ => none

end Ipv6

namespace Ip

def parse? (cs : List Char) : Option Ip :=
  match Ipv4.read cs with
  | some (ip, rest) => if rest.isEmpty then some (.v4 ip) else none
  | none => (Ipv6.parse? cs).map .v6

def ofText? (text : String) : Option Ip :=
  parse? text.toList

end Ip

end HostLookup
