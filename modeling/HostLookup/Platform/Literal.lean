import HostLookup.Address.Parser
import HostLookup.Text.Numeral
import HostLookup.Text.Utf8

/-! Address literals as the platform reads them. An IPv4 literal has one to four numbers, decimal, octal or
hexadecimal, of which the last takes the bytes that are left; an IPv6 literal may name a scope. -/
namespace HostLookup.Platform
open Text

def characters (bytes : Bytes) : List Char :=
  bytes.map fun byte => Char.ofNat byte.toNat

def valueIn (base : Nat) (digits : List Char) : Nat :=
  digits.foldl (fun value c => value * base + (Numeral.hexValue c).getD 0) 0

def isDigitIn (base : Nat) (c : Char) : Bool :=
  (Numeral.hexValue c).any (· < base)

def readDigits (base : Nat) (cs : List Char) : Nat × List Char :=
  (valueIn base (cs.takeWhile (isDigitIn base)), cs.dropWhile (isDigitIn base))

/-- A number that starts with a digit. A zero at its head makes it octal, or hexadecimal if an x and a
digit follow. -/
def readNumber : List Char → Option (Nat × List Char)
  | '0' :: x :: c :: rest =>
    if (x = 'x' || x = 'X') && isDigitIn 16 c then some (readDigits 16 (c :: rest))
    else some (readDigits 8 ('0' :: x :: c :: rest))
  | c :: rest =>
    if c = '0' then some (readDigits 8 (c :: rest))
    else if isDigitIn 10 c then some (readDigits 10 (c :: rest))
    else none
  | [] => none

def readParts (dots : Nat) (cs : List Char) : Option (List Nat) :=
  match readNumber cs with
  | some (n, []) => some [n]
  | some (n, '.' :: rest) =>
    match dots with
    | 0 => none
    | dots + 1 => if n < 256 then (readParts dots rest).map (n :: ·) else none
  | _ => none

def assembleParts : Nat → List Nat → Option Nat
  | room, [last] => if last < Nat.pow 256 room then some last else none
  | room + 1, part :: rest => (assembleParts room rest).map (part * Nat.pow 256 room + ·)
  | _, _ => none

def parseIpv4? (cs : List Char) : Option Ipv4 :=
  ((readParts 3 cs).bind (assembleParts 4)).map Ipv4.ofNat

def firstGroup : Ip → UInt16
  | .v4 ip => ip.pair.1
  | .v6 ip => ip.groups.headD 0

/-- Addresses whose scope is an interface: local to a link, or groups local to a node or a link. Only the
first sixteen bits are looked at. -/
def hasInterface (ip : Ip) : Bool :=
  let head := firstGroup ip
  head &&& 0xFFC0 == 0xFE80 || head &&& 0xFF0F == 0xFF01 || head &&& 0xFF0F == 0xFF02

def interfaces : List (String × Nat) := [("lo", 1)]

def scope? (ip : Ip) (name : List Char) : Option UInt32 :=
  match if hasInterface ip then interfaces.lookup (String.ofList name) else none with
  | some index => some (.ofNat index)
  | none => ((Numeral.natural? name).filter (· < UInt32.size)).map .ofNat

inductive Literal where
  | v4 (ip : Ipv4)
  | v6 (ip : Ipv6) (scope : Option (List Char))

def literal? (host : Bytes) : Option Literal :=
  let cs := characters host
  match parseIpv4? cs with
  | some ip => some (.v4 ip)
  | none =>
    (Ipv6.parse? (cs.takeWhile (· != '%'))).map fun ip =>
      match cs.dropWhile (· != '%') with
      | [] => .v6 ip none
      | _ :: name => .v6 ip (some name)

end HostLookup.Platform
