import HostLookup.Error
import HostLookup.Settings.Seconds
import HostLookup.Text.Blank

/-! Settings of an engine session. An option that is not set is filled in from the environment, if its
variable is there and not blank. -/
namespace HostLookup
open Text

structure Settings where
  flags : Option Int32 := none
  timeout : Option Duration := none
  tries : Option UInt32 := none
  ndots : Option UInt32 := none
  udpPort : Option UInt16 := none
  tcpPort : Option UInt16 := none
  servers : Option (List String) := none
deriving DecidableEq, Repr

abbrev Environment := String → Option String

namespace Environment

def flags : String := "HUBDNS_FLAGS"
def timeout : String := "HUBDNS_TIMEOUT"
def tries : String := "HUBDNS_TRIES"
def ndots : String := "HUBDNS_NDOTS"
def udpPort : String := "HUBDNS_UDP_PORT"
def tcpPort : String := "HUBDNS_TCP_PORT"
def servers : String := "HUBDNS_SERVERS"

def empty : Environment := fun _ => none

/-- The value of a variable, unless it is blank. -/
def find? (env : Environment) (name : String) : Option String :=
  (env name).filter fun value => !(trim value.toList).isEmpty

end Environment

namespace Settings

def parseInt32? (cs : List Char) : Option Int32 :=
  (Numeral.signed? Int32.minValue.toInt Int32.maxValue.toInt cs).map Int32.ofInt

def parseUInt32? (cs : List Char) : Option UInt32 :=
  (Numeral.unsigned? (UInt32.size - 1) cs).map UInt32.ofNat

def parsePort? (cs : List Char) : Option UInt16 :=
  (Numeral.unsigned? (UInt16.size - 1) cs).map UInt16.ofNat

def separatesServers (c : Char) : Bool :=
  c == ',' || isBlank c

def parseServers (value : String) : List String :=
  (tokens separatesServers value.toList).map String.ofList

/-- An option that is set stays; one that is not takes the value of its variable. -/
def fill {α : Type} (env : Environment) (name : String) (parse? : List Char → Option α) :
    Option α → Except LookupError (Option α)
  | some value => .ok (some value)
  | none =>
    match env.find? name with
    | none => .ok none
    | some text =>
      match parse? (trim text.toList) with
      | some value => .ok (some value)
      | none => .error (.value (name ++ ": invalid value " ++ quote text))

def withDefaults (env : Environment) (s : Settings) : Except LookupError Settings := do
  let flags ← fill env Environment.flags parseInt32? s.flags
  let timeout ← fill env Environment.timeout Seconds.parse? s.timeout
  let tries ← fill env Environment.tries parseUInt32? s.tries
  let ndots ← fill env Environment.ndots parseUInt32? s.ndots
  let udpPort ← fill env Environment.udpPort parsePort? s.udpPort
  let tcpPort ← fill env Environment.tcpPort parsePort? s.tcpPort
  let servers := s.servers <|> (env.find? Environment.servers).map parseServers
  return { flags, timeout, tries, ndots, udpPort, tcpPort, servers }

end Settings

end HostLookup
