import HostLookup.Error
import HostLookup.Text.Numeral
import HostLookup.Text.Utf8

/-! Services: what a caller may name a port with, the service text of a query, and the table of the
well-known services. -/
namespace HostLookup
open Text

inductive Port where
  | number (n : Int)
  | text (name : String)
  | absent
  | unsupported (typeName : String)
deriving DecidableEq, Repr

/-- The service text for a port; zero asks for no service. -/
def Port.toService : Port → Except LookupError (Option Bytes)
  | .absent => .ok none
  | .number n =>
    .ok (if n = 0 then none else some (Text.toBytes (Numeral.ofInt n)))
  | .text name =>
    if isAscii name then .ok (some (Text.toBytes name))
    else .error (.value ("encoding with 'ascii' codec failed: " ++ quote name))
  | .unsupported typeName => .error (.unsupportedType "int, str or bytes for port" typeName)

namespace Service

/-- Well-known services. Each has the same port with either transport. -/
def table : List (String × UInt16) :=
  [("ftp", 21), ("ssh", 22), ("telnet", 23), ("smtp", 25), ("domain", 53), ("http", 80),
   ("pop3", 110), ("ntp", 123), ("imap", 143), ("snmp", 161), ("ldap", 389), ("https", 443),
   ("submission", 587), ("imaps", 993), ("pop3s", 995)]

def sameName (a b : String) : Bool :=
  a.toList.map Char.toLower == b.toList.map Char.toLower

def mostPort : Nat := 65535

/-- The port that a service text stands for: a numeral, or a name from the table unless the text has to
be numeric. -/
def toPort (numericOnly : Bool) (service : Bytes) : Except Fault UInt16 :=
  match ofBytes? service with
  | none => .error .service
  | some text =>
    match Numeral.unsigned? mostPort text.toList with
    | some port => .ok (.ofNat port)
    | none =>
      if numericOnly then .error .service
      else
        match table.find? fun entry => sameName entry.1 text with
        | some entry => .ok entry.2
        | none => .error .service

def name? (port : UInt16) : Option String :=
  (table.find? (·.2 == port)).map (·.1)

end Service

end HostLookup
