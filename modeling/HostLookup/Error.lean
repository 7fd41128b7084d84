import HostLookup.Fault
import HostLookup.Text.Numeral

/-! Errors of lookups. Two families carry a code and the text for it; the others say that an argument
was refused, that the platform failed, or that there is no live session. -/
namespace HostLookup

inductive ErrorKind where
  | addressInfo
  | host
  | type
  | overflow
  | value
  | system
  | closed
deriving DecidableEq, Repr

inductive LookupError where
  | addressInfo (code : Int32) (message : String)
  | host (code : Int32) (message : String)
  | type (message : String)
  | overflow (message : String)
  | value (message : String)
  | invalidIp (text : String)
  | system (message : String)
  | closed
deriving DecidableEq, Repr, Inhabited

/-! Codes of the host family. -/
namespace HostCode

def notFound : Int32 := 1
def tryAgain : Int32 := 2
def noRecovery : Int32 := 3
def noData : Int32 := 4

def text (code : Int32) : String :=
  if code = notFound then "Unknown host"
  else if code = tryAgain then "Host name lookup failure"
  else if code = noRecovery then "Unknown server error"
  else if code = noData then "No address associated with name"
  else "Resolver internal error"

end HostCode

/-! Codes of the address-information family. -/
namespace AddressCode

def badFlags : Int32 := -1
def noName : Int32 := -2
def again : Int32 := -3
def fail : Int32 := -4
def family : Int32 := -6
def socketType : Int32 := -7
def service : Int32 := -8
def memory : Int32 := -10

def text (code : Int32) : String :=
  if code = again then "Temporary failure in name resolution"
  else if code = badFlags then "Invalid value for ai_flags"
  else if code = fail then "Non-recoverable failure in name resolution"
  else if code = family then "ai_family not supported"
  else if code = memory then "Memory allocation failure"
  else if code = noName then "Name or service not known"
  else if code = service then "Servname not supported for ai_socktype"
  else if code = socketType then "ai_socktype not supported"
  else "Unknown error"

end AddressCode

namespace LookupError

def kind : LookupError → ErrorKind
  | .addressInfo .. => .addressInfo
  | .host .. => .host
  | .type _ => .type
  | .overflow _ => .overflow
  | .value _ | .invalidIp _ => .value
  | .system _ => .system
  | .closed => .closed

def code? : LookupError → Option Int32
  | .addressInfo code _ | .host code _ => some code
  | _ => none

def withCode (code : Int32) (message : String) : String :=
  "[Errno " ++ Text.Numeral.ofInt code.toInt ++ "] " ++ message

def message : LookupError → String
  | .addressInfo code message | .host code message => withCode code message
  | .type message | .overflow message | .value message | .system message => message
  | .invalidIp text => (Fault.invalidIp text).message
  | .closed => "Resolver is closed"

def ofAddressCode (code : Int32) : LookupError :=
  .addressInfo code (AddressCode.text code)

def ofHostCode (code : Int32) : LookupError :=
  .host code (HostCode.text code)

def nameNotKnown : LookupError :=
  ofAddressCode AddressCode.noName

def unsupportedType (expected found : String) : LookupError :=
  .type ("Expected " ++ expected ++ ", not " ++ found)

def isAddressInfo (error : LookupError) : Bool :=
  error.kind == .addressInfo

def isHost (error : LookupError) : Bool :=
  error.kind == .host

end LookupError

namespace Fault

/-- The error of the host family for a fault. An illegal address keeps its text and its own kind. -/
def toHostError : Fault → LookupError
  | .invalidIp text => .invalidIp text
  | .notFound | .noName | .badName => .ofHostCode HostCode.notFound
  | .noData => .ofHostCode HostCode.noData
  | .timeout | .serverFailure | .refused | .connectionRefused => .ofHostCode HostCode.tryAgain
  | _ => .ofHostCode HostCode.noRecovery

def toAddressError : Fault → LookupError
  | .invalidIp text => .invalidIp text
  | .notFound | .noName | .noData => .ofAddressCode AddressCode.noName
  | .badFlags | .badHints => .ofAddressCode AddressCode.badFlags
  | .badFamily | .notImplemented => .ofAddressCode AddressCode.family
  | .noMemory => .ofAddressCode AddressCode.memory
  | .service => .ofAddressCode AddressCode.service
  | .timeout | .serverFailure | .refused | .connectionRefused => .ofAddressCode AddressCode.again
  | _ => .ofAddressCode AddressCode.fail

end Fault

namespace LookupError

/-- A forward lookup reads an unknown host as a name that is not known. -/
def ofForward : LookupError → LookupError
  | .host code message => if code = HostCode.notFound then nameNotKnown else .host code message
  | error => error

end LookupError

end HostLookup
