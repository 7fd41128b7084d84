import HostLookup.Text.Quoted

/-! Faults: how a query of an engine fails, with the status numbers and texts of the faults. -/
namespace HostLookup

inductive Fault where
  | noData
  | malformed
  | serverFailure
  | notFound
  | notImplemented
  | refused
  | badName
  | badFamily
  | connectionRefused
  | timeout
  | noMemory
  | destruction
  | badFlags
  | noName
  | badHints
  | cancelled
  | service
  | invalidIp (text : String)
  | other (text : String)
deriving DecidableEq, Repr, Inhabited

namespace Fault

def status : Fault → Int32
  | .noData => 1
  | .malformed => 2
  | .serverFailure => 3
  | .notFound => 4
  | .notImplemented => 5
  | .refused => 6
  | .badName => 8
  | .badFamily => 9
  | .connectionRefused => 11
  | .timeout => 12
  | .noMemory => 15
  | .destruction => 16
  | .badFlags => 18
  | .noName => 19
  | .badHints => 20
  | .cancelled => 24
  | .service => 25
  | .invalidIp _ | .other _ => -1

def message : Fault → String
  | .noData => "DNS server returned answer with no data"
  | .malformed => "DNS server claims query was misformatted"
  | .serverFailure => "DNS server returned general failure"
  | .notFound => "Domain name not found"
  | .notImplemented => "DNS server does not implement requested operation"
  | .refused => "DNS server refused query"
  | .badName => "Misformatted domain name"
  | .badFamily => "Unsupported address family"
  | .connectionRefused => "Could not contact DNS servers"
  | .timeout => "Timeout while contacting DNS servers"
  | .noMemory => "Out of memory"
  | .destruction => "Channel is being destroyed"
  | .badFlags => "Invalid flags specified"
  | .noName => "Given hostname is not numeric"
  | .badHints => "Invalid hints"
  | .cancelled => "Query was cancelled"
  | .service => "Unknown service"
  | .invalidIp text => "illegal IP address string: " ++ Text.quote text
  | .other text => text

end Fault

end HostLookup
