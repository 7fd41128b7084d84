import HostLookup.Resolver.State
import HostLookup.Settings.Printer

/-! Texts that describe a resolver, and what it is built from. -/
namespace HostLookup.Resolver
open Text Description

def State.textWith (s : State) (pid : String) (channelText : Nat → String) : String :=
  excerpt "Resolver"
    [("generation", optional (fun slot => Numeral.ofNat slot.generation) s.slot),
     ("channel", optional (fun slot => channelText slot.channel) s.slot),
     ("pid", pid)]

def State.text (s : State) (channelText : Nat → String) : String :=
  s.textWith (Numeral.ofNat s.pid) channelText

def conventionText : Convention → String
  | .modern => "Modern"
  | .historical => "Historical"

def builderText (settings : Settings) (useEnvironment : Bool) (convention : Convention) : String :=
  excerpt "ResolverBuilder"
    [("params", settings.text),
     ("use_environ", boolean useEnvironment),
     ("convention", conventionText convention)]

end HostLookup.Resolver
