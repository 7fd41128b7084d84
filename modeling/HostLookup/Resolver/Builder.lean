import HostLookup.Resolver.State

/-! Building a resolver: unset settings are filled in from the environment if that is wanted, and the
first channel is created. -/
namespace HostLookup.Resolver

structure Builder where
  settings : Settings := {}
  useEnvironment : Bool := true
  environment : Environment := .empty
  convention : Convention := .modern
  dropsHeld : Bool := true

namespace Builder

def finalSettings (b : Builder) : Except LookupError Settings :=
  if b.useEnvironment then b.settings.withDefaults b.environment else .ok b.settings

def build (b : Builder) (obstacle : Option LookupError) (hub : Hub Callback) :
    Except LookupError State := do
  let settings ← b.finalSettings
  State.build { settings, convention := b.convention, dropsHeld := b.dropsHeld } obstacle hub

end Builder

end HostLookup.Resolver
