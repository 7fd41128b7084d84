import HostLookup.NameInfo

/-! The elements of an address that a caller writes step by step. Its flow and its scope are those that were given
last, and before a scope there is a flow, which is zero if none was given. So an IPv4 candidate goes with an address
that was given neither, and an IPv6 candidate takes both. -/
namespace HostLookup.Endpoint

inductive Start where
  | pair (host : Host) (port : Int)
  | full (host : Host) (port : Int) (flow scope : UInt32)
  | socket (address : SocketAddress)

inductive Step where
  | flow (value : UInt32)
  | scope (value : UInt32)

namespace Start

def endpoint : Start → Endpoint
  | pair host port => .pair host port
  | full host port flow scope => .full host port flow scope
  | socket address => .ofSocketAddress address

def flow? : Start → Option UInt32
  | full _ _ flow _ | socket (.v6 _ _ flow _) => some flow
  | pair .. | socket (.v4 ..) => none

def scope? : Start → Option UInt32
  | full _ _ _ scope | socket (.v6 _ _ _ scope) => some scope
  | pair .. | socket (.v4 ..) => none

/-- The address has two elements, or is that of an IPv4 socket. -/
inductive Plain : Start → Prop
  | pair (host : Host) (port : Int) : Plain (pair host port)
  | socket (ip : Ipv4) (port : UInt16) : Plain (socket (.v4 ip port))

end Start

namespace Step

def apply (endpoint : Endpoint) : Step → Endpoint
  | flow value => endpoint.withFlow value
  | scope value => endpoint.withScope value

def flow? : Step → Option UInt32
  | flow value => some value
  | scope _ => none

def scope? : Step → Option UInt32
  | flow _ => none
  | scope value => some value

end Step

def written (start : Start) (steps : List Step) : Endpoint :=
  steps.foldl Step.apply start.endpoint

def flows (start : Start) (steps : List Step) : List UInt32 :=
  start.flow?.toList ++ steps.filterMap Step.flow?

def scopes (start : Start) (steps : List Step) : List UInt32 :=
  start.scope?.toList ++ steps.filterMap Step.scope?

/-- What is left of the flows and scopes that an address was given. -/
structure Shape (flows scopes : List UInt32) (endpoint : Endpoint) : Prop where
  scope : endpoint.scope = scopes.getLast?
  flow : endpoint.flow = flows.getLast?.or (scopes.getLast?.map fun _ => 0)

namespace Shape

variable {flows scopes : List UInt32} {endpoint : Endpoint}

theorem withFlow (shape : Shape flows scopes endpoint) (value : UInt32) :
    Shape (flows ++ [value]) scopes (endpoint.withFlow value) := by
  refine ⟨shape.scope, ?_⟩
  rw [List.getLast?_concat, Option.some_or]
  rfl

theorem withScope (shape : Shape flows scopes endpoint) (value : UInt32) :
    Shape flows (scopes ++ [value]) (endpoint.withScope value) := by
  constructor
  · rw [List.getLast?_concat]
    rfl
  · rw [List.getLast?_concat, Endpoint.withScope, shape.flow]
    cases flows.getLast? with
    | some flow => rfl
    | none => cases scopes.getLast? <;> rfl

theorem after_steps (shape : Shape flows scopes endpoint) (steps : List Step) :
    Shape (flows ++ steps.filterMap Step.flow?) (scopes ++ steps.filterMap Step.scope?)
      (steps.foldl Step.apply endpoint) := by
  induction steps generalizing flows scopes endpoint with
  | nil => simpa using shape
  | cons step rest ih =>
    cases step with
    | flow value => simpa [List.filterMap_cons, Step.apply, Step.flow?, Step.scope?] using ih (shape.withFlow value)
    | scope value => simpa [List.filterMap_cons, Step.apply, Step.flow?, Step.scope?] using ih (shape.withScope value)

theorem isSome_flow (shape : Shape flows scopes endpoint) (given : endpoint.scope.isSome) : endpoint.flow.isSome := by
  rw [shape.scope, Option.isSome_iff_exists] at given
  obtain ⟨scope, last⟩ := given
  simp [shape.flow, last]

theorem length_eq_two_iff (shape : Shape flows scopes endpoint) :
    endpoint.length = 2 ↔ flows = [] ∧ scopes = [] := by
  rw [← List.getLast?_eq_none_iff, ← List.getLast?_eq_none_iff, Endpoint.length, shape.flow, shape.scope]
  cases flows.getLast? <;> cases scopes.getLast? <;> simp

theorem getD_flow (shape : Shape flows scopes endpoint) : endpoint.flow.getD 0 = flows.getLast?.getD 0 := by
  rw [shape.flow]
  cases flows.getLast? <;> cases scopes.getLast? <;> rfl

end Shape

theorem shape_start (start : Start) : Shape start.flow?.toList start.scope?.toList start.endpoint := by
  rcases start with ⟨host, port⟩ | ⟨host, port, flow, scope⟩ | ⟨ip, port⟩ | ⟨ip, port, flow, scope⟩ <;>
    exact ⟨rfl, rfl⟩

theorem shape_written (start : Start) (steps : List Step) :
    Shape (flows start steps) (scopes start steps) (written start steps) :=
  (shape_start start).after_steps steps

theorem nothing_given_iff {start : Start} {steps : List Step} :
    flows start steps = [] ∧ scopes start steps = [] ↔ steps = [] ∧ start.Plain := by
  have first : start.flow?.toList = [] ∧ start.scope?.toList = [] ↔ start.Plain := by
    rcases start with ⟨host, port⟩ | ⟨host, port, flow, scope⟩ | ⟨ip, port⟩ | ⟨ip, port, flow, scope⟩
    · exact iff_of_true ⟨rfl, rfl⟩ (.pair host port)
    · exact iff_of_false (fun both => nomatch both.1) (fun plain => nomatch plain)
    · exact iff_of_true ⟨rfl, rfl⟩ (.socket ip port)
    · exact iff_of_false (fun both => nomatch both.1) (fun plain => nomatch plain)
  have later : steps.filterMap Step.flow? = [] ∧ steps.filterMap Step.scope? = [] ↔ steps = [] := by
    cases steps with
    | nil => exact iff_of_true ⟨rfl, rfl⟩ rfl
    | cons step rest => cases step <;> simp [List.filterMap_cons, Step.flow?, Step.scope?]
  rw [flows, scopes, List.append_eq_nil_iff, List.append_eq_nil_iff, and_and_and_comm, first, later, and_comm]

theorem taken_iff {candidate : Record} (inet : candidate.family = .inet) (endpoint : Endpoint) :
    (candidate.nameInfoAddress endpoint = .ok candidate.address ↔ endpoint.length = 2) ∧
    (candidate.nameInfoAddress endpoint = .error (.system "IPv4 sockaddr must be 2 tuple") ↔ endpoint.length ≠ 2) := by
  by_cases two : endpoint.length = 2 <;> simp [Record.nameInfoAddress, inet, two]

/-- However an address is written, its scope is the last that was given, and its flow the last that was given or, after
scopes alone, zero: there is no scope without a flow. It has two elements if and only if neither was given. So
an IPv4 candidate is taken, as it is, if and only if the address was written with two elements or is that of an IPv4
socket, without further steps. An IPv6 candidate is always taken, with this flow and scope, or zero, in place of its
own. -/
theorem written_shape (start : Start) (steps : List Step) :
    ((written start steps).scope.isSome → (written start steps).flow.isSome) ∧
    (written start steps).scope = (scopes start steps).getLast? ∧
    (flows start steps ≠ [] → (written start steps).flow = (flows start steps).getLast?) ∧
    (flows start steps = [] → (written start steps).flow = if scopes start steps = [] then none else some 0) ∧
    ((written start steps).length = 2 ↔ flows start steps = [] ∧ scopes start steps = []) ∧
    ∀ candidate : Record, candidate.family = candidate.address.ip.family →
      (∀ ip port, candidate.address = .v4 ip port →
        (candidate.nameInfoAddress (written start steps) = .ok candidate.address ↔ steps = [] ∧ start.Plain) ∧
        (candidate.nameInfoAddress (written start steps) = .error (.system "IPv4 sockaddr must be 2 tuple") ↔
          ¬ (steps = [] ∧ start.Plain))) ∧
      ∀ ip port flow scope, candidate.address = .v6 ip port flow scope →
        candidate.nameInfoAddress (written start steps) =
          .ok (.v6 ip port ((flows start steps).getLast?.getD 0) ((scopes start steps).getLast?.getD 0)) := by
  have shape := shape_written start steps
  refine ⟨shape.isSome_flow, shape.scope, fun given => ?_, fun absent => ?_, shape.length_eq_two_iff,
    fun candidate family => ⟨fun ip port own => ?_, fun ip port flow scope own => ?_⟩⟩
  · rw [shape.flow, List.getLast?_eq_some_getLast given, Option.some_or]
  · rw [shape.flow, absent, List.getLast?_nil, Option.none_or]
    split
    · next none =>
      rw [none]
      rfl
    · next given =>
      rw [List.getLast?_eq_some_getLast given]
      rfl
  · rw [own] at family
    rw [← nothing_given_iff, ← shape.length_eq_two_iff]
    exact taken_iff family _
  · rw [own] at family
    rw [Record.nameInfoAddress, family, own, ← shape.getD_flow, ← shape.scope]
    rfl

def candidateAt (address : SocketAddress) : Record :=
  { family := address.ip.family, socketType := none, protocol := none, canonicalName := "", address }

theorem written_shape_scoped :
    let start := Start.pair (.text "host") 443
    let steps := [Step.scope 3, .flow 12, .scope 4]
    (written start [.scope 3]).flow.isSome ∧ (written start [.scope 3]).flow = some 0 ∧
      (written start steps).flow = some 12 ∧
      (candidateAt (.v4 .loopback 443)).nameInfoAddress (written start []) = .ok (.v4 .loopback 443) ∧
      (candidateAt (.v4 .loopback 443)).nameInfoAddress (written start steps) =
        .error (.system "IPv4 sockaddr must be 2 tuple") ∧
      (candidateAt (.v6 .loopback 443 7 9)).nameInfoAddress (written start steps) = .ok (.v6 .loopback 443 12 4) := by
  intro start steps
  obtain ⟨before, -, -, zero, -⟩ := written_shape start [.scope 3]
  obtain ⟨-, -, -, -, -, plain⟩ := written_shape start []
  obtain ⟨-, -, last, -, -, candidates⟩ := written_shape start steps
  have whole := ((plain (candidateAt (.v4 .loopback 443)) rfl).1 .loopback 443 rfl).1
  have refused := ((candidates (candidateAt (.v4 .loopback 443)) rfl).1 .loopback 443 rfl).2
  have replaced := (candidates (candidateAt (.v6 .loopback 443 7 9)) rfl).2 .loopback 443 7 9 rfl
  have stepped : ¬ (steps = [] ∧ start.Plain) := fun both => nomatch both.1
  exact ⟨before rfl, zero rfl, last (by decide), whole.mpr ⟨rfl, .pair _ _⟩, refused.mpr stepped, replaced⟩

end HostLookup.Endpoint
