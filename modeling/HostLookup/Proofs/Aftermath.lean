import HostLookup.Proofs.ServiceTexts
import HostLookup.Proofs.Tracking

/-! What callers are told by the calls of a channel that was torn down. The arguments of a call are looked at before
the channel is: what would be refused by any channel is refused by this one in the same words. -/
namespace HostLookup.Engine.Workload
open Text

variable {w : Workload} {events : List Event} {query : EngineQuery} {fault : Fault}

theorem ask_destroyed (torn : w.destroyed = true) (query : EngineQuery) :
    w.ask query = (.error ((refusal? query).getD .destruction), w) := by
  rcases w.ask_cases query with ⟨fault, refused, refusal | ⟨legal, -, rfl⟩⟩ | ⟨-, intact, -⟩
  · rw [refused, refusal, Option.getD_some]
  · rw [refused, legal, Option.getD_none]
  · exact nomatch torn.symm.trans intact

theorem toPort_error {numericOnly : Bool} {service : Bytes}
    (failed : Service.toPort numericOnly service = .error fault) : fault = .service := by
  unfold Service.toPort at failed
  repeat' split at failed
  all_goals cases failed
  all_goals rfl

theorem readPort_error {query : AddressQuery} (failed : readPort query = .error fault) : fault = .service := by
  unfold readPort at failed
  split at failed
  · contradiction
  · exact toPort_error failed

theorem refusal?_eq_invalidIp_iff {text : String} :
    refusal? query = some (.invalidIp text) ↔
      ∃ address, query = .hostByAddress address ∧ literal? address = none ∧ text = ofBytesLossy address := by
  constructor
  · intro refused
    obtain ⟨address, rfl, illegal⟩ := refusal?_eq_invalidIp refused
    refine ⟨address, rfl, illegal, ?_⟩
    simpa [refusal?, illegal, eq_comm] using refused
  · rintro ⟨address, rfl, illegal, rfl⟩
    simp [refusal?, illegal]

/-- Once a channel was torn down, each call fails at once and changes nothing. What it says is that the channel was
destroyed, but not of arguments that the call refuses by itself: a name that is no text, a service that is not known,
and an address that is no literal. So a caller is told of an illegal address if it asks about one, and only then. -/
theorem destroyed_replies (torn : .destroy ∈ events) :
    let w := run {} events
    (∀ query, ∃ fault, w.ask query = (.error fault, w)) ∧
    (∀ name family, (w.ask (.hostByName name family)).1 =
      .error (if (ofBytes? name).isSome then .destruction else .badName)) ∧
    (∀ query, (w.ask (.addressInfo query)).1 = .error
      (if (ofBytes? query.host).isSome then
        match readPort query with
        | .ok _ => .destruction
        | .error _ => .service
      else .badName)) ∧
    (∀ address, (w.ask (.hostByAddress address)).1 =
      .error (if (literal? address).isSome then .destruction else .invalidIp (ofBytesLossy address))) ∧
    (∀ address flags, (w.ask (.nameInfo address flags)).1 = .error .destruction) ∧
    ∀ query text, (w.ask query).1 = .error (.invalidIp text) ↔
      ∃ address, query = .hostByAddress address ∧ literal? address = none ∧ text = ofBytesLossy address := by
  intro w
  have destroyed : w.destroyed = true := destroyed_run.mpr torn
  have told query : (w.ask query).1 = .error ((refusal? query).getD .destruction) := by
    rw [ask_destroyed destroyed query]
  refine ⟨ask_torn destroyed, fun name family => ?_, fun query => ?_, fun address => ?_, fun address flags => told _,
    fun query text => ?_⟩
  · rw [told]
    cases text : ofBytes? name <;> simp [refusal?, text]
  · rw [told]
    cases text : ofBytes? query.host with
    | none => simp [refusal?, text]
    | some host =>
      rw [refusal?_of_readPort (by simp [text])]
      cases read : readPort query with
      | ok port => rfl
      | error fault => rw [readPort_error read]; rfl
  · rw [told]
    cases literal : literal? address <;> simp [refusal?, literal]
  · rw [told, ← refusal?_eq_invalidIp_iff]
    cases refusal? query <;> simp

theorem destroyed_replies_www :
    let w := run {} [.destroy]
    (w.ask (.hostByAddress (toBytes "www"))).1 = .error (.invalidIp "www") ∧
      (w.ask (.hostByName (toBytes "www") .unspec)).1 = .error .destruction ∧
      (w.ask (.hostByName [0xFF] .unspec)).1 = .error .badName := by
  have torn : Event.destroy ∈ [Event.destroy] := List.mem_singleton.mpr rfl
  obtain ⟨-, byName, -, byAddress, -⟩ := destroyed_replies torn
  refine ⟨(byAddress _).trans ?_, (byName _ _).trans ?_, (byName _ _).trans ?_⟩
  · decide +kernel
  · decide +kernel
  · decide +kernel

end HostLookup.Engine.Workload
