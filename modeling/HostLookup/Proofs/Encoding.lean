import HostLookup.Proofs.Numerals
import HostLookup.Proofs.Scope
import HostLookup.Proofs.Trials

/-! Names encoded. What is made of a name is ASCII, whatever the name is, so that encoding it again changes nothing;
and a lookup goes by what is made of the name, not by how the name was spelled. -/
namespace HostLookup
open Resolver

namespace Idna

/-! Only ASCII comes out. -/

namespace Punycode

theorem ascii_digit : ∀ n < base, (digit n).toNat < 0x80 := by
  decide

theorem ascii_distanceDigits (bias place distance : Nat) :
    ∀ c ∈ distanceDigits bias place distance, c.toNat < 0x80 := by
  fun_induction distanceDigits bias place distance with
  | case1 place distance t small =>
    have lesser : distance < base := small.trans (threshold_lt_base bias place)
    simpa using ascii_digit distance lesser
  | case2 place distance t large ih =>
    have lesser : t < base := threshold_lt_base bias place
    have rest : (distance - t) % (base - t) < base - t := Nat.mod_lt _ (by omega)
    exact List.forall_mem_cons.mpr ⟨ascii_digit _ (by omega), ih⟩

theorem Encoder.ascii_pass (ascii point : Nat) (e : Encoder) (text : List Char)
    (before : ∀ c ∈ e.output, c.toNat < 0x80) : ∀ c ∈ (e.pass ascii point text).output, c.toNat < 0x80 := by
  induction text generalizing e with
  | nil => exact before
  | cons first rest ih =>
    refine ih _ ?_
    dsimp only
    split
    · exact before
    · split
      · exact List.forall_mem_append.mpr ⟨before, ascii_distanceDigits _ _ _⟩
      · exact before

theorem ascii_encode (text : List Char) : ∀ c ∈ encode text, c.toNat < 0x80 := by
  unfold encode
  refine List.forall_mem_append.mpr ⟨List.forall_mem_append.mpr ⟨fun c kept => ?_, ?_⟩, ?_⟩
  · exact of_decide_eq_true (List.mem_filter.mp kept).2
  · split <;> simp
  · refine List.foldlRecOn (motive := fun reached : Encoder × Nat => ∀ c ∈ reached.1.output, c.toNat < 0x80) _ _ (by simp) ?_
    exact fun reached before point _ => Encoder.ascii_pass _ _ _ _ before

end Punycode

theorem isAsciiLabel_iff {label : List Char} : isAsciiLabel label = true ↔ ∀ c ∈ label, c.toNat < 0x80 := by
  simp [isAsciiLabel]

theorem ascii_writeLabel (label : List Char) : ∀ c ∈ writeLabel label, c.toNat < 0x80 := by
  unfold writeLabel
  split
  · next ascii => exact isAsciiLabel_iff.mp ascii
  · exact List.forall_mem_append.mpr ⟨isAsciiLabel_iff.mp (by decide), Punycode.ascii_encode label⟩

theorem ascii_intercalate {labels : List (List Char)} (each : ∀ label ∈ labels, ∀ c ∈ label, c.toNat < 0x80) :
    ∀ c ∈ ['.'].intercalate labels, c.toNat < 0x80 := by
  induction labels with
  | nil => simp
  | cons label rest ih =>
    have own : ∀ c ∈ label, c.toNat < 0x80 := each label List.mem_cons_self
    have others := ih fun other member => each other (List.mem_cons_of_mem label member)
    cases rest with
    | nil => simpa using own
    | cons next more =>
      rw [List.intercalate_cons_cons]
      exact List.forall_mem_append.mpr ⟨List.forall_mem_append.mpr ⟨own, isAsciiLabel_iff.mp (by decide)⟩, others⟩

theorem ascii_toAscii? {name encoded : List Char} (made : toAscii? name = some encoded) :
    ∀ c ∈ encoded, c.toNat < 0x80 := by
  simp only [toAscii?, Option.bind_eq_bind, Option.bind_eq_some_iff] at made
  obtain ⟨mapped, -, labels, -, made⟩ := made
  split at made
  · obtain rfl := Option.some.inj made
    refine ascii_intercalate fun label member => ?_
    obtain ⟨plain, -, rfl⟩ := List.mem_map.mp member
    exact ascii_writeLabel plain
  · contradiction

end Idna

theorem Text.ascii_toBytes {text : String} (ascii : isAscii text = true) : ∀ byte ∈ toBytes text, byte < 0x80 := by
  intro byte member
  obtain ⟨c, inside, written⟩ := List.mem_flatMap.mp member
  have small : c.toNat < 0x80 := by
    have all := List.all_eq_true.mp ascii c inside
    exact of_decide_eq_true all
  have one : String.utf8EncodeChar c = [UInt8.ofNat c.toNat] := if_pos (Nat.le_of_lt_succ small)
  rw [one, List.mem_singleton] at written
  rw [written, UInt8.lt_iff_toNat_lt, UInt8.toNat_ofNat_of_lt' (small.trans (by decide))]
  exact small

namespace Host

variable {text : String} {host : Host} {name : Bytes}

theorem ascii_encode (encoded : encode text = .ok name) :
    ∃ spelled, Text.isAscii spelled = true ∧ Text.toBytes spelled = name := by
  unfold encode at encoded
  split at encoded
  · next ascii => exact ⟨text, ascii, Except.ok.inj encoded⟩
  · split at encoded
    · next made found =>
      refine ⟨String.ofList made, ?_, Except.ok.inj encoded⟩
      simpa [Text.isAscii] using Idna.ascii_toAscii? found
    · contradiction

theorem route_of_toBytes (encoded : host.toBytes = .ok name) (flags : Flags) : host.route flags =
    .ok (if flags.has .numericHost = true ∨ name ∈ localNames then .native (some name) else .engine name) := by
  unfold route
  split
  · contradiction
  · simp only [encoded, bind, Except.bind, pure, Except.pure, Bool.or_eq_true, isLocal_iff]

end Host

def entryLookup (name : Bytes) (family : Family) : Lookup :=
  if isLocalOrBroadcast name then .inl (.hostByName name) else .inr (.hostByName name family)

theorem Plan.hostEntry_of_toBytes {host : Host} {name : Bytes} (encoded : host.toBytes = .ok name) (family : Family)
    (finish : Result → Result) : Plan.hostEntry host family finish =
      if name ∈ specialNames then .native (.hostByName name) fun reply => .finish (finish (reply.map .entry))
      else .attempts
        { family := .host
          body := .hostByName name family
          finish := fun result => finish (result.mapError LookupError.ofForward) } := by
  unfold hostEntry
  simp only [encoded, isLocalOrBroadcast_iff]

theorem Plan.hostEntry_within {host : Host} {name : Bytes} (encoded : host.toBytes = .ok name) (family : Family)
    (finish : Result → Result) : (Plan.hostEntry host family finish).Within (· = entryLookup name family) := by
  rw [hostEntry_of_toBytes encoded]
  split
  · next special => exact ⟨(if_pos (isLocalOrBroadcast_iff.mpr special)).symm, fun _ => trivial⟩
  · next other => exact ⟨(if_neg (isLocalOrBroadcast_iff.not.mpr other)).symm, fun _ => trivial⟩

namespace Resolver

/-- The spelling of a host does not matter. What a name is encoded as is ASCII, and encoded as itself; a name in ASCII
stays as it is. Whether the host is given as the name, as the text that it is encoded as or as the bytes of that, it
takes the same route, and the same plan looks up its entry: the platform is asked for a special name, once, and an
engine for any other; and all that is asked in a run is that, about the name that was made. -/
theorem spelling_immaterial {text : String} {name : Bytes} (encoded : Host.encode text = .ok name) :
    (∀ byte ∈ name, byte < 0x80) ∧ (Text.isAscii text = true → name = Text.toBytes text) ∧
    ∃ spelled, Text.ofBytes? name = some spelled ∧ Host.encode spelled = .ok name ∧
      ∀ host ∈ [Host.text text, .text spelled, .bytes name],
        (∀ flags, host.route flags =
          .ok (if flags.has .numericHost = true ∨ name ∈ localNames then .native (some name) else .engine name)) ∧
        ∀ family,
          (∀ convention, (Call.hostEntry host family).plan convention =
            if name ∈ specialNames then .native (.hostByName name) fun reply => .finish (reply.map .entry)
            else .attempts
              { family := .host
                body := .hostByName name family
                finish := fun result => result.mapError LookupError.ofForward }) ∧
          ∀ s id, Reachable s → .started (.hostEntry host family) ∈ s.notes id → ∀ issue ∈ asked (s.notes id),
            issue.lookup = entryLookup name family := by
  obtain ⟨spelled, ascii, rfl⟩ := Host.ascii_encode encoded
  have again : Host.encode spelled = .ok (Text.toBytes spelled) := if_pos ascii
  refine ⟨Text.ascii_toBytes ascii, fun plain => Except.ok.inj (encoded.symm.trans (if_pos plain)), spelled,
    Text.ofBytes?_toBytes ascii, again, fun host spells => ?_⟩
  have made : host.toBytes = .ok (Text.toBytes spelled) := by
    simp only [List.mem_cons, List.not_mem_nil, or_false] at spells
    rcases spells with rfl | rfl | rfl
    · exact encoded
    · exact again
    · rfl
  exact ⟨Host.route_of_toBytes made, fun family => ⟨fun _ => Plan.hostEntry_of_toBytes made family id,
    fun s id reachable started => reachable.within started (Plan.hostEntry_within made family _)⟩⟩

theorem spelling_immaterial_local :
    let s := run plain [.start (.hostEntry (.text "local\u00ADhost") .inet), .poll 0]
    (Host.encode "local\u00ADhost" = .ok (Text.toBytes "localhost") ∧
      (Host.text "local\u00ADhost").route 0 = .ok (.native (some (Text.toBytes "localhost")))) ∧
    asked (s.notes 0) ≠ [] ∧
      ∀ issue ∈ asked (s.notes 0), issue.lookup = .inl (.hostByName (Text.toBytes "localhost")) := by
  intro s
  have encoded : Host.encode "local\u00ADhost" = .ok (Text.toBytes "localhost") := by decide +kernel
  have started : .started (.hostEntry (.text "local\u00ADhost") .inet) ∈ s.notes 0 :=
    started_of_called (by decide +kernel)
  have special : Text.toBytes "localhost" ∈ specialNames := List.Mem.head _
  obtain ⟨-, -, spelled, -, -, same⟩ := spelling_immaterial encoded
  obtain ⟨route, entry⟩ := same _ List.mem_cons_self
  have all := (entry .inet).2 s 0 (Reachable.run reached_plain _) started
  rw [entryLookup, if_pos (isLocalOrBroadcast_iff.mpr special)] at all
  exact ⟨⟨encoded, route 0⟩, by decide +kernel, all⟩

end Resolver

end HostLookup
