import HostLookup.Proofs.Coherence
import Mathlib.Algebra.BigOperators.Group.List.Basic
import Mathlib.Algebra.GroupWithZero.Nat

/-! When a lookup makes another attempt, and what its last one gives. -/
namespace HostLookup.Resolver

/-- The attempt failed in the family of the lookup, and the slot had another generation by then. -/
def Trial.Stale (call : Call) (t : Trial) : Prop :=
  ∃ finish e, t.ending = some (finish, .error e) ∧ e.kind = call.family ∧ finish ≠ t.start

theorem isStale_eq_true {family : ErrorKind} {start finish : Option Nat} {result : Result} :
    isStale family start finish result = true ↔
      ∃ e, result = .error e ∧ e.kind = family ∧ finish ≠ start := by
  cases result <;> simp [isStale]

namespace Trial

variable {call : Call} {first : Option Lookup} {conclusion : Option Result} {t : Trial}

theorem Past.stale_of (past : t.Past call first) : t.Stale call := by
  obtain ⟨finish, result, ended, stale⟩ := past.stale
  obtain ⟨e, rfl, family, moved⟩ := isStale_eq_true.mp stale
  exact ⟨finish, e, ended, family, moved⟩

theorem Last.not_stale (last : t.Last call first conclusion) : ¬ t.Stale call := by
  rintro ⟨finish, e, ended, family, moved⟩
  obtain ⟨settled, -, -⟩ := last.finished finish _ ended
  have stale := isStale_eq_true.mpr ⟨e, rfl, family, moved⟩
  rw [settled] at stale
  contradiction

end Trial

namespace History

variable {call : Call} {h : History}

theorem getElem?_trials {past : List Trial} {last t : Trial} (trials : h.trials = past ++ [last])
    {i : Nat} (found : h.trials[i]? = some t) :
    i < past.length ∧ t ∈ past ∨ i = past.length ∧ t = last := by
  rw [trials] at found
  rcases Nat.lt_or_ge i past.length with inside | beyond
  · rw [List.getElem?_append_left inside] at found
    exact Or.inl ⟨inside, List.mem_of_getElem? found⟩
  · rw [List.getElem?_append_right beyond, List.getElem?_singleton] at found
    split at found
    · next zero =>
      exact Or.inr ⟨by omega, (Option.some.inj found).symm⟩
    · contradiction

theorem Lawful.followed_iff (lawful : h.Lawful call) {i : Nat} {t : Trial}
    (found : h.trials[i]? = some t) : i + 1 < h.trials.length ↔ t.Stale call := by
  rcases lawful with nothing | ⟨first, past, last, trials, native, before, -, latest⟩
  · simp [nothing] at found
  · have length : h.trials.length = past.length + 1 := by simp [trials]
    rcases getElem?_trials trials found with ⟨inside, member⟩ | ⟨rfl, rfl⟩
    · exact ⟨fun _ => (before t member).stale_of, fun _ => by omega⟩
    · exact ⟨fun more => by omega, fun stale => absurd stale latest.not_stale⟩

theorem Lawful.length_le (lawful : h.Lawful call) :
    h.trials.length ≤ 1 + (h.trials.map Trial.changes).sum := by
  rcases lawful with nothing | ⟨first, past, last, trials, native, before, -, latest⟩
  · simp [nothing]
  · have changed : past.length ≤ (past.map Trial.changes).sum := by
      rw [← List.length_map Trial.changes]
      refine List.length_le_sum_of_one_le _ ?_
      intro n member
      obtain ⟨t, among, rfl⟩ := List.mem_map.mp member
      exact Nat.one_le_iff_ne_zero.mpr (before t among).changes
    rw [trials, List.length_append, List.map_append, List.sum_append]
    simp only [List.length_singleton]
    omega

theorem Lawful.final (lawful : h.Lawful call) {i : Nat} {t : Trial} {finish : Option Nat}
    {result : Result} (found : h.trials[i]? = some t) (ended : t.ending = some (finish, result))
    (settled : ¬ t.Stale call) :
    i + 1 = h.trials.length ∧ h.conclusion = some (call.finish result) ∧
      ∀ e, result = .error e → e.kind = call.family → finish = t.start ∧ t.changes = 0 := by
  rcases lawful with nothing | ⟨first, past, last, trials, native, before, -, latest⟩
  · simp [nothing] at found
  · rcases getElem?_trials trials found with ⟨inside, member⟩ | ⟨rfl, rfl⟩
    · exact absurd (before t member).stale_of settled
    · obtain ⟨-, unchanged, conclusion⟩ := latest.finished finish result ended
      refine ⟨by simp [trials], conclusion, ?_⟩
      rintro e rfl family
      by_cases same : finish = t.start
      · exact ⟨same, unchanged.mpr same⟩
      · exact absurd ⟨finish, e, ended, family, same⟩ settled

theorem Lawful.lookup_eq (lawful : h.Lawful call) : ∃ first, ∀ t ∈ h.trials, t.lookup? = none ∨
    t.lookup? = first := by
  rcases lawful with nothing | ⟨first, past, last, trials, native, before, -, latest⟩
  · exact ⟨none, by simp [nothing]⟩
  · refine ⟨first, ?_⟩
    rw [trials]
    refine List.forall_mem_append.mpr ⟨?_, List.forall_mem_singleton.mpr ?_⟩
    · exact fun t member => Or.inr (before t member).lookup.2
    · exact latest.lookup.symm.imp_left And.left

end History

/-- An attempt is followed by another one if and only if it failed in the lookup's own family, before the error
is translated, and the generation of the slot was not the one at its begin. There is at most one attempt more
than the slot has changed under them. What is not stale is the result of the last attempt and of the lookup,
and if it is a failure in the family, the slot has not changed under that attempt. All attempts ask the same
first. An unknown host is looked up again if it is stale, and else becomes a name that is not known. -/
theorem retry_policy {s : State} (reachable : Reachable s) {id : Nat} {call : Call}
    (called : (s.history id).call = some call) :
    (∀ (i : Nat) (t : Trial), (s.history id).trials[i]? = some t →
      (i + 1 < (s.history id).trials.length ↔ t.Stale call)) ∧
    (s.history id).trials.length ≤ 1 + ((s.history id).trials.map Trial.changes).sum ∧
    (∀ (i : Nat) (t : Trial) (finish : Option Nat) (result : Result),
      (s.history id).trials[i]? = some t → t.ending = some (finish, result) → ¬ t.Stale call →
      i + 1 = (s.history id).trials.length ∧ (s.history id).conclusion = some (call.finish result) ∧
        ∀ e, result = .error e → e.kind = call.family → finish = t.start ∧ t.changes = 0) ∧
    (∃ first, ∀ t ∈ (s.history id).trials, t.lookup? = none ∨ t.lookup? = first) ∧
    (∀ (host : Host) (family : Family), call = .hostEntry host family →
      ∀ (i : Nat) (t : Trial) (finish : Option Nat) (message : String),
        (s.history id).trials[i]? = some t →
        t.ending = some (finish, .error (.host HostCode.notFound message)) →
        if finish = t.start then
          i + 1 = (s.history id).trials.length ∧
            (s.history id).conclusion = some (.error .nameNotKnown)
        else i + 1 < (s.history id).trials.length) := by
  have lawful := reachable.lawful called
  refine ⟨fun i t => lawful.followed_iff, lawful.length_le, fun i t finish result => lawful.final,
    lawful.lookup_eq, ?_⟩
  rintro host family rfl i t finish message found ended
  split
  · next same =>
    have settled : ¬ t.Stale (.hostEntry host family) := by
      rintro ⟨other, e, ended', -, moved⟩
      rw [ended, Option.some.injEq, Prod.mk.injEq] at ended'
      exact moved (ended'.1 ▸ same)
    obtain ⟨latest, conclusion, -⟩ := lawful.final found ended settled
    exact ⟨latest, conclusion⟩
  · next moved => exact (lawful.followed_iff found).mpr ⟨finish, _, ended, rfl, moved⟩

def forkedEntry : List Event :=
  [.start (.hostEntry (.bytes [119, 119, 119]) .unspec), .poll 0, .answerEngine .hold, .setPid 2,
    .reinit, .turn, .turn, .poll 0]

theorem retry_policy_after_fork :
    ∃ t, ((run plain forkedEntry).history 0).trials[0]? = some t ∧
      t.Stale (.hostEntry (.bytes [119, 119, 119]) .unspec) := by
  obtain ⟨followed, -⟩ :=
    retry_policy (Reachable.run reached_plain forkedEntry)
      (rfl : (State.history _ 0).call = some (.hostEntry (.bytes [119, 119, 119]) .unspec))
  exact ⟨_, rfl, (followed 0 _ rfl).mp (by decide)⟩

end HostLookup.Resolver
