import HostLookup.Rendezvous
import Mathlib.Data.List.Induction

/-! What passes between the halves of a pair. The story of a pair, the commands on it with their outcomes, says
how the completion was used up and whether the waiting side is gone; nothing that happens to other pairs matters. -/
namespace HostLookup.Rendezvous

variable {α : Type}

/-- How a command uses the completion up: with a result, or with none. -/
def Command.ending? : Command α → Option (Option (Except Fault α))
  | .switch value => some (some (.ok value))
  | .throw fault => some (some (.error fault))
  | .deliver result => some (some result)
  | .dropCompletion => some none
  | _ => none

def Outcome.isResult : Outcome α → Bool
  | .reading (.result _) => true
  | _ => false

/-- After this nobody waits: the waiter was dropped, or its reading has returned. -/
def Command.departs : Command α → Outcome α → Bool
  | .dropWaiter, _ => true
  | _, outcome => outcome.isResult

abbrev Story (α : Type) := List (Command α × Outcome α)

namespace Story

/-- How the completion was used up, if it was; only its first use counts. -/
def ending? (story : Story α) : Option (Option (Except Fault α)) :=
  story.findSome? fun entry => entry.1.ending?

def departed (story : Story α) : Bool :=
  story.any fun entry => entry.1.departs entry.2

def returns (story : Story α) : Nat :=
  story.countP fun entry => entry.2.isResult

def leaves (story : Story α) : Rendezvous α where
  completion := story.ending?.isNone
  waiter := !story.departed
  slot := if story.departed then none else story.ending?.join

variable (story : Story α) (command : Command α) (outcome : Outcome α)

@[simp] theorem ending?_concat :
    ending? (story ++ [(command, outcome)]) = story.ending?.or command.ending? := by
  unfold ending?
  rw [List.findSome?_append, List.findSome?_cons]
  cases command.ending? <;> rfl

@[simp] theorem departed_concat :
    departed (story ++ [(command, outcome)]) = (story.departed || command.departs outcome) := by
  simp [departed]

@[simp] theorem returns_concat :
    returns (story ++ [(command, outcome)]) = story.returns + if outcome.isResult then 1 else 0 := by
  simp [returns, List.countP_singleton]

theorem leaves_obey {command : Command α} (same : command ≠ .pair) :
    (story.leaves.obey command).2 = leaves (story ++ [(command, (story.leaves.obey command).1)]) := by
  unfold leaves
  rw [ending?_concat, departed_concat]
  generalize story.ending? = ending, story.departed = departed
  cases command with
  | pair => exact absurd rfl same
  | switch value => rcases ending with _ | _ | result <;> cases departed <;> rfl
  | throw fault => rcases ending with _ | _ | result <;> cases departed <;> rfl
  | deliver result => rcases ending with _ | _ | earlier <;> cases departed <;> rfl
  | dropCompletion => rcases ending with _ | _ | result <;> cases departed <;> rfl
  | dropWaiter => rcases ending with _ | _ | result <;> cases departed <;> rfl
  | isAbandoned => rcases ending with _ | _ | result <;> cases departed <;> rfl
  | get => rcases ending with _ | _ | result <;> cases departed <;> rfl

theorem get_leaves : (story.leaves.obey .get).1 = .reading
    (if story.departed then .gone
      else match story.ending? with
        | none => .pending
        | some none => .result (.error .destruction)
        | some (some result) => .result result) := by
  unfold leaves
  generalize story.ending? = ending, story.departed = departed
  rcases ending with _ | _ | result <;> cases departed <;> rfl

theorem isAbandoned_leaves (unused : story.ending? = none) :
    (story.leaves.obey .isAbandoned).1 = .flag story.departed := by
  unfold leaves
  rw [unused]
  cases story.departed <;> rfl

theorem abandoned_obey {command : Command α} (abandoned : story.departed = true) (uses : command.ending? ≠ none) :
    (story.leaves.obey command).2 = (story.leaves.obey .dropCompletion).2 := by
  unfold leaves
  rw [abandoned]
  generalize story.ending? = ending
  cases command with
  | switch value => rcases ending with _ | _ | result <;> rfl
  | throw fault => rcases ending with _ | _ | result <;> rfl
  | deliver result => rcases ending with _ | _ | earlier <;> rfl
  | dropCompletion => rfl
  | pair => exact absurd rfl uses
  | dropWaiter => exact absurd rfl uses
  | isAbandoned => exact absurd rfl uses
  | get => exact absurd rfl uses

theorem departed_of_isResult {command : Command α} (result : (story.leaves.obey command).1.isResult = true) :
    story.departed = false ∧ command = .get := by
  have unread : ∀ there : Bool, (Outcome.ofDelivery there : Outcome α).isResult = false := by
    intro there
    cases there <;> rfl
  cases command with
  | get =>
    refine ⟨?_, rfl⟩
    cases departed : story.departed with
    | false => rfl
    | true => simp [get_leaves, departed, Outcome.isResult] at result
  | isAbandoned =>
    unfold obey isAbandoned? at result
    dsimp only at result
    split at result <;> contradiction
  | pair => contradiction
  | switch value => exact absurd ((unread _).symm.trans result) Bool.false_ne_true
  | throw fault => exact absurd ((unread _).symm.trans result) Bool.false_ne_true
  | deliver value => exact absurd ((unread _).symm.trans result) Bool.false_ne_true
  | dropCompletion => contradiction
  | dropWaiter => contradiction

end Story

namespace Table

variable (table : Table α) (name : String)

def story (commands : List (String × Command α)) : Story α :=
  (commands.zip (table.run commands)).filterMap fun ((other, command), outcome) =>
    if other = name then some (command, outcome) else none

@[simp] theorem find_set (r : Rendezvous α) : (table.set name r).find name = r := by
  simp [find, set]

theorem find_set_of_ne {other : String} (different : other ≠ name) (r : Rendezvous α) :
    (table.set name r).find other = table.find other := by
  have kept : (table.filter (·.1 != name)).lookup other = table.lookup other := by
    induction table with
    | nil => rfl
    | cons entry rest ih =>
      obtain ⟨key, value⟩ := entry
      by_cases same : key = name
      · subst same
        rw [List.filter_cons_of_neg (by simp), ih, List.lookup_cons, beq_eq_false_iff_ne.mpr different]
      · rw [List.filter_cons_of_pos (by simpa using same), List.lookup_cons, List.lookup_cons, ih]
  unfold find set
  rw [List.lookup_cons, beq_eq_false_iff_ne.mpr different, kept]

variable {table name}

theorem find_step (command : Command α) :
    (table.step name command).2.find name = ((table.find name).obey command).2 :=
  find_set table name _

theorem find_step_of_ne {other : String} (different : other ≠ name) (command : Command α) :
    (table.step name command).2.find other = table.find other :=
  find_set_of_ne table name different _

theorem after_concat (commands : List (String × Command α)) (entry : String × Command α) :
    table.after (commands ++ [entry]) = ((table.after commands).step entry.1 entry.2).2 :=
  List.foldl_append

theorem run_concat (commands : List (String × Command α)) (entry : String × Command α) :
    table.run (commands ++ [entry]) =
      table.run commands ++ [((table.after commands).step entry.1 entry.2).1] := by
  induction commands generalizing table with
  | nil => rfl
  | cons first rest ih => exact congrArg _ ih

@[simp] theorem length_run (commands : List (String × Command α)) :
    (table.run commands).length = commands.length := by
  induction commands generalizing table with
  | nil => rfl
  | cons first rest ih => exact congrArg (· + 1) ih

theorem story_concat (commands : List (String × Command α)) (command : Command α) :
    table.story name (commands ++ [(name, command)]) =
      table.story name commands ++ [(command, ((table.after commands).step name command).1)] := by
  unfold story
  rw [run_concat, List.zip_append (length_run commands).symm, List.filterMap_append]
  simp

theorem story_concat_of_ne {other : String} (different : other ≠ name) (commands : List (String × Command α))
    (command : Command α) :
    table.story name (commands ++ [(other, command)]) = table.story name commands := by
  unfold story
  rw [run_concat, List.zip_append (length_run commands).symm, List.filterMap_append]
  simp [different]

theorem find_after (opened : table.find name = {}) {commands : List (String × Command α)}
    (same : (name, .pair) ∉ commands) :
    (table.after commands).find name = (table.story name commands).leaves := by
  induction commands using List.reverseRecOn with
  | nil => exact opened
  | append_singleton commands entry ih =>
    obtain ⟨other, command⟩ := entry
    simp only [List.mem_append, List.mem_singleton, not_or, Prod.mk.injEq, not_and] at same
    have before := ih same.1
    rw [after_concat]
    by_cases own : other = name
    · subst own
      have kept : command ≠ .pair := fun pair => same.2 rfl pair.symm
      have obeyed := (table.story other commands).leaves_obey kept
      rw [story_concat, find_step, before, obeyed, step, before]
      rfl
    · rw [find_step_of_ne (Ne.symm own), story_concat_of_ne own, before]

theorem returns_story (opened : table.find name = {}) {commands : List (String × Command α)}
    (same : (name, .pair) ∉ commands) :
    (table.story name commands).returns ≤ if (table.story name commands).departed then 1 else 0 := by
  induction commands using List.reverseRecOn with
  | nil => exact Nat.le_refl 0
  | append_singleton commands entry ih =>
    obtain ⟨other, command⟩ := entry
    simp only [List.mem_append, List.mem_singleton, not_or] at same
    have before := ih same.1
    by_cases own : other = name
    · subst own
      have outcome : ((table.after commands).step other command).1 =
          ((table.story other commands).leaves.obey command).1 := by
        rw [← find_after opened same.1]
        rfl
      rw [story_concat, outcome, Story.returns_concat, Story.departed_concat]
      cases result : ((table.story other commands).leaves.obey command).1.isResult with
      | false =>
        refine Nat.le_trans before ?_
        cases (table.story other commands).departed <;> simp
      | true =>
        obtain ⟨waited, rfl⟩ := Story.departed_of_isResult _ result
        have leaves : Command.departs .get ((table.story other commands).leaves.obey .get).1 = true := result
        simpa [waited, leaves] using before
    · rw [story_concat_of_ne own]
      exact before

/-- A reading returns what was delivered to the completion of its own pair, and does so once. It returns a
destruction that was not delivered if the completion was dropped instead, and is pending as long as neither has
happened. A completion is abandoned when nobody waits for it any more; what is then delivered is lost, and is all
the same to every pair. -/
theorem halves_meet (table : Table α) {name : String} {since : List (String × Command α)}
    (newest : (name, .pair) ∉ since) :
    let opened := (table.step name .pair).2
    let now := opened.after since
    let story := opened.story name since
    (∀ result, (now.step name .get).1 = .reading (.result result) ↔ story.departed = false ∧
      (story.ending? = some (some result) ∨ story.ending? = some none ∧ result = .error .destruction)) ∧
    ((now.step name .get).1 = .reading .pending ↔ story.departed = false ∧ story.ending? = none) ∧
    story.returns ≤ 1 ∧
    (story.ending? = none → (now.step name .isAbandoned).1 = .flag story.departed) ∧
    (story.departed = true → ∀ command : Command α, command.ending? ≠ none →
      (now.step name command).2 = (now.step name .dropCompletion).2 ∧
      ∀ other, other ≠ name → (now.step name command).2.find other = now.find other) := by
  intro opened now story
  have fresh : opened.find name = {} := find_set table name _
  have stands : now.find name = story.leaves := find_after fresh newest
  have obeys : ∀ command, (now.step name command).1 = (story.leaves.obey command).1 :=
    fun command => by rw [← stands]; rfl
  refine ⟨fun result => ?_, ?_, ?_, fun unused => ?_, fun abandoned command uses => ⟨?_, ?_⟩⟩
  · rw [obeys, story.get_leaves]
    rcases story.ending? with _ | _ | delivered <;> cases story.departed <;> simp [eq_comm]
  · rw [obeys, story.get_leaves]
    rcases story.ending? with _ | _ | delivered <;> cases story.departed <;> simp
  · refine Nat.le_trans (returns_story fresh newest) ?_
    split <;> decide
  · rw [obeys]
    exact story.isAbandoned_leaves unused
  · have lost := story.abandoned_obey abandoned uses
    rw [← stands] at lost
    exact congrArg (now.set name) lost
  · exact fun other different => find_step_of_ne different command

def interleaved : List (String × Command Nat) :=
  [("second", .pair), ("first", .get), ("second", .dropWaiter), ("first", .throw .destruction),
    ("second", .switch 7)]

theorem halves_meet_interleaved :
    let now := after (step [] "first" .pair).2 interleaved
    (now.step "first" .get).1 = .reading (.result (.error .destruction)) := by
  have newest : ("first", Command.pair) ∉ interleaved := by simp [interleaved]
  obtain ⟨reads, -⟩ := halves_meet [] newest
  exact (reads _).mpr ⟨rfl, .inl rfl⟩

end Table

end HostLookup.Rendezvous
