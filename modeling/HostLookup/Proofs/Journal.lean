import HostLookup.Proofs.Flow

/-! How the journal grows. Most pieces of a step ask nothing and hear nothing. -/
namespace HostLookup.Resolver

def Entry.reply? : Entry → Option (Nat × Reply)
  | .task id (.heard reply) => some (id, reply)
  | _ => none

def Silent (s t : State) : Prop :=
  ∃ new, t.journal = s.journal ++ new ∧ ∀ entry ∈ new, entry.reply? = none

namespace Silent

variable {s t u : State}

theorem of_eq (silent : Silent t u) (journal : t.journal = s.journal) : Silent s u := by
  unfold Silent
  rw [← journal]
  exact silent

theorem refl (s : State) : Silent s s :=
  ⟨[], by simp⟩

theorem trans (first : Silent s t) (second : Silent t u) : Silent s u := by
  obtain ⟨new, journal, silent⟩ := first
  obtain ⟨more, later, quiet⟩ := second
  refine ⟨new ++ more, by rw [later, journal, List.append_assoc], ?_⟩
  exact List.forall_mem_append.mpr ⟨silent, quiet⟩

theorem note (s : State) (id : Nat) {note : Note} (unheard : (Entry.task id note).reply? = none) :
    Silent s (s.note id note) :=
  ⟨[.task id note], rfl, by simpa using unheard⟩

end Silent

theorem Goes.silent {s t : State} {id : Nat} (goes : Goes id s t) : Silent s t := by
  induction goes with
  | stops live => exact Silent.note _ id rfl
  | concludes result => exact Silent.note _ id rfl
  | begins rest ih => exact (Silent.note _ id rfl).trans ih
  | ends rest ih => exact (Silent.note _ id rfl).trans ih

/-- Nothing was asked or heard, and a poll is where it has stopped. -/
structure Quiet (s t : State) : Prop where
  journal : ∃ new, t.journal = s.journal ++ new ∧ ∀ entry ∈ new, entry.issue? = none ∧ entry.reply? = none
  busy : t.busy = s.busy

namespace Quiet

variable {s t u : State}

theorem issues (quiet : Quiet s t) : t.issues = s.issues := by
  obtain ⟨new, journal, quiet⟩ := quiet.journal
  have none : new.filterMap Entry.issue? = [] :=
    List.filterMap_eq_nil_iff.mpr fun entry member => (quiet entry member).1
  rw [State.issues, journal, List.filterMap_append, none, List.append_nil, State.issues]

theorem silent (quiet : Quiet s t) : Silent s t := by
  obtain ⟨new, journal, quiet⟩ := quiet.journal
  exact ⟨new, journal, fun entry member => (quiet entry member).2⟩

theorem same (journal : t.journal = s.journal) (busy : t.busy = s.busy) : Quiet s t :=
  ⟨⟨[], by simp [journal]⟩, busy⟩

theorem trans (first : Quiet s t) (second : Quiet t u) : Quiet s u := by
  obtain ⟨new, journal, quiet⟩ := first.journal
  obtain ⟨more, later, still⟩ := second.journal
  refine ⟨⟨new ++ more, by rw [later, journal, List.append_assoc], ?_⟩,
    second.busy.trans first.busy⟩
  exact List.forall_mem_append.mpr ⟨quiet, still⟩

theorem of_eq (quiet : Quiet t u) (journal : t.journal = s.journal) (busy : t.busy = s.busy) :
    Quiet s u :=
  (same journal busy).trans quiet

theorem manage (s : State) (change : Lifecycle → Lifecycle) : Quiet s (s.manage change) := by
  obtain ⟨ready, managed⟩ := s.manage_eq change
  rw [managed]
  refine ⟨⟨_, rfl, ?_⟩, rfl⟩
  split <;> simp [Entry.issue?, Entry.reply?]

theorem wake (s : State) (runnable : Runnable) : Quiet s (s.wake runnable) := by
  unfold State.wake
  split <;> exact .same rfl rfl

theorem signal (s : State) (id : Nat) (reply : EngineReply) : Quiet s (s.signal id reply) := by
  unfold State.signal
  split
  · exact .same rfl rfl
  · exact (wake _ _).of_eq rfl rfl

theorem signalAll (s : State) (completions : List Held) (reply : EngineReply) :
    Quiet s (completions.foldl (fun s (completion : Held) => s.signal completion.task reply) s) := by
  induction completions generalizing s with
  | nil => exact .same rfl rfl
  | cons completion rest ih => exact (signal s completion.task reply).trans (ih _)

theorem deliver (s : State) (id : Nat) (reply : EngineReply) : Quiet s (s.deliver id reply) := by
  unfold State.deliver
  split
  · exact .same rfl rfl
  · exact (signal _ _ _).of_eq rfl rfl

theorem cancel (s : State) (id : Nat) : Quiet s (s.cancel id) := by
  unfold State.cancel
  split
  · exact .same rfl rfl
  · exact (wake _ _).of_eq rfl rfl

theorem startTask (s : State) (call : Call) : Quiet s (s.startTask call) := by
  have started : Quiet s (s.note s.nextTask (.started call)) :=
    ⟨⟨_, rfl, by simp [Entry.issue?, Entry.reply?]⟩, rfl⟩
  exact started.trans ((wake _ _).of_eq rfl rfl)

theorem destroy (s : State) (channel : Nat) : Quiet s (s.destroy channel) := by
  unfold State.destroy
  dsimp only
  split
  · exact (manage s _).trans ((signalAll _ _ _).of_eq rfl rfl)
  · exact manage s _

theorem turn (s : State) : Quiet s s.turn := by
  unfold State.turn
  split
  · exact .same rfl rfl
  · next callback hub _ =>
    have ran : Quiet s (({ s with hub } : State).runCallback callback) := by
      cases callback with
      | destroy channel => exact (destroy _ channel).of_eq rfl rfl
      | fork => exact (manage _ _).of_eq rfl rfl
    dsimp only
    split
    · exact ran.trans (.same rfl rfl)
    · exact ran

end Quiet

def Event.goesOn : Event → Bool
  | .poll _ | .answerNative _ | .answerEngine _ => true
  | _ => false

theorem quiet_act (s : State) {event : Event} (still : event.goesOn = false) :
    Quiet s (act s event) := by
  cases event with
  | start call =>
    rcases act_start s call with same | ⟨-, started⟩
    · exact same.symm ▸ .same rfl rfl
    · exact started.symm ▸ .startTask s call
  | turn =>
    rcases act_turn s with same | ⟨-, turned⟩
    · exact same.symm ▸ .same rfl rfl
    · exact turned.symm ▸ .turn s
  | deliver task reply => exact .deliver s task reply
  | abandon task => exact .deliver s task lost
  | cancel task => exact .cancel s task
  | setPid pid => exact .manage s (·.setPid pid)
  | reinit => exact .manage s Lifecycle.reinit
  | close => exact .manage s Lifecycle.close
  | release => exact .same rfl rfl
  | obstruct obstacle => exact .same rfl rfl
  | poll task => contradiction
  | answerNative reply => contradiction
  | answerEngine reaction => contradiction

end HostLookup.Resolver
