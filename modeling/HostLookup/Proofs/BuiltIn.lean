import HostLookup.Engine.Channel
import HostLookup.Proofs.Literals
import HostLookup.Proofs.Origins

/-! What the built-in engine replies, whatever its name servers know and whenever its channel is torn down. A query
is refused before it is started; one that is started fails for want of an answer or of its channel, and is never told
that it asked about no address. -/
namespace HostLookup.Engine
open Text

/-- The channels that come about: one is asked, answers from what name servers know just then, and is torn down. -/
inductive Channel.Served : Channel → Prop
  | created : Served {}
  | issued {c d : Channel} {query : EngineQuery} {id : Nat} (before : Served c)
      (accepted : c.issue query = .ok (id, d)) : Served d
  | concluded {c : Channel} (before : Served c) (directory : Directory) (id : Nat) :
      Served (c.conclude directory.answer id)
  | destroyed {c : Channel} (before : Served c) : Served c.destroy

/-- What such a channel makes of a query: it does not start it, or a waiter reads how it has ended. -/
inductive Gives : (query : EngineQuery) → Except Fault query.Answer → Prop
  | refused {c : Channel} {query : EngineQuery} {fault : Fault} (served : c.Served)
      (refusal : c.issue query = .error fault) : Gives query (.error fault)
  | ended {c : Channel} {id : Nat} {outcome : Outcome} (served : c.Served) (ended : c.result? id = some outcome) :
      Gives outcome.query outcome.result

/-- The replies there are: a refusal, the end of the channel, and the answer of a directory. -/
inductive Replies : (query : EngineQuery) → Except Fault query.Answer → Prop
  | refused {query : EngineQuery} {fault : Fault} (refusal : refusal? query = some fault) :
      Replies query (.error fault)
  | destroyed {query : EngineQuery} (accepted : refusal? query = none) : Replies query (.error .destruction)
  | answered {query : EngineQuery} (accepted : refusal? query = none) (directory : Directory) :
      Replies query (directory.answer query)

namespace Channel

structure Sound (c : Channel) : Prop where
  tracked : ∀ id query, (id, query) ∈ c.tracked → refusal? query = none
  ended : ∀ id outcome, (id, outcome) ∈ c.ended → Replies outcome.query outcome.result

variable {c d : Channel} {query : EngineQuery} {id : Nat}

theorem issue_cases (c : Channel) (query : EngineQuery) :
    (∃ fault, refusal? query = some fault ∧ c.issue query = .error fault) ∨
      refusal? query = none ∧ (c.destroyed = true ∧ c.issue query = .error .destruction ∨
        c.destroyed = false ∧ c.issue query = .ok (c.nextQuery,
          { c with nextQuery := c.nextQuery + 1, tracked := c.tracked ++ [(c.nextQuery, query)] })) := by
  unfold issue
  cases refusal? query with
  | some fault => exact .inl ⟨fault, rfl, rfl⟩
  | none => cases c.destroyed <;> simp

theorem Sound.issue (sound : c.Sound) (accepted : c.issue query = .ok (id, d)) : d.Sound := by
  rcases c.issue_cases query with ⟨fault, -, failed⟩ | ⟨started, ⟨-, failed⟩ | ⟨-, issued⟩⟩
  · exact nomatch accepted.symm.trans failed
  · exact nomatch accepted.symm.trans failed
  · obtain ⟨-, rfl⟩ := Prod.mk.inj (Except.ok.inj (accepted.symm.trans issued))
    refine ⟨fun other asked member => ?_, sound.ended⟩
    rcases List.mem_append.mp member with earlier | last
    · exact sound.tracked other asked earlier
    · obtain ⟨-, rfl⟩ := Prod.mk.inj (List.mem_singleton.mp last)
      exact started

theorem Sound.conclude (sound : c.Sound) (directory : Directory) (id : Nat) :
    (c.conclude directory.answer id).Sound := by
  unfold Channel.conclude
  split
  · exact sound
  · next query running =>
    have member : (id, query) ∈ c.tracked := by
      obtain ⟨front, back, tracked, -⟩ := List.lookup_eq_some_iff.mp running
      simp [tracked]
    refine ⟨fun other asked member => sound.tracked other asked (List.mem_of_mem_filter member), ?_⟩
    intro other outcome read
    rcases List.mem_append.mp read with earlier | last
    · exact sound.ended other outcome earlier
    · obtain ⟨-, rfl⟩ := Prod.mk.inj (List.mem_singleton.mp last)
      exact .answered (sound.tracked id query member) directory

theorem Sound.destroy (sound : c.Sound) : c.destroy.Sound := by
  unfold Channel.destroy
  split
  · exact sound
  · refine ⟨fun _ _ member => (nomatch member), fun other outcome read => ?_⟩
    rcases List.mem_append.mp read with earlier | aborted
    · exact sound.ended other outcome earlier
    · obtain ⟨⟨running, query⟩, member, same⟩ := List.mem_map.mp aborted
      obtain ⟨-, rfl⟩ := Prod.mk.inj same
      exact .destroyed (sound.tracked running query member)

theorem Served.sound (served : c.Served) : c.Sound := by
  induction served with
  | created => exact ⟨fun _ _ member => (nomatch member), fun _ _ read => (nomatch read)⟩
  | issued before accepted ih => exact ih.issue accepted
  | concluded before directory id ih => exact ih.conclude directory id
  | destroyed before ih => exact ih.destroy

end Channel

variable {query : EngineQuery} {reply : Except Fault query.Answer}

theorem Gives.replies (gives : Gives query reply) : Replies query reply := by
  cases gives with
  | @refused c query fault served refusal =>
    rcases c.issue_cases query with ⟨other, refused, failed⟩ | ⟨accepted, ⟨-, failed⟩ | ⟨-, issued⟩⟩
    · obtain rfl := Except.error.inj (refusal.symm.trans failed)
      exact .refused refused
    · obtain rfl := Except.error.inj (refusal.symm.trans failed)
      exact .destroyed accepted
    · exact nomatch refusal.symm.trans issued
  | @ended c id outcome served read =>
    obtain ⟨front, back, ended, -⟩ := List.lookup_eq_some_iff.mp read
    exact served.sound.ended id outcome (by simp [ended])

theorem Replies.gives (replies : Replies query reply) : Gives query reply := by
  have issued (accepted : refusal? query = none) :
      (({} : Channel).issue query) = .ok (0, { nextQuery := 1, tracked := [(0, query)] }) := by
    simp [Channel.issue, accepted]
  cases replies with
  | refused refusal => exact .refused .created (by simp [Channel.issue, refusal])
  | destroyed accepted =>
    exact .refused (.destroyed .created) (by simp [Channel.issue, Channel.destroy, accepted])
  | answered accepted directory =>
    -- Its first query is the one that the directory answers.
    have served := Channel.Served.concluded (.issued .created (issued accepted)) directory 0
    exact @Gives.ended _ 0 ⟨query, directory.answer query⟩ served (by simp [Channel.conclude, Channel.result?])

/-! What queries are answered with. -/

theorem Gives.records {q : AddressQuery} {records : List Record} (gives : Gives (.addressInfo q) (.ok records)) :
    refusal? (.addressInfo q) = none ∧
      ∃ (name : String) (ips : List Ip), records = ips.map (record q name) ∧
        ∀ ip ∈ ips, q.family.admits ip = true := by
  have replies := gives.replies
  generalize outcome : (.ok records : Except Fault (EngineQuery.addressInfo q).Answer) = reply at replies
  cases replies with
  | refused refusal => contradiction
  | destroyed accepted => contradiction
  | answered accepted directory =>
    obtain ⟨found, -, made⟩ := bind_eq_ok.mp outcome.symm
    obtain rfl := Except.ok.inj made
    exact ⟨accepted, _, _, rfl, fun ip member => (List.mem_filter.mp member).2⟩

theorem Gives.addresses {name : Bytes} {family : Family} {entry : HostEntry}
    (gives : Gives (.hostByName name family) (.ok entry)) : ∀ ip ∈ entry.addresses, family.admits ip = true := by
  have replies := gives.replies
  generalize outcome : (.ok entry : Except Fault (EngineQuery.hostByName name family).Answer) = reply at replies
  cases replies with
  | refused refusal => contradiction
  | destroyed accepted => contradiction
  | answered accepted directory =>
    obtain ⟨found, -, made⟩ := bind_eq_ok.mp outcome.symm
    obtain rfl := Except.ok.inj made
    exact fun ip member => (List.mem_filter.mp member).2

/-! How queries fail. -/

theorem Directory.resolve_error {directory : Directory} {name : String} {fault : Fault}
    (failed : directory.resolve name = .error fault) : ∃ miss, fault = Miss.fault miss := by
  obtain ⟨miss, -, same⟩ := mapError_eq_error.mp failed
  exact ⟨miss, same.symm⟩

theorem Directory.entryOf_error {directory : Directory} {ip : Ip} {fault : Fault}
    (failed : directory.entryOf ip = .error fault) : ∃ miss, fault = Miss.fault miss := by
  rcases bind_eq_error failed with unknown | ⟨names, -, unnamed⟩
  · obtain ⟨miss, -, same⟩ := mapError_eq_error.mp unknown
    exact ⟨miss, same.symm⟩
  · split at unnamed
    · exact ⟨.noName, (Except.error.inj unnamed).symm⟩
    · contradiction

theorem Directory.answer_error {directory : Directory} (accepted : refusal? query = none) {fault : Fault}
    (failed : directory.answer query = .error fault) : ∃ miss, fault = Miss.fault miss := by
  cases query with
  | hostByName name family =>
    rcases bind_eq_error failed with unresolved | ⟨found, -, answered⟩
    · exact resolve_error unresolved
    · contradiction
  | addressInfo q =>
    rcases bind_eq_error failed with unresolved | ⟨found, -, answered⟩
    · exact resolve_error unresolved
    · contradiction
  | hostByAddress address =>
    simp only [Directory.answer] at failed
    split at failed
    · next illegal => simp [refusal?, illegal] at accepted
    · exact entryOf_error failed
  | nameInfo address flags =>
    simp only [Directory.answer, Directory.node] at failed
    split at failed
    · contradiction
    · split at failed
      · contradiction
      · split at failed
        · exact ⟨.noName, (Except.error.inj failed).symm⟩
        · contradiction

theorem refusal?_eq_invalidIp {text : String} (refused : refusal? query = some (.invalidIp text)) :
    ∃ address, query = .hostByAddress address ∧ literal? address = none := by
  cases query with
  | hostByName name family =>
    simp only [refusal?] at refused
    split at refused <;> simp at refused
  | addressInfo q =>
    have service (numeric : Bool) (name : Bytes) : Service.toPort numeric name ≠ .error (.invalidIp text) := by
      unfold Service.toPort
      repeat' split
      all_goals simp
    simp only [refusal?] at refused
    split at refused
    · simp at refused
    · split at refused
      · next fault failed =>
        obtain rfl := Option.some.inj refused
        obtain ⟨name, -, failed⟩ := Option.map_eq_some_iff.mp failed
        exact absurd failed (service _ name)
      · contradiction
  | hostByAddress address =>
    simp only [refusal?] at refused
    split at refused
    · next illegal => exact ⟨address, rfl, by simpa using illegal⟩
    · contradiction
  | nameInfo address flags => contradiction

theorem Gives.invalidIp {text : String} (gives : Gives query (.error (.invalidIp text))) :
    ∃ address, query = .hostByAddress address ∧ literal? address = none := by
  have replies := gives.replies
  generalize outcome : (.error (.invalidIp text) : Except Fault query.Answer) = reply at replies
  cases replies with
  | refused refusal =>
    obtain rfl := Except.error.inj outcome
    exact refusal?_eq_invalidIp refusal
  | destroyed accepted => exact nomatch Except.error.inj outcome
  | answered accepted directory =>
    obtain ⟨miss, same⟩ := directory.answer_error accepted outcome.symm
    cases miss <;> contradiction

theorem refusal?_text (ip : Ip) : refusal? (.hostByAddress (toBytes ip.text)) = none := by
  simp [refusal?, literal?_text]

theorem Directory.answer_text (directory : Directory) (ip : Ip) :
    directory.answer (.hostByAddress (toBytes ip.text)) = directory.entryOf ip := by
  simp [Directory.answer, literal?_text]

end HostLookup.Engine
