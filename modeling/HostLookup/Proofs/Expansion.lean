import HostLookup.Record
import Mathlib.Data.List.Forall2

/-! Filling in the socket types and protocols of records. Each record becomes one or two complete ones in its place,
which keep what it has; and complete records stay as they are, whatever is requested. -/
namespace HostLookup

structure AddressInfo.Keeps (info : AddressInfo) (record : Record) : Prop where
  family : info.family = record.family
  canonicalName : info.canonicalName = record.canonicalName
  address : info.address = record.address
  socketType : ∀ type ∈ record.socketType, info.socketType = type
  protocol : ∀ protocol ∈ record.protocol, info.protocol = protocol

namespace Record

variable (socketType : Option SocketType) (protocol : Protocol)

/-- Neither the record nor the request says anything about socket type and protocol. -/
def Undecided (record : Record) : Prop :=
  record.socketType = none ∧ record.protocol = none ∧ socketType = none ∧ protocol = .any

instance (record : Record) : Decidable (record.Undecided socketType protocol) :=
  inferInstanceAs (Decidable (_ ∧ _ ∧ _ ∧ _))

/-- The complete records in place of a record: one, or one for each transport if nothing decides between them. -/
inductive Completed (record : Record) : List AddressInfo → Prop
  | one {info : AddressInfo} (decided : ¬ record.Undecided socketType protocol) (keeps : info.Keeps record) :
      Completed record [info]
  | two {stream datagram : AddressInfo} (undecided : record.Undecided socketType protocol)
      (first : stream.Keeps record) (streams : stream.socketType = .stream ∧ stream.protocol = .tcp)
      (second : datagram.Keeps record) (datagrams : datagram.socketType = .datagram ∧ datagram.protocol = .udp) :
      Completed record [stream, datagram]

variable {socketType protocol}

theorem keeps_complete {record : Record} {type : SocketType} {protocol : Protocol}
    (socketType : ∀ own ∈ record.socketType, type = own) (own : ∀ own ∈ record.protocol, protocol = own) :
    (record.complete type protocol).Keeps record :=
  ⟨rfl, rfl, rfl, socketType, own⟩

theorem completed_expand (socketType : Option SocketType) (protocol : Protocol) (record : Record) :
    record.Completed socketType protocol (record.expand (transports socketType protocol)) := by
  unfold expand
  cases types : record.socketType with
  | some type =>
    have decided : ¬ record.Undecided socketType protocol := by simp [Undecided, types]
    cases protocols : record.protocol with
    | some own => exact .one decided (keeps_complete (by simp [types]) (by simp [protocols]))
    | none => exact .one decided (keeps_complete (by simp [types]) (by simp [protocols]))
  | none =>
    cases protocols : record.protocol with
    | some own =>
      have decided : ¬ record.Undecided socketType protocol := by simp [Undecided, protocols]
      exact .one decided (keeps_complete (by simp [types]) (by simp [protocols]))
    | none =>
      have keeps (type : SocketType) (protocol : Protocol) : (record.complete type protocol).Keeps record :=
        keeps_complete (by simp [types]) (by simp [protocols])
      unfold transports
      cases socketType with
      | some requested => exact .one (by simp [Undecided]) (keeps _ _)
      | none =>
        dsimp only
        split
        · next any =>
          exact .two ⟨types, protocols, rfl, any⟩ (keeps .stream .tcp) ⟨rfl, rfl⟩ (keeps .datagram .udp) ⟨rfl, rfl⟩
        · next given => exact .one (by simp [Undecided, given]) (keeps _ _)

theorem Completed.length {record : Record} {infos : List AddressInfo}
    (completed : record.Completed socketType protocol infos) :
    infos.length = 1 + if record.Undecided socketType protocol then 1 else 0 := by
  cases completed with
  | one decided keeps => simp [decided]
  | two undecided => simp [undecided]

theorem expand_toRecord (requested : List (SocketType × Protocol)) (info : AddressInfo) :
    info.toRecord.expand requested = [info] :=
  rfl

theorem backfill_toRecord (infos : List AddressInfo) (socketType : Option SocketType) (protocol : Protocol) :
    backfill (infos.map AddressInfo.toRecord) socketType protocol = infos := by
  simp [backfill, List.flatMap_map, expand_toRecord]

theorem length_backfill (records : List Record) (socketType : Option SocketType) (protocol : Protocol) :
    (backfill records socketType protocol).length =
      records.length + records.countP fun record => record.Undecided socketType protocol := by
  induction records with
  | nil => rfl
  | cons record records ih =>
    have own := (completed_expand socketType protocol record).length
    rw [backfill] at ih ⊢
    rw [List.flatMap_cons, List.length_append, ih, own, List.length_cons, List.countP_cons]
    simp only [decide_eq_true_eq]
    omega

theorem backfill_eq_nil {records : List Record} : backfill records socketType protocol = [] ↔ records = [] := by
  rw [← List.length_eq_zero_iff, length_backfill, ← List.length_eq_zero_iff]
  have most := List.countP_le_length (p := fun record : Record => record.Undecided socketType protocol) (l := records)
  omega

/-- Filling in goes record by record, in order. In place of each record are the complete ones that keep what it has:
one, or two exactly if nothing decides between the transports. So nothing is lost, and nothing is left to fill in
under any other request. -/
theorem backfill_lossless (socketType : Option SocketType) (protocol : Protocol) :
    (∀ front back : List Record, backfill (front ++ back) socketType protocol =
      backfill front socketType protocol ++ backfill back socketType protocol) ∧
    (∀ records : List Record, ∃ groups, List.Forall₂ (Completed socketType protocol) records groups ∧
      backfill records socketType protocol = groups.flatten) ∧
    (∀ records : List Record, (backfill records socketType protocol).length =
      records.length + records.countP fun record => record.Undecided socketType protocol) ∧
    (∀ records : List Record, backfill records socketType protocol = [] ↔ records = []) ∧
    ∀ (records : List Record) (other : Option SocketType) (otherProtocol : Protocol),
      backfill ((backfill records socketType protocol).map AddressInfo.toRecord) other otherProtocol =
        backfill records socketType protocol := by
  refine ⟨fun front back => List.flatMap_append, fun records => ?_, fun records => length_backfill records _ _,
    fun records => backfill_eq_nil, fun records => backfill_toRecord _⟩
  refine ⟨records.map (expand (transports socketType protocol)), ?_, List.flatMap_def⟩
  exact List.forall₂_map_right_iff.mpr (List.forall₂_same.mpr fun record _ => completed_expand _ _ record)

end Record

end HostLookup
