import Difi.Machine.History
import Difi.Packet

namespace Difi

open Machine

structure SequenceKey where
  packetType : PacketType
  packetClass : PacketClassCode
  streamId : UInt32
deriving DecidableEq, Repr

inductive SequenceStatus where
  | first
  | inOrder
  | duplicate
  | gap (expected actual : UInt8)
deriving DecidableEq, Repr

/-- The last sequence of each key. A stored sequence is four bits wide, so the
next one is computed without a carry. -/
structure SequenceTracker where
  lastSeen : Table SequenceKey UInt8
  lastSeen_lt : ∀ key, ∀ sequence ∈ lastSeen key, sequence.toNat < 16

namespace SequenceTracker

theorem nibble_lt (sequence : UInt8) : (sequence &&& 0x0F).toNat < 16 := by
  have hmask : (0x0F : UInt8).toNat = 15 := rfl
  rw [UInt8.toNat_and, hmask]
  exact Nat.lt_succ_of_le Nat.and_le_right

theorem nibble_of_lt {sequence : UInt8} (h : sequence.toNat < 16) : sequence &&& 0x0F = sequence := by
  apply UInt8.toNat_inj.mp
  have hmask : (0x0F : UInt8).toNat = 2 ^ 4 - 1 := rfl
  rw [UInt8.toNat_and, hmask, Nat.and_two_pow_sub_one_eq_mod, Nat.mod_eq_of_lt h]

def new : SequenceTracker := ⟨.empty, by simp⟩

/-- The capacity is for the allocation alone. -/
def withCapacity (_capacity : Nat) : SequenceTracker := ⟨.empty, by simp⟩

def observeFields (tracker : SequenceTracker) (packetType : PacketType) (packetClass : PacketClassCode)
    (streamId : UInt32) (sequence : UInt8) : Result SequenceStatus × SequenceTracker :=
  let sequence := sequence &&& 0x0F
  let key : SequenceKey := { packetType, packetClass, streamId }
  let inserted := tracker.lastSeen.insert key sequence
  -- The table holds the new sequence whatever the comparison gives.
  (match inserted.1 with
    | none => .ok .first
    | some previous =>
      if previous = sequence then .ok .duplicate
      else do
        let next ← addU8 previous 1
        let expected := next &&& 0x0F
        if expected = sequence then .ok .inOrder else .ok (.gap expected sequence),
    ⟨inserted.2, Table.forall_insert tracker.lastSeen_lt (nibble_lt _)⟩)

def observe (tracker : SequenceTracker) (packet : Packet) : Result SequenceStatus × SequenceTracker :=
  tracker.observeFields packet.prologue.header.packetType packet.prologue.classId.packetClass
    packet.prologue.streamId packet.prologue.header.sequence

def reset (_tracker : SequenceTracker) : SequenceTracker := ⟨.empty, by simp⟩

def statusAfter (previous : Option UInt8) (sequence : UInt8) : SequenceStatus :=
  match previous with
  | none => .first
  | some previous =>
    if sequence = previous then .duplicate
    else if sequence.toNat = (previous.toNat + 1) % 16 then .inOrder
    else .gap (UInt8.ofNat ((previous.toNat + 1) % 16)) sequence

theorem successor_toNat (previous : UInt8) :
    ((previous + 1) &&& 0x0F).toNat = (previous.toNat + 1) % 16 := by
  have hmask : (0x0F : UInt8).toNat = 2 ^ 4 - 1 := rfl
  rw [UInt8.toNat_and, hmask, Nat.and_two_pow_sub_one_eq_mod, UInt8.toNat_add, UInt8.toNat_one]
  omega

variable (tracker : SequenceTracker) (packetType : PacketType) (packetClass : PacketClassCode)
  (streamId : UInt32) (sequence : UInt8)

theorem observeFields_status : (tracker.observeFields packetType packetClass streamId sequence).1 =
    .ok (statusAfter (tracker.lastSeen ⟨packetType, packetClass, streamId⟩) (sequence &&& 0x0F)) := by
  unfold observeFields
  simp only [Table.insert_fst]
  cases hprevious : tracker.lastSeen ⟨packetType, packetClass, streamId⟩ with
  | none => rfl
  | some previous =>
      have hlt := tracker.lastSeen_lt _ previous hprevious
      have hnext := successor_toNat previous
      have hexpected : UInt8.ofNat ((previous.toNat + 1) % 16) = (previous + 1) &&& 0x0F := by
        rw [← hnext, UInt8.ofNat_toNat]
      have hadd : (addU8 previous 1 : Result UInt8) = .ok (previous + 1) :=
        addU8_ok (by rw [UInt8.toNat_one]; omega)
      have horder : ((previous + 1) &&& 0x0F = sequence &&& 0x0F) ↔
          (sequence &&& 0x0F).toNat = (previous.toNat + 1) % 16 := by
        rw [← hnext, UInt8.toNat_inj]
        exact eq_comm
      simp only [statusAfter, hadd, Outcome.ok_bind, hexpected, horder, eq_comm (a := previous)]
      split
      · rfl
      · exact (apply_ite Outcome.ok _ _ _).symm

@[simp] theorem observeFields_lastSeen :
    (tracker.observeFields packetType packetClass streamId sequence).2.lastSeen =
      (tracker.lastSeen.insert ⟨packetType, packetClass, streamId⟩ (sequence &&& 0x0F)).2 :=
  rfl

end SequenceTracker

end Difi
