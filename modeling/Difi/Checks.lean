import Difi.Writer

namespace Difi.Checks

open Machine

theorem ite_eq_ok {ε : Type} {p : Prop} [Decidable p] {e : ε} {u : Unit} :
    (if p then (.ok () : Outcome ε Unit) else .err e) = .ok u ↔ p := by
  split <;> simp_all

theorem ite_err_eq_ok {ε α : Type} {p : Prop} [Decidable p] {e : ε} {x : Outcome ε α} {a : α} :
    (if p then .err e else x) = .ok a ↔ ¬p ∧ x = .ok a := by
  split <;> simp_all

@[simp] theorem profileError_eq_ok {α : Type} {x : Result α} {a : α} :
    profileError x = .ok a ↔ x = .ok a :=
  Outcome.mapErr_eq_ok

theorem fixedMask_toNat (raw : UInt64) : (raw &&& (((1 : UInt64) <<< 20) - 1)).toNat = raw.toNat % 2 ^ 20 := by
  have h : (((1 : UInt64) <<< 20) - 1).toNat = 2 ^ 20 - 1 := rfl
  rw [UInt64.toNat_and, h, Nat.and_two_pow_sub_one_eq_mod]

@[simp] theorem validateFixedIntegerHz_eq_ok {field : String} {raw : UInt64} {u : Unit} :
    validateFixedIntegerHz field raw = .ok u ↔ raw.toNat % 2 ^ 20 = 0 := by
  rw [validateFixedIntegerHz, ite_eq_ok, ← UInt64.toNat_inj, fixedMask_toNat]
  rfl

@[simp] theorem expectWord_eq_ok {field : String} {expected actual : UInt32} {u : Unit} :
    expectWord field expected actual = .ok u ↔ actual = expected :=
  ite_eq_ok

@[simp] theorem expectWordOneOf_eq_ok {field : String} {actual : UInt32} {allowed : List UInt32} {u : Unit} :
    expectWordOneOf field actual allowed = .ok u ↔ actual ∈ allowed := by
  rw [expectWordOneOf, ite_eq_ok, List.contains_iff_mem]

@[simp] theorem expectBits_eq_ok {field : String} {expected actual : UInt8} {u : Unit} :
    expectBits field expected actual = .ok u ↔ actual = expected :=
  ite_eq_ok

@[simp] theorem expectPacketSize_eq_ok {profile : StandardProfile} {layout : PacketLayout}
    {packetClass : PacketClassCode} {actual : UInt16} {u : Unit} :
    profile.expectPacketSize layout packetClass actual = .ok u ↔
      actual = match layout with
        | .signalContext => 27
        | .versionContext => 11
        | .timingFlowControl => 21
        | .sinkCapabilitiesQueryLong => 13
        | .sinkCapabilitiesQueryShort => 15
        | .sinkCapabilitiesResponseShort => 18 :=
  ite_eq_ok

@[simp] theorem validateStatusReportSize_eq_ok {profile : StandardProfile} {packetClass : PacketClassCode}
    {actual : UInt16} {u : Unit} : profile.validateStatusReportSize packetClass actual = .ok u ↔
      actual = 15 ∨ actual = 17 ∨ actual = 21 := by
  rw [StandardProfile.validateStatusReportSize, ite_eq_ok, List.contains_iff_mem]
  simp [statusReportSizes]

@[simp] theorem parserExpectNoPadding_eq_ok {prologue : Prologue} {u : Unit} :
    Parser.expectNoPadding prologue = .ok u ↔ prologue.classId.padBitCount = 0 :=
  ite_eq_ok

@[simp] theorem writerExpectNoPadding_eq_ok {prologue : Prologue} {u : Unit} :
    Writer.expectNoPadding prologue = .ok u ↔ prologue.classId.padBitCount = 0 :=
  ite_eq_ok

@[simp] theorem expectField_eq_ok {field : String} {expected actual : UInt64} {u : Unit} :
    Writer.expectField field expected actual = .ok u ↔ expected = actual :=
  ite_eq_ok

@[simp] theorem expectAbsentU32_eq_ok {field : String} {value : Option UInt32} {u : Unit} :
    Writer.expectAbsentU32 field value = .ok u ↔ value = none := by
  rw [Writer.expectAbsentU32, ite_eq_ok, Option.isNone_iff_eq_none]

@[simp] theorem expectAbsentU64_eq_ok {field : String} {value : Option UInt64} {u : Unit} :
    Writer.expectAbsentU64 field value = .ok u ↔ value = none := by
  rw [Writer.expectAbsentU64, ite_eq_ok, Option.isNone_iff_eq_none]

@[simp] theorem required_eq_ok {α : Type} {field : String} {value : Option α} {a : α} :
    Writer.required field value = .ok a ↔ value = some a :=
  Outcome.okOr_eq_ok

theorem toUInt64_inj32 {a b : UInt32} : a.toUInt64 = b.toUInt64 ↔ a = b := by
  simp only [← UInt64.toNat_inj, UInt32.toNat_toUInt64, UInt32.toNat_inj]

theorem toUInt64_inj8 {a b : UInt8} : a.toUInt64 = b.toUInt64 ↔ a = b := by
  simp only [← UInt64.toNat_inj, UInt8.toNat_toUInt64, UInt8.toNat_inj]

end Difi.Checks
