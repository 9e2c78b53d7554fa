import Mathlib.Data.Nat.Bits
import Mathlib.Tactic.Ring

namespace Difi.Machine

/-- Masking with a run of low ones is a remainder. -/
theorem and_mask {n m : Nat} (h : (m + 1) &&& m = 0) : n &&& m = n % (m + 1) := by
  obtain ⟨k, hk⟩ := (Nat.and_sub_one_eq_zero_iff_isPowerOfTwo (Nat.succ_ne_zero m)).mp h
  have hs : m + 1 = 2 ^ k := hk
  have hm : m = 2 ^ k - 1 := by omega
  rw [hs, hm, Nat.and_two_pow_sub_one_eq_mod]

/-- Fields at disjoint positions combine by addition. -/
theorem or_eq_add {a b : Nat} (k : Nat) (ha : 2 ^ k ∣ a) (hb : b < 2 ^ k) : a ||| b = a + b := by
  obtain ⟨c, rfl⟩ := ha
  exact (Nat.two_pow_add_eq_or_of_lt hb c).symm

theorem and_shifted_mask {n m : Nat} (k : Nat) (h : (m + 1) &&& m = 0) :
    n &&& (m * 2 ^ k) = n / 2 ^ k % (m + 1) * 2 ^ k := by
  rw [← and_mask h]
  apply Nat.eq_of_testBit_eq
  intro i
  rw [Nat.testBit_and, Nat.testBit_mul_two_pow, Nat.testBit_mul_two_pow, Nat.testBit_and,
    Nat.testBit_div_two_pow]
  by_cases hi : k ≤ i
  · rw [Nat.sub_add_cancel hi]
    simp [hi]
  · simp [hi]

theorem mask_toNat (w m : UInt32) (hm : (m.toNat + 1) &&& m.toNat = 0) :
    (w &&& m).toNat = w.toNat % (m.toNat + 1) := by
  rw [UInt32.toNat_and, and_mask hm]

theorem shift_mask_toNat (w s m : UInt32) (hs : s.toNat < 32) (hm : (m.toNat + 1) &&& m.toNat = 0) :
    ((w >>> s) &&& m).toNat = w.toNat / 2 ^ s.toNat % (m.toNat + 1) := by
  rw [mask_toNat _ _ hm, UInt32.toNat_shiftRight, Nat.mod_eq_of_lt hs, Nat.shiftRight_eq_div_pow]

section Narrow

variable (w s m : UInt32)

theorem mask_toUInt8_toNat (hm : (m.toNat + 1) &&& m.toNat = 0) (h : m.toNat < 256) :
    (w &&& m).toUInt8.toNat = w.toNat % (m.toNat + 1) := by
  have hlt : w.toNat % (m.toNat + 1) < m.toNat + 1 := Nat.mod_lt _ (Nat.succ_pos _)
  rw [UInt32.toNat_toUInt8, mask_toNat w m hm]
  exact Nat.mod_eq_of_lt (by omega)

theorem mask_toUInt16_toNat (hm : (m.toNat + 1) &&& m.toNat = 0) (h : m.toNat < 65536) :
    (w &&& m).toUInt16.toNat = w.toNat % (m.toNat + 1) := by
  have hlt : w.toNat % (m.toNat + 1) < m.toNat + 1 := Nat.mod_lt _ (Nat.succ_pos _)
  rw [UInt32.toNat_toUInt16, mask_toNat w m hm]
  exact Nat.mod_eq_of_lt (by omega)

theorem shift_mask_toUInt8_toNat (hs : s.toNat < 32) (hm : (m.toNat + 1) &&& m.toNat = 0) (h : m.toNat < 256) :
    ((w >>> s) &&& m).toUInt8.toNat = w.toNat / 2 ^ s.toNat % (m.toNat + 1) := by
  rw [mask_toUInt8_toNat _ m hm h, UInt32.toNat_shiftRight, Nat.mod_eq_of_lt hs, Nat.shiftRight_eq_div_pow]

theorem shift_mask_toUInt16_toNat (hs : s.toNat < 32) (hm : (m.toNat + 1) &&& m.toNat = 0)
    (h : m.toNat < 65536) : ((w >>> s) &&& m).toUInt16.toNat = w.toNat / 2 ^ s.toNat % (m.toNat + 1) := by
  rw [mask_toUInt16_toNat _ m hm h, UInt32.toNat_shiftRight, Nat.mod_eq_of_lt hs, Nat.shiftRight_eq_div_pow]

end Narrow

theorem beq_one_toNat {w : UInt32} (h : w.toNat < 2) : (w == 1).toNat = w.toNat := by
  have hw : w = 0 ∨ w = 1 := by
    simp only [← UInt32.toNat_inj, UInt32.reduceToNat]
    omega
  rcases hw with rfl | rfl <;> rfl

theorem beq_one_of_toNat {w : UInt32} {b : Bool} (h : w.toNat = b.toNat) : (w == 1) = b := by
  have hw : w = if b then 1 else 0 := by
    apply UInt32.toNat_inj.mp
    cases b <;> exact h
  cases b <;> subst hw <;> rfl

theorem bit_toNat (w m : UInt8) (k : Nat) (hm : m.toNat = 2 ^ k) :
    (w &&& m != 0).toNat = w.toNat / 2 ^ k % 2 := by
  have hand : (w &&& m).toNat = w.toNat / 2 ^ k % 2 * 2 ^ k := by
    have h := and_shifted_mask (n := w.toNat) (m := 1) k (by decide)
    rwa [Nat.one_mul, ← hm, ← UInt8.toNat_and, hm] at h
  have hzero : (w &&& m = 0) ↔ w.toNat / 2 ^ k % 2 = 0 := by
    rw [← UInt8.toNat_inj, hand, UInt8.toNat_zero, Nat.mul_eq_zero]
    have := Nat.two_pow_pos k
    omega
  have hlt := Nat.mod_lt (w.toNat / 2 ^ k) (show 0 < 2 by decide)
  by_cases h : w &&& m = 0
  · rw [hzero.mp h, h]
    rfl
  · have hne : w.toNat / 2 ^ k % 2 = 1 := by
      have := mt hzero.mpr h
      omega
    rw [hne, bne_iff_ne.mpr h]
    rfl

theorem forall_small_byte {n : Nat} {P : UInt8 → Prop} (h : ∀ k < n, P (UInt8.ofNat k)) (v : UInt8)
    (hv : v.toNat < n) : P v := by
  have hp := h v.toNat hv
  rwa [UInt8.ofNat_toNat] at hp

end Difi.Machine
