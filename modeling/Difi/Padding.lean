import Difi.Machine.Bytes
import Difi.Parser

namespace Difi.Padding

open Machine Difi.Parser

theorem partial_mask {b : UInt8} {k : UInt8} (hk : k.toNat < 8) :
    ((1 : UInt16) ≤ 1 <<< k.toUInt16) ∧
      (b.toUInt16 &&& (1 <<< k.toUInt16 - 1) = 0 ↔ 2 ^ k.toNat ∣ b.toNat) := by
  have hshift : ((1 : UInt16) <<< k.toUInt16).toNat = 2 ^ k.toNat := by
    rw [UInt16.toNat_shiftLeft, UInt8.toNat_toUInt16]
    generalize k.toNat = n at hk
    match n, hk with
    | 0, _ | 1, _ | 2, _ | 3, _ | 4, _ | 5, _ | 6, _ | 7, _ => rfl
  have hpos := Nat.two_pow_pos k.toNat
  have hone : (1 : UInt16) ≤ 1 <<< k.toUInt16 := by
    rw [UInt16.le_iff_toNat_le, hshift]
    exact hpos
  refine ⟨hone, ?_⟩
  rw [← UInt16.toNat_inj, UInt16.toNat_and, UInt16.toNat_sub_of_le _ _ hone, hshift, UInt8.toNat_toUInt16,
    UInt16.toNat_one, Nat.and_two_pow_sub_one_eq_mod, Nat.dvd_iff_mod_eq_zero]
  rfl

/-- The padding rule: as many trailing bits as declared are there and are zero. -/
theorem validateDataPadding_verdict {payload : List UInt8} (padBitCount : UInt8)
    (hlimit : payload.length * 8 < usizeLimit) :
    validateDataPadding payload padBitCount =
      if padBitCount = 0 then .ok ()
      else if padBitCount.toNat > payload.length * 8 then
        .err (.invalidPadding padBitCount (payload.length * 8))
      else if 2 ^ padBitCount.toNat ∣ bigEndian payload then .ok ()
      else .err .nonZeroPaddingBits := by
  rw [validateDataPadding]
  by_cases hzero : padBitCount = 0
  · rw [if_pos hzero, if_pos hzero]
  rw [if_neg hzero, if_neg hzero, mulUsize_ok hlimit, Outcome.ok_bind]
  by_cases hmany : padBitCount.toNat > payload.length * 8
  · rw [if_pos hmany, if_pos hmany]
  have hpositive : padBitCount.toNat ≠ 0 := fun h => hzero (UInt8.toNat_inj.mp h)
  have hempty : ¬payload.isEmpty := by
    intro h
    rw [List.isEmpty_iff.mp h, List.length_nil] at hmany
    omega
  rw [if_neg hmany, if_neg hmany, if_neg hempty]
  have hdiv : (padBitCount / 8).toNat = padBitCount.toNat / 8 := UInt8.toNat_div _ _
  have hmod : (padBitCount % 8).toNat = padBitCount.toNat % 8 := UInt8.toNat_mod _ _
  have hfull : padBitCount.toNat / 8 ≤ payload.length := by omega
  simp only [hdiv]
  -- The payload is split before the whole bytes of padding.
  generalize hn : payload.length - padBitCount.toNat / 8 = n
  have hsplit := List.take_append_drop n payload
  have hdrop : (payload.drop n).length = padBitCount.toNat / 8 := by
    rw [List.length_drop]
    omega
  have hdvd : 2 ^ padBitCount.toNat ∣ bigEndian payload ↔
      (∀ b ∈ payload.drop n, b = 0) ∧ 2 ^ (padBitCount.toNat % 8) ∣ bigEndian (payload.take n) := by
    rw [← pow_dvd_bigEndian_append, hsplit, hdrop, Nat.div_add_mod]
  have htrailing : (if padBitCount.toNat / 8 ≠ 0 then (do
        let start ← subUsize payload.length (padBitCount.toNat / 8)
        let trailing ← sliceFrom payload start
        if trailing.any (· ≠ 0) then .err .nonZeroPaddingBits else .ok ())
      else (.ok () : Result Unit)) =
      if ∀ b ∈ payload.drop n, b = 0 then .ok () else .err .nonZeroPaddingBits := by
    by_cases hwhole : padBitCount.toNat / 8 = 0
    · have hnil : payload.drop n = [] := List.eq_nil_of_length_eq_zero (hdrop.trans hwhole)
      rw [if_neg (not_not.mpr hwhole), hnil, if_pos (by simp)]
    · rw [if_pos hwhole, subUsize_ok hfull, Outcome.ok_bind, hn, sliceFrom_ok (by omega), Outcome.ok_bind]
      by_cases hall : ∀ b ∈ payload.drop n, b = 0
      · rw [if_pos hall, if_neg]
        simpa using hall
      · rw [if_neg hall, if_pos]
        simpa using hall
  rw [htrailing]
  by_cases hall : ∀ b ∈ payload.drop n, b = 0
  · rw [if_pos hall, Outcome.ok_bind]
    by_cases hpartial : padBitCount % 8 = 0
    · have hnone : padBitCount.toNat % 8 = 0 := by
        rw [← hmod, hpartial]
        rfl
      rw [if_neg (not_not.mpr hpartial), if_pos]
      rw [hdvd, hnone]
      exact ⟨hall, Nat.one_dvd _⟩
    · have hsome : padBitCount.toNat % 8 ≠ 0 := by
        intro h
        exact hpartial (UInt8.toNat_inj.mp (hmod.trans h))
      have hlt : (padBitCount % 8).toNat < 8 := by omega
      have hlast : n - 1 < payload.length := by omega
      have hshift : (padBitCount % 8).toUInt16 < 16 := by
        rw [UInt16.lt_iff_toNat_lt, UInt8.toNat_toUInt16]
        exact hlt.trans (by decide)
      obtain ⟨hone, hmask⟩ := partial_mask (b := payload[n - 1]) hlt
      have htake : payload.take n = payload.take (n - 1) ++ [payload[n - 1]] := by
        rw [List.take_append_getElem]
        congr 1
        omega
      have hbit : 2 ^ padBitCount.toNat ∣ bigEndian payload ↔
          2 ^ (padBitCount % 8).toNat ∣ payload[n - 1].toNat := by
        rw [hdvd, hmod, and_iff_right hall, htake, pow_dvd_bigEndian_concat _ _ (by omega)]
      rw [if_pos hpartial, subUsize_ok hfull, Outcome.ok_bind, hn, subUsize_ok (by omega), Outcome.ok_bind,
        shlU16_ok hshift, Outcome.ok_bind, subU16_ok hone, Outcome.ok_bind, indexAt_ok hlast, Outcome.ok_bind]
      by_cases hzeros : 2 ^ padBitCount.toNat ∣ bigEndian payload
      · rw [if_pos hzeros, if_neg (not_not.mpr (hmask.mpr (hbit.mp hzeros)))]
      · rw [if_neg hzeros, if_pos (fun h => hzeros (hbit.mpr (hmask.mp h)))]
  · rw [if_neg hall, if_neg (fun h => hall (hdvd.mp h).1)]
    rfl

end Difi.Padding
