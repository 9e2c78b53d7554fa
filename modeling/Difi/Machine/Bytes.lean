import Difi.Machine.BitFields
import Mathlib.Data.List.GetD
import Mathlib.Data.List.Induction

namespace Difi.Machine

def fromBeBytes (b0 b1 b2 b3 : UInt8) : UInt32 :=
  (b0.toUInt32 <<< 24) ||| (b1.toUInt32 <<< 16) ||| (b2.toUInt32 <<< 8) ||| b3.toUInt32

def toBeBytes (w : UInt32) : List UInt8 :=
  [(w >>> 24).toUInt8, (w >>> 16).toUInt8, (w >>> 8).toUInt8, w.toUInt8]

theorem fromBeBytes_toNat (b0 b1 b2 b3 : UInt8) : (fromBeBytes b0 b1 b2 b3).toNat =
    b0.toNat * 2 ^ 24 + b1.toNat * 2 ^ 16 + b2.toNat * 2 ^ 8 + b3.toNat := by
  have h0 := b0.toNat_lt
  have h1 := b1.toNat_lt
  have h2 := b2.toNat_lt
  have h3 := b3.toNat_lt
  simp only [fromBeBytes, UInt32.toNat_or, UInt32.toNat_shiftLeft, UInt8.toNat_toUInt32,
    UInt32.reduceToNat, Nat.reduceMod, Nat.shiftLeft_eq]
  rw [or_eq_add (a := _ % _) 24, or_eq_add (a := _ + _) 16, or_eq_add (a := _ + _) 8]
  all_goals omega

def fromBeBytes16 (b0 b1 : UInt8) : UInt16 := (b0.toUInt16 <<< 8) ||| b1.toUInt16

def toBeBytes16 (w : UInt16) : List UInt8 := [(w >>> 8).toUInt8, w.toUInt8]

theorem fromBeBytes16_toNat (b0 b1 : UInt8) : (fromBeBytes16 b0 b1).toNat = b0.toNat * 2 ^ 8 + b1.toNat := by
  have h0 := b0.toNat_lt
  have h1 := b1.toNat_lt
  simp only [fromBeBytes16, UInt16.toNat_or, UInt16.toNat_shiftLeft, UInt8.toNat_toUInt16,
    UInt16.reduceToNat, Nat.reduceMod, Nat.shiftLeft_eq]
  rw [or_eq_add (a := _ % _) 8]
  all_goals omega

theorem fromBeBytes_shifts (w : UInt32) :
    fromBeBytes (w >>> 24).toUInt8 (w >>> 16).toUInt8 (w >>> 8).toUInt8 w.toUInt8 = w := by
  have h := w.toNat_lt
  apply UInt32.toNat_inj.mp
  simp only [fromBeBytes_toNat, UInt32.toNat_toUInt8, UInt32.toNat_shiftRight, UInt32.reduceToNat,
    Nat.reduceMod, Nat.shiftRight_eq_div_pow]
  omega

theorem toBeBytes_fromBeBytes (b0 b1 b2 b3 : UInt8) :
    toBeBytes (fromBeBytes b0 b1 b2 b3) = [b0, b1, b2, b3] := by
  have h0 := b0.toNat_lt
  have h1 := b1.toNat_lt
  have h2 := b2.toNat_lt
  have h3 := b3.toNat_lt
  simp only [toBeBytes, List.cons.injEq, and_true, ← UInt8.toNat_inj, UInt32.toNat_toUInt8,
    UInt32.toNat_shiftRight, UInt32.reduceToNat, Nat.reduceMod, Nat.shiftRight_eq_div_pow,
    fromBeBytes_toNat]
  omega

/-- The big-endian word at a word index, with zeros past the end. -/
def wordAt (b : List UInt8) (k : Nat) : UInt32 :=
  fromBeBytes (b.getD (4 * k) 0) (b.getD (4 * k + 1) 0) (b.getD (4 * k + 2) 0) (b.getD (4 * k + 3) 0)

def halfAt (b : List UInt8) (k : Nat) : Nat := (b.getD k 0).toNat * 2 ^ 8 + (b.getD (k + 1) 0).toNat

theorem fromBeBytes16_getD (b : List UInt8) (k : Nat) :
    (fromBeBytes16 (b.getD k 0) (b.getD (k + 1) 0)).toNat = halfAt b k :=
  fromBeBytes16_toNat _ _

theorem fromBeBytes16_eq_iff (b : List UInt8) (k : Nat) (w : UInt16) :
    fromBeBytes16 (b.getD k 0) (b.getD (k + 1) 0) = w ↔ halfAt b k = w.toNat := by
  rw [← UInt16.toNat_inj, fromBeBytes16_getD]

theorem halfAt_drop (b : List UInt8) (n k : Nat) : halfAt (b.drop n) k = halfAt b (n + k) := by
  simp only [halfAt, List.getD_eq_getElem?_getD, List.getElem?_drop, Nat.add_assoc]

theorem halfAt_take {b : List UInt8} {n k : Nat} (h : k + 2 ≤ n) : halfAt (b.take n) k = halfAt b k := by
  simp only [halfAt, List.getD_eq_getElem?_getD, List.getElem?_take_of_lt (show k < n by omega),
    List.getElem?_take_of_lt (show k + 1 < n by omega)]

theorem getD_append_left {b : List UInt8} (c : List UInt8) {k : Nat} (h : k < b.length) :
    (b ++ c).getD k 0 = b.getD k 0 :=
  List.getD_append b c 0 k h

theorem halfAt_append_left {b : List UInt8} (c : List UInt8) {k : Nat} (h : k + 2 ≤ b.length) :
    halfAt (b ++ c) k = halfAt b k := by
  rw [halfAt, getD_append_left c (by omega), getD_append_left c (by omega), halfAt]

theorem halfAt_append_right (b c : List UInt8) (k : Nat) : halfAt (b ++ c) (b.length + k) = halfAt c k := by
  rw [← halfAt_drop, List.drop_left]

def flat (ws : List UInt32) : List UInt8 := ws.flatMap toBeBytes

@[simp] theorem flat_nil : flat [] = [] := rfl

@[simp] theorem flat_cons (w : UInt32) (ws : List UInt32) : flat (w :: ws) = toBeBytes w ++ flat ws := rfl

theorem flat_append (vs ws : List UInt32) : flat (vs ++ ws) = flat vs ++ flat ws :=
  List.flatMap_append

@[simp] theorem flat_length (ws : List UInt32) : (flat ws).length = 4 * ws.length := by
  induction ws with
  | nil => rfl
  | cons w ws ih =>
      rw [flat_cons, List.length_append, ih, List.length_cons]
      simp only [toBeBytes, List.length_cons, List.length_nil]
      omega

theorem wordAt_cons_succ (b0 b1 b2 b3 : UInt8) (b : List UInt8) (k : Nat) :
    wordAt (b0 :: b1 :: b2 :: b3 :: b) (k + 1) = wordAt b k := by
  simp only [wordAt, Nat.mul_succ, List.getD_cons_succ]

theorem wordAt_append (b tail : List UInt8) (k : Nat) (h : 4 * k + 4 ≤ b.length) :
    wordAt (b ++ tail) k = wordAt b k := by
  simp only [wordAt]
  rw [List.getD_append _ _ _ _ (by omega), List.getD_append _ _ _ _ (by omega),
    List.getD_append _ _ _ _ (by omega), List.getD_append _ _ _ _ (by omega)]

theorem flat_wordAt (n : Nat) (b : List UInt8) (h : 4 * n ≤ b.length) :
    flat ((List.range n).map (wordAt b)) ++ b.drop (4 * n) = b := by
  induction n generalizing b with
  | zero => rfl
  | succ n ih =>
      match b, h with
      | b0 :: b1 :: b2 :: b3 :: b, h =>
          have hb : 4 * n ≤ b.length := by
            simp only [List.length_cons] at h
            omega
          have hw : wordAt (b0 :: b1 :: b2 :: b3 :: b) ∘ Nat.succ = wordAt b :=
            funext fun k => wordAt_cons_succ b0 b1 b2 b3 b k
          have h0 : wordAt (b0 :: b1 :: b2 :: b3 :: b) 0 = fromBeBytes b0 b1 b2 b3 := rfl
          rw [List.range_succ_eq_map, List.map_cons, List.map_map, hw, flat_cons, h0,
            toBeBytes_fromBeBytes, Nat.mul_succ, List.append_assoc]
          simp only [List.drop_succ_cons, List.cons_append, List.nil_append, ih b hb]

theorem toBeBytes_inj {v w : UInt32} : toBeBytes v = toBeBytes w ↔ v = w := by
  constructor
  · intro h
    rw [← fromBeBytes_shifts v, ← fromBeBytes_shifts w]
    simp only [toBeBytes, List.cons.injEq] at h
    rw [h.1, h.2.1, h.2.2.1, h.2.2.2.1]
  · rintro rfl
    rfl

theorem drop_eq_toBeBytes_append (b : List UInt8) {k : Nat} (h : 4 * (k + 1) ≤ b.length) :
    b.drop (4 * k) = toBeBytes (wordAt b k) ++ b.drop (4 * (k + 1)) := by
  have hk := flat_wordAt 1 (b.drop (4 * k)) (by rw [List.length_drop]; omega)
  have hw : wordAt (b.drop (4 * k)) 0 = wordAt b k := by
    simp only [wordAt, List.getD_eq_getElem?_getD, List.getElem?_drop, Nat.mul_zero, Nat.zero_add, Nat.add_zero]
  rw [List.drop_drop, ← Nat.mul_add] at hk
  simpa only [List.range_one, List.map_cons, List.map_nil, hw, flat_cons, flat_nil, List.append_nil] using hk.symm

/-- The bytes hold the given words from a word index on. -/
def WordsFrom (b : List UInt8) (k : Nat) : List UInt32 → Prop
  | [] => True
  | w :: ws => wordAt b k = w ∧ WordsFrom b (k + 1) ws

theorem drop_eq_flat_append {b tail : List UInt8} {k : Nat} {ws : List UInt32}
    (h : 4 * (k + ws.length) ≤ b.length) :
    b.drop (4 * k) = flat ws ++ tail ↔ WordsFrom b k ws ∧ b.drop (4 * (k + ws.length)) = tail := by
  induction ws generalizing k with
  | nil => simp [WordsFrom]
  | cons w ws ih =>
      rw [List.length_cons] at h ⊢
      have hshift : k + (ws.length + 1) = k + 1 + ws.length := by omega
      rw [drop_eq_toBeBytes_append b (by omega), flat_cons, List.append_assoc, WordsFrom, and_assoc, hshift,
        ← ih (by omega)]
      constructor
      · intro he
        obtain ⟨hw, ht⟩ := List.append_inj he rfl
        exact ⟨toBeBytes_inj.mp hw, ht⟩
      · rintro ⟨hw, ht⟩
        rw [hw, ht]

theorem drop_eq_flat {b : List UInt8} {k : Nat} {ws : List UInt32} (h : b.length = 4 * (k + ws.length)) :
    b.drop (4 * k) = flat ws ↔ WordsFrom b k ws := by
  have hend : b.drop (4 * (k + ws.length)) = [] := List.drop_eq_nil_of_le (by omega)
  rw [← List.append_nil (flat ws), drop_eq_flat_append (by omega), hend, and_iff_left rfl]

def joinWords (high low : UInt32) : UInt64 := (high.toUInt64 <<< 32) ||| low.toUInt64

def highWord (v : UInt64) : UInt32 := (v >>> 32).toUInt32

def lowWord (v : UInt64) : UInt32 := v.toUInt32

theorem joinWords_toNat (high low : UInt32) :
    (joinWords high low).toNat = high.toNat * 2 ^ 32 + low.toNat := by
  have hh := high.toNat_lt
  have hl := low.toNat_lt
  simp only [joinWords, UInt64.toNat_or, UInt64.toNat_shiftLeft, UInt32.toNat_toUInt64,
    UInt64.reduceToNat, Nat.reduceMod, Nat.shiftLeft_eq]
  rw [or_eq_add (a := _ % _) 32]
  all_goals omega

@[simp] theorem highWord_joinWords (high low : UInt32) : highWord (joinWords high low) = high := by
  have hl := low.toNat_lt
  apply UInt32.toNat_inj.mp
  simp only [highWord, UInt64.toNat_toUInt32, UInt64.toNat_shiftRight, UInt64.reduceToNat,
    Nat.reduceMod, Nat.shiftRight_eq_div_pow, joinWords_toNat]
  have hh := high.toNat_lt
  omega

@[simp] theorem lowWord_joinWords (high low : UInt32) : lowWord (joinWords high low) = low := by
  have hl := low.toNat_lt
  apply UInt32.toNat_inj.mp
  simp only [lowWord, UInt64.toNat_toUInt32, joinWords_toNat]
  omega

@[simp] theorem joinWords_high_low (v : UInt64) : joinWords (highWord v) (lowWord v) = v := by
  have hv := v.toNat_lt
  apply UInt64.toNat_inj.mp
  simp only [joinWords_toNat, highWord, lowWord, UInt64.toNat_toUInt32, UInt64.toNat_shiftRight,
    UInt64.reduceToNat, Nat.reduceMod, Nat.shiftRight_eq_div_pow]
  omega

def doubleAt (b : List UInt8) (k : Nat) : UInt64 := joinWords (wordAt b k) (wordAt b (k + 1))

theorem doubleAt_eq_iff {b : List UInt8} {k : Nat} {v : UInt64} :
    doubleAt b k = v ↔ wordAt b k = highWord v ∧ wordAt b (k + 1) = lowWord v := by
  constructor
  · rintro rfl
    exact ⟨(highWord_joinWords _ _).symm, (lowWord_joinWords _ _).symm⟩
  · rintro ⟨hh, hl⟩
    rw [doubleAt, hh, hl, joinWords_high_low]

@[simp] theorem highWord_doubleAt (b : List UInt8) (k : Nat) : highWord (doubleAt b k) = wordAt b k :=
  highWord_joinWords _ _

@[simp] theorem lowWord_doubleAt (b : List UInt8) (k : Nat) : lowWord (doubleAt b k) = wordAt b (k + 1) :=
  lowWord_joinWords _ _

def joinHalves (high low : UInt16) : UInt32 := (high.toUInt32 <<< 16) ||| low.toUInt32

theorem joinHalves_toNat (high low : UInt16) :
    (joinHalves high low).toNat = high.toNat * 2 ^ 16 + low.toNat := by
  have hh := high.toNat_lt
  have hl := low.toNat_lt
  simp only [joinHalves, UInt32.toNat_or, UInt32.toNat_shiftLeft, UInt16.toNat_toUInt32,
    UInt32.reduceToNat, Nat.reduceMod, Nat.shiftLeft_eq]
  rw [or_eq_add (a := _ % _) 16]
  all_goals omega

theorem highHalf_toNat (w : UInt32) : (w >>> 16).toUInt16.toNat = w.toNat / 2 ^ 16 := by
  have hw := w.toNat_lt
  simp only [UInt32.toNat_toUInt16, UInt32.toNat_shiftRight, UInt32.reduceToNat, Nat.reduceMod,
    Nat.shiftRight_eq_div_pow]
  omega

@[simp] theorem highHalf_joinHalves (high low : UInt16) : (joinHalves high low >>> 16).toUInt16 = high := by
  have hl := low.toNat_lt
  apply UInt16.toNat_inj.mp
  rw [highHalf_toNat, joinHalves_toNat]
  omega

@[simp] theorem lowHalf_joinHalves (high low : UInt16) : (joinHalves high low).toUInt16 = low := by
  have hl := low.toNat_lt
  apply UInt16.toNat_inj.mp
  rw [UInt32.toNat_toUInt16, joinHalves_toNat]
  omega

@[simp] theorem joinHalves_high_low (w : UInt32) : joinHalves (w >>> 16).toUInt16 w.toUInt16 = w := by
  apply UInt32.toNat_inj.mp
  rw [joinHalves_toNat, highHalf_toNat, UInt32.toNat_toUInt16]
  omega

/-- Bytes read as one big-endian number. -/
def bigEndian (bytes : List UInt8) : Nat := bytes.foldl (fun n b => n * 256 + b.toNat) 0

theorem bigEndian_concat (bytes : List UInt8) (b : UInt8) :
    bigEndian (bytes ++ [b]) = bigEndian bytes * 256 + b.toNat := by
  rw [bigEndian, List.foldl_append]
  rfl

theorem bigEndian_append (xs ys : List UInt8) :
    bigEndian (xs ++ ys) = bigEndian xs * 256 ^ ys.length + bigEndian ys := by
  induction ys using List.reverseRecOn with
  | nil => simp [bigEndian]
  | append_singleton ys b ih =>
      rw [← List.append_assoc, bigEndian_concat, bigEndian_concat, ih, List.length_append, List.length_singleton,
        Nat.pow_succ]
      ring

theorem bigEndian_lt (bytes : List UInt8) : bigEndian bytes < 256 ^ bytes.length := by
  induction bytes using List.reverseRecOn with
  | nil => exact Nat.one_pos
  | append_singleton bytes b ih =>
      have hb := b.toNat_lt
      rw [bigEndian_concat, List.length_append, List.length_singleton, Nat.pow_succ]
      omega

theorem bigEndian_eq_zero_iff (bytes : List UInt8) : bigEndian bytes = 0 ↔ ∀ b ∈ bytes, b = 0 := by
  induction bytes using List.reverseRecOn with
  | nil => simp [bigEndian]
  | append_singleton bytes b ih =>
      rw [bigEndian_concat, Nat.add_eq_zero_iff, Nat.mul_eq_zero, or_iff_left (by decide), ih]
      have hb : b.toNat = 0 ↔ b = 0 := by rw [← UInt8.toNat_inj, UInt8.toNat_zero]
      simp only [List.mem_append, List.mem_singleton, or_imp, forall_and, forall_eq, hb]

/-- Trailing zero bits are the trailing zero bytes and the low bits of what
stands before them. -/
theorem pow_dvd_bigEndian_append (xs ys : List UInt8) (k : Nat) :
    2 ^ (8 * ys.length + k) ∣ bigEndian (xs ++ ys) ↔ (∀ b ∈ ys, b = 0) ∧ 2 ^ k ∣ bigEndian xs := by
  have hpow : 2 ^ (8 * ys.length + k) = 256 ^ ys.length * 2 ^ k := by
    rw [Nat.pow_add, Nat.pow_mul]
  have hpos : 0 < 256 ^ ys.length := Nat.pow_pos (by decide)
  rw [← bigEndian_eq_zero_iff, bigEndian_append, hpow]
  constructor
  · intro h
    have hzero : bigEndian ys = 0 := by
      have hdvd : 256 ^ ys.length ∣ bigEndian ys :=
        (Nat.dvd_add_right (Dvd.intro_left _ rfl)).mp ((Dvd.intro _ rfl).trans h)
      exact Nat.eq_zero_of_dvd_of_lt hdvd (bigEndian_lt ys)
    rw [hzero, Nat.add_zero, Nat.mul_comm (bigEndian xs)] at h
    exact ⟨hzero, Nat.dvd_of_mul_dvd_mul_left hpos h⟩
  · rintro ⟨hzero, h⟩
    rw [hzero, Nat.add_zero, Nat.mul_comm (bigEndian xs)]
    exact Nat.mul_dvd_mul_left _ h

theorem pow_dvd_bigEndian_concat (bytes : List UInt8) (b : UInt8) {k : Nat} (hk : k ≤ 8) :
    2 ^ k ∣ bigEndian (bytes ++ [b]) ↔ 2 ^ k ∣ b.toNat := by
  have hdvd : 2 ^ k ∣ bigEndian bytes * 256 := (Nat.pow_dvd_pow 2 hk).trans (Dvd.intro_left _ rfl)
  rw [bigEndian_concat]
  exact Nat.dvd_add_right hdvd

end Difi.Machine
