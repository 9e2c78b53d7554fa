import Mathlib.Data.List.Basic
import Mathlib.Data.List.Range

namespace Difi.Machine

variable {α β : Type}

/-- The full chunks of a list, each at its offset. -/
def chunks (size : Nat) (xs : List α) : List (List α) :=
  (List.range (xs.length / size)).map fun i => (xs.drop (size * i)).take size

@[simp] theorem length_chunks (size : Nat) (xs : List α) : (chunks size xs).length = xs.length / size := by
  rw [chunks, List.length_map, List.length_range]

theorem length_of_mem_chunks {size : Nat} {xs chunk : List α} (h : chunk ∈ chunks size xs) :
    chunk.length = size := by
  obtain ⟨i, hi, rfl⟩ := List.mem_map.mp h
  have hlt := List.mem_range.mp hi
  have hle : size * (i + 1) ≤ xs.length :=
    (Nat.mul_le_mul_left size hlt).trans (Nat.mul_div_le xs.length size)
  rw [Nat.mul_add, Nat.mul_one] at hle
  rw [List.length_take, List.length_drop]
  omega

theorem chunks_short {size : Nat} {xs : List α} (h : xs.length < size) : chunks size xs = [] := by
  rw [chunks, Nat.div_eq_of_lt h]
  rfl

theorem chunks_append {size : Nat} (hsize : 0 < size) {chunk : List α} (rest : List α)
    (h : chunk.length = size) : chunks size (chunk ++ rest) = chunk :: chunks size rest := by
  have hcount : (chunk ++ rest).length / size = rest.length / size + 1 := by
    rw [List.length_append, h, Nat.add_div_left _ hsize]
  rw [chunks, hcount, List.range_succ_eq_map, List.map_cons, List.map_map]
  refine congrArg₂ _ ?_ (List.map_congr_left fun i _ => ?_)
  · rw [Nat.mul_zero, List.drop_zero, List.take_left' h]
  · have hoffset : size * (i + 1) = chunk.length + size * i := by
      rw [h, Nat.mul_add, Nat.mul_one, Nat.add_comm]
    rw [Function.comp_apply, Nat.succ_eq_add_one, hoffset, ← List.drop_drop, List.drop_left]

theorem chunks_cons {size : Nat} (hsize : 0 < size) {xs : List α} (h : size ≤ xs.length) :
    chunks size xs = xs.take size :: chunks size (xs.drop size) := by
  conv_lhs => rw [← List.take_append_drop size xs]
  exact chunks_append hsize _ (List.length_take_of_le h)

theorem chunks_drop {size : Nat} (hsize : 0 < size) (xs : List α) {k : Nat} (hk : k ≤ xs.length / size) :
    (chunks size xs).drop k = chunks size (xs.drop (size * k)) := by
  induction k generalizing xs with
  | zero => rfl
  | succ k ih =>
      have hlong : size ≤ xs.length := (Nat.div_pos_iff.mp (Nat.lt_of_lt_of_le (Nat.succ_pos k) hk)).2
      have hrest : k ≤ (xs.drop size).length / size := by
        have hcount := Nat.sub_mul_div xs.length size 1
        rw [Nat.mul_one] at hcount
        rw [List.length_drop, hcount]
        omega
      rw [chunks_cons hsize hlong, List.drop_succ_cons, ih _ hrest, List.drop_drop, Nat.mul_succ,
        Nat.add_comm]

theorem flatten_chunks {size : Nat} (hsize : 0 < size) {xs : List α} (h : size ∣ xs.length) :
    (chunks size xs).flatten = xs := by
  induction hn : xs.length using Nat.strongRecOn generalizing xs with
  | ind n ih =>
      by_cases hempty : xs = []
      · subst hempty
        rw [chunks_short hsize]
        rfl
      · have hlong : size ≤ xs.length := Nat.le_of_dvd (List.length_pos_iff.mpr hempty) h
        have hrest : size ∣ (xs.drop size).length := by
          rw [List.length_drop]
          exact Nat.dvd_sub h (Nat.dvd_refl size)
        have hlt : (xs.drop size).length < n := by
          rw [List.length_drop]
          omega
        rw [chunks_cons hsize hlong, List.flatten_cons, ih _ hlt hrest rfl, List.take_append_drop]

/-- Values that are stored in chunks of one size, each by itself. -/
structure ChunkCodec (α β : Type) (size : Nat) where
  encode : β → List α
  decode : List α → β
  length_encode : ∀ x, (encode x).length = size
  decode_encode : ∀ x, decode (encode x) = x
  encode_decode : ∀ chunk, chunk.length = size → encode (decode chunk) = chunk

namespace ChunkCodec

variable {size : Nat} (codec : ChunkCodec α β size)

def encodeAll (xs : List β) : List α := xs.flatMap codec.encode

def decodeAll (v : List α) : List β := (chunks size v).map codec.decode

theorem length_encodeAll (xs : List β) : (codec.encodeAll xs).length = size * xs.length := by
  induction xs with
  | nil => rfl
  | cons x xs ih =>
      rw [encodeAll, List.flatMap_cons, List.length_append, codec.length_encode, ← encodeAll, ih,
        List.length_cons, Nat.mul_succ, Nat.add_comm]

theorem length_decodeAll (v : List α) : (codec.decodeAll v).length = v.length / size := by
  rw [decodeAll, List.length_map, length_chunks]

theorem drop_decodeAll (hsize : 0 < size) (v : List α) {k : Nat} (hk : k ≤ v.length / size) :
    (codec.decodeAll v).drop k = codec.decodeAll (v.drop (size * k)) := by
  rw [decodeAll, decodeAll, ← List.map_drop, chunks_drop hsize v hk]

theorem decodeAll_encodeAll (hsize : 0 < size) (xs : List β) : codec.decodeAll (codec.encodeAll xs) = xs := by
  induction xs with
  | nil =>
      rw [decodeAll, chunks_short hsize]
      rfl
  | cons x xs ih =>
      rw [encodeAll, List.flatMap_cons, decodeAll, chunks_append hsize _ (codec.length_encode x), List.map_cons,
        codec.decode_encode, ← encodeAll, ← decodeAll, ih]

theorem encodeAll_decodeAll (hsize : 0 < size) {v : List α} (h : size ∣ v.length) :
    codec.encodeAll (codec.decodeAll v) = v := by
  have hencode : (chunks size v).map (fun chunk => codec.encode (codec.decode chunk)) = chunks size v :=
    (List.map_congr_left fun chunk hchunk => codec.encode_decode chunk (length_of_mem_chunks hchunk)).trans
      (List.map_id' _)
  rw [encodeAll, decodeAll, List.flatMap_map, List.flatMap_def, hencode, flatten_chunks hsize h]

end ChunkCodec

end Difi.Machine
