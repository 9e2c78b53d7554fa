import Difi.BodyFaults
import Difi.Machine.Framing

namespace Difi.Segmentation

open Machine Layout Acceptance Difi.Parser

variable {options : ParseOptions}

def step (options : ParseOptions) (b : List UInt8) : Result (Packet × List UInt8) :=
  parsePacketPrefixWithOptions b options

def cutError (f t : List UInt8) : ParseError :=
  if t.length < 28 then .inputTooShort 28 t.length else .packetTruncated f.length t.length

theorem exact_eq_ok {b : List UInt8} {p : Packet} :
    parsePacketExactWithOptions b options = .ok p ↔ step options b = .ok (p, []) := by
  rw [parsePacketExact_eq_ok, step, parsePacketPrefix_eq_ok, List.append_nil]

theorem step_split {b rest : List UInt8} {p : Packet} (h : step options b = .ok (p, rest)) :
    b = encode p ++ rest ∧ 28 ≤ (encode p).length ∧ step options (encode p) = .ok (p, []) := by
  obtain ⟨hverdict, hb⟩ := parsePacketPrefix_eq_ok.mp h
  refine ⟨hb, ?_, ?_⟩
  · rw [encode_length hverdict.1.body]
    exact prologueBytes_le hverdict.1.body
  · exact parsePacketPrefix_eq_ok.mpr ⟨hverdict, (List.append_nil _).symm⟩

theorem step_extend {s : List UInt8} {p : Packet} (rest : List UInt8) (h : step options s = .ok (p, [])) :
    step options (s ++ rest) = .ok (p, rest) := by
  obtain ⟨hverdict, hs⟩ := parsePacketPrefix_eq_ok.mp h
  rw [List.append_nil] at hs
  subst hs
  exact parsePacketPrefix_eq_ok.mpr ⟨hverdict, rfl⟩

/-- The declared size is in the first word, so a packet that is cut after its
prologue is known to be cut. -/
theorem step_short {s t : List UInt8} {p : Packet} (h : step options s = .ok (p, [])) (hcut : t <+: s)
    (hne : t ≠ s) : step options t = .err (cutError s t) := by
  obtain ⟨⟨hwell, -⟩, hs⟩ := parsePacketPrefix_eq_ok.mp h
  rw [List.append_nil] at hs
  have hlen := encode_length hwell.body
  have hlt : t.length < s.length := by
    have hle := hcut.length_le
    have hneq : t.length ≠ s.length := fun heq => hne (hcut.eq_of_length heq)
    omega
  obtain ⟨rest, happend⟩ := hcut
  rw [step, cutError]
  by_cases hshort : t.length < 28
  · rw [if_pos hshort]
    exact if_pos hshort
  · have hlong : prologueBytes ≤ t.length := Nat.le_of_not_lt hshort
    have hsize : declaredSize t = p.prologue.header.packetSizeWords := by
      rw [← declaredSize_append rest hlong, happend, hs, declaredSize_encode hwell]
    have hwords : ¬declaredSize t < prologueWords := by
      rw [hsize]
      exact Bodies.prologueWords_le.mpr
        (Nat.le_of_mul_le_mul_left (c := 4) (prologueBytes_le hwell.body) (by decide))
    rw [← hs] at hlen
    rw [if_neg hshort, parsePacketPrefix_eq options hlong, if_neg hwords, hsize, ← hlen, if_pos hlt]

theorem packets_framing (options : ParseOptions) : Framing (step options) 28 cutError where
  least_pos := by decide
  safe _ := BodyFaults.parsePacketPrefix_faults.safe
  split b p rest h := ⟨encode p, step_split h⟩
  extend s p rest h := step_extend rest h
  short s p t h hcut hne _ := step_short h hcut hne

/-- Packets put back to back are taken apart again, and in only one way. -/
theorem packets_segmented (options : ParseOptions) :
    (∀ b, (∃ frames r stop, Cut (step options) b frames r stop) ∧
      ∀ frames r stop, Cut (step options) b frames r stop →
        (∀ frames' r' stop', Cut (step options) b frames' r' stop' → frames' = frames ∧ r' = r ∧ stop' = stop) ∧
        ((stop = none ∧ r = []) ∨
          ∃ e, stop = some e ∧ r ≠ [] ∧ parsePacketPrefixWithOptions r options = .err e) ∧
        frames.length ≤ b.length / 28 ∧ joined frames ++ r = b ∧
        ∀ f ∈ frames, parsePacketExactWithOptions f.1 options = .ok f.2) ∧
    (∀ frames : List (List UInt8 × Packet), (∀ f ∈ frames, parsePacketExactWithOptions f.1 options = .ok f.2) →
      ∀ f p t, parsePacketExactWithOptions f options = .ok p → t <+: f → t ≠ f →
        Cut (step options) (joined frames ++ t) frames t (if t = [] then none else some
          (if t.length < 28 then .inputTooShort 28 t.length else .packetTruncated f.length t.length))) ∧
    (∀ f g p q, parsePacketExactWithOptions f options = .ok p → parsePacketExactWithOptions g options = .ok q →
      f <+: g → f = g) ∧
    (∀ f p rest, parsePacketExactWithOptions f options = .ok p →
      parsePacketPrefixWithOptions (f ++ rest) options = .ok (p, rest)) := by
  have hframing := packets_framing options
  refine ⟨fun b => ⟨hframing.run b, fun frames r stop hrun => ⟨?_, hrun.stops, ?_, ?_, ?_⟩⟩, ?_, ?_, ?_⟩
  · exact fun frames' r' stop' hrun' => hrun'.unique hrun
  · exact hframing.count hrun
  · exact hrun.concat
  · exact fun f hf => exact_eq_ok.mpr (hframing.accepted hrun f hf).1
  · intro frames hframes f p t hf hcut hne
    exact hframing.replay (fun g hg => exact_eq_ok.mp (hframes g hg))
      (hframing.tail (exact_eq_ok.mp hf) hcut hne)
  · intro f g p q hf hg hcut
    exact hframing.prefix_free (exact_eq_ok.mp hg) (exact_eq_ok.mp hf) hcut
  · exact fun f p rest hf => step_extend rest (exact_eq_ok.mp hf)

end Difi.Segmentation
