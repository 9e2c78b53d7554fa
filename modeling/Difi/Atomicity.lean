import Difi.SampleDiagnosis

namespace Difi.Atomicity

open Machine Outcome Layout Storing Sampling BodyRefusals SampleDiagnosis Difi.Writer

/-- A call of a writer stores everything or nothing. It returns, and what it
returns is decided by the length that is computed from its arguments alone. -/
structure AllOrNothing (write : Write Nat) (encodedLen : WriteResult Nat) (out : List UInt8) : Prop where
  safe : (write out).1 ≠ .panic
  ok_iff : ∀ n, (write out).1 = .ok n ↔ encodedLen = .ok n ∧ n ≤ out.length
  err : ∀ e, encodedLen = .err e → (write out).1 = .err e
  short : ∀ n, encodedLen = .ok n → out.length < n → (write out).1 = .err (.outputTooSmall n out.length)
  unchanged : ∀ e, (write out).1 = .err e → (write out).2 = out

theorem allOrNothing_of_commits {write : Write Nat} {encodedLen : WriteResult Nat} {bytes : List UInt8}
    (h : Mut.Commits write encodedLen .outputTooSmall bytes) (hsafe : Safe encodedLen) (out : List UInt8) :
    AllOrNothing write encodedLen out where
  safe := h.safe hsafe out
  ok_iff := h.ok_iff out
  err e he := by rw [h.err_eq out he]
  short n hn hshort := by rw [h.short_eq hn hshort]
  unchanged e he := h.unchanged he

theorem writers_all_or_nothing :
    (∀ p options out,
      AllOrNothing (writePacketWithOptions p options) (encodedLenWithOptions p options) out) ∧
    (∀ spec samples out, AllOrNothing (writeIqDataI8 spec samples) (encodedIqDataI8Len spec samples) out) ∧
    (∀ spec samples out, AllOrNothing (writeIqDataI16 spec samples) (encodedIqDataI16Len spec samples) out) := by
  refine ⟨fun p options out => ?_, fun spec samples out => ?_, fun spec samples out => ?_⟩
  · exact allOrNothing_of_commits (writePacket_commits p options) (encodedLen_refused p options 0).safe out
  · exact allOrNothing_of_commits (writeIqDataI8_commits spec samples)
      (wordsLen_within (iqI8Words_refused spec samples 0)).safe out
  · exact allOrNothing_of_commits (writeIqDataI16_commits spec samples)
      (wordsLen_within (iqI16Words_refused spec samples 0)).safe out

/-- A successful call of a writer touches the bytes before the size and no
others, and what it leaves there does not depend on the buffer. -/
def TouchesExactly (write : Write Nat) (size : Nat) : Prop :=
  ∀ out out' n, write out = (.ok n, out') →
    n = size ∧ out'.length = out.length ∧ out'.drop n = out.drop n ∧
      ∀ other, n ≤ other.length → ∃ other', write other = (.ok n, other') ∧ other'.take n = out'.take n

theorem touchesExactly_of_commits {write : Write Nat} {encodedLen : WriteResult Nat} {bytes : List UInt8}
    (h : Mut.Commits write encodedLen .outputTooSmall bytes) : TouchesExactly write bytes.length := by
  intro out out' n hwrite
  obtain ⟨hn, htake, hdrop, hlength⟩ := h.stored hwrite
  refine ⟨hn, hlength, hdrop, fun other hother => ?_⟩
  have hlen := (h.eq_ok_iff.mp hwrite).1
  refine ⟨bytes ++ other.drop n, h.eq_ok_iff.mpr ⟨hlen, hother, rfl⟩, ?_⟩
  rw [htake, List.take_left' hn.symm]

theorem writers_touch_exactly :
    (∀ p options,
      TouchesExactly (writePacketWithOptions p options) (4 * p.prologue.header.packetSizeWords.toNat)) ∧
    (∀ spec samples, TouchesExactly (writeIqDataI8 spec samples) (28 + 2 * samples.length)) ∧
    (∀ spec samples, TouchesExactly (writeIqDataI16 spec samples) (28 + 4 * samples.length)) := by
  refine ⟨fun p options => ?_, fun spec samples => ?_, fun spec samples => ?_⟩
  · intro out out' n hwrite
    have hlen := ((writePacket_commits p options).eq_ok_iff.mp hwrite).1
    obtain ⟨⟨hwell, -⟩, -⟩ := encodedLen_eq_ok.mp hlen
    rw [← Acceptance.encode_length hwell.body]
    exact touchesExactly_of_commits (writePacket_commits p options) out out' n hwrite
  · rw [← samplesI8Bytes_length, ← iqPacket_length spec]
    exact touchesExactly_of_commits (writeIqDataI8_commits spec samples)
  · rw [← samplesI16Bytes_length, ← iqPacket_length spec]
    exact touchesExactly_of_commits (writeIqDataI16_commits spec samples)

end Difi.Atomicity
