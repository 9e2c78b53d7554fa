import Difi.Sampling
import Difi.WriterDiagnosis

namespace Difi.SampleDiagnosis

open Machine Outcome Checks Fields Bodies Layout Acceptance Preparation Sampling Grammar Faults Refusals

/-- What an error of a writer of samples says about the description that it was
given, about the samples and their width in bytes, and about the room that there
was for them. -/
def SpecRefused (spec : SignalDataWriteSpec) (width count room : Nat) : WriteError → Prop
  | .outputTooSmall needed actual => needed = 28 + width * count ∧ actual = room ∧ actual < needed
  | .packetTooLarge size => 2 ^ 16 ≤ 7 + width * count / 4 ∧
      size = if width * count < usizeLimit then 7 + width * count / 4 else usizeLimit - 1
  | .oddComplexI8SampleCount samples => width = 2 ∧ samples = count ∧ samples % 2 ≠ 0
  | .fieldOutOfRange field most actual => field = "sequence" ∧ most = 0x0F ∧
      actual.toNat = spec.sequence.toNat ∧ most < actual
  | .profile e => PrologueFault {} (iqHeader spec 0) (iqPrologue spec 0).classId e
  | _ => False

variable {spec : SignalDataWriteSpec} {width count room : Nat}

theorem signalDataSpecWords_refused (hmod : width * count % 4 = 0) (hlimit : width * count < usizeLimit) :
    Within (SpecRefused spec width count room) (Writer.signalDataSpecWords spec (width * count)) := by
  have hadd : (addUsize prologueWords.toNat (width * count / wordBytes) : WriteResult Nat) =
      .ok (7 + width * count / 4) := by
    have h4 : wordBytes = 4 := rfl
    have h7 : prologueWords.toNat = 7 := rfl
    exact addUsize_ok (by rw [h4, h7]; simp only [usizeLimit] at *; omega)
  unfold Writer.signalDataSpecWords
  refine within_ite.mpr ⟨fun hodd => absurd hmod hodd, fun _ => ?_⟩
  refine within_ite.mpr ⟨fun hlarge => (within_err _).mpr ?_, fun hsequence => ?_⟩
  · refine ⟨rfl, rfl, UInt8.toNat_toUInt64 _, UInt64.lt_iff_toNat_lt.mpr ?_⟩
    rw [UInt8.toNat_toUInt64]
    exact UInt8.lt_iff_toNat_lt.mp hlarge
  rw [hadd, ok_bind]
  refine within_bind (within_okOr.mpr fun hnone => ⟨Nat.le_of_not_lt fun hfits => ?_, (if_pos hlimit).symm⟩)
    fun words => ?_
  · rw [tryIntoU16, if_pos (show 7 + width * count / 4 < 65536 from hfits)] at hnone
    cases hnone
  rw [headerWord_iq words hsequence, ok_bind]
  have hform := iqPrologue_form words hsequence
  have hfaults : Within (PrologueFault {} (iqHeader spec words) (iqPrologue spec words).classId)
      (profileChecks ⟨{}⟩ (iqHeader spec words) (iqPrologue spec words).classId) :=
    profileChecks_faults hform.header rfl
  have hchecks : Within (SpecRefused spec width count room) (profileError
      (profileChecks ⟨{}⟩ (iqHeader spec words) (iqPrologue spec words).classId)) :=
    within_profileError.mpr (hfaults.mono fun _ he => he)
  have hclass : Writer.validateClassId (iqPrologue spec words).classId = .ok () :=
    validateClassId_eq_ok.mpr hform.classId
  have hall := within_bind hchecks fun _ => within_bind (within_of_eq_ok hclass) fun _ => within_ok words
  rw [profileChecks_lift] at hall
  simp only [bind_assoc', ok_bind] at hall
  exact hall

theorem spec_faultless {words : UInt16} (hmod : width = 2 → count % 2 = 0) (hlimit : width * count < usizeLimit)
    (hwords : Writer.signalDataSpecWords spec (width * count) = .ok words) (hroom : 28 + width * count ≤ room)
    (e : WriteError) : ¬SpecRefused spec width count room e := by
  obtain ⟨-, hsequence, hsize, hchecks⟩ := (signalDataSpecWords_eq_ok hlimit).mp hwords
  have hlt := words.toNat_lt
  intro hfault
  cases e with
  | outputTooSmall needed actual =>
      obtain ⟨rfl, rfl, hless⟩ := hfault
      omega
  | packetTooLarge size =>
      obtain ⟨hlarge, -⟩ := hfault
      omega
  | oddComplexI8SampleCount samples =>
      obtain ⟨hwidth, rfl, hodd⟩ := hfault
      exact hodd (hmod hwidth)
  | fieldOutOfRange field most actual =>
      obtain ⟨-, rfl, hactual, hless⟩ := hfault
      rw [UInt64.lt_iff_toNat_lt, hactual] at hless
      exact hsequence (UInt8.lt_iff_toNat_lt.mpr hless)
  | profile e =>
      exact WriterDiagnosis.prologue_faultless (iqPrologue_form words hsequence).header rfl hchecks e hfault
  | _ => exact hfault

theorem wordsLen_within {F : WriteError → Prop} {words : WriteResult UInt16} (h : Within F words) :
    Within F (words >>= fun words => (mulUsize words.toNat wordBytes : WriteResult Nat)) :=
  within_bind h fun n => within_of_eq_ok (mulUsize_words n)

theorem errors_of_commits {m : Writer.Write Nat} {words : WriteResult UInt16} {payload : List UInt8}
    (hcommits : Mut.Commits m (words >>= fun words => mulUsize words.toNat wordBytes) .outputTooSmall
      (encode (iqPacket spec payload))) (hpayload : payload.length = width * count)
    (hrefused : ∀ room, Within (SpecRefused spec width count room) words)
    (hok : ∀ n, words = .ok n → (width = 2 → count % 2 = 0) ∧ width * count < usizeLimit ∧
      Writer.signalDataSpecWords spec (width * count) = .ok n) (out : List UInt8) :
    (∀ e out', m out = (.err e, out') → SpecRefused spec width count out.length e) ∧
      ((∃ n out', m out = (.ok n, out')) ↔ ∀ e, ¬SpecRefused spec width count out.length e) := by
  have hbytes : (encode (iqPacket spec payload)).length = 28 + width * count := by
    rw [iqPacket_length, hpayload]
  have hwrite : Within (SpecRefused spec width count out.length) (m out).1 :=
    hcommits.within (wordsLen_within (hrefused out.length)) fun n hn hshort =>
      ⟨(hcommits.1 n hn).trans hbytes, rfl, hshort⟩
  refine ⟨fun e out' he => hwrite.err e (congrArg Prod.fst he), ?_, fun hnone => ?_⟩
  · rintro ⟨n, out', hstored⟩ e
    obtain ⟨hn, hroom, -⟩ := hcommits.eq_ok_iff.mp hstored
    rw [hcommits.1 n hn, hbytes] at hroom
    obtain ⟨size, hsize, -⟩ := bind_eq_ok.mp hn
    obtain ⟨hmod, hlimit, hspec⟩ := hok size hsize
    exact spec_faultless hmod hlimit hspec hroom e
  · cases hx : (m out).1 with
    | ok n => exact ⟨n, _, Prod.ext hx rfl⟩
    | err e => exact absurd (hwrite.err e hx) (hnone e)
    | panic => exact absurd hx hwrite.safe

theorem checkedBytes_refused (hmod : width * count % 4 = 0) : Within (SpecRefused spec width count room)
    ((okOr (checkedMulUsize count width) (.packetTooLarge (usizeLimit - 1)) : WriteResult Nat) >>=
      Writer.signalDataSpecWords spec) := by
  unfold checkedMulUsize
  rw [Nat.mul_comm count width]
  by_cases hlimit : width * count < usizeLimit
  · rw [if_pos hlimit]
    exact signalDataSpecWords_refused hmod hlimit
  · rw [if_neg hlimit]
    refine (within_err _).mpr ⟨?_, (if_neg hlimit).symm⟩
    simp only [usizeLimit] at hlimit
    omega

theorem iqI8Words_refused (spec : SignalDataWriteSpec) (samples : List ComplexI8) (room : Nat) :
    Within (SpecRefused spec 2 samples.length room) (Writer.iqI8Words spec samples) :=
  within_ite.mpr ⟨fun hodd => (within_err _).mpr ⟨rfl, rfl, hodd⟩, fun _ => checkedBytes_refused (by omega)⟩

theorem iqI16Words_refused (spec : SignalDataWriteSpec) (samples : List ComplexI16) (room : Nat) :
    Within (SpecRefused spec 4 samples.length room) (Writer.iqI16Words spec samples) :=
  checkedBytes_refused (by omega)

/-- Both writers of samples turn down what has a fault, or what there is no room
for, and nothing else. The error that they give tells of one of the faults. -/
theorem sample_errors_are_faults (spec : SignalDataWriteSpec) (out : List UInt8) :
    (∀ samples : List ComplexI8,
      (∀ e out', Writer.writeIqDataI8 spec samples out = (.err e, out') →
        SpecRefused spec 2 samples.length out.length e) ∧
      ((∃ n out', Writer.writeIqDataI8 spec samples out = (.ok n, out')) ↔
        ∀ e, ¬SpecRefused spec 2 samples.length out.length e)) ∧
    ∀ samples : List ComplexI16,
      (∀ e out', Writer.writeIqDataI16 spec samples out = (.err e, out') →
        SpecRefused spec 4 samples.length out.length e) ∧
      ((∃ n out', Writer.writeIqDataI16 spec samples out = (.ok n, out')) ↔
        ∀ e, ¬SpecRefused spec 4 samples.length out.length e) := by
  refine ⟨fun samples => errors_of_commits (writeIqDataI8_commits spec samples) (samplesI8Bytes_length samples)
    (iqI8Words_refused spec samples) (fun n hn => ?_) out,
    fun samples => errors_of_commits (writeIqDataI16_commits spec samples) (samplesI16Bytes_length samples)
    (iqI16Words_refused spec samples) (fun n hn => ?_) out⟩
  · obtain ⟨heven, hlimit, hn⟩ := iqI8Words_eq_ok.mp hn
    exact ⟨fun _ => heven, hlimit, hn⟩
  · obtain ⟨hlimit, hn⟩ := iqI16Words_eq_ok.mp hn
    exact ⟨fun hwidth => absurd hwidth (by decide), hlimit, hn⟩

end Difi.SampleDiagnosis
