import Difi.Checks

namespace Difi.Fields

open Machine Checks

/-- The fields of a header stand side by side in its raw word. -/
structure HeaderWord (h : PacketHeader) : Prop where
  raw : h.raw.toNat = h.packetType.code.toNat * 2 ^ 28 + h.classIdIndicator.toNat * 2 ^ 27 +
    h.typeSpecificBits.toNat * 2 ^ 24 + h.tsi.code.toNat * 2 ^ 22 + h.tsf.code.toNat * 2 ^ 20 +
    h.sequence.toNat * 2 ^ 16 + h.packetSizeWords.toNat
  typeSpecificBits_lt : h.typeSpecificBits.toNat < 8
  sequence_lt : h.sequence.toNat < 16
  tsm : h.tsm = Writer.expectedTsm h.packetType h.typeSpecificBits

theorem packetType_code_lt (t : PacketType) : t.code.toNat < 16 := by cases t <;> decide

theorem tsi_code_lt (t : Tsi) : t.code.toNat < 4 := by cases t <;> decide

theorem tsf_code_lt (t : Tsf) : t.code.toNat < 4 := by cases t <;> decide

theorem headerWord_digits {h : PacketHeader} (hw : HeaderWord h) :
    h.packetType.code.toNat = h.raw.toNat / 2 ^ 28 ∧ h.classIdIndicator.toNat = h.raw.toNat / 2 ^ 27 % 2 ∧
      h.typeSpecificBits.toNat = h.raw.toNat / 2 ^ 24 % 8 ∧ h.tsi.code.toNat = h.raw.toNat / 2 ^ 22 % 4 ∧
      h.tsf.code.toNat = h.raw.toNat / 2 ^ 20 % 4 ∧ h.sequence.toNat = h.raw.toNat / 2 ^ 16 % 16 ∧
      h.packetSizeWords.toNat = h.raw.toNat % 2 ^ 16 := by
  have hraw := hw.raw
  have hbits := hw.typeSpecificBits_lt
  have hsequence := hw.sequence_lt
  have htype := packetType_code_lt h.packetType
  have htsi := tsi_code_lt h.tsi
  have htsf := tsf_code_lt h.tsf
  have hsize := h.packetSizeWords.toNat_lt
  have hindicator := h.classIdIndicator.toNat_lt
  omega

theorem headerWord_sum (n : Nat) : n = n / 2 ^ 28 * 2 ^ 28 + n / 2 ^ 27 % 2 * 2 ^ 27 + n / 2 ^ 24 % 8 * 2 ^ 24 +
    n / 2 ^ 22 % 4 * 2 ^ 22 + n / 2 ^ 20 % 4 * 2 ^ 20 + n / 2 ^ 16 % 16 * 2 ^ 16 + n % 2 ^ 16 := by
  omega

theorem parse_header_eq_ok {raw : UInt32} {h : PacketHeader} :
    PacketHeader.parse raw = .ok h ↔ h.raw = raw ∧ HeaderWord h := by
  have hraw := raw.toNat_lt
  have htype8 := shift_mask_toUInt8_toNat raw 28 0xF (by decide) (by decide) (by decide)
  have hind := shift_mask_toNat raw 27 0x1 (by decide) (by decide)
  have htsb8 := shift_mask_toUInt8_toNat raw 24 0x7 (by decide) (by decide) (by decide)
  have htsi8 := shift_mask_toUInt8_toNat raw 22 0x3 (by decide) (by decide) (by decide)
  have htsf8 := shift_mask_toUInt8_toNat raw 20 0x3 (by decide) (by decide) (by decide)
  have hseq8 := shift_mask_toUInt8_toNat raw 16 0xF (by decide) (by decide) (by decide)
  have hsize16 := mask_toUInt16_toNat raw 0xFFFF (by decide) (by decide)
  have hflag := beq_one_toNat (w := raw >>> 27 &&& 1) (by rw [hind]; exact Nat.mod_lt _ (by decide))
  simp only [UInt32.reduceToNat, Nat.reduceAdd] at htype8 hind htsb8 htsi8 htsf8 hseq8 hsize16
  rw [hind] at hflag
  rw [Nat.mod_eq_of_lt (show raw.toNat / 2 ^ 28 < 16 by omega)] at htype8
  simp only [PacketHeader.parse, Outcome.bind_eq_ok, PacketType.tryFrom_eq_ok, Tsi.tryFrom_eq_ok,
    Tsf.tryFrom_eq_ok, Outcome.ok.injEq]
  constructor
  · rintro ⟨t, ht, tsi, hi, tsf, hf, rfl⟩
    refine ⟨rfl, ?_, ?_, ?_, ?_⟩
    · simp only [htsb8, hseq8, hsize16, hflag, ← ht, ← hi, ← hf, htype8, htsi8, htsf8]
      exact headerWord_sum _
    · rw [htsb8]
      exact Nat.mod_lt _ (by decide)
    · rw [hseq8]
      exact Nat.mod_lt _ (by decide)
    · cases t <;> simp [Writer.expectedTsm]
  · rintro ⟨rfl, hw⟩
    obtain ⟨d1, d2, d3, d4, d5, d6, d7⟩ := headerWord_digits hw
    have ebits : (h.raw >>> 24 &&& 7).toUInt8 = h.typeSpecificBits := UInt8.toNat_inj.mp (htsb8.trans d3.symm)
    have eseq : (h.raw >>> 16 &&& 15).toUInt8 = h.sequence := UInt8.toNat_inj.mp (hseq8.trans d6.symm)
    have esize : (h.raw &&& 65535).toUInt16 = h.packetSizeWords := UInt16.toNat_inj.mp (hsize16.trans d7.symm)
    have eflag : (h.raw >>> 27 &&& 1 == 1) = h.classIdIndicator := beq_one_of_toNat (hind.trans d2.symm)
    refine ⟨h.packetType, UInt8.toNat_inj.mp (htype8.trans d1.symm), h.tsi,
      UInt8.toNat_inj.mp (htsi8.trans d4.symm), h.tsf, UInt8.toNat_inj.mp (htsf8.trans d5.symm), ?_⟩
    have htsm := hw.tsm
    rw [ebits, eseq, esize, eflag]
    cases h with
    | mk raw t ind bits tsm tsi tsf seq size =>
        simp only at htsm
        subst htsm
        cases t <;> simp [Writer.expectedTsm]

theorem headerWord_size {h : PacketHeader} (hw : HeaderWord h) :
    (h.raw &&& 0xFFFF).toUInt16 = h.packetSizeWords := by
  apply UInt16.toNat_inj.mp
  rw [mask_toUInt16_toNat h.raw 0xFFFF (by decide) (by decide)]
  exact (headerWord_digits hw).2.2.2.2.2.2.symm

theorem headerWord_eq_ok {t : PacketType} {bits : UInt8} {tsi : Tsi} {tsf : Tsf} {sequence : UInt8}
    {size : UInt16} {w : UInt32} : Writer.headerWord t bits tsi tsf sequence size = .ok w ↔
      bits.toNat < 8 ∧ sequence.toNat < 16 ∧
        w.toNat = t.code.toNat * 2 ^ 28 + 2 ^ 27 + bits.toNat * 2 ^ 24 + tsi.code.toNat * 2 ^ 22 +
          tsf.code.toNat * 2 ^ 20 + sequence.toNat * 2 ^ 16 + size.toNat := by
  simp only [Writer.headerWord, gt_iff_lt, UInt8.lt_iff_toNat_lt, UInt8.reduceToNat]
  split
  next h =>
      simp only [reduceCtorEq, false_iff]
      omega
  next hb =>
      split
      next h =>
          simp only [reduceCtorEq, false_iff]
          omega
      next hs =>
          have h1 := packetType_code_lt t
          have h3 := tsi_code_lt tsi
          have h4 := tsf_code_lt tsf
          have h6 := size.toNat_lt
          rw [Outcome.ok.injEq, ← UInt32.toNat_inj]
          simp only [UInt32.toNat_or, UInt32.toNat_shiftLeft, UInt8.toNat_toUInt32,
            UInt16.toNat_toUInt32, UInt32.reduceToNat, Nat.reduceMod, Nat.shiftLeft_eq]
          rw [or_eq_add (a := _ % _) 28, or_eq_add (a := _ + _) 27, or_eq_add (a := _ + _) 24,
            or_eq_add (a := _ + _) 22, or_eq_add (a := _ + _) 20, or_eq_add (a := _ + _) 16]
          all_goals omega

theorem HeaderWord.headerWord {h : PacketHeader} (hw : HeaderWord h) (hi : h.classIdIndicator = true) :
    Writer.headerWord h.packetType h.typeSpecificBits h.tsi h.tsf h.sequence h.packetSizeWords =
      .ok h.raw := by
  rw [headerWord_eq_ok]
  refine ⟨hw.typeSpecificBits_lt, hw.sequence_lt, ?_⟩
  rw [hw.raw, hi]
  rfl

structure ClassIdWord (c : ClassId) : Prop where
  padBitCount_lt : c.padBitCount.toNat < 32
  oui : c.oui = difiCid

def classIdWord0 (c : ClassId) : UInt32 := (c.padBitCount.toUInt32 <<< 27) ||| c.oui

def classIdWord1 (c : ClassId) : UInt32 := joinHalves c.informationClass.raw c.packetClass.raw

theorem classIdWord0_toNat {c : ClassId} (h : ClassIdWord c) :
    (classIdWord0 c).toNat = c.padBitCount.toNat * 2 ^ 27 + 0x6A621E := by
  have hpad := h.padBitCount_lt
  simp only [classIdWord0, h.oui, difiCid, UInt32.toNat_or, UInt32.toNat_shiftLeft, UInt8.toNat_toUInt32,
    UInt32.reduceToNat, Nat.reduceMod, Nat.shiftLeft_eq]
  rw [or_eq_add 27]
  all_goals omega

theorem parse_classId_eq_ok {w0 w1 : UInt32} {c : ClassId} :
    ClassId.parse w0 w1 = .ok c ↔ ClassIdWord c ∧ w0 = classIdWord0 c ∧ w1 = classIdWord1 c := by
  have hw0 := w0.toNat_lt
  have hpad := shift_mask_toUInt8_toNat w0 27 0x1F (by decide) (by decide) (by decide)
  have hres := shift_mask_toNat w0 24 0x7 (by decide) (by decide)
  have houi := mask_toNat w0 0x00FFFFFF (by decide)
  simp only [UInt32.reduceToNat, Nat.reduceAdd] at hpad hres houi
  have hlow : (w1 &&& 65535).toUInt16 = w1.toUInt16 := by
    apply UInt16.toNat_inj.mp
    rw [mask_toUInt16_toNat w1 0xFFFF (by decide) (by decide), UInt32.toNat_toUInt16]
    rfl
  simp only [ClassId.parse]
  constructor
  · intro h
    split at h
    next => cases h
    next hr =>
        split at h
        next => cases h
        next ho =>
            simp only [Outcome.bind_eq_ok, InformationClassCode.tryFrom_eq_ok,
              PacketClassCode.tryFrom_eq_ok, Outcome.ok.injEq] at h
            obtain ⟨i, hi, k, hk, rfl⟩ := h
            simp only [ne_eq, not_not, ← UInt32.toNat_inj, hres, houi, difiCid, UInt32.reduceToNat] at hr ho
            have hc : ClassIdWord ⟨(w0 >>> 27 &&& 31).toUInt8, w0 &&& 16777215, i, k⟩ := by
              constructor
              · simp only [hpad]
                exact Nat.mod_lt _ (by decide)
              · apply UInt32.toNat_inj.mp
                rw [houi, ho]
                rfl
            refine ⟨hc, ?_, ?_⟩
            · apply UInt32.toNat_inj.mp
              rw [classIdWord0_toNat hc, hpad]
              omega
            · rw [classIdWord1, ← hi, ← hk, hlow, joinHalves_high_low]
  · rintro ⟨hc, h0, rfl⟩
    have h0 := congrArg UInt32.toNat h0
    rw [classIdWord0_toNat hc] at h0
    have hlt := hc.padBitCount_lt
    have eres : w0 >>> 24 &&& 7 = 0 := by
      apply UInt32.toNat_inj.mp
      rw [hres, UInt32.toNat_zero]
      omega
    have eoui : w0 &&& 16777215 = c.oui := by
      apply UInt32.toNat_inj.mp
      simp only [houi, hc.oui, difiCid, UInt32.reduceToNat]
      omega
    have epad : (w0 >>> 27 &&& 31).toUInt8 = c.padBitCount := by
      apply UInt8.toNat_inj.mp
      rw [hpad]
      omega
    rw [if_neg (not_not.mpr eres), if_neg (not_not.mpr (eoui.trans hc.oui)), epad, eoui, hlow, classIdWord1,
      highHalf_joinHalves, lowHalf_joinHalves, InformationClassCode.tryFrom_eq_ok.mpr rfl,
      PacketClassCode.tryFrom_eq_ok.mpr rfl]
    rfl

structure PayloadFormatWords (f : PayloadFormat) : Prop where
  size_ge : 4 ≤ f.dataItemSizeBits.toNat
  size_le : f.dataItemSizeBits.toNat ≤ 16
  packing : f.itemPackingFieldSizeBits = f.dataItemSizeBits
  word0 : f.rawWord0.toNat = 0xA0000000 + (f.dataItemSizeBits.toNat - 1) * 65
  word1 : f.rawWord1 = 0

theorem complement_mask_toNat (w : UInt32) : (w &&& ~~~0x0FFF).toNat = w.toNat / 2 ^ 12 % 2 ^ 20 * 2 ^ 12 := by
  have h : (~~~0x0FFF : UInt32).toNat = 0xFFFFF * 2 ^ 12 := rfl
  rw [UInt32.toNat_and, h, and_shifted_mask 12 (by decide)]
  rfl

theorem parse_payloadFormat_eq_ok {w0 w1 : UInt32} {f : PayloadFormat} :
    PayloadFormat.parse w0 w1 = .ok f ↔ f.rawWord0 = w0 ∧ f.rawWord1 = w1 ∧ PayloadFormatWords f := by
  have hw0 := w0.toNat_lt
  have hsize8 := mask_toUInt8_toNat w0 0x3F (by decide) (by decide)
  have hpack8 := shift_mask_toUInt8_toNat w0 6 0x3F (by decide) (by decide) (by decide)
  have hfixed := complement_mask_toNat w0
  simp only [UInt32.reduceToNat, Nat.reduceAdd] at hsize8 hpack8
  have hsizeAdd : ((w0 &&& 63).toUInt8 + 1).toNat = w0.toNat % 64 + 1 := by
    simp only [UInt8.toNat_add, hsize8, UInt8.reduceToNat]
    omega
  have hpackAdd : ((w0 >>> 6 &&& 63).toUInt8 + 1).toNat = w0.toNat / 2 ^ 6 % 64 + 1 := by
    simp only [UInt8.toNat_add, hpack8, UInt8.reduceToNat]
    omega
  have hparse : PayloadFormat.parse w0 w1 =
      if w0 &&& ~~~0x0FFF ≠ 0xA0000000 ∨ w1 ≠ 0 ∨ (w0 &&& 63).toUInt8 ≠ (w0 >>> 6 &&& 63).toUInt8 ∨
          ¬(4 ≤ (w0 &&& 63).toUInt8 + 1 ∧ (w0 &&& 63).toUInt8 + 1 ≤ 16) then
        .err (.invalidPayloadFormat w0 w1)
      else .ok ⟨w0, w1, .complexSignedCartesian, (w0 &&& 63).toUInt8 + 1, (w0 >>> 6 &&& 63).toUInt8 + 1⟩ := by
    rw [PayloadFormat.parse, addU8_ok (by simp only [hsize8, UInt8.reduceToNat]; omega),
      addU8_ok (by simp only [hpack8, UInt8.reduceToNat]; omega)]
    rfl
  have hword : (w0 &&& ~~~0x0FFF ≠ 0xA0000000 ∨ w1 ≠ 0 ∨ (w0 &&& 63).toUInt8 ≠ (w0 >>> 6 &&& 63).toUInt8 ∨
      ¬(4 ≤ (w0 &&& 63).toUInt8 + 1 ∧ (w0 &&& 63).toUInt8 + 1 ≤ 16)) ↔
      ¬(w0.toNat = 0xA0000000 + w0.toNat % 64 * 65 ∧ w1 = 0 ∧ 3 ≤ w0.toNat % 64 ∧ w0.toNat % 64 ≤ 15) := by
    simp only [ne_eq, ← UInt32.toNat_inj, ← UInt8.toNat_inj, UInt8.le_iff_toNat_le, hfixed, hsizeAdd, hsize8,
      hpack8, UInt32.reduceToNat, UInt8.reduceToNat]
    have hdigits : w0.toNat = w0.toNat / 2 ^ 12 * 2 ^ 12 + w0.toNat / 2 ^ 6 % 64 * 2 ^ 6 + w0.toNat % 64 := by
      omega
    have htop : w0.toNat / 2 ^ 12 % 2 ^ 20 = w0.toNat / 2 ^ 12 := by omega
    have hp : w0.toNat / 2 ^ 6 % 64 < 64 := Nat.mod_lt _ (by decide)
    have hs : w0.toNat % 64 < 64 := Nat.mod_lt _ (by decide)
    rw [htop]
    clear hfixed hsize8 hpack8 hsizeAdd hpackAdd hparse htop
    generalize w0.toNat / 2 ^ 12 = top at *
    generalize w0.toNat / 2 ^ 6 % 64 = pack at *
    generalize w0.toNat % 64 = size at *
    generalize w0.toNat = n at *
    rw [← not_iff_not]
    simp only [not_or, not_not]
    constructor
    · rintro ⟨hfixed, hzero, heq, hlow, hhigh⟩
      exact ⟨by omega, hzero, by omega, by omega⟩
    · rintro ⟨hword, hzero, hlow, hhigh⟩
      exact ⟨by omega, hzero, by omega, by omega, by omega⟩
  rw [hparse]
  constructor
  · intro h
    split at h
    next => cases h
    next hc =>
        rw [hword, not_not] at hc
        obtain ⟨h0, h1, hlo, hhi⟩ := hc
        cases h
        refine ⟨rfl, rfl, ?_, ?_, ?_, ?_, h1⟩
        · simp only [hsizeAdd]
          omega
        · simp only [hsizeAdd]
          omega
        · apply UInt8.toNat_inj.mp
          rw [hpackAdd, hsizeAdd]
          omega
        · simp only [hsizeAdd]
          omega
  · rintro ⟨rfl, rfl, hf⟩
    have hge := hf.size_ge
    have hle := hf.size_le
    have h0 := hf.word0
    have hdigit : f.rawWord0.toNat % 64 = f.dataItemSizeBits.toNat - 1 := by omega
    rw [if_neg (by rw [hword, not_not, hdigit]; exact ⟨h0, hf.word1, by omega, by omega⟩)]
    have esize : (f.rawWord0 &&& 63).toUInt8 + 1 = f.dataItemSizeBits := by
      apply UInt8.toNat_inj.mp
      rw [hsizeAdd]
      omega
    have epack : (f.rawWord0 >>> 6 &&& 63).toUInt8 + 1 = f.itemPackingFieldSizeBits := by
      apply UInt8.toNat_inj.mp
      rw [hpackAdd, hf.packing]
      omega
    rw [esize, epack]

theorem validatePayloadFormat_eq_ok {f : PayloadFormat} :
    Writer.validatePayloadFormat f = .ok () ↔ PayloadFormatWords f := by
  have hlt := f.dataItemSizeBits.toNat_lt
  rw [Writer.validatePayloadFormat, if_neg (by cases f.sampleFormat; simp), ite_err_eq_ok, ite_err_eq_ok,
    not_not, not_not, UInt8.le_iff_toNat_le, UInt8.le_iff_toNat_le]
  have hword (h4 : 4 ≤ f.dataItemSizeBits.toNat) (h16 : f.dataItemSizeBits.toNat ≤ 16) :
      ((0xA0000000 : UInt32) ||| ((f.dataItemSizeBits - 1).toUInt32 <<< 6) |||
        (f.dataItemSizeBits - 1).toUInt32).toNat = 0xA0000000 + (f.dataItemSizeBits.toNat - 1) * 65 := by
    have hsub : (f.dataItemSizeBits - 1).toNat = f.dataItemSizeBits.toNat - 1 :=
      UInt8.toNat_sub_of_le _ _ (UInt8.le_iff_toNat_le.mpr (by rw [UInt8.toNat_one]; omega))
    simp only [UInt32.toNat_or, UInt32.toNat_shiftLeft, UInt8.toNat_toUInt32, UInt32.reduceToNat,
      Nat.reduceMod, Nat.shiftLeft_eq, hsub]
    rw [or_eq_add (a := 0xA0000000) 12, or_eq_add (a := _ + _) 6]
    all_goals omega
  have hsub (h4 : 4 ≤ f.dataItemSizeBits.toNat) :
      (subU8 f.dataItemSizeBits 1 : WriteResult UInt8) = .ok (f.dataItemSizeBits - 1) :=
    subU8_ok (UInt8.le_iff_toNat_le.mpr (by rw [UInt8.toNat_one]; omega))
  constructor
  · rintro ⟨⟨h4, h16⟩, hp, h⟩
    simp only [hsub h4, Outcome.ok_bind, Outcome.bind_eq_ok, expectField_eq_ok, toUInt64_inj32] at h
    obtain ⟨_, h0, h1⟩ := h
    refine ⟨h4, h16, hp, ?_, ?_⟩
    · rw [← h0, hword h4 h16]
    · exact toUInt64_inj32.mp h1.symm
  · rintro ⟨h4, h16, hp, h0, h1⟩
    refine ⟨⟨h4, h16⟩, hp, ?_⟩
    simp only [hsub h4, Outcome.ok_bind, Outcome.bind_eq_ok, expectField_eq_ok, toUInt64_inj32]
    refine ⟨(), ?_, ?_⟩
    · apply UInt32.toNat_inj.mp
      rw [hword h4 h16, h0]
    · rw [h1]
      rfl

/-- The version word with a zero device type and version code. -/
structure VersionWord (w : UInt32) (year : UInt8) (day : UInt16) (revision : UInt8) : Prop where
  year_lt : year.toNat < 128
  day_lt : day.toNat < 512
  revision_lt : revision.toNat < 64
  word : w.toNat = year.toNat * 2 ^ 25 + day.toNat * 2 ^ 16 + revision.toNat * 2 ^ 10

theorem versionWord_extract {w : UInt32} {year : UInt8} {day : UInt16} {revision : UInt8} :
    VersionWord w year day revision ↔
      ((w >>> 6) &&& 0xF).toUInt8 = 0 ∧ (w &&& 0x3F).toUInt8 = 0 ∧ year = ((w >>> 25) &&& 0x7F).toUInt8 ∧
        day = ((w >>> 16) &&& 0x1FF).toUInt16 ∧ revision = ((w >>> 10) &&& 0x3F).toUInt8 := by
  have hw := w.toNat_lt
  have hdev := shift_mask_toUInt8_toNat w 6 0xF (by decide) (by decide) (by decide)
  have hicd := mask_toUInt8_toNat w 0x3F (by decide) (by decide)
  have hyear := shift_mask_toUInt8_toNat w 25 0x7F (by decide) (by decide) (by decide)
  have hday := shift_mask_toUInt16_toNat w 16 0x1FF (by decide) (by decide) (by decide)
  have hrev := shift_mask_toUInt8_toNat w 10 0x3F (by decide) (by decide) (by decide)
  simp only [UInt32.reduceToNat, Nat.reduceAdd] at hdev hicd hyear hday hrev
  simp only [← UInt8.toNat_inj, ← UInt16.toNat_inj, hdev, hicd, hyear, hday, hrev, UInt8.toNat_zero]
  constructor
  · rintro ⟨h1, h2, h3, h4⟩
    omega
  · rintro ⟨h1, h2, h3, h4, h5⟩
    constructor
    all_goals omega

theorem versionWord_toNat {p : VersionContextPacket} (hy : p.year.toNat < 128) (hd : p.day.toNat < 512)
    (hr : p.revision.toNat < 64) (hdev : p.deviceType = 0) : (Writer.versionWord p).toNat =
      p.year.toNat * 2 ^ 25 + p.day.toNat * 2 ^ 16 + p.revision.toNat * 2 ^ 10 := by
  have hicd : p.icdVersion.code = 0 := by cases p.icdVersion; rfl
  simp only [Writer.versionWord, hdev, hicd, UInt32.toNat_or, UInt32.toNat_shiftLeft, UInt8.toNat_toUInt32,
    UInt16.toNat_toUInt32, UInt8.toNat_zero, UInt32.reduceToNat, Nat.reduceMod, Nat.shiftLeft_eq,
    Nat.zero_mul, Nat.zero_mod, Nat.or_zero]
  rw [or_eq_add (a := _ % _) 25, or_eq_add (a := _ + _) 16]
  all_goals omega

/-- A buffer status whose flags and level are the ones in its raw word. -/
structure BufferStatusWord (s : BufferStatus) : Prop where
  bufferLevel_lt : s.bufferLevel.toNat < 4096
  raw : s.raw.toNat = s.bufferLevel.toNat * 16 + s.overflow.toNat * 8 + s.nearlyFull.toNat * 4 +
    s.nearlyEmpty.toNat * 2 + s.underflow.toNat

theorem flags_toNat (a b c d : Bool) : ((a.toUInt32 <<< 3) ||| (b.toUInt32 <<< 2) ||| (c.toUInt32 <<< 1) |||
    d.toUInt32).toNat = a.toNat * 8 + b.toNat * 4 + c.toNat * 2 + d.toNat := by
  cases a <;> cases b <;> cases c <;> cases d <;> rfl

theorem validateBufferStatus_eq_ok {s : BufferStatus} {u : Unit} :
    Writer.validateBufferStatus s = .ok u ↔ BufferStatusWord s := by
  have ho := s.overflow.toNat_lt
  have hf := s.nearlyFull.toNat_lt
  have he := s.nearlyEmpty.toNat_lt
  have hu := s.underflow.toNat_lt
  have hword (hl : s.bufferLevel.toNat < 4096) : ((s.bufferLevel.toUInt32 <<< 4) |||
      ((s.overflow.toUInt32 <<< 3) ||| (s.nearlyFull.toUInt32 <<< 2) ||| (s.nearlyEmpty.toUInt32 <<< 1) |||
        s.underflow.toUInt32)).toNat = s.bufferLevel.toNat * 16 + s.overflow.toNat * 8 +
          s.nearlyFull.toNat * 4 + s.nearlyEmpty.toNat * 2 + s.underflow.toNat := by
    rw [UInt32.toNat_or, flags_toNat]
    simp only [UInt32.toNat_shiftLeft, UInt16.toNat_toUInt32, UInt32.reduceToNat, Nat.reduceMod,
      Nat.shiftLeft_eq]
    rw [or_eq_add 4]
    all_goals omega
  simp only [Writer.validateBufferStatus]
  rw [ite_err_eq_ok, expectField_eq_ok, toUInt64_inj32, gt_iff_lt, UInt16.lt_iff_toNat_lt]
  simp only [UInt16.reduceToNat]
  constructor
  · rintro ⟨hl, h⟩
    exact ⟨by omega, by rw [← h, hword (by omega)]⟩
  · rintro ⟨hl, h⟩
    exact ⟨by omega, UInt32.toNat_inj.mp (by rw [hword hl, h])⟩

theorem flags_extract {n : UInt8} {o f e u : Bool} :
    n.toNat = o.toNat * 8 + f.toNat * 4 + e.toNat * 2 + u.toNat ↔
      n.toNat < 16 ∧ o = (n &&& 0b1000 != 0) ∧ f = (n &&& 0b0100 != 0) ∧ e = (n &&& 0b0010 != 0) ∧
        u = (n &&& 0b0001 != 0) := by
  constructor
  · intro h
    have hn : n = UInt8.ofNat (o.toNat * 8 + f.toNat * 4 + e.toNat * 2 + u.toNat) := by
      rw [← h, UInt8.ofNat_toNat]
    subst hn
    cases o <;> cases f <;> cases e <;> cases u <;> decide
  · rintro ⟨hn, rfl, rfl, rfl, rfl⟩
    rw [bit_toNat n 8 3 rfl, bit_toNat n 4 2 rfl, bit_toNat n 2 1 rfl, bit_toNat n 1 0 rfl]
    omega

theorem bufferStatus_extract {s : BufferStatus} : BufferStatusWord s ↔
    s.raw >>> 16 = 0 ∧ s = {
      raw := s.raw
      bufferLevel := ((s.raw >>> 4) &&& 0x0FFF).toUInt16
      overflow := (s.raw &&& 0xF).toUInt8 &&& 0b1000 != 0
      nearlyFull := (s.raw &&& 0xF).toUInt8 &&& 0b0100 != 0
      nearlyEmpty := (s.raw &&& 0xF).toUInt8 &&& 0b0010 != 0
      underflow := (s.raw &&& 0xF).toUInt8 &&& 0b0001 != 0 } := by
  obtain ⟨w, level, o, f, e, u⟩ := s
  have hhigh : w >>> 16 = 0 ↔ w.toNat / 2 ^ 16 = 0 := by
    rw [← UInt32.toNat_inj]
    simp only [UInt32.toNat_shiftRight, UInt32.reduceToNat, Nat.reduceMod, Nat.shiftRight_eq_div_pow]
  have hflags : (w &&& 15).toUInt8.toNat = w.toNat % 16 := mask_toUInt8_toNat w 0xF (by decide) (by decide)
  have hlevel : ((w >>> 4) &&& 4095).toUInt16.toNat = w.toNat / 16 % 4096 :=
    shift_mask_toUInt16_toNat w 4 0x0FFF (by decide) (by decide) (by decide)
  have hbits := flags_extract (n := (w &&& 15).toUInt8) (o := o) (f := f) (e := e) (u := u)
  rw [hflags] at hbits
  simp only [BufferStatus.mk.injEq, true_and]
  rw [hhigh, ← UInt16.toNat_inj, hlevel]
  have hcap : o.toNat * 8 + f.toNat * 4 + e.toNat * 2 + u.toNat < 16 := by
    cases o <;> cases f <;> cases e <;> cases u <;> decide
  constructor
  · rintro ⟨hl, hr⟩
    simp only at hl hr
    exact ⟨by omega, by omega, (hbits.mp (by omega)).2⟩
  · rintro ⟨hz, hl, hs⟩
    have hsum := hbits.mpr ⟨Nat.mod_lt _ (by decide), hs⟩
    constructor
    · simp only
      omega
    · simp only
      omega

theorem bufferStatusWord_of_word {w : UInt32} (h : w >>> 16 = 0) : BufferStatusWord {
    raw := w
    bufferLevel := ((w >>> 4) &&& 0x0FFF).toUInt16
    overflow := (w &&& 0xF).toUInt8 &&& 0b1000 != 0
    nearlyFull := (w &&& 0xF).toUInt8 &&& 0b0100 != 0
    nearlyEmpty := (w &&& 0xF).toUInt8 &&& 0b0010 != 0
    underflow := (w &&& 0xF).toUInt8 &&& 0b0001 != 0 } :=
  bufferStatus_extract.mpr ⟨h, rfl⟩

end Difi.Fields
