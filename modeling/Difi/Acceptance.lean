import Difi.Decoding

namespace Difi.Acceptance

open Machine Checks Fields Bodies Layout Decoding Difi.Parser

def profileChecks (profile : StandardProfile) (header : PacketHeader) (classId : ClassId) : Result Unit := do
  profile.validatePacketTypeAvailable header.packetType
  profile.validatePacketClassAvailable classId.packetClass
  profile.validatePacketTypeClass header.packetType classId.packetClass
  profile.validateHeaderBits header classId.packetClass
  profile.validateClassMembership classId.informationClass classId.packetClass
  profile.validateTsf header classId.packetClass
  profile.validateTsm header classId.informationClass classId.packetClass

theorem profileChecks_eq_ok {profile : StandardProfile} {header : PacketHeader} {classId : ClassId} :
    profileChecks profile header classId = .ok () ↔
      profile.validatePacketTypeAvailable header.packetType = .ok () ∧
      profile.validatePacketClassAvailable classId.packetClass = .ok () ∧
      profile.validatePacketTypeClass header.packetType classId.packetClass = .ok () ∧
      profile.validateHeaderBits header classId.packetClass = .ok () ∧
      profile.validateClassMembership classId.informationClass classId.packetClass = .ok () ∧
      profile.validateTsf header classId.packetClass = .ok () ∧
      profile.validateTsm header classId.informationClass classId.packetClass = .ok () := by
  simp only [profileChecks, Outcome.check_eq_ok]

def verdict (profile : StandardProfile) (p : Packet) : Result Unit := do
  profileChecks profile p.prologue.header p.prologue.classId
  paddingPermission profile p

/-- The variant of a packet is the one that its packet class is parsed as. -/
def Dispatched (p : Packet) : Prop := variant p = classVariant p.prologue.classId.packetClass

theorem parseSinglePacket_eq {b : List UInt8} (profile : StandardProfile) (h : prologueBytes ≤ b.length) :
    parseSinglePacket b profile = (do
      let header ← PacketHeader.parse (wordAt b 0)
      if !header.classIdIndicator then .err .missingClassId
      else do
        let classId ← ClassId.parse (wordAt b 2) (wordAt b 3)
        profileChecks profile header classId
        decodeAs (classVariant classId.packetClass) b
          ⟨header, wordAt b 1, classId, wordAt b 4, doubleAt b 5⟩ profile) := by
  have h28 : 28 ≤ b.length := h
  rw [parseSinglePacket]
  simp (disch := omega) only [readU32Be_ok, readU64Be_ok, Outcome.ok_bind, profileChecks, Outcome.bind_assoc']
  refine congrArg _ (funext fun header => ?_)
  split
  · rfl
  · refine congrArg _ (funext fun classId => ?_)
    cases classId.packetClass <;> rfl

theorem wordsFrom_prologue {b : List UInt8} {p : Prologue} : WordsFrom b 0 (prologueLayout p) ↔
    wordAt b 0 = p.header.raw ∧ wordAt b 1 = p.streamId ∧ wordAt b 2 = classIdWord0 p.classId ∧
      wordAt b 3 = classIdWord1 p.classId ∧ wordAt b 4 = p.integerSecondsTimestamp ∧
      doubleAt b 5 = p.fractionalSecondsTimestamp := by
  simp only [prologueLayout, WordsFrom, Nat.reduceAdd, doubleAt_eq_iff, and_true]

theorem parseSinglePacket_prologue {b : List UInt8} {p : Prologue} (profile : StandardProfile)
    (h : prologueBytes ≤ b.length) (hform : PrologueForm p) (hw : WordsFrom b 0 (prologueLayout p)) :
    parseSinglePacket b profile = (do
      profileChecks profile p.header p.classId
      decodeAs (classVariant p.classId.packetClass) b p profile) := by
  obtain ⟨h0, h1, h2, h3, h4, h5⟩ := wordsFrom_prologue.mp hw
  rw [parseSinglePacket_eq profile h, h0, h1, h2, h3, h4, h5,
    parse_header_eq_ok.mpr ⟨rfl, hform.header⟩, parse_classId_eq_ok.mpr ⟨hform.classId, rfl, rfl⟩]
  simp only [Outcome.ok_bind, hform.classIdIndicator, Bool.not_true, Bool.false_eq_true, if_false]

def declaredSize (b : List UInt8) : UInt16 := (wordAt b 0 &&& 0xFFFF).toUInt16

theorem parseSinglePacket_ok {b : List UInt8} {profile : StandardProfile} {x : Packet}
    (hlen : b.length = 4 * (declaredSize b).toNat) (h : prologueBytes ≤ b.length)
    (hx : parseSinglePacket b profile = .ok x) :
    PrologueForm x.prologue ∧ WordsFrom b 0 (prologueLayout x.prologue) ∧
      x.prologue.header.packetSizeWords = declaredSize b ∧
      profileChecks profile x.prologue.header x.prologue.classId = .ok () ∧
      decodeAs (classVariant x.prologue.classId.packetClass) b x.prologue profile = .ok x := by
  rw [parseSinglePacket_eq profile h] at hx
  obtain ⟨header, hheader, hx⟩ := Outcome.bind_eq_ok.mp hx
  obtain ⟨hindicator, hx⟩ := ite_err_eq_ok.mp hx
  obtain ⟨classId, hclass, hx⟩ := Outcome.bind_eq_ok.mp hx
  obtain ⟨_, hchecks, hx⟩ := Outcome.bind_eq_ok.mp hx
  obtain ⟨hraw, hword⟩ := parse_header_eq_ok.mp hheader
  obtain ⟨hcid, hw2, hw3⟩ := parse_classId_eq_ok.mp hclass
  have hsize : header.packetSizeWords = declaredSize b := by
    rw [declaredSize, ← hraw, headerWord_size hword]
  obtain ⟨-, hprologue, -⟩ := (decodeAs_eq_ok (by rw [hlen, hsize]) h).mp hx
  rw [hprologue]
  refine ⟨⟨hword, ?_, hcid⟩, wordsFrom_prologue.mpr ⟨hraw.symm, rfl, hw2, hw3, rfl, rfl⟩, hsize, hchecks, hx⟩
  simpa using hindicator

theorem sinkCapabilitiesQuery_length {p : SinkCapabilitiesQueryPacket} (h : SinkCapabilitiesQueryForm p) :
    7 + (sinkCapabilitiesQueryLayout p).length = p.prologue.header.packetSizeWords.toNat := by
  obtain ⟨-, -, hform⟩ := h
  obtain ⟨prologue, common, form, cif0, cif1, integer, fractional⟩ := p
  cases form with
  | short =>
      obtain ⟨h15, -, hcif1, hint, hfrac⟩ := hform
      obtain ⟨i, rfl⟩ := Option.isSome_iff_exists.mp hint
      obtain ⟨f, rfl⟩ := Option.isSome_iff_exists.mp hfrac
      subst hcif1
      rw [h15]
      rfl
  | long =>
      obtain ⟨h13, -, hcif1, hint, hfrac⟩ := hform
      subst hcif1 hint hfrac
      rw [h13]
      rfl

theorem sinkCapabilitiesResponse_length {p : SinkCapabilitiesResponsePacket}
    (h : SinkCapabilitiesResponseForm p) :
    28 + 4 * (sinkCapabilitiesResponseLayout p).length + p.capabilityTable.length =
      4 * p.prologue.header.packetSizeWords.toNat := by
  obtain ⟨-, -, hform⟩ := h
  obtain ⟨prologue, common, form, cif0, cif1, ci, cf, si, sf, table⟩ := p
  cases form with
  | short =>
      obtain ⟨h18, -, hcif1, hci, hcf, hsi, hsf, htable⟩ := hform
      obtain ⟨ci, rfl⟩ := Option.isSome_iff_exists.mp hci
      obtain ⟨cf, rfl⟩ := Option.isSome_iff_exists.mp hcf
      obtain ⟨si, rfl⟩ := Option.isSome_iff_exists.mp hsi
      obtain ⟨sf, rfl⟩ := Option.isSome_iff_exists.mp hsf
      subst hcif1 htable
      rw [h18]
      rfl
  | long =>
      obtain ⟨hsize, -, -, hcif1, hci, hcf, hsi, hsf⟩ := hform
      subst hcif1 hci hcf hsi hsf
      rw [hsize]
      rfl

theorem statusReport_length {p : StatusReportPacket} (h : StatusReportForm p) :
    7 + (statusReportLayout p).length = p.prologue.header.packetSizeWords.toNat := by
  have hlimits := h.limits
  obtain ⟨prologue, common, cif0, cif1, errors, warnings, level, rate, band⟩ := p
  simp only at hlimits ⊢
  generalize prologue.header.packetSizeWords.toNat = n at hlimits ⊢
  cases hlimits with
  | without => rfl
  | level l => rfl
  | all l r w => rfl

theorem bodyBytes_length {p : Packet} (h : BodyForm p) :
    prologueBytes + (bodyBytes p).length = 4 * p.prologue.header.packetSizeWords.toNat := by
  have hwords (ws : List UInt32) (n : Nat) (hn : 7 + ws.length = n) :
      prologueBytes + (flat ws).length = 4 * n := by
    rw [flat_length, ← hn, Nat.mul_add]
    rfl
  cases p with
  | signalData p => exact h.size.symm
  | signalContext p => exact hwords _ _ (congrArg UInt16.toNat h.size).symm
  | versionContext p => exact hwords _ _ (congrArg UInt16.toNat h.size).symm
  | timingFlowControl p => exact hwords _ _ (congrArg UInt16.toNat h.size).symm
  | sinkCapabilitiesQuery p => exact hwords _ _ (sinkCapabilitiesQuery_length h)
  | sinkCapabilitiesResponse p =>
      rw [bodyBytes, List.length_append, flat_length, ← Nat.add_assoc]
      exact sinkCapabilitiesResponse_length h
  | statusReport p => exact hwords _ _ (statusReport_length h)

theorem encode_length {p : Packet} (h : BodyForm p) :
    (encode p).length = 4 * p.prologue.header.packetSizeWords.toNat := by
  rw [encode, List.length_append, ← bodyBytes_length h]
  rfl

theorem prologueBytes_le {p : Packet} (h : BodyForm p) :
    prologueBytes ≤ 4 * p.prologue.header.packetSizeWords.toNat := by
  have hlen := bodyBytes_length h
  omega

theorem encode_words {p : Packet} (h : BodyForm p) :
    WordsFrom (encode p) 0 (prologueLayout p.prologue) ∧ (encode p).drop prologueBytes = bodyBytes p := by
  refine (drop_eq_flat_append (k := 0) ?_).mp rfl
  rw [encode_length h]
  exact prologueBytes_le h

/-- The parser reads a well-formed packet back from its bytes exactly when the
standard admits it. -/
theorem parseSinglePacket_encode {p : Packet} (profile : StandardProfile) (h : WellFormed p)
    (hd : Dispatched p) :
    parseSinglePacket (encode p) profile = verdict profile p >>= fun _ => .ok p := by
  obtain ⟨hw, hb⟩ := encode_words h.body
  have hlen := encode_length h.body
  have h28 : prologueBytes ≤ (encode p).length := by
    rw [hlen]
    exact prologueBytes_le h.body
  have hdecode := decodeAs_variant profile hlen h28 h.body hb
  rw [parseSinglePacket_prologue profile h28 h.prologue hw, ← hd, hdecode, verdict, Outcome.bind_assoc']

theorem wordAt_encode_append {p : Packet} (h : BodyForm p) (rest : List UInt8) :
    wordAt (encode p ++ rest) 0 = p.prologue.header.raw := by
  have hlen := encode_length h
  have hle := prologueBytes_le h
  have h28 : prologueBytes = 28 := rfl
  rw [wordAt_append _ _ _ (by omega)]
  exact (wordsFrom_prologue.mp (encode_words h).1).1

theorem parsePacketPrefix_eq {b : List UInt8} (options : ParseOptions) (h : prologueBytes ≤ b.length) :
    parsePacketPrefixWithOptions b options =
      if declaredSize b < prologueWords then .err (.packetSizeTooSmall (declaredSize b))
      else if b.length < 4 * (declaredSize b).toNat then
        .err (.packetTruncated (4 * (declaredSize b).toNat) b.length)
      else parseSinglePacket (b.take (4 * (declaredSize b).toNat)) ⟨options⟩ >>= fun p =>
        .ok (p, b.drop (4 * (declaredSize b).toNat)) := by
  have h28 : 28 ≤ b.length := h
  rw [parsePacketPrefixWithOptions, if_neg (Nat.not_lt.mpr h), readU32Be_ok (by omega) (by decide),
    Outcome.ok_bind, declaredSize]
  simp only [mulUsize_words, Outcome.ok_bind]
  refine ite_congr rfl (fun _ => rfl) fun _ => ite_congr rfl (fun _ => rfl) fun hfits => ?_
  rw [sliceTo_ok (Nat.le_of_not_lt hfits), sliceFrom_ok (Nat.le_of_not_lt hfits), Outcome.ok_bind,
    Outcome.ok_bind]

theorem declaredSize_append {b : List UInt8} (rest : List UInt8) (h : prologueBytes ≤ b.length) :
    declaredSize (b ++ rest) = declaredSize b := by
  have h28 : 28 ≤ b.length := h
  rw [declaredSize, wordAt_append _ _ _ (by omega), declaredSize]

theorem declaredSize_take {b : List UInt8} {n : Nat} (hn : prologueBytes ≤ n) (h : n ≤ b.length) :
    declaredSize (b.take n) = declaredSize b := by
  have hlen : prologueBytes ≤ (b.take n).length := by
    rw [List.length_take_of_le h]
    exact hn
  rw [← declaredSize_append (b.drop n) hlen, List.take_append_drop]

theorem declaredSize_encode {p : Packet} (h : WellFormed p) :
    declaredSize (encode p) = p.prologue.header.packetSizeWords := by
  rw [declaredSize, (wordsFrom_prologue.mp (encode_words h.body).1).1, headerWord_size h.prologue.header]

theorem parsePacketPrefix_encode {p : Packet} (options : ParseOptions) (rest : List UInt8) (h : WellFormed p)
    (hd : Dispatched p) :
    parsePacketPrefixWithOptions (encode p ++ rest) options =
      verdict ⟨options⟩ p >>= fun _ => .ok (p, rest) := by
  have hlen := encode_length h.body
  have hle := prologueBytes_le h.body
  have h28 : prologueBytes ≤ (encode p).length := by
    rw [hlen]
    exact hle
  have hwords : ¬p.prologue.header.packetSizeWords < prologueWords :=
    prologueWords_le.mpr (Nat.le_of_mul_le_mul_left (c := 4) hle (by decide))
  rw [parsePacketPrefix_eq options (h28.trans (by simp)), declaredSize_append rest h28, declaredSize_encode h,
    if_neg hwords, if_neg (by rw [List.length_append]; omega), ← hlen, List.take_left, List.drop_left,
    parseSinglePacket_encode _ h hd, Outcome.bind_assoc']
  rfl

theorem parseSinglePacket_wellFormed {b : List UInt8} {profile : StandardProfile} {p : Packet}
    (hlen : b.length = 4 * (declaredSize b).toNat) (h : prologueBytes ≤ b.length)
    (hp : parseSinglePacket b profile = .ok p) :
    WellFormed p ∧ Dispatched p ∧ verdict profile p = .ok () ∧ b = encode p := by
  obtain ⟨hprologue, hwords, hsize, hchecks, hdecode⟩ := parseSinglePacket_ok hlen h hp
  obtain ⟨hvariant, -, hbody, hpermit, hdrop⟩ := (decodeAs_eq_ok (by rw [hlen, hsize]) h).mp hdecode
  refine ⟨⟨hprologue, hbody⟩, hvariant, ?_, ?_⟩
  · rw [verdict, hchecks]
    exact hpermit
  · refine (drop_eq_flat_append (k := 0) ?_).mpr ⟨hwords, hdrop⟩
    exact h

/-- Whatever the parser accepts is a well-formed packet that the standard
admits, and the bytes consumed are that packet's. -/
theorem parsePacketPrefix_ok {b rest : List UInt8} {options : ParseOptions} {p : Packet}
    (h : parsePacketPrefixWithOptions b options = .ok (p, rest)) :
    WellFormed p ∧ Dispatched p ∧ verdict ⟨options⟩ p = .ok () ∧ b = encode p ++ rest := by
  have hlong := (ite_err_eq_ok.mp h).1
  rw [parsePacketPrefix_eq options (Nat.le_of_not_lt hlong)] at h
  obtain ⟨hwords, h⟩ := ite_err_eq_ok.mp h
  obtain ⟨hfits, h⟩ := ite_err_eq_ok.mp h
  obtain ⟨q, hq, h⟩ := Outcome.bind_eq_ok.mp h
  cases h
  have hfits := Nat.le_of_not_lt hfits
  have h28 : prologueBytes ≤ 4 * (declaredSize b).toNat := Nat.mul_le_mul_left 4 (prologueWords_le.mp hwords)
  have htake := List.length_take_of_le hfits
  obtain ⟨hform, hd, hv, hb⟩ := parseSinglePacket_wellFormed (by rw [htake, declaredSize_take h28 hfits])
    (by rw [htake]; exact h28) hq
  refine ⟨hform, hd, hv, ?_⟩
  rw [← hb, List.take_append_drop]

theorem parsePacketPrefix_eq_ok {b rest : List UInt8} {options : ParseOptions} {p : Packet} :
    parsePacketPrefixWithOptions b options = .ok (p, rest) ↔
      (WellFormed p ∧ Dispatched p ∧ verdict ⟨options⟩ p = .ok ()) ∧ b = encode p ++ rest := by
  constructor
  · intro h
    obtain ⟨hform, hd, hv, hb⟩ := parsePacketPrefix_ok h
    exact ⟨⟨hform, hd, hv⟩, hb⟩
  · rintro ⟨⟨hform, hd, hv⟩, rfl⟩
    rw [parsePacketPrefix_encode options rest hform hd, hv]
    rfl

theorem parsePacketExact_eq_ok {b : List UInt8} {options : ParseOptions} {p : Packet} :
    parsePacketExactWithOptions b options = .ok p ↔
      (WellFormed p ∧ Dispatched p ∧ verdict ⟨options⟩ p = .ok ()) ∧ b = encode p := by
  rw [parsePacketExactWithOptions, Outcome.bind_eq_ok]
  constructor
  · rintro ⟨⟨q, rest⟩, hq, h⟩
    simp only at h
    split at h
    next hempty =>
        cases h
        rw [List.isEmpty_iff.mp hempty] at hq
        simpa only [List.append_nil] using parsePacketPrefix_eq_ok.mp hq
    next => cases h
  · rintro ⟨h, rfl⟩
    refine ⟨(p, []), parsePacketPrefix_eq_ok.mpr ⟨h, (List.append_nil _).symm⟩, rfl⟩

theorem parsePacketExact_encode {p : Packet} (options : ParseOptions) (h : WellFormed p) (hd : Dispatched p) :
    parsePacketExactWithOptions (encode p) options = verdict ⟨options⟩ p >>= fun _ => .ok p := by
  have hparse := parsePacketPrefix_encode options [] h hd
  rw [List.append_nil] at hparse
  rw [parsePacketExactWithOptions, hparse, Outcome.bind_assoc']
  rfl

end Difi.Acceptance
