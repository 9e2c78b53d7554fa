import Difi.Storing

namespace Difi.RoundTrip

open Machine Checks Fields Bodies Layout Decoding Acceptance Preparation Storing

theorem packetType_of_class {profile : StandardProfile} {t : PacketType} {c : PacketClassCode}
    (h : profile.validatePacketTypeClass t c = .ok ()) :
    match classVariant c with
    | .signalData => t = .signalDataWithStreamId
    | .signalContext => t = .contextWithStreamId
    | .versionContext => t = .contextWithStreamId ∨ t = .versionWithStreamId
    | .timingFlowControl => t = .commandWithStreamId
    | .sinkCapabilitiesQuery | .sinkCapabilitiesResponse | .statusReport =>
      t = .extensionCommandWithStreamId := by
  cases t <;> cases c <;> first | rfl | exact .inl rfl | exact .inr rfl | cases h

theorem extensionClass {c : PacketClassCode} :
    (classVariant c = .sinkCapabilitiesQuery → c = .sinkCapabilitiesQuery) ∧
      (classVariant c = .sinkCapabilitiesResponse → c = .sinkCapabilitiesResponse) ∧
      (classVariant c = .statusReport → c = .statusReport) := by
  cases c <;> simp [classVariant]

theorem tsmTypeSpecific_expected {t : PacketType} {bits : UInt8} (hbits : bits.toNat < 8)
    (hreserved : bits &&& 0b110 = 0) (ht : t = .contextWithStreamId ∨ t = .versionWithStreamId) :
    Writer.tsmTypeSpecific (Writer.expectedTsm t bits) = .ok bits := by
  have hsmall : ∀ k < 8, UInt8.ofNat k &&& 0b110 = 0 → UInt8.ofNat k = 0 ∨ UInt8.ofNat k = 1 := by decide
  have hcases : bits = 0 ∨ bits = 1 :=
    forall_small_byte (P := fun bits => bits &&& 0b110 = 0 → bits = 0 ∨ bits = 1) hsmall bits hbits hreserved
  rcases ht with rfl | rfl <;> rcases hcases with rfl | rfl <;> rfl

theorem canonicalTypeSpecificBits_eq {p : Packet} {profile : StandardProfile} (hform : PrologueForm p.prologue)
    (hd : Dispatched p) (h : profileChecks profile p.prologue.header p.prologue.classId = .ok ()) :
    Writer.canonicalTypeSpecificBits p = .ok p.prologue.header.typeSpecificBits := by
  obtain ⟨_, -, h⟩ := Outcome.bind_eq_ok.mp h
  obtain ⟨_, -, h⟩ := Outcome.bind_eq_ok.mp h
  obtain ⟨_, htype, h⟩ := Outcome.bind_eq_ok.mp h
  obtain ⟨_, hbits, -⟩ := Outcome.bind_eq_ok.mp h
  have htype := packetType_of_class htype
  have hlt := hform.header.typeSpecificBits_lt
  have htsm := hform.header.tsm
  rw [Dispatched] at hd
  rw [← hd] at htype
  obtain ⟨-, hbits⟩ := ite_err_eq_ok.mp hbits
  cases p with
  | signalData p =>
      simp only [variant] at htype
      rw [htype] at hbits
      exact congrArg Outcome.ok (expectBits_eq_ok.mp hbits).symm
  | timingFlowControl p =>
      simp only [variant] at htype
      rw [htype] at hbits
      exact congrArg Outcome.ok (expectBits_eq_ok.mp hbits).symm
  | signalContext p =>
      simp only [variant] at htype
      rw [htype] at hbits
      have hreserved := (ite_err_eq_ok.mp hbits).1
      rw [Writer.canonicalTypeSpecificBits]
      simp only [Packet.prologue] at *
      rw [htsm]
      exact tsmTypeSpecific_expected hlt (not_not.mp hreserved) (.inl htype)
  | versionContext p =>
      simp only [variant] at htype
      rw [Writer.canonicalTypeSpecificBits]
      simp only [Packet.prologue] at *
      rw [htsm]
      refine tsmTypeSpecific_expected hlt ?_ htype
      rcases htype with ht | ht
      · rw [ht] at hbits
        exact not_not.mp (ite_err_eq_ok.mp hbits).1
      · rw [ht] at hbits
        exact not_not.mp (ite_err_eq_ok.mp hbits).1
  | sinkCapabilitiesQuery p =>
      simp only [variant] at htype
      rw [htype, extensionClass.1 hd.symm] at hbits
      exact congrArg Outcome.ok (expectBits_eq_ok.mp hbits).symm
  | sinkCapabilitiesResponse p =>
      simp only [variant] at htype
      rw [htype, extensionClass.2.1 hd.symm] at hbits
      exact congrArg Outcome.ok (expectBits_eq_ok.mp hbits).symm
  | statusReport p =>
      simp only [variant] at htype
      rw [htype, extensionClass.2.2 hd.symm] at hbits
      exact congrArg Outcome.ok (expectBits_eq_ok.mp hbits).symm

def readPrologue (input : List UInt8) : Result Prologue := do
  let headerWord ← readU32Be input 0
  let header ← PacketHeader.parse headerWord
  let word2 ← readU32Be input 2
  let word3 ← readU32Be input 3
  let classId ← ClassId.parse word2 word3
  let streamId ← readU32Be input 1
  let integerSecondsTimestamp ← readU32Be input 4
  let fractionalSecondsTimestamp ← readU64Be input 5
  .ok { header, streamId, classId, integerSecondsTimestamp, fractionalSecondsTimestamp }

theorem readPrologue_eq {b : List UInt8} {p : Prologue} (h : prologueBytes ≤ b.length) (hform : PrologueForm p)
    (hw : WordsFrom b 0 (prologueLayout p)) : readPrologue b = .ok p := by
  obtain ⟨h0, h1, h2, h3, h4, h5⟩ := wordsFrom_prologue.mp hw
  have h28 : 28 ≤ b.length := h
  simp (disch := omega) only [readPrologue, readU32Be_ok, readU64Be_ok, Outcome.ok_bind, h0, h1, h2, h3, h4, h5]
  rw [parse_header_eq_ok.mpr ⟨rfl, hform.header⟩, Outcome.ok_bind,
    parse_classId_eq_ok.mpr ⟨hform.classId, rfl, rfl⟩, Outcome.ok_bind]

theorem written_bytes {p : Packet} {options : WriteOptions} {out out' : List UInt8} {n : Nat}
    (h : Writer.writePacketWithOptions p options out = (.ok n, out')) :
    WellFormed p ∧ verdict ⟨parseOptions options⟩ p = .ok () ∧ out'.take n = encode p := by
  obtain ⟨hlen, -, rfl⟩ := (writePacket_commits p options).eq_ok_iff.mp h
  obtain ⟨⟨hwell, -, hverdict⟩, rfl⟩ := encodedLen_eq_ok.mp hlen
  exact ⟨hwell, hverdict, List.take_left⟩

/-- No field of a written packet is lost: each decoder of the parser gives back
what the writer was given, whatever variant the packet class stands for. -/
theorem written_packet_decodes {p : Packet} {options : WriteOptions} {out out' : List UInt8} {n : Nat}
    (h : Writer.writePacketWithOptions p options out = (.ok n, out')) :
    let profile : StandardProfile := ⟨parseOptions options⟩
    let header := p.prologue.header
    let classId := p.prologue.classId
    readPrologue (out'.take n) = .ok p.prologue ∧
    profile.validatePacketTypeAvailable header.packetType = .ok () ∧
    profile.validatePacketClassAvailable classId.packetClass = .ok () ∧
    profile.validatePacketTypeClass header.packetType classId.packetClass = .ok () ∧
    profile.validateHeaderBits header classId.packetClass = .ok () ∧
    profile.validateClassMembership classId.informationClass classId.packetClass = .ok () ∧
    profile.validateTsf header classId.packetClass = .ok () ∧
    profile.validateTsm header classId.informationClass classId.packetClass = .ok () ∧
    decodeAs (variant p) (out'.take n) p.prologue profile = .ok p := by
  intro profile header classId
  obtain ⟨hwell, hverdict, hbytes⟩ := written_bytes h
  obtain ⟨hwords, hdrop⟩ := encode_words hwell.body
  have hlen := encode_length hwell.body
  have h28 : prologueBytes ≤ (encode p).length := by
    rw [hlen]
    exact prologueBytes_le hwell.body
  obtain ⟨_, hchecks, hpermit⟩ := Outcome.bind_eq_ok.mp hverdict
  obtain ⟨h1, h2, h3, h4, h5, h6, h7⟩ := profileChecks_eq_ok.mp hchecks
  rw [hbytes]
  exact ⟨readPrologue_eq h28 hwell.prologue hwords, h1, h2, h3, h4, h5, h6, h7,
    (decodeAs_eq_ok hlen h28).mpr ⟨rfl, rfl, hwell.body, hpermit, hdrop⟩⟩

def leapVersionPacket : Packet := .versionContext {
  prologue := {
    header := {
      raw := 0x4963000B
      packetType := .contextWithStreamId
      classIdIndicator := true
      typeSpecificBits := 1
      tsm := some .coarse
      tsi := .utc
      tsf := .realTimePicoseconds
      sequence := 3
      packetSizeWords := 11 }
    streamId := 1
    classId := {
      padBitCount := 0
      oui := difiCid
      informationClass := .versionFlow
      packetClass := .versionFlowSignalContext }
    integerSecondsTimestamp := 5
    fractionalSecondsTimestamp := 6 }
  cif0 := cifVersionChanged
  contextChanged := true
  cif1 := cifVersion1
  vita49SpecVersion := vita49SpecVersion
  year := 24
  day := 61
  revision := 2
  deviceType := 0
  icdVersion := .version1 }

theorem leapVersionPacket_written : Writer.writePacketWithOptions leapVersionPacket {} (List.replicate 48 0) =
    (.ok 44, encode leapVersionPacket ++ [0, 0, 0, 0]) := by decide

theorem leapVersionPacket_decodes :
    decodeAs .versionContext ((encode leapVersionPacket ++ [0, 0, 0, 0]).take 44) leapVersionPacket.prologue ⟨{}⟩ =
      .ok leapVersionPacket :=
  (written_packet_decodes leapVersionPacket_written).2.2.2.2.2.2.2.2

/-- A written packet is parsed back to itself exactly when its variant is the
one that its packet class stands for. -/
theorem written_packet_parses_back_iff {p : Packet} {options : WriteOptions} {out out' : List UInt8} {n : Nat}
    (h : Writer.writePacketWithOptions p options out = (.ok n, out')) :
    Parser.parsePacketExactWithOptions (out'.take n) (parseOptions options) = .ok p ↔ Dispatched p := by
  obtain ⟨hwell, hverdict, hbytes⟩ := written_bytes h
  rw [hbytes]
  constructor
  · intro hp
    exact (parsePacketExact_eq_ok.mp hp).1.2.1
  · intro hd
    exact parsePacketExact_eq_ok.mpr ⟨⟨hwell, hd, hverdict⟩, rfl⟩

theorem leapVersionPacket_parses_back :
    Parser.parsePacketExactWithOptions ((encode leapVersionPacket ++ [0, 0, 0, 0]).take 44) {} =
      .ok leapVersionPacket :=
  (written_packet_parses_back_iff leapVersionPacket_written).mpr rfl

def contextClassDataPacket : Packet := .signalData {
  prologue := {
    header := {
      raw := 0x48600007
      packetType := .contextWithStreamId
      classIdIndicator := true
      typeSpecificBits := 0
      tsm := some .fine
      tsi := .utc
      tsf := .realTimePicoseconds
      sequence := 0
      packetSizeWords := 7 }
    streamId := 1
    classId := {
      padBitCount := 0
      oui := difiCid
      informationClass := .dataPlaneUpstreamFlowControlRealTime
      packetClass := .standardFlowSignalContext }
    integerSecondsTimestamp := 0
    fractionalSecondsTimestamp := 0 }
  payload := [] }

/-- The writer lays a packet out by variant, the parser by packet class, and
nothing in the writer compares the two. -/
theorem written_packet_not_parsed_back :
    ¬∀ (p : Packet) (options : WriteOptions) (out out' : List UInt8) (n : Nat),
    Writer.writePacketWithOptions p options out = (.ok n, out') →
      Parser.parsePacketExactWithOptions (out'.take n) (parseOptions options) = .ok p := by
  intro h
  have hwrite : Writer.writePacketWithOptions contextClassDataPacket {} (List.replicate 28 0) =
      (.ok 28, encode contextClassDataPacket) := by decide
  have hparse : Parser.parsePacketExactWithOptions ((encode contextClassDataPacket).take 28) (parseOptions {}) =
      .err (.invalidPacketSize .standardFlowSignalContext 27 7) := by decide
  have hback := h _ _ _ _ _ hwrite
  rw [hparse] at hback
  cases hback

/-- Writing undoes parsing byte for byte, and the writer rejects a parsed packet
exactly when the parser rejects its bytes, with the parser's error. -/
theorem parsed_packet_writes_back {b : List UInt8} {options : ParseOptions} {p : Packet}
    (h : Parser.parsePacketExactWithOptions b options = .ok p) {out : List UInt8}
    (hout : b.length ≤ out.length) :
    (∀ writeOptions q, Parser.parsePacketExactWithOptions b (parseOptions writeOptions) = .ok q →
      Writer.writePacketWithOptions p writeOptions out = (.ok b.length, b ++ out.drop b.length)) ∧
    (∀ writeOptions e, Parser.parsePacketExactWithOptions b (parseOptions writeOptions) = .err e →
      Writer.writePacketWithOptions p writeOptions out = (.err (.profile e), out)) ∧
    Writer.writePacketWithOptions p ⟨options.standard, options.compatibility⟩ out =
      (.ok b.length, b ++ out.drop b.length) := by
  obtain ⟨⟨hwell, hd, hverdict⟩, rfl⟩ := parsePacketExact_eq_ok.mp h
  obtain ⟨_, hchecks, -⟩ := Outcome.bind_eq_ok.mp hverdict
  have hbits := canonicalTypeSpecificBits_eq hwell.prologue hd hchecks
  have hwrite (writeOptions : WriteOptions) (hv : verdict ⟨parseOptions writeOptions⟩ p = .ok ()) :
      Writer.writePacketWithOptions p writeOptions out =
        (.ok (encode p).length, encode p ++ out.drop (encode p).length) :=
    (writePacket_commits p writeOptions).eq_ok_iff.mpr
      ⟨encodedLen_eq_ok.mpr ⟨⟨hwell, hbits, hv⟩, rfl⟩, hout, rfl⟩
  refine ⟨fun writeOptions q hq => ?_, fun writeOptions e he => ?_, hwrite _ hverdict⟩
  · rw [parsePacketExact_encode _ hwell hd] at hq
    obtain ⟨_, hv, -⟩ := Outcome.bind_eq_ok.mp hq
    exact hwrite writeOptions hv
  · rw [parsePacketExact_encode _ hwell hd] at he
    rcases Outcome.bind_eq_err.mp he with he | ⟨_, -, he⟩
    · refine (writePacket_commits p writeOptions).err_eq out ?_
      rw [Writer.encodedLenWithOptions, preparePacket_eq writeOptions hwell hbits, he]
      rfl
    · cases he

theorem leapVersionPacket_writes_back :
    Writer.writePacketWithOptions leapVersionPacket {} (List.replicate 60 0) =
      (.ok 44, encode leapVersionPacket ++ List.replicate 16 0) := by
  have h : Parser.parsePacketExactWithOptions (encode leapVersionPacket) {} = .ok leapVersionPacket := by
    decide
  exact (parsed_packet_writes_back h (by decide)).2.2

end Difi.RoundTrip
