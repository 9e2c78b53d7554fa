import Difi.Complaints
import Difi.Grammar

namespace Difi.Incompleteness

open Machine Outcome Checks Fields Bodies Layout Decoding Acceptance Complaints Grammar

/-- The errors that tell a caller to come back with more bytes than the number
of them that it had. -/
def Incomplete (actual : Nat) : ParseError → Prop
  | .inputTooShort _ n | .packetTruncated _ n => n = actual
  | _ => False

/-- The classes and the sizes at which the words of a command are read on past
the end of the packet; the last of them only when the control word is right. -/
def Overreads (b : List UInt8) : PacketClassCode → Prop
  | .sinkCapabilitiesQuery => words b ≤ 10 ∨ (words b = 11 ∧ word b 7 = 0xA1100000)
  | .sinkCapabilitiesResponse => words b ≤ 10 ∨ (words b = 11 ∧ word b 7 = 0xA1100400)
  | _ => False

section Bodies

variable {n : Nat} {b : List UInt8} {prologue : Prologue} {profile : StandardProfile}

theorem not_incomplete {α : Type} {x : Result α} (h : Within Complaint x) : ¬Raises (Incomplete n) x := by
  refine h.not_raises fun e he => ?_
  cases e <;> first | exact absurd he id | exact id

theorem readU32Be_raises {k : Nat} (hk : k < 2 ^ 32) :
    Raises (Incomplete n) (readU32Be b k) ↔ b.length < 4 * k + 4 ∧ b.length = n := by
  rw [readU32Be_eq hk, raises_ite]
  simp [Incomplete]

theorem parseCommon_raises :
    Raises (Incomplete n) (Parser.parseCommon b) ↔ b.length < 44 ∧ b.length = n := by
  simp (disch := decide) only [Parser.parseCommon, raises_bind, readU32Be_raises, readU32Be_eq_ok, raises_ok,
    and_false, exists_false, or_false, and_assoc, exists_and_left, exists_eq_left']
  omega

theorem command_raises {α : Type} {check : UInt32 → Result Unit} {k : CommandCommon → UInt32 → Result α}
    (hcheck : ∀ cam, Within Complaint (check cam)) (hk : ∀ common cif0, Within Complaint (k common cif0)) :
    Raises (Incomplete n) (Parser.expectNoPadding prologue >>= fun _ => command b check k) ↔
      prologue.classId.padBitCount = 0 ∧
      (b.length < 44 ∨ (b.length < 48 ∧ check (wordAt b 7) = .ok ())) ∧ b.length = n := by
  rw [raises_bind, or_iff_right (not_incomplete (expectNoPadding_within _)), exists_unit,
    parserExpectNoPadding_eq_ok, command]
  refine and_congr_right fun _ => ?_
  by_cases hcommon : b.length < 44
  · obtain ⟨e, he, -⟩ := (parseCommon_raises (n := b.length)).mpr ⟨hcommon, rfl⟩
    have herr := parseCommon_raises (n := n) (b := b)
    rw [he, raises_err] at herr
    rw [he, err_bind, raises_err, herr]
    simp [hcommon]
  · rw [parseCommon_ok (Nat.le_of_not_lt hcommon), ok_bind, raises_bind,
      or_iff_right (not_incomplete (hcheck _)), exists_unit, raises_bind, readU32Be_raises (by decide),
      or_iff_left, or_iff_right hcommon]
    · constructor
      · rintro ⟨hcheck, hb, hn⟩
        exact ⟨⟨hb, hcheck⟩, hn⟩
      · rintro ⟨⟨hb, hcheck⟩, hn⟩
        exact ⟨hcheck, hb, hn⟩
    · rintro ⟨cif0, -, h⟩
      exact not_incomplete (hk _ cif0) h

theorem parseSinkCapabilitiesQuery_raises (hlen : b.length = 4 * prologue.header.packetSizeWords.toNat) :
    Raises (Incomplete n) (Parser.parseSinkCapabilitiesQuery b prologue profile) ↔
      prologue.classId.padBitCount = 0 ∧
      (b.length < 44 ∨ (b.length < 48 ∧ wordAt b 7 = camExtensionControlValidate)) ∧ b.length = n := by
  obtain ⟨k, hk, hcommand⟩ := parseSinkCapabilitiesQuery_command hlen
  rw [hcommand, ← expectWord_eq_ok (u := ())]
  exact command_raises (fun _ => expectWord_within _ _ _) hk

theorem parseSinkCapabilitiesResponse_raises (hlen : b.length = 4 * prologue.header.packetSizeWords.toNat) :
    Raises (Incomplete n) (Parser.parseSinkCapabilitiesResponse b prologue profile) ↔
      prologue.classId.padBitCount = 0 ∧
      (b.length < 44 ∨ (b.length < 48 ∧ wordAt b 7 = camExtensionAckValidate)) ∧ b.length = n := by
  obtain ⟨k, hk, hcommand⟩ := parseSinkCapabilitiesResponse_command hlen
  rw [hcommand, ← expectWord_eq_ok (u := ())]
  exact command_raises (fun _ => expectWord_within _ _ _) hk

theorem overread_iff (hlen : b.length = 4 * words b) {cam : UInt32} :
    (b.length < 44 ∨ (b.length < 48 ∧ wordAt b 7 = cam)) ↔
      words b ≤ 10 ∨ (words b = 11 ∧ word b 7 = cam.toNat) := by
  rw [wordAt_eq_iff]
  omega

theorem decodeAs_raises (hframe : Frame b prologue) :
    Raises (Incomplete n) (decodeAs (classVariant prologue.classId.packetClass) b prologue profile) ↔
      prologue.classId.padBitCount.toNat = 0 ∧ Overreads b prologue.classId.packetClass ∧ b.length = n := by
  obtain ⟨hlen, hwords, hge⟩ := hframe
  have hlen' : b.length = 4 * words b := by
    rw [hlen, hwords]
  have hnever {α : Type} {x : Result α} {f : α → Packet} (h : Within Complaint x) :
      Raises (Incomplete n) (x.map f) ↔
        prologue.classId.padBitCount.toNat = 0 ∧ False ∧ b.length = n := by
    rw [raises_map, false_and, and_false, iff_false]
    exact not_incomplete h
  cases prologue.classId.packetClass with
  | standardFlowSignalData | sampleCountSignalData => exact hnever (parseData_within hlen)
  | standardFlowSignalContext | sampleCountSignalContext => exact hnever (parseSignalContext_within hlen)
  | versionFlowSignalContext => exact hnever (parseVersionContext_within hlen)
  | sampleCountTimingFlowControl | realTimeTimingFlowControl => exact hnever (parseTimingFlowControl_within hlen)
  | sinkCapabilitiesQuery =>
      refine raises_map.trans ((parseSinkCapabilitiesQuery_raises hlen).trans ?_)
      rw [byte_eq_zero_iff, overread_iff hlen']
      rfl
  | sinkCapabilitiesResponse =>
      refine raises_map.trans ((parseSinkCapabilitiesResponse_raises hlen).trans ?_)
      rw [byte_eq_zero_iff, overread_iff hlen']
      rfl
  | statusReport => exact hnever (parseStatusReport_within hlen)

theorem parseSinglePacket_raises (h : prologueBytes ≤ b.length) :
    Raises (Incomplete n) (Parser.parseSinglePacket b profile) ↔
      ∃ prologue, PrologueForm prologue ∧ WordsFrom b 0 (prologueLayout prologue) ∧
        profileChecks profile prologue.header prologue.classId = .ok () ∧
        Raises (Incomplete n) (decodeAs (classVariant prologue.classId.packetClass) b prologue profile) := by
  constructor
  · intro hraises
    rw [parseSinglePacket_eq profile h, raises_bind,
      or_iff_right (not_incomplete (parseHeader_within _))] at hraises
    obtain ⟨header, hheader, hraises⟩ := hraises
    obtain ⟨-, hraises⟩ | ⟨hindicator, hraises⟩ := raises_ite.mp hraises
    · exact absurd hraises (by simp [Incomplete])
    rw [raises_bind, or_iff_right (not_incomplete (parseClassId_within _ _))] at hraises
    obtain ⟨classId, hclass, hraises⟩ := hraises
    rw [raises_bind, or_iff_right (not_incomplete (profileChecks_within _ _ _)), exists_unit] at hraises
    obtain ⟨hchecks, hraises⟩ := hraises
    obtain ⟨hraw, hword⟩ := parse_header_eq_ok.mp hheader
    obtain ⟨hcid, hw2, hw3⟩ := parse_classId_eq_ok.mp hclass
    refine ⟨⟨header, wordAt b 1, classId, wordAt b 4, doubleAt b 5⟩, ⟨hword, ?_, hcid⟩,
      wordsFrom_prologue.mpr ⟨hraw.symm, rfl, hw2, hw3, rfl, rfl⟩, hchecks, hraises⟩
    simpa using hindicator
  · rintro ⟨prologue, hform, hw, hchecks, hraises⟩
    rw [parseSinglePacket_prologue profile h hform hw, hchecks]
    exact hraises

end Bodies

/-- What an error of this kind is to tell: that the declared packet is not all
there, and how many bytes are. -/
structure Truthful (options : ParseOptions) (b : List UInt8) : Prop where
  asks : (∃ n, Raises (Incomplete n) (Parser.parsePacketPrefixWithOptions b options)) ↔
    b.length < 28 ∨ (7 ≤ words b ∧ b.length < 4 * words b)
  actual : ∀ n, Raises (Incomplete n) (Parser.parsePacketPrefixWithOptions b options) → n = b.length

/-- The complete packets that the parser asks more bytes for. -/
structure Starved (options : ParseOptions) (b : List UInt8) (information : InformationClassCode)
    (packetClass : PacketClassCode) : Prop where
  words_ge : 7 ≤ words b
  complete : 4 * words b ≤ b.length
  opening : Opening options b information packetClass
  unpadded : word b 2 / 2 ^ 27 = 0
  overreads : Overreads b packetClass

section Law

variable {options : ParseOptions} {b : List UInt8} {n : Nat}

theorem Starved.congr {t : List UInt8} {information : InformationClassCode} {packetClass : PacketClassCode}
    (h : Starved options b information packetClass) (hfits : 4 * words b ≤ t.length)
    (hword : ∀ k < words b, word t k = word b k) : Starved options t information packetClass := by
  have hge := h.words_ge
  have h0 := hword 0 (by omega)
  have h2 := hword 2 (by omega)
  have h3 := hword 3 (by omega)
  have hwords : words t = words b := congrArg (· % 2 ^ 16) h0
  obtain ⟨hind, htsi, hreserved, houi, hclasses, hlisted, hnibble, hcode, hspecific⟩ := h.opening
  rw [← h0] at hind htsi hnibble hcode hspecific
  rw [← h2] at hreserved houi
  rw [← h3] at hclasses
  have hover := h.overreads
  refine ⟨by rwa [hwords], by rwa [hwords],
    ⟨hind, htsi, hreserved, houi, hclasses, hlisted, hnibble, hcode, hspecific⟩, by rw [h2]; exact h.unpadded, ?_⟩
  cases packetClass with
  | sinkCapabilitiesQuery | sinkCapabilitiesResponse =>
      rcases hover with hten | ⟨heleven, hcam⟩
      · exact .inl (hwords.le.trans hten)
      · exact .inr ⟨hwords.trans heleven, (hword 7 (by omega)).trans hcam⟩
  | _ => exact hover

theorem starved_take {information : InformationClassCode} {packetClass : PacketClassCode} (hge : 7 ≤ words b)
    (hfits : 4 * words b ≤ b.length) :
    Starved options (b.take (4 * words b)) information packetClass ↔
      Starved options b information packetClass := by
  have hword (k : Nat) (hk : k < words b) : word (b.take (4 * words b)) k = word b k :=
    word_take hfits (by omega)
  have hwords := words_take hge hfits
  constructor
  · intro h
    exact h.congr (by rwa [hwords]) fun k hk => (hword k (by rwa [hwords] at hk)).symm
  · intro h
    exact h.congr (List.length_take_of_le hfits).ge hword

theorem parseSinglePacket_starved (hlen : b.length = 4 * words b) (hge : 7 ≤ words b) :
    Raises (Incomplete n) (Parser.parseSinglePacket b ⟨options⟩) ↔
      (∃ information packetClass, Starved options b information packetClass) ∧ b.length = n := by
  rw [parseSinglePacket_raises (by rw [hlen]; exact Nat.mul_le_mul_left 4 hge)]
  constructor
  · rintro ⟨prologue, hform, hw, hchecks, hraises⟩
    obtain ⟨hpad, hover, hn⟩ := (decodeAs_raises (frame_of_words hform hw hlen hge)).mp hraises
    rw [← padBitCount_word hform hw] at hpad
    exact ⟨⟨_, _, hge, hlen.ge, (opening_iff hform hw).mpr hchecks, hpad, hover⟩, hn⟩
  · rintro ⟨⟨information, packetClass, h⟩, hn⟩
    obtain ⟨prologue, hform, hw, rfl, rfl⟩ := opening_prologue h.opening
    refine ⟨prologue, hform, hw, (opening_iff hform hw).mp h.opening, ?_⟩
    refine (decodeAs_raises (frame_of_words hform hw hlen hge)).mpr ⟨?_, h.overreads, hn⟩
    rw [← padBitCount_word hform hw]
    exact h.unpadded

theorem parsePacketPrefix_raises (h28 : 28 ≤ b.length) :
    Raises (Incomplete n) (Parser.parsePacketPrefixWithOptions b options) ↔
      (7 ≤ words b ∧ b.length < 4 * words b ∧ b.length = n) ∨
        (∃ information packetClass, Starved options b information packetClass) ∧ 4 * words b = n := by
  have hsmall : declaredSize b < prologueWords ↔ ¬7 ≤ words b := by
    rw [← declaredSize_toNat, ← prologueWords_le, not_not]
  have hnot (h : ¬(7 ≤ words b ∧ 4 * words b ≤ b.length)) :
      ¬∃ information packetClass, Starved options b information packetClass :=
    fun ⟨_, _, hstarved⟩ => h ⟨hstarved.words_ge, hstarved.complete⟩
  rw [parsePacketPrefix_eq options h28, declaredSize_toNat]
  by_cases hge : 7 ≤ words b
  · rw [if_neg (by rwa [hsmall, not_not])]
    by_cases hfits : b.length < 4 * words b
    · rw [if_pos hfits, raises_err]
      simp [Incomplete, hge, hfits, hnot fun h => Nat.not_lt.mpr h.2 hfits]
    · have hle := Nat.le_of_not_lt hfits
      have htake := List.length_take_of_le hle
      have hwords := words_take hge hle
      rw [if_neg hfits, raises_bind, or_iff_left (by rintro ⟨p, -, h⟩; exact raises_ok _ h),
        parseSinglePacket_starved (by rw [htake, hwords]) (by rwa [hwords]), htake]
      simp only [starved_take hge hle, hfits, false_and, and_false, false_or]
  · rw [if_pos (hsmall.mpr hge), raises_err]
    simp [Incomplete, hge, hnot fun h => hge h.1]

end Law

/-- The parser asks for more bytes only when there are more to come, but for the
commands that are too short for the words that they are to hold. -/
theorem truthful_iff_not_starved (options : ParseOptions) (b : List UInt8) :
    Truthful options b ↔ ¬∃ information packetClass, Starved options b information packetClass := by
  by_cases hshort : b.length < 28
  · have hparse : Parser.parsePacketPrefixWithOptions b options = .err (.inputTooShort prologueBytes b.length) :=
      if_pos hshort
    have hraises (n : Nat) :
        Raises (Incomplete n) (Parser.parsePacketPrefixWithOptions b options) ↔ b.length = n := by
      rw [hparse, raises_err]
      rfl
    refine iff_of_true ⟨iff_of_true ⟨_, (hraises _).mpr rfl⟩ (.inl hshort), fun n h => ((hraises n).mp h).symm⟩ ?_
    rintro ⟨information, packetClass, hge, hfits, -⟩
    omega
  · have hraises (n : Nat) : Raises (Incomplete n) (Parser.parsePacketPrefixWithOptions b options) ↔ _ :=
      parsePacketPrefix_raises (Nat.le_of_not_lt hshort)
    constructor
    · rintro ⟨hasks, -⟩ ⟨information, packetClass, h⟩
      have hcomplete := h.complete
      rcases hasks.mp ⟨_, (hraises _).mpr (.inr ⟨⟨information, packetClass, h⟩, rfl⟩)⟩ with hlt | ⟨-, hlt⟩
      · exact hshort hlt
      · omega
    · intro hnot
      simp only [hnot, false_and, or_false] at hraises
      refine ⟨?_, fun n h => ((hraises n).mp h).2.2.symm⟩
      simp only [hraises, exists_and_left, exists_eq', and_true, hshort, false_or]

def emptyQuery : List UInt8 :=
  [0x78, 0x60, 0x00, 0x07, 0, 0, 0, 1, 0x00, 0x6A, 0x62, 0x1E, 0x01, 0x01, 0x00, 0x07, 0, 0, 0, 0, 0, 0, 0, 0,
    0, 0, 0, 0]

theorem complete_query_asks : ¬∀ options b, Truthful options b := by
  intro h
  have hparse : Parser.parsePacketPrefixWithOptions emptyQuery {} = .err (.inputTooShort 32 28) := by decide
  have hasks := (h {} emptyQuery).asks.mp ⟨28, _, hparse, rfl⟩
  revert hasks
  decide

end Difi.Incompleteness
