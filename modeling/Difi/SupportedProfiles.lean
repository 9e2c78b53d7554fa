import Difi.Certification
import Difi.Profiles
import Difi.Diagnosis

namespace Difi.SupportedProfiles

open Machine Outcome Checks Fields Layout Decoding Acceptance Grammar Certification

section Strict

variable {payload : List UInt8}

theorem wordAtOffset_eq {k : Nat} (h : 4 * k + 4 ≤ payload.length) :
    wordAtOffset payload (4 * k) = some (wordAt payload k) := by
  have hbytes : (payload.drop (4 * k)).take 4 = toBeBytes (wordAt payload k) := by
    rw [drop_eq_toBeBytes_append payload (by omega)]
    rfl
  rw [wordAtOffset, getRange_some (by omega) h, Nat.add_sub_cancel_left, hbytes]
  simp only [toBeBytes, fromBeBytes_shifts]

/-- What the checks ask for before a payload is parsed. -/
structure Outline (payload : List UInt8) : Prop where
  length : payload.length = 4 * words payload
  words_ge : 7 ≤ words payload
  packetType : word payload 0 / 2 ^ 28 ∈ [1, 4, 5, 6, 7]
  classIdIndicator : word payload 0 / 2 ^ 27 % 2 = 1
  oui : word payload 2 % 2 ^ 24 = 0x6A621E

theorem validateStrict_eq (h : 28 ≤ payload.length) : validateStrictDifiPayload payload =
    if payload.length % 4 ≠ 0 then .err .lengthNotMultiple
    else if wordAt payload 0 >>> 28 ∉ ([0x1, 0x4, 0x5, 0x6, 0x7] : List UInt32) then
      .err (.unsupportedPacketType (wordAt payload 0 >>> 28))
    else if word payload 0 / 2 ^ 27 % 2 ≠ 1 then .err .missingClassId
    else if words payload * 4 ≠ payload.length then .err (.packetSize (words payload * 4) payload.length)
    else if wordAt payload 2 &&& 0x00FFFFFF ≠ difiCid then .err (.invalidOui (wordAt payload 2 &&& 0x00FFFFFF))
    else .ok () := by
  have hheader : headerWord payload = some (wordAt payload 0) := wordAtOffset_eq (k := 0) (by omega)
  have houi : payloadOui payload = some (wordAt payload 2 &&& 0x00FFFFFF) := by
    rw [payloadOui, wordAtOffset_eq (k := 2) (by omega)]
    rfl
  have hsize : (wordAt payload 0 &&& 0x0000FFFF).toNat = words payload := by
    rw [mask_toNat _ 0xFFFF (by decide), wordAt_toNat]
    rfl
  have hlt : words payload < 2 ^ 16 := Nat.mod_lt _ (by decide)
  have hbit : (wordAt payload 0 &&& 0x08000000).toNat = word payload 0 / 2 ^ 27 % 2 * 2 ^ 27 := by
    rw [← wordAt_toNat]
    exact (UInt32.toNat_and _ _).trans (and_shifted_mask (m := 1) 27 (by decide))
  have hindicator : (!(wordAt payload 0 &&& 0x08000000 != 0)) = true ↔ word payload 0 / 2 ^ 27 % 2 ≠ 1 := by
    rw [Bool.not_eq_true', bne_eq_false_iff_eq, ← UInt32.toNat_inj, hbit]
    simp only [UInt32.reduceToNat]
    omega
  unfold validateStrictDifiPayload
  rw [if_neg (by simp only [minDifiPacketBytes]; omega)]
  simp only [hheader, houi, hsize, okOr_some, expect_ok, ok_bind, hindicator]
  rw [mulUsize_ok (by simp only [usizeLimit]; omega), ok_bind]

theorem validateStrict_eq_ok : validateStrictDifiPayload payload = .ok () ↔ Outline payload := by
  by_cases h28 : 28 ≤ payload.length
  · have htype : wordAt payload 0 >>> 28 ∈ ([0x1, 0x4, 0x5, 0x6, 0x7] : List UInt32) ↔
        word payload 0 / 2 ^ 28 ∈ [1, 4, 5, 6, 7] := by
      have hshift : (wordAt payload 0 >>> 28).toNat = word payload 0 / 2 ^ 28 := by
        rw [← wordAt_toNat]
        simp only [UInt32.toNat_shiftRight, UInt32.reduceToNat, Nat.reduceMod, Nat.shiftRight_eq_div_pow]
      simp only [List.mem_cons, List.not_mem_nil, or_false, ← UInt32.toNat_inj, hshift, UInt32.reduceToNat]
    have hcid : wordAt payload 2 &&& 0x00FFFFFF = difiCid ↔ word payload 2 % 2 ^ 24 = 0x6A621E := by
      rw [← UInt32.toNat_inj, mask_toNat _ 0x00FFFFFF (by decide), wordAt_toNat]
      rfl
    rw [validateStrict_eq h28]
    simp only [ite_err_eq_ok, not_not, htype, hcid, and_true]
    constructor
    · rintro ⟨hmultiple, htype, hindicator, hsize, houi⟩
      exact ⟨by omega, by omega, htype, hindicator, houi⟩
    · rintro ⟨hlen, hge, htype, hindicator, houi⟩
      exact ⟨by omega, htype, hindicator, by omega, houi⟩
  · have hshort : payload.length < minDifiPacketBytes := Nat.lt_of_not_le h28
    rw [validateStrictDifiPayload, if_pos hshort]
    refine iff_of_false (by simp) fun h => ?_
    have hlen := h.length
    have hge := h.words_ge
    omega

theorem validateStrict_safe : Safe (validateStrictDifiPayload payload) := by
  by_cases h28 : 28 ≤ payload.length
  · rw [validateStrict_eq h28]
    exact safe_ite (safe_err _) (safe_ite (safe_err _) (safe_ite (safe_err _) (safe_ite (safe_err _)
      (safe_ite (safe_err _) (safe_ok ())))))
  · have hshort : payload.length < minDifiPacketBytes := Nat.lt_of_not_le h28
    rw [validateStrictDifiPayload, if_pos hshort]
    exact safe_err _

theorem outline_of_sentence {options : ParseOptions} {i : InformationClassCode} {c : PacketClassCode}
    (h : Sentence options payload i c) : Outline payload := by
  refine ⟨h.length, h.words_ge, ?_, h.classIdIndicator, h.oui⟩
  obtain ⟨t, ht⟩ := packetType_of_nibble h.packetType
  rw [← ht]
  cases t <;> decide

end Strict

section Profiles

variable {payload : List UInt8}

/-- The bytes are a well-formed packet whose fields agree with one another; what a
standard has to say about it is left open. -/
structure Framed (payload : List UInt8) (p : Packet) : Prop where
  wellFormed : WellFormed p
  dispatched : Dispatched p
  fields : Profiles.FieldsAgree p
  bytes : payload = encode p

theorem parse_eq_ok {options : ParseOptions} {p : Packet} :
    Parser.parsePacketExactWithOptions payload options = .ok p ↔ Framed payload p ∧
      Profiles.Admitted options p.prologue.header.packetType p.prologue.classId := by
  rw [parsePacketExact_eq_ok]
  constructor
  · rintro ⟨⟨hwell, hd, hverdict⟩, hbytes⟩
    obtain ⟨hfields, hadmitted⟩ := (Profiles.verdict_iff hwell hd).mp hverdict
    exact ⟨⟨hwell, hd, hfields, hbytes⟩, hadmitted⟩
  · rintro ⟨⟨hwell, hd, hfields, hbytes⟩, hadmitted⟩
    exact ⟨⟨hwell, hd, (Profiles.verdict_iff hwell hd).mpr ⟨hfields, hadmitted⟩⟩, hbytes⟩

theorem outline_of_parsed {options : ParseOptions} {p : Packet}
    (h : Parser.parsePacketExactWithOptions payload options = .ok p) : Outline payload := by
  obtain ⟨hsize, prologue, hform, hw, hrest⟩ := exact_iff.mp ⟨p, h⟩
  exact outline_of_sentence ((sentence_iff hform hw).mpr ⟨hsize, hrest⟩)

theorem code_eq_five {t : PacketType} : t.code.toNat = 5 ↔ t = .versionWithStreamId := by
  cases t <;> decide

/-- The strict form of the middle standard and the first standard take nothing
that the two profiles before them do not. -/
theorem parse_shadowed {p : Packet} :
    (Parser.parsePacketExactWithOptions payload ⟨.v1_2_1, .strict⟩ = .ok p →
      Parser.parsePacketExactWithOptions payload {} = .ok p) ∧
    (Parser.parsePacketExactWithOptions payload ⟨.v1_1, .strict⟩ = .ok p →
      Parser.parsePacketExactWithOptions payload ⟨.v1_2_1, .legacyVersionPacketType⟩ = .ok p) := by
  simp only [parse_eq_ok]
  refine ⟨fun h => ⟨h.1, ?_⟩, fun h => ⟨h.1, ?_⟩⟩
  · exact (Profiles.admitted_strict.mp h.2).1
  · exact (Profiles.admitted_first.mp h.2).1

/-- What the legacy mode takes beyond the current standard are version packets
of the old packet type. -/
theorem parse_legacy {p : Packet} :
    Parser.parsePacketExactWithOptions payload ⟨.v1_2_1, .legacyVersionPacketType⟩ = .ok p ↔
      Parser.parsePacketExactWithOptions payload ⟨.v1_2_1, .strict⟩ = .ok p ∨
        (Parser.parsePacketExactWithOptions payload ⟨.v1_1, .strict⟩ = .ok p ∧
          p.prologue.header.packetType = .versionWithStreamId) := by
  simp only [parse_eq_ok, Profiles.admitted_legacy (m := .strict), code_eq_five]
  constructor
  · rintro ⟨hframed, hstrict | ⟨hfirst, htype⟩⟩
    · exact .inl ⟨hframed, hstrict⟩
    · exact .inr ⟨⟨hframed, hfirst⟩, htype⟩
  · rintro (⟨hframed, hstrict⟩ | ⟨⟨hframed, hfirst⟩, htype⟩)
    · exact ⟨hframed, .inl hstrict⟩
    · exact ⟨hframed, .inr ⟨hfirst, htype⟩⟩

def assess (payload : List UInt8) : Outcome PayloadError ParsedPayload := do
  (validateStrictDifiPayload payload).mapErr .strict
  (parseWithSupportedProfiles payload).mapErr .unparsed

theorem tryProfiles_safe (profiles : List (String × ParseOptions)) (errors : List (String × ParseError)) :
    Safe (tryProfiles payload profiles errors) := by
  induction profiles generalizing errors with
  | nil => exact safe_err _
  | cons profile rest ih =>
      rw [tryProfiles]
      cases h : Parser.parsePacketExactWithOptions payload profile.2 with
      | ok packet => exact safe_ok _
      | err e => exact ih _
      | panic => exact absurd h BodyFaults.parsePacketExact_faults.safe

theorem assess_safe : Safe (assess payload) :=
  (validateStrict_safe.mapErr _).bind fun _ _ => (tryProfiles_safe _ _).mapErr _

theorem parse_unique {o₁ o₂ : ParseOptions} {p q : Packet}
    (hp : Parser.parsePacketExactWithOptions payload o₁ = .ok p)
    (hq : Parser.parsePacketExactWithOptions payload o₂ = .ok q) : p = q := by
  have hleft {o : ParseOptions} {p : Packet} (h : Parser.parsePacketExactWithOptions payload o = .ok p) :
      Parser.parsePacketPrefixWithOptions payload o = .ok (p, []) := by
    rw [parsePacketPrefix_eq_ok, List.append_nil]
    exact parsePacketExact_eq_ok.mp h
  exact congrArg Prod.fst (Profiles.parsePacketPrefix_unique (hleft hp) (hleft hq))

theorem parse_err {options : ParseOptions} (h : ∀ p, Parser.parsePacketExactWithOptions payload options ≠ .ok p) :
    ∃ e, Parser.parsePacketExactWithOptions payload options = .err e := by
  cases hx : Parser.parsePacketExactWithOptions payload options with
  | ok p => exact absurd hx (h p)
  | err e => exact ⟨e, rfl⟩
  | panic => exact absurd hx BodyFaults.parsePacketExact_faults.safe

theorem not_version {p : Packet} (h : Parser.parsePacketExactWithOptions payload {} = .ok p) :
    p.prologue.header.packetType ≠ .versionWithStreamId := by
  intro htype
  have hnibble := (parse_eq_ok.mp h).2.nibble
  rw [htype] at hnibble
  have hclass := Profiles.typeNibbles_five hnibble
  rw [hclass] at hnibble
  exact absurd hnibble (by decide)

theorem parseWithSupportedProfiles_eq_ok {parsed : ParsedPayload} :
    parseWithSupportedProfiles payload = .ok parsed ↔
      (parsed.profile = "DIFI 1.3.0 strict" ∧
        Parser.parsePacketExactWithOptions payload {} = .ok parsed.packet) ∨
      (parsed.profile = "DIFI 1.2.1 legacy version packet type" ∧
        parsed.packet.prologue.header.packetType = .versionWithStreamId ∧
        Parser.parsePacketExactWithOptions payload ⟨.v1_2_1, .legacyVersionPacketType⟩ = .ok parsed.packet) := by
  obtain ⟨label, packet⟩ := parsed
  unfold parseWithSupportedProfiles
  by_cases hfirst : ∃ p, Parser.parsePacketExactWithOptions payload {} = .ok p
  · obtain ⟨p, hp⟩ := hfirst
    have hnot : ¬(packet.prologue.header.packetType = .versionWithStreamId ∧
        Parser.parsePacketExactWithOptions payload ⟨.v1_2_1, .legacyVersionPacketType⟩ = .ok packet) := by
      rintro ⟨htype, hq⟩
      rw [← parse_unique hp hq] at htype
      exact not_version hp htype
    simp only [profiles, tryProfiles, hp, hnot, and_false, or_false, ok.injEq, ParsedPayload.mk.injEq]
    exact and_congr_left fun _ => eq_comm
  · obtain ⟨e₁, he₁⟩ := parse_err fun p hp => hfirst ⟨p, hp⟩
    obtain ⟨e₂, he₂⟩ := parse_err fun p hp => hfirst ⟨p, parse_shadowed.1 hp⟩
    by_cases hlegacy : ∃ q, Parser.parsePacketExactWithOptions payload ⟨.v1_2_1, .legacyVersionPacketType⟩ = .ok q
    · obtain ⟨q, hq⟩ := hlegacy
      have htype : q.prologue.header.packetType = .versionWithStreamId := by
        obtain hstrict | ⟨-, htype⟩ := parse_legacy.mp hq
        · exact absurd ⟨q, parse_shadowed.1 hstrict⟩ hfirst
        · exact htype
      simp only [profiles, tryProfiles, he₁, he₂, hq, ok.injEq, ParsedPayload.mk.injEq, reduceCtorEq, and_false,
        false_or]
      constructor
      · rintro ⟨rfl, rfl⟩
        exact ⟨rfl, htype, rfl⟩
      · rintro ⟨rfl, -, rfl⟩
        exact ⟨rfl, rfl⟩
    · obtain ⟨e₃, he₃⟩ := parse_err fun p hp => hlegacy ⟨p, hp⟩
      obtain ⟨e₄, he₄⟩ := parse_err fun p hp => hlegacy ⟨p, parse_shadowed.2 hp⟩
      simp only [profiles, tryProfiles, he₁, he₂, he₃, he₄, reduceCtorEq, and_false, or_false]

theorem validateStrict_of_reported {parsed : ParsedPayload} (h : parseWithSupportedProfiles payload = .ok parsed) :
    validateStrictDifiPayload payload = .ok () := by
  rw [validateStrict_eq_ok]
  obtain ⟨-, hp⟩ | ⟨-, -, hp⟩ := parseWithSupportedProfiles_eq_ok.mp h
  · exact outline_of_parsed hp
  · exact outline_of_parsed hp

/-- The payloads that a supported profile takes. -/
def Conforms (payload : List UInt8) : Prop :=
  ∃ profile ∈ profiles, ∃ p, Parser.parsePacketExactWithOptions payload profile.2 = .ok p

theorem assess_eq_ok {parsed : ParsedPayload} :
    assess payload = .ok parsed ↔ parseWithSupportedProfiles payload = .ok parsed := by
  rw [assess, check_eq_ok, mapErr_eq_ok, mapErr_eq_ok]
  exact and_iff_right_of_imp validateStrict_of_reported

theorem tryProfiles_conforms (profiles : List (String × ParseOptions)) (errors : List (String × ParseError)) :
    (∃ parsed, tryProfiles payload profiles errors = .ok parsed) ↔
      ∃ profile ∈ profiles, ∃ p, Parser.parsePacketExactWithOptions payload profile.2 = .ok p := by
  induction profiles generalizing errors with
  | nil => simp [tryProfiles]
  | cons profile rest ih =>
      rw [tryProfiles, List.exists_mem_cons_iff]
      cases h : Parser.parsePacketExactWithOptions payload profile.2 with
      | ok packet => exact iff_of_true ⟨_, rfl⟩ (.inl ⟨packet, rfl⟩)
      | err e =>
          rw [or_iff_right (by simp)]
          exact ih _
      | panic => exact absurd h BodyFaults.parsePacketExact_faults.safe

theorem assess_conforms : (∃ parsed, assess payload = .ok parsed) ↔ Conforms payload := by
  simp only [assess_eq_ok]
  exact tryProfiles_conforms profiles []

/-- Of the four profiles only the first and the third are ever reported, the third
for the version packets of the old packet type; and no payload that one of them
parses fails the checks made before. -/
theorem profile_reported (payload : List UInt8) (parsed : ParsedPayload) :
    (parseWithSupportedProfiles payload = .ok parsed ↔
      (parsed.profile = "DIFI 1.3.0 strict" ∧
        Parser.parsePacketExactWithOptions payload {} = .ok parsed.packet) ∨
      (parsed.profile = "DIFI 1.2.1 legacy version packet type" ∧
        parsed.packet.prologue.header.packetType = .versionWithStreamId ∧
        Parser.parsePacketExactWithOptions payload ⟨.v1_2_1, .legacyVersionPacketType⟩ = .ok parsed.packet)) ∧
      (parseWithSupportedProfiles payload = .ok parsed → validateStrictDifiPayload payload = .ok ()) :=
  ⟨parseWithSupportedProfiles_eq_ok, validateStrict_of_reported⟩

end Profiles

end Difi.SupportedProfiles
