import Difi.BodyFaults

namespace Difi.Diagnosis

open Machine Outcome Checks Fields Bodies Layout Decoding Acceptance Grammar Faults BodyFaults

section Sentences

variable {options : ParseOptions} {b : List UInt8} {i : InformationClassCode} {c : PacketClassCode}

theorem packetClass_unique {d : PacketClassCode} (h : Sentence options b i c) (hd : ClassAt b d) : d = c := by
  have hlow := c.raw.toNat_lt
  have hraw : d.raw = c.raw := by
    rw [← UInt16.toNat_inj, hd, h.classes]
    omega
  have hok := PacketClassCode.tryFrom_eq_ok.mpr hraw.symm
  rw [PacketClassCode.tryFrom_eq_ok.mpr rfl] at hok
  exact (Outcome.ok.inj hok).symm

theorem informationClass_unique {j : InformationClassCode} (h : Sentence options b i c)
    (hj : InformationAt b j) : j = i := by
  have hlow := c.raw.toNat_lt
  have hraw : j.raw = i.raw := by
    rw [← UInt16.toNat_inj, hj, h.classes]
    omega
  have hok := InformationClassCode.tryFrom_eq_ok.mpr hraw.symm
  rw [InformationClassCode.tryFrom_eq_ok.mpr rfl] at hok
  exact (Outcome.ok.inj hok).symm

theorem class_mem {classes : List PacketClassCode} (h : Sentence options b i c)
    (hclasses : ∃ d ∈ classes, ClassAt b d) : c ∈ classes := by
  obtain ⟨d, hmem, hd⟩ := hclasses
  rw [← packetClass_unique h hd]
  exact hmem

theorem mem_contexts (h : c ∈ contextClasses) :
    c = .standardFlowSignalContext ∨ c = .sampleCountSignalContext := by
  simpa [contextClasses] using h

theorem mem_timing (h : c ∈ timingClasses) :
    c = .sampleCountTimingFlowControl ∨ c = .realTimeTimingFlowControl := by
  simpa [timingClasses] using h

theorem fixed_holds (f : Fixed) (h : BodyRule b c) (hclass : c ∈ (f.row b).classes)
    (happlies : (f.row b).applies) : (f.row b).read = (f.row b).expected := by
  cases f with
  | timingCam | timingCif0 | timingCif1 =>
      obtain rfl | rfl := mem_timing hclass
      all_goals
        simp only [BodyRule, Fixed.row] at h ⊢
        omega
  | statusFlags size =>
      obtain rfl := List.mem_singleton.mp hclass
      simp only [BodyRule, Fixed.row] at h happlies ⊢
      split_ifs <;> omega
  | _ =>
      obtain rfl := List.mem_singleton.mp hclass
      simp only [BodyRule, Fixed.row, Short] at h happlies ⊢
      omega

theorem hertz_holds {field : String} {classes : List PacketClassCode} {k : Nat}
    (hfield : (field, classes, words b, k) ∈ hertzFields) (h : BodyRule b c) (hclass : c ∈ classes) :
    double b k % 2 ^ 20 = 0 := by
  simp only [hertzFields, List.mem_cons, Prod.mk.injEq, List.not_mem_nil, or_false] at hfield
  rcases hfield with ⟨-, rfl, hwords, rfl⟩ | ⟨-, rfl, hwords, rfl⟩ | ⟨-, rfl, hwords, rfl⟩ |
    ⟨-, rfl, hwords, rfl⟩ | ⟨-, rfl, hwords, rfl⟩ | ⟨-, rfl, hwords, rfl⟩ | ⟨-, rfl, hwords, rfl⟩ |
    ⟨-, rfl, hwords, rfl⟩
  case inr.inr.inr.inr.inr.inl =>
      obtain rfl | rfl := mem_timing hclass
      all_goals
        simp only [BodyRule] at h
        omega
  case inr.inr.inr.inr.inr.inr.inl | inr.inr.inr.inr.inr.inr.inr =>
      obtain rfl := List.mem_singleton.mp hclass
      simp only [BodyRule] at h
      omega
  all_goals
    obtain rfl | rfl := mem_contexts hclass
    all_goals
      simp only [BodyRule] at h
      omega

theorem not_missized (h : BodyRule b c) (expected : Nat) : ¬Missized b expected c := by
  cases c with
  | standardFlowSignalData | sampleCountSignalData | statusReport => exact id
  | _ =>
      simp only [BodyRule, Missized, Short] at h ⊢
      omega

theorem mem_words {w : UInt32} {ws : List UInt32} (h : w.toNat ∈ ws.map UInt32.toNat) : w ∈ ws := by
  obtain ⟨v, hv, hw⟩ := List.mem_map.mp h
  rw [← UInt32.toNat_inj.mp hw]
  exact hv

theorem typeSpecific_le {n : Nat} (h : n ∈ typeNibbles options c) (hn : n ∈ [4, 5]) : typeSpecific i c ≤ 1 := by
  cases c with
  | sinkCapabilitiesResponse =>
      obtain rfl := List.mem_singleton.mp h
      exact absurd hn (by decide)
  | standardFlowSignalContext => cases i <;> decide
  | _ => simp [typeSpecific]

theorem sentence_faultless (h : Sentence options b i c) (e : ParseError) : ¬PacketFault options b e := by
  have hclass {d : PacketClassCode} (hd : ClassAt b d) : d = c := packetClass_unique h hd
  intro hfault
  cases e with
  | inputTooShort least actual =>
      obtain ⟨hactual, hless, hleast, hd | hd⟩ := hfault
      all_goals
        have hbody := h.body
        rw [← hclass hd] at hbody
        have hlen := h.length
        obtain ⟨-, ⟨hwords, -⟩ | ⟨hwords, -⟩⟩ := hbody
        all_goals omega
  | packetSizeTooSmall | packetTruncated | trailingBytes | invalidTsiForPacketClass => exact hfault
  | unsupportedPacketType value =>
      obtain ⟨t, ht⟩ := packetType_of_nibble h.packetType
      exact hfault.2 t (UInt8.toNat_inj.mp (hfault.1.trans ht.symm))
  | missingClassId => 
      have hbit := h.classIdIndicator
      rw [hfault] at hbit
      cases hbit
  | reservedBitsNonZero field bits =>
      obtain ⟨hne, ⟨-, hbits⟩ | ⟨-, htype, hbits⟩ | ⟨-, hclasses, hbits⟩⟩ := hfault
      · exact hne (hbits.trans h.reserved)
      · have hle := typeSpecific_le (i := i) h.packetType htype
        rw [← h.typeSpecificBits] at hle
        omega
      · have hbody := h.body
        obtain rfl | rfl := mem_timing (class_mem h hclasses)
        all_goals
          simp only [BodyRule] at hbody
          omega
  | invalidOui actual => exact hfault.2 (UInt32.toNat_inj.mp (hfault.1.trans h.oui))
  | invalidTsi value =>
      obtain ⟨t, ht⟩ := tsi_of_code h.tsi
      exact hfault.2 t (UInt8.toNat_inj.mp (hfault.1.trans ht.symm))
  | invalidTsf value =>
      obtain ⟨t, ht⟩ := tsf_of_code h.tsf
      exact hfault.2 t (UInt8.toNat_inj.mp (hfault.1.trans ht.symm))
  | unknownInformationClass value =>
      refine hfault.2 i (UInt16.toNat_inj.mp (hfault.1.trans ?_))
      have hlow := c.raw.toNat_lt
      rw [h.classes]
      omega
  | unknownPacketClass value =>
      refine hfault.2 c (UInt16.toNat_inj.mp (hfault.1.trans ?_))
      have hlow := c.raw.toNat_lt
      rw [h.classes]
      omega
  | packetTypeNotAvailableInStandard standard t =>
      refine hfault.2.2 i c h.listed ?_
      rw [hfault.2.1]
      exact h.packetType
  | packetClassNotAvailableInStandard standard d =>
      have hlisted := hfault.2.2 i
      rw [hclass hfault.2.1, h.listed] at hlisted
      cases hlisted
  | packetClassNotInInformationClass j d =>
      have hlisted := hfault.2.2
      rw [informationClass_unique h hfault.1, hclass hfault.2.1, h.listed] at hlisted
      cases hlisted
  | packetTypeClassMismatch t d =>
      refine hfault.2.2 ?_
      rw [hclass hfault.2.1, hfault.1]
      exact h.packetType
  | invalidTsfForPacketClass d expected actual =>
      obtain ⟨hd, hcodes, hactual, hne⟩ := hfault
      have hcode := h.tsf
      rw [← hclass hd, hcodes, ← hactual, List.mem_singleton] at hcode
      cases actual <;> cases expected <;> first | exact hne rfl | cases hcode
  | invalidHeaderBits field expected actual =>
      obtain ⟨t, j, d, -, hj, hd, -, hexpected, hactual, hne⟩ := hfault
      refine hne (UInt8.toNat_inj.mp ?_)
      rw [hactual, hexpected, h.typeSpecificBits, hclass hd, informationClass_unique h hj]
  | invalidPacketSize d expected actual =>
      obtain ⟨hd, -, hmissized⟩ := hfault
      rw [hclass hd] at hmissized
      exact not_missized h.body _ hmissized
  | invalidPacketSizeSet d expected actual =>
      obtain ⟨rfl, hd, rfl, hactual, hne⟩ := hfault
      have hbody := h.body
      rw [← hclass hd] at hbody
      have hsize (k : UInt16) (hk : words b = k.toNat) : actual = k := UInt16.toNat_inj.mp (hactual.trans hk)
      obtain ⟨-, -, -, ⟨hwords, -⟩ | ⟨hwords, -⟩ | ⟨hwords, -⟩⟩ := hbody
      · exact hne (by rw [hsize 15 hwords]; decide)
      · exact hne (by rw [hsize 17 hwords]; decide)
      · exact hne (by rw [hsize 21 hwords]; decide)
  | padBitsNotAllowed j d n =>
      obtain ⟨hj, hd, hn, hne, hdenied⟩ := hfault
      rw [hclass hd, informationClass_unique h hj] at hdenied
      obtain hzero | ⟨hallowed, -⟩ := h.padding
      · exact hne (UInt8.toNat_inj.mp (hn.trans hzero))
      · exact hdenied hallowed
  | invalidPadding n payloadBits =>
      obtain ⟨hn, rfl, hless⟩ := hfault
      obtain hzero | ⟨-, hfits, -⟩ := h.padding
      · omega
      · omega
  | nonZeroPaddingBits =>
      obtain hzero | ⟨-, -, hdvd⟩ := h.padding
      · refine hfault ?_
        rw [hzero]
        exact one_dvd _
      · exact hfault hdvd
  | invalidFieldValue field expected actual =>
      obtain ⟨f, -, hclasses, happlies, hexpected, hactual, hne⟩ := hfault
      have hsame := fixed_holds f h.body (class_mem h hclasses) happlies
      exact hne (UInt32.toNat_inj.mp (by rw [hactual, hexpected, hsame]))
  | invalidFieldValueSet field actual =>
      obtain ⟨hactual, ⟨-, hclasses, hne⟩ | ⟨-, hd, hne⟩⟩ := hfault
      · have hcif : word b 7 ∈ [0xFBB98000, 0x7BB98000] := by
          have hbody := h.body
          obtain rfl | rfl := mem_contexts (class_mem h hclasses)
          all_goals exact hbody.2.1
        refine hne (mem_words ?_)
        rw [hactual]
        exact hcif
      · have hcif : word b 7 ∈ [0x80000002, 0x00000002] := by
          have hbody := h.body
          rw [← hclass hd] at hbody
          exact hbody.2.1
        refine hne (mem_words ?_)
        rw [hactual]
        exact hcif
  | invalidPayloadFormat word0 word1 =>
      obtain ⟨hclasses, h0, h1, hbad⟩ := hfault
      have hbody := h.body
      rw [h0, h1] at hbad
      obtain rfl | rfl := mem_contexts (class_mem h hclasses)
      all_goals
        obtain ⟨-, -, -, -, -, -, -, hformat, hzero⟩ := hbody
        exact hbad ⟨hformat, hzero⟩
  | fractionalHzNotAllowed field raw =>
      obtain ⟨hne, classes, k, hfield, hclasses, hraw⟩ := hfault
      rw [hraw] at hne
      exact hne (hertz_holds hfield h.body (class_mem h hclasses))

end Sentences

theorem faultless {input : List UInt8} {options : ParseOptions} {i : InformationClassCode} {c : PacketClassCode}
    (h : Sentence options input i c) (e : ParseError) : ¬Fault options input e := by
  have hlen := h.length
  have hge := h.words_ge
  have htake : input.take (4 * words input) = input := List.take_of_length_le (by omega)
  have hpacket : ¬PacketFault options (input.take (4 * words input)) e := by
    rw [htake]
    exact sentence_faultless h e
  intro hfault
  cases e with
  | packetSizeTooSmall size =>
      obtain ⟨hsize, hsmall⟩ := hfault
      omega
  | packetTruncated needed actual =>
      obtain ⟨rfl, rfl, hless⟩ := hfault
      omega
  | trailingBytes trailing =>
      obtain ⟨hpos, htrailing⟩ := hfault
      omega
  | inputTooShort least actual =>
      obtain ⟨rfl, rfl, hless⟩ | hfault := hfault
      · omega
      · exact hpacket hfault
  | _ => exact hpacket hfault

/-- The exact parser turns down the inputs that have a fault and no others, and
the error that it gives tells of one of their faults. -/
theorem errors_are_faults (input : List UInt8) (options : ParseOptions) :
    (∀ e, Parser.parsePacketExactWithOptions input options = .err e → Fault options input e) ∧
      ((∃ p, Parser.parsePacketExactWithOptions input options = .ok p) ↔ ∀ e, ¬Fault options input e) := by
  refine ⟨parsePacketExact_faults.err, ?_, fun hnone => ?_⟩
  · intro hok e
    obtain ⟨hsize, prologue, hform, hw, h⟩ := exact_iff.mp hok
    exact faultless ((sentence_iff hform hw).mpr ⟨hsize, h⟩) e
  · cases hx : Parser.parsePacketExactWithOptions input options with
    | ok p => exact ⟨p, rfl⟩
    | err e => exact absurd (parsePacketExact_faults.err e hx) (hnone e)
    | panic => exact absurd hx parsePacketExact_faults.safe

end Difi.Diagnosis
