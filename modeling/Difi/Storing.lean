import Difi.Preparation

namespace Difi.Storing

open Machine Checks Fields Bodies Layout Decoding Acceptance Preparation Difi.Writer

theorem writeU32Be_emits {k : Nat} {w : UInt32} (hk : k < 2 ^ 32) :
    Mut.Emits (writeU32Be k w) (4 * k) (toBeBytes w) := by
  have hstart : (mulUsize k wordBytes : WriteResult Nat) = .ok (4 * k) := by
    rw [mulUsize_ok (by simp only [wordBytes, usizeLimit]; omega), wordBytes, Nat.mul_comm]
  have hstop : (addUsize (4 * k) wordBytes : WriteResult Nat) = .ok (4 * k + 4) :=
    addUsize_ok (by simp only [wordBytes, usizeLimit]; omega)
  exact .lift_bind hstart (.lift_bind hstop (.copyInto rfl))

theorem words_then {k : Nat} {v w : List UInt32} {tail : List UInt8} {m : Write Unit} {r : Unit → Write Unit}
    (hm : Mut.Emits m (4 * k) (flat v)) (hr : Mut.Emits (r ()) (4 * (k + v.length)) (flat w ++ tail)) :
    Mut.Emits (m >>= r) (4 * k) (flat (v ++ w) ++ tail) := by
  rw [flat_append, List.append_assoc]
  refine hm.bind ?_
  rwa [flat_length, ← Nat.mul_add]

theorem word_then {k : Nat} {w : UInt32} {ws : List UInt32} {tail : List UInt8} {r : Unit → Write Unit}
    (hk : k < 2 ^ 32) (hr : Mut.Emits (r ()) (4 * (k + 1)) (flat ws ++ tail)) :
    Mut.Emits (writeU32Be k w >>= r) (4 * k) (flat (w :: ws) ++ tail) := by
  rw [flat_cons, List.append_assoc]
  exact (writeU32Be_emits hk).bind hr

theorem word_last {k : Nat} {w : UInt32} (hk : k < 2 ^ 32) :
    Mut.Emits (writeU32Be k w) (4 * k) (flat [w]) := by
  rw [flat_cons, flat_nil, List.append_nil]
  exact writeU32Be_emits hk

theorem writeU64Be_emits {k : Nat} {v : UInt64} (hk : k < 2 ^ 31) :
    Mut.Emits (writeU64Be k v) (4 * k) (flat [highWord v, lowWord v]) := by
  have hlow : (addUsize k 1 : WriteResult Nat) = .ok (k + 1) :=
    addUsize_ok (by simp only [usizeLimit]; omega)
  refine (List.append_nil (flat [highWord v, lowWord v])) ▸ word_then (by omega) (.lift_bind hlow ?_)
  rw [List.append_nil]
  exact word_last (by omega)

theorem double_then {k : Nat} {v : UInt64} {ws : List UInt32} {tail : List UInt8} {r : Unit → Write Unit}
    (hk : k < 2 ^ 31) (hr : Mut.Emits (r ()) (4 * (k + 2)) (flat ws ++ tail)) :
    Mut.Emits (writeU64Be k v >>= r) (4 * k) (flat (highWord v :: lowWord v :: ws) ++ tail) :=
  words_then (writeU64Be_emits hk) hr

theorem writeCommon_emits (c : CommandCommon) :
    Mut.Emits (writeCommon c) 28 (flat (commonLayout c)) := by
  rw [← List.append_nil (flat _)]
  refine word_then (k := 7) (by decide) ?_
  iterate 2 refine word_then (by decide) ?_
  rw [List.append_nil]
  exact word_last (by decide)

theorem common_then {c : CommandCommon} {ws : List UInt32} {tail : List UInt8} {r : Unit → Write Unit}
    (hr : Mut.Emits (r ()) 44 (flat ws ++ tail)) :
    Mut.Emits (writeCommon c >>= r) 28 (flat (commonLayout c ++ ws) ++ tail) :=
  words_then (k := 7) (writeCommon_emits c) hr

theorem writePrologue_emits {p : Prologue} (h : PrologueForm p) :
    Mut.Emits (writePrologue p (planOf p)) 0 (flat (prologueLayout p)) := by
  have hword : (headerWord (planOf p).packetType (planOf p).typeSpecificBits p.header.tsi p.header.tsf
      p.header.sequence (planOf p).packetSizeWords).expect = (.ok p.header.raw : WriteResult UInt32) :=
    congrArg Outcome.expect (h.header.headerWord h.classIdIndicator)
  refine .lift_bind hword ?_
  rw [← List.append_nil (flat _)]
  refine word_then (k := 0) (by decide) ?_
  iterate 4 refine word_then (by decide) ?_
  rw [List.append_nil]
  exact writeU64Be_emits (by decide)

theorem writeSignalContext_emits (p : SignalContextPacket) :
    Mut.Emits (writeSignalContext p) 28 (flat (signalContextLayout p)) := by
  rw [← List.append_nil (flat _)]
  refine word_then (k := 7) (by decide) (word_then (by decide) ?_)
  iterate 4 refine double_then (by decide) ?_
  iterate 2 refine word_then (by decide) ?_
  iterate 2 refine double_then (by decide) ?_
  iterate 3 refine word_then (by decide) ?_
  rw [List.append_nil]
  exact word_last (by decide)

theorem writeVersionContext_emits (p : VersionContextPacket) :
    Mut.Emits (writeVersionContext p) 28 (flat (versionContextLayout p)) := by
  rw [← List.append_nil (flat _)]
  refine word_then (k := 7) (by decide) ?_
  iterate 2 refine word_then (by decide) ?_
  rw [List.append_nil]
  exact word_last (by decide)

theorem writeTimingFlowControl_emits (p : TimingFlowControlPacket) :
    Mut.Emits (writeTimingFlowControl p) 28 (flat (timingFlowControlLayout p)) := by
  rw [← List.append_nil (flat _)]
  refine common_then (word_then (k := 11) (by decide) ?_)
  iterate 2 refine word_then (by decide) ?_
  iterate 3 refine double_then (by decide) ?_
  rw [List.append_nil]
  exact word_last (by decide)

theorem writeSinkCapabilitiesQuery_emits {p : SinkCapabilitiesQueryPacket}
    (h : SinkCapabilitiesQueryForm p) :
    Mut.Emits (writeSinkCapabilitiesQuery p) 28 (flat (sinkCapabilitiesQueryLayout p)) := by
  obtain ⟨-, -, hform⟩ := h
  obtain ⟨prologue, common, form, cif0, cif1, integer, fractional⟩ := p
  rw [← List.append_nil (flat _)]
  cases form with
  | short =>
      obtain ⟨-, -, hcif1, hint, hfrac⟩ := hform
      obtain ⟨i, rfl⟩ := Option.isSome_iff_exists.mp hint
      obtain ⟨f, rfl⟩ := Option.isSome_iff_exists.mp hfrac
      subst hcif1
      refine common_then (word_then (k := 11) (by decide) (.lift_bind rfl ?_))
      refine word_then (by decide) (.lift_bind rfl ?_)
      rw [List.append_nil]
      exact writeU64Be_emits (by decide)
  | long =>
      obtain ⟨-, -, hcif1, hint, hfrac⟩ := hform
      subst hcif1 hint hfrac
      refine common_then (word_then (k := 11) (by decide) (.lift_bind rfl ?_))
      rw [List.append_nil]
      exact word_last (by decide)

theorem writeSinkCapabilitiesResponse_emits {p : SinkCapabilitiesResponsePacket}
    (h : SinkCapabilitiesResponseForm p) :
    Mut.Emits (writeSinkCapabilitiesResponse p) 28
      (flat (sinkCapabilitiesResponseLayout p) ++ p.capabilityTable) := by
  obtain ⟨-, -, hform⟩ := h
  obtain ⟨prologue, common, form, cif0, cif1, ci, cf, si, sf, table⟩ := p
  cases form with
  | short =>
      obtain ⟨-, -, hcif1, hci, hcf, hsi, hsf, htable⟩ := hform
      obtain ⟨ci, rfl⟩ := Option.isSome_iff_exists.mp hci
      obtain ⟨cf, rfl⟩ := Option.isSome_iff_exists.mp hcf
      obtain ⟨si, rfl⟩ := Option.isSome_iff_exists.mp hsi
      obtain ⟨sf, rfl⟩ := Option.isSome_iff_exists.mp hsf
      subst hcif1 htable
      refine common_then (word_then (k := 11) (by decide) (.lift_bind rfl ?_))
      refine word_then (by decide) (.lift_bind rfl ?_)
      refine double_then (by decide) (.lift_bind rfl ?_)
      refine word_then (by decide) (.lift_bind rfl ?_)
      rw [List.append_nil]
      exact writeU64Be_emits (by decide)
  | long =>
      obtain ⟨hsize, -, -, hcif1, hci, hcf, hsi, hsf⟩ := hform
      have hlt := prologue.header.packetSizeWords.toNat_lt
      simp only at hsize
      subst hcif1 hci hcf hsi hsf
      have hstop : (addUsize (13 * wordBytes) table.length : WriteResult Nat) = .ok (52 + table.length) :=
        addUsize_ok (by simp only [wordBytes, usizeLimit]; omega)
      refine common_then (word_then (k := 11) (by decide) (.lift_bind rfl ?_))
      exact word_then (by decide) (.lift_bind hstop (.copyInto rfl))

theorem writeStatusReport_emits {p : StatusReportPacket} (h : StatusReportForm p) :
    Mut.Emits (writeStatusReport p) 28 (flat (statusReportLayout p)) := by
  have hlimits := h.limits
  obtain ⟨prologue, common, cif0, cif1, errors, warnings, level, rate, band⟩ := p
  simp only at hlimits
  have hlevel (l : ReferenceLevelLimit) : Mut.Emits (do
      writeU32Be 15 l.rawMinMax
      writeU32Be 16 l.rawResolutionReserved) 60 (flat [l.rawMinMax, l.rawResolutionReserved]) := by
    rw [← List.append_nil (flat _)]
    refine word_then (k := 15) (by decide) ?_
    rw [List.append_nil]
    exact word_last (by decide)
  rw [← List.append_nil (flat _)]
  generalize prologue.header.packetSizeWords.toNat = n at hlimits
  cases hlimits with
  | without =>
      refine common_then (word_then (k := 11) (by decide) ?_)
      iterate 3 refine word_then (by decide) ?_
      exact .pure 60
  | level l =>
      refine common_then (word_then (k := 11) (by decide) ?_)
      iterate 3 refine word_then (by decide) ?_
      exact words_then (k := 15) (w := []) (hlevel l) (.pure 68)
  | all l r w =>
      refine common_then (word_then (k := 11) (by decide) ?_)
      iterate 3 refine word_then (by decide) ?_
      refine words_then (k := 15) (hlevel l) (double_then (k := 17) (by decide) ?_)
      rw [List.append_nil]
      exact writeU64Be_emits (by decide)

theorem writeBody_emits {p : Packet} (h : BodyForm p) :
    Mut.Emits (writeBody p (encode p).length) prologueBytes (bodyBytes p) := by
  cases p with
  | signalData p => exact .copyInto (by rw [encode, List.length_append]; rfl)
  | signalContext p => exact writeSignalContext_emits p
  | versionContext p => exact writeVersionContext_emits p
  | timingFlowControl p => exact writeTimingFlowControl_emits p
  | sinkCapabilitiesQuery p => exact writeSinkCapabilitiesQuery_emits h
  | sinkCapabilitiesResponse p => exact writeSinkCapabilitiesResponse_emits h
  | statusReport p => exact writeStatusReport_emits h

theorem writePacket_of_prepared {p : Packet} {options : WriteOptions} {plan : WritePlan}
    (h : preparePacket p options = .ok plan) (out : List UInt8) :
    writePacketWithOptions p options out =
      if out.length < (encode p).length then
        (.err (.outputTooSmall (encode p).length out.length), out)
      else (.ok (encode p).length, encode p ++ out.drop (encode p).length) := by
  obtain ⟨⟨hwell, -, -⟩, hplan⟩ := preparePacket_eq_ok.mp h
  have hmul : (mulUsize plan.packetSizeWords.toNat wordBytes : WriteResult Nat) = .ok (encode p).length := by
    rw [Bodies.mulUsize_words, hplan, encode_length hwell.body]
    rfl
  rw [writePacketWithOptions, Mut.lift_bind_apply, h]
  simp only
  rw [Mut.lift_bind_apply, hmul]
  simp only
  rw [Mut.bind_apply, Mut.length]
  simp only
  by_cases hshort : out.length < (encode p).length
  · rw [if_pos hshort, if_pos hshort]
    rfl
  · have hlong : (encode p).length ≤ out.length := Nat.le_of_not_lt hshort
    have hsplit : (encode p).length = (flat (prologueLayout p.prologue)).length + (bodyBytes p).length := by
      rw [encode, List.length_append]
    have hprologue := (writePrologue_emits hwell.prologue).onPrefix
      (show _ ≤ (encode p).length by rw [hsplit]; exact Nat.le_add_right _ _) hlong
    have hbody := writeBody_emits hwell.body (flat (prologueLayout p.prologue))
      (out.drop (flat (prologueLayout p.prologue)).length) (flat_length _)
      (by rw [List.length_drop]; omega)
    rw [if_neg hshort, if_neg hshort, Mut.bind_apply, hplan, hprologue]
    simp only
    rw [Mut.bind_apply, hbody, List.drop_drop, ← hsplit]
    rfl

theorem encodedLen_eq_ok {p : Packet} {options : WriteOptions} {n : Nat} :
    encodedLenWithOptions p options = .ok n ↔
      (WellFormed p ∧ canonicalTypeSpecificBits p = .ok p.prologue.header.typeSpecificBits ∧
        verdict ⟨parseOptions options⟩ p = .ok ()) ∧ n = (encode p).length := by
  have hmul : (mulUsize (planOf p.prologue).packetSizeWords.toNat wordBytes : WriteResult Nat) =
      .ok (4 * p.prologue.header.packetSizeWords.toNat) :=
    Bodies.mulUsize_words _
  rw [encodedLenWithOptions, Outcome.bind_eq_ok]
  constructor
  · rintro ⟨plan, hplan, hn⟩
    obtain ⟨h, rfl⟩ := preparePacket_eq_ok.mp hplan
    rw [hmul] at hn
    cases hn
    exact ⟨h, (encode_length h.1.body).symm⟩
  · rintro ⟨h, rfl⟩
    exact ⟨_, preparePacket_eq_ok.mpr ⟨h, rfl⟩, by rw [hmul, encode_length h.1.body]⟩

/-- The writer stores the bytes of the packet or nothing at all. -/
theorem writePacket_commits (p : Packet) (options : WriteOptions) :
    Mut.Commits (writePacketWithOptions p options) (encodedLenWithOptions p options) .outputTooSmall
      (encode p) := by
  refine ⟨fun n hn => (encodedLen_eq_ok.mp hn).2, fun out => ?_⟩
  rcases h : preparePacket p options with plan | e | _
  · have hlen : encodedLenWithOptions p options = .ok (encode p).length :=
      encodedLen_eq_ok.mpr ⟨(preparePacket_eq_ok.mp h).1, rfl⟩
    rw [writePacket_of_prepared h, hlen]
  · rw [writePacketWithOptions, Mut.lift_bind_apply, encodedLenWithOptions, h]
    rfl
  · rw [writePacketWithOptions, Mut.lift_bind_apply, encodedLenWithOptions, h]
    rfl

end Difi.Storing
