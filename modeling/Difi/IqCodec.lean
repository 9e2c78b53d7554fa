import Difi.RoundTrip
import Difi.Sampling

namespace Difi.IqCodec

open Machine Checks Fields Layout Decoding Acceptance Preparation Storing Sampling SampleCodec Difi.Writer

/-- What it takes to write a payload of a size under a spec. -/
structure Writable (spec : SignalDataWriteSpec) (payloadBytes : Nat) (words : UInt16) : Prop where
  sequence : ¬spec.sequence > 0x0F
  size : 4 * words.toNat = 28 + payloadBytes
  checks : profileChecks ⟨{}⟩ (iqHeader spec words) (iqPrologue spec words).classId = .ok ()

section Writable

variable {spec : SignalDataWriteSpec} {n : Nat}

theorem signalDataSpecWords_iff {payloadBytes : Nat} {words : UInt16} (hlimit : payloadBytes < usizeLimit) :
    signalDataSpecWords spec payloadBytes = .ok words ↔ Writable spec payloadBytes words := by
  rw [signalDataSpecWords_eq_ok hlimit]
  constructor
  · rintro ⟨-, hsequence, hsize, hchecks⟩
    exact ⟨hsequence, hsize, hchecks⟩
  · rintro ⟨hsequence, hsize, hchecks⟩
    exact ⟨by omega, hsequence, hsize, hchecks⟩

theorem Writable.limit {payloadBytes : Nat} {words : UInt16} (h : Writable spec payloadBytes words) :
    payloadBytes < usizeLimit := by
  have hsize := h.size
  have hlt := words.toNat_lt
  simp only [usizeLimit]
  omega

theorem Writable.words_eq {payloadBytes : Nat} {words : UInt16} (h : Writable spec payloadBytes words) :
    UInt16.ofNat (7 + payloadBytes / 4) = words := by
  have hsize := h.size
  have hlt := words.toNat_lt
  apply UInt16.toNat_inj.mp
  rw [UInt16.toNat_ofNat']
  omega

theorem wordsLen_eq_ok {words : WriteResult UInt16} :
    (words >>= fun words => mulUsize words.toNat wordBytes) = .ok n ↔
      ∃ w, words = .ok w ∧ n = 4 * w.toNat := by
  rw [Outcome.bind_eq_ok]
  refine exists_congr fun w => and_congr_right fun _ => ?_
  rw [Bodies.mulUsize_words, Outcome.ok.injEq, eq_comm]

theorem encodedIqDataI8Len_eq_ok {samples : List ComplexI8} : encodedIqDataI8Len spec samples = .ok n ↔
    ∃ words, Writable spec (2 * samples.length) words ∧ n = 4 * words.toNat := by
  rw [encodedIqDataI8Len, wordsLen_eq_ok]
  refine exists_congr fun words => and_congr_left fun _ => ?_
  rw [iqI8Words_eq_ok]
  constructor
  · rintro ⟨-, hlimit, hwords⟩
    exact (signalDataSpecWords_iff hlimit).mp hwords
  · intro h
    have hsize := h.size
    exact ⟨by omega, h.limit, (signalDataSpecWords_iff h.limit).mpr h⟩

theorem encodedIqDataI16Len_eq_ok {samples : List ComplexI16} : encodedIqDataI16Len spec samples = .ok n ↔
    ∃ words, Writable spec (4 * samples.length) words ∧ n = 4 * words.toNat := by
  rw [encodedIqDataI16Len, wordsLen_eq_ok]
  refine exists_congr fun words => and_congr_left fun _ => ?_
  rw [iqI16Words_eq_ok]
  constructor
  · rintro ⟨hlimit, hwords⟩
    exact (signalDataSpecWords_iff hlimit).mp hwords
  · intro h
    exact ⟨h.limit, (signalDataSpecWords_iff h.limit).mpr h⟩

theorem verdict_iqPacket {payload : List UInt8} {words : UInt16}
    (hwords : UInt16.ofNat (7 + payload.length / 4) = words) : verdict ⟨{}⟩ (iqPacket spec payload) =
      profileChecks ⟨{}⟩ (iqHeader spec words) (iqPrologue spec words).classId := by
  subst hwords
  exact Outcome.bind_ok_unit _

theorem iqPacket_wellFormed {payload : List UInt8} {words : UInt16} (h : Writable spec payload.length words) :
    WellFormed (iqPacket spec payload) := by
  have hwords := h.words_eq
  subst hwords
  exact ⟨iqPrologue_form _ h.sequence, ⟨h.size, rfl⟩⟩

theorem classVariant_of_data {profile : StandardProfile} {c : PacketClassCode}
    (h : profile.validatePacketTypeClass .signalDataWithStreamId c = .ok ()) : classVariant c = .signalData := by
  cases c <;> first | rfl | cases h

theorem iqPacket_dispatched {payload : List UInt8} {words : UInt16} (h : Writable spec payload.length words) :
    Dispatched (iqPacket spec payload) := by
  obtain ⟨-, -, htype, -⟩ := profileChecks_eq_ok.mp h.checks
  exact (classVariant_of_data htype).symm

theorem encodedLen_iqPacket {payload : List UInt8} : encodedLenWithOptions (iqPacket spec payload) {} = .ok n ↔
    ∃ words, Writable spec payload.length words ∧ n = 4 * words.toNat := by
  rw [encodedLen_eq_ok]
  constructor
  · rintro ⟨⟨hwell, -, hverdict⟩, rfl⟩
    have hsize : 4 * (UInt16.ofNat (7 + payload.length / 4)).toNat = 28 + payload.length := hwell.body.size
    have hsequence : ¬spec.sequence > 0x0F := by
      have hlt : spec.sequence.toNat < 16 := hwell.prologue.header.sequence_lt
      rw [gt_iff_lt, UInt8.lt_iff_toNat_lt]
      simp only [UInt8.reduceToNat]
      omega
    refine ⟨_, ⟨hsequence, hsize, ?_⟩, ?_⟩
    · rw [← verdict_iqPacket rfl]
      exact hverdict
    · rw [iqPacket_length, hsize]
  · rintro ⟨words, h, rfl⟩
    refine ⟨⟨iqPacket_wellFormed h, rfl, ?_⟩, ?_⟩
    · rw [show parseOptions ({} : WriteOptions) = {} from rfl, verdict_iqPacket h.words_eq]
      exact h.checks
    · rw [iqPacket_length, h.size]

end Writable

/-- Two writers succeed on the same buffers, and then return the same length and
leave the same bytes. -/
structure Agree (write generic : Write Nat) (out : List UInt8) : Prop where
  ok_iff : (∃ n, (write out).1 = .ok n) ↔ ∃ n, (generic out).1 = .ok n
  same : ∀ n m, (write out).1 = .ok n → (generic out).1 = .ok m → n = m ∧ (write out).2 = (generic out).2

theorem agree_of_iff {write generic : Write Nat} {out : List UInt8}
    (h : ∀ out' n, write out = (.ok n, out') ↔ generic out = (.ok n, out')) : Agree write generic out where
  ok_iff := by
    constructor
    · rintro ⟨n, hn⟩
      exact ⟨n, congrArg Prod.fst ((h (write out).2 n).mp (Prod.ext hn rfl))⟩
    · rintro ⟨n, hn⟩
      exact ⟨n, congrArg Prod.fst ((h (generic out).2 n).mpr (Prod.ext hn rfl))⟩
  same n m hn hm := by
    have hgeneric := (h (write out).2 n).mp (Prod.ext hn rfl)
    rw [hgeneric] at hm ⊢
    cases hm
    exact ⟨rfl, rfl⟩

theorem Agree.reject {write generic : Write Nat} {out : List UInt8} (h : Agree write generic out)
    (hgeneric : ∀ n, (generic out).1 ≠ .ok n) (n : Nat) : (write out).1 ≠ .ok n ∧ (generic out).1 ≠ .ok n := by
  refine ⟨fun hn => ?_, hgeneric n⟩
  obtain ⟨m, hm⟩ := h.ok_iff.mp ⟨n, hn⟩
  exact hgeneric m hm

/-- Specs and payloads that do not fit the fields of a header. -/
def Unfit (spec : SignalDataWriteSpec) (payload : List UInt8) : Prop :=
  spec.sequence > 0x0F ∨ 65535 < 7 + payload.length / 4

theorem Writable.fit {spec : SignalDataWriteSpec} {payload : List UInt8} {words : UInt16}
    (h : Writable spec payload.length words) : ¬Unfit spec payload := by
  have hsize := h.size
  have hlt := words.toNat_lt
  rintro (hsequence | hlarge)
  · exact h.sequence hsequence
  · omega

theorem writePacket_fit {spec : SignalDataWriteSpec} {payload out : List UInt8} {n : Nat}
    (h : (writePacket (iqPacket spec payload) out).1 = .ok n) : ¬Unfit spec payload := by
  obtain ⟨words, hwritable, -⟩ := encodedLen_iqPacket.mp (((writePacket_commits _ {}).ok_iff out n).mp h).1
  exact hwritable.fit

def specOf (p : Prologue) : SignalDataWriteSpec where
  streamId := p.streamId
  informationClass := p.classId.informationClass
  packetClass := p.classId.packetClass
  tsi := p.header.tsi
  tsf := p.header.tsf
  sequence := p.header.sequence
  integerSecondsTimestamp := p.integerSecondsTimestamp
  fractionalSecondsTimestamp := p.fractionalSecondsTimestamp

theorem parse_iqPacket {spec : SignalDataWriteSpec} {payload : List UInt8} {words : UInt16}
    (h : Writable spec payload.length words) :
    Parser.parsePacketExact (encode (iqPacket spec payload)) = .ok (iqPacket spec payload) := by
  have hverdict : verdict ⟨{}⟩ (iqPacket spec payload) = .ok () := by
    rw [verdict_iqPacket h.words_eq]
    exact h.checks
  exact parsePacketExact_eq_ok.mpr ⟨⟨iqPacket_wellFormed h, iqPacket_dispatched h, hverdict⟩, rfl⟩

theorem dataPrologue_eq {p : Prologue} (h : PrologueForm p) (htype : p.header.packetType = .signalDataWithStreamId)
    (hbits : p.header.typeSpecificBits = 0) (hpad : p.classId.padBitCount = 0) :
    ¬(specOf p).sequence > 0x0F ∧ p = iqPrologue (specOf p) p.header.packetSizeWords := by
  have hsequence : ¬p.header.sequence > 0x0F := by
    have hlt := h.header.sequence_lt
    rw [gt_iff_lt, UInt8.lt_iff_toNat_lt]
    simp only [UInt8.reduceToNat]
    omega
  have htsm := h.header.tsm
  have hword := h.header.headerWord h.classIdIndicator
  have hindicator := h.classIdIndicator
  have houi := h.classId.oui
  obtain ⟨⟨raw, t, indicator, bits, tsm, tsi, tsf, sequence, size⟩, streamId, ⟨pad, oui, information, packetClass⟩,
    integer, fractional⟩ := p
  simp only at htype hbits hpad hsequence htsm hword hindicator houi
  subst htype hbits hpad hindicator houi htsm
  have hraw := @headerWord_iq ⟨streamId, information, packetClass, tsi, tsf, sequence, integer, fractional⟩ size
    hsequence
  rw [hword] at hraw
  obtain rfl := Outcome.ok.inj hraw
  exact ⟨hsequence, rfl⟩

theorem accepted_iqPacket {b : List UInt8} {p : SignalDataPacket}
    (h : Parser.parsePacketExact b = .ok (.signalData p)) (hpad : p.prologue.classId.padBitCount = 0) :
    b = encode (iqPacket (specOf p.prologue) p.payload) ∧
      Writable (specOf p.prologue) p.payload.length p.prologue.header.packetSizeWords := by
  obtain ⟨⟨hwell, hd, hverdict⟩, rfl⟩ := parsePacketExact_eq_ok.mp h
  obtain ⟨_, hchecks, -⟩ := Outcome.bind_eq_ok.mp hverdict
  have hbits := RoundTrip.canonicalTypeSpecificBits_eq hwell.prologue hd hchecks
  obtain ⟨-, -, htype, -⟩ := profileChecks_eq_ok.mp hchecks
  have htype := RoundTrip.packetType_of_class htype
  rw [Dispatched] at hd
  rw [← hd] at htype
  obtain ⟨hsequence, hprologue⟩ :=
    dataPrologue_eq hwell.prologue htype (Outcome.ok.inj hbits).symm hpad
  have hprologue : p.prologue = iqPrologue (specOf p.prologue) p.prologue.header.packetSizeWords := hprologue
  have hchecks : profileChecks ⟨{}⟩ (iqPrologue (specOf p.prologue) p.prologue.header.packetSizeWords).header
      (iqPrologue (specOf p.prologue) p.prologue.header.packetSizeWords).classId = .ok () := by
    rw [← hprologue]
    exact hchecks
  have hwritable : Writable (specOf p.prologue) p.payload.length p.prologue.header.packetSizeWords :=
    ⟨hsequence, hwell.body.size, hchecks⟩
  refine ⟨congrArg encode ?_, hwritable⟩
  rw [iqPacket, hwritable.words_eq, ← hprologue]

/-- The samples of one kind, read by a cursor over a payload and written by a
writer of packets. -/
structure Flow {σ sample : Type} [Iterator σ sample] {size : Nat} (codec : ChunkCodec UInt8 sample size)
    (openSamples : List UInt8 → Outcome SampleError σ) (len : SignalDataWriteSpec → List sample → WriteResult Nat)
    (write : SignalDataWriteSpec → List sample → Write Nat) : Prop where
  pos : 0 < size
  word : size ∣ 4
  opens : ∀ payload, size ∣ payload.length →
    ∃ it, openSamples payload = .ok it ∧ Yields it (codec.decodeAll payload)
  len_iff : ∀ spec samples n, len spec samples = .ok n ↔
    ∃ words, Writable spec (codec.encodeAll samples).length words ∧ n = 4 * words.toNat
  commits : ∀ spec samples, Mut.Commits (write spec samples) (len spec samples) .outputTooSmall
    (encode (iqPacket spec (codec.encodeAll samples)))

section Flow

variable {σ sample : Type} [Iterator σ sample] {size : Nat} {codec : ChunkCodec UInt8 sample size}
variable {openSamples : List UInt8 → Outcome SampleError σ}
variable {len : SignalDataWriteSpec → List sample → WriteResult Nat}
variable {write : SignalDataWriteSpec → List sample → Write Nat}

theorem Flow.agrees (flow : Flow codec openSamples len write) (spec : SignalDataWriteSpec)
    (samples : List sample) (out : List UInt8) :
    Agree (write spec samples) (writePacket (iqPacket spec (codec.encodeAll samples))) out ∧
      (Unfit spec (codec.encodeAll samples) → ∀ n, (write spec samples out).1 ≠ .ok n ∧
        (writePacket (iqPacket spec (codec.encodeAll samples)) out).1 ≠ .ok n) := by
  have hlen (n : Nat) : len spec samples = .ok n ↔
      encodedLenWithOptions (iqPacket spec (codec.encodeAll samples)) {} = .ok n := by
    rw [flow.len_iff, encodedLen_iqPacket]
  have hagree := agree_of_iff ((flow.commits spec samples).agree (writePacket_commits _ {}) hlen out)
  exact ⟨hagree, fun hunfit => hagree.reject fun n hn => writePacket_fit hn hunfit⟩

theorem Flow.parses_back (flow : Flow codec openSamples len write) {spec : SignalDataWriteSpec}
    {samples : List sample} {out out' : List UInt8} {n : Nat} (hwrite : write spec samples out = (.ok n, out')) :
    ∃ p it, Parser.parsePacketExact (out'.take n) = .ok (.signalData p) ∧ specOf p.prologue = spec ∧
      p.prologue.classId.padBitCount = 0 ∧ openSamples p.payload = .ok it ∧
      ∀ xs, Yields it xs ↔ xs = samples := by
  have hcommits := flow.commits spec samples
  obtain ⟨words, hwritable, -⟩ := (flow.len_iff spec samples n).mp (hcommits.eq_ok_iff.mp hwrite).1
  have hwhole : size ∣ (codec.encodeAll samples).length := ⟨_, codec.length_encodeAll samples⟩
  obtain ⟨it, hopen, hyields⟩ := flow.opens _ hwhole
  rw [codec.decodeAll_encodeAll flow.pos] at hyields
  rw [(hcommits.stored hwrite).2.1]
  exact ⟨_, it, parse_iqPacket hwritable, rfl, rfl, hopen, hyields.iff⟩

theorem Flow.writes_back (flow : Flow codec openSamples len write) {b : List UInt8} {p : SignalDataPacket}
    (hparse : Parser.parsePacketExact b = .ok (.signalData p)) (hpad : p.prologue.classId.padBitCount = 0) :
    ∃ it samples, openSamples p.payload = .ok it ∧ (∀ xs, Yields it xs ↔ xs = samples) ∧
      ∀ out, b.length ≤ out.length →
        write (specOf p.prologue) samples out = (.ok b.length, b ++ out.drop b.length) := by
  obtain ⟨rfl, hwritable⟩ := accepted_iqPacket hparse hpad
  have hsize := hwritable.size
  have hwhole : size ∣ p.payload.length := flow.word.trans (by omega)
  obtain ⟨it, hopen, hyields⟩ := flow.opens p.payload hwhole
  have hlen := flow.len_iff (specOf p.prologue) (codec.decodeAll p.payload)
  have hcommits := flow.commits (specOf p.prologue) (codec.decodeAll p.payload)
  rw [codec.encodeAll_decodeAll flow.pos hwhole] at hlen hcommits
  refine ⟨it, _, hopen, hyields.iff, fun out hout => hcommits.eq_ok_iff.mpr ⟨?_, hout, rfl⟩⟩
  refine (hlen _).mpr ⟨_, hwritable, ?_⟩
  rw [iqPacket_length, hsize]

end Flow

theorem flowI8 : Flow codecI8 iqI8Samples encodedIqDataI8Len writeIqDataI8 where
  pos := by decide
  word := by decide
  opens payload h := by
    have hopen := iqI8Samples_eq_ok.mpr ⟨h, rfl⟩
    exact ⟨_, hopen, iqI8Samples_yields hopen⟩
  len_iff spec samples n := by
    rw [encodedIqDataI8Len_eq_ok, codecI8.length_encodeAll]
  commits spec samples := writeIqDataI8_commits spec samples

theorem flowI16 : Flow codecI16 iqI16Samples encodedIqDataI16Len writeIqDataI16 where
  pos := by decide
  word := by decide
  opens payload h := by
    have hopen := iqI16Samples_eq_ok.mpr ⟨h, rfl⟩
    exact ⟨_, hopen, iqI16Samples_yields hopen⟩
  len_iff spec samples n := by
    rw [encodedIqDataI16Len_eq_ok, codecI16.length_encodeAll]
  commits spec samples := writeIqDataI16_commits spec samples

/-- The direct writers of samples and the generic writer of packets agree, and
reject together what does not fit a header. -/
theorem direct_path_agrees :
    (∀ spec samples out,
      Agree (writeIqDataI8 spec samples) (writePacket (iqPacket spec (samplesI8Bytes samples))) out ∧
      (Unfit spec (samplesI8Bytes samples) → ∀ n, (writeIqDataI8 spec samples out).1 ≠ .ok n ∧
        (writePacket (iqPacket spec (samplesI8Bytes samples)) out).1 ≠ .ok n)) ∧
    (∀ spec samples out,
      Agree (writeIqDataI16 spec samples) (writePacket (iqPacket spec (samplesI16Bytes samples))) out ∧
      (Unfit spec (samplesI16Bytes samples) → ∀ n, (writeIqDataI16 spec samples out).1 ≠ .ok n ∧
        (writePacket (iqPacket spec (samplesI16Bytes samples)) out).1 ≠ .ok n)) :=
  ⟨fun spec samples out => flowI8.agrees spec samples out, fun spec samples out => flowI16.agrees spec samples out⟩

/-- Writing samples and parsing undo each other, for samples of both kinds. -/
theorem iq_codec_inverse :
    (∀ spec samples out out' n, writeIqDataI8 spec samples out = (.ok n, out') →
      ∃ p it, Parser.parsePacketExact (out'.take n) = .ok (.signalData p) ∧ specOf p.prologue = spec ∧
        p.prologue.classId.padBitCount = 0 ∧ iqI8Samples p.payload = .ok it ∧
        ∀ xs, Yields it xs ↔ xs = samples) ∧
    (∀ spec samples out out' n, writeIqDataI16 spec samples out = (.ok n, out') →
      ∃ p it, Parser.parsePacketExact (out'.take n) = .ok (.signalData p) ∧ specOf p.prologue = spec ∧
        p.prologue.classId.padBitCount = 0 ∧ iqI16Samples p.payload = .ok it ∧
        ∀ xs, Yields it xs ↔ xs = samples) ∧
    (∀ b p, Parser.parsePacketExact b = .ok (.signalData p) → p.prologue.classId.padBitCount = 0 →
      (∃ it samples, iqI8Samples p.payload = .ok it ∧ (∀ xs, Yields it xs ↔ xs = samples) ∧
        ∀ out, b.length ≤ out.length →
          writeIqDataI8 (specOf p.prologue) samples out = (.ok b.length, b ++ out.drop b.length)) ∧
      (∃ it samples, iqI16Samples p.payload = .ok it ∧ (∀ xs, Yields it xs ↔ xs = samples) ∧
        ∀ out, b.length ≤ out.length →
          writeIqDataI16 (specOf p.prologue) samples out = (.ok b.length, b ++ out.drop b.length))) := by
  refine ⟨fun spec samples out out' n hwrite => flowI8.parses_back hwrite,
    fun spec samples out out' n hwrite => flowI16.parses_back hwrite, fun b p hparse hpad => ?_⟩
  exact ⟨flowI8.writes_back hparse hpad, flowI16.writes_back hparse hpad⟩

def basicSpec : SignalDataWriteSpec where
  streamId := 1
  informationClass := .basicDataPlane
  packetClass := .standardFlowSignalData
  tsi := .utc
  tsf := .realTimePicoseconds
  sequence := 0
  integerSecondsTimestamp := 0
  fractionalSecondsTimestamp := 0

theorem iq_codec_inverse_three : ∃ p it,
    Parser.parsePacketExact
      ((writeIqDataI16 basicSpec [⟨1, -1⟩, ⟨300, 2⟩, ⟨-3, 0⟩] (List.replicate 48 0)).2.take 40) =
      .ok (.signalData p) ∧ specOf p.prologue = basicSpec ∧ p.prologue.classId.padBitCount = 0 ∧
      iqI16Samples p.payload = .ok it ∧ ∀ xs, Yields it xs ↔ xs = [⟨1, -1⟩, ⟨300, 2⟩, ⟨-3, 0⟩] := by
  have hwrite : (writeIqDataI16 basicSpec [⟨1, -1⟩, ⟨300, 2⟩, ⟨-3, 0⟩] (List.replicate 48 0)).1 = .ok 40 := by
    decide
  exact iq_codec_inverse.2.1 basicSpec _ (List.replicate 48 0) _ 40 (Prod.ext hwrite rfl)

end Difi.IqCodec
