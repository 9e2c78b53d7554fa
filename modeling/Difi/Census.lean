import Difi.SupportedProfiles
import Difi.CaptureReading

namespace Difi.Census

open Machine Outcome Checks Grammar Capture Certification SupportedProfiles

structure Reading where
  path : String
  payloads : List (List UInt8)

structure Entry where
  path : String
  payloadIndex : Nat
  payload : List UInt8

def entryOf (path : String) (found : List UInt8 × Nat) : Entry := ⟨path, found.2, found.1⟩

def Reading.entries (r : Reading) : List Entry := r.payloads.zipIdx.map (entryOf r.path)

def parsedIn (payloads : List (List UInt8)) : List ParsedPayload :=
  payloads.filterMap fun payload => (assess payload).toOption

def refusal (payload : List UInt8) : Option PayloadError :=
  match assess payload with
  | .err e => some e
  | _ => none

def failureOf (e : Entry) : Option PayloadFailure :=
  (refusal e.payload).map (payloadFailure e.path e.payloadIndex e.payload)

def rangeOf (payloads : List (List UInt8)) : LengthRange :=
  ⟨(payloads.map List.length).min?, (payloads.map List.length).max?⟩

def streamsOf (parsed : List ParsedPayload) : Finset UInt32 :=
  (parsed.map fun p => p.packet.prologue.streamId).toFinset

def captureCensus (path : String) (payloads : List (List UInt8)) : CaptureSummary where
  path
  udpPayloads := payloads.length
  lengthRange := rangeOf payloads
  streamIds := streamsOf (parsedIn payloads)

/-- The captures of a run in numbers. -/
def census (captures : List CaptureSummary) (payloads : List (List UInt8)) : CertificationSummary where
  udpPayloads := payloads.length
  parsedPayloads := (parsedIn payloads).length
  lengthRange := rangeOf payloads
  streamIds := streamsOf (parsedIn payloads)
  byProfile := tally (fun p => p.profile) (parsedIn payloads)
  byPacketType := tally (fun p => packetTypeLabel p.packet.prologue.header.packetType) (parsedIn payloads)
  byPacketClass := tally (fun p => packetClassLabel p.packet.prologue.classId.packetClass) (parsedIn payloads)
  captures

/-- What a run has found when it has seen some payloads, and failures among them. -/
def found (captures : List CaptureSummary) (payloads : List (List UInt8)) (failures : List PayloadFailure) :
    Progress where
  summary := census captures payloads
  failedPayloads := failures.length
  failures := failures.take maxFailures

section Steps

theorem rangeOf_append (payloads : List (List UInt8)) (payload : List UInt8) :
    rangeOf (payloads ++ [payload]) = (rangeOf payloads).record payload.length := by
  cases payloads with
  | nil => rfl
  | cons first rest =>
      simp only [rangeOf, LengthRange.record, List.cons_append, List.map_cons, List.map_append, List.map_nil,
        List.min?_cons', List.max?_cons', List.foldl_append, List.foldl_cons, List.foldl_nil, Option.elim_some]

theorem streamsOf_append (parsed : List ParsedPayload) (p : ParsedPayload) :
    streamsOf (parsed ++ [p]) = insert p.packet.prologue.streamId (streamsOf parsed) := by
  ext id
  rw [Finset.mem_insert, streamsOf, streamsOf, List.mem_toFinset, List.mem_toFinset, List.map_append,
    List.mem_append, List.map_singleton, List.mem_singleton]
  exact or_comm

theorem recordFailure_take (failures : List PayloadFailure) (failure : PayloadFailure) :
    recordFailure (failures.take maxFailures) failure = (failures ++ [failure]).take maxFailures := by
  unfold recordFailure
  rw [List.length_take]
  by_cases h : failures.length < maxFailures
  · rw [if_pos (by omega), List.take_of_length_le (by omega), List.take_of_length_le (by simp; omega)]
  · rw [if_neg (by omega), List.take_append_of_le_length (by omega)]

variable (captures : List CaptureSummary) (seen mine : List (List UInt8)) (failures : List PayloadFailure)
  (path : String) (entry : List UInt8 × Nat)

theorem parsedIn_append (payload : List UInt8) :
    parsedIn (seen ++ [payload]) = parsedIn seen ++ (assess payload).toOption.toList := by
  rw [parsedIn, List.filterMap_append, parsedIn]
  cases h : (assess payload).toOption <;> simp [h]

theorem census_refused {payload : List UInt8} (h : (assess payload).toOption = none) :
    census captures (seen ++ [payload]) = (census captures seen).recordUdpPayload payload.length := by
  simp only [census, parsedIn_append, h, Option.toList_none, List.append_nil, List.length_append,
    List.length_singleton, rangeOf_append, CertificationSummary.recordUdpPayload]

theorem captureCensus_refused {payload : List UInt8} (h : (assess payload).toOption = none) :
    captureCensus path (seen ++ [payload]) = (captureCensus path seen).recordUdpPayload payload.length := by
  simp only [captureCensus, parsedIn_append, h, Option.toList_none, List.append_nil, List.length_append,
    List.length_singleton, rangeOf_append, CaptureSummary.recordUdpPayload]

theorem census_parsed {payload : List UInt8} {parsed : ParsedPayload}
    (h : (assess payload).toOption = some parsed) :
    census captures (seen ++ [payload]) =
      ((census captures seen).recordUdpPayload payload.length).recordParsedPayload parsed.profile
        parsed.packet.prologue := by
  simp only [census, parsedIn_append, h, Option.toList_some, List.length_append, List.length_singleton,
    rangeOf_append, streamsOf_append, tally_append, CertificationSummary.recordUdpPayload,
    CertificationSummary.recordParsedPayload]

theorem captureCensus_parsed {payload : List UInt8} {parsed : ParsedPayload}
    (h : (assess payload).toOption = some parsed) : captureCensus path (seen ++ [payload]) =
      ((captureCensus path seen).recordUdpPayload payload.length).recordParsedPayload
        parsed.packet.prologue := by
  simp only [captureCensus, parsedIn_append, h, Option.toList_some, List.length_append, List.length_singleton,
    rangeOf_append, streamsOf_append, CaptureSummary.recordUdpPayload, CaptureSummary.recordParsedPayload]

theorem step_refused {payload : List UInt8} {index : Nat} {e : PayloadError} (h : assess payload = .err e) :
    (Progress.fail { found captures seen failures with
        summary := (census captures seen).recordUdpPayload payload.length } (payloadFailure path index payload e),
      (captureCensus path mine).recordUdpPayload payload.length) =
      (found captures (seen ++ [payload]) (failures ++ (failureOf (entryOf path (payload, index))).toList),
        captureCensus path (mine ++ [payload])) := by
  have hnone : (assess payload).toOption = none := by
    rw [h]
    rfl
  have hfailure : failureOf (entryOf path (payload, index)) = some (payloadFailure path index payload e) := by
    simp only [failureOf, entryOf, refusal, h, Option.map_some]
  rw [hfailure, captureCensus_refused _ _ hnone]
  simp only [found, Progress.fail, census_refused _ _ hnone, recordFailure_take, Option.toList_some,
    List.length_append, List.length_singleton]

theorem step_parsed {payload : List UInt8} {index : Nat} {parsed : ParsedPayload}
    (h : assess payload = .ok parsed) :
    ({ found captures seen failures with
        summary := ((census captures seen).recordUdpPayload payload.length).recordParsedPayload parsed.profile
          parsed.packet.prologue },
      ((captureCensus path mine).recordUdpPayload payload.length).recordParsedPayload parsed.packet.prologue) =
      (found captures (seen ++ [payload]) (failures ++ (failureOf (entryOf path (payload, index))).toList),
        captureCensus path (mine ++ [payload])) := by
  have hsome : (assess payload).toOption = some parsed := by
    rw [h]
    rfl
  have hfailure : failureOf (entryOf path (payload, index)) = none := by
    simp only [failureOf, entryOf, refusal, h, Option.map_none]
  rw [hfailure, captureCensus_parsed _ _ hsome]
  simp only [found, census_parsed _ _ hsome, Option.toList_none, List.append_nil]

theorem certifyPayload_found :
    certifyPayload path (found captures seen failures, captureCensus path mine) entry =
      .ok (found captures (seen ++ [entry.1]) (failures ++ (failureOf (entryOf path entry)).toList),
        captureCensus path (mine ++ [entry.1])) := by
  obtain ⟨payload, index⟩ := entry
  dsimp only [certifyPayload]
  cases hstrict : validateStrictDifiPayload payload with
  | panic => exact absurd hstrict validateStrict_safe
  | err e =>
      have hassess : assess payload = .err (.strict e) := by
        rw [assess, hstrict]
        rfl
      exact congrArg Outcome.ok (step_refused captures seen mine failures path hassess)
  | ok u =>
      cases hparse : parseWithSupportedProfiles payload with
      | panic => exact absurd hparse (tryProfiles_safe _ _)
      | err errors =>
          have hassess : assess payload = .err (.unparsed errors) := by
            rw [assess, hstrict, mapErr_ok, ok_bind, hparse]
            rfl
          exact congrArg Outcome.ok (step_refused captures seen mine failures path hassess)
      | ok parsed =>
          have hassess : assess payload = .ok parsed := by
            rw [assess, hstrict, mapErr_ok, ok_bind, hparse]
            rfl
          exact congrArg Outcome.ok (step_parsed captures seen mine failures path hassess)

end Steps

section Runs

def readCapture (capture : String × List UInt8) : Outcome Rejection Reading := do
  let payloads ← (captureUdpPayloads capture.2).mapErr (.unreadable capture.1)
  if payloads.isEmpty then .err (.noPayloadsIn capture.1) else .ok ⟨capture.1, payloads⟩

def payloadsOf (rs : List Reading) : List (List UInt8) := rs.flatMap Reading.payloads

def failuresOf (rs : List Reading) : List PayloadFailure := (rs.flatMap Reading.entries).filterMap failureOf

def summaries (rs : List Reading) : List CaptureSummary := rs.map fun r => captureCensus r.path r.payloads

def foundIn (rs : List Reading) : Progress := found (summaries rs) (payloadsOf rs) (failuresOf rs)

theorem foundIn_append (rs : List Reading) (r : Reading) : foundIn (rs ++ [r]) =
    found (summaries rs ++ [captureCensus r.path r.payloads]) (payloadsOf rs ++ r.payloads)
      (failuresOf rs ++ r.entries.filterMap failureOf) := by
  simp only [foundIn, summaries, payloadsOf, failuresOf, List.map_append, List.map_cons, List.map_nil,
    List.flatMap_append, List.flatMap_cons, List.flatMap_nil, List.append_nil, List.filterMap_append]

theorem certifyPayloads_found (captures : List CaptureSummary) (seen : List (List UInt8))
    (failures : List PayloadFailure) (path : String) (entries : List (List UInt8 × Nat)) :
    entries.foldlM (certifyPayload path) (found captures seen failures, captureCensus path []) =
      .ok (found captures (seen ++ entries.map Prod.fst)
        (failures ++ (entries.map (entryOf path)).filterMap failureOf),
        captureCensus path (entries.map Prod.fst)) := by
  have hloop := foldlM_seen (f := certifyPayload path) (g := fun entries =>
    (found captures (seen ++ entries.map Prod.fst) (failures ++ (entries.map (entryOf path)).filterMap failureOf),
      captureCensus path (entries.map Prod.fst))) (fun before entry => ?_) entries
  · simpa only [List.map_nil, List.append_nil, List.filterMap_nil] using hloop
  · have hsingle : [entryOf path entry].filterMap failureOf = (failureOf (entryOf path entry)).toList := by
      cases h : failureOf (entryOf path entry) <;> simp [h]
    rw [certifyPayload_found]
    simp only [List.map_append, List.map_cons, List.map_nil, List.filterMap_append, hsingle, List.append_assoc]

theorem certifyCapture_found (rs : List Reading) (capture : String × List UInt8) :
    certifyCapture (foundIn rs) capture = readCapture capture >>= fun r => .ok (foundIn (rs ++ [r])) := by
  rw [certifyCapture, readCapture, bind_assoc']
  refine congrArg _ (funext fun payloads => ?_)
  split
  next => rfl
  next =>
      have hloop := certifyPayloads_found (summaries rs) (payloadsOf rs) (failuresOf rs) capture.1 payloads.zipIdx
      rw [List.zipIdx_map_fst] at hloop
      rw [ok_bind, foundIn_append]
      exact congrArg (fun x => x >>= fun s => .ok { s.1 with summary := s.1.summary.recordCapture s.2 }) hloop

/-- The verdict on captures that have been read. -/
def conclude (rs : List Reading) : Outcome Rejection CertificationSummary :=
  if rs = [] then .err .noPayloads
  else if failuresOf rs ≠ [] then .err (.failed (failuresOf rs).length ((failuresOf rs).take maxFailures))
  else .ok (census (summaries rs) (payloadsOf rs))

theorem readCapture_eq_ok {capture : String × List UInt8} {r : Reading} : readCapture capture = .ok r ↔
    captureUdpPayloads capture.2 = .ok r.payloads ∧ r.payloads ≠ [] ∧ r.path = capture.1 := by
  obtain ⟨path, payloads⟩ := r
  simp only [readCapture, bind_eq_ok, mapErr_eq_ok, ite_err_eq_ok, List.isEmpty_iff, ok.injEq, Reading.mk.injEq]
  constructor
  · rintro ⟨found, hfound, hne, rfl, rfl⟩
    exact ⟨hfound, hne, rfl⟩
  · rintro ⟨hfound, hne, rfl⟩
    exact ⟨payloads, hfound, hne, rfl, rfl⟩

theorem entries_payload (r : Reading) : r.entries.map Entry.payload = r.payloads := by
  have hpayload : (Entry.payload ∘ entryOf r.path) = Prod.fst := rfl
  rw [Reading.entries, List.map_map, hpayload, List.zipIdx_map_fst]

theorem failures_length (entries : List Entry) :
    (entries.filterMap failureOf).length = ((entries.map Entry.payload).filterMap refusal).length := by
  induction entries with
  | nil => rfl
  | cons e entries ih =>
      rw [List.map_cons, List.filterMap_cons, List.filterMap_cons, failureOf]
      cases refusal e.payload with
      | none => exact ih
      | some error => exact congrArg Nat.succ ih

theorem parsed_add_refusals (payloads : List (List UInt8)) :
    (parsedIn payloads).length + (payloads.filterMap refusal).length = payloads.length := by
  induction payloads with
  | nil => rfl
  | cons payload payloads ih =>
      rw [parsedIn] at ih ⊢
      rw [List.filterMap_cons, List.filterMap_cons, refusal, List.length_cons]
      cases h : assess payload with
      | ok parsed =>
          rw [toOption_eq_some.mpr rfl]
          simp only [List.length_cons]
          omega
      | err e =>
          have hnone : (Outcome.err e : Outcome PayloadError ParsedPayload).toOption = none := rfl
          rw [hnone]
          simp only [List.length_cons]
          omega
      | panic => exact absurd h assess_safe

theorem parsed_add_failures (rs : List Reading) :
    (parsedIn (payloadsOf rs)).length + (failuresOf rs).length = (payloadsOf rs).length := by
  have hpayloads : (rs.flatMap Reading.entries).map Entry.payload = payloadsOf rs := by
    rw [payloadsOf, List.map_flatMap]
    exact congrArg (fun f => rs.flatMap f) (funext entries_payload)
  rw [failuresOf, failures_length, hpayloads, parsed_add_refusals]

theorem conclude_found {rs : List Reading} (hne : ∀ r ∈ rs, r.payloads ≠ []) :
    (if ¬(foundIn rs).summary.udpPayloads > 0 then .err .noPayloads
      else if (foundIn rs).failedPayloads ≠ 0 then .err (.failed (foundIn rs).failedPayloads (foundIn rs).failures)
      else if (foundIn rs).summary.parsedPayloads ≠ (foundIn rs).summary.udpPayloads then
        .err (.miscounted (foundIn rs).summary.parsedPayloads (foundIn rs).summary.udpPayloads)
      else .ok (foundIn rs).summary) = conclude rs := by
  have hcount := parsed_add_failures rs
  have hempty : ¬(payloadsOf rs).length > 0 ↔ rs = [] := by
    rw [gt_iff_lt, List.length_pos_iff, not_not, payloadsOf, List.flatMap_eq_nil_iff]
    constructor
    · intro hnil
      by_contra hrs
      obtain ⟨r, hr⟩ := List.exists_mem_of_ne_nil rs hrs
      exact hne r hr (hnil r hr)
    · rintro rfl r hr
      cases hr
  by_cases hrs : rs = []
  · have hnothing : ¬(foundIn rs).summary.udpPayloads > 0 := hempty.mpr hrs
    rw [if_pos hnothing, conclude, if_pos hrs]
  · have hsome : ¬¬(foundIn rs).summary.udpPayloads > 0 := fun h => hrs (hempty.mp h)
    rw [if_neg hsome, conclude, if_neg hrs]
    by_cases hfailures : failuresOf rs = []
    · rw [hfailures, List.length_nil, Nat.add_zero] at hcount
      have hnone : ¬(foundIn rs).failedPayloads ≠ 0 := not_not.mpr (List.length_eq_zero_iff.mpr hfailures)
      have hequal : ¬(foundIn rs).summary.parsedPayloads ≠ (foundIn rs).summary.udpPayloads := not_not.mpr hcount
      rw [if_neg hnone, if_neg hequal, if_neg (not_not.mpr hfailures)]
      rfl
    · have hfailed : (foundIn rs).failedPayloads ≠ 0 := mt List.length_eq_zero_iff.mp hfailures
      rw [if_pos hfailed, if_pos hfailures]
      rfl

/-- A run reads the captures, up to the first that is unreadable or empty, and
passes judgement on what was read. -/
theorem certify_eq (captures : List (String × List UInt8)) :
    certify captures = readAll readCapture captures >>= conclude := by
  have hloop := foldlM_readAll certifyCapture_found [] captures
  have hstart : foundIn [] = {} := rfl
  rw [hstart] at hloop
  rw [certify, hloop, bind_assoc']
  cases hread : readAll readCapture captures with
  | err e => rfl
  | panic => rfl
  | ok rs =>
      refine conclude_found fun r hr => ?_
      obtain ⟨capture, -, hcapture⟩ := readAll_mem hread r hr
      exact (readCapture_eq_ok.mp hcapture).2.1

theorem refusal_eq_none {payload : List UInt8} : refusal payload = none ↔ Conforms payload := by
  rw [← assess_conforms, refusal]
  cases h : assess payload with
  | ok parsed => simp
  | err e => simp
  | panic => exact absurd h assess_safe

theorem failuresOf_eq_nil {rs : List Reading} :
    failuresOf rs = [] ↔ ∀ r ∈ rs, ∀ payload ∈ r.payloads, Conforms payload := by
  rw [← List.length_eq_zero_iff, failuresOf, failures_length, List.length_eq_zero_iff, List.filterMap_eq_nil_iff,
    List.map_flatMap]
  simp only [entries_payload, List.mem_flatMap, refusal_eq_none]
  constructor
  · intro h r hr payload hpayload
    exact h payload ⟨r, hr, hpayload⟩
  · rintro h payload ⟨r, hr, hpayload⟩
    exact h r hr payload hpayload

theorem conclude_eq_ok {rs : List Reading} :
    (∃ summary, conclude rs = .ok summary) ↔ rs ≠ [] ∧ failuresOf rs = [] := by
  unfold conclude
  by_cases hrs : rs = []
  · simp [hrs]
  · by_cases hfailures : failuresOf rs = [] <;> simp [hrs, hfailures]

/-- A run passes when there are captures, each can be read and has payloads, and
each payload conforms. -/
theorem run_passes_iff (captures : List (String × List UInt8)) :
    (∃ summary, certify captures = .ok summary) ↔ captures ≠ [] ∧ ∀ capture ∈ captures, ∃ payloads,
      captureUdpPayloads capture.2 = .ok payloads ∧ payloads ≠ [] ∧ ∀ payload ∈ payloads, Conforms payload := by
  have hread (capture : String × List UInt8) : (∃ payloads, captureUdpPayloads capture.2 = .ok payloads ∧
      payloads ≠ [] ∧ ∀ payload ∈ payloads, Conforms payload) ↔
      ∃ r, readCapture capture = .ok r ∧ ∀ payload ∈ r.payloads, Conforms payload := by
    simp only [readCapture_eq_ok]
    constructor
    · rintro ⟨payloads, hfound, hne, hconforms⟩
      exact ⟨⟨capture.1, payloads⟩, ⟨hfound, hne, rfl⟩, hconforms⟩
    · rintro ⟨r, ⟨hfound, hne, -⟩, hconforms⟩
      exact ⟨r.payloads, hfound, hne, hconforms⟩
  simp only [hread, ← readAll_all, certify_eq, bind_eq_ok]
  constructor
  · rintro ⟨summary, rs, hrs, hsummary⟩
    obtain ⟨hne, hnil⟩ := conclude_eq_ok.mp ⟨summary, hsummary⟩
    exact ⟨mt (readAll_nil_iff hrs).mpr hne, rs, hrs, failuresOf_eq_nil.mp hnil⟩
  · rintro ⟨hne, rs, hrs, hconforms⟩
    obtain ⟨summary, hsummary⟩ := conclude_eq_ok.mpr
      ⟨mt (readAll_nil_iff hrs).mp hne, failuresOf_eq_nil.mpr hconforms⟩
    exact ⟨summary, rs, hrs, hsummary⟩

theorem readCapture_eq_err {capture : String × List UInt8} {e : Rejection} (h : readCapture capture = .err e) :
    (∃ error, e = .unreadable capture.1 error) ∨ e = .noPayloadsIn capture.1 := by
  obtain h | ⟨payloads, -, h⟩ := bind_eq_err.mp h
  · cases hread : captureUdpPayloads capture.2 with
    | ok payloads => simp [hread] at h
    | err error =>
        rw [hread, mapErr_err] at h
        exact .inl ⟨error, (Outcome.err.inj h).symm⟩
    | panic => simp [hread, mapErr] at h
  · split at h
    next => exact .inr (Outcome.err.inj h).symm
    next => cases h

theorem certify_eq_err {captures : List (String × List UInt8)} {e : Rejection} (h : certify captures = .err e)
    (hcapture : ∀ path, (∀ error, e ≠ .unreadable path error) ∧ e ≠ .noPayloadsIn path) :
    ∃ rs, readAll readCapture captures = .ok rs ∧ conclude rs = .err e := by
  rw [certify_eq] at h
  obtain h | h := bind_eq_err.mp h
  · obtain ⟨capture, -, h⟩ := readAll_err h
    obtain ⟨error, h⟩ | h := readCapture_eq_err h
    · exact absurd h ((hcapture capture.1).1 error)
    · exact absurd h (hcapture capture.1).2
  · exact h

/-- The counts of a run that passes are those of all the payloads of its captures; a
run that fails counts all the payloads that do, and shows the first of them. -/
theorem run_reports (captures : List (String × List UInt8)) :
    (∀ summary, certify captures = .ok summary → ∃ rs, readAll readCapture captures = .ok rs ∧
      summary = census (summaries rs) (payloadsOf rs)) ∧
    (∀ n failures, certify captures = .err (.failed n failures) ↔ ∃ rs, readAll readCapture captures = .ok rs ∧
      failuresOf rs ≠ [] ∧ n = (failuresOf rs).length ∧ failures = (failuresOf rs).take 16) ∧
    ∀ parsed udp, certify captures ≠ .err (.miscounted parsed udp) := by
  refine ⟨fun summary h => ?_, fun n failures => ⟨fun h => ?_, ?_⟩, fun parsed udp h => ?_⟩
  · rw [certify_eq] at h
    obtain ⟨rs, hrs, h⟩ := bind_eq_ok.mp h
    obtain ⟨-, h⟩ := ite_err_eq_ok.mp h
    obtain ⟨-, h⟩ := ite_err_eq_ok.mp h
    exact ⟨rs, hrs, (Outcome.ok.inj h).symm⟩
  · obtain ⟨rs, hrs, h⟩ := certify_eq_err h (by simp)
    refine ⟨rs, hrs, ?_⟩
    unfold conclude at h
    split at h
    next => cases h
    next =>
        split at h
        next hfailures =>
            cases h
            exact ⟨hfailures, rfl, rfl⟩
        next => cases h
  · rintro ⟨rs, hrs, hfailures, rfl, rfl⟩
    have hne : rs ≠ [] := by
      rintro rfl
      exact hfailures rfl
    rw [certify_eq, hrs, ok_bind, conclude, if_neg hne, if_pos hfailures, maxFailures]
  · obtain ⟨rs, -, h⟩ := certify_eq_err h (by simp)
    unfold conclude at h
    split at h
    next => cases h
    next =>
        split at h
        next => cases h
        next => cases h

end Runs

end Difi.Census
