import Nidavellir.EvidenceLogs

namespace Nidavellir

open JsonLines Text

/-- A torn append costs nothing that was or becomes readable, in either log, exactly when it is
harmless: the bytes `written` of the line of `e` behind `file`, then the appends of `later`. -/
theorem tornAppend_kept_iff {ledgerJson : SerdeJson CondemnationEvent}
    {okEvent : CondemnationEvent → Prop} (hledger : ledgerJson.Documented okEvent)
    {obsJson : SerdeJson F2Observation} {okObs : F2Observation → Prop}
    (hobs : obsJson.Documented okObs) :
    (∀ (file written rest : ByteArray) (e : CondemnationEvent) (later : List CondemnationEvent),
      okEvent e → (∀ e' ∈ later, okEvent e') →
      written ++ rest = CondemnationLedger.append ledgerJson .empty e →
      ((∃ first, (first = [] ∨ first = [e]) ∧
        CondemnationLedger.loadAll ledgerJson
          (later.foldl (CondemnationLedger.append ledgerJson) (file ++ written)) =
          CondemnationLedger.loadAll ledgerJson file ++ first ++ later) ↔
        (CondemnationLedger.format ledgerJson).TornHarmless file written e later)) ∧
    ∀ (file written rest : ByteArray) (o : F2Observation) (later : List F2Observation),
      okObs o → (∀ o' ∈ later, okObs o') →
      written ++ rest = F2ObservationStore.append obsJson .empty o →
      ((∃ first, (first = [] ∨ first = [o]) ∧
        F2ObservationStore.loadAll obsJson
          (later.foldl (F2ObservationStore.append obsJson) (file ++ written)) =
          F2ObservationStore.loadAll obsJson file ++ first ++ later) ↔
        (F2ObservationStore.format obsJson).TornHarmless file written o later) := by
  refine ⟨?_, ?_⟩
  · intro file written rest e later he hlater hline
    have hwritten : written ++ rest = (CondemnationLedger.format ledgerJson).line e := by
      rw [hline]
      exact ByteArray.empty_append
    have hkept : Format.Kept _ file written e later ↔ _ :=
      Format.kept_iff_tornHarmless (CondemnationLedger.format_lawful hledger) he hlater hwritten
    simp only [CondemnationLedger.loadAll_eq]
    exact hkept
  · intro file written rest o later ho hlater hline
    have hwritten : written ++ rest = (F2ObservationStore.format obsJson).line o := by
      rw [hline]
      exact ByteArray.empty_append
    have hkept : Format.Kept _ file written o later ↔ _ :=
      Format.kept_iff_tornHarmless (F2ObservationStore.format_lawful hobs) ho hlater hwritten
    simp only [F2ObservationStore.loadAll_eq]
    exact hkept

/-- `serde_json` on one value: it writes `line` and reads it back behind whitespace. -/
def fixedJson {α : Type} (line : List Char) (e : α) : SerdeJson α where
  toString _ := line
  fromStr s := if s.dropWhile isJsonWhitespace = line then some e else none

theorem fixedJson_documented {α : Type} {line body : List Char} {e : α}
    (hline : line = '{' :: body ++ ['}']) (hbody : body.all fun c => c != '{' && c != '\n') :
    (fixedJson line e).Documented (· = e) := by
  have hplain : ∀ c ∈ body, c ≠ '{' ∧ c ≠ '\n' := by simpa using hbody
  have hbrace : '{' ∉ body := fun hmem => (hplain _ hmem).1 rfl
  have hnewline : '\n' ∉ body := fun hmem => (hplain _ hmem).2 rfl
  have hread : ∀ x rest : List Char,
      (x ++ '{' :: rest).dropWhile isJsonWhitespace =
        x.dropWhile isJsonWhitespace ++ '{' :: rest :=
    fun x rest => dropWhile_append_kept rfl x rest
  have hblank : ∀ x : List Char, x.all isJsonWhitespace ↔
      x.dropWhile isJsonWhitespace = [] := by
    intro x
    rw [List.dropWhile_eq_nil_iff, List.all_eq_true]
  have hopen : line = '{' :: (body ++ ['}']) := hline
  refine ⟨?_, ?_, ?_, ?_, ?_, ?_⟩
  · intro e' he'
    exact ⟨body, hline⟩
  · intro e' he'
    show '\n' ∉ line
    rw [hopen]
    simp [hnewline]
  · intro e' x he' hx
    obtain rfl := he'
    show (if (x ++ line).dropWhile isJsonWhitespace = line then some e' else none) = some e'
    rw [hopen, hread, (hblank x).mp hx, List.nil_append, if_pos rfl]
  · intro e' x he' hx
    show (if (x ++ line).dropWhile isJsonWhitespace = line then some e else none) = none
    rw [hopen, hread, if_neg]
    intro heq
    have hlen := congrArg List.length heq
    rw [List.length_append] at hlen
    exact hx ((hblank x).mpr (List.eq_nil_of_length_eq_zero (by omega)))
  · intro e' x q he' hq hpre hne
    obtain ⟨rest, rfl⟩ : ∃ rest, q = '{' :: rest := by
      have hpre' : q <+: '{' :: (body ++ ['}']) := hopen ▸ hpre
      cases q with
      | nil => exact absurd rfl hq
      | cons c rest =>
        obtain ⟨rfl, -⟩ := List.cons_prefix_cons.mp hpre'
        exact ⟨rest, rfl⟩
    show (if (x ++ '{' :: rest).dropWhile isJsonWhitespace = line then some e else none) = none
    rw [hread, if_neg]
    intro heq
    cases hx : x.dropWhile isJsonWhitespace with
    | nil =>
      rw [hx] at heq
      exact hne heq
    | cons c y =>
      rw [hx, hopen] at heq
      obtain ⟨-, htail⟩ := List.cons.inj heq
      have hmem : '{' ∈ body ++ ['}'] := by
        rw [← htail]
        simp
      simp [hbrace] at hmem
  · intro x hx
    show (if x.dropWhile isJsonWhitespace = line then some e else none) = none
    rw [(hblank x).mp hx, hopen]
    rfl

/-- One member of a JSON object: its key and the text of its value. -/
def jsonMember (key value : String) : List Char :=
  '"' :: key.toList ++ '"' :: ':' :: value.toList

def jsonBody (members : List (String × String)) : List Char :=
  [','].intercalate (members.map fun m => jsonMember m.1 m.2)

def condemnationBody : List Char :=
  jsonBody [("timestamp", "\"2026-07-15T00:00:00Z\""), ("gpu_key", "\"gpu-a\""),
    ("severity", "\"rigid\""), ("kind", "\"device-lost\""), ("target_mhz", "1845"),
    ("vf_bin_mv", "856"), ("run_id", "null"), ("qualification_contract_version", "null"),
    ("note", "null"), ("rehabilitated", "false")]

def condemnationJson : SerdeJson CondemnationEvent :=
  fixedJson ('{' :: condemnationBody ++ ['}']) (rigidCondemnation 1845 856)

theorem condemnationJson_documented :
    condemnationJson.Documented (· = rigidCondemnation 1845 856) :=
  fixedJson_documented rfl (by decide +kernel)

/-- A candidate the planner refused: nothing was written and nothing measured. -/
def refusedObservation : F2Observation where
  runId := "run-test"
  timestamp := "2026-06-21T00:00:00Z"
  gpuKey := some "gpu-a"
  evidenceKind := .discovery
  discoveryContractVersion := some 6
  qualificationContractVersion := none
  qualificationCoverage := none
  evidenceProvenance := none
  mode := .targetSweep
  targetMhz := 1845
  requestedStartMv := none
  anchorMv := 850
  baseMhz := 1830
  offsetMhz := 15
  positiveOffsetCapMhz := 30
  higherBinsCapped := 26
  maxFlattenMhz := 150
  lowerBinsElastic := 40
  verifierResult := .notRun
  dwellResult := .notRun
  avgClockMhz := none
  sustainedClockMhz := none
  sustainedUpperClockMhz := none
  watts := none
  maxWatts := none
  powerP99W := none
  powerP99Confirmed := false
  powerP99Attempts := 0
  measuredVoltageMinMv := none
  measuredVoltageAvgMv := none
  measuredVoltageMaxMv := none
  measuredVoltageSampleCount := 0
  renderFrames := none
  renderFps := none
  powerCappedFrac := none
  maxTempC := none
  thermalThrottled := false
  dwellDurationMs := none
  sampleCount := none
  silentError := false
  deviceLost := false
  unstable := false
  clockDrop := false
  tdrOrCrash := false
  resetToStockAttempted := false
  resetToStockOk := false
  bootFlagCleared := true
  blacklisted := false
  outcome := .rejectedByPlanner
  confidence := none
  notes := none

def refusedBody : List Char :=
  jsonBody [("run_id", "\"run-test\""), ("timestamp", "\"2026-06-21T00:00:00Z\""),
    ("gpu_key", "\"gpu-a\""), ("evidence_kind", "\"discovery\""),
    ("discovery_contract_version", "6"), ("qualification_contract_version", "null"),
    ("qualification_coverage", "null"), ("mode", "\"target-sweep\""), ("target_mhz", "1845"),
    ("requested_start_mv", "null"), ("anchor_mv", "850"), ("base_mhz", "1830"),
    ("offset_mhz", "15"), ("positive_offset_cap_mhz", "30"), ("higher_bins_capped", "26"),
    ("max_flatten_mhz", "150"), ("lower_bins_elastic", "40"),
    ("verifier_result", "\"not_run\""), ("dwell_result", "\"not_run\""),
    ("avg_clock_mhz", "null"), ("sustained_clock_mhz", "null"),
    ("sustained_upper_clock_mhz", "null"), ("watts", "null"), ("max_watts", "null"),
    ("power_p99_w", "null"), ("power_p99_confirmed", "false"), ("power_p99_attempts", "0"),
    ("measured_voltage_min_mv", "null"), ("measured_voltage_avg_mv", "null"),
    ("measured_voltage_max_mv", "null"), ("measured_voltage_sample_count", "0"),
    ("render_frames", "null"), ("render_fps", "null"), ("power_capped_frac", "null"),
    ("max_temp_c", "null"), ("thermal_throttled", "false"), ("dwell_duration_ms", "null"),
    ("sample_count", "null"), ("silent_error", "false"), ("device_lost", "false"),
    ("unstable", "false"), ("clock_drop", "false"), ("tdr_or_crash", "false"),
    ("reset_to_stock_attempted", "false"), ("reset_to_stock_ok", "false"),
    ("boot_flag_cleared", "true"), ("blacklisted", "false"),
    ("outcome", "\"rejected_by_planner\""), ("confidence", "null"), ("notes", "null")]

def refusedJson : SerdeJson F2Observation :=
  fixedJson ('{' :: refusedBody ++ ['}']) refusedObservation

theorem refusedJson_documented : refusedJson.Documented (· = refusedObservation) :=
  fixedJson_documented rfl (by decide +kernel)

theorem cut_line {line body : List Char} (hline : line = '{' :: body ++ ['}']) :
    Utf8.encode ['{'] ++ Utf8.encode (body ++ ['}', '\n']) = Utf8.encode (line ++ ['\n']) := by
  rw [← Utf8.encode_append, hline]
  simp

/-- A write cut behind its first byte, after a whole line: no later entry is there to be lost. -/
theorem tornHarmless_after_line {α : Type} {fmt : Format α} {ok : α → Prop} (hfmt : fmt.Lawful ok)
    {e : α} (he : ok e) : fmt.TornHarmless (fmt.append .empty e) (Utf8.encode ['{']) e [] := by
  have hfile : fmt.append .empty e = Utf8.encode (joinLines [fmt.encode e] ++ []) := by
    rw [Format.append, Format.line, ByteArray.empty_append]
    simp [joinLines]
  rw [hfile]
  refine .written ?_ (by simp) ?_ (.inl rfl)
  · rw [← Utf8.encode_append]
    exact Utf8.isValidUTF8_encode _
  · rw [Format.openLineOf_encode, openLine,
      splitLines_join (by simpa using hfmt.one_line e he) (by simp)]
    exact hfmt.read_blank [] hfmt.blank_nil

/-- A torn byte behind a whole line costs nothing until the next append. -/
theorem tornAppend_kept_after_first_byte :
    (∃ first, (first = [] ∨ first = [rigidCondemnation 1845 856]) ∧
      CondemnationLedger.loadAll condemnationJson
        (CondemnationLedger.append condemnationJson .empty (rigidCondemnation 1845 856) ++
          Utf8.encode ['{']) =
        CondemnationLedger.loadAll condemnationJson
          (CondemnationLedger.append condemnationJson .empty (rigidCondemnation 1845 856)) ++
            first ++ []) ∧
    ∃ first, (first = [] ∨ first = [refusedObservation]) ∧
      F2ObservationStore.loadAll refusedJson
        (F2ObservationStore.append refusedJson .empty refusedObservation ++ Utf8.encode ['{']) =
        F2ObservationStore.loadAll refusedJson
          (F2ObservationStore.append refusedJson .empty refusedObservation) ++ first ++ [] := by
  have hkept := tornAppend_kept_iff condemnationJson_documented refusedJson_documented
  refine ⟨?_, ?_⟩
  · exact (hkept.1 _ _ _ _ [] rfl (by simp) ((cut_line rfl).trans ByteArray.empty_append.symm)).mpr
      (tornHarmless_after_line (CondemnationLedger.format_lawful condemnationJson_documented) rfl)
  · exact (hkept.2 _ _ _ _ [] rfl (by simp) ((cut_line rfl).trans ByteArray.empty_append.symm)).mpr
      (tornHarmless_after_line (F2ObservationStore.format_lawful refusedJson_documented) rfl)

/-- After a write cut behind its first byte the next condemnation is lost. -/
theorem tornAppend_loses_next_condemnation :
    ¬ ∀ (json : SerdeJson CondemnationEvent) (ok : CondemnationEvent → Prop),
      json.Documented ok → ∀ (file written rest : ByteArray) (e : CondemnationEvent)
        (later : List CondemnationEvent), ok e → (∀ e' ∈ later, ok e') →
        written ++ rest = CondemnationLedger.append json .empty e →
        ∃ first, (first = [] ∨ first = [e]) ∧
          CondemnationLedger.loadAll json
            (later.foldl (CondemnationLedger.append json) (file ++ written)) =
            CondemnationLedger.loadAll json file ++ first ++ later := by
  intro h
  have hline : Utf8.encode ['{'] ++ Utf8.encode (condemnationBody ++ ['}', '\n']) =
      (CondemnationLedger.format condemnationJson).line (rigidCondemnation 1845 856) :=
    cut_line rfl
  have happend : Utf8.encode ['{'] ++ Utf8.encode (condemnationBody ++ ['}', '\n']) =
      CondemnationLedger.append condemnationJson .empty (rigidCondemnation 1845 856) := by
    rw [hline]
    exact ByteArray.empty_append.symm
  have hkept := h condemnationJson _ condemnationJson_documented .empty _ _ _
    [rigidCondemnation 1845 856] rfl (by simp) happend
  simp only [CondemnationLedger.loadAll_eq] at hkept
  have hharmless := (Format.kept_iff_tornHarmless
    (CondemnationLedger.format_lawful condemnationJson_documented) rfl (by simp) hline).mp hkept
  cases hharmless with
  | unreadable _ hlater => simp at hlater
  | unwritten _ hwritten => exact absurd (Utf8.encode_eq_empty_iff.mp hwritten) (by simp)
  | written _ _ _ hlater =>
    rcases hlater with hnil | hwhole
    · simp at hnil
    · rw [← hline, ← Utf8.encode_append] at hwhole
      have hlen := congrArg List.length (Utf8.encode_injective hwhole)
      simp at hlen

end Nidavellir
