import Nidavellir.F2Observation
import Nidavellir.Lib.Extremes
import Nidavellir.SafeLoop

namespace Nidavellir

open Extremes

def f2CrashProximityMinMv : Nat := 12

/-- The shallowest undervolt of the target that already failed. -/
def firstBadForTarget (obs : List F2Observation) (targetMhz : Nat) : Option F2Observation :=
  maxByKey F2Observation.anchorMv (obs.filter (·.isBadFor targetMhz))

def lastGoodForTarget (obs : List F2Observation) (targetMhz : Nat) : Option F2Observation :=
  let firstBadMv := (firstBadForTarget obs targetMhz).map F2Observation.anchorMv
  minByKey F2Observation.anchorMv ((obs.filter fun o =>
    o.targetMhz == targetMhz && o.outcome.isValidated).filter fun o =>
      firstBadMv.all (· < o.anchorMv))

structure VoltageBracket where
  firstBadMv : Nat
  lastGoodMv : Nat
  widthMv : Nat
deriving DecidableEq, Repr

def bracketForTarget (obs : List F2Observation) (targetMhz : Nat) : Option VoltageBracket := do
  let lastGoodMv ← (lastGoodForTarget obs targetMhz).map F2Observation.anchorMv
  let firstBadMv ← (firstBadForTarget obs targetMhz).map F2Observation.anchorMv
  if lastGoodMv > firstBadMv then
    some { firstBadMv, lastGoodMv, widthMv := lastGoodMv - firstBadMv }
  else none

def crashFloorForTarget (obs : List F2Observation) (targetMhz : Nat) : Option Nat :=
  ((obs.filter (·.isLossFor targetMhz)).map F2Observation.anchorMv).max?

/-- Longer and repeated dwells mature toward 0.99; a default dwell counts one unit. -/
def frontierConfidenceFromEvidence (validations : List F2Observation) : Float :=
  let evidenceUnits := validations.foldl (fun sum obs =>
    let duration := Float.ofNat (obs.dwellDurationMs.getD 15000) / 15000.0
    let sampleQuality := min (Float.ofNat (obs.sampleCount.getD 100) / 100.0) 1.0
    sum + duration * sampleQuality) 0.0
  if evidenceUnits ≤ 0.0 then 0.0 else min (1.0 - Float.pow 0.15 evidenceUnits) 0.99

structure F2FrontierEntry where
  targetMhz : Nat
  bestAnchorMv : Nat
  offsetMhz : Int
  watts : Option Nat
  maxWatts : Option Nat
  powerP99W : Option Float32
  avgClockMhz : Option Nat
  sustainedClockMhz : Option Nat
  sustainedUpperClockMhz : Option Nat
  powerCappedFrac : Option Float32
  dwellDurationMs : Option Nat
  sampleCount : Option Nat
  maxTempC : Option Float32
  thermalThrottled : Bool
  confidence : Float
  validationCount : Nat
  firstBadMv : Option Nat
  bracketWidthMv : Option Nat
  observationCount : Nat
  lastUpdated : String
  safetyNotes : Option String

def evidenceAt (obs : List F2Observation) (targetMhz anchorMv : Nat) : List F2Observation :=
  obs.filter fun o => o.targetMhz == targetMhz && o.outcome.isValidated &&
    o.anchorMv == anchorMv && (isCurrentDiscoveryEvidence o || isCurrentQualificationPass o)

def frontierEntryFromBest (obs : List F2Observation) (targetMhz : Nat)
    (best : F2Observation) : F2FrontierEntry :=
  let evidenceAtBest := evidenceAt obs targetMhz best.anchorMv
  let qualificationCount := (requiredQualificationPatterns.filter fun pattern =>
    evidenceAtBest.any fun o => isCurrentQualificationPass o && o.pattern == some pattern).length
  { targetMhz := targetMhz
    bestAnchorMv := best.anchorMv
    offsetMhz := best.offsetMhz
    watts := best.watts
    maxWatts := best.maxWatts
    powerP99W := best.powerP99W
    avgClockMhz := best.avgClockMhz
    sustainedClockMhz := best.sustainedClockMhz
    sustainedUpperClockMhz := best.sustainedUpperClockMhz
    powerCappedFrac := best.powerCappedFrac
    dwellDurationMs := best.dwellDurationMs
    sampleCount := best.sampleCount
    maxTempC := best.maxTempC
    thermalThrottled := best.thermalThrottled
    confidence := frontierConfidenceFromEvidence evidenceAtBest
    validationCount := qualificationCount
    firstBadMv := (firstBadForTarget obs targetMhz).map F2Observation.anchorMv
    bracketWidthMv := (bracketForTarget obs targetMhz).map VoltageBracket.widthMv
    observationCount := (obs.filter (·.targetMhz == targetMhz)).length
    lastUpdated := best.timestamp
    safetyNotes := none }

def discoveryFrontierCandidates (obs : List F2Observation) (targetMhz : Nat) :
    List F2Observation :=
  let crashFloor := crashFloorForTarget obs targetMhz
  let firstBadMv := (firstBadForTarget obs targetMhz).map F2Observation.anchorMv
  obs.filter fun o => o.targetMhz == targetMhz && o.outcome.isValidated &&
    isCurrentDiscoveryEvidence o && firstBadMv.all (· < o.anchorMv) &&
    crashFloor.all fun crashMv => saturatingAdd crashMv f2CrashProximityMinMv ≤ o.anchorMv

/-- Every required pattern has a current pass at exactly this pair. -/
def qualifiedAt (obs : List F2Observation) (targetMhz anchorMv : Nat) : Bool :=
  requiredQualificationPatterns.all fun pattern =>
    obs.any fun qualification => qualification.targetMhz == targetMhz &&
      qualification.anchorMv == anchorMv && isCurrentQualificationPass qualification &&
      qualification.pattern == some pattern

/-- The deepest current Discovery pass, qualified or not. -/
def frontierEntryForTarget (obs : List F2Observation) (targetMhz : Nat) :
    Option F2FrontierEntry :=
  (minByKey F2Observation.anchorMv (discoveryFrontierCandidates obs targetMhz)).map
    (frontierEntryFromBest obs targetMhz)

/-- The deepest entry that may be published. -/
def qualifiedFrontierEntryForTarget (obs : List F2Observation) (targetMhz : Nat) :
    Option F2FrontierEntry :=
  (minByKey F2Observation.anchorMv ((discoveryFrontierCandidates obs targetMhz).filter
    fun candidate => qualifiedAt obs targetMhz candidate.anchorMv)).map
    (frontierEntryFromBest obs targetMhz)

/-- The targets seen, rising, each once. -/
def frontierTargets (obs : List F2Observation) : List Nat :=
  dedup ((obs.map F2Observation.targetMhz).insertionSort (· ≤ ·))

def learnedFrontier (obs : List F2Observation) : List F2FrontierEntry :=
  (frontierTargets obs).filterMap (frontierEntryForTarget obs)

/-- The observations of one exact physical GPU; a line without a key belongs to none. -/
def onGpu (obs : List F2Observation) (gpuKey : String) : List F2Observation :=
  obs.filter (·.gpuKey == some gpuKey)

def learnedFrontierForGpu (obs : List F2Observation) (gpuKey : String) : List F2FrontierEntry :=
  learnedFrontier (onGpu obs gpuKey)

def qualifiedFrontierForGpu (obs : List F2Observation) (gpuKey : String) :
    List F2FrontierEntry :=
  (frontierTargets (onGpu obs gpuKey)).filterMap
    (qualifiedFrontierEntryForTarget (onGpu obs gpuKey))

theorem mem_frontierTargets {obs : List F2Observation} {t : Nat} :
    t ∈ frontierTargets obs ↔ ∃ o ∈ obs, o.targetMhz = t := by
  rw [frontierTargets, mem_dedup, List.mem_insertionSort, List.mem_map]

theorem mem_onGpu {obs : List F2Observation} {gpuKey : String} {o : F2Observation} :
    o ∈ onGpu obs gpuKey ↔ o ∈ obs ∧ o.gpuKey = some gpuKey := by
  simp [onGpu]

/-- What the log holds when `v` is a proven anchor of the target's physical frontier. -/
structure DiscoveredAt (obs : List F2Observation) (t v : Nat) : Prop where
  discovery : ∃ o ∈ obs, o.targetMhz = t ∧ o.anchorMv = v ∧ o.outcome = .validated ∧
    o.evidenceKind = .discovery ∧
    o.discoveryContractVersion = some f2DiscoveryContractVersion ∧ o.powerP99Confirmed ∧
    (o.resetToStockOk ∧ o.bootFlagCleared) ∧ hasReproducibleProvenance o
  aboveBad : ∀ o ∈ obs, o.targetMhz = t → o.evidenceKind ≠ .applyQualification →
    o.outcome.isBad → o.anchorMv < v
  aboveLoss : ∀ o ∈ obs, o.targetMhz = t → o.deviceLost ∨ o.outcome = .deviceLost →
    saturatingAdd o.anchorMv f2CrashProximityMinMv ≤ v

/-- A proven anchor that also passed every required qualification pattern. -/
structure PublishableAt (obs : List F2Observation) (t v : Nat) : Prop
    extends DiscoveredAt obs t v where
  qualified : ∀ pattern ∈ requiredQualificationPatterns, ∃ q ∈ obs, q.targetMhz = t ∧
    q.anchorMv = v ∧ isCurrentQualificationPass q ∧ q.pattern = some pattern

theorem firstBadForTarget_all_iff {obs : List F2Observation} {t v : Nat} :
    (((firstBadForTarget obs t).map F2Observation.anchorMv).all (· < v)) ↔
      ∀ o ∈ obs, o.targetMhz = t → o.evidenceKind ≠ .applyQualification →
        o.outcome.isBad → o.anchorMv < v := by
  rw [firstBadForTarget, maxByKey_all_iff fun x y hxy hy => lt_of_le_of_lt hxy hy]
  simp only [List.mem_filter, F2Observation.isBadFor, Bool.and_eq_true, beq_iff_eq, bne_iff_ne,
    and_imp, and_assoc]

theorem crashFloorForTarget_all_iff {obs : List F2Observation} {t v : Nat} :
    ((crashFloorForTarget obs t).all fun crashMv =>
      saturatingAdd crashMv f2CrashProximityMinMv ≤ v) ↔
      ∀ o ∈ obs, o.targetMhz = t → o.deviceLost ∨ o.outcome = .deviceLost →
        saturatingAdd o.anchorMv f2CrashProximityMinMv ≤ v := by
  have hmono : ∀ x y, x ≤ y → saturatingAdd y f2CrashProximityMinMv ≤ v →
      saturatingAdd x f2CrashProximityMinMv ≤ v := by
    intro x y hxy hy
    unfold saturatingAdd at hy ⊢
    omega
  rw [crashFloorForTarget, max?_all_iff hmono]
  simp only [List.forall_mem_map, List.mem_filter, F2Observation.isLossFor, Bool.and_eq_true,
    Bool.or_eq_true, beq_iff_eq, and_imp]

theorem discoveredAt_iff {obs : List F2Observation} {t v : Nat} :
    DiscoveredAt obs t v ↔
      ∃ o ∈ discoveryFrontierCandidates obs t, o.anchorMv = v := by
  have hmem : ∀ o, o ∈ discoveryFrontierCandidates obs t ↔
      o ∈ obs ∧ o.targetMhz = t ∧ o.outcome.isValidated ∧ isCurrentDiscoveryEvidence o ∧
        (((firstBadForTarget obs t).map F2Observation.anchorMv).all (· < o.anchorMv)) ∧
        (crashFloorForTarget obs t).all fun crashMv =>
          saturatingAdd crashMv f2CrashProximityMinMv ≤ o.anchorMv := by
    intro o
    simp only [discoveryFrontierCandidates, List.mem_filter, Bool.and_eq_true, beq_iff_eq,
      and_assoc]
  constructor
  · intro h
    obtain ⟨o, ho, ht, rfl, hval, hev⟩ := h.discovery
    refine ⟨o, (hmem o).mpr ⟨ho, ht, F2ObsOutcome.isValidated_iff.mpr hval,
      isCurrentDiscoveryEvidence_iff.mpr hev, ?_, ?_⟩, rfl⟩
    · exact firstBadForTarget_all_iff.mpr h.aboveBad
    · exact crashFloorForTarget_all_iff.mpr h.aboveLoss
  · intro h
    obtain ⟨o, ho, rfl⟩ := h
    obtain ⟨ho, ht, hval, hev, hbad, hloss⟩ := (hmem o).mp ho
    exact {
      discovery := ⟨o, ho, ht, rfl, F2ObsOutcome.isValidated_iff.mp hval,
        isCurrentDiscoveryEvidence_iff.mp hev⟩
      aboveBad := firstBadForTarget_all_iff.mp hbad
      aboveLoss := crashFloorForTarget_all_iff.mp hloss }

theorem qualifiedAt_iff {obs : List F2Observation} {t v : Nat} :
    qualifiedAt obs t v ↔
      ∀ pattern ∈ requiredQualificationPatterns, ∃ q ∈ obs, q.targetMhz = t ∧
        q.anchorMv = v ∧ isCurrentQualificationPass q ∧ q.pattern = some pattern := by
  simp only [qualifiedAt, List.all_eq_true, List.any_eq_true, Bool.and_eq_true, beq_iff_eq,
    and_assoc]

theorem publishableAt_iff {obs : List F2Observation} {t v : Nat} :
    PublishableAt obs t v ↔
      ∃ o ∈ (discoveryFrontierCandidates obs t).filter fun candidate =>
        qualifiedAt obs t candidate.anchorMv, o.anchorMv = v := by
  constructor
  · intro h
    obtain ⟨o, ho, rfl⟩ := discoveredAt_iff.mp h.toDiscoveredAt
    exact ⟨o, List.mem_filter.mpr ⟨ho, qualifiedAt_iff.mpr h.qualified⟩, rfl⟩
  · intro h
    obtain ⟨o, ho, rfl⟩ := h
    obtain ⟨ho, hq⟩ := List.mem_filter.mp ho
    exact ⟨discoveredAt_iff.mpr ⟨o, ho, rfl⟩, qualifiedAt_iff.mp hq⟩

/-- The physical entry of a target sits at the lowest proven anchor. -/
theorem frontierEntryForTarget_isLeast {obs : List F2Observation} {t : Nat}
    {e : F2FrontierEntry} (h : frontierEntryForTarget obs t = some e) :
    e.targetMhz = t ∧ IsLeast {v | DiscoveredAt obs t v} e.bestAnchorMv := by
  obtain ⟨best, hbest, rfl⟩ := Option.map_eq_some_iff.mp h
  exact ⟨rfl, minByKey_isLeast (fun v => discoveredAt_iff) hbest⟩

theorem frontierEntryForTarget_isSome {obs : List F2Observation} {t v : Nat}
    (h : DiscoveredAt obs t v) : ∃ e, frontierEntryForTarget obs t = some e := by
  obtain ⟨o, ho, -⟩ := discoveredAt_iff.mp h
  apply Option.isSome_iff_exists.mp
  rw [frontierEntryForTarget, Option.isSome_map, Option.isSome_iff_ne_none, Ne,
    minByKey_eq_none]
  exact List.ne_nil_of_mem ho

theorem qualifiedFrontierEntryForTarget_isLeast {obs : List F2Observation} {t : Nat}
    {e : F2FrontierEntry} (h : qualifiedFrontierEntryForTarget obs t = some e) :
    e.targetMhz = t ∧ IsLeast {v | PublishableAt obs t v} e.bestAnchorMv := by
  obtain ⟨best, hbest, rfl⟩ := Option.map_eq_some_iff.mp h
  exact ⟨rfl, minByKey_isLeast (fun v => publishableAt_iff) hbest⟩

theorem qualifiedFrontierEntryForTarget_isSome {obs : List F2Observation} {t v : Nat}
    (h : PublishableAt obs t v) : ∃ e, qualifiedFrontierEntryForTarget obs t = some e := by
  obtain ⟨o, ho, -⟩ := publishableAt_iff.mp h
  apply Option.isSome_iff_exists.mp
  rw [qualifiedFrontierEntryForTarget, Option.isSome_map, Option.isSome_iff_ne_none, Ne,
    minByKey_eq_none]
  exact List.ne_nil_of_mem ho

theorem mem_learnedFrontierForGpu {obs : List F2Observation} {gpuKey : String}
    {e : F2FrontierEntry} :
    e ∈ learnedFrontierForGpu obs gpuKey ↔
      frontierEntryForTarget (onGpu obs gpuKey) e.targetMhz = some e := by
  rw [learnedFrontierForGpu, learnedFrontier, List.mem_filterMap]
  constructor
  · intro h
    obtain ⟨t, -, ht⟩ := h
    rwa [(frontierEntryForTarget_isLeast ht).1]
  · intro h
    obtain ⟨o, ho, hot, -⟩ := (frontierEntryForTarget_isLeast h).2.1.discovery
    exact ⟨e.targetMhz, mem_frontierTargets.mpr ⟨o, ho, hot⟩, h⟩

theorem mem_qualifiedFrontierForGpu {obs : List F2Observation} {gpuKey : String}
    {e : F2FrontierEntry} :
    e ∈ qualifiedFrontierForGpu obs gpuKey ↔
      qualifiedFrontierEntryForTarget (onGpu obs gpuKey) e.targetMhz = some e := by
  rw [qualifiedFrontierForGpu, List.mem_filterMap]
  constructor
  · intro h
    obtain ⟨t, -, ht⟩ := h
    rwa [(qualifiedFrontierEntryForTarget_isLeast ht).1]
  · intro h
    obtain ⟨o, ho, hot, -⟩ := (qualifiedFrontierEntryForTarget_isLeast h).2.1.discovery
    exact ⟨e.targetMhz, mem_frontierTargets.mpr ⟨o, ho, hot⟩, h⟩

/-- Each target with a publishable anchor has its entry in the published frontier. -/
theorem qualifiedFrontierForGpu_complete {obs : List F2Observation} {gpuKey : String} {t v : Nat}
    (h : PublishableAt (onGpu obs gpuKey) t v) :
    ∃ e ∈ qualifiedFrontierForGpu obs gpuKey, e.targetMhz = t := by
  obtain ⟨e, he⟩ := qualifiedFrontierEntryForTarget_isSome h
  have ht := (qualifiedFrontierEntryForTarget_isLeast he).1
  exact ⟨e, mem_qualifiedFrontierForGpu.mpr (by rwa [ht]), ht⟩

/-- A published entry sits at the lowest publishable anchor of its target on that GPU, and the
target's learned entry on the same GPU exists and lies no higher. -/
theorem qualifiedFrontier_sound (obs : List F2Observation) (gpuKey : String)
    (e : F2FrontierEntry) (he : e ∈ qualifiedFrontierForGpu obs gpuKey) :
    IsLeast {v | PublishableAt (onGpu obs gpuKey) e.targetMhz v} e.bestAnchorMv ∧
      ∃ d ∈ learnedFrontierForGpu obs gpuKey, d.targetMhz = e.targetMhz ∧
        d.bestAnchorMv ≤ e.bestAnchorMv ∧
        ∀ d' ∈ learnedFrontierForGpu obs gpuKey, d'.targetMhz = e.targetMhz → d' = d := by
  have hleast := (qualifiedFrontierEntryForTarget_isLeast (mem_qualifiedFrontierForGpu.mp he)).2
  have hdiscovered := hleast.1.toDiscoveredAt
  obtain ⟨d, hd⟩ := frontierEntryForTarget_isSome hdiscovered
  obtain ⟨ht, hdleast⟩ := frontierEntryForTarget_isLeast hd
  refine ⟨hleast, d, mem_learnedFrontierForGpu.mpr (by rwa [ht]), ht, ?_, ?_⟩
  · exact hdleast.2 hdiscovered
  · intro d' hd' ht'
    have hd'' := mem_learnedFrontierForGpu.mp hd'
    rw [ht', hd] at hd''
    exact (Option.some.inj hd'').symm

def reproducibleProvenance : F2EvidenceProvenance where
  buildVersion := some "0.1.0"
  buildRevision := some "d449b63-dirty"
  workloadFingerprint := some "vf-qualifier-v16-texture"
  renderBackend := some "dx12"
  adapterName := some "NVIDIA GeForce RTX 3060 Ti"
  driverName := some "NVIDIA"
  driverInfo := some "32.0.15.7688"
  checksumMethod := some "gpu-reduction-sparse-readback"
  goldenConfig := some "capture_ms=2000;power=1;boost=2;texrop=3"

/-- One reset-clean discovery dwell under the current contract. -/
def discoveryObservation (targetMhz anchorMv : Nat) (outcome : F2ObsOutcome) :
    F2Observation where
  runId := "run-test"
  timestamp := "2026-06-21T00:00:00Z"
  gpuKey := some "RTX 3060 Ti"
  evidenceKind := .discovery
  discoveryContractVersion := some f2DiscoveryContractVersion
  qualificationContractVersion := none
  qualificationCoverage := none
  evidenceProvenance := some reproducibleProvenance
  mode := .targetSweep
  targetMhz := targetMhz
  requestedStartMv := none
  anchorMv := anchorMv
  baseMhz := targetMhz - 15
  offsetMhz := 15
  positiveOffsetCapMhz := 30
  higherBinsCapped := 26
  maxFlattenMhz := 150
  lowerBinsElastic := 40
  verifierResult := if outcome.isValidated then .raiseVerified else .unverifiable
  dwellResult := if outcome.isValidated then .stable else .unstable
  avgClockMhz := some (targetMhz + 15)
  sustainedClockMhz := some (targetMhz + 15)
  sustainedUpperClockMhz := some (targetMhz + 15)
  watts := some 180
  maxWatts := some 188
  powerP99W := some 186.0
  powerP99Confirmed := true
  powerP99Attempts := 1
  measuredVoltageMinMv := some anchorMv
  measuredVoltageAvgMv := some anchorMv
  measuredVoltageMaxMv := some anchorMv
  measuredVoltageSampleCount := 1
  renderFrames := some 900
  renderFps := some 60.0
  powerCappedFrac := some 0.0
  maxTempC := some 68.0
  thermalThrottled := false
  dwellDurationMs := some 15000
  sampleCount := some 300
  silentError := false
  deviceLost := false
  unstable := !outcome.isValidated
  clockDrop := false
  tdrOrCrash := false
  resetToStockAttempted := true
  resetToStockOk := true
  bootFlagCleared := true
  blacklisted := false
  outcome := outcome
  confidence := if outcome.isValidated then some 0.86 else none
  notes := none

/-- The Texture pass of the current qualification contract at one pair. -/
def qualificationPass (targetMhz anchorMv : Nat) : F2Observation :=
  { discoveryObservation targetMhz anchorMv .validated with
    evidenceKind := .qualification
    discoveryContractVersion := none
    qualificationContractVersion := some f2QualificationContractVersion
    qualificationCoverage := some {
      strength := .fsgl4
      pattern := some .texture
      passIndex := 2
      verdict := .pass
      phasesCompleted := 8
      phasesExpected := 8
      checksumCount := 8
      sampleCount := 100
      computeCheckCount := 1
      targetResidencyFrac := some 1.0
      heavyLightPowerDeltaW := some 20.0
      failurePhase := none
      retryCount := 0
      reason := none
      phaseMetrics := [] } }

/-- A log whose deepest discovery at the target failed and whose next one is qualified. -/
def qualifiedLog (targetMhz anchorMv lossMv : Nat) : List F2Observation :=
  [discoveryObservation targetMhz lossMv .deviceLost,
    discoveryObservation targetMhz anchorMv .validated, qualificationPass targetMhz anchorMv]

theorem mem_qualifiedFrontier_qualifiedLog :
    frontierEntryFromBest (qualifiedLog 1845 850 838) 1845
        (discoveryObservation 1845 850 .validated) ∈
      qualifiedFrontierForGpu (qualifiedLog 1845 850 838) "RTX 3060 Ti" :=
  mem_qualifiedFrontierForGpu.mpr rfl

/-- The published entry of a log with one qualified pair. -/
theorem qualifiedFrontier_sound_of_log :
    frontierEntryFromBest (qualifiedLog 1845 850 838) 1845
        (discoveryObservation 1845 850 .validated) ∈
      qualifiedFrontierForGpu (qualifiedLog 1845 850 838) "RTX 3060 Ti" ∧
    IsLeast {v | PublishableAt (onGpu (qualifiedLog 1845 850 838) "RTX 3060 Ti") 1845 v} 850 :=
  ⟨mem_qualifiedFrontier_qualifiedLog,
    (qualifiedFrontier_sound _ _ _ mem_qualifiedFrontier_qualifiedLog).1⟩

/-- At the top of `u32` the margin saturates: a device loss 5 mV below is tolerated. -/
theorem qualifiedFrontier_margin_saturates :
    ¬ ∀ (obs : List F2Observation) (gpuKey : String) (e : F2FrontierEntry),
      e ∈ qualifiedFrontierForGpu obs gpuKey → ∀ o ∈ obs, o.gpuKey = some gpuKey →
        o.targetMhz = e.targetMhz → o.deviceLost ∨ o.outcome = .deviceLost →
          o.anchorMv + f2CrashProximityMinMv ≤ e.bestAnchorMv := by
  intro h
  have hmem : frontierEntryFromBest (qualifiedLog 1845 4294967295 4294967290) 1845
        (discoveryObservation 1845 4294967295 .validated) ∈
      qualifiedFrontierForGpu (qualifiedLog 1845 4294967295 4294967290) "RTX 3060 Ti" :=
    mem_qualifiedFrontierForGpu.mpr rfl
  have hmargin := h _ _ _ hmem (discoveryObservation 1845 4294967290 .deviceLost)
    (List.mem_cons_self ..) rfl rfl (Or.inr rfl)
  revert hmargin
  decide

end Nidavellir
