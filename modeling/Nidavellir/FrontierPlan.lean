import Nidavellir.CoreDomain

namespace Nidavellir

/-- `voltageLimited` is reserved; no sample is classified as it. -/
inductive Regime
  | powerLimited
  | voltageLimited
  | thermalLimited
  | mixed
  | unconstrained
deriving DecidableEq, Repr

def classifyRegime (capFraction powerW powerLimitW : ℚ) (tempC : Option ℚ) : Regime :=
  let nearPower := decide (1 / 2 < capFraction) ||
    (decide (0 < powerLimitW) && decide (95 / 100 * powerLimitW ≤ powerW))
  let nearThermal := tempC.any fun t => decide (83 ≤ t)
  match nearPower, nearThermal with
  | true, true => .mixed
  | true, false => .powerLimited
  | false, true => .thermalLimited
  | false, false => .unconstrained

/-- The loop over the candidates; every turn lowers the clock, so `clock + 1` turns are enough. -/
def clocksFrom (step floor : Nat) : Nat → Nat → List Nat
  | 0, _ => []
  | turns + 1, clock =>
    if clock < floor then []
    else clock :: if clock < step then [] else clocksFrom step floor turns (clock - step)

/-- `f64::round` of a clock that is not negative. -/
def roundMhz (clock : ℚ) : Nat := (clock + 1 / 2).floor.toNat

def candidateClocks (stockSustainedMhz stockBoostMaxMhz : Nat) (regime : Regime) (step : Nat)
    (floorFrac : ℚ) : List Nat :=
  let step := max step 1
  let top :=
    match regime with
    | .unconstrained => max stockBoostMaxMhz stockSustainedMhz + 3 * step
    | _ => stockSustainedMhz
  clocksFrom step (roundMhz (stockSustainedMhz * floorFrac)) (top + 1) top

structure FrontierLimits where
  maxTargets : Option Nat := none
  maxProbes : Option Nat := none
  maxProbesPerTarget : Option Nat := none
  safeStartCapMv : Option Nat := none
  warmStartBrackets : Bool := false
  bindSeeking : Bool := false
  powerBoundKneeSeeking : Bool := false
  phaseBProbes : Option Nat := none
deriving DecidableEq

def validateLimits (l : FrontierLimits) (lowestSafeMv : Nat) : Except String Unit :=
  if l.maxTargets = some 0 then .error "--max-targets must be >= 1"
  else if l.maxProbes = some 0 then .error "--max-probes must be >= 1"
  else if l.maxProbesPerTarget = some 0 then .error "--max-probes-per-target must be >= 1"
  else if l.phaseBProbes = some 0 then .error "--phase-b-probes must be >= 1"
  else
    match l.safeStartCapMv with
    | none => .ok ()
    | some cap =>
      if cap ≤ lowestSafeMv then
        .error s!"--safe-start-cap {cap} mV must be > the crash floor {lowestSafeMv} mV"
      else .ok ()

/-- The first targets, and the start of the descent: lowered to the cap, never below the floor. -/
def applyFrontierLimits (targets : List Nat) (derivedSafeStartMv lowestSafeMv : Nat)
    (limits : FrontierLimits) : List Nat × Nat :=
  let targets :=
    match limits.maxTargets with
    | some n => targets.take n
    | none => targets
  let safeStart :=
    match limits.safeStartCapMv with
    | some cap => if cap < derivedSafeStartMv then max cap lowestSafeMv else derivedSafeStartMv
    | none => derivedSafeStartMv
  (targets, safeStart)

def dwellMs : Nat := 15000

def probeOverheadMs : Nat := 5000

structure FrontierPlan where
  targets : List Nat
  safeStartMv : Nat
  lowestSafeMv : Nat
  voltageStepMv : Nat
  descentBins : List Nat
  binsPerDescent : Nat
  maxProbesPerTarget : Option Nat
  effectiveBinsPerDescent : Nat
  estDwellCount : Nat
  estWallSecs : Nat
deriving DecidableEq

/-- What a run would do at worst: every target descends all the bins it may. -/
def planFrontier (targets : List Nat) (descent : FrontierDescent) (dwellMs : Nat)
    (maxPerTarget : Option Nat) : FrontierPlan :=
  let binsPerDescent := descent.binsDesc.length
  let effectiveBinsPerDescent := maxPerTarget.elim binsPerDescent (min binsPerDescent)
  let estDwellCount := targets.length * effectiveBinsPerDescent
  { targets
    safeStartMv := descent.safeStartMv
    lowestSafeMv := descent.lowestSafeMv
    voltageStepMv := max descent.voltageStepMv 1
    descentBins := descent.binsDesc
    binsPerDescent
    maxProbesPerTarget := maxPerTarget
    effectiveBinsPerDescent
    estDwellCount
    estWallSecs := estDwellCount * (dwellMs + probeOverheadMs) / 1000 }

/-- The first card of a telemetry snapshot. -/
structure RegimeReading where
  powerCapped : Option Bool := none
  powerW : Option ℚ := none
  powerLimitW : Option ℚ := none
  temperatureC : Option ℚ := none

def RegimeReading.regime (snap : Option RegimeReading) : Regime :=
  match snap with
  | some r =>
    classifyRegime (if r.powerCapped = some true then 1 else 0) (r.powerW.getD 0)
      (r.powerLimitW.getD 0) r.temperatureC
  | none => classifyRegime 0 0 0 none

/-- An idle card reads unconstrained; a supervised run does not explore above stock for it. -/
def Regime.clamped : Regime → Regime
  | .unconstrained => .powerLimited
  | regime => regime

def frontierVoltStepMv : Nat := 25
def frontierWarmStartMarginSteps : Nat := 1
def frontierClockStepMhz : Nat := 30
def frontierFloorFrac : ℚ := 9 / 10
def frontierPhaseBProbes : Nat := 12

/-- What a run has settled before its first probe. -/
structure FrontierSetup where
  seed : CoreSeed
  regimeRaw : Regime
  targets : List Nat
  descent : FrontierDescent
  plan : FrontierPlan
  cappedDwells : Nat

/-- The guards that the dry run and the supervised run share, in their order. -/
def frontierSetup (supported : Bool) (live : List VfBin) (snap : Option RegimeReading)
    (limits : FrontierLimits) : Except String FrontierSetup :=
  if !supported then .error "modern VF curve API unsupported on this GPU/driver — aborting."
  else if live.isEmpty then .error "VF curve readback returned no points — aborting."
  else
    match deriveCoreSeed live with
    | .error e => .error e
    | .ok seed =>
      let regimeRaw := RegimeReading.regime snap
      let hwFloorMv := seed.clusterVMinMv
      match validateLimits limits hwFloorMv with
      | .error e => .error s!"invalid limits — {e}"
      | .ok () =>
        let rawTargets := candidateClocks seed.stockSustainedMhz seed.stockBoostMaxMhz
          regimeRaw.clamped frontierClockStepMhz frontierFloorFrac
        let (targets, safeStartMv) :=
          applyFrontierLimits rawTargets seed.safeStartMv hwFloorMv limits
        if targets.any (coreFreqHardMaxMhz < ·) then
          .error s!"candidate target > {coreFreqHardMaxMhz} MHz — failing closed"
        else
          let descent := deriveDescent seed.clusterBinsMv safeStartMv frontierVoltStepMv
          if descent.binsDesc.isEmpty then
            .error (s!"no real VF bin ≤ {safeStartMv} mV — failing closed " ++
              "(no hardware floor)")
          else
            let plan := planFrontier targets descent dwellMs limits.maxProbesPerTarget
            .ok
              { seed, regimeRaw, targets, descent, plan
                cappedDwells := limits.maxProbes.elim plan.estDwellCount
                  (min plan.estDwellCount) }

theorem le_of_mem_clocksFrom {step floor turns clock x : Nat}
    (h : x ∈ clocksFrom step floor turns clock) : x ≤ clock := by
  induction turns generalizing clock with
  | zero => cases h
  | succ turns ih =>
    unfold clocksFrom at h
    split at h
    next => cases h
    next =>
      rcases List.mem_cons.mp h with rfl | h
      · exact le_rfl
      · split at h
        next => cases h
        next =>
          have hx := ih h
          omega

/-- The candidates are the clocks a whole number of steps below the top, down to the floor. -/
theorem mem_clocksFrom {step floor turns clock x : Nat} (hstep : 0 < step)
    (hturns : clock < turns) :
    x ∈ clocksFrom step floor turns clock ↔ floor ≤ x ∧ ∃ k, x + k * step = clock := by
  induction turns generalizing clock with
  | zero => omega
  | succ turns ih =>
    unfold clocksFrom
    split
    next hlow =>
      refine iff_of_false List.not_mem_nil ?_
      rintro ⟨hfloor, k, hk⟩
      omega
    next hfloor =>
      rw [List.mem_cons]
      by_cases hlast : clock < step
      · rw [if_pos hlast]
        constructor
        · rintro (rfl | h)
          · exact ⟨by omega, 0, by omega⟩
          · cases h
        · rintro ⟨-, k, hk⟩
          cases k with
          | zero => exact .inl (by omega)
          | succ k =>
            rw [Nat.succ_mul] at hk
            omega
      · rw [if_neg hlast, ih (by omega)]
        constructor
        · rintro (rfl | ⟨hx, k, hk⟩)
          · exact ⟨by omega, 0, by omega⟩
          · exact ⟨hx, k + 1, by rw [Nat.succ_mul]; omega⟩
        · rintro ⟨hx, k, hk⟩
          cases k with
          | zero => exact .inl (by omega)
          | succ k =>
            rw [Nat.succ_mul] at hk
            exact .inr ⟨hx, k, by omega⟩

theorem clocksFrom_descends {step floor turns clock : Nat} (hstep : 0 < step) :
    (clocksFrom step floor turns clock).Pairwise (· > ·) := by
  induction turns generalizing clock with
  | zero => exact .nil
  | succ turns ih =>
    unfold clocksFrom
    split
    next => exact .nil
    next =>
      refine List.pairwise_cons.mpr ⟨fun x hx => ?_, ?_⟩
      · split at hx
        next => cases hx
        next hfits =>
          have hle := le_of_mem_clocksFrom hx
          show x < clock
          omega
      · split
        next => exact .nil
        next => exact ih

theorem clocksFrom_length_le {step floor turns clock : Nat} :
    (clocksFrom step floor turns clock).length ≤ turns := by
  induction turns generalizing clock with
  | zero => exact le_rfl
  | succ turns ih =>
    unfold clocksFrom
    split
    next => exact Nat.zero_le _
    next =>
      have hrest := @ih (clock - step)
      rw [List.length_cons]
      split
      next => simp
      next => omega

/-- A regime that is not unconstrained starts at the sustained clock. -/
theorem candidateClocks_clamped (sustained boost step : Nat) (regime : Regime) (floorFrac : ℚ) :
    candidateClocks sustained boost regime.clamped step floorFrac =
      clocksFrom (max step 1) (roundMhz (sustained * floorFrac)) (sustained + 1) sustained := by
  unfold candidateClocks
  cases regime <;> rfl

theorem applyFrontierLimits_sublist (targets : List Nat) (safeStart floor : Nat)
    (limits : FrontierLimits) :
    (applyFrontierLimits targets safeStart floor limits).1.Sublist targets := by
  unfold applyFrontierLimits
  cases limits.maxTargets with
  | none => exact List.Sublist.refl _
  | some n => exact List.take_sublist n targets

/-- What a run has settled is read off the sane points of the curve, and stays below stock. -/
structure FrontierSetup.ReadOff (setup : FrontierSetup) (live : List VfBin)
    (limits : FrontierLimits) : Prop where
  seed : deriveCoreSeed live = .ok setup.seed
  allowed : validateLimits limits setup.seed.clusterVMinMv = .ok ()
  descends : setup.targets.Pairwise (· > ·)
  clocks : ∀ t ∈ setup.targets, roundMhz (setup.seed.stockSustainedMhz * frontierFloorFrac) ≤ t ∧
    t ≤ setup.seed.stockSustainedMhz
  few : setup.targets.length ≤ setup.seed.stockSustainedMhz + 1
  bins : ∀ v ∈ setup.descent.binsDesc, ∃ p ∈ live, p.mv = v ∧ isSaneBin p = true
  domain : setup.descent.Domain
  plan : setup.plan = planFrontier setup.targets setup.descent dwellMs limits.maxProbesPerTarget
  capped : setup.cappedDwells = limits.maxProbes.elim setup.plan.estDwellCount
    (min setup.plan.estDwellCount)

/-- The bins of a seed are those of sane points of its curve. -/
theorem sane_of_clusterBin {live : List VfBin} {seed : CoreSeed}
    (h : deriveCoreSeed live = .ok seed) {v : Nat} (hv : v ∈ seed.clusterBinsMv) :
    ∃ p ∈ live, p.mv = v ∧ isSaneBin p = true := by
  obtain ⟨chosen, hchosen, -, rfl⟩ := deriveCoreSeed_ok_iff.mp h
  have hmem := (largest_of_chosenCluster hchosen).mem
  obtain ⟨p, hp, rfl⟩ := ((readFrom_coreSeed hmem live).bins v).mp hv
  obtain ⟨hlive, hsane⟩ := List.mem_filter.mp (mem_of_cluster hmem hp)
  exact ⟨p, hlive, rfl, hsane⟩

theorem stockSustained_le {live : List VfBin} {seed : CoreSeed}
    (h : deriveCoreSeed live = .ok seed) : seed.stockSustainedMhz ≤ coreFreqHardMaxMhz := by
  obtain ⟨chosen, hchosen, -, rfl⟩ := deriveCoreSeed_ok_iff.mp h
  exact fMaxMhz_le (largest_of_chosenCluster hchosen).mem

theorem frontierSetup_readOff {supported : Bool} {live : List VfBin}
    {snap : Option RegimeReading} {limits : FrontierLimits} {setup : FrontierSetup}
    (h : frontierSetup supported live snap limits = .ok setup) : setup.ReadOff live limits := by
  unfold frontierSetup at h
  split at h
  next => cases h
  next =>
    split at h
    next => cases h
    next =>
      split at h
      next => cases h
      next seed hseed =>
        simp only at h
        split at h
        next => cases h
        next hlimits =>
          split at h
          next => cases h
          next =>
            split at h
            next => cases h
            next =>
              obtain rfl := Except.ok.inj h
              have hstep : 0 < max frontierClockStepMhz 1 := by decide
              have hraw := candidateClocks_clamped seed.stockSustainedMhz seed.stockBoostMaxMhz
                frontierClockStepMhz (RegimeReading.regime snap) frontierFloorFrac
              have hsub := applyFrontierLimits_sublist (candidateClocks seed.stockSustainedMhz
                seed.stockBoostMaxMhz (RegimeReading.regime snap).clamped frontierClockStepMhz
                frontierFloorFrac) seed.safeStartMv seed.clusterVMinMv limits
              rw [hraw] at hsub
              refine ⟨hseed, hlimits, ?_, ?_, ?_, ?_, domain_deriveDescent _ _ _, rfl, rfl⟩
              · simp only [hraw]
                exact (clocksFrom_descends hstep).sublist hsub
              · intro t ht
                simp only [hraw] at ht
                obtain ⟨hfloor, -⟩ :=
                  (mem_clocksFrom hstep (Nat.lt_succ_self _)).mp (hsub.subset ht)
                exact ⟨hfloor, le_of_mem_clocksFrom (hsub.subset ht)⟩
              · simp only [hraw]
                exact hsub.length_le.trans clocksFrom_length_le
              · intro v hv
                obtain ⟨-, hbin⟩ := mem_deriveDescent.mp hv
                exact sane_of_clusterBin hseed hbin

end Nidavellir
