import Nidavellir.ClockFrontier
import Nidavellir.CoreDomain
import Nidavellir.ExactApply
import Nidavellir.FrameTimeGate
import Nidavellir.LoadMeasure

namespace Nidavellir.ForgePrologue

open LoadMeasure VfQualifier

def f2PreheatWindowMs : Nat := 10000
def f2PreheatMaxWindows : Nat := 6
def f2PreheatTempDeltaC : Float32 := 2.0
def f2PreheatClockDeltaMhz : Nat := 30
def f2PreheatMinSamples : Nat := 30

structure F2PreheatWindow where
  stable : Bool
  cancelled : Bool
  thermalThrottled : Bool
  prehangStallDetected : Bool
  sampleCount : Nat
  p5ClockMhz : Nat
  powerP99W : Option Float32
  startTempC : Option Float32
  endTempC : Option Float32

def F2PreheatWindow.ofMeasured (m : LoadMeasure.Measured) : F2PreheatWindow where
  stable := m.result == .stable
  cancelled := m.cancelled
  thermalThrottled := m.thermalThrottled
  prehangStallDetected := m.prehangStallDetected
  sampleCount := m.sampleCount
  p5ClockMhz := m.p5ClockMhz
  powerP99W := m.powerP99W
  startTempC := m.startTempC
  endTempC := m.endTempC

def f2PreheatWindowUsable (window : F2PreheatWindow) : Bool :=
  match window.startTempC, window.endTempC with
  | some startTempC, some endTempC =>
    window.stable && !window.cancelled && !window.thermalThrottled &&
      !window.prehangStallDetected && decide (f2PreheatMinSamples ≤ window.sampleCount) &&
      decide (0 < window.p5ClockMhz) && startTempC.isFinite && endTempC.isFinite &&
      decide ((endTempC - startTempC).abs ≤ f2PreheatTempDeltaC)
  | _, _ => false

def f2PreheatPairConverged (previous current : F2PreheatWindow) : Bool :=
  match previous.endTempC, current.endTempC with
  | some previousEndTempC, some currentEndTempC =>
    f2PreheatWindowUsable previous && f2PreheatWindowUsable current &&
      decide ((currentEndTempC - previousEndTempC).abs ≤ f2PreheatTempDeltaC) &&
      decide (max current.p5ClockMhz previous.p5ClockMhz -
        min current.p5ClockMhz previous.p5ClockMhz ≤ f2PreheatClockDeltaMhz)
  | _, _ => false

structure F2PreheatResult where
  sustainedClockMhz : Nat
  powerP99W : Option Float32
  temperatureC : Float32
  windows : Nat

/-- The derived `Debug` text of a result. -/
def resultDebug : StabilityResult → String
  | .stable => "Stable"
  | .silentError => "SilentError"
  | .crash => "Crash"
  | .unstable => "Unstable"

def preheatStopped : String := "parada solicitada durante a normalização stock"

/-- Why a window ends the preheat, if it does. -/
def windowFailure (index : Nat) (m : LoadMeasure.Measured) : Option String :=
  let window := F2PreheatWindow.ofMeasured m
  if window.cancelled then some preheatStopped
  else if !window.stable then
    some (s!"workload stock falhou no preheat {index + 1}/{f2PreheatMaxWindows} " ++
      s!"({resultDebug m.result})")
  else if window.thermalThrottled then
    some (s!"thermal throttling detectado em stock no preheat {index + 1}/" ++
      s!"{f2PreheatMaxWindows}; a curva não é evidência comparável")
  else if window.prehangStallDetected then
    some (s!"telemetria stock perdeu progresso no preheat {index + 1}/{f2PreheatMaxWindows}; " ++
      "convergência não pode ser provada")
  else none

def preheatResult (index : Nat) (window : F2PreheatWindow) : Except String F2PreheatResult :=
  match window.endTempC with
  | none => .error "preheat convergiu sem temperatura final utilizável"
  | some temperatureC =>
    .ok
      { sustainedClockMhz := window.p5ClockMhz
        powerP99W := window.powerP99W.filter usablePower
        temperatureC
        windows := index + 1 }

def preheatDiverged : String :=
  s!"stock não convergiu após {f2PreheatMaxWindows} janelas de {f2PreheatWindowMs / 1000} s " ++
    "(exige duas janelas consecutivas com ΔT ≤ 2.0 °C e Δp5 ≤ " ++
    s!"{f2PreheatClockDeltaMhz} MHz)"

/-- The windows from `index` on; `stop` is read before each. -/
def preheatWindows (stop : Nat → Bool) (measure : Nat → LoadMeasure.Measured) (index : Nat)
    (previous : Option F2PreheatWindow) : Nat → Except String F2PreheatResult
  | 0 => .error preheatDiverged
  | left + 1 =>
    if stop index then .error preheatStopped
    else
      let window := F2PreheatWindow.ofMeasured (measure index)
      match windowFailure index (measure index) with
      | some e => .error e
      | none =>
        if previous.any (f2PreheatPairConverged · window) then preheatResult index window
        else preheatWindows stop measure (index + 1) (some window) left

def runF2StockPreheat (stop : Nat → Bool) (measure : Nat → LoadMeasure.Measured) :
    Except String F2PreheatResult :=
  preheatWindows stop measure 0 none f2PreheatMaxWindows

section Preheat

variable (stop : Nat → Bool) (measure : Nat → LoadMeasure.Measured)

def preheatWindow (index : Nat) : F2PreheatWindow := .ofMeasured (measure index)

/-- What the loop carries into the window `index`. -/
def windowBefore : Nat → Option F2PreheatWindow
  | 0 => none
  | index + 1 => some (preheatWindow measure index)

/-- The window `index` agrees with the one before it. -/
def agrees (index : Nat) : Bool :=
  (windowBefore measure index).any (f2PreheatPairConverged · (preheatWindow measure index))

/-- No stop was asked for, and the window was worth comparing. -/
def Quiet (index : Nat) : Prop := stop index = false ∧ windowFailure index (measure index) = none

variable {stop measure}

theorem preheatWindows_quiet {index : Nat} (h : Quiet stop measure index) (left : Nat) :
    preheatWindows stop measure index (windowBefore measure index) (left + 1) =
      if agrees measure index then preheatResult index (preheatWindow measure index)
      else preheatWindows stop measure (index + 1) (windowBefore measure (index + 1)) left := by
  rw [preheatWindows, h.1, h.2]
  rfl

theorem quiet_of_preheatWindows_ok {index left : Nat} {previous : Option F2PreheatWindow}
    {r : F2PreheatResult} (h : preheatWindows stop measure index previous (left + 1) = .ok r) :
    Quiet stop measure index := by
  rw [preheatWindows] at h
  split at h
  next => cases h
  next hstop =>
    dsimp only at h
    split at h
    next => cases h
    next hfailure => exact ⟨Bool.eq_false_iff.mpr hstop, hfailure⟩

/-- The loop from `index` on ends at the first window that agrees with the one before it. -/
theorem preheatWindows_ok_iff {index left : Nat} {r : F2PreheatResult} :
    preheatWindows stop measure index (windowBefore measure index) left = .ok r ↔
      ∃ k, index ≤ k ∧ k < index + left ∧
        (∀ j, index ≤ j → j ≤ k → Quiet stop measure j) ∧ agrees measure k = true ∧
        (∀ j, index ≤ j → j < k → agrees measure j = false) ∧
        preheatResult k (preheatWindow measure k) = .ok r := by
  induction left generalizing index with
  | zero =>
    constructor
    · intro h
      cases h
    · intro ⟨k, hge, hlt, _⟩
      omega
  | succ left ih =>
    constructor
    · intro h
      have hquiet : Quiet stop measure index := quiet_of_preheatWindows_ok h
      rw [preheatWindows_quiet hquiet] at h
      by_cases hagrees : agrees measure index
      · rw [if_pos hagrees] at h
        refine ⟨index, Nat.le_refl _, by omega, ?_, hagrees, fun j hj hlt => by omega, h⟩
        intro j hge hle
        rwa [show j = index by omega]
      · rw [if_neg hagrees] at h
        obtain ⟨k, hge, hlt, hquiets, hk, hfirst, hr⟩ := ih.mp h
        refine ⟨k, by omega, by omega, ?_, hk, ?_, hr⟩
        · intro j hj hle
          by_cases heq : j = index
          · exact heq ▸ hquiet
          · exact hquiets j (by omega) hle
        · intro j hj hlt
          by_cases heq : j = index
          · exact heq ▸ Bool.eq_false_iff.mpr hagrees
          · exact hfirst j (by omega) hlt
    · intro ⟨k, hge, hlt, hquiets, hk, hfirst, hr⟩
      rw [preheatWindows_quiet (hquiets index (Nat.le_refl _) hge)]
      by_cases heq : k = index
      · subst heq
        rwa [if_pos hk]
      · have hnot : agrees measure index = false := hfirst index (Nat.le_refl _) (by omega)
        rw [hnot, if_neg Bool.false_ne_true]
        exact ih.mpr ⟨k, by omega, by omega, fun j hj => hquiets j (by omega), hk,
          fun j hj => hfirst j (by omega), hr⟩

theorem agrees_zero : agrees measure 0 = false := rfl

theorem preheatResult_ok_iff {index : Nat} {window : F2PreheatWindow} {r : F2PreheatResult} :
    preheatResult index window = .ok r ↔ ∃ t, window.endTempC = some t ∧
      r = { sustainedClockMhz := window.p5ClockMhz
            powerP99W := window.powerP99W.filter usablePower
            temperatureC := t
            windows := index + 1 } := by
  unfold preheatResult
  split
  next h => simp [h]
  next t h =>
    rw [h, Except.ok.injEq]
    constructor
    · intro heq
      exact ⟨t, rfl, heq.symm⟩
    · intro ⟨t', ht, heq⟩
      obtain rfl := Option.some.inj ht
      exact heq.symm

end Preheat

/-- The preheat confirms stock exactly where two windows in a row agree among the first six, none
of the windows so far failed and no stop came before one; it reports the first such pair, with the
clock, the temperature and the usable power of the later window. -/
theorem runF2StockPreheat_ok_iff (stop : Nat → Bool) (measure : Nat → LoadMeasure.Measured)
    (r : F2PreheatResult) :
    runF2StockPreheat stop measure = .ok r ↔
      ∃ k t, k + 1 < f2PreheatMaxWindows ∧ (∀ j ≤ k + 1, Quiet stop measure j) ∧
        f2PreheatPairConverged (preheatWindow measure k) (preheatWindow measure (k + 1)) = true ∧
        (∀ j < k, f2PreheatPairConverged (preheatWindow measure j)
          (preheatWindow measure (j + 1)) = false) ∧
        (measure (k + 1)).endTempC = some t ∧
        r = { sustainedClockMhz := (measure (k + 1)).p5ClockMhz
              powerP99W := (measure (k + 1)).powerP99W.filter usablePower
              temperatureC := t
              windows := k + 2 } := by
  unfold runF2StockPreheat
  rw [show (none : Option F2PreheatWindow) = windowBefore measure 0 from rfl,
    preheatWindows_ok_iff]
  constructor
  · intro ⟨k, _, hlt, hquiet, hk, hfirst, hr⟩
    cases k with
    | zero => rw [agrees_zero] at hk; cases hk
    | succ k =>
      obtain ⟨t, ht, heq⟩ := preheatResult_ok_iff.mp hr
      refine ⟨k, t, by omega, fun j => hquiet j (Nat.zero_le j), hk, ?_, ht, heq⟩
      intro j hj
      exact hfirst (j + 1) (Nat.zero_le _) (by omega)
  · intro ⟨k, t, hlt, hquiet, hk, hfirst, ht, heq⟩
    refine ⟨k + 1, Nat.zero_le _, by omega, fun j _ => hquiet j, hk, ?_,
      preheatResult_ok_iff.mpr ⟨t, ht, heq⟩⟩
    intro j _ hj
    cases j with
    | zero => exact agrees_zero
    | succ j => exact hfirst j (by omega)

structure F2ForgeInputs where
  saneBaseCurve : List VfBin
  boostTopMhz : Nat
  limits : PositiveOffsetLimits

def f2ForgeInputs (baseCurve : List VfBin) (clockCeilingMhz : Nat) : Option F2ForgeInputs :=
  let sane := baseCurve.filter fun bin => isF2SanePoint bin.mv bin.base
  match (sane.map VfBin.mv).min?, (sane.map VfBin.base).min? with
  | some floorMv, some minBase => some
      { saneBaseCurve := sane
        boostTopMhz := clockCeilingMhz
        limits := .hardwareFrontier floorMv clockCeilingMhz minBase }
  | _, _ => none

/-- The live clocks of the bins of the base table, highest first. -/
def f2RealClockTargets (baseCurve liveCurve : List VfBin) (clockCeilingMhz : Nat) : List Nat :=
  let live := (baseCurve.filter isSaneBin).filterMap fun bin =>
    liveCurve.find? fun live => live.index == bin.index
  let clocks := (live.filter fun bin =>
    isSaneBin bin && decide (bin.base ≤ clockCeilingMhz)).map VfBin.base
  Extremes.dedup (clocks.insertionSort (· ≥ ·))

/-- A clock that a bin of the base table runs at on the live curve. -/
def RealClock (baseCurve liveCurve : List VfBin) (clockCeilingMhz mhz : Nat) : Prop :=
  ∃ bin ∈ baseCurve, isSaneBin bin ∧
    ∃ live, liveCurve.find? (fun live => live.index == bin.index) = some live ∧
      isSaneBin live ∧ live.base ≤ clockCeilingMhz ∧ live.base = mhz

theorem mem_f2RealClockTargets {baseCurve liveCurve : List VfBin} {clockCeilingMhz mhz : Nat} :
    mhz ∈ f2RealClockTargets baseCurve liveCurve clockCeilingMhz ↔
      RealClock baseCurve liveCurve clockCeilingMhz mhz := by
  unfold f2RealClockTargets RealClock
  simp only [Extremes.mem_dedup, List.mem_insertionSort, List.mem_map, List.mem_filter,
    List.mem_filterMap, Bool.and_eq_true, decide_eq_true_eq]
  constructor
  · intro ⟨live, ⟨⟨bin, ⟨hmem, hsane⟩, hfind⟩, hlive, hle⟩, hmhz⟩
    exact ⟨bin, hmem, hsane, live, hfind, hlive, hle, hmhz⟩
  · intro ⟨bin, hmem, hsane, live, hfind, hlive, hle, hmhz⟩
    exact ⟨live, ⟨⟨bin, ⟨hmem, hsane⟩, hfind⟩, hlive, hle⟩, hmhz⟩

theorem pairwise_f2RealClockTargets (baseCurve liveCurve : List VfBin) (clockCeilingMhz : Nat) :
    (f2RealClockTargets baseCurve liveCurve clockCeilingMhz).Pairwise (· > ·) := by
  -- The order is that of the dual, where the sorted clocks rise.
  refine @Extremes.pairwise_lt_dedup Natᵒᵈ _ _ ?_
  exact List.pairwise_insertionSort (· ≥ ·) (_ : List Nat)

/-- A qualifier run of the Texture Hop on the stock card. -/
def validateV24TextureHopStock : Except String RenderResult → Except String Unit
  | .error e => .error s!"full v24 stock control: GpuCtx init failed: {e}"
  | .ok preflight =>
    match preflight.inconclusiveReason with
    | some reason =>
      .error s!"full v24 stock control was inconclusive at the environment level: {reason}"
    | none =>
      if preflight.result = .stable then .ok ()
      else
        let phase := (preflight.failurePhase.map VfQualifierPhase.label).getD "unknown phase"
        .error (s!"full v24 stock control was not stable during {phase}: " ++
          resultDebug preflight.result)

/-- What the start of a run reads and is answered, in its own order. -/
structure StartEnv where
  mode : PowerSweepMode
  safeMode : Bool
  bootFlagArmed : Bool
  finalReset : Nat → Except String Unit
  vfCurveSupported : Bool
  stopBefore : Nat → Bool
  dwell : Nat → LoadRun
  stoppedManually : Bool
  resumable : Bool
  live : List VfBin
  baseCurve : List VfBin
  stock : VfWorkload → Except String StockCapture
  control : Except String RenderResult

structure ForgeDomain where
  preheat : F2PreheatResult
  seed : CoreSeed
  inputs : F2ForgeInputs
  goldens : Option RenderGoldens
  clockTableCeilingMhz : Nat
  targets : List Nat

inductive StartEnd
  | stopped (phase note : String) (resumeAvailable : Bool)
  | ready (domain : ForgeDomain)

/-- How the start ended, and how many resets to stock it made. -/
structure ForgeStart where
  ending : StartEnd
  resets : Nat

def incomplete (note : String) (resets : Nat) : ForgeStart :=
  ⟨.stopped "incomplete" note false, resets⟩

def refusedNote : String :=
  "Forja F2 recusada pelo Safe Loop — Safe Mode ativo; nenhum hardware foi alterado."

def interruptedNote : String :=
  "Forja F2 aguardando recuperação da execução interrompida; nenhum hardware foi alterado."

def unconfirmedNote (e : String) : String :=
  s!"Forja F2 abortada antes da descoberta — não foi possível confirmar stock: {e}"

def unsupportedNote : String :=
  "Forja F2 abortada com segurança — API de curva V/F moderna não suportada neste GPU/driver. " ++
    "GPU no stock, nada aplicado."

def pausedNote : String :=
  "Forge pausado durante a normalização: GPU em stock e checkpoint preservado."

def stockRestored : String := "GPU restaurada ao stock; nada aplicado."

def resetFailed (e : String) : String := s!"Reset final também falhou: {e}"

def inconclusiveNote (e state : String) : String :=
  s!"Forja F2 abortada antes de Cboost — preheat stock inconclusivo: {e}. {state}"

def noClusterNote (e : String) : String :=
  s!"Forja F2 abortada com segurança (curva V/F sem cluster de núcleo sano): {e} — " ++
    "GPU no stock, nada aplicado."

def noBaseNote : String :=
  "Forja F2 abortada com segurança — sem pontos de curva V/F base sãos. " ++
    "GPU no stock, nada aplicado."

def noControlNote (e : String) : String :=
  "Forja F2 abortada antes da qualificação v24 — o controle stock completo " ++
    s!"falhou: {e}. Reinicie antes de outro teste; GPU no stock, nada aplicado."

def noTargetNote : String :=
  "Forja F2 abortada com segurança — nenhum clock candidato derivável. " ++
    "GPU no stock, nada aplicado."

namespace StartEnv

variable (self : StartEnv)

def measured (index : Nat) : LoadMeasure.Measured :=
  loadAndMeasureFor (self.dwell index) .powerCharacterization none

def goldens : Except String (Option RenderGoldens) :=
  let policy := self.mode.f2Policy
  if 0 < policy.qualificationPasses ∨ 0 < policy.finalGatePasses then
    match captureFsgl3RenderGoldens self.stock with
    | .error e => .error e
    | .ok goldens =>
      match validateV24TextureHopStock self.control with
      | .error e => .error e
      | .ok () => .ok (some goldens)
  else .ok none

/-- What a run reads behind a confirmed preheat. -/
def readDomain (preheat : F2PreheatResult) : Except String ForgeDomain :=
  match deriveCoreSeed self.live with
  | .error e => .error (noClusterNote e)
  | .ok seed =>
    match f2ForgeInputs self.baseCurve seed.stockBoostMaxMhz with
    | none => .error noBaseNote
    | some inputs =>
      match self.goldens with
      | .error e => .error (noControlNote e)
      | .ok goldens =>
        let targets :=
          f2RealClockTargets inputs.saneBaseCurve self.live seed.stockBoostMaxMhz
        if targets.isEmpty then .error noTargetNote
        else
          .ok
            { preheat, seed, inputs, goldens, targets
              clockTableCeilingMhz :=
                ((inputs.saneBaseCurve.map VfBin.base).max?).getD 0 }

/-- Until the first target. -/
def startForge : ForgeStart :=
  if self.safeMode then incomplete refusedNote 0
  else if self.bootFlagArmed then ⟨.stopped "interrupted" interruptedNote false, 0⟩
  else
    match self.finalReset 0 with
    | .error e => incomplete (unconfirmedNote e) 1
    | .ok () =>
      if !self.vfCurveSupported then incomplete unsupportedNote 2
      else
        match runF2StockPreheat self.stopBefore self.measured with
        | .error e =>
          match self.finalReset 1 with
          | .ok () =>
            if self.stoppedManually then ⟨.stopped "paused" pausedNote self.resumable, 2⟩
            else incomplete (inconclusiveNote e stockRestored) 2
          | .error resetError => incomplete (inconclusiveNote e (resetFailed resetError)) 2
        | .ok preheat =>
          match self.readDomain preheat with
          | .error note => incomplete note 2
          | .ok domain => ⟨.ready domain, 1⟩

variable {self}

/-- What a domain takes from the two curves. -/
theorem readDomain_targets {preheat : F2PreheatResult} {d : ForgeDomain}
    (h : self.readDomain preheat = .ok d) :
    d.targets = f2RealClockTargets d.inputs.saneBaseCurve self.live d.seed.stockBoostMaxMhz ∧
      d.inputs.saneBaseCurve = self.baseCurve.filter fun bin => isF2SanePoint bin.mv bin.base := by
  unfold readDomain at h
  split at h
  next => cases h
  next seed _ =>
    split at h
    next => cases h
    next inputs hinputs =>
      split at h
      next => cases h
      next =>
        dsimp only at h
        split at h
        next => cases h
        next =>
          cases h
          refine ⟨rfl, ?_⟩
          unfold f2ForgeInputs at hinputs
          dsimp only at hinputs
          split at hinputs
          next => cases hinputs; rfl
          next => cases hinputs

theorem isF2SanePoint_eq_isSaneBin (bin : VfBin) :
    isF2SanePoint bin.mv bin.base = isSaneBin bin := by
  simp only [isF2SanePoint, isSaneBin, isSaneCorePoint, f2SaneMvMin, f2SaneMvMax, f2SaneMhzMin,
    f2SaneMhzMax]
  grind

/-- The targets are the real clocks of the card. -/
theorem mem_targets_iff {preheat : F2PreheatResult} {d : ForgeDomain} {mhz : Nat}
    (h : self.readDomain preheat = .ok d) :
    mhz ∈ d.targets ↔ RealClock self.baseCurve self.live d.seed.stockBoostMaxMhz mhz := by
  obtain ⟨htargets, hcurve⟩ := readDomain_targets h
  rw [htargets, mem_f2RealClockTargets, hcurve]
  unfold RealClock
  simp only [List.mem_filter, isF2SanePoint_eq_isSaneBin]
  constructor
  · intro ⟨bin, ⟨hmem, _⟩, hrest⟩
    exact ⟨bin, hmem, hrest⟩
  · intro ⟨bin, hmem, hsane, hrest⟩
    exact ⟨bin, ⟨hmem, hsane⟩, hsane, hrest⟩

/-- What the attempts of a frontier say about the card itself. -/
structure Covers (self : StartEnv) (clockCeilingMhz : Nat) (attempts : List ClockAttempt)
    (max : Nat) : Prop where
  real : ∀ attempt ∈ attempts,
    RealClock self.baseCurve self.live clockCeilingMhz attempt.targetMhz
  once : (attempts.map ClockAttempt.targetMhz).Nodup
  sustained : ∃ attempt ∈ attempts, attempt.targetMhz = max ∧ attempt.summary.sustainable
  above : ∀ mhz, RealClock self.baseCurve self.live clockCeilingMhz mhz → max < mhz →
    ∃ attempt ∈ attempts, attempt.targetMhz = mhz ∧ attempt.summary.completed ∧
      ¬attempt.summary.sustainable
  within : ∀ mhz, RealClock self.baseCurve self.live clockCeilingMhz mhz →
    f2ClockWithinCmaxFloor mhz max → ∃ attempt ∈ attempts,
      attempt.targetMhz = mhz ∧ attempt.Finished

/-- However the card answers the clock loop: a Cmax to synthesize from is a real clock of the card
that was sustained, every real clock above it was tried and not sustained, and every real clock
within its floor was tried to the end, each of them once. -/
theorem readDomain_covers {W : Type*} [ClockLoopOps W] {preheat : F2PreheatResult}
    {d : ForgeDomain} (h : self.readDomain preheat = .ok d) (limits : Word.Limits) (w : W)
    {max : Nat}
    (hmax : (clockLoop d.inputs.saneBaseCurve limits d.targets w).1.synthesisCmax = some max) :
    self.Covers d.seed.stockBoostMaxMhz
      (clockLoop d.inputs.saneBaseCurve limits d.targets w).1.attempts max := by
  have hdesc : d.targets.Pairwise (· > ·) := by
    rw [(readDomain_targets h).1]
    exact pairwise_f2RealClockTargets ..
  have hsettled : (clockLoop d.inputs.saneBaseCurve limits d.targets w).1.Settled d.targets :=
    clockLoop_settled hdesc
  generalize (clockLoop d.inputs.saneBaseCurve limits d.targets w).1 = s at hsettled hmax
  unfold ClockLoopState.synthesisCmax at hmax
  split at hmax
  next hguard =>
    obtain ⟨max', hfrontier⟩ := hsettled.complete (Bool.and_eq_true_iff.mp hguard).1
    obtain rfl : max' = max := Option.some.inj (hfrontier.cmax.symm.trans hmax)
    refine ⟨?_, hsettled.nodup hdesc, hfrontier.sustained, ?_, ?_⟩
    · intro attempt hmem
      exact (mem_targets_iff h).mp (hsettled.attempted.subset (List.mem_map_of_mem hmem))
    · intro mhz hreal hlt
      exact hfrontier.above mhz ((mem_targets_iff h).mpr hreal) hlt
    · intro mhz hreal hfloor
      exact hfrontier.within mhz ((mem_targets_iff h).mpr hreal) hfloor
  next => cases hmax

/-- A card at stock that renders the same frames everywhere. -/
def steadyStart : StartEnv where
  mode := .standard
  safeMode := false
  bootFlagArmed := false
  finalReset _ := .ok ()
  vfCurveSupported := true
  stopBefore _ := false
  dwell _ :=
    { session := .error "no dwell", powerLimitW := none, ticks := [], render := none
      cancelled := false, durationMs := 0 }
  stoppedManually := false
  resumable := false
  live := [⟨0, 725, 1300⟩, ⟨1, 750, 1400⟩, ⟨2, 775, 1500⟩, ⟨3, 800, 1600⟩, ⟨4, 825, 1700⟩,
    ⟨5, 850, 1700⟩, ⟨6, 875, 1900⟩, ⟨7, 900, 2000⟩]
  baseCurve := [⟨4, 825, 1650⟩, ⟨5, 850, 1700⟩, ⟨6, 875, 1850⟩, ⟨7, 900, 1950⟩]
  stock _ := .ok ⟨[⟨7, false⟩, ⟨7, false⟩, ⟨7, false⟩, ⟨7, false⟩], 400⟩
  control := .ok ⟨.stable, 900, none, none, []⟩

def steadyDomain : ForgeDomain where
  preheat := ⟨1980, none, 60, 2⟩
  seed := coreSeed steadyStart.live (coreCluster steadyStart.live)
  inputs := ⟨steadyStart.baseCurve, 2000, .hardwareFrontier 825 2000 1650⟩
  goldens := some ⟨7, 7, 7, 7, 7, 7, 100, 100, ⟨0, 0, 0⟩⟩
  clockTableCeilingMhz := 1950
  targets := [2000, 1900, 1700]

theorem readDomain_covers_steady :
    steadyStart.Covers 2000
      (clockLoop steadyDomain.inputs.saneBaseCurve ⟨0, 0, 0, 0⟩ steadyDomain.targets
        droppedThenSustained).1.attempts 1900 :=
  readDomain_covers
    (show steadyStart.readDomain steadyDomain.preheat = .ok steadyDomain from rfl)
    ⟨0, 0, 0, 0⟩ droppedThenSustained (by decide +kernel)

/-- A start is ready exactly behind a confirmed reset, a confirmed preheat and a whole domain. -/
theorem startForge_ready_iff {d : ForgeDomain} :
    self.startForge.ending = .ready d ↔
      self.safeMode = false ∧ self.bootFlagArmed = false ∧ self.finalReset 0 = .ok () ∧
        self.vfCurveSupported = true ∧
        ∃ preheat, runF2StockPreheat self.stopBefore self.measured = .ok preheat ∧
          self.readDomain preheat = .ok d := by
  unfold startForge incomplete
  constructor
  · intro h
    split at h
    next => cases h
    next hsafe =>
      split at h
      next => cases h
      next harmed =>
        split at h
        next => cases h
        next hreset =>
          split at h
          next => cases h
          next hsupported =>
            split at h
            next =>
              split at h
              next => split at h <;> cases h
              next => cases h
            next preheat hpreheat =>
              split at h
              next => cases h
              next hdomain =>
                cases h
                exact ⟨by simpa using hsafe, by simpa using harmed, hreset,
                  by simpa using hsupported, preheat, hpreheat, hdomain⟩
  · intro ⟨hsafe, harmed, hreset, hsupported, preheat, hpreheat, hdomain⟩
    simp [hsafe, harmed, hreset, hsupported, hpreheat, hdomain]

/-- A refused start touches nothing; any other that ends early has reset the card last. -/
theorem startForge_resets (hstopped : ∀ d, self.startForge.ending ≠ .ready d) :
    self.startForge.resets =
      if self.safeMode || self.bootFlagArmed then 0
      else if (self.finalReset 0).toOption.isNone then 1
      else 2 := by
  unfold startForge incomplete at *
  by_cases hsafe : self.safeMode
  · simp [hsafe]
  by_cases harmed : self.bootFlagArmed
  · simp [hsafe, harmed]
  cases hreset : self.finalReset 0 with
  | error e => simp [hsafe, harmed, Except.toOption]
  | ok =>
    by_cases hsupported : self.vfCurveSupported
    · cases hpreheat : runF2StockPreheat self.stopBefore self.measured with
      | error e =>
        cases hsecond : self.finalReset 1 <;> by_cases hmanual : self.stoppedManually <;>
          simp [hsafe, harmed, hsupported, hmanual, Except.toOption]
      | ok preheat =>
        cases hdomain : self.readDomain preheat with
        | error note =>
          simp [hsafe, harmed, hsupported, hdomain, Except.toOption]
        | ok d =>
          simp [hsafe, harmed, hreset, hsupported, hpreheat, hdomain] at hstopped
    · simp [hsafe, harmed, hsupported, Except.toOption]

end StartEnv

end Nidavellir.ForgePrologue
