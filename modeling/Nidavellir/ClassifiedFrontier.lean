import Nidavellir.ApplyEvidence
import Nidavellir.F2Frontier
import Nidavellir.ForgeSynthesis

namespace Nidavellir

open Extremes

/-- The exact values of the finite floats. -/
structure FloatValues where
  watts : Float32 → Option ℚ
  confidence : Float → ℚ

def isSaneCorePoint (voltageMv freqMhz : Nat) : Bool :=
  decide (500 ≤ freqMhz) && decide (freqMhz ≤ 3500) && decide (600 ≤ voltageMv) &&
    decide (voltageMv ≤ 1150)

def applyMarginMv : Nat := 12

/-- The lowest real bin with the margin, else the highest that can anchor the target. -/
def f2ApplyAnchorWithMargin (curve : List VfBin) (targetMhz boundaryMv : Nat) : Nat :=
  let validAnchors := dedup (((curve.filter fun bin =>
    decide (boundaryMv ≤ bin.mv) && decide (bin.2.2 < targetMhz) &&
      isSaneCorePoint bin.mv bin.2.2).map VfBin.mv).insertionSort (· ≤ ·))
  let requestedMv := boundaryMv + applyMarginMv
  ((validAnchors.find? (requestedMv ≤ ·)).or validAnchors.getLast?).getD boundaryMv

def applyF2MarginPolicy (points : Classified) (curve : List VfBin) : Classified :=
  points.map fun entry =>
    match entry.1.targetClockMhz with
    | none => entry
    | some targetMhz =>
      let boundaryMv := (entry.1.boundaryVoltageMv.or entry.1.vfTableVoltageMv).getD
        entry.1.voltageMv
      let applyMv := f2ApplyAnchorWithMargin curve targetMhz boundaryMv
      ({ entry.1 with
          boundaryVoltageMv := some boundaryMv
          vfTableVoltageMv := some applyMv
          baseApplyMv := some applyMv
          applyMarginMv := some (applyMv - boundaryMv) }, entry.2)

section Values

variable (values : FloatValues)

def toPowerSweepPoint (entry : F2FrontierEntry) : PowerSweepPoint × ℚ :=
  let clock := entry.avgClockMhz.getD entry.targetMhz
  let powerP99 := (entry.powerP99W.bind values.watts).filter (0 < ·)
  let sustainedClock := entry.sustainedClockMhz.getD clock
  ({ voltageMv := entry.bestAnchorMv
     clockMhz := clock
     offsetMhz := entry.offsetMhz
     powerW := entry.watts.getD 0
     maxPowerW := entry.maxWatts.getD (entry.watts.getD 0)
     powerP99W := powerP99
     perfPerWatt := match powerP99 with
       | some p99 => sustainedClock / p99
       | none => 0
     vfTableVoltageMv := some entry.bestAnchorMv
     boundaryVoltageMv := some entry.bestAnchorMv
     applyMarginMv := some 0
     p5ClockMhz := entry.sustainedClockMhz
     p95ClockMhz := entry.sustainedUpperClockMhz
     targetClockMhz := some entry.targetMhz
     confidence := some (values.confidence entry.confidence)
     validationCount := some entry.validationCount }, values.confidence entry.confidence)

def frontierToPoints (entries : List F2FrontierEntry) : Classified :=
  entries.map (toPowerSweepPoint values)

/-- The current discovery measurement with the greatest p99. -/
def currentDiscoveryObservationAtAnchor (obs : List F2Observation)
    (targetMhz anchorMv : Nat) (gpuKey : String) : Option F2Observation :=
  maxByKey (fun o => (o.p99Watts values.watts).getD 0) (obs.filter fun o =>
    o.isAt targetMhz anchorMv gpuKey &&
      (o.outcome == .validated || o.outcome == .powerBoundClockDrop) &&
      isCurrentDiscoveryEvidence o && o.resetToStockOk && o.bootFlagCleared &&
      !o.thermalThrottled && o.avgClockMhz.isSome && o.sustainedClockMhz.isSome &&
      o.watts.any (0 < ·) && o.maxWatts.any (0 < ·) && (o.p99Watts values.watts).isSome)

def calibrateF2Point (observations : List F2Observation) (gpuKey : String)
    (entry : PowerSweepPoint × ℚ) : Except String (PowerSweepPoint × ℚ) :=
  let targetMhz := entry.1.target
  match entry.1.vfTableVoltageMv with
  | none => .error (toString targetMhz ++ " MHz has no apply VF bin")
  | some applyMv =>
    let pair := toString targetMhz ++ " MHz @ " ++ toString applyMv ++ " mV"
    match currentDiscoveryObservationAtAnchor values observations targetMhz applyMv gpuKey with
    | none => .error (pair ++ " has no current, reset-clean, thermally valid discovery-v5 " ++
        "confirmed sustained-p99 power measurement")
    | some measured =>
      match measured.powerP99W.bind values.watts with
      | none => .error (pair ++ " has no measured sustained-p99 power")
      | some powerP99 =>
        let clockMhz := measured.avgClockMhz.getD entry.1.clockMhz
        let p5ClockMhz := measured.sustainedClockMhz.or entry.1.p5ClockMhz
        .ok ({ entry.1 with
          clockMhz
          p5ClockMhz
          p95ClockMhz := measured.sustainedUpperClockMhz.or entry.1.p95ClockMhz
          powerW := measured.watts.getD 0
          maxPowerW := measured.maxWatts.getD 0
          powerP99W := some powerP99
          perfPerWatt := p5ClockMhz.getD clockMhz / powerP99 }, entry.2)

def calibrateF2ProfilePower (points : Classified) (observations : List F2Observation)
    (gpuKey : String) : Except String Classified :=
  points.mapM (calibrateF2Point values observations gpuKey)

/-- The points the exact-Apply closure starts from. -/
def classifiedPoints (entries : List F2FrontierEntry) (curve : List VfBin)
    (observations : List F2Observation) (gpuKey : String) : Except String Classified :=
  calibrateF2ProfilePower values (applyF2MarginPolicy (frontierToPoints values entries) curve)
    observations gpuKey

end Values

def f2ClockWithinCmaxFloor (targetMhz cmaxMhz : Nat) : Bool :=
  decide (cmaxMhz * 90 ≤ targetMhz * 100)

/-- The publishable entries from Cmax down to its floor. -/
def forgeFrontier (obs : List F2Observation) (gpuKey : String) (cmaxMhz : Nat) :
    List F2FrontierEntry :=
  (qualifiedFrontierForGpu obs gpuKey).filter fun entry =>
    decide (entry.targetMhz ≤ cmaxMhz) && f2ClockWithinCmaxFloor entry.targetMhz cmaxMhz

/-- A frontier as the closure receives it: one point for each target, none approved yet. -/
structure ClassifiedFrontier where
  points : Classified
  targets : (points.map fun entry => entry.1.targetClockMhz).Nodup
  hasTarget : ∀ entry ∈ points, entry.1.targetClockMhz.isSome = true
  fresh : ∀ entry ∈ points, entry.1.applyQualified = false

/-- Two points of different targets have different pairs. -/
theorem ClassifiedFrontier.nodup_keys (frontier : ClassifiedFrontier) :
    (keysOf frontier.points).Nodup := by
  obtain ⟨points, htargets, hsome, hfresh⟩ := frontier
  show (keysOf points).Nodup
  clear hfresh
  induction points with
  | nil => exact List.nodup_nil
  | cons entry rest ih =>
    rw [List.map_cons, List.nodup_cons] at htargets
    have hrest := ih htargets.2 (fun e he => hsome e (List.mem_cons_of_mem _ he))
    cases hkey : f2ApplyKey entry.1 with
    | none => simpa [keysOf, List.filterMap_cons, hkey] using hrest
    | some key =>
      have hcons : keysOf (entry :: rest) = key :: keysOf rest := by
        simp [keysOf, hkey]
      refine hcons ▸ List.nodup_cons.mpr ⟨fun hmem => htargets.1 ?_, hrest⟩
      obtain ⟨other, hother, hotherKey⟩ := mem_keysOf.mp hmem
      have htarget : other.1.targetClockMhz = entry.1.targetClockMhz := by
        have hentry := (f2ApplyKey_eq_some.mp hkey).1
        have hother' := (f2ApplyKey_eq_some.mp hotherKey).1
        obtain ⟨a, ha⟩ := Option.isSome_iff_exists.mp (hsome entry List.mem_cons_self)
        obtain ⟨b, hb⟩ := Option.isSome_iff_exists.mp
          (hsome other (List.mem_cons_of_mem _ hother))
        rw [PowerSweepPoint.target, ha, Option.getD_some] at hentry
        rw [PowerSweepPoint.target, hb, Option.getD_some] at hother'
        rw [ha, hb, hentry, hother']
      exact List.mem_map.mpr ⟨other, hother, htarget⟩

section Built

variable {values : FloatValues} {entries : List F2FrontierEntry} {curve : List VfBin}
  {observations : List F2Observation} {gpuKey : String} {points : Classified}

theorem calibrateF2Point_ok {entry calibrated : PowerSweepPoint × ℚ}
    (h : calibrateF2Point values observations gpuKey entry = .ok calibrated) :
    calibrated.1.targetClockMhz = entry.1.targetClockMhz ∧
      calibrated.1.applyQualified = entry.1.applyQualified := by
  unfold calibrateF2Point at h
  simp only at h
  split at h
  next => cases h
  next =>
    split at h
    next => cases h
    next =>
      split at h
      next => cases h
      next =>
        obtain rfl := Except.ok.inj h
        exact ⟨rfl, rfl⟩

theorem calibrateF2ProfilePower_ok {start : Classified}
    (h : calibrateF2ProfilePower values start observations gpuKey = .ok points) :
    (points.map fun entry => (entry.1.targetClockMhz, entry.1.applyQualified)) =
      start.map fun entry => (entry.1.targetClockMhz, entry.1.applyQualified) := by
  unfold calibrateF2ProfilePower at h
  induction start generalizing points with
  | nil =>
    obtain rfl := Except.ok.inj h
    rfl
  | cons entry rest ih =>
    rw [List.mapM_cons] at h
    cases hentry : calibrateF2Point values observations gpuKey entry with
    | error e => simp [hentry, bind, Except.bind] at h
    | ok calibrated =>
      cases hrest : rest.mapM (calibrateF2Point values observations gpuKey) with
      | error e => simp [hentry, hrest, bind, Except.bind] at h
      | ok calibratedRest =>
        simp only [hentry, hrest, bind, Except.bind, pure, Except.pure] at h
        obtain rfl := Except.ok.inj h
        obtain ⟨htarget, hqualified⟩ := calibrateF2Point_ok hentry
        rw [List.map_cons, List.map_cons, ih hrest, htarget, hqualified]

theorem map_applyF2MarginPolicy :
    ((applyF2MarginPolicy points curve).map fun entry =>
        (entry.1.targetClockMhz, entry.1.applyQualified)) =
      points.map fun entry => (entry.1.targetClockMhz, entry.1.applyQualified) := by
  rw [applyF2MarginPolicy, List.map_map]
  refine List.map_congr_left fun entry _ => ?_
  simp only [Function.comp]
  split
  next => rfl
  next htarget => rw [htarget]

theorem classifiedPoints_ok
    (h : classifiedPoints values entries curve observations gpuKey = .ok points) :
    (points.map fun entry => (entry.1.targetClockMhz, entry.1.applyQualified)) =
      entries.map fun entry => (some entry.targetMhz, false) := by
  rw [calibrateF2ProfilePower_ok h, map_applyF2MarginPolicy, frontierToPoints, List.map_map]
  rfl

theorem sublist_map_filterMap {α β : Type*} {f : α → Option β} {g : β → α}
    (hfg : ∀ a b, f a = some b → g b = a) (l : List α) :
    ((l.filterMap f).map g).Sublist l := by
  induction l with
  | nil => exact .slnil
  | cons a l ih =>
    cases hfa : f a with
    | none => simpa [List.filterMap_cons, hfa] using ih.cons a
    | some b => simpa [List.filterMap_cons, hfa, hfg a b hfa] using ih.cons_cons a

/-- No target has two entries in the frontier that the Forge publishes from. -/
theorem nodup_targets_forgeFrontier {obs : List F2Observation} {cmaxMhz : Nat} :
    ((forgeFrontier obs gpuKey cmaxMhz).map F2FrontierEntry.targetMhz).Nodup := by
  have htargets : (frontierTargets (onGpu obs gpuKey)).Nodup :=
    nodup_dedup (List.pairwise_insertionSort _ _)
  have hall : ((qualifiedFrontierForGpu obs gpuKey).map F2FrontierEntry.targetMhz).Nodup :=
    htargets.sublist (sublist_map_filterMap
      (fun _ _ h => (qualifiedFrontierEntryForTarget_isLeast h).1) _)
  exact hall.sublist (List.filter_sublist.map _)

/-- What the Forge builds from a frontier with one entry for each target. -/
def ClassifiedFrontier.ofEntries (hentries : (entries.map F2FrontierEntry.targetMhz).Nodup)
    (h : classifiedPoints values entries curve observations gpuKey = .ok points) :
    ClassifiedFrontier where
  points := points
  targets := by
    have hmap := congrArg (List.map Prod.fst) (classifiedPoints_ok h)
    rw [List.map_map, List.map_map] at hmap
    have htargets : (points.map fun entry => entry.1.targetClockMhz) =
        (entries.map F2FrontierEntry.targetMhz).map some := by
      rw [List.map_map]
      exact hmap
    rw [htargets]
    exact hentries.map (Option.some_injective _)
  hasTarget := by
    intro entry hentry
    have hmem := List.mem_map_of_mem (f := fun entry : PowerSweepPoint × ℚ =>
      (entry.1.targetClockMhz, entry.1.applyQualified)) hentry
    rw [classifiedPoints_ok h] at hmem
    obtain ⟨source, -, heq⟩ := List.mem_map.mp hmem
    exact (congrArg (fun p => p.1.isSome) heq).symm
  fresh := by
    intro entry hentry
    have hmem := List.mem_map_of_mem (f := fun entry : PowerSweepPoint × ℚ =>
      (entry.1.targetClockMhz, entry.1.applyQualified)) hentry
    rw [classifiedPoints_ok h] at hmem
    obtain ⟨source, -, heq⟩ := List.mem_map.mp hmem
    exact (congrArg Prod.snd heq).symm

def ClassifiedFrontier.ofForge {obs : List F2Observation} {cmaxMhz : Nat}
    (h : classifiedPoints values (forgeFrontier obs gpuKey cmaxMhz) curve observations gpuKey =
      .ok points) : ClassifiedFrontier :=
  .ofEntries nodup_targets_forgeFrontier h

end Built

end Nidavellir
