import Mathlib.Order.Basic
import Nidavellir.VoltageBisection

namespace Nidavellir.VfQualifier

def u64Max : Nat := 2 ^ 64 - 1

/-- `u64::saturating_add`. -/
def saturatingAdd64 (a b : Nat) : Nat := min (a + b) u64Max

/-- `u64::saturating_mul`. -/
def saturatingMul64 (a b : Nat) : Nat := min (a * b) u64Max

inductive VfQualifierPhase
  | powerOpening
  | boostEdge
  | heavySpike
  | textureRop
  | computeBurst
  | idlePulse
  | mixedGame
  | powerClosing
  | frameCadence
  | vramPressure
  | geometryDepth
  | textureStream
  | boostEntry
  | compositeGameLoad
deriving DecidableEq, Repr

namespace VfQualifierPhase

def count : Nat := 14

def label : VfQualifierPhase → String
  | powerOpening => "power-opening"
  | boostEdge => "boost-edge"
  | heavySpike => "heavy-spike"
  | textureRop => "texture-rop"
  | computeBurst => "compute-burst"
  | idlePulse => "idle-pulse"
  | mixedGame => "mixed-game"
  | powerClosing => "power-closing"
  | frameCadence => "frame-cadence"
  | vramPressure => "vram-pressure"
  | geometryDepth => "geometry-depth"
  | textureStream => "texture-stream"
  | boostEntry => "boost-entry"
  | compositeGameLoad => "field-concurrency"

def code : VfQualifierPhase → Nat
  | powerOpening => 0
  | boostEdge => 1
  | heavySpike => 2
  | textureRop => 3
  | computeBurst => 4
  | idlePulse => 5
  | mixedGame => 6
  | powerClosing => 7
  | frameCadence => 8
  | vramPressure => 9
  | geometryDepth => 10
  | textureStream => 11
  | boostEntry => 12
  | compositeGameLoad => 13

def fromCode : Nat → Option VfQualifierPhase
  | 0 => some powerOpening
  | 1 => some boostEdge
  | 2 => some heavySpike
  | 3 => some textureRop
  | 4 => some computeBurst
  | 5 => some idlePulse
  | 6 => some mixedGame
  | 7 => some powerClosing
  | 8 => some frameCadence
  | 9 => some vramPressure
  | 10 => some geometryDepth
  | 11 => some textureStream
  | 12 => some boostEntry
  | 13 => some compositeGameLoad
  | _ => none

@[simp] theorem fromCode_code (phase : VfQualifierPhase) : fromCode phase.code = some phase := by
  cases phase <;> rfl

end VfQualifierPhase

inductive VfWorkload
  | powerRender
  | boostEdge
  | heavySpike
  | textureRop
  | computeBurst
  | idlePulse
  | mixedGame
  | frameCadence
  | vramPressure
  | geometryDepth
  | textureStream
  | boostEntry
  | compositeGameLoad
deriving DecidableEq, Repr

inductive VfQualifierPattern
  | fsgl1
  | fsgl2A
  | fsgl2B
  | fsgl3A
  | fsgl3B
  | v8HighFps
  | v8Texture
  | v8Transitions
  | v8Memory
  | endurance
  | transitionShock
  | detectorLabDense
deriving DecidableEq, Repr

structure VfQualifierSegment where
  phase : VfQualifierPhase
  workload : VfWorkload
  durationMs : Nat
deriving DecidableEq, Repr

def fsgl1 : List (VfQualifierPhase × VfWorkload × Nat) :=
  [(.powerOpening, .powerRender, 5), (.boostEdge, .boostEdge, 7), (.heavySpike, .heavySpike, 5),
   (.boostEdge, .boostEdge, 5), (.textureRop, .textureRop, 7), (.idlePulse, .idlePulse, 5),
   (.heavySpike, .heavySpike, 5), (.mixedGame, .mixedGame, 15), (.computeBurst, .computeBurst, 4),
   (.powerClosing, .powerRender, 7)]

def fsgl2A : List (VfQualifierPhase × VfWorkload × Nat) :=
  [(.powerOpening, .powerRender, 4), (.boostEdge, .boostEdge, 6), (.heavySpike, .heavySpike, 3),
   (.boostEdge, .boostEdge, 5), (.heavySpike, .heavySpike, 3), (.textureRop, .textureRop, 5),
   (.idlePulse, .idlePulse, 5), (.mixedGame, .mixedGame, 8), (.computeBurst, .computeBurst, 5),
   (.heavySpike, .heavySpike, 3), (.boostEdge, .boostEdge, 4), (.powerClosing, .powerRender, 5)]

def fsgl2B : List (VfQualifierPhase × VfWorkload × Nat) :=
  [(.powerOpening, .powerRender, 4), (.textureRop, .textureRop, 5), (.heavySpike, .heavySpike, 3),
   (.boostEdge, .boostEdge, 6), (.idlePulse, .idlePulse, 6), (.textureRop, .textureRop, 6),
   (.computeBurst, .computeBurst, 6), (.mixedGame, .mixedGame, 8), (.boostEdge, .boostEdge, 3),
   (.textureRop, .textureRop, 3), (.heavySpike, .heavySpike, 4), (.idlePulse, .idlePulse, 5),
   (.powerClosing, .powerRender, 4)]

def fsgl3A : List (VfQualifierPhase × VfWorkload × Nat) :=
  [(.powerOpening, .powerRender, 4), (.idlePulse, .idlePulse, 5), (.heavySpike, .heavySpike, 3),
   (.textureRop, .textureRop, 7), (.boostEdge, .boostEdge, 4), (.textureRop, .textureRop, 7),
   (.idlePulse, .idlePulse, 5), (.heavySpike, .heavySpike, 3), (.mixedGame, .mixedGame, 10),
   (.textureRop, .textureRop, 6), (.computeBurst, .computeBurst, 4),
   (.powerClosing, .powerRender, 5)]

def fsgl3B : List (VfQualifierPhase × VfWorkload × Nat) :=
  [(.powerOpening, .powerRender, 4), (.textureRop, .textureRop, 7), (.idlePulse, .idlePulse, 5),
   (.heavySpike, .heavySpike, 3), (.textureRop, .textureRop, 7), (.mixedGame, .mixedGame, 10),
   (.boostEdge, .boostEdge, 3), (.idlePulse, .idlePulse, 5), (.heavySpike, .heavySpike, 3),
   (.textureRop, .textureRop, 6), (.computeBurst, .computeBurst, 4), (.idlePulse, .idlePulse, 4),
   (.powerClosing, .powerRender, 4)]

def v8HighFps : List (VfQualifierPhase × VfWorkload × Nat) :=
  [(.powerOpening, .powerRender, 8), (.boostEdge, .boostEdge, 12), (.heavySpike, .heavySpike, 4),
   (.boostEdge, .boostEdge, 12), (.frameCadence, .frameCadence, 8), (.mixedGame, .mixedGame, 8),
   (.boostEdge, .boostEdge, 12), (.idlePulse, .idlePulse, 3), (.boostEdge, .boostEdge, 12),
   (.computeBurst, .computeBurst, 5), (.boostEdge, .boostEdge, 8), (.textureRop, .textureRop, 6),
   (.boostEdge, .boostEdge, 8), (.heavySpike, .heavySpike, 4), (.frameCadence, .frameCadence, 8),
   (.geometryDepth, .geometryDepth, 6), (.boostEdge, .boostEdge, 8),
   (.powerClosing, .powerRender, 6)]

def v8Texture : List (VfQualifierPhase × VfWorkload × Nat) :=
  [(.powerOpening, .powerRender, 1), (.textureRop, .textureRop, 15), (.idlePulse, .idlePulse, 2),
   (.compositeGameLoad, .compositeGameLoad, 50), (.textureRop, .textureRop, 9),
   (.heavySpike, .heavySpike, 3), (.textureRop, .textureRop, 7), (.mixedGame, .mixedGame, 3),
   (.frameCadence, .frameCadence, 2), (.computeBurst, .computeBurst, 1),
   (.boostEdge, .boostEdge, 4), (.vramPressure, .vramPressure, 2),
   (.powerClosing, .powerRender, 1)]

def v8Transitions : List (VfQualifierPhase × VfWorkload × Nat) :=
  [(.powerOpening, .powerRender, 8), (.idlePulse, .idlePulse, 4), (.heavySpike, .heavySpike, 5),
   (.frameCadence, .frameCadence, 8), (.boostEdge, .boostEdge, 5), (.idlePulse, .idlePulse, 4),
   (.geometryDepth, .geometryDepth, 6), (.textureRop, .textureRop, 6),
   (.heavySpike, .heavySpike, 5), (.idlePulse, .idlePulse, 4), (.frameCadence, .frameCadence, 8),
   (.computeBurst, .computeBurst, 5), (.mixedGame, .mixedGame, 6), (.idlePulse, .idlePulse, 4),
   (.heavySpike, .heavySpike, 5), (.boostEdge, .boostEdge, 5), (.textureRop, .textureRop, 6),
   (.frameCadence, .frameCadence, 8), (.idlePulse, .idlePulse, 4),
   (.powerClosing, .powerRender, 8)]

def v8Memory : List (VfQualifierPhase × VfWorkload × Nat) :=
  [(.powerOpening, .powerRender, 6), (.vramPressure, .vramPressure, 12),
   (.frameCadence, .frameCadence, 6), (.vramPressure, .vramPressure, 12),
   (.textureRop, .textureRop, 8), (.idlePulse, .idlePulse, 3), (.vramPressure, .vramPressure, 12),
   (.boostEdge, .boostEdge, 5), (.heavySpike, .heavySpike, 5), (.vramPressure, .vramPressure, 10),
   (.mixedGame, .mixedGame, 6), (.geometryDepth, .geometryDepth, 6),
   (.vramPressure, .vramPressure, 10), (.computeBurst, .computeBurst, 4),
   (.textureStream, .textureStream, 8), (.powerClosing, .powerRender, 6)]

def endurance : List (VfQualifierPhase × VfWorkload × Nat) :=
  [(.powerOpening, .powerRender, 2), (.textureRop, .textureRop, 10),
   (.compositeGameLoad, .compositeGameLoad, 12), (.textureRop, .textureRop, 8),
   (.heavySpike, .heavySpike, 3), (.idlePulse, .idlePulse, 2), (.heavySpike, .heavySpike, 3),
   (.idlePulse, .idlePulse, 2), (.heavySpike, .heavySpike, 3), (.textureRop, .textureRop, 8),
   (.heavySpike, .heavySpike, 14), (.boostEdge, .boostEdge, 10), (.frameCadence, .frameCadence, 8),
   (.mixedGame, .mixedGame, 10), (.textureRop, .textureRop, 6), (.heavySpike, .heavySpike, 12),
   (.heavySpike, .heavySpike, 3), (.idlePulse, .idlePulse, 2), (.heavySpike, .heavySpike, 3),
   (.compositeGameLoad, .compositeGameLoad, 12), (.boostEdge, .boostEdge, 10),
   (.textureRop, .textureRop, 6), (.powerClosing, .powerRender, 3)]

def transitionShock : List (VfQualifierPhase × VfWorkload × Nat) :=
  [(.boostEntry, .boostEntry, 12), (.textureRop, .textureRop, 4), (.boostEntry, .boostEntry, 12),
   (.textureRop, .textureRop, 4), (.boostEntry, .boostEntry, 12)]

def detectorLabDense : List (VfQualifierPhase × VfWorkload × Nat) :=
  [(.powerOpening, .powerRender, 2), (.textureRop, .textureRop, 20), (.heavySpike, .heavySpike, 5),
   (.textureRop, .textureRop, 12), (.frameCadence, .frameCadence, 5),
   (.textureRop, .textureRop, 12), (.mixedGame, .mixedGame, 5), (.textureRop, .textureRop, 12),
   (.boostEdge, .boostEdge, 4), (.textureRop, .textureRop, 9), (.powerClosing, .powerRender, 2)]

def template : VfQualifierPattern → List (VfQualifierPhase × VfWorkload × Nat)
  | .fsgl1 => fsgl1
  | .fsgl2A => fsgl2A
  | .fsgl2B => fsgl2B
  | .fsgl3A => fsgl3A
  | .fsgl3B => fsgl3B
  | .v8HighFps => v8HighFps
  | .v8Texture => v8Texture
  | .v8Transitions => v8Transitions
  | .v8Memory => v8Memory
  | .endurance => endurance
  | .transitionShock => transitionShock
  | .detectorLabDense => detectorLabDense

def totalWeight (pattern : VfQualifierPattern) : Nat :=
  ((template pattern).map fun entry => entry.2.2).sum

/-- The closure over the template; the last segment takes what is left of the target. -/
def segments (targetMs total : Nat) :
    Nat → List (VfQualifierPhase × VfWorkload × Nat) → List VfQualifierSegment
  | _, [] => []
  | assigned, [(phase, workload, _)] =>
    [{ phase := phase, workload := workload, durationMs := targetMs - assigned }]
  | assigned, (phase, workload, weight) :: next :: rest =>
    let durationMs := saturatingMul64 targetMs weight / total
    { phase := phase, workload := workload, durationMs := durationMs } ::
      segments targetMs total (saturatingAdd64 assigned durationMs) (next :: rest)

def vfQualifierPlan (targetMs : Nat) (pattern : VfQualifierPattern) : List VfQualifierSegment :=
  segments targetMs (totalWeight pattern) 0 (template pattern)

/-- The set bits of a map over the phase codes. -/
def seenCount (seen : VfQualifierPhase → Bool) : Nat :=
  (List.range VfQualifierPhase.count).countP fun code =>
    (VfQualifierPhase.fromCode code).any seen

def qualifierExpectedPhases (pattern : VfQualifierPattern) : Nat :=
  seenCount fun phase => (vfQualifierPlan 1000 pattern).any fun segment => segment.phase == phase

structure VfPhaseReport where
  phase : VfQualifierPhase
  result : StabilityResult
  frames : Nat
  checksumCount : Nat
  elapsedMs : Nat
deriving DecidableEq, Repr

structure RenderResult where
  result : StabilityResult
  frames : Nat
  failurePhase : Option VfQualifierPhase
  inconclusiveReason : Option String
  phaseReports : List VfPhaseReport
deriving DecidableEq, Repr

/-- What a render loop leaves behind. -/
structure RenderRun where
  result : StabilityResult
  frames : Nat
  checksumCount : Nat
  elapsedMs : Nat
deriving DecidableEq, Repr

/-- The report a render profile makes of it. -/
def runRenderProfile (phase : Option VfQualifierPhase) (run : RenderRun) : RenderResult where
  result := run.result
  frames := run.frames
  failurePhase := if run.result ≠ .stable then phase else none
  inconclusiveReason := none
  phaseReports :=
    match phase with
    | none => []
    | some phase =>
      [{ phase := phase, result := run.result, frames := run.frames
         checksumCount := run.checksumCount, elapsedMs := run.elapsedMs }]

section Segments

variable {targetMs total assigned : Nat} {entries : List (VfQualifierPhase × VfWorkload × Nat)}

theorem segments_recipe (targetMs total assigned : Nat)
    (entries : List (VfQualifierPhase × VfWorkload × Nat)) :
    (segments targetMs total assigned entries).map (fun segment =>
        (segment.phase, segment.workload)) =
      entries.map fun entry => (entry.1, entry.2.1) := by
  fun_induction segments targetMs total assigned entries with
  | case1 => rfl
  | case2 => rfl
  | case3 assigned phase workload weight next rest durationMs ih =>
    rw [List.map_cons, ih]
    rfl

/-- The floors of the earlier segments never overrun the target, so the last segment has room for
the rest. -/
theorem segments_sum (htarget : targetMs ≤ u64Max) (hne : entries ≠ []) (spent : Nat)
    (hweights : spent + (entries.map fun entry => entry.2.2).sum = total)
    (hassigned : assigned * total ≤ targetMs * spent) (htotal : 0 < total) :
    ((segments targetMs total assigned entries).map VfQualifierSegment.durationMs).sum =
      targetMs - assigned := by
  fun_induction segments targetMs total assigned entries generalizing spent with
  | case1 => exact absurd rfl hne
  | case2 => simp
  | case3 assigned phase workload weight next rest durationMs ih =>
    rw [List.map_cons, List.sum_cons] at hweights
    dsimp only at hweights
    have hduration : durationMs * total ≤ targetMs * weight :=
      le_trans (Nat.div_mul_le_self _ _) (Nat.min_le_left _ _)
    clear_value durationMs
    have hnext : (assigned + durationMs) * total ≤ targetMs * (spent + weight) := by
      rw [Nat.add_mul, Nat.mul_add]
      omega
    have hspent : spent + weight ≤ total := by omega
    have hroom : assigned + durationMs ≤ targetMs :=
      Nat.le_of_mul_le_mul_right (hnext.trans (Nat.mul_le_mul_left _ hspent)) htotal
    have hsat : saturatingAdd64 assigned durationMs = assigned + durationMs :=
      Nat.min_eq_left (hroom.trans htarget)
    have hrest := ih (List.cons_ne_nil _ _) (spent + weight) (by omega)
      (by rw [hsat]; exact hnext)
    rw [List.map_cons, List.sum_cons, hrest, hsat]
    dsimp only
    omega

end Segments

theorem totalWeight_pos (pattern : VfQualifierPattern) : 0 < totalWeight pattern := by
  cases pattern <;> decide

theorem template_ne_nil (pattern : VfQualifierPattern) : template pattern ≠ [] := by
  cases pattern <;> decide

theorem vfQualifierPlan_sum {targetMs : Nat} (htarget : targetMs ≤ u64Max)
    (pattern : VfQualifierPattern) :
    ((vfQualifierPlan targetMs pattern).map VfQualifierSegment.durationMs).sum = targetMs :=
  segments_sum htarget (template_ne_nil pattern) 0 (Nat.zero_add _) (by simp)
    (totalWeight_pos pattern)

/-- The target changes the durations of a plan only. -/
theorem vfQualifierPlan_phases (targetMs : Nat) (pattern : VfQualifierPattern) :
    (vfQualifierPlan targetMs pattern).map VfQualifierSegment.phase =
      (template pattern).map Prod.fst := by
  have hrecipe := congrArg (List.map Prod.fst)
    (segments_recipe targetMs (totalWeight pattern) 0 (template pattern))
  simpa [vfQualifierPlan, Function.comp_def] using hrecipe

end Nidavellir.VfQualifier
