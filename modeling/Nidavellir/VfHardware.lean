import Nidavellir.AnchoredPlan
import Nidavellir.Lib.PointWrites
import Nidavellir.ProbeEvidence
import Nidavellir.Sentinel
import Nidavellir.TuningRequests

namespace Nidavellir

open Extremes GpuApplyOps PointWrites

/-- What the writers leave on the card: an offset for each point, the ceiling of the clock, the
voltage lock, and the offsets of memory and of the whole core. -/
@[ext] structure Hardware where
  offsets : Nat → Int
  clockCap : Option Nat
  voltageLock : Option Nat
  memOffset : Int
  coreOffset : Int

def Hardware.stock : Hardware := ⟨fun _ => 0, none, none, 0, 0⟩

/-- A card with the modern curve API: its static table, point by point. `legacyCurve` is what the
older call reads, voltage and clock. -/
structure VfCard where
  table : List VfBin
  distinct : (table.map VfBin.index).Nodup
  legacyCurve : Hardware → Option (List (Nat × Nat))

namespace VfCard

variable (card : VfCard)

/-- A live point reads back as its base and its offset. -/
def readVfCurveModern (offsets : Nat → Int) : List VfBin :=
  card.table.map fun bin => (bin.index, bin.mv, ((bin.base : Int) + offsets bin.index).toNat)

def zeroed (offsets : Nat → Int) : Nat → Int :=
  writeAll (card.table.map fun bin => (bin.index, 0)) offsets

def resetAll (hw : Hardware) : Hardware :=
  { hw with
    voltageLock := none, coreOffset := 0, memOffset := 0, offsets := card.zeroed hw.offsets }

def resetToStock (hw : Hardware) : Hardware :=
  { hw with
    voltageLock := none, coreOffset := 0, offsets := card.zeroed hw.offsets, clockCap := none }

end VfCard

inductive VfBinClass
  | belowCeiling
  | flattenDown
  | flattenUp
  | alreadyAtTarget
deriving DecidableEq, Repr

structure VfWritePlanEntry where
  index : Nat
  voltageMv : Nat
  baseMhz : Nat
  desiredOffsetMhz : Int
  belowCeiling : Bool
  inFlattenSet : Bool
  desiredOffsetIsZero : Bool
  binClass : VfBinClass
deriving DecidableEq, Repr

def planVfCeilingEntry (ceilingMv targetMhz : Nat) (bin : VfBin) : VfWritePlanEntry :=
  let inFlattenSet := decide (ceilingMv ≤ bin.mv)
  let desired : Int := if inFlattenSet then (targetMhz : Int) - bin.base else 0
  { index := bin.index
    voltageMv := bin.mv
    baseMhz := bin.base
    desiredOffsetMhz := desired
    belowCeiling := !inFlattenSet
    inFlattenSet
    desiredOffsetIsZero := desired == 0
    binClass :=
      if !inFlattenSet then .belowCeiling
      else if desired = 0 then .alreadyAtTarget
      else if desired < 0 then .flattenDown
      else .flattenUp }

def planVfCeiling (curve : List VfBin) (ceilingMv targetMhz : Nat) : List VfWritePlanEntry :=
  curve.map (planVfCeilingEntry ceilingMv targetMhz)

/-- The bin of the measured voltage, or the voltage itself without a curve. -/
def chooseCeilingMv (curve : List VfBin) (measuredMv : Nat) : Nat × Bool :=
  match nearestVfBinAtOrAbove curve measuredMv with
  | some (_, tableMv) => (tableMv, false)
  | none => (measuredMv, true)

def applyVfCeiling (card : VfCard) (ceilingMv targetMhz : Nat) (hw : Hardware) :
    Except String Nat × Hardware :=
  let curve := card.readVfCurveModern hw.offsets
  if curve.isEmpty then (.error "curva V/F vazia (GetStatus não retornou pontos)", hw)
  else
    let plan := planVfCeiling curve ceilingMv targetMhz
    (.ok (plan.filter fun entry => !entry.desiredOffsetIsZero).length,
      { hw with
          offsets := writeAll (plan.map fun entry => (entry.index, entry.desiredOffsetMhz))
            hw.offsets })

def curveFreqAt (card : VfCard) (hw : Hardware) (voltageMv : Nat) : Option Nat :=
  (card.legacyCurve hw).bind fun points =>
    (maxByKey Prod.fst (points.filter fun p => decide (p.1 ≤ voltageMv))).map Prod.snd

/-- The offset of the fallback, as the card stands. -/
def fallbackOffset (card : VfCard) (point : VfPoint) (hw : Hardware) : Int :=
  let base := (curveFreqAt card hw point.voltageMv).getD point.freqMhz
  max (-300) (min 400 ((point.freqMhz : Int) - base))

def applyCorePoint (card : VfCard) (point : VfPoint) (hw : Hardware) : Hardware :=
  let (ceilingMv, _) := chooseCeilingMv (card.readVfCurveModern hw.offsets) point.voltageMv
  match applyVfCeiling card ceilingMv point.freqMhz hw with
  | (.ok _, hw) => hw
  | (.error _, hw) =>
    { hw with coreOffset := fallbackOffset card point hw, clockCap := some point.freqMhz }

def coreClusterGapMv : Nat := 60

def minCoreClusterPoints : Nat := 8

def growClusters (clusters : List (List VfBin)) (p : VfBin) : List (List VfBin) :=
  match clusters.getLast? with
  | none => [[p]]
  | some c =>
    if p.mv - (c.getLast?.elim p.mv VfBin.mv) ≤ coreClusterGapMv then
      clusters.dropLast ++ [c ++ [p]]
    else clusters ++ [[p]]

def clusterBefore (a b : List VfBin) : Bool :=
  decide (b.length < a.length) ||
    (a.length == b.length && decide ((a.head?.elim 0 VfBin.mv) ≤ b.head?.elim 0 VfBin.mv))

/-- The largest run of sane points without a gap in voltage, the lowest of several. -/
def selectCoreCluster (sane : List VfBin) : Except String (List VfBin) :=
  let pts := sane.insertionSort fun a b => a.mv < b.mv ∨ a.mv = b.mv ∧ a.index ≤ b.index
  match (pts.foldl growClusters []).insertionSort fun a b => clusterBefore a b with
  | [] => .error "no sane core points to cluster — failing closed"
  | chosen :: _ =>
    if chosen.length < minCoreClusterPoints then
      .error (s!"largest core VF cluster has only {chosen.length} point(s) " ++
        s!"(< {minCoreClusterPoints} required) — ambiguous, failing closed")
    else .ok chosen

/-- The boost clock of the stock curve. -/
def f2StockClockCeiling (liveCurve : List VfBin) : Except String Nat :=
  let sane := liveCurve.filter fun bin => isSaneCorePoint bin.mv bin.base
  let rejected := liveCurve.filter fun bin => !isSaneCorePoint bin.mv bin.base
  if sane.isEmpty then
    .error (s!"no sane graphics-core VF points among {liveCurve.length} read (rejected max " ++
      s!"freq={debugSteps (rejected.map VfBin.base).max?} MHz, max " ++
      s!"voltage={debugSteps (rejected.map VfBin.mv).max?} mV) — failing closed; a GPU outside " ++
      "the sanity domain needs a code update")
  else
    match selectCoreCluster sane with
    | .error e => .error e
    | .ok cluster =>
      let stockBoostMaxMhz := (cluster.map VfBin.base).max?.getD 0
      let safeStartMv := (cluster.map VfBin.mv).getLast?.getD 0
      if stockBoostMaxMhz > 3500 then
        .error (s!"derived boost {stockBoostMaxMhz} MHz exceeds core hard max 3500 " ++
          "— failing closed")
      else if safeStartMv > 1150 then
        .error s!"derived safe_start {safeStartMv} mV exceeds core hard max 1150 — failing closed"
      else .ok stockBoostMaxMhz

inductive AnchoredOffsetVerification
  | anchoredRaiseVerified
  | anchorRaiseIncomplete
  | anchorOverRaise
  | higherBinAboveTarget
  | unexpectedPositiveOffset
  | unverifiable
deriving DecidableEq, Repr

def AnchoredOffsetVerification.debug : AnchoredOffsetVerification → String
  | anchoredRaiseVerified => "AnchoredRaiseVerified"
  | anchorRaiseIncomplete => "AnchorRaiseIncomplete"
  | anchorOverRaise => "AnchorOverRaise"
  | higherBinAboveTarget => "HigherBinAboveTarget"
  | unexpectedPositiveOffset => "UnexpectedPositiveOffset"
  | unverifiable => "Unverifiable"

/-- The bins beside the anchor, in order: the first that is wrong decides. -/
def verifyOthers (anchorIndex targetMhz : Nat) (tol : Int) (observed : Nat → Option Int) :
    List AnchoredBinEntry → AnchoredOffsetVerification
  | [] => .anchoredRaiseVerified
  | e :: rest =>
    if e.index = anchorIndex then verifyOthers anchorIndex targetMhz tol observed rest
    else
      match observed e.index with
      | none => .unverifiable
      | some obs =>
        if obs > tol then .unexpectedPositiveOffset
        else if (e.baseMhz : Int) + obs - targetMhz > tol then .higherBinAboveTarget
        else verifyOthers anchorIndex targetMhz tol observed rest

def verifyAnchoredPositiveOffset (plan : AnchoredPositiveOffsetPlan)
    (observed : Nat → Option Int) (tol : Int) : AnchoredOffsetVerification :=
  match observed plan.anchor.index with
  | none => .unverifiable
  | some obs =>
    if obs - plan.anchor.offsetMhz > tol then .anchorOverRaise
    else if plan.anchor.offsetMhz - obs > tol then .anchorRaiseIncomplete
    else verifyOthers plan.anchor.index plan.targetMhz tol observed plan.entries

def f2VerifyTolMhz : Int := 15

/-- The writes of a plan, which refuse a raise outside the anchor. -/
def writeEntries (anchorIndex : Nat) :
    List AnchoredBinEntry → (Nat → Int) → Except String Unit × (Nat → Int)
  | [], offsets => (.ok (), offsets)
  | e :: rest, offsets =>
    if e.offsetMhz > 0 ∧ e.index ≠ anchorIndex then
      (.error (s!"F2 anchored: refusing positive offset +{e.offsetMhz} on non-anchor bin " ++
        s!"{e.voltageMv} mV — fail closed"), offsets)
    else writeEntries anchorIndex rest (Function.update offsets e.index e.offsetMhz)

def applyBoundedAnchoredPositiveOffset (staticBaseCurve : List VfBin)
    (anchorBinIndex targetMhz : Nat) (prevOffsetMhz : Int) (limits : PositiveOffsetLimits)
    (offsets : Nat → Int) : Except String AnchoredPositiveOffsetPlan × (Nat → Int) :=
  match planBoundedAnchoredPositiveOffset staticBaseCurve anchorBinIndex targetMhz prevOffsetMhz
      limits with
  | .error e => (.error e, offsets)
  | .ok plan =>
    if plan.anchor.offsetMhz ≤ 0 ∨ plan.anchor.offsetMhz > limits.absMaxOffsetMhz then
      (.error (s!"F2 anchored: refusing to write out-of-bound anchor offset " ++
        s!"{plan.anchor.offsetMhz} MHz (cap +{limits.absMaxOffsetMhz}) — fail closed"), offsets)
    else
      match writeEntries plan.anchor.index plan.entries offsets with
      | (.error e, offsets) => (.error e, offsets)
      | (.ok (), offsets) => (.ok plan, offsets)

def saneTable (card : VfCard) : List VfBin :=
  card.table.filter fun bin => isF2SanePoint bin.mv bin.base

def anchoredLimits (sane : List VfBin) (boostTop : Nat) : PositiveOffsetLimits :=
  .hardwareFrontier ((sane.map VfBin.mv).min?.getD 0) boostTop ((sane.map VfBin.base).min?.getD 0)

/-- The reset comes first; a write that is not verified is taken back. -/
def applyAnchoredUndervoltPoint (card : VfCard) (targetMhz anchorMv : Nat) (hw : Hardware) :
    Except String Unit × Hardware :=
  let hw := card.resetAll hw
  let sane := saneTable card
  if sane.isEmpty then
    (.error "F2 apply: no sane static VF base points — fail closed (no write)", hw)
  else
    match f2StockClockCeiling (card.readVfCurveModern hw.offsets) with
    | .error e => (.error s!"F2 apply: stock clock domain unavailable: {e}", hw)
    | .ok boostTop =>
      match selectExactApplyAnchorBin sane targetMhz anchorMv with
      | none =>
        (.error (s!"F2 apply: exact validated VF bin {anchorMv} mV is unavailable or cannot " ++
          s!"raise to {targetMhz} MHz — fail closed (no write)"), hw)
      | some anchorIdx =>
        match applyBoundedAnchoredPositiveOffset sane anchorIdx targetMhz 0
            (anchoredLimits sane boostTop) hw.offsets with
        | (.error e, offsets) =>
          (.error s!"F2 apply: anchored write rejected ({e})",
            card.resetToStock { hw with voltageLock := some anchorMv, offsets })
        | (.ok plan, offsets) =>
          let verdict :=
            verifyAnchoredPositiveOffset plan (fun i => some (offsets i)) f2VerifyTolMhz
          if verdict = .anchoredRaiseVerified then
            (.ok (), { hw with
              voltageLock := some anchorMv, offsets, clockCap := some targetMhz })
          else
            (.error s!"F2 apply: anchored verify failed ({verdict.debug})",
              card.resetToStock { hw with voltageLock := some anchorMv, offsets })

end Nidavellir
