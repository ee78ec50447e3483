import Mathlib.Algebra.BigOperators.Group.List.Basic
import Mathlib.Algebra.Order.BigOperators.Group.List
import Nidavellir.F2Transaction
import Nidavellir.Lib.Fallible
import Nidavellir.VfQualifier

namespace Nidavellir.VfQualifier

def goldenMinFrames : Nat := 4
def streamDegradationFactor : Nat := 2
def boostEdgeDegradationFactor : Nat := 2

def VfWorkload.debugName : VfWorkload → String
  | powerRender => "PowerRender"
  | boostEdge => "BoostEdge"
  | heavySpike => "HeavySpike"
  | textureRop => "TextureRop"
  | computeBurst => "ComputeBurst"
  | idlePulse => "IdlePulse"
  | mixedGame => "MixedGame"
  | frameCadence => "FrameCadence"
  | vramPressure => "VramPressure"
  | geometryDepth => "GeometryDepth"
  | textureStream => "TextureStream"
  | boostEntry => "BoostEntry"
  | compositeGameLoad => "CompositeGameLoad"

/-- One frame of a capture: what the readback gives, and whether the device was lost by then. -/
structure StockFrame where
  checksum : Nat
  deviceLost : Bool
deriving DecidableEq, Repr

structure StockCapture where
  frames : List StockFrame
  elapsedUs : Nat
deriving DecidableEq, Repr

def observeGoldenChecksum (reference : Option Nat) (checksum frameCount : Nat) :
    Except String (Option Nat) :=
  match reference with
  | none => .ok (some checksum)
  | some expected =>
    if expected = checksum then .ok (some expected)
    else .error (s!"stock render golden diverged after {frameCount} frame(s): " ++
      s!"first={expected} current={checksum}")

def finishGoldenCapture (reference : Option Nat) (frameCount : Nat) : Except String Nat :=
  if frameCount < goldenMinFrames then
    .error (s!"stock render golden observed only {frameCount} frame(s), " ++
      s!"need at least {goldenMinFrames}")
  else
    match reference with
    | none => .error "stock render golden produced no checksum"
    | some golden => .ok golden

def captureLoop : List StockFrame → Option Nat → Nat → Except String (Option Nat × Nat)
  | [], golden, frames => .ok (golden, frames)
  | frame :: rest, golden, frames =>
    if frame.deviceLost then .error "device lost while capturing stock golden"
    else do
      let frames := saturatingAdd64 frames 1
      let golden ← observeGoldenChecksum golden frame.checksum frames
      captureLoop rest golden frames

def goldenProfile : VfWorkload → Bool
  | .heavySpike | .idlePulse | .computeBurst | .mixedGame | .vramPressure
  | .compositeGameLoad => false
  | _ => true

/-- The checksum and the average frame time in microseconds. -/
def captureOneGolden (profile : VfWorkload) (capture : StockCapture) :
    Except String (Nat × Nat) :=
  if !goldenProfile profile then
    .error s!"unsupported golden render profile: {profile.debugName}"
  else do
    let (golden, frames) ← captureLoop capture.frames none 0
    let checksum ← finishGoldenCapture golden frames
    let avgFrameUs := capture.elapsedUs % 2 ^ 64 / max frames 1
    .ok (checksum, if avgFrameUs ≤ 4294967295 then avgFrameUs else 4294967295)

/-- One label's capture on a device of its own; `stock` says what each device does. -/
def captureLabelled (stock : VfWorkload → Except String StockCapture) (label : String)
    (workload : VfWorkload) : Except String (Nat × Nat) :=
  match stock workload with
  | .error e => .error s!"{label}: GpuCtx init failed: {e}"
  | .ok capture =>
    match captureOneGolden workload capture with
    | .error e => .error s!"{label}: {e}"
    | .ok golden => .ok golden

def captureFsgl3RenderGoldens (stock : VfWorkload → Except String StockCapture) :
    Except String RenderGoldens := do
  let stream ← captureLabelled stock "texture-stream golden" .textureStream
  let boost ← captureLabelled stock "boost golden" .boostEdge
  let power ← captureLabelled stock "power golden" .powerRender
  let texrop ← captureLabelled stock "texture/ROP golden" .textureRop
  let cadence ← captureLabelled stock "frame-cadence golden" .frameCadence
  let geometry ← captureLabelled stock "geometry/depth golden" .geometryDepth
  .ok { power := power.1
        boost := boost.1
        texrop := texrop.1
        cadence := cadence.1
        geometry := geometry.1
        stream := stream.1
        streamFrameReferenceMs := stream.2
        boostFrameReferenceUs := boost.2
        dx11 := { checksum := 0, adapterLuid := 0, frameReferenceUs := 0 } }

/-- The frame reference a segment hands to the render loop. -/
def frameReferenceUs (goldens : Option RenderGoldens) : VfWorkload → Option Nat
  | .textureStream => goldens.map fun g => g.streamFrameReferenceMs * 1000
  | .boostEdge => goldens.map fun g => g.boostFrameReferenceUs
  | _ => none

def frameTimeDegraded (streamBanded boostEdge stalled : Bool)
    (frames streamFrameMsTotal boostFrameUsTotal : Nat) (referenceUs : Option Nat) : Bool :=
  if frames < goldenMinFrames then false
  else
    match referenceUs with
    | none => false
    | some referenceUs =>
      let referenceUs := max referenceUs 1
      if streamBanded && !stalled then
        decide (streamFrameMsTotal * 1000 % 2 ^ 64 / frames >
          referenceUs * streamDegradationFactor % 2 ^ 64)
      else if boostEdge then
        decide (boostFrameUsTotal / frames > referenceUs * boostEdgeDegradationFactor % 2 ^ 64)
      else false

/-- When a frame of the render loop began and ended, in microseconds of the host's clock. -/
structure DwellFrame where
  startUs : Nat
  finishUs : Nat
deriving DecidableEq, Repr

def DwellFrame.elapsedUs (self : DwellFrame) : Nat := self.finishUs - self.startUs

def DwellFrame.elapsedMs (self : DwellFrame) : Nat := self.elapsedUs / 1000

/-- A dwell in which no band stalled. The device can be lost between two bands; that frame is timed
and not counted. -/
structure StallFreeDwell where
  frames : List DwellFrame
  lostFrame : Option DwellFrame
  ordered : (frames ++ lostFrame.toList).Pairwise fun a b => a.finishUs ≤ b.startUs
  clock : ∀ frame ∈ frames ++ lostFrame.toList,
    frame.startUs ≤ frame.finishUs ∧ frame.finishUs ≤ u64Max

namespace StallFreeDwell

variable (dwell : StallFreeDwell)

def timed : List DwellFrame := dwell.frames ++ dwell.lostFrame.toList

def streamFrameMsTotal : Nat :=
  dwell.timed.foldl (fun total frame => saturatingAdd64 total frame.elapsedMs) 0

def boostFrameUsTotal : Nat :=
  dwell.frames.foldl (fun total frame => saturatingAdd64 total frame.elapsedUs) 0

/-- What the render loop of a profile declares about its frame times. -/
def degraded (profile : VfWorkload) (goldens : Option RenderGoldens) : Bool :=
  frameTimeDegraded (profile == .textureStream) (profile == .boostEdge) false
    dwell.frames.length dwell.streamFrameMsTotal dwell.boostFrameUsTotal
    (frameReferenceUs goldens profile)

/-- The average frame time in microseconds; a banded frame is read in whole milliseconds. -/
def averageFrameUs (profile : VfWorkload) : Nat :=
  (if profile = .textureStream then (dwell.timed.map DwellFrame.elapsedMs).sum * 1000
   else (dwell.frames.map DwellFrame.elapsedUs).sum) / dwell.frames.length

end StallFreeDwell

theorem foldl_saturatingAdd64 {α : Type} (f : α → Nat) (frames : List α) (total : Nat)
    (hfits : total + (frames.map f).sum ≤ u64Max) :
    frames.foldl (fun total frame => saturatingAdd64 total (f frame)) total =
      total + (frames.map f).sum := by
  induction frames generalizing total with
  | nil => simp
  | cons frame rest ih =>
    rw [List.map_cons, List.sum_cons] at hfits ⊢
    have hstep : saturatingAdd64 total (f frame) = total + f frame :=
      Nat.min_eq_left (by omega)
    rw [List.foldl_cons, hstep, ih _ (by omega), Nat.add_assoc]

/-- Frames that follow each other on one clock take no longer than the clock has run. -/
theorem sum_elapsedUs_le {frames : List DwellFrame} {now limit : Nat}
    (hordered : frames.Pairwise fun a b => a.finishUs ≤ b.startUs)
    (hclock : ∀ frame ∈ frames, frame.startUs ≤ frame.finishUs ∧ frame.finishUs ≤ limit)
    (hnow : now ≤ limit) (hfrom : ∀ frame ∈ frames, now ≤ frame.startUs) :
    now + (frames.map DwellFrame.elapsedUs).sum ≤ limit := by
  induction frames generalizing now with
  | nil => simpa using hnow
  | cons frame rest ih =>
    obtain ⟨hfirst, hrest⟩ := List.pairwise_cons.mp hordered
    obtain ⟨hframe, hlimit⟩ := hclock frame List.mem_cons_self
    have hbegan := hfrom frame List.mem_cons_self
    have hlater := ih hrest (fun later h => hclock later (List.mem_cons_of_mem _ h)) hlimit hfirst
    rw [List.map_cons, List.sum_cons, DwellFrame.elapsedUs]
    omega

theorem sum_elapsedMs_le (frames : List DwellFrame) :
    (frames.map DwellFrame.elapsedMs).sum * 1000 ≤ (frames.map DwellFrame.elapsedUs).sum := by
  induction frames with
  | nil => simp
  | cons frame rest ih =>
    have hframe : frame.elapsedMs * 1000 ≤ frame.elapsedUs := Nat.div_mul_le_self _ _
    rw [List.map_cons, List.sum_cons, List.map_cons, List.sum_cons, Nat.add_mul]
    exact Nat.add_le_add hframe ih

namespace StallFreeDwell

variable (dwell : StallFreeDwell)

theorem timed_fits : (dwell.timed.map DwellFrame.elapsedUs).sum ≤ u64Max := by
  have := sum_elapsedUs_le dwell.ordered dwell.clock (Nat.zero_le _) fun _ _ => Nat.zero_le _
  rwa [Nat.zero_add] at this

theorem streamFrameMsTotal_eq :
    dwell.streamFrameMsTotal = (dwell.timed.map DwellFrame.elapsedMs).sum := by
  have hfits := dwell.timed_fits
  have hms := sum_elapsedMs_le dwell.timed
  rw [streamFrameMsTotal, foldl_saturatingAdd64 _ _ _ (by omega), Nat.zero_add]

theorem boostFrameUsTotal_eq :
    dwell.boostFrameUsTotal = (dwell.frames.map DwellFrame.elapsedUs).sum := by
  have hfits := dwell.timed_fits
  rw [timed, List.map_append, List.sum_append] at hfits
  rw [boostFrameUsTotal, foldl_saturatingAdd64 _ _ _ (by omega), Nat.zero_add]

end StallFreeDwell

theorem captureOneGolden_avg_le {profile : VfWorkload} {capture : StockCapture}
    {checksum avgFrameUs : Nat}
    (h : captureOneGolden profile capture = .ok (checksum, avgFrameUs)) :
    avgFrameUs ≤ 4294967295 := by
  unfold captureOneGolden at h
  split at h
  next => cases h
  next =>
    obtain ⟨⟨golden, frames⟩, -, h⟩ := Fallible.bind_eq_ok.mp h
    obtain ⟨checksum, -, h⟩ := Fallible.bind_eq_ok.mp h
    cases h
    split <;> omega

theorem captureLabelled_ok {stock : VfWorkload → Except String StockCapture} {label : String}
    {workload : VfWorkload} {capture : StockCapture} {golden : Nat × Nat}
    (hcapture : stock workload = .ok capture)
    (hgolden : captureOneGolden workload capture = .ok golden) :
    captureLabelled stock label workload = .ok golden := by
  unfold captureLabelled
  rw [hcapture]
  dsimp only
  rw [hgolden]

/-- What the goldens keep of the two captures that feed the gate. -/
theorem captureFsgl3RenderGoldens_references {stock : VfWorkload → Except String StockCapture}
    {goldens : RenderGoldens} (h : captureFsgl3RenderGoldens stock = .ok goldens) :
    (∃ checksum, captureLabelled stock "texture-stream golden" .textureStream =
      .ok (checksum, goldens.streamFrameReferenceMs)) ∧
    ∃ checksum, captureLabelled stock "boost golden" .boostEdge =
      .ok (checksum, goldens.boostFrameReferenceUs) := by
  unfold captureFsgl3RenderGoldens at h
  obtain ⟨stream, hstream, h⟩ := Fallible.bind_eq_ok.mp h
  obtain ⟨boost, hboost, h⟩ := Fallible.bind_eq_ok.mp h
  obtain ⟨power, -, h⟩ := Fallible.bind_eq_ok.mp h
  obtain ⟨texrop, -, h⟩ := Fallible.bind_eq_ok.mp h
  obtain ⟨cadence, -, h⟩ := Fallible.bind_eq_ok.mp h
  obtain ⟨geometry, -, h⟩ := Fallible.bind_eq_ok.mp h
  cases h
  exact ⟨⟨stream.1, hstream⟩, boost.1, hboost⟩

def degradationFactor : VfWorkload → Nat
  | .textureStream => streamDegradationFactor
  | _ => boostEdgeDegradationFactor

/-- What the goldens and the segment make of a reference of one microsecond. -/
def referenceScale : VfWorkload → Nat
  | .textureStream => 1000
  | _ => 1

/-- The average is not one of those that the factor rejects and the scaled reference, which is at
least one, still lets pass. -/
def ReadsRight (profile : VfWorkload) (stockUs averageUs : Nat) : Prop :=
  ¬ (degradationFactor profile * stockUs < averageUs ∧
    averageUs ≤ degradationFactor profile * max (referenceScale profile * stockUs) 1)

instance (profile : VfWorkload) (stockUs averageUs : Nat) :
    Decidable (ReadsRight profile stockUs averageUs) :=
  inferInstanceAs (Decidable (¬ _))

/-- The workloads with a gate. -/
def Gated (profile : VfWorkload) : Prop := profile = .textureStream ∨ profile = .boostEdge

instance (profile : VfWorkload) : Decidable (Gated profile) :=
  inferInstanceAs (Decidable (_ ∨ _))

section Gate

variable {stock : VfWorkload → Except String StockCapture} {goldens : RenderGoldens}
  {profile : VfWorkload} {capture : StockCapture} {checksum stockUs : Nat}

theorem frameReferenceUs_eq (hgated : Gated profile)
    (hgoldens : captureFsgl3RenderGoldens stock = .ok goldens)
    (hcapture : stock profile = .ok capture)
    (hstock : captureOneGolden profile capture = .ok (checksum, stockUs)) :
    frameReferenceUs (some goldens) profile = some (referenceScale profile * stockUs) := by
  obtain ⟨⟨streamSum, hstream⟩, boostSum, hboost⟩ :=
    captureFsgl3RenderGoldens_references hgoldens
  rcases hgated with rfl | rfl
  · rw [captureLabelled_ok hcapture hstock] at hstream
    cases hstream
    rw [frameReferenceUs, Option.map_some, referenceScale, Nat.mul_comm]
  · rw [captureLabelled_ok hcapture hstock] at hboost
    cases hboost
    rw [frameReferenceUs, Option.map_some, show referenceScale .boostEdge = 1 from rfl,
      Nat.one_mul]

/-- The gate of the code is a threshold on the dwell's average. -/
theorem degraded_iff (hgated : Gated profile) {dwell : StallFreeDwell}
    (hframes : goldenMinFrames ≤ dwell.frames.length) {goldens : Option RenderGoldens}
    {referenceUs : Nat} (hreference : frameReferenceUs goldens profile = some referenceUs)
    (hfits : referenceUs ≤ 4294967295 * 1000) :
    dwell.degraded profile goldens = true ↔
      degradationFactor profile * max referenceUs 1 < dwell.averageFrameUs profile := by
  have hword : max referenceUs 1 * 2 % 2 ^ 64 = 2 * max referenceUs 1 := by
    rw [Nat.mod_eq_of_lt (by omega), Nat.mul_comm]
  unfold StallFreeDwell.degraded frameTimeDegraded
  rw [if_neg (Nat.not_lt.mpr hframes), hreference]
  rcases hgated with rfl | rfl
  · have htotal : dwell.streamFrameMsTotal * 1000 % 2 ^ 64 =
        (dwell.timed.map DwellFrame.elapsedMs).sum * 1000 := by
      have hms := sum_elapsedMs_le dwell.timed
      have hus := dwell.timed_fits
      unfold u64Max at hus
      rw [dwell.streamFrameMsTotal_eq, Nat.mod_eq_of_lt (by omega)]
    refine decide_eq_true_iff.trans ?_
    change max referenceUs 1 * 2 % 2 ^ 64 <
      dwell.streamFrameMsTotal * 1000 % 2 ^ 64 / dwell.frames.length ↔ _
    rw [hword, htotal]
    rfl
  · refine decide_eq_true_iff.trans ?_
    change max referenceUs 1 * 2 % 2 ^ 64 <
      dwell.boostFrameUsTotal / dwell.frames.length ↔ _
    rw [hword, dwell.boostFrameUsTotal_eq]
    rfl

end Gate

/-- A gated dwell is declared degraded exactly when it is slower than the factor allows, unless its
average falls between the threshold on the stock average and the one the code computes. -/
theorem degraded_iff_slower_iff {stock : VfWorkload → Except String StockCapture}
    {goldens : RenderGoldens} {profile : VfWorkload} {capture : StockCapture}
    {checksum stockUs : Nat} {dwell : StallFreeDwell} (hgated : Gated profile)
    (hgoldens : captureFsgl3RenderGoldens stock = .ok goldens)
    (hcapture : stock profile = .ok capture)
    (hstock : captureOneGolden profile capture = .ok (checksum, stockUs))
    (hframes : goldenMinFrames ≤ dwell.frames.length) :
    (dwell.degraded profile (some goldens) = true ↔
        degradationFactor profile * stockUs < dwell.averageFrameUs profile) ↔
      ReadsRight profile stockUs (dwell.averageFrameUs profile) := by
  have hreference := frameReferenceUs_eq hgated hgoldens hcapture hstock
  have hstockUs := captureOneGolden_avg_le hstock
  have hscale : 1 ≤ referenceScale profile ∧ referenceScale profile ≤ 1000 := by
    rcases hgated with rfl | rfl <;> decide
  have hfits : referenceScale profile * stockUs ≤ 4294967295 * 1000 := by
    rw [Nat.mul_comm]
    exact Nat.mul_le_mul hstockUs hscale.2
  have hstricter : degradationFactor profile * stockUs ≤
      degradationFactor profile * max (referenceScale profile * stockUs) 1 :=
    Nat.mul_le_mul_left _ ((Nat.le_mul_of_pos_left _ hscale.1).trans (Nat.le_max_left _ _))
  rw [degraded_iff hgated hframes hreference hfits, ReadsRight]
  omega

/-- A stock frame of twenty milliseconds. -/
def fiveStockFrames : StockCapture where
  frames := List.replicate 5 { checksum := 7, deviceLost := false }
  elapsedUs := 100000

def fourSlowFrames : StallFreeDwell where
  frames := [⟨0, 100000⟩, ⟨100000, 200000⟩, ⟨200000, 300000⟩, ⟨300000, 400000⟩]
  lostFrame := none
  ordered := by decide
  clock := by decide

theorem fiveStockFrames_goldens :
    captureFsgl3RenderGoldens (fun _ => .ok fiveStockFrames) =
      .ok { power := 7, boost := 7, texrop := 7, cadence := 7, geometry := 7, stream := 7
            streamFrameReferenceMs := 20000, boostFrameReferenceUs := 20000
            dx11 := { checksum := 0, adapterLuid := 0, frameReferenceUs := 0 } } := rfl

/-- A texture-stream dwell five times slower than stock passes. -/
theorem textureStream_five_times_slower_passes :
    ∃ (stock : VfWorkload → Except String StockCapture) (goldens : RenderGoldens)
      (capture : StockCapture) (checksum stockUs : Nat) (dwell : StallFreeDwell),
      captureFsgl3RenderGoldens stock = .ok goldens ∧ stock .textureStream = .ok capture ∧
        captureOneGolden .textureStream capture = .ok (checksum, stockUs) ∧
        goldenMinFrames ≤ dwell.frames.length ∧
        ¬ (dwell.degraded .textureStream (some goldens) = true ↔
          degradationFactor .textureStream * stockUs < dwell.averageFrameUs .textureStream) :=
  ⟨fun _ => .ok fiveStockFrames, _, fiveStockFrames, 7, 20000, fourSlowFrames,
    fiveStockFrames_goldens, rfl, rfl, by decide, by decide⟩

theorem degraded_iff_slower_iff_boostEdge :
    (fourSlowFrames.degraded .boostEdge (some
          { power := 7, boost := 7, texrop := 7, cadence := 7, geometry := 7, stream := 7
            streamFrameReferenceMs := 20000, boostFrameReferenceUs := 20000
            dx11 := { checksum := 0, adapterLuid := 0, frameReferenceUs := 0 } }) = true ↔
        degradationFactor .boostEdge * 20000 < fourSlowFrames.averageFrameUs .boostEdge) ↔
      ReadsRight .boostEdge 20000 (fourSlowFrames.averageFrameUs .boostEdge) :=
  @degraded_iff_slower_iff (fun _ => .ok fiveStockFrames) _ _ _ 7 _ _ (Or.inr rfl)
    fiveStockFrames_goldens rfl rfl (by decide)

end Nidavellir.VfQualifier
