import Nidavellir.AnchoredPlan
import Mathlib.Algebra.Order.Field.Basic
import Mathlib.Tactic.NormNum

namespace Nidavellir

inductive CurveVerification
  | notApplicable
  | metadataOnly
  | verifiedCurve
  | liveMismatch
  | verificationFailed
deriving DecidableEq, Repr

/-- One point at or above the ceiling bin: the offset that was read back, and its clock, which may
be too low at idle. -/
structure PointEvidence where
  index : Nat
  voltageMv : Nat
  offsetKhz : Option Int
  freqMhz : Nat
deriving DecidableEq, Repr

namespace PointEvidence

def carriesOffset (self : PointEvidence) : Bool := self.offsetKhz.any (· ≠ 0)

def matchesFreq (targetMhz tolMhz : Nat) (self : PointEvidence) : Bool :=
  decide ((self.freqMhz - targetMhz) + (targetMhz - self.freqMhz) ≤ tolMhz)

end PointEvidence

/-- The state, the points with an offset, the points at the target, and all points. Nine tenths of
the points have to carry an offset. -/
def classifyCurve (targetMhz : Nat) (expected : List PointEvidence) (tolMhz : Nat) :
    CurveVerification × Nat × Nat × Nat :=
  let freqMatch := expected.countP (PointEvidence.matchesFreq targetMhz tolMhz)
  if expected.length = 0 then (.verificationFailed, 0, freqMatch, 0)
  else if expected.countP (fun e => e.offsetKhz.isSome) = 0 then
    (.verificationFailed, 0, freqMatch, expected.length)
  else
    let offsetPresent := expected.countP PointEvidence.carriesOffset
    let ratio : ℚ := offsetPresent / expected.length
    (if 1 ≤ offsetPresent ∧ 9 / 10 ≤ ratio then .verifiedCurve else .liveMismatch,
      offsetPresent, freqMatch, expected.length)

/-- The points of zero offset, as long as every point is explained. -/
def stockBins (targetMhz tolMhz : Nat) : List PointEvidence → Nat → Option Nat
  | [], bins => some bins
  | e :: rest, bins =>
    match e.offsetKhz with
    | none => none
    | some offset =>
      if e.freqMhz > targetMhz ∨ targetMhz - e.freqMhz > tolMhz then none
      else if offset = 0 then
        if e.freqMhz ≠ targetMhz then none else stockBins targetMhz tolMhz rest (bins + 1)
      else stockBins targetMhz tolMhz rest bins

/-- A target at the stock top needs no offset where the stock clock is the target already. -/
def isStockEquivalentCeiling (targetMhz : Nat) (stockTopMhz : Option Nat)
    (expected : List PointEvidence) (tolMhz : Nat) : Bool × Nat :=
  match stockTopMhz with
  | none => (false, 0)
  | some top =>
    if targetMhz > top ∨ top - targetMhz > tolMhz ∨ expected = [] then (false, 0)
    else
      match stockBins targetMhz tolMhz expected 0 with
      | none => (false, 0)
      | some bins => (true, bins)

def staticBase (map : List (Nat × Nat)) (idx : Nat) : Option Nat :=
  (map.find? fun entry => entry.1 == idx).map Prod.snd

structure NoDownCapEval where
  noDownCapNeeded : Nat
  overshootVeto : Bool
  staticBaseMissing : Nat
  evidencePresent : Bool
deriving DecidableEq

/-- A point of zero offset whose static base is not above the target needs no cap. -/
def PointEvidence.isBenign (targetMhz : Nat) (map : List (Nat × Nat)) (self : PointEvidence) :
    Bool :=
  (staticBase map self.index).any fun base =>
    decide (self.offsetKhz = some 0) && decide (base ≤ targetMhz)

def evalNoDownCap (targetMhz : Nat) (expected : List PointEvidence)
    (staticBaseByIdx : Option (List (Nat × Nat))) : NoDownCapEval :=
  let overshootVeto := expected.any fun e => decide (e.freqMhz > targetMhz)
  match staticBaseByIdx with
  | none =>
    { noDownCapNeeded := 0, overshootVeto, staticBaseMissing := expected.length
      evidencePresent := false }
  | some map =>
    { noDownCapNeeded := expected.countP (PointEvidence.isBenign targetMhz map)
      overshootVeto
      staticBaseMissing := expected.countP fun e => (staticBase map e.index).isNone
      evidencePresent := true }

structure LiveCeilingEval where
  state : CurveVerification
  offsetPresent : Nat
  freqMatch : Nat
  expectedN : Nat
  stockEquivalent : Bool
  stockEquivalentBins : Nat
  noDownCapNeeded : Nat
  noDownCapRescue : Bool
  overshootVeto : Bool
  staticBaseMissing : Nat
  effectiveCoverage : ℚ
deriving DecidableEq

def evalCeilingEvidence (targetMhz : Nat) (expected : List PointEvidence) (tolMhz : Nat)
    (stockTopMhz : Option Nat) (staticBaseByIdx : Option (List (Nat × Nat))) : LiveCeilingEval :=
  let curve := classifyCurve targetMhz expected tolMhz
  let stock :=
    if curve.1 = .liveMismatch then
      isStockEquivalentCeiling targetMhz stockTopMhz expected tolMhz
    else (false, 0)
  let noDownCap := evalNoDownCap targetMhz expected staticBaseByIdx
  let effectiveCoverage : ℚ :=
    if curve.2.2.2 > 0 then
      ((curve.2.1 + noDownCap.noDownCapNeeded : Nat) : ℚ) / curve.2.2.2
    else 0
  { state := curve.1
    offsetPresent := curve.2.1
    freqMatch := curve.2.2.1
    expectedN := curve.2.2.2
    stockEquivalent := stock.1
    stockEquivalentBins := stock.2
    noDownCapNeeded := noDownCap.noDownCapNeeded
    noDownCapRescue :=
      decide (curve.1 = .liveMismatch) && !stock.1 && noDownCap.evidencePresent &&
        decide (noDownCap.staticBaseMissing = 0) && !noDownCap.overshootVeto &&
        decide (9 / 10 ≤ effectiveCoverage)
    overshootVeto := noDownCap.overshootVeto
    staticBaseMissing := noDownCap.staticBaseMissing
    effectiveCoverage }

def liveEvidence (live : List VfBin) (ceilingMv : Nat) (vfGetPointKhz : Nat → Option Int) :
    List PointEvidence :=
  (live.filter fun bin => decide (ceilingMv ≤ bin.mv)).map fun bin =>
    ⟨bin.index, bin.mv, vfGetPointKhz bin.index, bin.base⟩

def classifyLiveCeiling (live : List VfBin) (ceilingMv targetMhz tolMhz : Nat)
    (stockTopMhz : Option Nat) (staticBase : Option (List VfBin))
    (vfGetPointKhz : Nat → Option Int) : LiveCeilingEval :=
  evalCeilingEvidence targetMhz (liveEvidence live ceilingMv vfGetPointKhz) tolMhz stockTopMhz
    (staticBase.map fun bins => bins.map fun bin => (bin.index, bin.base))

def LiveCeilingEval.verified (self : LiveCeilingEval) : Bool :=
  self.state == .verifiedCurve || self.stockEquivalent || self.noDownCapRescue

section Paths

variable {targetMhz tolMhz : Nat} {expected : List PointEvidence} {stockTopMhz : Option Nat}
  {staticBaseByIdx : Option (List (Nat × Nat))} {map : List (Nat × Nat)}

theorem nine_tenths_le_iff {present n : Nat} (h : 0 < n) :
    (9 / 10 : ℚ) ≤ (present : ℚ) / n ↔ 9 * n ≤ 10 * present := by
  have hpos : (0 : ℚ) < n := Nat.cast_pos.mpr h
  rw [div_le_div_iff₀ (by norm_num) hpos, mul_comm (present : ℚ)]
  exact_mod_cast Iff.rfl

theorem classifyCurve_verified_iff :
    (classifyCurve targetMhz expected tolMhz).1 = .verifiedCurve ↔
      1 ≤ expected.countP PointEvidence.carriesOffset ∧
        9 * expected.length ≤ 10 * expected.countP PointEvidence.carriesOffset := by
  have hreadable : expected.countP PointEvidence.carriesOffset ≤
      expected.countP fun e => e.offsetKhz.isSome := by
    refine List.countP_mono_left fun e _ hcarries => ?_
    cases hoffset : e.offsetKhz with
    | none => simp [PointEvidence.carriesOffset, hoffset] at hcarries
    | some offset => rfl
  have hlength := expected.countP_le_length (p := PointEvidence.carriesOffset)
  unfold classifyCurve
  dsimp only
  split_ifs with hempty hunread hratio
  · exact iff_of_false (by simp) fun h => by omega
  · exact iff_of_false (by simp) fun h => by omega
  · rw [nine_tenths_le_iff (Nat.pos_of_ne_zero hempty)] at hratio
    exact iff_of_true rfl hratio
  · rw [nine_tenths_le_iff (Nat.pos_of_ne_zero hempty)] at hratio
    exact iff_of_false (by simp) hratio

theorem classifyCurve_counts (h : (classifyCurve targetMhz expected tolMhz).1 = .liveMismatch) :
    (classifyCurve targetMhz expected tolMhz).2.1 =
        expected.countP PointEvidence.carriesOffset ∧
      (classifyCurve targetMhz expected tolMhz).2.2.2 = expected.length ∧ 0 < expected.length := by
  unfold classifyCurve at h ⊢
  dsimp only at h ⊢
  split_ifs at h ⊢ with hempty hunread hratio
  exact ⟨rfl, rfl, Nat.pos_of_ne_zero hempty⟩

/-- How a point is explained on the stock-equivalent path. -/
structure PointEvidence.Explained (targetMhz tolMhz : Nat) (e : PointEvidence) : Prop where
  readable : e.offsetKhz.isSome
  plateau : e.freqMhz ≤ targetMhz ∧ targetMhz - e.freqMhz ≤ tolMhz
  zero : e.offsetKhz = some 0 → e.freqMhz = targetMhz

theorem explained_of_stockBins {bins n : Nat}
    (h : stockBins targetMhz tolMhz expected bins = some n) :
    ∀ e ∈ expected, e.Explained targetMhz tolMhz := by
  induction expected generalizing bins with
  | nil => exact fun e he => absurd he List.not_mem_nil
  | cons e rest ih =>
    unfold stockBins at h
    cases hoffset : e.offsetKhz with
    | none =>
      rw [hoffset] at h
      cases h
    | some offset =>
      rw [hoffset] at h
      dsimp only at h
      split_ifs at h with hplateau hzero htarget
      · have hexact : e.freqMhz = targetMhz := not_not.mp htarget
        exact List.forall_mem_cons.mpr
          ⟨⟨Option.isSome_of_eq_some hoffset, by omega, fun _ => hexact⟩, ih h⟩
      · refine List.forall_mem_cons.mpr
          ⟨⟨Option.isSome_of_eq_some hoffset, by omega, fun hsome => ?_⟩, ih h⟩
        exact absurd (Option.some.inj (hoffset.symm.trans hsome)) hzero

/-- What the stock-equivalent path asks for. -/
structure StockEquivalent (targetMhz tolMhz : Nat) (stockTopMhz : Option Nat)
    (expected : List PointEvidence) : Prop where
  top : ∃ top, stockTopMhz = some top ∧ targetMhz ≤ top ∧ top - targetMhz ≤ tolMhz
  explained : ∀ e ∈ expected, e.Explained targetMhz tolMhz

theorem stockEquivalent_of_accepted
    (h : (isStockEquivalentCeiling targetMhz stockTopMhz expected tolMhz).1 = true) :
    StockEquivalent targetMhz tolMhz stockTopMhz expected := by
  unfold isStockEquivalentCeiling at h
  cases stockTopMhz with
  | none => cases h
  | some top =>
    dsimp only at h
    split_ifs at h with hgate
    cases hbins : stockBins targetMhz tolMhz expected 0 with
    | none =>
      rw [hbins] at h
      cases h
    | some bins =>
      exact ⟨⟨top, rfl, by omega, by omega⟩, explained_of_stockBins hbins⟩

/-- What the rescue asks for: complete static evidence, no overshoot, and nine tenths of the points
with an offset or without need of one. -/
structure Rescued (targetMhz : Nat) (map : List (Nat × Nat)) (expected : List PointEvidence) :
    Prop where
  complete : ∀ e ∈ expected, (staticBase map e.index).isSome
  below : ∀ e ∈ expected, e.freqMhz ≤ targetMhz
  coverage : 9 * expected.length ≤ 10 * (expected.countP PointEvidence.carriesOffset +
    expected.countP (PointEvidence.isBenign targetMhz map))

theorem rescued_of_accepted
    (h : (evalCeilingEvidence targetMhz expected tolMhz stockTopMhz
      (some map)).noDownCapRescue = true) : Rescued targetMhz map expected := by
  unfold evalCeilingEvidence evalNoDownCap at h
  simp only [Bool.and_eq_true, decide_eq_true_eq, Bool.not_eq_true'] at h
  obtain ⟨⟨⟨⟨⟨hstate, -⟩, -⟩, hmissing⟩, hveto⟩, hcoverage⟩ := h
  obtain ⟨hpresent, hlength, hpos⟩ := classifyCurve_counts hstate
  rw [hlength, hpresent, if_pos hpos, nine_tenths_le_iff hpos] at hcoverage
  refine ⟨fun e he => ?_, fun e he => ?_, hcoverage⟩
  · have hknown := List.countP_eq_zero.mp hmissing e he
    cases hbase : staticBase map e.index with
    | none => exact absurd (by rw [hbase]; rfl) hknown
    | some base => rfl
  · have hlow := List.any_eq_false.mp hveto e he
    simpa using hlow

theorem stockEquivalent_eq_true
    (h : (evalCeilingEvidence targetMhz expected tolMhz stockTopMhz
      staticBaseByIdx).stockEquivalent = true) :
    StockEquivalent targetMhz tolMhz stockTopMhz expected := by
  unfold evalCeilingEvidence at h
  dsimp only at h
  split at h
  next => exact stockEquivalent_of_accepted h
  next => cases h

/-- The static base of the bin is above the target. -/
def PointEvidence.needsCap (targetMhz : Nat) (map : List (Nat × Nat)) (self : PointEvidence) :
    Bool :=
  (staticBase map self.index).any fun base => decide (targetMhz < base)

def PointEvidence.underReports (map : List (Nat × Nat)) (self : PointEvidence) : Bool :=
  (staticBase map self.index).any fun base => decide (self.freqMhz ≤ base)

/-- The bin is capped, or its static base is not above the target. -/
def PointEvidence.isCovered (targetMhz : Nat) (map : List (Nat × Nat)) (self : PointEvidence) :
    Bool :=
  self.carriesOffset || (staticBase map self.index).any fun base => decide (base ≤ targetMhz)

theorem PointEvidence.isBenign_iff {e : PointEvidence} :
    e.isBenign targetMhz map = true ↔
      e.offsetKhz = some 0 ∧
        (staticBase map e.index).any fun base => decide (base ≤ targetMhz) := by
  unfold isBenign
  cases staticBase map e.index with
  | none => simp
  | some base => simp

variable (targetMhz expected map) in
theorem countP_covered_ge :
    expected.countP PointEvidence.carriesOffset +
        expected.countP (PointEvidence.isBenign targetMhz map) ≤
      expected.countP (PointEvidence.isCovered targetMhz map) := by
  induction expected with
  | nil => exact le_rfl
  | cons e rest ih =>
    rw [List.countP_cons, List.countP_cons, List.countP_cons]
    cases hbenign : e.isBenign targetMhz map with
    | true =>
      obtain ⟨hzero, hbase⟩ := PointEvidence.isBenign_iff.mp hbenign
      have hcarries : e.carriesOffset = false := by rw [PointEvidence.carriesOffset, hzero]; rfl
      have hcovered : e.isCovered targetMhz map = true := by
        rw [PointEvidence.isCovered, hbase, Bool.or_true]
      rw [hcarries, hcovered]
      simp only [Bool.false_eq_true, if_false, if_true]
      omega
    | false =>
      cases hcarries : e.carriesOffset with
      | true =>
        have hcovered : e.isCovered targetMhz map = true := by
          rw [PointEvidence.isCovered, hcarries, Bool.true_or]
        rw [hcovered]
        simp only [Bool.false_eq_true, if_false, if_true]
        omega
      | false =>
        simp only [Bool.false_eq_true, if_false]
        omega

variable (targetMhz expected map) in
theorem countP_needsCap : expected.countP (PointEvidence.isBenign targetMhz map) +
    expected.countP (PointEvidence.needsCap targetMhz map) ≤ expected.length := by
  have hdisjoint : expected.countP (PointEvidence.needsCap targetMhz map) ≤
      expected.countP fun e => decide ¬ e.isBenign targetMhz map = true := by
    refine List.countP_mono_left fun e _ hneeds => decide_eq_true fun hbenign => ?_
    obtain ⟨-, hlow⟩ := PointEvidence.isBenign_iff.mp hbenign
    unfold PointEvidence.needsCap at hneeds
    cases hbase : staticBase map e.index with
    | none =>
      rw [hbase] at hneeds
      cases hneeds
    | some base =>
      rw [hbase, Option.any_some, decide_eq_true_eq] at hneeds hlow
      omega
  have htotal : expected.length = _ :=
    List.length_eq_countP_add_countP (PointEvidence.isBenign targetMhz map)
  omega

/-- What an evaluation of offsets that all read zero can rest on. -/
structure ZerosRefused (targetMhz tolMhz : Nat) (stockTopMhz : Option Nat)
    (map : List (Nat × Nat)) (expected : List PointEvidence) (eval : LiveCeilingEval) : Prop where
  unverified : eval.state ≠ .verifiedCurve
  stock : (∃ e ∈ expected, e.freqMhz ≠ targetMhz) → eval.stockEquivalent = false
  above : (∃ e ∈ expected, targetMhz < e.freqMhz) → eval.noDownCapRescue = false
  uncapped : expected.length < 10 * expected.countP (PointEvidence.needsCap targetMhz map) →
    eval.noDownCapRescue = false

theorem zerosRefused (hzero : ∀ e ∈ expected, e.offsetKhz = some 0) :
    ZerosRefused targetMhz tolMhz stockTopMhz map expected
      (evalCeilingEvidence targetMhz expected tolMhz stockTopMhz (some map)) := by
  have hnone : expected.countP PointEvidence.carriesOffset = 0 := by
    rw [List.countP_eq_zero]
    intro e he
    rw [PointEvidence.carriesOffset, hzero e he]
    decide
  constructor
  case unverified =>
    intro hverified
    have hpresent := (classifyCurve_verified_iff.mp hverified).1
    omega
  case stock =>
    rintro ⟨e, he, hoff⟩
    by_contra haccepted
    have hstock := stockEquivalent_eq_true (Bool.not_eq_false _ ▸ haccepted)
    exact hoff ((hstock.explained e he).zero (hzero e he))
  case above =>
    rintro ⟨e, he, habove⟩
    by_contra haccepted
    have hrescued := rescued_of_accepted (Bool.not_eq_false _ ▸ haccepted)
    exact absurd (hrescued.below e he) (not_le.mpr habove)
  case uncapped =>
    intro hmany
    by_contra haccepted
    have hcoverage := (rescued_of_accepted (Bool.not_eq_false _ ▸ haccepted)).coverage
    have hneeds := countP_needsCap targetMhz expected map
    omega

/-- Nine tenths of the points are covered, or the stock-equivalent path explains them all. -/
theorem covered_of_verified
    (h : (evalCeilingEvidence targetMhz expected tolMhz stockTopMhz (some map)).verified = true) :
    9 * expected.length ≤ 10 * expected.countP (PointEvidence.isCovered targetMhz map) ∨
      ∀ e ∈ expected, e.carriesOffset = true ∨ e.freqMhz = targetMhz := by
  have hcovered := countP_covered_ge targetMhz expected map
  unfold LiveCeilingEval.verified at h
  rw [Bool.or_eq_true, Bool.or_eq_true, beq_iff_eq] at h
  rcases h with (hstate | hstock) | hrescue
  · have hcoverage := (classifyCurve_verified_iff.mp hstate).2
    exact .inl (by omega)
  · refine .inr fun e he => ?_
    have hexplained := (stockEquivalent_eq_true hstock).explained e he
    obtain ⟨offset, hoffset⟩ := Option.isSome_iff_exists.mp hexplained.readable
    by_cases hzero : offset = 0
    · exact .inr (hexplained.zero (hzero ▸ hoffset))
    · refine .inl ?_
      rw [PointEvidence.carriesOffset, hoffset]
      exact decide_eq_true hzero
  · have hcoverage := (rescued_of_accepted hrescue).coverage
    exact .inl (by omega)

end Paths

/-- Where every offset reads zero, a ceiling is accepted only with nine tenths of the bins at or
below the target in the static table and no bin read above it, or with every bin read exactly at it;
and what is accepted at all covers nine tenths of the bins, or explains each by its reading. -/
theorem evalCeilingEvidence_sound (targetMhz tolMhz : Nat) (stockTopMhz : Option Nat)
    (map : List (Nat × Nat)) (expected : List PointEvidence) :
    ((∀ e ∈ expected, e.offsetKhz = some 0) →
      ZerosRefused targetMhz tolMhz stockTopMhz map expected
        (evalCeilingEvidence targetMhz expected tolMhz stockTopMhz (some map))) ∧
    ((evalCeilingEvidence targetMhz expected tolMhz stockTopMhz (some map)).verified = true →
      9 * expected.length ≤ 10 * expected.countP (PointEvidence.isCovered targetMhz map) ∨
        ∀ e ∈ expected, e.carriesOffset = true ∨ e.freqMhz = targetMhz) :=
  ⟨zerosRefused, covered_of_verified⟩

/-- A ceiling that left no offset is refused as soon as one bin at or above it reads above the
target. -/
theorem classifyLiveCeiling_unwritten {live : List VfBin} {ceilingMv targetMhz tolMhz : Nat}
    {stockTopMhz : Option Nat} {static : List VfBin} {vfGetPointKhz : Nat → Option Int}
    (hzero : ∀ bin ∈ live, ceilingMv ≤ bin.mv → vfGetPointKhz bin.index = some 0)
    (habove : ∃ bin ∈ live, ceilingMv ≤ bin.mv ∧ targetMhz < bin.base) :
    (classifyLiveCeiling live ceilingMv targetMhz tolMhz stockTopMhz (some static)
      vfGetPointKhz).verified = false := by
  obtain ⟨bin, hbin, hmv, hbase⟩ := habove
  have hrefused : ZerosRefused targetMhz tolMhz stockTopMhz
      (static.map fun bin => (bin.index, bin.base)) (liveEvidence live ceilingMv vfGetPointKhz)
      (classifyLiveCeiling live ceilingMv targetMhz tolMhz stockTopMhz (some static)
        vfGetPointKhz) := by
    refine zerosRefused fun e he => ?_
    obtain ⟨other, hother, rfl⟩ := List.mem_map.mp he
    obtain ⟨hlive, hhigh⟩ := List.mem_filter.mp hother
    exact hzero other hlive (of_decide_eq_true hhigh)
  have hpoint : ⟨bin.index, bin.mv, vfGetPointKhz bin.index, bin.base⟩ ∈
      liveEvidence live ceilingMv vfGetPointKhz :=
    List.mem_map.mpr ⟨bin, List.mem_filter.mpr ⟨hbin, decide_eq_true hmv⟩, rfl⟩
  have hstock := hrefused.stock ⟨_, hpoint, hbase.ne'⟩
  have hrescue := hrefused.above ⟨_, hpoint, hbase⟩
  rw [LiveCeilingEval.verified, hstock, hrescue, Bool.or_false, Bool.or_false]
  exact beq_eq_false_iff_ne.mpr hrefused.unverified

/-- Nine bins that need no cap, and one whose cap was not written and that reads too low. -/
def failedWrite (offsetKhz : Int) : List PointEvidence :=
  (List.range 9).map (fun i => ⟨i, 900, some offsetKhz, 1740⟩) ++ [⟨9, 1000, some 0, 1750⟩]

def bases (base : Nat) : List (Nat × Nat) := (List.range 9).map (fun i => (i, base)) ++ [(9, 1800)]

/-- One bin in ten may lack its cap, in either path. -/
theorem failed_write_accepted :
    ¬ (∀ (targetMhz tolMhz : Nat) (stockTopMhz : Option Nat) (map : List (Nat × Nat))
        (expected : List PointEvidence), expected ≠ [] →
      (∀ e ∈ expected, e.offsetKhz = some 0) →
      (∀ e ∈ expected, e.underReports map = true) →
      (∃ e ∈ expected, e.needsCap targetMhz map = true) →
        (evalCeilingEvidence targetMhz expected tolMhz stockTopMhz (some map)).verified = false) ∧
    ¬ (∀ (targetMhz tolMhz : Nat) (stockTopMhz : Option Nat) (map : List (Nat × Nat))
        (expected : List PointEvidence),
      (evalCeilingEvidence targetMhz expected tolMhz stockTopMhz (some map)).verified = true →
        ∀ e ∈ expected, e.isCovered targetMhz map = true) := by
  constructor
  · intro h
    have hrefused := h 1755 15 none (bases 1755) (failedWrite 0) (by decide) (by decide)
      (by decide) (by decide)
    revert hrefused
    decide +kernel
  · intro h
    have hcovered := h 1755 15 none (bases 1800) (failedWrite (-45000)) (by decide +kernel)
      ⟨9, 1000, some 0, 1750⟩ (by decide)
    revert hcovered
    decide

end Nidavellir
