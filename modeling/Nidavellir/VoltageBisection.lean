import Mathlib.Algebra.Ring.Nat

namespace Nidavellir

inductive StabilityResult
  | stable
  | silentError
  | crash
  | unstable
deriving DecidableEq, Repr

def StabilityResult.isStable (self : StabilityResult) : Bool := self == .stable

/-- The cliff plus a fixed buffer and a temperature term, in `u32` arithmetic. -/
def applySafetyMargin (cliffMv fixedMarginMv tempCoeffMvPerC headroomC : Nat) : Nat :=
  (cliffMv + fixedMarginMv + tempCoeffMvPerC * headroomC) % 2 ^ 32

def midpoint (a b : Nat) : Nat := a + (b - a) / 2

/-- The search for the least stable voltage of one frequency. -/
structure VoltageBisection where
  freqMhz : Nat
  stableMv : Nat
  unstableMv : Option Nat
  floorMv : Nat
  descentStepMv : Nat
  minStepMv : Nat
  currentMv : Option Nat
deriving DecidableEq, Repr

namespace VoltageBisection

def new (freqMhz stockMv floorMv descentStepMv minStepMv : Nat) : VoltageBisection where
  freqMhz := freqMhz
  stableMv := stockMv
  unstableMv := none
  floorMv := floorMv
  descentStepMv := max descentStepMv 1
  minStepMv := max minStepMv 1
  currentMv := none

/-- The voltage `next_test` picks: a coarse descent before the cliff is bracketed, the middle of
the gap after it. -/
def candidate (self : VoltageBisection) : Option Nat :=
  match self.unstableMv with
  | none =>
    if self.stableMv ≤ self.floorMv then none
    else some (max (self.stableMv - self.descentStepMv) self.floorMv)
  | some unstable =>
    if self.stableMv - unstable ≤ self.minStepMv then none
    else some (midpoint unstable self.stableMv)

def nextTest (self : VoltageBisection) : VoltageBisection × Option Nat :=
  ({ self with currentMv := self.candidate }, self.candidate)

def record (self : VoltageBisection) (result : StabilityResult) : VoltageBisection :=
  match self.currentMv with
  | none => self
  | some tested =>
    if result.isStable then
      { self with stableMv := min self.stableMv tested, currentMv := none }
    else
      { self with
        unstableMv := some (self.unstableMv.elim tested (max · tested))
        currentMv := none }

def isConverged (self : VoltageBisection) : Bool :=
  match self.unstableMv with
  | none => self.stableMv ≤ self.floorMv
  | some unstable => self.stableMv - unstable ≤ self.minStepMv

def minStableMv (self : VoltageBisection) : Nat := self.stableMv

@[simp] theorem candidate_withCurrent (b : VoltageBisection) (current : Option Nat) :
    { b with currentMv := current }.candidate = b.candidate := rfl

/-- The search has no next test just when it has converged. -/
theorem candidate_eq_none_iff {b : VoltageBisection} :
    b.candidate = none ↔ b.isConverged = true := by
  unfold candidate isConverged
  split <;> simp

/-- One test of the candidate with its result. -/
def tested (b : VoltageBisection) (result : StabilityResult) : VoltageBisection :=
  b.nextTest.1.record result

/-- The search after these results, each the answer to a test it asked for. -/
def after (b : VoltageBisection) : List StabilityResult → Option VoltageBisection
  | [] => some b
  | result :: results =>
    if b.isConverged then none else (b.tested result).after results

theorem after_append {b b' : VoltageBisection} {results : List StabilityResult}
    (h : b.after results = some b') (later : List StabilityResult) :
    b.after (results ++ later) = b'.after later := by
  induction results generalizing b with
  | nil =>
    obtain rfl := Option.some.inj h
    rfl
  | cons result results ih =>
    rw [after] at h
    rw [List.cons_append, after]
    split at h
    next => simp at h
    next hc => rw [if_neg hc, ih h]

/-- The gap left to search. -/
def room (b : VoltageBisection) : Nat :=
  b.unstableMv.elim (b.stableMv - b.floorMv + 1) (b.stableMv - ·)

structure Steps (b : VoltageBisection) : Prop where
  descent_pos : 0 < b.descentStepMv
  min_pos : 0 < b.minStepMv

theorem steps_new (freqMhz stockMv floorMv descentStepMv minStepMv : Nat) :
    (new freqMhz stockMv floorMv descentStepMv minStepMv).Steps :=
  ⟨Nat.lt_of_lt_of_le Nat.one_pos (Nat.le_max_right _ _),
    Nat.lt_of_lt_of_le Nat.one_pos (Nat.le_max_right _ _)⟩

theorem Steps.record {b : VoltageBisection} (h : b.Steps) (result : StabilityResult) :
    (b.record result).Steps := by
  unfold VoltageBisection.record
  split
  next => exact h
  next => split <;> exact ⟨h.descent_pos, h.min_pos⟩

theorem Steps.candidate_descending {b : VoltageBisection} (h : b.Steps) {mv : Nat}
    (hu : b.unstableMv = none) (hmv : b.candidate = some mv) :
    b.floorMv ≤ mv ∧ mv < b.stableMv := by
  have hdescent := h.descent_pos
  simp only [candidate, hu] at hmv
  split at hmv
  next => simp at hmv
  next hgt =>
    have hmax := Option.some.inj hmv
    omega

theorem Steps.candidate_bisecting {b : VoltageBisection} (h : b.Steps) {unstable mv : Nat}
    (hu : b.unstableMv = some unstable) (hmv : b.candidate = some mv) :
    unstable < mv ∧ mv < b.stableMv := by
  have hmin := h.min_pos
  simp only [candidate, hu] at hmv
  split at hmv
  next => simp at hmv
  next hgap =>
    have hmid : midpoint unstable b.stableMv = mv := Option.some.inj hmv
    unfold midpoint at hmid
    omega

theorem record_stable {b : VoltageBisection} {mv : Nat} (hcur : b.currentMv = some mv)
    {result : StabilityResult} (hr : result.isStable = true) :
    b.record result = { b with stableMv := min b.stableMv mv, currentMv := none } := by
  simp only [VoltageBisection.record, hcur, hr, if_true]

theorem record_unstable {b : VoltageBisection} {mv : Nat} (hcur : b.currentMv = some mv)
    {result : StabilityResult} (hr : result.isStable = false) :
    b.record result =
      { b with unstableMv := some (b.unstableMv.elim mv (max · mv)), currentMv := none } := by
  simp only [VoltageBisection.record, hcur, hr, Bool.false_eq_true, if_false]

/-- Whatever a test answers, the gap shrinks. -/
theorem Steps.room_record_lt {b : VoltageBisection} (h : b.Steps) {mv : Nat}
    (hmv : b.candidate = some mv) (hcur : b.currentMv = some mv) (result : StabilityResult) :
    (b.record result).room < b.room := by
  cases hu : b.unstableMv with
  | none =>
    have hbounds := h.candidate_descending hu hmv
    cases hr : result.isStable with
    | true =>
      rw [record_stable hcur hr]
      simp only [room, hu, Option.elim_none]
      omega
    | false =>
      rw [record_unstable hcur hr]
      simp only [room, hu, Option.elim_none, Option.elim_some]
      omega
  | some unstable =>
    have hbounds := h.candidate_bisecting hu hmv
    cases hr : result.isStable with
    | true =>
      rw [record_stable hcur hr]
      simp only [room, hu, Option.elim_some]
      omega
    | false =>
      rw [record_unstable hcur hr]
      simp only [room, hu, Option.elim_some]
      omega

end VoltageBisection

end Nidavellir
