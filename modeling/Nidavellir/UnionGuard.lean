import Nidavellir.ConfirmedPaths
import Nidavellir.CrashCondemnation
import Nidavellir.FloorDominance

namespace Nidavellir

open Trace F2MultiStepOps

inductive GuardEvent
  | read (stores : F2Stores)
  | apply (target : Option F2Target)

def GuardEvent.stores : GuardEvent → Option F2Stores
  | .read stores => some stores
  | .apply _ => none

/-- The world with a record of what was read before the writes and of the writes. -/
abbrev Observed (W : Type*) := Recorded GuardEvent W

def Observed.quiet {W R : Type*} (self : Observed W) (op : W → R × W) : R × Observed W :=
  let (result, ops) := op self.ops
  (result, { self with ops })

instance {W : Type*} [F2World W] : F2World (Observed W) where
  readStores self := self.record .read F2World.readStores
  stopRequested self := self.quiet F2World.stopRequested
  armBootFlag target self := self.quiet (F2World.armBootFlag target)
  applyPositiveOffset target self :=
    self.record (fun _ => .apply target) (F2World.applyPositiveOffset target)
  verify target self := self.quiet (F2World.verify target)
  dwell target self := self.quiet (F2World.dwell target)
  resetToStock target self := self.quiet (F2World.resetToStock target)
  clearBootFlag self := self.quiet F2World.clearBootFlag
  blacklistPoint target countsAsCrash self :=
    self.quiet (F2World.blacklistPoint target countsAsCrash)
  appendObservation report self := self.quiet (F2World.appendObservation report)

def reads (log : List GuardEvent) : List F2Stores := log.filterMap GuardEvent.stores

/-- Neither source refuses the pair of the target. -/
structure Permits (scope : LedgerScope) (stores : F2Stores) (target : F2Target) : Prop where
  field : ¬ fieldPairBlacklisted stores.record target.targetMhz target.candidate.voltageMv
  ledger : ¬ (scope.condemned stores.events).refuses target.targetMhz target.candidate.voltageMv

/-- The write follows a read at which neither source refused its pair. -/
def Allowed (scope : LedgerScope) (log : List GuardEvent) (target : Option F2Target) : Prop :=
  ∃ t stores, target = some t ∧ (reads log).getLast? = some stores ∧ Permits scope stores t

def UnionGuarded (scope : LedgerScope) (log : List GuardEvent) : Prop :=
  ∀ before target after, log = before ++ .apply target :: after → Allowed scope before target

/-- What a path checks when it selects: `first` is what it read first, and `consults` says whether
it asked the ledger then. -/
structure GuardRule where
  scope : LedgerScope
  first : F2Stores
  consults : Bool
  selects : Nat → PositiveOffsetPlan → Prop

namespace GuardRule

variable (rule : GuardRule)

def consulted : CondemnedPairs :=
  if rule.consults then rule.scope.condemned rule.first.events else {}

/-- Where the ledger refuses a candidate, the path had seen it refused or the record does. -/
def Covered (stores : F2Stores) : Prop :=
  ∀ targetMhz cand, rule.selects targetMhz cand →
    (rule.scope.condemned stores.events).refuses targetMhz cand.voltageMv →
    rule.consulted.refuses targetMhz cand.voltageMv ∨
      candidateBlacklisted stores.record targetMhz cand

end GuardRule

theorem emptyPairs_refuses_false {targetMhz anchorMv : Nat} :
    ¬ ({} : CondemnedPairs).refuses targetMhz anchorMv := by
  apply CondemnedPairs.not_refuses_below
  intro severity
  cases severity <;> simp [CondemnedPairs.bySeverity]

variable {rule : GuardRule} {scope : LedgerScope} {log : List GuardEvent}
  {target : Option F2Target} {stores : F2Stores}

@[simp] theorem reads_nil : reads [] = [] := rfl

@[simp] theorem reads_concat_read : reads (log ++ [.read stores]) = reads log ++ [stores] := by
  simp [reads, GuardEvent.stores]

@[simp] theorem reads_concat_apply : reads (log ++ [.apply target]) = reads log := by
  simp [reads, GuardEvent.stores]

theorem unionGuarded_nil : UnionGuarded scope [] := by
  intro before target after h
  simp at h

theorem UnionGuarded.concat {e : GuardEvent} (h : UnionGuarded scope log)
    (he : ∀ target, e = .apply target → Allowed scope log target) :
    UnionGuarded scope (log ++ [e]) := by
  intro before target after heq
  rcases List.eq_nil_or_concat after with rfl | ⟨rest, last, rfl⟩
  · obtain ⟨rfl, hlast⟩ := List.append_inj' heq rfl
    exact he target (List.cons.inj hlast).1
  · have hsplit : log ++ [e] = (before ++ .apply target :: rest) ++ [last] := by simpa using heq
    obtain ⟨rfl, -⟩ := List.append_inj' hsplit rfl
    exact h before target rest rfl

theorem Allowed.concat_apply (h : Allowed scope log target) (written : Option F2Target) :
    Allowed scope (log ++ [.apply written]) target := by
  obtain ⟨t, stores, ht, hlast, hpermits⟩ := h
  exact ⟨t, stores, ht, by simpa using hlast, hpermits⟩

/-- The log of a path so far: it began with the first read, and its writes are guarded wherever
its reads are covered. -/
structure Guarded (rule : GuardRule) (log : List GuardEvent) : Prop where
  begins : (reads log).head? = some rule.first
  guarded : (∀ stores ∈ reads log, rule.Covered stores) → UnionGuarded rule.scope log

/-- The executor may write its current target. -/
structure Ready (rule : GuardRule) (log : List GuardEvent) (target : Option F2Target) : Prop
    extends Guarded rule log where
  allowed : (∀ stores ∈ reads log, rule.Covered stores) → Allowed rule.scope log target

theorem guarded_first : Guarded rule [.read rule.first] := by
  refine ⟨rfl, ?_⟩
  intro _
  have hnil : UnionGuarded rule.scope [] := unionGuarded_nil
  exact hnil.concat (e := .read rule.first) (by simp)

theorem Guarded.concat_read (h : Guarded rule log) (stores : F2Stores) :
    Guarded rule (log ++ [.read stores]) := by
  refine ⟨by simp [h.begins], ?_⟩
  intro hcovered
  refine (h.guarded ?_).concat (by simp)
  intro s hs
  exact hcovered s (by simp [hs])

theorem Ready.concat_apply (h : Ready rule log target) :
    Ready rule (log ++ [.apply target]) target := by
  refine ⟨⟨by simp [h.begins], ?_⟩, ?_⟩
  · intro hcovered
    rw [reads_concat_apply] at hcovered
    refine (h.guarded hcovered).concat ?_
    intro written heq
    obtain rfl := GuardEvent.apply.inj heq
    exact h.allowed hcovered
  · intro hcovered
    rw [reads_concat_apply] at hcovered
    exact (h.allowed hcovered).concat_apply _

/-- At a covered read, a target that the record admits and the ledger view the path consulted does
not refuse is refused by neither source. -/
theorem GuardRule.Covered.permits (h : rule.Covered stores) {t : F2Target}
    (hselects : rule.selects t.targetMhz t.candidate)
    (hconsulted : ¬ rule.consulted.refuses t.targetMhz t.candidate.voltageMv)
    (hrecord : ¬ candidateBlacklisted stores.record t.targetMhz t.candidate) :
    Permits rule.scope stores t := by
  refine ⟨not_fieldPairBlacklisted_of_candidate hrecord, ?_⟩
  intro hrefuses
  rcases h _ _ hselects hrefuses with hold | hlisted
  · exact hconsulted hold
  · exact hrecord hlisted

theorem Guarded.ready_of_read (h : Guarded rule log) {t : F2Target}
    (hselects : rule.selects t.targetMhz t.candidate)
    (hconsulted : ¬ rule.consulted.refuses t.targetMhz t.candidate.voltageMv)
    (hrecord : ¬ candidateBlacklisted stores.record t.targetMhz t.candidate) :
    Ready rule (log ++ [.read stores]) (some t) := by
  refine ⟨h.concat_read stores, ?_⟩
  intro hcovered
  have hpermits := (hcovered stores (by simp)).permits hselects hconsulted hrecord
  exact ⟨t, stores, rfl, by simp, hpermits⟩

theorem ready_first {t : F2Target} (hselects : rule.selects t.targetMhz t.candidate)
    (hconsulted : ¬ rule.consulted.refuses t.targetMhz t.candidate.voltageMv)
    (hrecord : ¬ candidateBlacklisted rule.first.record t.targetMhz t.candidate) :
    Ready rule [.read rule.first] (some t) := by
  refine ⟨guarded_first, ?_⟩
  intro hcovered
  have hpermits := (hcovered rule.first (by simp [reads, GuardEvent.stores])).permits hselects
    hconsulted hrecord
  exact ⟨t, rule.first, rfl, rfl, hpermits⟩

theorem Ready.configure (h : Ready rule log target) (dwellMs : Nat) (purpose : F2StressPurpose) :
    Ready rule log
      (target.map fun t => { t with dwellMs, stressPurpose := purpose }) := by
  refine ⟨h.toGuarded, ?_⟩
  intro hcovered
  obtain ⟨t, stores, rfl, hlast, hpermits⟩ := h.allowed hcovered
  exact ⟨_, stores, rfl, hlast, hpermits.field, hpermits.ledger⟩

section Executors

variable {W : Type*}

/-- The executor of a descent may write its current target; `P` is a fact about its plan. -/
def ReadyMulti (rule : GuardRule) (P : List AnchoredPositiveOffsetPlan → Nat → Prop)
    (ops : RealF2MultiOps (Observed W)) : Prop :=
  Ready rule ops.world.calls ops.cur ∧ P ops.candidates ops.targetMhz

/-- The same, with no claim on the current target. -/
def GuardedMulti (rule : GuardRule) (P : List AnchoredPositiveOffsetPlan → Nat → Prop)
    (ops : RealF2MultiOps (Observed W)) : Prop :=
  Guarded rule ops.world.calls ∧ P ops.candidates ops.targetMhz

variable {P : List AnchoredPositiveOffsetPlan → Nat → Prop} {ops : RealF2MultiOps (Observed W)}
  {i : Nat}

theorem ReadyMulti.guarded (h : ReadyMulti rule P ops) : GuardedMulti rule P ops :=
  ⟨h.1.toGuarded, h.2⟩

variable [F2World W]

theorem ready_step_kept (rule : GuardRule) :
    F2Kept fun ops : RealF2Ops (Observed W) => Ready rule ops.world.calls (some ops.target) where
  armBootFlag h := h
  applyPositiveOffset h := h.concat_apply
  verify h := h
  dwell h := h
  resetToStock h := h
  clearBootFlag h := h
  blacklistPoint _ _ h := h

theorem readyMulti_kept : F2Kept (ReadyMulti (W := W) rule P) where
  armBootFlag h := h
  applyPositiveOffset h := ⟨h.1.concat_apply, h.2⟩
  verify h := h
  dwell h := h
  resetToStock h := h
  clearBootFlag h := h
  blacklistPoint _ _ h := h

theorem ReadyMulti.configurePhase (h : ReadyMulti rule P ops) (dwellMs : Nat)
    (purpose : F2StressPurpose) :
    ReadyMulti rule P (F2CandidateTransactionOps.configurePhase dwellMs purpose ops) :=
  ⟨h.1.configure dwellMs purpose, h.2⟩

/-- The candidate at `i` is one the path may select, and the ledger view it consulted does not
refuse it. -/
def Selectable (rule : GuardRule) (i : Nat) (candidates : List AnchoredPositiveOffsetPlan)
    (targetMhz : Nat) : Prop :=
  ∀ plan, candidates[i]? = some plan → rule.selects targetMhz plan.anchor ∧
    ¬ rule.consulted.refuses targetMhz plan.anchor.voltageMv

/-- A selection keeps the log guarded, and a passed one makes its candidate ready. -/
theorem GuardedMulti.select (h : GuardedMulti rule P ops)
    (hselectable : Selectable rule i ops.candidates ops.targetMhz) :
    GuardedMulti rule P (F2MultiStepOps.select i ops).2 ∧
      ((F2MultiStepOps.select i ops).1 = .ok () →
        ReadyMulti rule P (F2MultiStepOps.select i ops).2) := by
  show GuardedMulti rule P (RealF2MultiOps.select i ops).2 ∧
    ((RealF2MultiOps.select i ops).1 = .ok () → ReadyMulti rule P (RealF2MultiOps.select i ops).2)
  have hread := h.1.concat_read (F2World.readStores ops.world.ops).1
  unfold RealF2MultiOps.select
  cases hplan : ops.candidates[i]? with
  | none => exact ⟨h, by simp⟩
  | some plan =>
    obtain ⟨hselects, hconsulted⟩ := hselectable plan hplan
    simp only []
    split
    next => exact ⟨⟨hread, h.2⟩, by simp⟩
    next =>
      split
      next => exact ⟨⟨hread, h.2⟩, by simp⟩
      next =>
        split
        next => exact ⟨⟨hread, h.2⟩, by simp⟩
        next hrecord =>
          refine ⟨⟨hread, h.2⟩, ?_⟩
          intro _
          exact ⟨h.1.ready_of_read hselects hconsulted hrecord, h.2⟩

/-- A path whose guard reads the record alone selects candidates it may select. -/
def AllSelectable (rule : GuardRule) (candidates : List AnchoredPositiveOffsetPlan)
    (targetMhz : Nat) : Prop :=
  ∀ i, Selectable rule i candidates targetMhz

theorem allSelectable_of_not_consults (hconsults : rule.consults = false)
    {candidates : List AnchoredPositiveOffsetPlan} {targetMhz : Nat}
    (h : ∀ plan ∈ candidates, rule.selects targetMhz plan.anchor) :
    AllSelectable rule candidates targetMhz := by
  intro i plan hplan
  refine ⟨h plan (List.mem_of_getElem? hplan), ?_⟩
  have hnone : rule.consulted = {} := by simp [GuardRule.consulted, hconsults]
  rw [hnone]
  exact emptyPairs_refuses_false

theorem GuardedMulti.select_all (h : GuardedMulti rule (AllSelectable rule) ops) :
    GuardedMulti rule (AllSelectable rule) (F2MultiStepOps.select i ops).2 ∧
      ((F2MultiStepOps.select i ops).1 = .ok () →
        ReadyMulti rule (AllSelectable rule) (F2MultiStepOps.select i ops).2) :=
  h.select (h.2 i)

/-- A bin above an admitted one is admitted: its voltage is at least as high. -/
theorem F2Discovery.admitted_above (self : F2Discovery) {condemned : CondemnedPairs} {i j : Nat}
    {lower higher : AnchoredPositiveOffsetPlan} (hij : i ≤ j)
    (hlower : self.candidates[j]? = some lower) (hhigher : self.candidates[i]? = some higher)
    (h : ¬ condemned.refuses self.targetMhz lower.anchor.voltageMv) :
    ¬ condemned.refuses self.targetMhz higher.anchor.voltageMv := by
  intro hrefuses
  have hle : lower.anchor.voltageMv ≤ higher.anchor.voltageMv := by
    rcases hij.lt_or_eq with hlt | rfl
    · obtain ⟨hi, rfl⟩ := List.getElem?_eq_some_iff.mp hhigher
      obtain ⟨hj, rfl⟩ := List.getElem?_eq_some_iff.mp hlower
      exact List.pairwise_iff_getElem.mp self.descending i j hi hj hlt
    · obtain rfl := Option.some.inj (hlower.symm.trans hhigher)
      exact le_rfl
  exact h (CondemnedPairs.refuses_anti_anchor hle hrefuses)

section Motors

variable [BuildEnv]

theorem Guarded.multiStep {w : Observed W} (h : Guarded rule w.calls)
    {candidates : List AnchoredPositiveOffsetPlan} {targetMhz : Nat}
    (hall : AllSelectable rule candidates targetMhz) (limits : PositiveOffsetLimits)
    (baselineOffsetMhz : Int) (cap : Nat) :
    Guarded rule (runConfirmedF2MultiStep
      (descentOps w candidates limits targetMhz baselineOffsetMhz) cap).2.world.calls := by
  have hstart : GuardedMulti rule (AllSelectable rule)
      (descentOps w candidates limits targetMhz baselineOffsetMhz) := ⟨h, hall⟩
  have hend := readyMulti_kept.runConfirmedF2MultiStep
    (J := GuardedMulti rule (AllSelectable rule)) ReadyMulti.guarded GuardedMulti.select_all cap
    hstart
  exact hend.1

theorem GuardedMulti.extraValidations (h : GuardedMulti rule (AllSelectable rule) ops)
    (deepestIndex extraPasses : Nat) :
    GuardedMulti rule (AllSelectable rule)
      (runConfirmedF2ExtraValidations ops deepestIndex extraPasses).2 := by
  induction extraPasses generalizing ops with
  | zero => exact h
  | succ extraPasses ih =>
    have hselected := h.select_all (i := deepestIndex)
    unfold runConfirmedF2ExtraValidations
    split
    next heq => simpa [heq] using hselected.1
    next heq =>
      have hready := readyMulti_kept.runConfirmedF2Step (hselected.2 (by rw [heq]))
      simp only [heq] at hready
      simp only []
      split
      next => exact ih hready.guarded
      next => exact hready.guarded

theorem Guarded.revalidateDeepest {w : Observed W} (h : Guarded rule w.calls)
    {candidates : List AnchoredPositiveOffsetPlan} {targetMhz : Nat}
    (hconsults : rule.consults = false)
    (hselects : ∀ plan ∈ candidates, rule.selects targetMhz plan.anchor)
    (report : F2MultiStepReport) (limits : PositiveOffsetLimits) (baselineOffsetMhz : Int)
    (extraPasses : Nat) :
    Guarded rule (Nidavellir.revalidateDeepest report candidates limits targetMhz
      baselineOffsetMhz extraPasses w).2.calls := by
  unfold Nidavellir.revalidateDeepest
  split
  next => exact h
  next deepestIndex _ =>
    split
    next => exact h
    next deepest hdeepest =>
      have hmem := hselects deepest (List.mem_of_getElem? hdeepest)
      have hall : AllSelectable rule [deepest] targetMhz :=
        allSelectable_of_not_consults hconsults (by simpa using hmem)
      have hstart : GuardedMulti rule (AllSelectable rule)
          (descentOps w [deepest] limits targetMhz
            (chainedPrevOffset candidates deepestIndex baselineOffsetMhz)) := ⟨h, hall⟩
      exact (hstart.extraValidations 0 extraPasses).1

theorem Guarded.repeatCalibration {ops : RealF2Ops (Observed W)}
    (h : Ready rule ops.world.calls (some ops.target)) (resolved : List F2StepReport → Bool)
    (attempts : List F2StepReport) (left : Nat) :
    Guarded rule (Nidavellir.repeatCalibration resolved ops attempts left).2.world.calls := by
  induction left generalizing ops attempts with
  | zero => exact h.toGuarded
  | succ left ih =>
    unfold Nidavellir.repeatCalibration
    simp only []
    split
    next => exact h.toGuarded
    next =>
      have hstopped : Ready rule (ops.through F2World.stopRequested).2.world.calls
          (some (ops.through F2World.stopRequested).2.target) := h
      have hready := (ready_step_kept rule).runConfirmedF2Step hstopped
      split
      next => exact hready.toGuarded
      next => exact ih hready _

/-- The candidate of a gate is one the path may select and its ledger view does not refuse. -/
structure GateAllowed (rule : GuardRule) (gate : F2Gate) : Prop where
  selects : rule.selects gate.targetMhz gate.candidate.anchor
  consulted : ¬ rule.consulted.refuses gate.targetMhz gate.candidate.anchor.voltageMv

variable {gate : F2Gate} {w : Observed W}

theorem Guarded.pass (h : Guarded rule w.calls) (hgate : GateAllowed rule gate) (label : String)
    (dwellMs : Nat) (purpose : F2StressPurpose) :
    Guarded rule (gate.pass label w dwellMs purpose).2.calls := by
  have hstart : GuardedMulti rule (Selectable rule 0) (gate.ops w dwellMs purpose) := by
    refine ⟨h, ?_⟩
    intro plan hplan
    obtain rfl : gate.candidate = plan := by simpa [F2Gate.ops] using hplan
    exact ⟨hgate.selects, hgate.consulted⟩
  have hselected := hstart.select hstart.2
  unfold F2Gate.pass
  split
  next heq => simpa [heq] using hselected.1.1
  next ops heq =>
    have hready := readyMulti_kept.runConfirmedF2Step (hselected.2 (by rw [heq]))
    simp only [heq] at hready
    have hpersisted : ∀ report, Guarded rule
        (F2World.appendObservation report (runConfirmedF2Step ops).2.world).2.calls :=
      fun _ => hready.1.toGuarded
    have hlast := hpersisted (runConfirmedF2Step ops).1
    simp only []
    split
    next heq => simpa [heq] using hlast
    next heq => simpa [heq] using hlast

theorem Guarded.runPattern (h : Guarded rule w.calls) (hgate : GateAllowed rule gate)
    (pattern : F2QualificationPattern) (goldens : RenderGoldens)
    (inconclusiveRetries cleanPasses : Nat) :
    Guarded rule
      (gate.runPattern pattern goldens inconclusiveRetries cleanPasses w).2.calls := by
  induction hleft : F2Gate.passesLeft inconclusiveRetries cleanPasses
    using Nat.strong_induction_on generalizing inconclusiveRetries cleanPasses w with
  | h n ih =>
    have hpassed := Guarded.pass (w := (F2World.stopRequested w).2) h hgate "V8"
      gate.finalGateDwellMs (gate.purpose pattern goldens)
    unfold F2Gate.runPattern
    split
    next => exact h
    next =>
      split
      next heq => simpa [heq] using hpassed
      next heq =>
        simp only [heq] at hpassed
        split
        next => exact hpassed
        next hagain =>
          have hlt := gate.passesLeft_lt hagain
          exact ih _ (hleft ▸ hlt) hpassed _ _ rfl
        next => exact hpassed

theorem Guarded.runPatterns (h : Guarded rule w.calls) (hgate : GateAllowed rule gate)
    (goldens : RenderGoldens) (patterns : List F2QualificationPattern) :
    Guarded rule (gate.runPatterns goldens patterns w).2.calls := by
  induction patterns generalizing w with
  | nil => exact h
  | cons pattern patterns ih =>
    have hpattern := h.runPattern hgate pattern goldens 0 0
    unfold F2Gate.runPatterns
    split
    next heq => simpa [heq] using hpattern
    next heq => exact ih (by simpa [heq] using hpattern)

theorem Guarded.runEndurance (h : Guarded rule w.calls) (hgate : GateAllowed rule gate)
    (goldens : RenderGoldens) : Guarded rule (gate.runEndurance goldens w).2.calls := by
  have hpassed := Guarded.pass (w := (F2World.stopRequested w).2) h hgate "Endurance"
    gate.exactApplyEnduranceDwellMs (.applyQualification .endurance goldens)
  unfold F2Gate.runEndurance
  simp only []
  split
  next => exact h
  next =>
    split
    next heq => simpa [heq] using hpassed
    next heq =>
      simp only [heq] at hpassed
      split
      next => exact hpassed
      next => split <;> exact hpassed

theorem Guarded.runGate (h : Guarded rule w.calls) (hgate : GateAllowed rule gate) :
    Guarded rule (gate.run w).2.calls := by
  unfold F2Gate.run
  split
  next => exact h
  next goldens _ =>
    have hpatterns := h.runPatterns hgate goldens
      (requiredQualificationPatterns.take gate.finalGatePasses)
    split
    next heq => simpa [heq] using hpatterns
    next heq =>
      simp only [heq] at hpatterns
      split
      next => exact hpatterns.runEndurance hgate goldens
      next => exact hpatterns

section Discovery

variable {self : F2Discovery}

theorem GuardedMulti.attempts (h : GuardedMulti rule P ops)
    (hselectable : ∀ candidates targetMhz, P candidates targetMhz →
      Selectable rule i candidates targetMhz)
    (visited : List F2BinVisit) (reports : List F2StepReport) (left : Nat) :
    GuardedMulti rule P (self.attempts i visited ops reports left).2 := by
  induction left generalizing ops reports with
  | zero => exact h
  | succ left ih =>
    have hselected := h.select (hselectable _ _ h.2)
    unfold F2Discovery.attempts
    split
    next => exact h
    next phases _ =>
      split
      next heq => simpa [heq] using hselected.1
      next ops heq =>
        have hready : ReadyMulti rule P ops := by simpa [heq] using hselected.2 (by rw [heq])
        have hdone := readyMulti_kept.runF2Transaction
          (fun dwellMs purpose {_} hphase => hphase.configurePhase dwellMs purpose) hready phases id
        exact ih hdone.guarded _

/-- The bins a discovery visits were not refused by the ledger it loaded when it began. -/
def VisitsAdmitted (condemned : CondemnedPairs) (self : F2Discovery)
    (visited : List F2BinVisit) : Prop :=
  ∀ visit ∈ visited, ∃ plan, self.candidates[visit.1]? = some plan ∧
    ¬ condemned.refuses self.targetMhz plan.anchor.voltageMv

/-- The executor holds the plan of the discovery. -/
def PlanOf (self : F2Discovery) (candidates : List AnchoredPositiveOffsetPlan) (targetMhz : Nat) :
    Prop :=
  candidates = self.candidates ∧ targetMhz = self.targetMhz

theorem GuardedMulti.visits (h : GuardedMulti rule (PlanOf self) ops)
    (hselects : ∀ plan ∈ self.candidates, rule.selects self.targetMhz plan.anchor)
    (visited : List F2BinVisit) (hvisited : VisitsAdmitted rule.consulted self visited)
    (left : Nat) :
    Guarded rule (self.visits rule.consulted visited ops left).2.world.calls ∧
      VisitsAdmitted rule.consulted self (self.visits rule.consulted visited ops left).1 := by
  induction left generalizing ops visited with
  | zero => exact ⟨h.1, hvisited⟩
  | succ left ih =>
    unfold F2Discovery.visits
    split
    next => exact ⟨h.1, hvisited⟩
    next i plan hnext =>
      have hplan : self.candidates[i]? = some plan := by
        obtain ⟨j, -, hj⟩ := Option.bind_eq_some_iff.mp hnext
        obtain ⟨p, hp, heq⟩ := Option.map_eq_some_iff.mp hj
        obtain ⟨rfl, rfl⟩ := Prod.mk.inj heq
        exact hp
      simp only []
      split
      next => exact ⟨h.1, hvisited⟩
      next =>
        split
        next => exact ⟨h.1.concat_read _, hvisited⟩
        next hadmits =>
          have hadmitted : ¬ rule.consulted.refuses self.targetMhz plan.anchor.voltageMv :=
            fun hrefused => hadmits (by rw [hrefused, Bool.or_true])
          have hselectable : ∀ candidates targetMhz, PlanOf self candidates targetMhz →
              Selectable rule i candidates targetMhz := by
            rintro _ _ ⟨rfl, rfl⟩ found hfound
            obtain rfl := Option.some.inj (hplan.symm.trans hfound)
            exact ⟨hselects _ (List.mem_of_getElem? hplan), hadmitted⟩
          refine ih (GuardedMulti.attempts ?_ hselectable _ _ _) _ ?_
          · exact ⟨h.1.concat_read _, h.2⟩
          · intro visit hvisit
            rcases List.mem_append.mp hvisit with hvisit | hvisit
            · exact hvisited visit hvisit
            · obtain rfl := List.mem_singleton.mp hvisit
              exact ⟨plan, hplan, hadmitted⟩

theorem Guarded.climbGate (h : Guarded rule w.calls)
    (hselects : ∀ plan ∈ self.candidates, rule.selects self.targetMhz plan.anchor) {j : Nat}
    {qualified : AnchoredPositiveOffsetPlan} (hqualified : self.candidates[j]? = some qualified)
    (hadmitted : ¬ rule.consulted.refuses self.targetMhz qualified.anchor.voltageMv) (i : Nat)
    (hij : i ≤ j) : Guarded rule (self.climbGate w i).calls := by
  have hallowed : ∀ i ≤ j, ∀ candidate, self.candidates[i]? = some candidate →
      GateAllowed rule (self.finalGate candidate) := by
    intro i hij candidate hcandidate
    exact ⟨hselects candidate (List.mem_of_getElem? hcandidate),
      self.admitted_above hij hqualified hcandidate hadmitted⟩
  induction i generalizing w with
  | zero =>
    unfold F2Discovery.climbGate
    cases hcandidate : self.candidates[0]? with
    | none => exact h
    | some candidate => exact h.runGate (hallowed 0 hij candidate hcandidate)
  | succ i ih =>
    unfold F2Discovery.climbGate
    split
    next => exact h
    next candidate hcandidate =>
      have hgate := h.runGate (hallowed (i + 1) hij candidate hcandidate)
      split
      next heq => exact ih (by simpa [heq] using hgate) (by omega)
      next heq => simpa [heq] using hgate

end Discovery

end Motors

end Executors

end Nidavellir
