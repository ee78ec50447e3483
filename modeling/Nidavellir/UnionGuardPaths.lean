import Nidavellir.UnionGuard

namespace Nidavellir

open Trace

/-- The probe commands consult the whole ledger of the card. -/
def probeScope (gpuKey : String) : LedgerScope := ⟨gpuKey, "", false⟩

/-- The confirmed paths, each with what it is given. -/
inductive ConfirmedPath
  | singleStep (steps : Option Nat) (candidate : Option PositiveOffsetPlan)
    (limits : PositiveOffsetLimits) (targetMhz : Nat) (gpuKey : String)
  | anchoredStep (steps : Option Nat) (plan : Option AnchoredPositiveOffsetPlan)
    (limits : PositiveOffsetLimits) (targetMhz : Nat) (gpuKey : String)
  | manualPrior (startMv steps : Option Nat) (plan : Option AnchoredPositiveOffsetPlan)
    (manualLimits : PositiveOffsetLimits) (targetMhz : Nat) (gpuKey : String)
  | multiStep (steps : Option Nat) (candidates : List AnchoredPositiveOffsetPlan)
    (limits : PositiveOffsetLimits) (targetMhz : Nat) (gpuKey : String)
  | targetSweep (validationPasses : Nat) (candidates : List AnchoredPositiveOffsetPlan)
    (limits : PositiveOffsetLimits) (targetMhz : Nat) (baselineOffsetMhz : Int)
    (gpuKey : String)
  | ladderSweep
    (descent : List F2MultiStepReport → Nat →
      PositiveOffsetLimits × List AnchoredPositiveOffsetPlan)
    (safe : F2MultiStepReport → Bool) (targets : List Nat) (gpuKey : String)
  | calibration (scope : LedgerScope) (plan : Except String AnchoredPositiveOffsetPlan)
    (limits : PositiveOffsetLimits) (targetMhz : Nat) (referenceOffsetMhz : Int)
    (discoveryDwellMs : Nat) (recheck : F2StepReport → Bool)
    (resolved : List F2StepReport → Bool)
  | applyQualification (scope : LedgerScope) (plan : Except String AnchoredPositiveOffsetPlan)
    (limits : PositiveOffsetLimits) (targetMhz qualificationDwellMs enduranceDwellMs : Nat)
    (renderGoldens : Option RenderGoldens)
    (powerAboveCeiling : F2StepReport → Option (Float32 × Float32))
  | clockDiscovery (discovery : F2Discovery) (fuel : Nat)

namespace ConfirmedPath

section Run

variable {W : Type*} [F2World W] [BuildEnv]

def run (w : W) : ConfirmedPath → W
  | singleStep steps candidate limits targetMhz gpuKey =>
    (runUndervoltProbe steps candidate limits targetMhz gpuKey w).2
  | anchoredStep steps plan limits targetMhz gpuKey =>
    (runAnchoredUndervoltProbe steps plan limits targetMhz gpuKey w).2
  | manualPrior startMv steps plan manualLimits targetMhz gpuKey =>
    (runManualPriorUndervoltProbe startMv steps plan manualLimits targetMhz gpuKey w).2
  | multiStep steps candidates limits targetMhz _ =>
    (runAnchoredMultiStep steps candidates limits targetMhz w).2
  | targetSweep validationPasses candidates limits targetMhz baselineOffsetMhz _ =>
    (runAnchoredTargetSweep validationPasses candidates limits targetMhz baselineOffsetMhz w).2
  | ladderSweep descent safe targets _ => (runAnchoredLadderSweep descent safe [] targets w).2
  | calibration scope plan limits targetMhz referenceOffsetMhz discoveryDwellMs recheck
      resolved =>
    (runConfirmedF2PowerCalibration scope plan limits targetMhz referenceOffsetMhz
      discoveryDwellMs recheck resolved w).2
  | applyQualification scope plan limits targetMhz qualificationDwellMs enduranceDwellMs
      renderGoldens powerAboveCeiling =>
    (runConfirmedF2ApplyQualification scope plan limits targetMhz qualificationDwellMs
      enduranceDwellMs renderGoldens powerAboveCeiling w).2
  | clockDiscovery discovery fuel => discovery.run fuel w

end Run

def scope : ConfirmedPath → LedgerScope
  | singleStep _ _ _ _ gpuKey | anchoredStep _ _ _ _ gpuKey | manualPrior _ _ _ _ _ gpuKey
  | multiStep _ _ _ _ gpuKey | targetSweep _ _ _ _ _ gpuKey | ladderSweep _ _ _ gpuKey =>
    probeScope gpuKey
  | calibration scope .. | applyQualification scope .. => scope
  | clockDiscovery discovery _ => discovery.scope

/-- Whether the path asks the condemnation ledger at its first read. -/
def consults : ConfirmedPath → Bool
  | multiStep .. | targetSweep .. | ladderSweep .. => false
  | _ => true

/-- The candidates a path may select. -/
def selects : ConfirmedPath → Nat → PositiveOffsetPlan → Prop
  | singleStep _ candidate _ targetMhz _, t, cand => t = targetMhz ∧ candidate = some cand
  | anchoredStep _ plan _ targetMhz _, t, cand | manualPrior _ _ plan _ targetMhz _, t, cand =>
    t = targetMhz ∧ plan.map (·.anchor) = some cand
  | multiStep _ candidates _ targetMhz _, t, cand
  | targetSweep _ candidates _ targetMhz _ _, t, cand =>
    t = targetMhz ∧ ∃ plan ∈ candidates, plan.anchor = cand
  | ladderSweep descent _ targets _, t, cand =>
    t ∈ targets ∧ ∃ done, ∃ plan ∈ (descent done t).2, plan.anchor = cand
  | calibration _ plan _ targetMhz .., t, cand
  | applyQualification _ plan _ targetMhz .., t, cand =>
    t = targetMhz ∧ ∃ candidate, plan = .ok candidate ∧ candidate.anchor = cand
  | clockDiscovery discovery _, t, cand =>
    t = discovery.targetMhz ∧ ∃ plan ∈ discovery.candidates, plan.anchor = cand

def rule (path : ConfirmedPath) (first : F2Stores) : GuardRule :=
  ⟨path.scope, first, path.consults, path.selects⟩

/-- At every read of the run, a candidate that the ledger in force refuses was refused by the
ledger the path consulted at its first read, or the record read with it lists the candidate. -/
def LedgerCovered (path : ConfirmedPath) (log : List GuardEvent) : Prop :=
  ∀ first, (reads log).head? = some first → ∀ stores ∈ reads log,
    (path.rule first).Covered stores

end ConfirmedPath

section Paths

variable {W : Type*} [F2World W] [BuildEnv] {rule : GuardRule} {w : Observed W}

omit [F2World W] [BuildEnv] in
theorem GuardRule.consulted_of_consults (hconsults : rule.consults) :
    rule.consulted = rule.scope.condemned rule.first.events := by
  simp [GuardRule.consulted, hconsults]

omit [BuildEnv] in
theorem guarded_readStores {w : W} (hfirst : rule.first = (F2World.readStores w).1) :
    Guarded rule (F2World.readStores (⟨w, []⟩ : Observed W)).2.calls := by
  show Guarded rule [.read (F2World.readStores w).1]
  rw [← hfirst]
  exact guarded_first

/-- A single step is guarded: its preflight asked both sources about the candidate it writes. -/
theorem confirmSingleStep_guarded {w : W} (hconsults : rule.consults) {gpuKey : String}
    (hscope : rule.scope = probeScope gpuKey) (hfirst : rule.first = (F2World.readStores w).1)
    {refusal : SafeLoopRecord → Bool → Option String} {candidate : Option PositiveOffsetPlan}
    {executor : PositiveOffsetPlan → F2Target} {targetMhz : Nat}
    (hselects : ∀ cand, candidate = some cand → rule.selects targetMhz cand)
    (hexecutor : ∀ cand, (executor cand).candidate = cand ∧
      (executor cand).targetMhz = targetMhz)
    (hrefusal : ∀ record bootFlagArmed, refusal record bootFlagArmed = none →
      ∃ cand, candidate = some cand ∧ ¬ candidateBlacklisted record targetMhz cand) :
    Guarded rule (confirmSingleStep refusal candidate executor gpuKey targetMhz
      (⟨w, []⟩ : Observed W)).2.calls := by
  have hread := guarded_readStores hfirst
  unfold confirmSingleStep
  simp only []
  split
  next => exact hread
  next => exact hread
  next cand hnone =>
    obtain ⟨hrecord, hledger⟩ := Option.or_eq_none_iff.mp hnone
    obtain ⟨cand', hcand, hadmits⟩ := hrefusal _ _ hrecord
    obtain rfl := Option.some.inj hcand
    obtain ⟨hcandidate, htarget⟩ := hexecutor cand
    have hasked : ¬ rule.consulted.refuses targetMhz cand.voltageMv := by
      rw [GuardRule.consulted_of_consults hconsults, hscope, hfirst]
      exact ledgerRefusal_eq_none_iff.mp hledger
    have hready : Ready rule [.read rule.first] (some (executor cand)) := by
      apply ready_first
      · rw [hcandidate, htarget]
        exact hselects cand rfl
      · rw [hcandidate, htarget]
        exact hasked
      · rw [hcandidate, htarget, hfirst]
        exact hadmits
    rw [hfirst] at hready
    exact ((ready_step_kept rule).runConfirmedF2Step hready).toGuarded

theorem runAnchoredMultiStep_guarded {w : W} (hfirst : rule.first = (F2World.readStores w).1)
    {candidates : List AnchoredPositiveOffsetPlan} {targetMhz : Nat}
    (hall : AllSelectable rule candidates targetMhz) (steps : Option Nat)
    (limits : PositiveOffsetLimits) :
    Guarded rule (runAnchoredMultiStep steps candidates limits targetMhz
      (⟨w, []⟩ : Observed W)).2.calls := by
  have hread := guarded_readStores hfirst
  unfold runAnchoredMultiStep
  simp only []
  split
  next => exact hread
  next => exact hread.multiStep hall limits 0 _

theorem runAnchoredTargetSweep_guarded {w : W} (hconsults : rule.consults = false)
    (hfirst : rule.first = (F2World.readStores w).1)
    {candidates : List AnchoredPositiveOffsetPlan} {targetMhz : Nat}
    (hselects : ∀ plan ∈ candidates, rule.selects targetMhz plan.anchor)
    (validationPasses : Nat) (limits : PositiveOffsetLimits) (baselineOffsetMhz : Int) :
    Guarded rule (runAnchoredTargetSweep validationPasses candidates limits targetMhz
      baselineOffsetMhz (⟨w, []⟩ : Observed W)).2.calls := by
  have hread := guarded_readStores hfirst
  have hall := allSelectable_of_not_consults hconsults hselects
  unfold runAnchoredTargetSweep
  simp only []
  split
  next => exact hread
  next =>
    split
    next => exact hread
    next =>
      have hswept := hread.multiStep hall limits baselineOffsetMhz candidates.length
      exact hswept.revalidateDeepest hconsults hselects _ limits baselineOffsetMhz _

section Ladder

variable {descent : List F2MultiStepReport → Nat →
    PositiveOffsetLimits × List AnchoredPositiveOffsetPlan}
  {safe : F2MultiStepReport → Bool}

theorem ladder_cons_guarded {target : Nat} {targets : List Nat} {done : List F2MultiStepReport}
    (hread : Guarded rule (F2World.readStores w).2.calls)
    (hall : AllSelectable rule (descent done target).2 target)
    (htail : ∀ done (w : Observed W), Guarded rule w.calls →
      Guarded rule (runAnchoredLadderSweep descent safe done targets w).2.calls) :
    Guarded rule (runAnchoredLadderSweep descent safe done (target :: targets) w).2.calls := by
  unfold runAnchoredLadderSweep
  simp only []
  split
  next => exact hread
  next =>
    have hswept := hread.multiStep hall (descent done target).1 0 (descent done target).2.length
    split
    next => exact htail _ _ hswept
    next => exact hswept

theorem Guarded.ladder (h : Guarded rule w.calls) {targets : List Nat}
    (hall : ∀ done, ∀ target ∈ targets, AllSelectable rule (descent done target).2 target)
    (done : List F2MultiStepReport) :
    Guarded rule (runAnchoredLadderSweep descent safe done targets w).2.calls := by
  induction targets generalizing done w with
  | nil => exact h
  | cons target targets ih =>
    refine ladder_cons_guarded (h.concat_read _) (hall done target (by simp)) ?_
    intro done w hw
    exact ih hw (fun done t ht => hall done t (by simp [ht])) done

end Ladder

omit [F2World W] [BuildEnv] in
/-- What a preflight of both sources says of the candidate it admits. -/
theorem preflight_admits {stores : F2Stores} (hfirst : rule.first = stores)
    (hconsults : rule.consults) {limits : PositiveOffsetLimits} {targetMhz : Nat}
    {candidate : AnchoredPositiveOffsetPlan}
    (h : (confirmedF2Refusal stores.record stores.bootFlagArmed (some 1)
      (some candidate.anchor) limits targetMhz).or
      (ledgerRefusal (rule.scope.condemned stores.events) targetMhz
        candidate.anchor.voltageMv) = none) :
    ¬ candidateBlacklisted rule.first.record targetMhz candidate.anchor ∧
      ¬ rule.consulted.refuses targetMhz candidate.anchor.voltageMv := by
  obtain ⟨hrecord, hledger⟩ := Option.or_eq_none_iff.mp h
  obtain ⟨cand, hcand, hadmits⟩ := confirmedF2Refusal_eq_none hrecord
  obtain rfl := Option.some.inj hcand
  rw [GuardRule.consulted_of_consults hconsults, hfirst]
  exact ⟨hadmits, ledgerRefusal_eq_none_iff.mp hledger⟩

section Preflighted

variable (rule) {w : W} {targetMhz : Nat}
  (hfirst : rule.first = (F2World.readStores (F2World.stopRequested w).2).1)
  (hconsults : rule.consults) {plan : Except String AnchoredPositiveOffsetPlan}
  (hselects : ∀ candidate, plan = .ok candidate → rule.selects targetMhz candidate.anchor)
  (limits : PositiveOffsetLimits)

include hfirst hconsults hselects

theorem runConfirmedF2PowerCalibration_guarded (referenceOffsetMhz : Int)
    (discoveryDwellMs : Nat) (recheck : F2StepReport → Bool)
    (resolved : List F2StepReport → Bool) :
    let log := (runConfirmedF2PowerCalibration rule.scope plan limits targetMhz
      referenceOffsetMhz discoveryDwellMs recheck resolved (⟨w, []⟩ : Observed W)).2.calls
    log = [] ∨ Guarded rule log := by
  have hread := guarded_readStores hfirst
  unfold runConfirmedF2PowerCalibration
  simp only []
  split
  next => exact Or.inl rfl
  next =>
    split
    next => exact Or.inl rfl
    next candidate =>
      right
      split
      next => exact hread
      next hnone =>
        obtain ⟨hrecord, hasked⟩ := preflight_admits hfirst hconsults hnone
        let target : F2Target := ⟨candidate.anchor, some candidate, .anchored, limits, targetMhz,
          referenceOffsetMhz, discoveryDwellMs, .powerDiscovery⟩
        let ops : RealF2Ops (Observed W) :=
          ⟨(F2World.readStores (⟨(F2World.stopRequested w).2, []⟩ : Observed W)).2, target⟩
        have hready : Ready rule [.read rule.first] (some target) :=
          ready_first (hselects candidate rfl) hasked hrecord
        have hready : Ready rule ops.world.calls (some ops.target) := by
          rw [hfirst] at hready
          exact hready
        have hstepped := (ready_step_kept rule).runConfirmedF2Step hready
        split
        next => exact Guarded.repeatCalibration hstepped resolved _ _
        next => exact hstepped.toGuarded

theorem runConfirmedF2ApplyQualification_guarded (qualificationDwellMs enduranceDwellMs : Nat)
    (renderGoldens : Option RenderGoldens)
    (powerAboveCeiling : F2StepReport → Option (Float32 × Float32)) :
    let log := (runConfirmedF2ApplyQualification rule.scope plan limits targetMhz
      qualificationDwellMs enduranceDwellMs renderGoldens powerAboveCeiling
      (⟨w, []⟩ : Observed W)).2.calls
    log = [] ∨ Guarded rule log := by
  have hread := guarded_readStores hfirst
  unfold runConfirmedF2ApplyQualification
  simp only []
  split
  next => exact Or.inl rfl
  next =>
    split
    next => exact Or.inl rfl
    next candidate =>
      right
      split
      next => exact hread
      next hnone =>
        obtain ⟨-, hasked⟩ := preflight_admits hfirst hconsults hnone
        exact hread.runGate ⟨hselects candidate rfl, hasked⟩

end Preflighted

theorem F2Discovery.run_guarded (self : F2Discovery) {w : W}
    (hfirst : rule.first = (F2World.readStores w).1) (hconsults : rule.consults)
    (hscope : rule.scope = self.scope)
    (hselects : ∀ plan ∈ self.candidates, rule.selects self.targetMhz plan.anchor)
    (fuel : Nat) : Guarded rule (self.run fuel (⟨w, []⟩ : Observed W)).calls := by
  have hread := guarded_readStores hfirst
  have hloaded : self.scope.condemned
      (F2World.readStores (⟨w, []⟩ : Observed W)).1.events = rule.consulted := by
    rw [GuardRule.consulted_of_consults hconsults, hscope, hfirst]
    rfl
  have hagain := hread.concat_read (F2World.readStores (F2World.readStores w).2).1
  unfold F2Discovery.run
  simp only [hloaded]
  split
  next => exact hagain
  next =>
    let ops : RealF2MultiOps (Observed W) :=
      { descentOps (F2World.readStores (F2World.readStores (⟨w, []⟩ : Observed W)).2).2
          self.candidates self.limits self.targetMhz 0 with
        dwellMs := self.discoveryDwellMs }
    have hstart : GuardedMulti rule (PlanOf self) ops := ⟨hagain, rfl, rfl⟩
    obtain ⟨hvisited, hadmitted⟩ := hstart.visits hselects [] (by simp [VisitsAdmitted]) fuel
    split
    next => exact hvisited
    next =>
      split
      next => exact hvisited
      next i reports hlast =>
        obtain ⟨j, -, hj⟩ := Option.bind_eq_some_iff.mp hlast
        obtain ⟨plan, hplan, hasked⟩ := hadmitted _ (List.mem_of_getElem? hj)
        exact Guarded.climbGate (w := (F2World.stopRequested _).2) hvisited hselects hplan hasked i
          le_rfl

/-- Every confirmed path keeps its log guarded. -/
theorem ConfirmedPath.run_guarded (path : ConfirmedPath) (w : W) :
    let log := (path.run (⟨w, []⟩ : Observed W)).calls
    log = [] ∨ ∃ first, Guarded (path.rule first) log := by
  cases path with
  | singleStep steps candidate limits targetMhz gpuKey =>
    right
    refine ⟨_, confirmSingleStep_guarded rfl rfl rfl ?_ ?_ ?_⟩
    · intro cand hcand
      exact ⟨rfl, hcand⟩
    · intro cand
      exact ⟨rfl, rfl⟩
    · intro record bootFlagArmed hnone
      exact confirmedF2Refusal_eq_none hnone
  | anchoredStep steps plan limits targetMhz gpuKey =>
    right
    refine ⟨_, confirmSingleStep_guarded rfl rfl rfl ?_ ?_ ?_⟩
    · intro cand hcand
      exact ⟨rfl, hcand⟩
    · intro cand
      exact ⟨rfl, rfl⟩
    · intro record bootFlagArmed hnone
      exact confirmedF2Refusal_eq_none hnone
  | manualPrior startMv steps plan manualLimits targetMhz gpuKey =>
    right
    refine ⟨_, confirmSingleStep_guarded rfl rfl rfl ?_ ?_ ?_⟩
    · intro cand hcand
      exact ⟨rfl, hcand⟩
    · intro cand
      exact ⟨rfl, rfl⟩
    · intro record bootFlagArmed hnone
      exact confirmedF2Refusal_eq_none (confirmedManualPriorRefusal_eq_none hnone)
  | multiStep steps candidates limits targetMhz gpuKey =>
    right
    refine ⟨_, runAnchoredMultiStep_guarded rfl ?_ steps limits⟩
    exact allSelectable_of_not_consults rfl fun plan hplan => ⟨rfl, plan, hplan, rfl⟩
  | targetSweep validationPasses candidates limits targetMhz baselineOffsetMhz gpuKey =>
    right
    refine ⟨_, runAnchoredTargetSweep_guarded rfl rfl ?_ validationPasses limits
      baselineOffsetMhz⟩
    intro plan hplan
    exact ⟨rfl, plan, hplan, rfl⟩
  | ladderSweep descent safe targets gpuKey =>
    let path := ConfirmedPath.ladderSweep descent safe targets gpuKey
    have hall : ∀ first done, ∀ target ∈ targets,
        AllSelectable (path.rule first) (descent done target).2 target := by
      intro first done target htarget
      exact allSelectable_of_not_consults rfl fun plan hplan => ⟨htarget, done, plan, hplan, rfl⟩
    cases targets with
    | nil => exact Or.inl rfl
    | cons target targets =>
      right
      refine ⟨_, ladder_cons_guarded (guarded_readStores rfl) (hall _ [] target (by simp)) ?_⟩
      intro done w hw
      exact hw.ladder (fun done t ht => hall _ done t (by simp [ht])) done
  | calibration scope plan limits targetMhz referenceOffsetMhz discoveryDwellMs recheck
      resolved =>
    let path := ConfirmedPath.calibration scope plan limits targetMhz referenceOffsetMhz
      discoveryDwellMs recheck resolved
    let first := (F2World.readStores (F2World.stopRequested w).2).1
    rcases runConfirmedF2PowerCalibration_guarded (path.rule first) (w := w) rfl rfl
      (fun candidate hplan => ⟨rfl, candidate, hplan, rfl⟩) limits referenceOffsetMhz
      discoveryDwellMs recheck resolved with hnil | hguarded
    · exact Or.inl hnil
    · exact Or.inr ⟨first, hguarded⟩
  | applyQualification scope plan limits targetMhz qualificationDwellMs enduranceDwellMs
      renderGoldens powerAboveCeiling =>
    let path := ConfirmedPath.applyQualification scope plan limits targetMhz
      qualificationDwellMs enduranceDwellMs renderGoldens powerAboveCeiling
    let first := (F2World.readStores (F2World.stopRequested w).2).1
    rcases runConfirmedF2ApplyQualification_guarded (path.rule first) (w := w) rfl rfl
      (fun candidate hplan => ⟨rfl, candidate, hplan, rfl⟩) limits qualificationDwellMs
      enduranceDwellMs renderGoldens powerAboveCeiling with hnil | hguarded
    · exact Or.inl hnil
    · exact Or.inr ⟨first, hguarded⟩
  | clockDiscovery discovery fuel =>
    right
    refine ⟨_, discovery.run_guarded rfl rfl rfl ?_ fuel⟩
    intro plan hplan
    exact ⟨rfl, plan, hplan, rfl⟩

omit [BuildEnv] in
/-- What makes a selection pass. -/
theorem RealF2MultiOps.select_ok_iff (self : RealF2MultiOps W) {i : Nat}
    {plan : AnchoredPositiveOffsetPlan} (hplan : self.candidates[i]? = some plan) :
    (self.select i).1 = .ok () ↔
      (F2World.readStores self.world).1.record.safeMode = false ∧
        (F2World.readStores self.world).1.bootFlagArmed = false ∧
        ¬ candidateBlacklisted (F2World.readStores self.world).1.record self.targetMhz
          plan.anchor := by
  have hread : (self.through F2World.readStores).1 = (F2World.readStores self.world).1 := rfl
  have htarget : (self.through F2World.readStores).2.targetMhz = self.targetMhz := rfl
  unfold RealF2MultiOps.select
  simp only [hplan, hread, htarget]
  split
  next hsafe => simp [hsafe]
  next hsafe =>
    split
    next harmed => simp [harmed]
    next harmed =>
      split
      next hlisted => simp [hlisted]
      next hlisted => simp [hsafe, harmed, hlisted]

end Paths

/-- A confirmed path writes only pairs that neither source refused when it selected them, in every
run whose ledger refusals its guard could see. A selection alone, which reads the record, does so
just where the record covers the ledger. -/
theorem confirmed_writes_pass_union_guard {W : Type*} [F2World W] [BuildEnv] :
    (∀ (path : ConfirmedPath) (w : W),
      path.LedgerCovered (path.run (⟨w, []⟩ : Observed W)).calls →
      UnionGuarded path.scope (path.run (⟨w, []⟩ : Observed W)).calls) ∧
    ∀ (scope : LedgerScope) (self : RealF2MultiOps W) (i : Nat)
      (plan : AnchoredPositiveOffsetPlan), self.candidates[i]? = some plan →
      (((self.select i).1 = .ok () →
          Permits scope (F2World.readStores self.world).1 (self.targetOf i plan)) ↔
        ((F2World.readStores self.world).1.record.safeMode = false →
          (F2World.readStores self.world).1.bootFlagArmed = false →
          (scope.condemned (F2World.readStores self.world).1.events).refuses self.targetMhz
            plan.anchor.voltageMv →
          candidateBlacklisted (F2World.readStores self.world).1.record self.targetMhz
            plan.anchor)) := by
  constructor
  · intro path w hcovered
    rcases path.run_guarded w with hnil | ⟨first, hguarded⟩
    · rw [hnil]
      exact unionGuarded_nil
    · exact hguarded.guarded (hcovered first hguarded.begins)
  · intro scope self i plan hplan
    rw [self.select_ok_iff hplan]
    constructor
    · intro h hsafe harmed hrefuses
      by_contra hlisted
      exact (h ⟨hsafe, harmed, hlisted⟩).ledger hrefuses
    · rintro h ⟨hsafe, harmed, hlisted⟩
      refine ⟨not_fieldPairBlacklisted_of_candidate hlisted, ?_⟩
      intro hrefuses
      exact hlisted (h hsafe harmed hrefuses)

/-- A card that writes and reads back nothing, and files that nobody changes. -/
structure QuietCard where
  stores : F2Stores

instance : F2World QuietCard where
  readStores self := (self.stores, self)
  stopRequested self := (false, self)
  armBootFlag _ self := (.ok (), self)
  applyPositiveOffset _ self := (.ok (), self)
  verify _ self := (.unverifiable, self)
  dwell _ self := ((F2Ops.dwell ({} : Scripted)).1, self)
  resetToStock _ self := (.ok (), self)
  clearBootFlag self := (.ok (), self)
  blacklistPoint _ _ self := (.ok (), self)
  appendObservation _ self := (.ok (), self)

def plan1845 : AnchoredPositiveOffsetPlan where
  targetMhz := 1845
  anchor := candidate1845
  entries := []
  cappedAboveBins := 0
  aboveAlreadyOkBins := 0
  elasticBelowBins := 0
  maxPositiveOffsetMhz := 90
  maxNegativeFlattenMhz := 0

/-- A two-step descent at 1845 MHz whose only candidate is the 856 mV bin. -/
def descent1845 : ConfirmedPath :=
  .multiStep (some 2) [plan1845] ⟨120, 30, 700, 1900⟩ 1845 "gpu-a"

def target1845 : F2Target where
  candidate := candidate1845
  anchored := some plan1845
  mode := .anchored
  limits := ⟨120, 30, 700, 1900⟩
  targetMhz := 1845
  prevOffsetMhz := 0
  dwellMs := f2StandardDwellMs
  stressPurpose := .powerDiscovery

theorem descent1845_log [BuildEnv] (stores : F2Stores) (hsafe : stores.record = {})
    (harmed : stores.bootFlagArmed = false) :
    (descent1845.run (⟨⟨stores⟩, []⟩ : Observed QuietCard)).calls =
      [.read stores, .read stores, .apply (some target1845)] := by
  obtain ⟨record, bootFlagArmed, events⟩ := stores
  subst hsafe harmed
  rfl

/-- The bin above it, with less of an offset. -/
def upperPlan1845 : AnchoredPositiveOffsetPlan :=
  { plan1845 with
    anchor := { candidate1845 with
      index := 65
      voltageMv := 862
      baseMhz := 1770
      offsetMhz := 75
      prevOffsetMhz := 60 } }

/-- A descent at 1845 MHz from the 862 mV bin to the condemned one, which the record lists too. -/
def coveredDescent : ConfirmedPath :=
  .multiStep (some 2) [upperPlan1845, plan1845] ⟨120, 30, 700, 1900⟩ 1845 "gpu-a"

def coveredStores : F2Stores where
  record := { blacklist := [.around (f2Intent 1845 candidate1845) defaultBlacklistRadius] }
  bootFlagArmed := false
  events := [rigidCondemnation 1845 856]

def upperTarget : F2Target :=
  { target1845 with candidate := upperPlan1845.anchor, anchored := some upperPlan1845 }

theorem coveredDescent_log [BuildEnv] :
    (coveredDescent.run (⟨⟨coveredStores⟩, []⟩ : Observed QuietCard)).calls =
      [.read coveredStores, .read coveredStores, .apply (some upperTarget)] := by
  rfl

/-- The ledger refuses the deeper candidate, the record covers it, and the other one is written. -/
theorem descent_passes_where_covered :
    let _ : BuildEnv := ⟨"0.1.0", "unknown"⟩
    let log := (coveredDescent.run (⟨⟨coveredStores⟩, []⟩ : Observed QuietCard)).calls
    .apply (some upperTarget) ∈ log ∧
      (coveredDescent.scope.condemned coveredStores.events).refuses 1845 856 ∧
      UnionGuarded coveredDescent.scope log := by
  let _ : BuildEnv := ⟨"0.1.0", "unknown"⟩
  refine ⟨?_, by decide, confirmed_writes_pass_union_guard.1 coveredDescent _ ?_⟩
  · rw [coveredDescent_log]
    simp
  · rw [coveredDescent_log]
    intro first _ stores hstores targetMhz cand hselects hrefuses
    obtain rfl : stores = coveredStores := by simpa [reads, GuardEvent.stores] using hstores
    obtain ⟨rfl, plan, hplan, rfl⟩ := hselects
    rcases List.mem_pair.mp hplan with rfl | rfl
    · have hspared : (coveredDescent.scope.condemned coveredStores.events).refuses 1845 862 =
          false := by decide
      exact absurd (hspared.symm.trans hrefuses) Bool.false_ne_true
    · exact .inr (by decide +kernel)

/-- The ledger condemned the pair, the record was reset since, and the descent writes it. -/
theorem descent_writes_condemned_pair :
    let _ : BuildEnv := ⟨"0.1.0", "unknown"⟩
    ¬ ∀ (path : ConfirmedPath) (w : QuietCard),
      UnionGuarded path.scope (path.run (⟨w, []⟩ : Observed QuietCard)).calls := by
  intro _ h
  let stores : F2Stores := ⟨{}, false, [rigidCondemnation 1845 856]⟩
  have hguarded := h descent1845 ⟨stores⟩
  rw [descent1845_log stores rfl rfl] at hguarded
  obtain ⟨t, last, ht, hlast, hpermits⟩ :=
    hguarded [.read stores, .read stores] (some target1845) [] rfl
  obtain rfl : target1845 = t := Option.some.inj ht
  obtain rfl : stores = last := Option.some.inj hlast
  exact hpermits.ledger (by decide)

end Nidavellir
