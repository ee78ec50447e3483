import Mathlib.Data.String.Defs

namespace Nidavellir

inductive PowerSweepMode
  | standard
  | long
deriving DecidableEq

/-- Whether a run may use what earlier runs learned. -/
inductive ForgeLearning
  | persistent
  | cleanRun
deriving DecidableEq

def PowerSweepMode.id : PowerSweepMode → String
  | .standard => "standard"
  | .long => "long"

/-- Checkpoints of old builds say "fast". -/
def PowerSweepMode.fromId : String → Option PowerSweepMode
  | "fast" => some .standard
  | "standard" => some .standard
  | "long" => some .long
  | _ => none

def ForgeLearning.id : ForgeLearning → String
  | .persistent => "persistent"
  | .cleanRun => "clean_run"

def ForgeLearning.fromId : String → Option ForgeLearning
  | "persistent" => some .persistent
  | "clean_run" => some .cleanRun
  | _ => none

structure ForgeResumeCompatibility where
  programVersion : String
  buildRevision : String
  gpuKey : String
  adapterName : String
  driverName : String
  driverInfo : String
deriving DecidableEq

/-- The progress record of the Forge, without its telemetry, notes and log. -/
structure PowerSweepProgress (Point : Type) where
  running : Bool := false
  phase : String := ""
  points : List Point := []
  recommended : Option Point := none
  godforge : Option Point := none
  brokkrs : Option Point := none
  deepCalm : Option Point := none
  powerBoundCollapse : Bool := false
  mode : Option String := none
  learning : Option String := none
  runId : Option String := none
  runSequence : List String := []
  frontierComplete : Bool := false
  profilesQualified : Bool := false
  resumeCompatibility : Option ForgeResumeCompatibility := none
  resumeAvailable : Bool := false
  resumeBlockReason : Option String := none

variable {Point : Type}

def PowerSweepProgress.idle : PowerSweepProgress Point := { phase := "idle" }

def forgeResumeCompatibilityMismatch (saved current : ForgeResumeCompatibility) :
    Option String :=
  if saved.programVersion ≠ current.programVersion ∨
      saved.buildRevision ≠ current.buildRevision then
    some ("checkpoint criado pelo build " ++ saved.programVersion ++ " (" ++ saved.buildRevision ++
      ") mas o backend atual é " ++ current.programVersion ++ " (" ++ current.buildRevision ++ ")")
  else if saved.gpuKey ≠ current.gpuKey ∨ saved.adapterName ≠ current.adapterName then
    some ("hardware GPU mudou (checkpoint '" ++ saved.gpuKey ++ "'/" ++ saved.adapterName ++
      "; atual '" ++ current.gpuKey ++ "'/" ++ current.adapterName ++ " )")
  else if saved.driverName ≠ current.driverName ∨ saved.driverInfo ≠ current.driverInfo then
    some ("driver GPU mudou (checkpoint '" ++ saved.driverName ++ " " ++ saved.driverInfo ++
      "'; atual '" ++ current.driverName ++ " " ++ current.driverInfo ++ "')")
  else none

def validateResumeCheckpoint (progress : PowerSweepProgress Point)
    (current : ForgeResumeCompatibility) : Except String (PowerSweepMode × ForgeLearning) :=
  if progress.running || progress.phase != "paused" then
    .error "não há checkpoint pausado por Stop manual para retomar"
  else match progress.resumeCompatibility with
    | none =>
      .error "checkpoint legado sem identidade de versão/driver/hardware; retomada recusada"
    | some saved =>
      match forgeResumeCompatibilityMismatch saved current with
      | some reason => .error reason
      | none =>
        match progress.mode.bind PowerSweepMode.fromId with
        | none => .error "checkpoint pausado não informa um modo Forge válido"
        | some mode =>
          match progress.learning.bind ForgeLearning.fromId with
          | none => .error "checkpoint pausado não informa a política de aprendizado"
          | some learning =>
            if progress.runId.isNone then
              .error "checkpoint pausado não possui identidade de execução"
            else .ok (mode, learning)

/-- What a restart makes of a stored checkpoint. -/
def refreshResumeAvailability (progress : PowerSweepProgress Point)
    (current : Except String ForgeResumeCompatibility) : PowerSweepProgress Point :=
  let blocked (reason : String) : PowerSweepProgress Point :=
    { progress with resumeAvailable := false, resumeBlockReason := some reason }
  if progress.phase != "paused" then blocked "não há checkpoint pausado por Stop manual"
  else match progress.resumeCompatibility, current with
    | none, _ =>
      blocked "checkpoint legado sem identidade de versão/driver/hardware; retomada recusada"
    | some _, .error reason => blocked reason
    | some saved, .ok current =>
      match forgeResumeCompatibilityMismatch saved current with
      | some reason => blocked reason
      | none => { progress with resumeAvailable := true, resumeBlockReason := none }

def f2TerminalPhase (manualPause forgeComplete forgeAborted retainBootFlag profilesQualified
    hasProfile : Bool) : String :=
  if manualPause then "paused"
  else if retainBootFlag then "interrupted"
  else if forgeComplete && !forgeAborted && profilesQualified && hasProfile then "finished"
  else if forgeComplete && !forgeAborted && hasProfile then "provisional"
  else "incomplete"

/-- The checkpoint is one that `resume` accepts on no backend, now or after a restart. -/
def PowerSweepProgress.NotResumable (progress : PowerSweepProgress Point) : Prop :=
  progress.phase ≠ "paused" ∧ progress.resumeAvailable = false ∧
    (∀ current, ∃ reason, validateResumeCheckpoint progress current = .error reason) ∧
    ∀ current, (refreshResumeAvailability progress current).resumeAvailable = false

theorem PowerSweepProgress.notResumable_of_phase {progress : PowerSweepProgress Point}
    (hphase : progress.phase ≠ "paused") (havailable : progress.resumeAvailable = false) :
    progress.NotResumable := by
  refine ⟨hphase, havailable, fun current => ?_, fun current => ?_⟩
  · have hno : (progress.running || progress.phase != "paused") = true := by simp [hphase]
    exact ⟨_, by rw [validateResumeCheckpoint, if_pos hno]⟩
  · simp [refreshResumeAvailability, hphase]

theorem f2TerminalPhase_eq_paused_iff {manualPause forgeComplete forgeAborted retainBootFlag
    profilesQualified hasProfile : Bool} :
    f2TerminalPhase manualPause forgeComplete forgeAborted retainBootFlag profilesQualified
      hasProfile = "paused" ↔ manualPause = true := by
  unfold f2TerminalPhase
  split
  next h => exact iff_of_true rfl h
  next h =>
    refine iff_of_false ?_ h
    split
    next => decide
    next => split
            next => decide
            next => split <;> decide

end Nidavellir
