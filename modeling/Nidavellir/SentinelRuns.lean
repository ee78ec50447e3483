import Nidavellir.Sentinel
import Nidavellir.Lib.Runs
import Mathlib.Logic.Function.Basic

namespace Nidavellir

open Runs SafeLoopStore

/-- The two threads that call `handle_failure`. -/
inductive SentinelLayer
  | watcher
  | canary
deriving DecidableEq

def SentinelLayer.bumpBins : SentinelLayer → Nat
  | .watcher => sentinelTdrBumpBins
  | .canary => sentinelSilentBumpBins

def SentinelLayer.kind : SentinelLayer → String
  | .watcher => "tdr"
  | .canary => "silent-canary"

/-- How far `handle_failure` is with a failure it has decided to act on. -/
inductive SentinelStage
  | decided
  | claimed
  | persisted
  | stock
  | armed
deriving DecidableEq

/-- The failure that a call of `handle_failure` acts on: what it read, the new anchor of a bump and
the profile that it found after its claim. -/
structure FailureHandling where
  bumps : Nat
  now : Nat
  failed : Nat × Nat
  newAnchorMv : Option Nat
  prior : Option AppliedProfile

/-- How a call of `handle_failure` ended; `stocked` is every end at stock. -/
inductive FailureOutcome
  | skipped
  | ignored
  | forgeOwns
  | stocked
  | bumped
deriving DecidableEq

/-- Where a layer's loop is. `taken` holds the bumps it has loaded. -/
inductive LayerPhase
  | idle
  | probing
  | taken (bumps : Nat)
  | handling (stage : SentinelStage) (failure : FailureHandling)
  | returned (outcome : FailureOutcome)
  | cooling (deadline : Nat)

inductive ServicePhase
  | down
  | recovered
  | reconciled
  | reapplied
  | running
deriving DecidableEq

/-- A driver reset that came while a pair was applied, the Forge inactive and no layer had acted in
the 90 seconds before. -/
structure ExposedTdr where
  index : Nat
  time : Nat
  pair : Nat × Nat
deriving DecidableEq

/-- The service, its files and the event log. Driver resets are counted: the cursors `baseline` (the
file) and `lastHandled` (the watcher's) are the number of the newest one they have passed. The
source has no `pending` and no `fallbacks`: the exposed resets that no cursor has passed, and the
pairs that the sentinel has applied in this session. -/
structure SentinelState where
  now : Nat
  dir : DataDir
  ledger : List CondemnationEvent
  logged : Nat
  newestAt : Nat
  baseline : Option Nat
  lastHandled : Option Nat
  startFloor : Nat
  lastAction : Nat
  bumps : Nat
  forgeActive : Bool
  rebootRequired : Option Nat
  timers : List Nat
  applying : Option AppliedProfile
  service : ServicePhase
  layer : SentinelLayer → LayerPhase
  taken : Nat
  pending : List ExposedTdr
  fallbacks : List (Nat × Nat)

/-- `apply` to `applyFails` are an apply of the operator or of the service's start, `forget` is the
end of a manual point's apply and `disarm` its reset; `arm` and `clear` are the flag of another
motor. A layer goes from `decide` to `fallbackReturns` inside `handle_failure`. -/
inductive SentinelEvent
  | tick (seconds : Nat)
  | tdr
  | crash
  | recover (bugcheck : CrashClass) (results : RecoveryResults) (sameBoot : Bool)
  | reconcile (seen bugcheck : Bool) (timestamp source : String)
      (record ledger applied : FileResult)
  | reapply (disarm : FileResult) (timestamp : String) (arm : FileResult)
  | spawn (seen : Bool)
  | apply (profile : AppliedProfile) (timestamp : String) (arm : FileResult)
  | save (result : FileResult)
  | applyFails
  | timer (due : Nat) (result : FileResult)
  | reset (clockError gpuError : Option String) (results : ResetResults)
  | fullReset (clockError gpuError : Option String) (results : ResetResults)
      (record baseline : FileResult)
  | disarm (clockError vfError : Option String) (applied bootFlag : FileResult)
  | forget (result : FileResult)
  | forge (active : Bool)
  | arm (flag : BootFlag) (result : FileResult)
  | clear (result : FileResult)
  | stop (marker : FileResult)
  | poll
  | canaryStarts
  | canaryReturns (failed : Bool)
  | decide (layer : SentinelLayer) (curve : List (Nat × Nat × Nat))
  | claim (layer : SentinelLayer)
  | persist (layer : SentinelLayer) (timestamp : String) (record ledger : FileResult)
  | stock (layer : SentinelLayer) (clockError gpuError : Option String) (results : ResetResults)
      (clear : FileResult)
  | fallback (layer : SentinelLayer) (timestamp : String) (arm clear : FileResult)
  | fallbackReturns (layer : SentinelLayer) (written : Bool) (appliedAt : Option String)
      (save clear : FileResult)
  | commit (layer : SentinelLayer)
  | cooled (layer : SentinelLayer) (seen : Bool)

namespace SentinelState

variable (gpuKey : String) (s : SentinelState)

/-- The newest logged reset, where the query answers. -/
def newest (seen : Bool) : Option Nat := if seen && s.logged != 0 then some s.logged else none

/-- The pair that a reset logged now is exposed with. -/
def exposes : Option (Nat × Nat) :=
  if s.forgeActive || sameEpisode s.lastAction s.now then none else appliedPair s.dir

def enter (layer : SentinelLayer) (phase : LayerPhase) : SentinelState :=
  { s with layer := Function.update s.layer layer phase }

def passing (newest : Nat) : List ExposedTdr := s.pending.filter (newest < ·.index)

/-- `persist_baseline` with the watcher's own cursor. -/
def advance (newest : Nat) : SentinelState :=
  { s with baseline := some newest, lastHandled := some newest, pending := s.passing newest }

/-- What the end of the process leaves. -/
def killed : SentinelState :=
  { s with
    lastHandled := none
    lastAction := 0
    bumps := 0
    forgeActive := false
    rebootRequired := none
    timers := []
    applying := none
    service := .down
    layer := fun _ => .idle
    taken := 0
    fallbacks := [] }

def logTdr : SentinelState :=
  { s with
    logged := s.logged + 1
    newestAt := s.now
    pending := s.pending ++ s.exposes.toList.map fun pair => ⟨s.logged + 1, s.now, pair⟩ }

def recovered (bugcheck : CrashClass) (results : RecoveryResults) (sameBoot : Bool) :
    SentinelState :=
  { s with
    dir := (runStartupRecovery bugcheck results s.dir).2
    rebootRequired := s.newest sameBoot
    service := .recovered }

/-- The newest reset is newer than the baseline, where there is one. -/
def newTdr (seen : Bool) : Bool :=
  (s.newest seen).any fun newest => s.baseline.any (· < newest)

def reconciled (seen bugcheck : Bool) (timestamp source : String)
    (record ledger applied : FileResult) : SentinelState :=
  let (demoted, dir) := startupReconcile (s.newTdr seen || bugcheck) record applied s.dir
  { s with
    dir := dir
    ledger :=
      match demoted, appliedPair s.dir with
      | true, some pair =>
        appendFieldFailure timestamp gpuKey pair.1 pair.2
          s!"{source} after this profile was applied; boot stays stock" ledger s.ledger
      | _, _ => s.ledger
    baseline := s.newest seen <|> s.baseline
    pending := (s.newest seen).elim s.pending s.passing
    service := .reconciled }

/-- The first step of an apply. -/
def armed (profile : AppliedProfile) (timestamp : String) (arm : FileResult) : SentinelState :=
  { s with
    dir := armBootFlag (profile.bootFlag timestamp) arm s.dir
    applying := if arm.isDone then some profile else none }

def reapplied (disarm : FileResult) (timestamp : String) (arm : FileResult) : SentinelState :=
  match reapplyOnBoot (s.rebootRequired.map toString) disarm s.dir with
  | (some profile, dir) => { { s with dir := dir }.armed profile timestamp arm with
      service := .reapplied }
  | (none, dir) => { s with dir := dir, service := .reapplied }

def spawned (seen : Bool) : SentinelState :=
  { s with
    lastHandled := s.newest seen
    startFloor := s.now
    bumps := 0
    pending := (s.newest seen).elim s.pending s.passing
    service := .running }

/-- A saved profile starts its survival timer. -/
def saved (profile : AppliedProfile) (result : FileResult) : SentinelState :=
  { s with dir := saveApplied profile result s.dir, timers := s.timers ++ [s.now + 8] }

def fullyReset (clockError gpuError : Option String) (results : ResetResults)
    (record baseline : FileResult) : SentinelState :=
  match Nidavellir.reset clockError gpuError results s.dir with
  | (.ok (), dir) =>
    { s with
      dir := saveRecord {} record dir
      baseline := if baseline.isDone then none else s.baseline
      lastAction := 0 }
  | (.error _, dir) => { s with dir := dir }

/-- One turn of the watcher's loop that finds a reset it has not handled. -/
def polled : SentinelState :=
  if s.newestAt < s.startFloor then s.advance s.logged
  else if s.forgeActive then { s with rebootRequired := some s.logged }.advance s.logged
  else { s with rebootRequired := some s.logged, taken := s.logged }.enter .watcher (.taken s.bumps)

/-- What the canary checks before it runs. -/
def canaryMayRun : Bool :=
  (appliedPair s.dir).isSome && !isBootFlagArmed s.dir && !s.forgeActive

def decided (layer : SentinelLayer) (bumps : Nat) (curve : List (Nat × Nat × Nat)) :
    SentinelState :=
  match decideFailure s.dir s.lastAction s.now bumps curve layer.bumpBins, appliedPair s.dir with
  | some (.bump _ newAnchorMv), some failed =>
    s.enter layer (.handling .decided ⟨bumps, s.now, failed, some newAnchorMv, none⟩)
  | some (.stock targetMhz failedMv), _ =>
    s.enter layer (.handling .decided ⟨bumps, s.now, (targetMhz, failedMv), none, none⟩)
  | some .forgeOwns, _ => s.enter layer (.returned .forgeOwns)
  | none, _ => s.enter layer (.returned .skipped)
  | some _, _ => s.enter layer (.returned .ignored)

def claimed (layer : SentinelLayer) (failure : FailureHandling) : SentinelState :=
  match claimActionEpoch s.lastAction failure.now with
  | (true, now) => { s with lastAction := now }.enter layer
      (.handling .claimed { failure with prior := loadApplied s.dir })
  | (false, _) => s.enter layer (.returned .skipped)

def persisted (layer : SentinelLayer) (failure : FailureHandling) (timestamp : String)
    (record ledger : FileResult) : SentinelState :=
  { s with
    dir := persistFieldFailure failure.failed.1 failure.failed.2 record s.dir
    ledger := appendFieldFailure timestamp gpuKey failure.failed.1 failure.failed.2
      (failureNote layer.kind failure.newAnchorMv) ledger s.ledger }.enter layer
    (.handling .persisted failure)

def stocked (layer : SentinelLayer) (failure : FailureHandling)
    (clockError gpuError : Option String) (results : ResetResults) (clear : FileResult) :
    SentinelState :=
  match resetAfterFailure failure.newAnchorMv.isSome clockError gpuError results clear s.dir with
  | (true, dir) => { s with dir := dir }.enter layer (.handling .stock failure)
  | (false, dir) => { s with dir := dir }.enter layer (.returned .stocked)

/-- The arm of the fallback's apply; one that fails clears the profile. -/
def fallbackArmed (layer : SentinelLayer) (failure : FailureHandling) (newAnchorMv : Nat)
    (timestamp : String) (arm clear : FileResult) : SentinelState :=
  let dir := armBootFlag ((fallbackProfile failure.prior layer.kind failure.failed newAnchorMv
    failure.bumps none).bootFlag timestamp) arm s.dir
  if arm.isDone then { s with dir := dir }.enter layer (.handling .armed failure)
  else { s with dir := clearApplied clear dir }.enter layer (.returned .stocked)

def fellBack (layer : SentinelLayer) (failure : FailureHandling) (newAnchorMv : Nat)
    (written : Bool) (appliedAt : Option String) (save clear : FileResult) : SentinelState :=
  if written then
    { s.saved (fallbackProfile failure.prior layer.kind failure.failed newAnchorMv failure.bumps
        appliedAt) save with
      fallbacks := s.fallbacks ++ [(failure.failed.1, newAnchorMv)] }.enter layer
      (.returned .bumped)
  else { s with dir := clearApplied clear s.dir }.enter layer (.returned .stocked)

/-- What the caller of `handle_failure` does next; only the watcher has a cursor. -/
def committed (layer : SentinelLayer) (outcome : FailureOutcome) : SentinelState :=
  let s := { s with bumps := if outcome = FailureOutcome.bumped then s.bumps + 1 else s.bumps }
  match layer with
  | .watcher => (s.advance s.taken).enter .watcher (.cooling (s.now + sentinelCooldownS))
  | .canary => s.enter .canary (.cooling (s.now + sentinelCooldownS))

/-- The watcher absorbs what was logged while it handled and cooled down. -/
def cooledDown (layer : SentinelLayer) (seen : Bool) : SentinelState :=
  match layer with
  | .watcher => ((s.newest seen).elim s s.advance).enter .watcher .idle
  | .canary => s.enter .canary .idle

def step : SentinelEvent → Option SentinelState
  | .tick seconds => some { s with now := s.now + seconds }
  | .tdr => some s.logTdr
  | .crash => some s.killed
  | .recover bugcheck results sameBoot =>
    if s.service = .down then some (s.recovered bugcheck results sameBoot) else none
  | .reconcile seen bugcheck timestamp source record ledger applied =>
    if s.service = .recovered then
      some (s.reconciled gpuKey seen bugcheck timestamp source record ledger applied)
    else none
  | .reapply disarm timestamp arm =>
    if s.service = .reconciled then some (s.reapplied disarm timestamp arm) else none
  | .spawn seen =>
    if s.service = .reapplied ∧ s.applying = none then some (s.spawned seen) else none
  | .apply profile timestamp arm =>
    if s.service = .running ∧ s.applying = none ∧ s.rebootRequired = none then
      some (s.armed profile timestamp arm)
    else none
  | .save result =>
    s.applying.map fun profile => { s.saved profile result with applying := none }
  | .applyFails => s.applying.map fun _ => { s with applying := none }
  | .timer due result =>
    if due ∈ s.timers ∧ due ≤ s.now then
      some { s with dir := clearBootFlag result s.dir, timers := s.timers.erase due }
    else none
  | .reset clockError gpuError results =>
    if s.service = .running ∧ s.applying = none then
      some { s with dir := (Nidavellir.reset clockError gpuError results s.dir).2 }
    else none
  | .fullReset clockError gpuError results record baseline =>
    if s.service = .running ∧ s.applying = none then
      some (s.fullyReset clockError gpuError results record baseline)
    else none
  | .disarm clockError vfError applied bootFlag =>
    if s.service = .running ∧ s.applying = none then
      some { s with dir := (resetAndDisarm clockError vfError applied bootFlag s.dir).2 }
    else none
  | .forget result =>
    if s.service = .running ∧ s.applying = none then
      some { s with dir := clearApplied result s.dir }
    else none
  | .forge active => if s.service = .running then some { s with forgeActive := active } else none
  | .arm flag result =>
    if s.service = .running then some { s with dir := armBootFlag flag result s.dir } else none
  | .clear result =>
    if s.service = .running then some { s with dir := clearBootFlag result s.dir } else none
  | .stop marker =>
    if s.service = .running then
      some { s with dir := writeCleanShutdown marker s.dir }.killed
    else none
  | .poll =>
    match s.layer .watcher with
    | .idle =>
      if s.service = .running ∧ s.logged ≠ 0 ∧ s.lastHandled ≠ some s.logged then some s.polled
      else none
    | _ => none
  | .canaryStarts =>
    match s.layer .canary with
    | .idle =>
      if s.service = .running ∧ s.canaryMayRun then some (s.enter .canary .probing) else none
    | _ => none
  | .canaryReturns failed =>
    match s.layer .canary with
    | .probing => some (s.enter .canary (if failed then .taken s.bumps else .idle))
    | _ => none
  | .decide layer curve =>
    match s.layer layer with
    | .taken bumps => some (s.decided layer bumps curve)
    | _ => none
  | .claim layer =>
    match s.layer layer with
    | .handling .decided failure => some (s.claimed layer failure)
    | _ => none
  | .persist layer timestamp record ledger =>
    match s.layer layer with
    | .handling .claimed failure =>
      some (s.persisted gpuKey layer failure timestamp record ledger)
    | _ => none
  | .stock layer clockError gpuError results clear =>
    match s.layer layer with
    | .handling .persisted failure =>
      some (s.stocked layer failure clockError gpuError results clear)
    | _ => none
  | .fallback layer timestamp arm clear =>
    match s.layer layer with
    | .handling .stock failure =>
      failure.newAnchorMv.map fun newAnchorMv =>
        s.fallbackArmed layer failure newAnchorMv timestamp arm clear
    | _ => none
  | .fallbackReturns layer written appliedAt save clear =>
    match s.layer layer with
    | .handling .armed failure =>
      failure.newAnchorMv.map fun newAnchorMv =>
        s.fellBack layer failure newAnchorMv written appliedAt save clear
    | _ => none
  | .commit layer =>
    match s.layer layer with
    | .returned outcome => some (s.committed layer outcome)
    | _ => none
  | .cooled layer seen =>
    match s.layer layer with
    | .cooling deadline => if deadline ≤ s.now then some (s.cooledDown layer seen) else none
    | _ => none

end SentinelState

namespace SentinelState

variable {s s' : SentinelState} {layer : SentinelLayer} {failure : FailureHandling}

theorem enter_self (s : SentinelState) (layer : SentinelLayer) (phase : LayerPhase) :
    (s.enter layer phase).layer layer = phase := Function.update_self _ _ _

theorem enter_of_ne (s : SentinelState) {layer other : SentinelLayer} (h : other ≠ layer)
    (phase : LayerPhase) : (s.enter layer phase).layer other = s.layer other :=
  Function.update_of_ne h _ _

/-- What a layer decides, with what it has read. -/
theorem decided_cases (s : SentinelState) (layer : SentinelLayer) (bumps : Nat)
    (curve : List (Nat × Nat × Nat)) :
    (∃ failed newAnchorMv, appliedPair s.dir = some failed ∧
      (∀ newMv, newAnchorMv = some newMv → failed.2 < newMv ∧ bumps < sentinelMaxBumpsPerSession) ∧
      s.decided layer bumps curve =
        s.enter layer (.handling .decided ⟨bumps, s.now, failed, newAnchorMv, none⟩)) ∨
    (isBootFlagArmed s.dir ∧ s.decided layer bumps curve = s.enter layer (.returned .forgeOwns)) ∨
    (sameEpisode s.lastAction s.now ∧
      s.decided layer bumps curve = s.enter layer (.returned .skipped)) ∨
    (appliedPair s.dir = none ∧
      s.decided layer bumps curve = s.enter layer (.returned .ignored)) := by
  unfold decided decideFailure
  by_cases hepisode : sameEpisode s.lastAction s.now
  · exact Or.inr (Or.inr (Or.inl ⟨hepisode, by simp [hepisode]⟩))
  · rw [if_neg hepisode]
    dsimp only
    generalize haction : sentinelDecide (appliedPair s.dir) (isBootFlagArmed s.dir) bumps _ _ =
      action
    cases action with
    | ignore =>
      have happlied := sentinelDecide_eq_ignore_iff.mp haction
      exact Or.inr (Or.inr (Or.inr ⟨happlied, by simp⟩))
    | forgeOwns => exact Or.inr (Or.inl ⟨sentinelDecide_eq_forgeOwns haction, rfl⟩)
    | bump targetMhz newAnchorMv =>
      obtain ⟨-, hbumps, hbin, anchorMv, happlied⟩ := sentinelDecide_eq_bump haction
      refine Or.inl ⟨(targetMhz, anchorMv), some newAnchorMv, happlied, ?_, by simp [happlied]⟩
      intro newMv hnew
      obtain rfl := Option.some.inj hnew
      rw [happlied] at hbin
      exact ⟨lt_of_mem_binsAboveAnchor hbin, hbumps⟩
    | stock targetMhz failedMv =>
      have happlied := sentinelDecide_eq_stock haction
      exact Or.inl ⟨(targetMhz, failedMv), none, happlied, by simp, by simp⟩

theorem claimed_cases (s : SentinelState) (layer : SentinelLayer) (failure : FailureHandling) :
    (sameEpisode s.lastAction failure.now ∧
      s.claimed layer failure = s.enter layer (.returned .skipped)) ∨
    (¬ sameEpisode s.lastAction failure.now ∧
      s.claimed layer failure = { s with lastAction := failure.now }.enter layer
        (.handling .claimed { failure with prior := loadApplied s.dir })) := by
  unfold claimed claimActionEpoch
  by_cases hepisode : sameEpisode s.lastAction failure.now
  · exact Or.inl ⟨hepisode, by simp [hepisode]⟩
  · exact Or.inr ⟨hepisode, by simp [hepisode]⟩

/-- After the reset, a bump goes on at stock and everything else is over. -/
theorem stocked_cases (s : SentinelState) (layer : SentinelLayer) (failure : FailureHandling)
    (clockError gpuError : Option String) (results : ResetResults) (clear : FileResult) :
    ∃ phase, (phase = .handling .stock failure ∨ phase = .returned .stocked) ∧
      s.stocked layer failure clockError gpuError results clear =
        { s with dir := (resetAfterFailure failure.newAnchorMv.isSome clockError gpuError results
          clear s.dir).2 }.enter layer phase := by
  unfold stocked
  split
  next dir heq => exact ⟨_, Or.inl rfl, by rw [heq]⟩
  next dir heq => exact ⟨_, Or.inr rfl, by rw [heq]⟩

/-- The reconciliation demotes the persisted pair, or leaves every file alone. -/
theorem reconciled_cases (gpuKey : String) (s : SentinelState) (seen bugcheck : Bool)
    (timestamp source : String) (record ledger applied : FileResult) :
    (∃ pair note, appliedPair s.dir = some pair ∧ (s.newTdr seen || bugcheck) = true ∧
      s.reconciled gpuKey seen bugcheck timestamp source record ledger applied =
        { s with
          dir := clearApplied applied (persistFieldFailure pair.1 pair.2 record s.dir)
          ledger := appendFieldFailure timestamp gpuKey pair.1 pair.2 note ledger s.ledger
          baseline := s.newest seen <|> s.baseline
          pending := (s.newest seen).elim s.pending s.passing
          service := .reconciled }) ∨
    ((appliedPair s.dir = none ∨ s.newTdr seen = false ∧ bugcheck = false) ∧
      s.reconciled gpuKey seen bugcheck timestamp source record ledger applied =
        { s with
          baseline := s.newest seen <|> s.baseline
          pending := (s.newest seen).elim s.pending s.passing
          service := .reconciled }) := by
  unfold reconciled startupReconcile
  cases huv : (loadApplied s.dir).bind (·.undervolt) with
  | none =>
    have hnone : appliedPair s.dir = none := by
      rw [appliedPair]
      cases hload : loadApplied s.dir with
      | none => rfl
      | some profile =>
        rw [hload] at huv
        have huv : profile.undervolt = none := huv
        simp [AppliedProfile.pair, huv]
    exact Or.inr ⟨Or.inl hnone, rfl⟩
  | some uv =>
    obtain ⟨profile, hload, huv⟩ := Option.bind_eq_some_iff.mp huv
    have hpair : appliedPair s.dir = some (uv.targetMhz, uv.anchorMv) := by
      simp [appliedPair, hload, AppliedProfile.pair, huv]
    by_cases hcrash : s.newTdr seen || bugcheck
    · refine Or.inl ⟨_, s!"{source} after this profile was applied; boot stays stock", hpair,
        hcrash, ?_⟩
      simp only [hcrash, if_true, hpair]
    · refine Or.inr ⟨Or.inr ?_, ?_⟩
      · simpa using hcrash
      · simp only [hcrash]
        rfl

end SentinelState

/-- The service starts from any files, with no exposed reset to make up for. -/
def sentinelMachine (gpuKey : String) : Machine SentinelState SentinelEvent where
  init s := s = s.killed ∧ s.pending = [] ∧ ∀ baseline, s.baseline = some baseline →
    baseline ≤ s.logged
  step s e s' := s.step gpuKey e = some s'

/-- A service that has never run, on a machine with no driver reset. -/
def freshService : SentinelState where
  now := 1000
  dir := {}
  ledger := []
  logged := 0
  newestAt := 0
  baseline := none
  lastHandled := none
  startFloor := 0
  lastAction := 0
  bumps := 0
  forgeActive := false
  rebootRequired := none
  timers := []
  applying := none
  service := .down
  layer := fun _ => .idle
  taken := 0
  pending := []
  fallbacks := []

theorem freshService_init (gpuKey : String) : (sentinelMachine gpuKey).init freshService :=
  ⟨rfl, rfl, by simp [freshService]⟩

end Nidavellir
