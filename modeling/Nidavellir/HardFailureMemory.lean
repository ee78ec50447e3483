import Nidavellir.CrashCondemnation
import Nidavellir.FloorDominance
import Nidavellir.ForgePoint
import Nidavellir.Sentinel
import Nidavellir.Lib.Runs

namespace Nidavellir

open Runs SafeLoopStore

/-- How one append to the ledger ended. The line and its newline are two writes; a line cut inside a
character leaves bytes that are no text. -/
inductive AppendResult
  | done
  | failed
  | unterminated
  | torn
  | split
deriving DecidableEq

/-- The last line of the ledger file: finished, without its newline yet and read as an entry or not,
or no text, which makes the file unreadable. -/
inductive LedgerTail
  | ended
  | cut (read : Option CondemnationEvent)
  | invalid
deriving DecidableEq

/-- The ledger file as its readers see it: the entries of its finished lines, and its last line. -/
structure LedgerFile where
  lines : List CondemnationEvent := []
  tail : LedgerTail := .ended
deriving DecidableEq

namespace LedgerFile

def loadAll (self : LedgerFile) : List CondemnationEvent :=
  match self.tail with
  | .ended => self.lines
  | .cut read => self.lines ++ read.toList
  | .invalid => []

/-- What is written behind an unfinished line becomes part of that line. -/
def append (e : CondemnationEvent) (result : AppendResult) (self : LedgerFile) : LedgerFile :=
  match result, self.tail with
  | .failed, _ | _, .invalid => self
  | .done, .ended => { self with lines := self.lines ++ [e] }
  | .done, .cut _ => { self with tail := .ended }
  | .unterminated, .ended => { self with tail := .cut (some e) }
  | .unterminated, .cut _ | .torn, _ => { self with tail := .cut none }
  | .split, _ => { self with tail := .invalid }

/-- The append leaves its entry where readers find it. -/
def reads (self : LedgerFile) (result : AppendResult) : Bool :=
  self.tail == .ended && (result == .done || result == .unterminated)

def added (self : LedgerFile) (event : CondemnationEvent) (result : AppendResult) :
    List CondemnationEvent :=
  if self.reads result then [event] else []

def left (self : LedgerFile) (result : AppendResult) : List CondemnationEvent :=
  match result with
  | .failed => self.loadAll
  | .split => []
  | _ => if self.tail = .invalid then [] else self.lines

theorem loadAll_append (self : LedgerFile) (e : CondemnationEvent) (result : AppendResult) :
    (self.append e result).loadAll = self.left result ++ self.added e result := by
  obtain ⟨lines, tail⟩ := self
  cases tail <;> cases result <;> simp [append, loadAll, left, added, reads]

end LedgerFile

def condemnation (severity : CondemnationSeverity) (kind timestamp : String)
    (gpuKey : Option String) (pair : Nat × Nat) (runId : Option String) (note : String) :
    CondemnationEvent where
  timestamp := timestamp
  gpuKey := gpuKey
  severity := severity
  kind := kind
  targetMhz := pair.1
  vfBinMv := pair.2
  runId := runId
  qualificationContractVersion := some f2QualificationContractVersion
  note := some note
  rehabilitated := false

/-- The entry that `persist_field_failure` appends where the pair is not Rigid yet. -/
def fieldFailureEntry (ledger : LedgerFile) (timestamp gpuKey : String) (pair : Nat × Nat)
    (note : String) : Option CondemnationEvent :=
  if (condemnedPairs ledger.loadAll gpuKey).rigid.contains pair then none
  else some (fieldTdrCondemnation timestamp gpuKey pair.1 pair.2 note)

/-- `blacklist_point` of the confirmed motors, called where a write lost the device. -/
def blacklistPoint (targetMhz : Nat) (candidate : PositiveOffsetPlan) (result : FileResult)
    (dir : DataDir) : DataDir :=
  let record := loadRecord dir
  let intent := f2Intent targetMhz candidate
  let record :=
    if record.isBlacklisted intent then record
    else record.blacklisting (.around intent defaultBlacklistRadius)
  saveRecord record result dir

def BootFlag.axis (flag : BootFlag) (axis : String) : Option Nat :=
  (flag.intent.axes.lookup axis).bind fun value =>
    if 0 ≤ value ∧ value ≤ u32Max then some value.toNat else none

/-- The pair that an armed F2 operation had on the card: a probe names its bin, an apply its
anchor. -/
def BootFlag.f2Pair (flag : BootFlag) : Option (Nat × Nat) := do
  let targetMhz ← flag.axis "gpu_freq_mhz"
  let anchorMv ← (flag.axis "gpu_vf_bin_mv").orElse fun _ => flag.axis "gpu_voltage_mv"
  return (targetMhz, anchorMv)

/-- A Windows driver reset that the sentinel hands to a running Forge, with what the handoff reads
beside the data directory: the saved checkpoint, the card, the clock and its fresh incident id. -/
structure ForgeTdr where
  file : Option (String × Option String)
  currentGpuKey : String
  eventTimestamp : String
  timestamp : String
  id : String
  record : FileResult
  append : AppendResult

namespace ForgeTdr

def flag (dir : DataDir) : Option BootFlag :=
  (readBootFlag dir).filter (·.phase == supervisedF2ForgePhase)

def gpuKey (self : ForgeTdr) : String := self.file.elim self.currentGpuKey Prod.fst

def runId (self : ForgeTdr) : Option String := self.file.bind Prod.snd

def targetMhz (dir : DataDir) : Option Nat := (flag dir).bind (·.axis "gpu_freq_mhz")

def anchorMv (dir : DataDir) : Option Nat := (flag dir).bind (·.axis "gpu_vf_bin_mv")

def pair (dir : DataDir) : Option (Nat × Nat) := do
  return (← targetMhz dir, ← anchorMv dir)

def incident (self : ForgeTdr) (dir : DataDir) : ForgeIncident where
  id := self.id
  kind := if (flag dir).isSome then .candidateCrash else .runtimeFailure
  detectedAt := self.timestamp
  runId := self.runId
  gpuKey := some self.gpuKey
  targetMhz := targetMhz dir
  anchorMv := anchorMv dir
  message :=
    if (flag dir).isSome then
      s!"Windows reported a TDR at {self.eventTimestamp} while the persisted Forge candidate " ++
        "was armed; the exact intent was blacklisted"
    else
      s!"Windows reported a TDR at {self.eventTimestamp} during Forge, outside an attributable " ++
        "candidate window; no point was inferred"
  acknowledged := false

def entry (self : ForgeTdr) (dir : DataDir) : Option CondemnationEvent :=
  (pair dir).map fun pair =>
    condemnation .rigid "candidate-crash" self.timestamp (some self.gpuKey) pair self.runId
      s!"Windows TDR at {self.eventTimestamp} while the Forge candidate was armed"

/-- `record_active_forge_tdr`, beside its ledger entry: the region is saved only with a new
incident. -/
def run (self : ForgeTdr) (dir : DataDir) : DataDir :=
  let record := loadRecord dir
  let record := (flag dir).elim record fun flag =>
    if record.isBlacklisted flag.intent then record
    else record.blacklisting (.around flag.intent defaultBlacklistRadius)
  let (record, recorded) := record.recordForgeIncident (self.incident dir)
  if recorded then saveRecord record self.record dir else dir

end ForgeTdr

structure OperatorReport where
  point : PowerSweepPoint
  runId : Option String
  gpuKey : String
  timestamp : String
  id : String
  record : FileResult
  append : AppendResult

namespace OperatorReport

def pair (self : OperatorReport) : Nat × Nat :=
  (self.point.target,
    (self.point.vfTableVoltageMv <|> self.point.boundaryVoltageMv).getD self.point.voltageMv)

def intent (self : OperatorReport) : TuningPoint :=
  .fromAxes [("gpu_freq_mhz", self.pair.1), ("gpu_offset_mhz", self.point.offsetMhz),
    ("gpu_vf_bin_mv", self.pair.2)]

def incident (self : OperatorReport) : ForgeIncident where
  id := self.id
  kind := .operatorFieldFailure
  detectedAt := self.timestamp
  runId := self.runId
  gpuKey := some self.gpuKey
  targetMhz := some self.pair.1
  anchorMv := some self.pair.2
  message := s!"Operator confirmed repeated real-use instability for {self.pair.1} MHz at " ++
    s!"{self.pair.2} mV VF bin"
  acknowledged := true

def recordOperatorFieldFailure (self : OperatorReport) (record : SafeLoopRecord) :
    SafeLoopRecord :=
  let record :=
    if record.isBlacklisted self.intent then record
    else record.blacklisting (.around self.intent defaultBlacklistRadius)
  let duplicateIncident := record.forgeIncidents.any fun incident =>
    incident.kind == .operatorFieldFailure && incident.gpuKey == some self.gpuKey &&
      incident.targetMhz == some self.pair.1 && incident.anchorMv == some self.pair.2
  { record with
    forgeIncidents :=
      if duplicateIncident then record.forgeIncidents
      else
        (if 64 ≤ record.forgeIncidents.length then record.forgeIncidents.tail
          else record.forgeIncidents) ++ [self.incident]
    state := if record.safeMode then record.state else .unstable }

def entry (self : OperatorReport) : CondemnationEvent :=
  condemnation .rigid "operator-field-failure" self.timestamp (some self.gpuKey) self.pair
    self.runId "Operator confirmed repeated real-use instability"

def run (self : OperatorReport) (dir : DataDir) : DataDir :=
  saveRecord (self.recordOperatorFieldFailure (loadRecord dir)) self.record dir

end OperatorReport

/-- The record without its GPU V/F regions, and how many there were. -/
def stripGpuVfBlacklist (record : SafeLoopRecord) : SafeLoopRecord × Nat :=
  let kept := record.blacklist.filter fun region =>
    (region.center.axes.lookup "gpu_freq_mhz").isNone
  ({ record with blacklist := kept }, record.blacklist.length - kept.length)

/-- What the start of a clean run does to the record: nothing where its archive folder cannot be
created. -/
def archivePreCleanRun (created : Bool) (result : FileResult) (dir : DataDir) : DataDir :=
  if created then
    let (record, removed) := stripGpuVfBlacklist (loadRecord dir)
    if 0 < removed then saveRecord record result dir else dir
  else dir

def resetGpuTuningFull (clockError gpuError : Option String) (results : ResetResults)
    (record : FileResult) (dir : DataDir) : DataDir :=
  match reset clockError gpuError results dir with
  | (.ok (), dir) => saveRecord {} record dir
  | (.error _, dir) => dir

def acknowledgeIncident (result : FileResult) (dir : DataDir) : DataDir :=
  match (loadRecord dir).acknowledgeForgeIncident with
  | (record, some _) => saveRecord record result dir
  | (_, none) => dir

def rehabilitation (timestamp : String) (gpuKey : Option String) (pair : Nat × Nat) :
    CondemnationEvent :=
  { condemnation .rigid "rehabilitated" timestamp gpuKey pair none "" with rehabilitated := true }

/-- The five ways a hard failure is recorded, and what else happens to the two stores. -/
inductive MemoryEvent
  | arm (flag : BootFlag) (result : FileResult)
  | clear (result : FileResult)
  | recovery (bugcheck : CrashClass) (results : RecoveryResults)
  | deviceLost (targetMhz : Nat) (candidate : PositiveOffsetPlan) (result : FileResult)
  | sentinelTdr (timestamp gpuKey note : String) (pair : Nat × Nat) (record : FileResult)
      (append : AppendResult)
  | forgeTdr (tdr : ForgeTdr)
  | operatorReport (report : OperatorReport)
  | quarantine (timestamp gpuKey runId note : String) (pair : Nat × Nat) (append : AppendResult)
  | rehabilitate (timestamp : String) (gpuKey : Option String) (pair : Nat × Nat)
      (append : AppendResult)
  | reset (clockError gpuError : Option String) (results : ResetResults)
  | resetFull (clockError gpuError : Option String) (results : ResetResults) (record : FileResult)
  | cleanRun (created : Bool) (result : FileResult)
  | acknowledge (result : FileResult)

/-- The stores, and the pairs that failed hard and were not rehabilitated since. -/
structure MemoryState where
  dir : DataDir := {}
  ledger : LedgerFile := {}
  failed : List (Nat × Nat) := []

namespace MemoryEvent

def failure (dir : DataDir) : MemoryEvent → Option (Nat × Nat)
  | .recovery _ _ => (crashFlag dir).bind BootFlag.f2Pair
  | .deviceLost targetMhz candidate _ => some (targetMhz, candidate.voltageMv)
  | .sentinelTdr _ _ _ pair _ _ => some pair
  | .forgeTdr _ => ForgeTdr.pair dir
  | .operatorReport report => some report.pair
  | _ => none

/-- The entry that the event appends to the ledger, and how that ends. -/
def entry (s : MemoryState) : MemoryEvent → Option (CondemnationEvent × AppendResult)
  | .sentinelTdr timestamp gpuKey note pair _ append =>
    (fieldFailureEntry s.ledger timestamp gpuKey pair note).map (·, append)
  | .forgeTdr tdr => (tdr.entry s.dir).map (·, tdr.append)
  | .operatorReport report => some (report.entry, report.append)
  | .quarantine timestamp gpuKey runId note pair append =>
    some (condemnation .quarantine "apply-gate-silent-error" timestamp (some gpuKey) pair
      (some runId) note, append)
  | .rehabilitate timestamp gpuKey pair append =>
    some (rehabilitation timestamp gpuKey pair, append)
  | _ => none

def files (dir : DataDir) : MemoryEvent → DataDir
  | .arm flag result => armBootFlag flag result dir
  | .clear result => clearBootFlag result dir
  | .recovery bugcheck results => (runStartupRecovery bugcheck results dir).2
  | .deviceLost targetMhz candidate result => blacklistPoint targetMhz candidate result dir
  | .sentinelTdr _ _ _ pair record _ => persistFieldFailure pair.1 pair.2 record dir
  | .forgeTdr tdr => tdr.run dir
  | .operatorReport report => report.run dir
  | .quarantine _ _ _ _ _ _ | .rehabilitate _ _ _ _ => dir
  | .reset clockError gpuError results => (Nidavellir.reset clockError gpuError results dir).2
  | .resetFull clockError gpuError results record =>
    resetGpuTuningFull clockError gpuError results record dir
  | .cleanRun created result => archivePreCleanRun created result dir
  | .acknowledge result => acknowledgeIncident result dir

def lifts (gpuKey : String) (pair : Nat × Nat) : MemoryEvent → Bool
  | .rehabilitate timestamp key lifted _ =>
    lifted == pair && !(rehabilitation timestamp key lifted).foreign gpuKey
  | _ => false

end MemoryEvent

namespace MemoryState

variable (gpuKey : String)

def step (s : MemoryState) (e : MemoryEvent) : MemoryState where
  dir := e.files s.dir
  ledger := (e.entry s).elim s.ledger fun a => s.ledger.append a.1 a.2
  failed :=
    (e.failure s.dir).toList ++ s.failed.filter fun pair => !e.lifts gpuKey pair

/-- What every later preflight asks the durable ledger. -/
def refuses (s : MemoryState) (pair : Nat × Nat) : Bool :=
  (condemnedPairs s.ledger.loadAll gpuKey).refuses pair.1 pair.2

/-- The event's own path appends the failed pair, on this card, where readers find it. -/
def Appends (s : MemoryState) (e : MemoryEvent) (pair : Nat × Nat) : Prop :=
  ∃ event result, e.entry s = some (event, result) ∧ s.ledger.reads result ∧
    condemns gpuKey event ∧ event.severity = .rigid ∧ event.pair = pair

def left (s : MemoryState) (e : MemoryEvent) : List CondemnationEvent :=
  (e.entry s).elim s.ledger.loadAll fun a => s.ledger.left a.2

/-- No append costs an old entry, and a hard failure is one that its path appends or that the
ledger already holds as Rigid. -/
structure Remembers (s : MemoryState) (e : MemoryEvent) : Prop where
  kept : s.left e = s.ledger.loadAll
  appended : ∀ pair, e.failure s.dir = some pair → s.Appends gpuKey e pair ∨
    pair ∈ (condemnedPairs s.ledger.loadAll gpuKey).rigid

end MemoryState

/-- The two stores over every history of failures, resets, strips and latch clears. -/
def failureMemory (gpuKey : String) (dir : DataDir) (ledger : LedgerFile) :
    Machine MemoryState MemoryEvent :=
  Machine.ofStep { dir := dir, ledger := ledger } fun s e => some (s.step gpuKey e)

theorem CondemnedPairs.refuses_of_mem {self : CondemnedPairs} {pair : Nat × Nat}
    (h : pair ∈ self.rigid) : self.refuses pair.1 pair.2 := by
  obtain ⟨f, hf, hle⟩ := vfFloorEnvelope_ge_of_mem h le_rfl
  exact CondemnedPairs.refuses_iff.mpr (.inl ⟨f, hf, hle⟩)

/-- A Rigid pair stays one behind any entry that does not lift it. -/
theorem mem_rigid_append {events : List CondemnationEvent} {gpuKey : String} {pair : Nat × Nat}
    {e : CondemnationEvent} (h : pair ∈ (condemnedPairs events gpuKey).rigid)
    (he : e.pair = pair → e.rehabilitated = true → e.foreign gpuKey = true) :
    pair ∈ (condemnedPairs (events ++ [e]) gpuKey).rigid := by
  obtain ⟨old, ⟨before, later, rfl, hold, huncancelled⟩, hsev, hpair⟩ :=
    mem_condemnedPairs_iff (s := .rigid).mp h
  refine mem_condemnedPairs_iff (s := .rigid).mpr
    ⟨old, ⟨before, later ++ [e], by simp, hold, ?_⟩, hsev, hpair⟩
  intro r hr
  rcases List.mem_append.mp hr with hlater | hlast
  · exact huncancelled r hlater
  · obtain rfl := List.mem_singleton.mp hlast
    intro hlifts
    simp only [liftsFor, Bool.and_eq_true, beq_iff_eq, Bool.not_eq_true'] at hlifts
    obtain ⟨⟨⟨hrehab, htarget⟩, hbin⟩, hown⟩ := hlifts
    have hsame : r.pair = pair := by
      rw [← hpair, CondemnationEvent.pair, CondemnationEvent.pair, htarget, hbin]
    rw [he hsame hrehab] at hown
    cases hown

theorem mem_rigid_appended {events : List CondemnationEvent} {gpuKey : String}
    {e : CondemnationEvent} (hcondemns : condemns gpuKey e) (hsev : e.severity = .rigid) :
    e.pair ∈ (condemnedPairs (events ++ [e]) gpuKey).rigid :=
  mem_condemnedPairs_iff (s := .rigid).mpr
    ⟨e, ⟨events, [], rfl, hcondemns, by simp⟩, hsev, rfl⟩

namespace MemoryState

variable {gpuKey : String} {s : MemoryState} {e : MemoryEvent} {pair : Nat × Nat}

theorem entry_of_failure (hfailed : e.failure s.dir = some pair) {event : CondemnationEvent}
    {result : AppendResult} (hentry : e.entry s = some (event, result)) :
    event.pair = pair ∧ event.severity = .rigid ∧ event.rehabilitated = false := by
  cases e with
  | sentinelTdr timestamp key note failed record append =>
    obtain rfl := Option.some.inj hfailed
    obtain ⟨appended, happended, hpair⟩ := Option.map_eq_some_iff.mp hentry
    obtain ⟨rfl, -⟩ := Prod.mk.inj hpair
    unfold fieldFailureEntry at happended
    split at happended
    next => cases happended
    next =>
      obtain rfl := Option.some.inj happended
      exact ⟨rfl, rfl, rfl⟩
  | forgeTdr tdr =>
    obtain ⟨appended, happended, hpair⟩ := Option.map_eq_some_iff.mp hentry
    obtain ⟨rfl, -⟩ := Prod.mk.inj hpair
    obtain ⟨armed, harmed, rfl⟩ := Option.map_eq_some_iff.mp happended
    obtain rfl := Option.some.inj (harmed.symm.trans hfailed)
    exact ⟨rfl, rfl, rfl⟩
  | operatorReport report =>
    obtain rfl := Option.some.inj hfailed
    obtain ⟨rfl, -⟩ := Prod.mk.inj (Option.some.inj hentry)
    exact ⟨rfl, rfl, rfl⟩
  | recovery bugcheck results => cases hentry
  | deviceLost targetMhz candidate result => cases hentry
  | arm flag result => cases hfailed
  | clear result => cases hfailed
  | quarantine timestamp key runId note pair append => cases hfailed
  | rehabilitate timestamp key pair append => cases hfailed
  | reset clockError gpuError results => cases hfailed
  | resetFull clockError gpuError results record => cases hfailed
  | cleanRun created result => cases hfailed
  | acknowledge result => cases hfailed

theorem lifts_of_entry {event : CondemnationEvent} {result : AppendResult}
    (hentry : e.entry s = some (event, result)) (hrehab : event.rehabilitated = true) :
    e.lifts gpuKey event.pair = !event.foreign gpuKey := by
  have hfailure {failed} (hfailed : e.failure s.dir = some failed) : False := by
    cases hrehab.symm.trans (entry_of_failure hfailed hentry).2.2
  cases e with
  | rehabilitate timestamp key lifted append =>
    obtain ⟨rfl, -⟩ := Prod.mk.inj (Option.some.inj hentry)
    simp [MemoryEvent.lifts, rehabilitation, condemnation, CondemnationEvent.pair]
  | quarantine timestamp key runId note lifted append =>
    obtain ⟨rfl, -⟩ := Prod.mk.inj (Option.some.inj hentry)
    cases hrehab
  | sentinelTdr timestamp key note failed record append => exact (hfailure rfl).elim
  | operatorReport report => exact (hfailure rfl).elim
  | forgeTdr tdr =>
    obtain ⟨appended, happended, -⟩ := Option.map_eq_some_iff.mp hentry
    obtain ⟨failed, hfailed, -⟩ := Option.map_eq_some_iff.mp happended
    exact (hfailure hfailed).elim
  | arm flag result => cases hentry
  | clear result => cases hentry
  | recovery bugcheck results => cases hentry
  | deviceLost targetMhz candidate result => cases hentry
  | reset clockError gpuError results => cases hentry
  | resetFull clockError gpuError results record => cases hentry
  | cleanRun created result => cases hentry
  | acknowledge result => cases hentry

theorem loadAll_step : (s.step gpuKey e).ledger.loadAll =
    s.left e ++ (e.entry s).elim [] fun a => s.ledger.added a.1 a.2 := by
  unfold step left
  cases hentry : e.entry s with
  | none => exact (List.append_nil _).symm
  | some appended => exact s.ledger.loadAll_append appended.1 appended.2

/-- A failed pair is refused afterwards exactly when its path appended it or what is left of the
ledger refuses it. -/
theorem refuses_step_iff (hfailed : e.failure s.dir = some pair) :
    (s.step gpuKey e).refuses gpuKey pair ↔
      s.Appends gpuKey e pair ∨
        (condemnedPairs (s.left e) gpuKey).refuses pair.1 pair.2 := by
  have hload : (s.step gpuKey e).ledger.loadAll =
      s.left e ++ (e.entry s).elim [] fun a => s.ledger.added a.1 a.2 := loadAll_step
  unfold refuses
  rw [hload]
  cases hentry : e.entry s with
  | none =>
    have hnone : ¬ s.Appends gpuKey e pair := by
      rintro ⟨event, result, happended, -⟩
      rw [hentry] at happended
      cases happended
    rw [Option.elim_none, List.append_nil, or_iff_right hnone]
  | some appended =>
    obtain ⟨event, result⟩ := appended
    obtain ⟨hpair, hsev, hnew⟩ := entry_of_failure hfailed hentry
    rw [Option.elim_some]
    by_cases hreads : s.ledger.reads result ∧ condemns gpuKey event
    · have happends : s.Appends gpuKey e pair :=
        ⟨event, result, hentry, hreads.1, hreads.2, hsev, hpair⟩
      refine iff_of_true ?_ (.inl happends)
      rw [LedgerFile.added, if_pos hreads.1]
      exact hpair ▸ CondemnedPairs.refuses_of_mem (mem_rigid_appended hreads.2 hsev)
    · have hnone : ¬ s.Appends gpuKey e pair := by
        rintro ⟨event', result', happended, hread, hcondemns, -⟩
        obtain ⟨rfl, rfl⟩ := Prod.mk.inj (Option.some.inj (hentry.symm.trans happended))
        exact hreads ⟨hread, hcondemns⟩
      rw [or_iff_right hnone, LedgerFile.added]
      split
      next hread =>
        rw [condemnedPairs_append hnew, if_neg fun hcondemns => hreads ⟨hread, hcondemns⟩]
      next => rw [List.append_nil]

theorem Remembers.rigid_step (h : s.Remembers gpuKey e) (hlifts : e.lifts gpuKey pair = false)
    (hmem : pair ∈ (condemnedPairs s.ledger.loadAll gpuKey).rigid) :
    pair ∈ (condemnedPairs (s.step gpuKey e).ledger.loadAll gpuKey).rigid := by
  rw [loadAll_step, h.kept]
  cases hentry : e.entry s with
  | none => rwa [Option.elim_none, List.append_nil]
  | some appended =>
    obtain ⟨event, result⟩ := appended
    rw [Option.elim_some, LedgerFile.added]
    split
    next =>
      refine mem_rigid_append hmem fun hpair hrehab => ?_
      have hlifted : e.lifts gpuKey event.pair = !event.foreign gpuKey :=
        lifts_of_entry hentry hrehab
      rw [hpair, hlifts] at hlifted
      simpa using hlifted.symm
    next => rwa [List.append_nil]

theorem Remembers.rigid_failed (h : s.Remembers gpuKey e) (hfailed : e.failure s.dir = some pair) :
    pair ∈ (condemnedPairs (s.step gpuKey e).ledger.loadAll gpuKey).rigid := by
  rcases h.appended pair hfailed with happends | hold
  · obtain ⟨event, result, hentry, hreads, hcondemns, hsev, rfl⟩ := happends
    rw [loadAll_step, hentry, Option.elim_some, LedgerFile.added, if_pos hreads]
    exact mem_rigid_appended hcondemns hsev
  · have hlifts : e.lifts gpuKey pair = false := by
      cases e with
      | rehabilitate timestamp key lifted append => cases hfailed
      | _ => rfl
    exact h.rigid_step hlifts hold

end MemoryState

/-- A hard failure is refused afterwards exactly when its own path appended it or what is left of
the ledger refuses it; and where every event remembers, each pair that failed stays refused through
every reset, strip and latch clear. -/
theorem hardFailures_refused (gpuKey : String) (dir : DataDir) (ledger : LedgerFile) :
    (∀ (s : MemoryState) e pair, e.failure s.dir = some pair →
      ((s.step gpuKey e).refuses gpuKey pair ↔
        s.Appends gpuKey e pair ∨
          (condemnedPairs (s.left e) gpuKey).refuses pair.1 pair.2)) ∧
    ∀ l s, ((failureMemory gpuKey dir ledger).guarded (MemoryState.Remembers gpuKey)).Run l s →
      ∀ pair ∈ s.failed, s.refuses gpuKey pair := by
  refine ⟨fun s e pair hfailed => MemoryState.refuses_step_iff hfailed, fun l s hrun => ?_⟩
  have hrigid : ∀ pair ∈ s.failed, pair ∈ (condemnedPairs s.ledger.loadAll gpuKey).rigid := by
    refine hrun.invariant
      (I := fun s => ∀ pair ∈ s.failed,
        pair ∈ (condemnedPairs s.ledger.loadAll gpuKey).rigid) ?_ ?_
    · rintro s rfl pair hpair
      exact absurd hpair List.not_mem_nil
    · rintro s e s' ih ⟨hok, hs⟩ pair hpair
      obtain rfl := Option.some.inj hs
      rcases List.mem_append.mp hpair with hnew | hold
      · exact hok.rigid_failed (Option.mem_toList.mp hnew)
      · obtain ⟨hfailed, hlifts⟩ := List.mem_filter.mp hold
        exact hok.rigid_step (by simpa using hlifts) (ih pair hfailed)
  exact fun pair hpair => CondemnedPairs.refuses_of_mem (hrigid pair hpair)

def fieldTdr1845 : MemoryEvent :=
  .sentinelTdr "2026-07-15T00:00:00Z" "gpu-a" "in-game tdr" (1845, 856) .done .done

/-- What the sentinel recorded outlives a full reset. -/
theorem hardFailures_refused_after_reset : ∃ s,
    ((failureMemory "gpu-a" {} {}).guarded (MemoryState.Remembers "gpu-a")).Run
      [fieldTdr1845, .resetFull none none {} .done] s ∧
      s.dir.record = .holds {} ∧ s.refuses "gpu-a" (1845, 856) := by
  have hrecorded : ((failureMemory "gpu-a" {} {}).guarded (MemoryState.Remembers "gpu-a")).Run
      ([] ++ [fieldTdr1845]) (({} : MemoryState).step "gpu-a" fieldTdr1845) := by
    refine .next (.start rfl) ⟨⟨rfl, fun pair hpair => ?_⟩, rfl⟩
    obtain rfl := Option.some.inj hpair
    exact .inl ⟨_, _, rfl, rfl, by decide, rfl, rfl⟩
  have hreset : ((failureMemory "gpu-a" {} {}).guarded (MemoryState.Remembers "gpu-a")).Run
      ([fieldTdr1845] ++ [.resetFull none none {} .done]) ((({} : MemoryState).step "gpu-a"
        fieldTdr1845).step "gpu-a" (.resetFull none none {} .done)) := by
    refine .next hrecorded ⟨⟨rfl, fun pair hpair => ?_⟩, rfl⟩
    cases hpair
  exact ⟨_, hreset, rfl, (hardFailures_refused "gpu-a" {} {}).2 _ _ hreset (1845, 856) (by decide)⟩

/-- A machine crash with a probe armed, or a write that lost the device, is forgotten by a full
reset: neither ever reached the ledger. -/
theorem hardFailures_forgotten :
    (∃ s, (failureMemory "gpu-a" {} {}).Run
      [.arm ((ArmedOperation.f2Probe 1845 candidate1845).bootFlag "2026-07-15T00:00:00Z") .done,
        .recovery .ocInstability {}, .resetFull none none {} .done] s ∧
      (1845, 856) ∈ s.failed ∧ s.refuses "gpu-a" (1845, 856) = false ∧
      fieldPairBlacklisted (loadRecord s.dir) 1845 856 = false) ∧
    ∃ s, (failureMemory "gpu-a" {} {}).Run
      [.deviceLost 1845 candidate1845 .done, .resetFull none none {} .done] s ∧
      (1845, 856) ∈ s.failed ∧ s.refuses "gpu-a" (1845, 856) = false ∧
      fieldPairBlacklisted (loadRecord s.dir) 1845 856 = false := by
  exact ⟨⟨_, Machine.run_ofStep_iff.mpr rfl, by decide, by decide, by decide⟩,
    ⟨_, Machine.run_ofStep_iff.mpr rfl, by decide, by decide, by decide⟩⟩

end Nidavellir
