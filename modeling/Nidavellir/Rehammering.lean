import Nidavellir.StartRecovery

namespace Nidavellir

open Runs

/-- The calls of discovery on a log that others may append to between them. -/
def discoveryCalls (W : Type*) [F2World W] [BuildEnv] (start : List F2Observation) :
    Machine (List F2Observation) F2CallRecord where
  init log := log = start
  step log record log' := log <+: record.before ∧ ∃ w : W,
    (runConfirmedF2ClockDiscovery record.call record.before w).visits = record.visits ∧
      (runConfirmedF2ClockDiscovery record.call record.before w).log = log'

def F2ClockCall.PassOnRecord (call : F2ClockCall) (log : List F2Observation) (anchorMv : Nat) :
    Prop :=
  ∃ o ∈ log, o.runId = call.runId ∧ o.gpuKey = some call.gpuKey ∧ o.targetMhz = call.targetMhz ∧
    o.anchorMv = anchorMv ∧ isCurrentQualificationPass o

def F2ClockCall.SameTarget (call call' : F2ClockCall) : Prop :=
  call.runId = call'.runId ∧ call.gpuKey = call'.gpuKey ∧ call.targetMhz = call'.targetMhz

/-- The later call starts no qualification dwell at a pair that the earlier one left inconclusive,
unless a clean pass of the pair was on record before it. -/
def SparesExhausted (earlier later : F2CallRecord) : Prop :=
  earlier.call.SameTarget later.call → ∀ v ∈ earlier.visits, v.LeftInconclusive →
    ∀ v' ∈ later.visits, v'.candidate.anchor.voltageMv = v.candidate.anchor.voltageMv →
      v'.qualificationDwells ≠ [] →
        later.call.PassOnRecord later.before v'.candidate.anchor.voltageMv

/-- What a call left inconclusive is on record in the log. -/
def F2CallRecord.OnRecord (record : F2CallRecord) (log : List F2Observation) : Prop :=
  ∀ v ∈ record.visits, v.LeftInconclusive → ∃ o ∈ log,
    o.Exhausts (record.call.ctx .qualification none (some f2QualificationContractVersion))
      record.call.targetMhz v.candidate.anchor.voltageMv

theorem F2CallRecord.OnRecord.mono {record : F2CallRecord} {log log' : List F2Observation}
    (h : record.OnRecord log) (hlog : log <+: log') : record.OnRecord log' := by
  intro v hv hleft
  obtain ⟨o, ho, hexhausts⟩ := h v hv hleft
  exact ⟨o, hlog.subset ho, hexhausts⟩

theorem F2ClockCall.passOnRecord_of_allowed {call : F2ClockCall} {ctx : ObsContext}
    {log : List F2Observation} {o : F2Observation} {anchorMv : Nat} (hmem : o ∈ log)
    (hexhausts : o.Exhausts ctx call.targetMhz anchorMv) (hrun : ctx.runId = call.runId)
    (hgpu : ctx.gpuKey = some call.gpuKey)
    (hallowed : f2PairQualificationExhausted (call.query log) call.runId anchorMv = false) :
    call.PassOnRecord log anchorMv := by
  have hquery : o ∈ call.query log := by
    refine List.mem_filter.mpr ⟨hmem, ?_⟩
    simp [hexhausts.targetMhz, hexhausts.gpuKey, hgpu]
  have hinconclusive : ((call.query log).filter fun o => o.runId == call.runId &&
      o.anchorMv == anchorMv && o.evidenceKind == .qualification).any fun o =>
        o.outcome == .qualificationInconclusive := by
    refine List.any_eq_true.mpr ⟨o, List.mem_filter.mpr ⟨hquery, ?_⟩, ?_⟩
    · simp [hexhausts.runId, hrun, hexhausts.anchorMv, hexhausts.evidenceKind]
    · simp [hexhausts.outcome]
  rw [f2PairQualificationExhausted, hinconclusive, Bool.and_true, Bool.not_eq_false',
    List.any_eq_true] at hallowed
  obtain ⟨pass, hpass, hcurrent⟩ := hallowed
  obtain ⟨hpass, hown⟩ := List.mem_filter.mp hpass
  obtain ⟨hpass, hpair⟩ := List.mem_filter.mp hpass
  simp only [Bool.and_eq_true, beq_iff_eq] at hown hpair
  exact ⟨pass, hpass, hown.1.1, hpair.2, hpair.1, hown.1.2, hcurrent⟩

theorem sparesExhausted_of_allowed {earlier later : F2CallRecord}
    (hrecord : earlier.OnRecord later.before)
    (hallowed : ∀ v ∈ later.visits, v.qualificationDwells ≠ [] → f2PairQualificationExhausted
      (later.call.query later.before) later.call.runId v.candidate.anchor.voltageMv = false) :
    SparesExhausted earlier later := by
  rintro ⟨hrun, hgpu, htarget⟩ v hv hleft v' hv' hanchor hdwelt
  obtain ⟨o, ho, hexhausts⟩ := hrecord v hv hleft
  rw [← hanchor, htarget] at hexhausts
  exact F2ClockCall.passOnRecord_of_allowed ho hexhausts hrun (congrArg some hgpu)
    (hallowed v' hv' hdwelt)

section Calls

variable {W : Type*} [F2World W] [BuildEnv]

theorem discoveryCalls_step {start log log' : List F2Observation} {record : F2CallRecord}
    (h : (discoveryCalls W start).step log record log') :
    log <+: record.before ∧ record.before <+: log' ∧ record.OnRecord log' ∧
      ∀ v ∈ record.visits, (v.qualificationDwells ≠ [] → f2PairQualificationExhausted
        (record.call.query record.before) record.call.runId v.candidate.anchor.voltageMv = false) ∧
        (∀ group ∈ v.groups, group.Bounded) ∧ (v.groups.map F2PatternDwells.pattern).Nodup := by
  obtain ⟨hbefore, w, hvisits, rfl⟩ := h
  obtain ⟨hlog, hrecorded⟩ := runConfirmedF2ClockDiscovery_recorded record.call record.before w
  rw [hvisits] at hrecorded
  refine ⟨hbefore, hlog, fun v hv => (hrecorded v hv).inconclusive, fun v hv => ?_⟩
  exact ⟨(hrecorded v hv).allowed, (hrecorded v hv).bounded, (hrecorded v hv).distinct⟩

/-- The invariant of a sequence of calls: what each left inconclusive is on record, and no later
call began a dwell there. -/
theorem discoveryCalls_spare {start log : List F2Observation} {records : List F2CallRecord}
    (h : (discoveryCalls W start).Run records log) :
    (∀ record ∈ records, record.OnRecord log) ∧ records.Pairwise SparesExhausted := by
  refine Machine.Run.invariant_trace (I := fun records log =>
    (∀ record ∈ records, F2CallRecord.OnRecord record log) ∧ records.Pairwise SparesExhausted)
    (fun _ _ => by simp) (fun records log record log' ih hstep => ?_) h
  obtain ⟨hold, hpairs⟩ := ih
  obtain ⟨hbefore, hlog, hrecord, hvisits⟩ := discoveryCalls_step hstep
  constructor
  · intro r hr
    rcases List.mem_append.mp hr with hr | hr
    · exact (hold r hr).mono (hbefore.trans hlog)
    · obtain rfl := List.mem_singleton.mp hr
      exact hrecord
  · refine List.pairwise_append.mpr ⟨hpairs, List.pairwise_singleton _ _, ?_⟩
    intro earlier hearlier later hlater
    obtain rfl := List.mem_singleton.mp hlater
    exact sparesExhausted_of_allowed ((hold earlier hearlier).mono hbefore)
      fun v hv => (hvisits v hv).1

theorem discoveryCalls_bounded {start log : List F2Observation} {records : List F2CallRecord}
    (h : (discoveryCalls W start).Run records log) :
    ∀ record ∈ records, ∀ v ∈ record.visits,
      (∀ group ∈ v.groups, group.Bounded) ∧ (v.groups.map F2PatternDwells.pattern).Nodup := by
  refine Machine.Run.invariant_trace (I := fun records _ => ∀ record ∈ records,
    ∀ v ∈ F2CallRecord.visits record, (∀ group ∈ v.groups, group.Bounded) ∧
      (v.groups.map F2PatternDwells.pattern).Nodup)
    (fun _ _ => by simp) (fun records log record log' ih hstep => ?_) h
  obtain ⟨-, -, -, hvisits⟩ := discoveryCalls_step hstep
  intro r hr
  rcases List.mem_append.mp hr with hr | hr
  · exact ih r hr
  · obtain rfl := List.mem_singleton.mp hr
    exact fun v hv => (hvisits v hv).2

variable {call : F2ClockCall} {start : List F2Observation}

theorem F2ClockCall.attempt_run (startMv : Option Nat) (last : F2ClockCallRun W)
    {records : List F2CallRecord} (h : (discoveryCalls W start).Run records last.log) :
    (discoveryCalls W start).Run (records ++ [(call.attempt startMv last).1])
      (call.attempt startMv last).2.log :=
  h.next ⟨List.prefix_rfl, last.world, rfl, rfl⟩

theorem F2ClockCall.climb_run (left : Nat) (startMv : Option Nat) {last : F2ClockCallRun W}
    {records : List F2CallRecord} (h : (discoveryCalls W start).Run records last.log) :
    (discoveryCalls W start).Run (records ++ (call.climb left startMv last).1)
      (call.climb left startMv last).2.log := by
  induction left generalizing startMv last records with
  | zero => simpa [climb] using h
  | succ left ih =>
    unfold climb
    split
    next =>
      dsimp only
      split
      next => simpa using h
      next =>
        split
        next => simpa using h
        next nextStart _ =>
          have hattempt := call.attempt_run (some nextStart)
            { last with world := (F2World.stopRequested last.world).2 } h
          simpa using ih (some nextStart) hattempt
    next => simpa using h

/-- The calls on one target of the Forge are a run of calls. -/
theorem F2ClockCall.runTarget_run (call : F2ClockCall) (conservativeStartMv : Option Nat)
    (log : List F2Observation) (w : W) :
    (discoveryCalls W log).Run
      ((call.runTarget conservativeStartMv log w).first ::
        (call.runTarget conservativeStartMv log w).recovery)
      (call.runTarget conservativeStartMv log w).last.log := by
  have hfirst : (discoveryCalls W log).Run
      [⟨call, log, (runConfirmedF2ClockDiscovery call log w).visits⟩]
      (runConfirmedF2ClockDiscovery call log w).log :=
    (Machine.Run.start rfl).next ⟨List.prefix_rfl, w, rfl, rfl⟩
  unfold runTarget fallback
  dsimp only
  split
  next => exact call.climb_run _ none hfirst
  next warm _ =>
    split
    next =>
      simpa using call.climb_run f2StartRecoveryMaxClimbs conservativeStartMv
        (call.attempt_run conservativeStartMv _ hfirst)
    next => exact call.climb_run _ (some warm) hfirst

/-- No pair that was left inconclusive is dwelt at again before a clean pass of it is on record,
the retries of a pattern are bounded, and the starts of a target's recovery climb. -/
theorem unproven_bins_not_rehammered :
    (∀ (start log : List F2Observation) (records : List F2CallRecord),
      (discoveryCalls W start).Run records log →
        records.Pairwise SparesExhausted ∧
          ∀ record ∈ records, ∀ v ∈ record.visits, (∀ group ∈ v.groups, group.Bounded) ∧
            (v.groups.map F2PatternDwells.pattern).Nodup) ∧
      ∀ (call : F2ClockCall) (conservativeStartMv : Option Nat) (log : List F2Observation) (w : W),
        (discoveryCalls W log).Run
            ((call.runTarget conservativeStartMv log w).first ::
              (call.runTarget conservativeStartMv log w).recovery)
            (call.runTarget conservativeStartMv log w).last.log ∧
          (call.runTarget conservativeStartMv log w).recovery.length ≤
            f2StartRecoveryMaxClimbs + 1 ∧
          ((call.runTarget conservativeStartMv log w).recovery.map
            F2CallRecord.startMv).Pairwise StartsBelow := by
  constructor
  · intro start log records hrun
    exact ⟨(discoveryCalls_spare hrun).2, discoveryCalls_bounded hrun⟩
  · intro call conservativeStartMv log w
    obtain ⟨hlen, hstarts⟩ := call.runTarget_starts conservativeStartMv log w
    exact ⟨call.runTarget_run conservativeStartMv log w, hlen, hstarts⟩

end Calls

end Nidavellir
