import Nidavellir.GpuSweepRun
import Mathlib.Data.List.OfFn

namespace Nidavellir

open Extremes Runs

theorem synthesizeProfiles_isSome_iff {baselineFreqMhz : Nat} {points : List TradeoffPoint} :
    (synthesizeProfiles baselineFreqMhz points).isSome ↔ points ≠ [] := by
  constructor
  · intro h hnil
    subst hnil
    simp [synthesizeProfiles, maxByKey] at h
  · intro hne
    have hsome : ∀ {β : Type} [LinearOrder β] (f : TradeoffPoint → β),
        ∃ p, maxByKey f points = some p := by
      intro β _ f
      exact Option.isSome_iff_exists.mp
        (Option.isSome_iff_ne_none.mpr (mt maxByKey_eq_none.mp hne))
    obtain ⟨godforge, hg⟩ :=
      hsome fun p => toLex (p.freqMhz, OrderDual.toDual p.vminMv)
    obtain ⟨brokkrs, hb⟩ := hsome fun p => p.freqMhz * 1000 / max p.vminMv 1
    simp [synthesizeProfiles, hg, hb]

/-- Every profile applies one of the tradeoffs. -/
theorem synthesizeProfiles_mem {baselineFreqMhz : Nat} {points : List TradeoffPoint}
    {set : GpuProfileSet} (h : synthesizeProfiles baselineFreqMhz points = some set) :
    ∀ profile ∈ set.profiles, ∃ t ∈ points, profile.point = t.point := by
  obtain ⟨godforge, hg, h⟩ := Option.bind_eq_some_iff.mp h
  obtain ⟨brokkrs, hb, h⟩ := Option.bind_eq_some_iff.mp h
  obtain rfl := Option.some.inj h
  have hgodforge := maxByKey_mem hg
  intro profile hprofile
  simp only [GpuProfileSet.profiles, List.mem_cons, List.not_mem_nil, or_false] at hprofile
  rcases hprofile with rfl | rfl | rfl
  · exact ⟨godforge, hgodforge, rfl⟩
  · exact ⟨brokkrs, maxByKey_mem hb, rfl⟩
  · refine ⟨_, ?_, rfl⟩
    cases hc : minByKey (fun p => toLex (p.vminMv, OrderDual.toDual p.freqMhz))
        (points.filter fun p => baselineFreqMhz * 95 / 100 ≤ p.freqMhz) with
    | none => exact hgodforge
    | some calm => exact List.mem_of_mem_filter (minByKey_mem hc)

namespace GpuSweepEngine

theorem Swept.nextCommand_ne {e e' : GpuSweepEngine} {results : List StabilityResult}
    (h : e.Swept results) {point : VfPoint} : e.nextCommand ≠ (e', .applyAndTest point) := by
  rw [nextCommand_of_halted h.halted]
  simp

theorem effort_record_lt {e : GpuSweepEngine} {b : VoltageBisection} {mv : Nat}
    (hb : e.bisection = some b) (hcur : b.currentMv = some mv) (hcand : b.candidate = some mv)
    (hsteps : b.Steps) (result : StabilityResult) : (e.record result).effort < e.effort := by
  have hstarted : e.started = some b := by rw [started, hb, Option.some_or]
  have hrecord : (e.record result).started = some (b.record result) := by
    rw [started, record, hb, Option.map_some, Option.some_or]
  unfold effort
  rw [hstarted, hrecord]
  exact Nat.add_lt_add_left (hsteps.room_record_lt hcand hcur result) _

/-- The loop ends on every stream of results. -/
theorem Sweeping.drive_terminates {e : GpuSweepEngine} {before : List StabilityResult}
    (h : e.Sweeping before) (results : Nat → StabilityResult) :
    ∃ n e', e.drive ((List.range n).map results) = some e' := by
  induction hm : e.effort using Nat.strong_induction_on generalizing e before results with
  | _ m ih =>
    rcases h.nextCommand with
      ⟨hfinished, -⟩ | ⟨b, mv, hcmd, hsweeping, hb, hcur, hcand, hsteps, hle⟩
    · refine ⟨0, e.nextCommand.1, ?_⟩
      rw [List.range_zero, List.map_nil, drive]
      split
      next e' heq => rw [heq]
      next e' point heq => simp [heq] at hfinished
    · have hlt := effort_record_lt hb hcur hcand hsteps (results 0)
      have hnext := hsweeping.record (results 0)
      obtain ⟨n, e', he'⟩ := ih _ (by omega) hnext (fun n => results (n + 1)) rfl
      refine ⟨n + 1, e', ?_⟩
      rw [List.range_succ_eq_map, List.map_cons, List.map_map, drive]
      split
      next e₁ heq => simp [heq] at hcmd
      next e₁ point heq =>
        rw [heq] at he'
        exact he'

/-- The state the loop ends in is the state of a run of calls without an abort. -/
theorem drive_run {config : GpuSweepConfig} {baselineFreqMhz : Nat} {simulated : Bool}
    {calls : List SweepCall} {e e' : GpuSweepEngine} {before results : List StabilityResult}
    (hrun : ((gpuSweep config baselineFreqMhz simulated).guarded
      fun _ call => call ≠ .abort).Run calls (e, before))
    (h : e.drive results = some e') :
    e'.halted = true ∧ ∃ calls', ((gpuSweep config baselineFreqMhz simulated).guarded
      fun _ call => call ≠ .abort).Run calls' (e', before ++ results) := by
  induction results generalizing calls e before with
  | nil =>
    rw [drive] at h
    split at h
    next e₁ heq =>
      obtain rfl := Option.some.inj h
      have hfinished : e.nextCommand.2 = .finished := by rw [heq]
      have hhalted := halted_of_finished hfinished
      rw [heq] at hhalted
      have hstep : (gpuSweep config baselineFreqMhz simulated).step (e, before) .nextCommand
          (e₁, before) := by
        show (e₁, before) = (e.nextCommand.1, before)
        rw [heq]
      refine ⟨hhalted, calls ++ [.nextCommand], ?_⟩
      rw [List.append_nil]
      exact hrun.next ⟨by simp, hstep⟩
    next => simp at h
  | cons result results ih =>
    rw [drive] at h
    split at h
    next => simp at h
    next e₁ point heq =>
      have hstep : (gpuSweep config baselineFreqMhz simulated).step (e, before) .nextCommand
          (e₁, before) := by
        show (e₁, before) = (e.nextCommand.1, before)
        rw [heq]
      have hpending : e₁.testPending = true := by
        rcases (gpuSweep_consistent hrun).sweep with hsweeping | hswept
        · rcases hsweeping.nextCommand with ⟨hfin, -⟩ | ⟨b, mv, -, -, hb, hcur, -⟩
          · simp [heq] at hfin
          · rw [heq] at hb
            rw [testPending, hb, Option.any_some, hcur, Option.isSome_some]
        · exact absurd heq hswept.nextCommand_ne
      have hrecord : (gpuSweep config baselineFreqMhz simulated).step (e₁, before)
          (.record result) (e₁.record result, before ++ [result]) := by
        show _ = (e₁.record result, if e₁.testPending then _ else before)
        rw [hpending, if_pos rfl]
      have hnext := (hrun.next ⟨by simp, hstep⟩).next ⟨by simp, hrecord⟩
      obtain ⟨hhalted, calls', hend⟩ := ih hnext h
      refine ⟨hhalted, calls', ?_⟩
      rwa [List.append_assoc] at hend

/-- What a finished sweep has to show. -/
structure Complete (config : GpuSweepConfig) (s : GpuSweepEngine × List StabilityResult) :
    Prop where
  swept : SweptFrom config config.targetFreqsMhz s.2 s.1.tradeoffs
  order : s.1.tradeoffs.map TradeoffPoint.freqMhz = config.targetFreqsMhz
  profiles_iff : s.1.profiles.isSome ↔ config.targetFreqsMhz ≠ []
  points : ∀ set, s.1.profiles = some set →
    ∀ profile ∈ set.profiles, ∃ t ∈ s.1.tradeoffs, profile.point = t.point

theorem Consistent.complete {config : GpuSweepConfig}
    {s : GpuSweepEngine × List StabilityResult} (h : Consistent config s)
    (hhalted : s.1.halted = true) : Complete config s := by
  have hswept : s.1.Swept s.2 := by
    rcases h.sweep with hsweeping | hswept
    · simp [hsweeping.not_halted] at hhalted
    · exact hswept
  have hfrom := hswept.swept
  rw [h.config_eq] at hfrom
  refine ⟨hfrom, hfrom.freqs, ?_, ?_⟩
  · rw [hswept.profiles_eq, synthesizeProfiles_isSome_iff, ← hfrom.freqs, Ne, Ne,
      List.map_eq_nil_iff]
  · intro set hset
    rw [hswept.profiles_eq] at hset
    exact synthesizeProfiles_mem hset

theorem halted_after {s : GpuSweepEngine × List StabilityResult} (h : s.1.halted = true)
    (call : SweepCall) : (after s call).1.halted = true := by
  cases call with
  | nextCommand =>
    show s.1.nextCommand.1.halted = true
    rwa [nextCommand_of_halted h]
  | record result => exact h
  | abort => rfl

theorem halted_foldl_after {s : GpuSweepEngine × List StabilityResult} (h : s.1.halted = true)
    (calls : List SweepCall) : (calls.foldl after s).1.halted = true := by
  induction calls generalizing s with
  | nil => exact h
  | cons call calls ih => exact ih (halted_after h call)

end GpuSweepEngine

/-- Driving a sweep with any results finishes; calls in any order without an abort finish only
with one tradeoff per target, at its converged cliff, and the profiles made of them; and after
a finish or an abort no test is asked for. -/
theorem gpuSweep_run (config : GpuSweepConfig) (baselineFreqMhz : Nat) (simulated : Bool) :
    (∀ results : Nat → StabilityResult, ∃ n e,
      (GpuSweepEngine.new config baselineFreqMhz simulated).drive
        ((List.range n).map results) = some e ∧
      e.phase = .done ∧ GpuSweepEngine.Complete config (e, (List.range n).map results)) ∧
    (∀ calls s, ((gpuSweep config baselineFreqMhz simulated).guarded
        fun _ call => call ≠ .abort).Run calls s → s.1.nextCommand.2 = .finished →
      GpuSweepEngine.Complete config (s.1.nextCommand.1, s.2)) ∧
    ∀ s : GpuSweepEngine × List StabilityResult,
      (s.1.nextCommand.2 = .finished → ∀ calls : List SweepCall,
        (calls.foldl GpuSweepEngine.after (s.1.nextCommand.1, s.2)).1.nextCommand.2 =
          .finished) ∧
      ∀ calls : List SweepCall,
        (calls.foldl GpuSweepEngine.after (s.1.abort, s.2)).1.nextCommand.2 = .finished := by
  have hnew := GpuSweepEngine.consistent_new config baselineFreqMhz simulated
  refine ⟨?_, ?_, ?_⟩
  · intro results
    have hsweeping : (GpuSweepEngine.new config baselineFreqMhz simulated).Sweeping [] :=
      .idle rfl rfl .nil (Nat.zero_le _)
    obtain ⟨n, e, he⟩ := hsweeping.drive_terminates results
    obtain ⟨hhalted, calls, hrun⟩ := GpuSweepEngine.drive_run (.start rfl) he
    have hend := gpuSweep_consistent hrun
    refine ⟨n, e, he, ?_, hend.complete hhalted⟩
    rcases hend.sweep with hopen | hswept
    · simp [hopen.not_halted] at hhalted
    · exact hswept.phase_eq
  · intro calls s hrun hfinished
    have hend := (gpuSweep_consistent hrun).nextCommand
    exact hend.complete (GpuSweepEngine.halted_of_finished hfinished)
  · intro s
    refine ⟨?_, ?_⟩
    · intro hfinished calls
      have hhalted := GpuSweepEngine.halted_foldl_after
        (s := (s.1.nextCommand.1, s.2)) (GpuSweepEngine.halted_of_finished hfinished) calls
      rw [GpuSweepEngine.nextCommand_of_halted hhalted]
    · intro calls
      have hhalted := GpuSweepEngine.halted_foldl_after (s := (s.1.abort, s.2)) rfl calls
      rw [GpuSweepEngine.nextCommand_of_halted hhalted]

/-- One target whose stock voltage is the floor, just below `2 ^ 32` mV. -/
def topOfRange : GpuSweepConfig where
  targetFreqsMhz := [1950]
  stockMv := 4294967290
  floorMv := 4294967290

/-- There the margin wraps. -/
theorem gpuSweep_margin_wraps :
    ¬ ∀ (config : GpuSweepConfig) (baselineFreqMhz : Nat) (simulated : Bool)
      (results : List StabilityResult) (e : GpuSweepEngine),
      (GpuSweepEngine.new config baselineFreqMhz simulated).drive results = some e →
        ∀ t ∈ e.tradeoffs, ∃ seg bis, (config.bisectionAt t.freqMhz).after seg = some bis ∧
          bis.isConverged = true ∧ t.vminMv = bis.minStableMv + config.fixedMarginMv +
            config.tempCoeffMvPerC * config.tempHeadroomC := by
  intro h
  have hnext : (GpuSweepEngine.new topOfRange 1695 true).nextCommand =
      (((GpuSweepEngine.new topOfRange 1695 true).advance
        (topOfRange.bisectionAt 1950)).finish, .finished) := by
    have hstarted : (GpuSweepEngine.new topOfRange 1695 true).started =
        some (topOfRange.bisectionAt 1950) := rfl
    rw [GpuSweepEngine.nextCommand_of_converged rfl hstarted rfl,
      GpuSweepEngine.nextCommand_of_no_target rfl rfl]
  have hdrive : (GpuSweepEngine.new topOfRange 1695 true).drive [] =
      some ((GpuSweepEngine.new topOfRange 1695 true).advance
        (topOfRange.bisectionAt 1950)).finish := by
    rw [GpuSweepEngine.drive, hnext]
  obtain ⟨seg, bis, -, -, hsum⟩ := h _ _ _ _ _ hdrive ⟨1950, 24⟩ (by decide)
  have hwrapped : 24 = bis.minStableMv + 15 + 1 * 15 := hsum
  omega

end Nidavellir
