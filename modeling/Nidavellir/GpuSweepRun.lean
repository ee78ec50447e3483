import Nidavellir.GpuSweep
import Nidavellir.Lib.Runs

namespace Nidavellir

open Extremes Runs

/-- The tradeoffs of some targets, each at the cliff where its own bisection converged; the
results the bisections consumed, one after the other. -/
inductive SweptFrom (config : GpuSweepConfig) :
    List Nat → List StabilityResult → List TradeoffPoint → Prop
  | nil : SweptFrom config [] [] []
  | target {freqs results points freq seg bis} (h : SweptFrom config freqs results points)
      (hseg : (config.bisectionAt freq).after seg = some bis) (hconv : bis.isConverged = true) :
      SweptFrom config (freqs ++ [freq]) (results ++ seg)
        (points ++ [⟨freq, config.safe bis.minStableMv⟩])

theorem SweptFrom.freqs {config : GpuSweepConfig} {freqs : List Nat}
    {results : List StabilityResult} {points : List TradeoffPoint}
    (h : SweptFrom config freqs results points) : points.map TradeoffPoint.freqMhz = freqs := by
  induction h with
  | nil => rfl
  | target _ _ _ ih => rw [List.map_append, ih, List.map_singleton]

namespace VoltageBisection

@[simp] theorem record_freqMhz (b : VoltageBisection) (result : StabilityResult) :
    (b.record result).freqMhz = b.freqMhz := by
  unfold record
  split
  next => rfl
  next => split <;> rfl

@[simp] theorem record_currentMv (b : VoltageBisection) (result : StabilityResult) :
    (b.record result).currentMv = none := by
  unfold record
  split
  next h => exact h
  next => split <;> rfl

theorem after_freqMhz {b b' : VoltageBisection} {results : List StabilityResult}
    (h : b.after results = some b') : b'.freqMhz = b.freqMhz := by
  induction results generalizing b with
  | nil => rw [Option.some.inj h]
  | cons result results ih =>
    rw [after] at h
    split at h
    next => simp at h
    next => rw [ih h, tested, record_freqMhz, nextTest]

/-- `b` is the search after these results, with its candidate pending or not. -/
structure Pending (start b : VoltageBisection) (results : List StabilityResult) : Prop where
  steps : b.Steps
  after_eq : start.after results = some { b with currentMv := none }
  current : b.currentMv = none ∨ b.currentMv = b.candidate

theorem Pending.nextTest {start b : VoltageBisection} {results : List StabilityResult}
    (h : Pending start b results) : Pending start b.nextTest.1 results :=
  ⟨⟨h.steps.descent_pos, h.steps.min_pos⟩, h.after_eq, Or.inr rfl⟩

/-- A result counts when a test is pending, and is ignored otherwise. -/
theorem Pending.record {start b : VoltageBisection} {results : List StabilityResult}
    (h : Pending start b results) (result : StabilityResult) :
    Pending start (b.record result)
      (if b.currentMv.isSome then results ++ [result] else results) := by
  refine ⟨h.steps.record result, ?_, Or.inl (record_currentMv b result)⟩
  have hrec : { b.record result with currentMv := none } = b.record result := by
    rw [← record_currentMv b result]
  rw [hrec]
  cases hcur : b.currentMv with
  | none =>
    have hsame : b.record result = b := by simp only [VoltageBisection.record, hcur]
    rw [hsame]
    show start.after results = some b
    rw [h.after_eq, ← hcur]
  | some mv =>
    have hcand : b.candidate = some mv := by
      rcases h.current with hnone | hc
      · simp [hcur] at hnone
      · rw [← hc, hcur]
    have hopen : { b with currentMv := none }.isConverged = false := by
      rw [← Bool.not_eq_true, ← candidate_eq_none_iff, candidate_withCurrent, hcand]
      simp
    have htested : { b with currentMv := none }.tested result = b.record result := by
      rw [tested, VoltageBisection.nextTest, candidate_withCurrent, hcand, ← hcur]
    show start.after (results ++ [result]) = _
    rw [after_append h.after_eq, after, hopen, htested]
    rfl

end VoltageBisection

namespace GpuSweepEngine

/-- The sweep is under way: the targets before `freq_index` are swept, and the running bisection
has consumed the results after theirs. -/
inductive Sweeping (e : GpuSweepEngine) : List StabilityResult → Prop
  | idle {results} (hphase : e.halted = false) (hb : e.bisection = none)
      (h : SweptFrom e.config (e.config.targetFreqsMhz.take e.freqIndex) results e.tradeoffs)
      (hle : e.freqIndex ≤ e.config.targetFreqsMhz.length) : Sweeping e results
  | testing {results seg freq b} (hphase : e.halted = false) (hb : e.bisection = some b)
      (h : SweptFrom e.config (e.config.targetFreqsMhz.take e.freqIndex) results e.tradeoffs)
      (hfreq : e.config.targetFreqsMhz[e.freqIndex]? = some freq)
      (hp : (e.config.bisectionAt freq).Pending b seg) : Sweeping e (results ++ seg)

structure Swept (e : GpuSweepEngine) (results : List StabilityResult) : Prop where
  phase_eq : e.phase = .done
  bisection_eq : e.bisection = none
  swept : SweptFrom e.config e.config.targetFreqsMhz results e.tradeoffs
  profiles_eq : e.profiles = synthesizeProfiles e.baselineFreqMhz e.tradeoffs

theorem Sweeping.not_halted {e : GpuSweepEngine} {results : List StabilityResult}
    (h : e.Sweeping results) : e.halted = false := by
  cases h with
  | idle hphase => exact hphase
  | testing hphase => exact hphase

theorem Sweeping.started_none {e : GpuSweepEngine} {results : List StabilityResult}
    (h : e.Sweeping results) (hs : e.started = none) : e.finish.Swept results := by
  cases h with
  | idle hphase hb hswept hle =>
    rw [started, hb, Option.none_or, Option.map_eq_none_iff, List.getElem?_eq_none_iff] at hs
    rw [List.take_of_length_le hs] at hswept
    exact ⟨rfl, hb, hswept, rfl⟩
  | testing hphase hb => simp [started, hb] at hs

theorem Sweeping.started_some {e : GpuSweepEngine} {results : List StabilityResult}
    (h : e.Sweeping results) {bis : VoltageBisection} (hs : e.started = some bis) :
    ∃ before seg freq, results = before ++ seg ∧
      SweptFrom e.config (e.config.targetFreqsMhz.take e.freqIndex) before e.tradeoffs ∧
      e.config.targetFreqsMhz[e.freqIndex]? = some freq ∧
      (e.config.bisectionAt freq).Pending bis seg := by
  cases h with
  | idle hphase hb hswept hle =>
    rw [started, hb, Option.none_or] at hs
    obtain ⟨freq, hfreq, rfl⟩ := Option.map_eq_some_iff.mp hs
    refine ⟨results, [], freq, (List.append_nil _).symm, hswept, hfreq, ?_⟩
    exact ⟨VoltageBisection.steps_new .., rfl, Or.inl rfl⟩
  | @testing before seg freq b hphase hb hswept hfreq hp =>
    rw [started, hb, Option.some_or] at hs
    obtain rfl := Option.some.inj hs
    exact ⟨before, seg, freq, rfl, hswept, hfreq, hp⟩

/-- A bound on the tests left: each target not yet swept may need a whole search. -/
def effort (e : GpuSweepEngine) : Nat :=
  (e.config.targetFreqsMhz.length - e.freqIndex) * (e.config.stockMv - e.config.floorMv + 2) +
    e.started.elim 0 VoltageBisection.room

theorem effort_advance_le {e : GpuSweepEngine} (bis : VoltageBisection)
    (h : e.freqIndex < e.config.targetFreqsMhz.length) : (e.advance bis).effort ≤ e.effort := by
  have hroom : (e.advance bis).started.elim 0 VoltageBisection.room ≤
      e.config.stockMv - e.config.floorMv + 2 := by
    show (Option.map _ e.config.targetFreqsMhz[e.freqIndex + 1]?).elim 0 _ ≤ _
    cases e.config.targetFreqsMhz[e.freqIndex + 1]? with
    | none => exact Nat.zero_le _
    | some freq => exact Nat.le_succ _
  have hleft : e.config.targetFreqsMhz.length - e.freqIndex =
      e.config.targetFreqsMhz.length - (e.freqIndex + 1) + 1 := by omega
  unfold effort
  rw [hleft, Nat.succ_mul]
  exact Nat.le_trans (Nat.add_le_add_left hroom _) (Nat.le_add_right _ _)

/-- What `next_command` leaves behind: a finished sweep, or the test of a pending candidate. -/
theorem Sweeping.nextCommand {e : GpuSweepEngine} {results : List StabilityResult}
    (h : e.Sweeping results) :
    (e.nextCommand.2 = .finished ∧ e.nextCommand.1.Swept results) ∨
      ∃ b mv, e.nextCommand.2 = .applyAndTest ⟨b.freqMhz, mv⟩ ∧
        e.nextCommand.1.Sweeping results ∧ e.nextCommand.1.bisection = some b ∧
        b.currentMv = some mv ∧ b.candidate = some mv ∧ b.Steps ∧
        e.nextCommand.1.effort ≤ e.effort := by
  fun_induction GpuSweepEngine.nextCommand e with
  | case1 e hhalted =>
    rw [h.not_halted] at hhalted
    exact absurd hhalted Bool.false_ne_true
  | case2 e hhalted hs => exact Or.inl ⟨rfl, h.started_none hs⟩
  | case3 e hhalted bis hs bis' mv hnext =>
    obtain ⟨before, seg, freq, rfl, hswept, hfreq, hp⟩ := h.started_some hs
    obtain ⟨rfl, hmv⟩ : { bis with currentMv := bis.candidate } = bis' ∧
        bis.candidate = some mv := Prod.mk.inj hnext
    have hpend := hp.nextTest
    refine Or.inr ⟨_, mv, rfl, ?_, rfl, hmv, hmv, hpend.steps, ?_⟩
    · exact .testing (Bool.eq_false_iff.mpr hhalted) rfl hswept hfreq hpend
    · unfold effort
      rw [hs]
      exact Nat.le_refl _
  | case4 e hhalted bis hs bis' hnext ih =>
    obtain ⟨before, seg, freq, rfl, hswept, hfreq, hp⟩ := h.started_some hs
    obtain ⟨rfl, hnone⟩ : { bis with currentMv := bis.candidate } = bis' ∧
        bis.candidate = none := Prod.mk.inj hnext
    obtain ⟨hlt, -⟩ := List.getElem?_eq_some_iff.mp hfreq
    have hbis := VoltageBisection.after_freqMhz hp.after_eq
    have hstep := hswept.target hp.after_eq
      (VoltageBisection.candidate_eq_none_iff.mp hnone)
    have htake : e.config.targetFreqsMhz.take (e.freqIndex + 1) =
        e.config.targetFreqsMhz.take e.freqIndex ++ [freq] := by
      rw [List.take_add_one, hfreq, Option.toList_some]
    have hadvanced : SweptFrom e.config (e.config.targetFreqsMhz.take (e.freqIndex + 1))
        (before ++ seg) (e.tradeoffs ++ [⟨bis.freqMhz, e.config.safe bis.minStableMv⟩]) := by
      have hfreqMhz : bis.freqMhz = freq := hbis
      rw [htake, hfreqMhz]
      exact hstep
    rcases ih (.idle (Bool.eq_false_iff.mpr hhalted) rfl hadvanced hlt) with
      hfinished | ⟨b, mv, hcmd, hsweeping, hb, hcur, hcand, hsteps, heffort⟩
    · exact Or.inl hfinished
    · exact Or.inr ⟨b, mv, hcmd, hsweeping, hb, hcur, hcand, hsteps,
        heffort.trans (effort_advance_le _ hlt)⟩

/-- A test is pending: the next result is consumed. -/
def testPending (e : GpuSweepEngine) : Bool := e.bisection.any (·.currentMv.isSome)

theorem Sweeping.record {e : GpuSweepEngine} {results : List StabilityResult}
    (h : e.Sweeping results) (result : StabilityResult) :
    (e.record result).Sweeping (if e.testPending then results ++ [result] else results) := by
  cases h with
  | idle hphase hb hswept hle =>
    have hpending : e.testPending = false := by rw [testPending, hb, Option.any_none]
    have hnone : (e.record result).bisection = none := by
      rw [GpuSweepEngine.record, hb, Option.map_none]
    rw [hpending]
    exact .idle hphase hnone hswept hle
  | @testing before seg freq b hphase hb hswept hfreq hp =>
    have hpending : e.testPending = b.currentMv.isSome := by
      rw [testPending, hb, Option.any_some]
    have hsome : (e.record result).bisection = some (b.record result) := by
      rw [GpuSweepEngine.record, hb, Option.map_some]
    have hnext := Sweeping.testing (e := e.record result) hphase hsome hswept hfreq
      (hp.record result)
    rw [hpending]
    split
    next hc => rwa [if_pos hc, ← List.append_assoc] at hnext
    next hc => rwa [if_neg hc] at hnext

/-- A finished answer leaves the engine halted. -/
theorem halted_of_finished {e : GpuSweepEngine} (h : e.nextCommand.2 = .finished) :
    e.nextCommand.1.halted = true := by
  fun_induction nextCommand e with
  | case1 e hhalted => exact hhalted
  | case2 e hhalted hs => rfl
  | case3 e hhalted bis hs bis' mv hnext => simp at h
  | case4 e hhalted bis hs bis' hnext ih => exact ih h

end GpuSweepEngine

inductive SweepCall
  | nextCommand
  | record (result : StabilityResult)
  | abort
deriving DecidableEq

/-- The engine with the results it has consumed. -/
def GpuSweepEngine.after (s : GpuSweepEngine × List StabilityResult) :
    SweepCall → GpuSweepEngine × List StabilityResult
  | .nextCommand => (s.1.nextCommand.1, s.2)
  | .record result =>
    (s.1.record result, if s.1.testPending then s.2 ++ [result] else s.2)
  | .abort => (s.1.abort, s.2)

/-- Calls on a new engine, in any order. -/
def gpuSweep (config : GpuSweepConfig) (baselineFreqMhz : Nat) (simulated : Bool) :
    Machine (GpuSweepEngine × List StabilityResult) SweepCall where
  init s := s = (.new config baselineFreqMhz simulated, [])
  step s call s' := s' = GpuSweepEngine.after s call

namespace GpuSweepEngine

theorem Swept.halted {e : GpuSweepEngine} {results : List StabilityResult}
    (h : e.Swept results) : e.halted = true := by
  rw [GpuSweepEngine.halted, h.phase_eq]
  rfl

@[simp] theorem nextCommand_config (e : GpuSweepEngine) :
    e.nextCommand.1.config = e.config := by
  fun_induction nextCommand e with
  | case4 e hhalted bis hs bis' hnext ih => exact ih
  | _ => rfl

/-- Under way or swept, whatever order the calls come in. -/
structure Consistent (config : GpuSweepConfig) (s : GpuSweepEngine × List StabilityResult) :
    Prop where
  config_eq : s.1.config = config
  sweep : s.1.Sweeping s.2 ∨ s.1.Swept s.2

theorem consistent_new (config : GpuSweepConfig) (baselineFreqMhz : Nat) (simulated : Bool) :
    Consistent config (.new config baselineFreqMhz simulated, []) :=
  ⟨rfl, Or.inl (.idle rfl rfl .nil (Nat.zero_le _))⟩

theorem Consistent.nextCommand {config : GpuSweepConfig}
    {s : GpuSweepEngine × List StabilityResult} (h : Consistent config s) :
    Consistent config (s.1.nextCommand.1, s.2) := by
  refine ⟨(nextCommand_config s.1).trans h.config_eq, ?_⟩
  rcases h.sweep with hsweeping | hswept
  · rcases hsweeping.nextCommand with ⟨-, hfinished⟩ | ⟨b, mv, -, htesting, -⟩
    · exact Or.inr hfinished
    · exact Or.inl htesting
  · rw [nextCommand_of_halted hswept.halted]
    exact Or.inr hswept

theorem Consistent.record {config : GpuSweepConfig}
    {s : GpuSweepEngine × List StabilityResult} (h : Consistent config s)
    (result : StabilityResult) : Consistent config (after s (.record result)) := by
  refine ⟨h.config_eq, ?_⟩
  rcases h.sweep with hsweeping | hswept
  · exact Or.inl (hsweeping.record result)
  · have hidle : s.1.record result = s.1 := by
      rw [GpuSweepEngine.record, hswept.bisection_eq, Option.map_none, ← hswept.bisection_eq]
    have hpending : s.1.testPending = false := by
      rw [testPending, hswept.bisection_eq, Option.any_none]
    refine Or.inr ?_
    show (s.1.record result).Swept (if s.1.testPending then _ else _)
    rwa [hidle, hpending]

end GpuSweepEngine

theorem gpuSweep_consistent {config : GpuSweepConfig} {baselineFreqMhz : Nat}
    {simulated : Bool} {calls : List SweepCall} {s : GpuSweepEngine × List StabilityResult}
    (h : ((gpuSweep config baselineFreqMhz simulated).guarded
      fun _ call => call ≠ .abort).Run calls s) : GpuSweepEngine.Consistent config s := by
  refine h.invariant (I := GpuSweepEngine.Consistent config) ?_ ?_
  · intro s hs
    obtain rfl := hs
    exact GpuSweepEngine.consistent_new config baselineFreqMhz simulated
  · intro s call s' hinv hs
    obtain ⟨hne, rfl⟩ := hs
    cases call with
    | nextCommand => exact hinv.nextCommand
    | record result => exact hinv.record result
    | abort => exact absurd rfl hne

end Nidavellir
