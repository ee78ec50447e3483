import Nidavellir.VoltageBisection
import Nidavellir.Lib.Bracket
import Nidavellir.Lib.Runs

namespace Nidavellir

open Nidavellir.Bracket Runs

namespace VoltageBisection

theorem Steps.candidate_inside {b : VoltageBisection} (h : b.Steps) {mv : Nat}
    (hmv : b.candidate = some mv) : Inside b.stableMv b.unstableMv mv := by
  cases hu : b.unstableMv with
  | none => exact ⟨(h.candidate_descending hu hmv).2, by simp⟩
  | some unstable =>
    have hbounds := h.candidate_bisecting hu hmv
    refine ⟨hbounds.2, fun u hu' => ?_⟩
    obtain rfl := Option.some.inj hu'
    exact hbounds.1

theorem tested_stable {b : VoltageBisection} {mv : Nat} (hmv : b.candidate = some mv)
    (hin : Inside b.stableMv b.unstableMv mv) {result : StabilityResult}
    (hr : result.isStable = true) :
    b.tested result = { b with stableMv := mv, currentMv := none } := by
  have hcur : b.nextTest.1.currentMv = some mv := hmv
  rw [tested, record_stable hcur hr]
  simp only [nextTest, Nat.min_eq_right (Nat.le_of_lt hin.below)]

theorem tested_unstable {b : VoltageBisection} {mv : Nat} (hmv : b.candidate = some mv)
    (hin : Inside b.stableMv b.unstableMv mv) {result : StabilityResult}
    (hr : result.isStable = false) :
    b.tested result = { b with unstableMv := some mv, currentMv := none } := by
  have hcur : b.nextTest.1.currentMv = some mv := hmv
  rw [tested, record_unstable hcur hr]
  simp only [nextTest]
  cases hu : b.unstableMv with
  | none => rfl
  | some u => rw [Option.elim_some, Nat.max_eq_right (Nat.le_of_lt (hin.above u hu))]

theorem Steps.tested {b : VoltageBisection} (h : b.Steps) (result : StabilityResult) :
    (b.tested result).Steps :=
  Steps.record (b := b.nextTest.1) ⟨h.descent_pos, h.min_pos⟩ result

theorem Steps.room_tested_lt {b : VoltageBisection} (h : b.Steps) {mv : Nat}
    (hmv : b.candidate = some mv) (result : StabilityResult) :
    (b.tested result).room < b.room :=
  Steps.room_record_lt (b := b.nextTest.1) ⟨h.descent_pos, h.min_pos⟩ hmv hmv result

end VoltageBisection

/-- The searches of one frequency: `next_test` picks a voltage, and its result, whatever it is, is
recorded. -/
def bisection (freqMhz stockMv floorMv descentStepMv minStepMv : Nat) :
    Machine VoltageBisection (Nat × StabilityResult) where
  init b := b = .new freqMhz stockMv floorMv descentStepMv minStepMv
  step b test b' := b.nextTest.2 = some test.1 ∧ b' = b.nextTest.1.record test.2

/-- The tests of a search as probes that passed or failed. -/
def probes (log : List (Nat × StabilityResult)) : List (Nat × Bool) :=
  log.map fun test => (test.1, test.2.isStable)

@[simp] theorem probes_append (log log' : List (Nat × StabilityResult)) :
    probes (log ++ log') = probes log ++ probes log' :=
  List.map_append

@[simp] theorem probes_singleton (test : Nat × StabilityResult) :
    probes [test] = [(test.1, test.2.isStable)] := rfl

theorem mem_probes {log : List (Nat × StabilityResult)} {test : Nat × StabilityResult}
    (h : test ∈ log) : (test.1, test.2.isStable) ∈ probes log :=
  List.mem_map_of_mem h

theorem of_mem_probes {log : List (Nat × StabilityResult)} {mv : Nat} {passed : Bool}
    (h : (mv, passed) ∈ probes log) : ∃ result, (mv, result) ∈ log ∧ result.isStable = passed := by
  obtain ⟨⟨mv', result⟩, hmem, heq⟩ := List.mem_map.mp h
  obtain ⟨rfl, rfl⟩ := Prod.mk.inj heq
  exact ⟨result, hmem, rfl⟩

/-- What the tests of a search leave. -/
structure Searched (stockMv floorMv minStepMv : Nat) (log : List (Nat × StabilityResult))
    (b : VoltageBisection) : Prop where
  steps : b.Steps
  floor_eq : b.floorMv = floorMv
  minStep_eq : b.minStepMv = max minStepMv 1
  bracket : Bracketed stockMv (probes log) b.stableMv b.unstableMv
  in_range : ∀ test ∈ log, floorMv ≤ test.1 ∧ test.1 < stockMv

section

variable {freqMhz stockMv floorMv descentStepMv minStepMv : Nat}
  {log : List (Nat × StabilityResult)} {b : VoltageBisection}

theorem searched_new : Searched stockMv floorMv minStepMv []
    (.new freqMhz stockMv floorMv descentStepMv minStepMv) where
  steps := VoltageBisection.steps_new ..
  floor_eq := rfl
  minStep_eq := rfl
  bracket := bracketed_start stockMv
  in_range := by simp

theorem Searched.candidate_range (h : Searched stockMv floorMv minStepMv log b) {mv : Nat}
    (hmv : b.candidate = some mv) : floorMv ≤ mv ∧ mv < stockMv := by
  have hin := h.steps.candidate_inside hmv
  refine ⟨?_, Nat.lt_of_lt_of_le hin.below h.bracket.hi_le_start⟩
  cases hu : b.unstableMv with
  | none =>
    rw [← h.floor_eq]
    exact (h.steps.candidate_descending hu hmv).1
  | some unstable =>
    -- the failing bound was tested, so the floor is below it
    obtain ⟨result, hmem, _⟩ := of_mem_probes (h.bracket.lo_from unstable hu)
    exact Nat.le_trans (h.in_range _ hmem).1 (Nat.le_of_lt (hin.above unstable hu))

theorem Searched.tested (h : Searched stockMv floorMv minStepMv log b) {mv : Nat}
    (hmv : b.candidate = some mv) (result : StabilityResult) :
    Searched stockMv floorMv minStepMv (log ++ [(mv, result)]) (b.tested result) := by
  have hin := h.steps.candidate_inside hmv
  have hrange : ∀ test ∈ log ++ [(mv, result)], floorMv ≤ test.1 ∧ test.1 < stockMv := by
    intro test htest
    rcases List.mem_append.mp htest with hold | hnew
    · exact h.in_range test hold
    · obtain rfl := List.mem_singleton.mp hnew
      exact h.candidate_range hmv
  have hsteps := h.steps.tested result
  cases hr : result.isStable with
  | true =>
    rw [VoltageBisection.tested_stable hmv hin hr] at hsteps ⊢
    refine ⟨hsteps, h.floor_eq, h.minStep_eq, ?_, hrange⟩
    rw [probes_append, probes_singleton, hr]
    exact h.bracket.pass hin
  | false =>
    rw [VoltageBisection.tested_unstable hmv hin hr] at hsteps ⊢
    refine ⟨hsteps, h.floor_eq, h.minStep_eq, ?_, hrange⟩
    rw [probes_append, probes_singleton, hr]
    exact h.bracket.fail hin

theorem bisection_searched
    (h : (bisection freqMhz stockMv floorMv descentStepMv minStepMv).Run log b) :
    Searched stockMv floorMv minStepMv log b := by
  refine Machine.Run.invariant_trace (I := Searched stockMv floorMv minStepMv) ?_ ?_ h
  · intro b hb
    obtain rfl : b = _ := hb
    exact searched_new
  · intro log b test b' ih hs
    obtain ⟨hmv, rfl⟩ := hs
    exact ih.tested hmv test.2

theorem room_new_le :
    (VoltageBisection.new freqMhz stockMv floorMv descentStepMv minStepMv).room
      ≤ stockMv - floorMv + 1 := Nat.le_refl _

theorem bisection_length_le
    (h : (bisection freqMhz stockMv floorMv descentStepMv minStepMv).Run log b) :
    log.length ≤ stockMv - floorMv + 1 := by
  refine Machine.Run.length_le (I := VoltageBisection.Steps) (μ := VoltageBisection.room) ?_ ?_ h
  · intro b hb
    obtain rfl : b = _ := hb
    exact ⟨VoltageBisection.steps_new .., room_new_le⟩
  · intro b test b' hsteps hs
    obtain ⟨hmv, rfl⟩ := hs
    exact ⟨hsteps.tested test.2, hsteps.room_tested_lt hmv test.2⟩

/-- Results that answer the tests one after the other bring the search to its end. -/
theorem bisection_reaches_none (results : Nat → StabilityResult) (fuel : Nat)
    (h : (bisection freqMhz stockMv floorMv descentStepMv minStepMv).Run log b)
    (hlog : log.map Prod.snd = (List.range log.length).map results) (hfuel : b.room ≤ fuel) :
    ∃ log' b', (bisection freqMhz stockMv floorMv descentStepMv minStepMv).Run log' b' ∧
      log'.map Prod.snd = (List.range log'.length).map results ∧ b'.nextTest.2 = none := by
  induction fuel generalizing log b with
  | zero =>
    cases hmv : b.candidate with
    | none => exact ⟨log, b, h, hlog, hmv⟩
    | some mv =>
      have hlt := (bisection_searched h).steps.room_tested_lt hmv .stable
      omega
  | succ fuel ih =>
    cases hmv : b.candidate with
    | none => exact ⟨log, b, h, hlog, hmv⟩
    | some mv =>
      have hlt := (bisection_searched h).steps.room_tested_lt hmv (results log.length)
      have hnext : (bisection freqMhz stockMv floorMv descentStepMv minStepMv).step b
          (mv, results log.length) (b.tested (results log.length)) := ⟨hmv, rfl⟩
      refine ih (h.next hnext) ?_ (by omega)
      rw [List.length_append, List.length_singleton, List.range_succ, List.map_append,
        List.map_append, hlog]
      rfl

theorem Searched.stable_from (h : Searched stockMv floorMv minStepMv log b) :
    b.minStableMv = stockMv ∨ (b.minStableMv, StabilityResult.stable) ∈ log := by
  refine h.bracket.hi_from.imp_right fun hpass => ?_
  obtain ⟨result, hmem, hr⟩ := of_mem_probes hpass
  cases result with
  | stable => exact hmem
  | silentError | crash | unstable => simp [StabilityResult.isStable] at hr

/-- What ends a search: the floor passed, or the gap above a failing voltage is small enough. -/
theorem Searched.converged (h : Searched stockMv floorMv minStepMv log b)
    (hdone : b.nextTest.2 = none) :
    b.unstableMv = none ∧ b.stableMv ≤ floorMv ∨
      ∃ unstable result, b.unstableMv = some unstable ∧
        b.stableMv - unstable ≤ max minStepMv 1 ∧ (unstable, result) ∈ log ∧
        result.isStable = false := by
  have hconv : b.isConverged = true := VoltageBisection.candidate_eq_none_iff.mp hdone
  cases hu : b.unstableMv with
  | none =>
    simp only [VoltageBisection.isConverged, hu, decide_eq_true_eq, h.floor_eq] at hconv
    exact .inl ⟨rfl, hconv⟩
  | some unstable =>
    simp only [VoltageBisection.isConverged, hu, decide_eq_true_eq, h.minStep_eq] at hconv
    obtain ⟨result, hmem, hr⟩ := of_mem_probes (h.bracket.lo_from unstable hu)
    exact .inr ⟨unstable, result, rfl, hconv, hmem, hr⟩

theorem Searched.floor_le (h : Searched stockMv floorMv minStepMv log b)
    (hfloor : floorMv ≤ stockMv) : floorMv ≤ b.stableMv := by
  rcases h.bracket.hi_from with hstock | hpass
  · rwa [hstock]
  · obtain ⟨result, hmem, _⟩ := of_mem_probes hpass
    exact (h.in_range _ hmem).1

/-- Against a monotone oracle the search ends within its resolution of the threshold. -/
theorem Searched.near_threshold (h : Searched stockMv floorMv minStepMv log b)
    (hdone : b.nextTest.2 = none) {threshold : Nat}
    (hmono : ∀ test ∈ log, test.2.isStable = true ↔ threshold ≤ test.1)
    (hstock : threshold ≤ stockMv) (hfloor : floorMv ≤ stockMv) :
    max threshold floorMv ≤ b.minStableMv ∧
      b.minStableMv ≤ max threshold floorMv + max minStepMv 1 := by
  have hprobes : ∀ probe ∈ probes log, probe.2 = true ↔ threshold ≤ probe.1 := by
    intro probe hprobe
    obtain ⟨test, hmem, rfl⟩ := List.mem_map.mp hprobe
    exact hmono test hmem
  obtain ⟨hpass, hfail⟩ := h.bracket.threshold hprobes hstock
  refine ⟨Nat.max_le.mpr ⟨hpass, h.floor_le hfloor⟩, ?_⟩
  unfold VoltageBisection.minStableMv
  rcases h.converged hdone with ⟨_, hle⟩ | ⟨unstable, _, hu, hgap, _⟩
  · omega
  · have hlt := hfail unstable hu
    omega

theorem Searched.stock_below_floor (h : Searched stockMv floorMv minStepMv log b)
    (hfloor : stockMv < floorMv) : log = [] ∧ b.minStableMv = stockMv := by
  have hempty : log = [] := by
    refine List.eq_nil_iff_forall_not_mem.mpr fun test htest => ?_
    have hrange := h.in_range test htest
    omega
  refine ⟨hempty, ?_⟩
  rcases h.stable_from with hstock | hmem
  · exact hstock
  · simp [hempty] at hmem

end

/-- Whatever the tests answer, the search ends, tests only between what it has proven, and keeps a
voltage that passed; a monotone oracle is met within the resolution. -/
theorem bisection_sound (freqMhz stockMv floorMv descentStepMv minStepMv : Nat) :
    (∀ results : Nat → StabilityResult, ∃ log b,
      (bisection freqMhz stockMv floorMv descentStepMv minStepMv).Run log b ∧
        log.map Prod.snd = (List.range log.length).map results ∧ b.nextTest.2 = none) ∧
    ∀ log b, (bisection freqMhz stockMv floorMv descentStepMv minStepMv).Run log b →
      log.length ≤ stockMv - floorMv + 1 ∧
      (∀ mv, b.nextTest.2 = some mv →
        floorMv ≤ mv ∧ mv < stockMv ∧ mv < b.stableMv ∧
        (∀ unstable, b.unstableMv = some unstable → unstable < mv) ∧
        ∀ test ∈ log, (test.2.isStable = true → mv < test.1) ∧
          (test.2.isStable = false → test.1 < mv)) ∧
      (b.minStableMv = stockMv ∨ (b.minStableMv, StabilityResult.stable) ∈ log) ∧
      (b.nextTest.2 = none →
        b.stableMv ≤ floorMv ∨
          ∃ unstable result, b.unstableMv = some unstable ∧
            b.stableMv - unstable ≤ max minStepMv 1 ∧ (unstable, result) ∈ log ∧
            result.isStable = false) ∧
      (b.nextTest.2 = none → ∀ threshold,
        (∀ test ∈ log, test.2.isStable = true ↔ threshold ≤ test.1) → threshold ≤ stockMv →
        (floorMv ≤ stockMv → max threshold floorMv ≤ b.minStableMv ∧
          b.minStableMv ≤ max threshold floorMv + max minStepMv 1) ∧
        (stockMv < floorMv → log = [] ∧ b.minStableMv = stockMv)) := by
  refine ⟨fun results => ?_, fun log b hrun => ?_⟩
  · exact bisection_reaches_none results (stockMv - floorMv + 1) (.start rfl) rfl room_new_le
  have h := bisection_searched hrun
  refine ⟨bisection_length_le hrun, fun mv hmv => ?_, h.stable_from, fun hdone => ?_,
    fun hdone threshold hmono hstock => ?_⟩
  · have hin := h.steps.candidate_inside hmv
    obtain ⟨hfloor, hstock⟩ := h.candidate_range hmv
    obtain ⟨hpassed, hfailed⟩ := h.bracket.inside_probes hin
    refine ⟨hfloor, hstock, hin.below, hin.above, fun test htest => ⟨fun hr => ?_, fun hr => ?_⟩⟩
    · exact hpassed test.1 (hr ▸ mem_probes htest)
    · exact hfailed test.1 (hr ▸ mem_probes htest)
  · exact (h.converged hdone).imp_left And.right
  · exact ⟨h.near_threshold hdone hmono hstock, h.stock_below_floor⟩

/-- A resolution of zero is searched as one, and a stock voltage below the floor is kept. -/
theorem bisection_clamped :
    (∃ log b, (bisection 1900 1 0 1 0).Run log b ∧ b.nextTest.2 = none ∧
      ¬ (b.stableMv ≤ 0 ∨ ∃ unstable, b.unstableMv = some unstable ∧ b.stableMv - unstable ≤ 0)) ∧
    ∃ log b, (bisection 1900 800 900 25 5).Run log b ∧ b.nextTest.2 = none ∧
      (∀ test ∈ log, test.2.isStable = true ↔ 0 ≤ test.1) ∧ ¬ max 0 900 ≤ b.minStableMv := by
  constructor
  · refine ⟨[(0, .crash)], _, .next (l := []) (.start rfl) ⟨rfl, rfl⟩, rfl, ?_⟩
    rintro (hfloor | ⟨unstable, hu, hgap⟩)
    · exact absurd hfloor (by decide)
    · obtain rfl := Option.some.inj hu
      exact absurd hgap (by decide)
  · exact ⟨[], _, .start rfl, rfl, by simp, by decide⟩

end Nidavellir
