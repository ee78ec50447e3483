import Nidavellir.F2CallRules
import Nidavellir.F2Calls

namespace Nidavellir

open F2Ops F2MultiStepOps Trace

/-- The candidates executed from `i` on: their reports and blocks of calls, the calls after the
last block, and the last good index before and after. -/
inductive Descent : Nat → Nat → Option Nat → List F2StepReport → List (List F2Call) →
    List F2Call → Option Nat → Prop
  | done (i g) : Descent i 0 g [] [] [] g
  | refused (i n g e) : Descent i (n + 1) g [] [] [.select i (.error e)] g
  | stopped (i n g) {report block} (h : StepCalls block report.outcome)
    (hv : report.validated = decide (report.outcome = .validated))
    (ho : report.outcome ≠ .validated) : Descent i (n + 1) g [report] [block] [] g
  | continued {i n g report block steps blocks tail g'} (h : StepCalls block report.outcome)
    (hv : report.validated = decide (report.outcome = .validated))
    (ho : report.outcome = .validated) (hr : Descent (i + 1) n (some i) steps blocks tail g') :
    Descent i (n + 1) g (report :: steps) (block :: blocks) tail g'

/-- The blocks of consecutive candidates, each after its own successful selection. -/
def candidateCalls : Nat → List (List F2Call) → List F2Call
  | _, [] => []
  | i, block :: blocks => .select i (.ok ()) :: block ++ candidateCalls (i + 1) blocks

theorem runCandidates_descent {O : Type*} [F2MultiStepOps O] [BuildEnv] (self : Traced O)
    (g : Option Nat) (i n : Nat) :
    ∃ blocks tail, Descent i n g (runCandidates self g i n).steps blocks tail
        (runCandidates self g i n).lastGoodIndex ∧
      (runCandidates self g i n).ops.calls = self.calls ++ candidateCalls i blocks ++ tail := by
  induction n generalizing self g i with
  | zero => exact ⟨[], [], .done i g, by simp [runCandidates, candidateCalls]⟩
  | succ n ih =>
    obtain ⟨selected, t₁, h₁, hc₁⟩ := self.record_spec (.select i) (select i)
    change select i self = (selected, t₁) at h₁
    unfold runCandidates
    rcases selected with e | ⟨⟩
    · simp only [h₁]
      exact ⟨[], [_], .refused i n g e, by simp [hc₁, candidateCalls]⟩
    obtain ⟨block, hcalls, hstep, hvalid⟩ := runConfirmedF2Step_calls t₁
    simp only [h₁]
    split
    next reason hreason =>
      refine ⟨[block], [], .stopped i n g hstep hvalid ?_, ?_⟩
      · exact fun ho => by simp [hstep.f2StopReason_eq_none.mpr ho] at hreason
      · simp [hcalls, hc₁, candidateCalls]
    next hnone =>
      have ho := hstep.f2StopReason_eq_none.mp hnone
      obtain ⟨blocks, tail, hdesc, hrest⟩ := ih (runConfirmedF2Step t₁).2 (some i) (i + 1)
      simp only [ho, if_true]
      refine ⟨block :: blocks, tail, .continued hstep hvalid ho hdesc, ?_⟩
      rw [hrest, hcalls, hc₁]
      simp [candidateCalls]

section Descent

variable {i n : Nat} {g g' : Option Nat} {steps : List F2StepReport}
  {blocks : List (List F2Call)} {tail : List F2Call}

theorem Descent.blocks_length (h : Descent i n g steps blocks tail g') :
    blocks.length = steps.length := by
  induction h with
  | continued _ _ _ _ ih => simp [ih]
  | _ => rfl

theorem Descent.tail_cases (h : Descent i n g steps blocks tail g') :
    tail = [] ∨ ∃ e, tail = [.select (i + blocks.length) (.error e)] := by
  induction h with
  | done => exact Or.inl rfl
  | refused i n g e => exact Or.inr ⟨e, rfl⟩
  | stopped => exact Or.inl rfl
  | continued _ _ _ _ ih =>
    rcases ih with rfl | ⟨e, rfl⟩
    · exact Or.inl rfl
    · exact Or.inr ⟨e, by rw [List.length_cons, Nat.add_assoc, Nat.add_comm 1]⟩

theorem Descent.length_le (h : Descent i n g steps blocks tail g') :
    blocks.length + tail.length ≤ n := by
  induction h with
  | continued _ _ _ _ ih => simp; omega
  | _ => simp

theorem Descent.every {P : List F2Call → F2Call → List F2Call → Prop} (hP : Local P)
    (hselect : ∀ i s, P [] (.select i s) [])
    (hstep : ∀ {block o}, StepCalls block o → Every P block)
    (h : Descent i n g steps blocks tail g') : Every P (candidateCalls i blocks ++ tail) := by
  have hone : ∀ i s, Every P [.select i s] := fun i s =>
    every_cons.mpr ⟨hselect i s, every_nil⟩
  induction h with
  | done => exact every_nil
  | refused i n g e => exact hone i _
  | stopped i n g h _ _ => simpa [candidateCalls] using (hone i (.ok ())).append hP (hstep h)
  | @continued i n g report block steps blocks tail g' h _ _ _ ih =>
    simpa [candidateCalls] using ((hone i (.ok ())).append hP (hstep h)).append hP ih

theorem Descent.step_calls (h : Descent i n g steps blocks tail g') {j : Nat}
    {step : F2StepReport} {block : List F2Call} (hs : steps[j]? = some step)
    (hb : blocks[j]? = some block) :
    StepCalls block step.outcome ∧ step.validated = decide (step.outcome = .validated) := by
  induction h generalizing j with
  | done => simp at hs
  | refused => simp at hs
  | stopped i n g h hv ho =>
    cases j with
    | zero =>
      obtain rfl := Option.some.inj hs
      obtain rfl := Option.some.inj hb
      exact ⟨h, hv⟩
    | succ j => simp at hs
  | continued h hv ho _ ih =>
    cases j with
    | zero =>
      obtain rfl := Option.some.inj hs
      obtain rfl := Option.some.inj hb
      exact ⟨h, hv⟩
    | succ j => exact ih (by simpa using hs) (by simpa using hb)

/-- Nothing follows a step that did not validate. -/
theorem Descent.stops (h : Descent i n g steps blocks tail g') {j : Nat} {step : F2StepReport}
    (hs : steps[j]? = some step) (ho : step.outcome ≠ .validated) :
    j + 1 = blocks.length ∧ tail = [] := by
  induction h generalizing j with
  | done => simp at hs
  | refused => simp at hs
  | stopped =>
    cases j with
    | zero => exact ⟨rfl, rfl⟩
    | succ j => simp at hs
  | continued _ _ hval _ ih =>
    cases j with
    | zero =>
      obtain rfl := Option.some.inj hs
      exact absurd hval ho
    | succ j => simpa using ih (by simpa using hs)

/-- The validated steps are the first `k`, and the last of them is the last good one. -/
theorem Descent.lastGood (h : Descent i n g steps blocks tail g') :
    ∃ k ≤ steps.length, (∀ j step, steps[j]? = some step →
      (step.outcome = .validated ↔ j < k)) ∧ g' = if k = 0 then g else some (i + k - 1) := by
  induction h with
  | done => exact ⟨0, by simp, by simp, rfl⟩
  | refused => exact ⟨0, by simp, by simp, rfl⟩
  | stopped i n g h hv ho =>
    refine ⟨0, by simp, fun j step hs => ?_, rfl⟩
    cases j with
    | zero =>
      obtain rfl := Option.some.inj hs
      simp [ho]
    | succ j => simp at hs
  | continued _ _ ho _ ih =>
    obtain ⟨k, hk, hval, rfl⟩ := ih
    refine ⟨k + 1, by simpa using hk, fun j step hs => ?_, ?_⟩
    · cases j with
      | zero =>
        obtain rfl := Option.some.inj hs
        simp [ho]
      | succ j => simpa using hval j step (by simpa using hs)
    · split
      next hk0 => simp [hk0]
      next hk0 =>
        rw [if_neg (Nat.succ_ne_zero k)]
        exact congrArg some (by omega)

theorem Descent.lastGood_iff (h : Descent i n none steps blocks tail g') {m : Nat} :
    g' = some (i + m) ↔ (∃ step, steps[m]? = some step ∧ step.outcome = .validated) ∧
      ∀ j step, m < j → steps[j]? = some step → step.outcome ≠ .validated := by
  obtain ⟨k, hk, hval, rfl⟩ := h.lastGood
  constructor
  · intro hg
    have hm : m + 1 = k := by
      split at hg
      next => simp at hg
      next => have := Option.some.inj hg; omega
    have hlt : m < steps.length := by omega
    refine ⟨⟨steps[m], by simp, (hval m _ (by simp)).mpr (by omega)⟩, fun j step hj hs ho => ?_⟩
    have := (hval j step hs).mp ho
    omega
  · intro hlast
    obtain ⟨⟨step, hs, ho⟩, hlater⟩ := hlast
    have hmk := (hval m step hs).mp ho
    have hk1 : m + 1 = k := by
      by_contra hne
      have hlt : m + 1 < steps.length := by omega
      exact hlater (m + 1) steps[m + 1] (by omega) (by simp)
        ((hval (m + 1) _ (by simp)).mpr (by omega))
    rw [if_neg (by omega)]
    exact congrArg some (by omega)

end Descent

/-- The descent fails closed: it makes the calls of candidates 0, 1, 2, … one block after the
other, and nothing after a step that did not validate. -/
theorem runConfirmedF2MultiStep_fails_closed {O : Type*} [F2MultiStepOps O] [BuildEnv] (ops : O)
    (cap : Nat) :
    let run := runConfirmedF2MultiStep (⟨ops, []⟩ : Traced O) cap
    ∃ blocks tail, run.2.calls = candidateCalls 0 blocks ++ tail ∧
      blocks.length = run.1.steps.length ∧
      (tail = [] ∨ ∃ e, tail = [.select blocks.length (.error e)]) ∧
      blocks.length + tail.length ≤ min (candidateCount ops) cap ∧
      (∀ block ∈ blocks, ∀ i s, F2Call.select i s ∉ block) ∧
      (∀ i step, run.1.steps[i]? = some step → step.outcome ≠ .validated →
        i + 1 = blocks.length ∧ tail = []) ∧
      Every WritesArmed run.2.calls ∧ Every ArmsReset run.2.calls ∧
      Every ClearsReset run.2.calls ∧
      (∀ i, run.1.lastGoodIndex = some i ↔
        (∃ step, run.1.steps[i]? = some step ∧ step.outcome = .validated) ∧
          ∀ j step, i < j → run.1.steps[j]? = some step → step.outcome ≠ .validated) ∧
      ∀ (i : Nat) (step : F2StepReport) (block : List F2Call),
        run.1.steps[i]? = some step → blocks[i]? = some block →
        (step.outcome = .validated ↔ block = validatedCalls) ∧
          (step.validated ↔ step.outcome = .validated) := by
  obtain ⟨blocks, tail, hdesc, hcalls⟩ :=
    runCandidates_descent (⟨ops, []⟩ : Traced O) none 0 (min (candidateCount ops) cap)
  rw [List.nil_append] at hcalls
  have hlen : blocks.length = _ := hdesc.blocks_length
  have htail : tail = [] ∨ ∃ e, tail = [.select blocks.length (.error e)] := by
    simpa using hdesc.tail_cases
  have hwrites : Every WritesArmed (candidateCalls 0 blocks ++ tail) :=
    hdesc.every writesArmed_local (by simp [WritesArmed]) (·.writesArmed)
  have hresets : Every ArmsReset (candidateCalls 0 blocks ++ tail) :=
    hdesc.every armsReset_local (by simp [ArmsReset]) (·.armsReset)
  have hclears : Every ClearsReset (candidateCalls 0 blocks ++ tail) :=
    hdesc.every clearsReset_local (by simp [ClearsReset]) (·.clearsReset)
  refine ⟨blocks, tail, hcalls, hlen, htail, hdesc.length_le, ?_, ?_, hcalls ▸ hwrites,
    hcalls ▸ hresets, hcalls ▸ hclears, ?_, ?_⟩
  · intro block hmem i s
    obtain ⟨j, hj, rfl⟩ := List.getElem_of_mem hmem
    have hstep := (hdesc.step_calls (List.getElem?_eq_getElem (hlen ▸ hj))
      (List.getElem?_eq_getElem hj)).1
    exact hstep.select_notMem i s
  · intro i step hs ho
    exact hdesc.stops hs ho
  · intro i
    have hlast := hdesc.lastGood_iff (m := i)
    rwa [Nat.zero_add] at hlast
  · intro i step block hs hb
    obtain ⟨hstep, hvalid⟩ := hdesc.step_calls hs hb
    exact ⟨hstep.validated_iff, by simp [hvalid]⟩

instance : F2MultiStepOps Scripted where
  candidateCount self := self.count
  select _ self := (.ok (), self)

/-- A silent error puts the blacklist call between the reset and the clear. -/
theorem clear_after_blacklist :
    ¬ ∀ (O : Type) [F2MultiStepOps O] [BuildEnv] (ops : O) (cap : Nat),
      Every (fun before e _ => ∀ r, e = .clearBootFlag r → [.resetToStock (.ok ())] <:+ before)
        (runConfirmedF2MultiStep (⟨ops, []⟩ : Traced O) cap).2.calls := by
  intro h
  let _ : BuildEnv := ⟨"0.1.0", "unknown"⟩
  have hclear := h Scripted { outcome := .silentError } 1
    [.select 0 (.ok ()), .armBootFlag (.ok ()), .applyPositiveOffset (.ok ()),
      .verify .raiseVerified, .dwell .silentError, .resetToStock (.ok ()),
      .blacklistPoint false (.ok ())] (.clearBootFlag (.ok ())) [] rfl (.ok ()) rfl
  revert hclear
  decide

end Nidavellir
