import Nidavellir.StageBuffers

namespace Nidavellir.GpuStress

open Dispatch AffinePower

/-- A filled chain of a power of two of cells. -/
structure Chain where
  bits : Nat
  small : bits < 32
  buffer : Filled (UInt32.ofNat (2 ^ bits)) (chainStep (maskOf bits))

def Chain.len (chain : Chain) : UInt32 := UInt32.ofNat (2 ^ chain.bits)

/-- The tables are dispatched in turn. -/
def vramShader (tables : List (List UInt32)) (gathers lanes tableLen : UInt32) (k i : Nat)
    (data : List UInt32) : List UInt32 :=
  match tables[k % tables.length]? with
  | some table => memShader gathers lanes tableLen table i data
  | none => data

/-- A known-answer stage once its buffers are set up. -/
inductive Stage
  | alu (name : String) (elements iters : UInt32)
  | powerLoad (elements iters : UInt32)
  | memory (name : String) (tableLen : UInt32) (table : Filled tableLen tablePattern)
      (lanes gathers : UInt32)
  | vramPressure (tableLen : UInt32) (tables : List (Filled tableLen tablePattern))
      (lanes gathers : UInt32)
  | memChase (chain : Chain) (lanes steps : UInt32)
  | combined (fusedN fusedIters bufN : UInt32) (chain : Chain) (lanes steps : UInt32)

/-- `k` dispatches on a faultless device leave the known answer, in every order of the invocations,
and the report tells it from every other buffer. -/
def Stage.KnownAnswer (k : Nat) (elapsedMs : UInt64) : Stage → Prop
  | .alu name elements iters =>
    Answers
      (Submitted (List.range (invocations elements)) (fun _ => aluShader iters elements)
        (aluInput elements) k)
      (fun output => output.length = elements.toNat)
      (aluExpected elements iters (UInt64.ofNat k))
      (fun output => (runAlu name elements iters (faultless k elapsedMs) (some output)).result)
  | .powerLoad elements iters =>
    Answers
      (fun output => ∃ data, Submitted (List.range (invocations elements))
        (fun _ => powerShader iters elements) (powerInput elements) k data ∧
          output = data.flatMap Vec4.lanes)
      (fun output => output.length = elements.toNat * 4)
      (powerExpected elements iters (UInt64.ofNat k))
      (fun output => (runPowerLoad elements iters (faultless k elapsedMs) (some output)).result)
  | .memory name tableLen table lanes gathers =>
    Answers
      (Submitted (List.range (invocations lanes))
        (fun _ => memShader gathers lanes tableLen table.cells) (List.replicate lanes.toNat 0) k)
      (fun output => output.length = lanes.toNat)
      (memExpected lanes gathers tableLen)
      (fun output =>
        (runMemory name lanes gathers tableLen (faultless k elapsedMs) (some output)).result)
  | .vramPressure tableLen tables lanes gathers =>
    Answers
      (Submitted (List.range (invocations lanes))
        (vramShader (tables.map Filled.cells) gathers lanes tableLen)
        (List.replicate lanes.toNat 0) k)
      (fun output => output.length = lanes.toNat)
      (memExpected lanes gathers tableLen)
      (fun output => (runVramPressure tables.length lanes gathers tableLen (faultless k elapsedMs)
        (some output)).result)
  | .memChase chain lanes steps =>
    Answers
      (Submitted (List.range (invocations lanes))
        (fun _ => chaseShader steps (chain.len - 1) lanes chain.buffer.cells)
        (List.replicate lanes.toNat 0) k)
      (fun output => output.length = lanes.toNat)
      (chaseExpected lanes steps (chain.len - 1))
      (fun output =>
        (runMemChase lanes steps chain.len (faultless k elapsedMs) (some output)).result)
  | .combined fusedN fusedIters bufN chain lanes steps =>
    Answers
      (fun output => ∃ streamed,
        Submitted (List.range (invocations fusedN)) (fun _ => fusedShader fusedIters fusedN bufN)
            (aluInput fusedN, List.replicate bufN.toNat 0) k (output.1, streamed) ∧
          Submitted (List.range (invocations lanes))
            (fun _ => chaseShader steps (chain.len - 1) lanes chain.buffer.cells)
            (List.replicate lanes.toNat 0) k output.2)
      (fun output => output.1.length = fusedN.toNat ∧ output.2.length = lanes.toNat)
      (aluExpected fusedN fusedIters (UInt64.ofNat k), chaseExpected lanes steps (chain.len - 1))
      (fun output => (runCombined fusedN fusedIters lanes steps (chain.len - 1)
        (faultless k elapsedMs) (some output.1) (some output.2)).result)

/-- Some dispatch has written the answer, or the answer is the zero the buffer began with. -/
def GatherWritten (k : Nat) (lanes gathers tableLen : UInt32) : Prop :=
  0 < k ∨ ∀ i < lanes.toNat, 2 ^ 32 ∣ gatherIndexSum gathers tableLen (UInt32.ofNat i)

def ChaseWritten (k : Nat) (chain : Chain) (lanes steps : UInt32) : Prop :=
  0 < k ∨ lanes = 0 ∨ chain.bits = 0 ∨ lanes = 1 ∧ 2 ^ chain.bits ∣ steps.toNat + 1

/-- What the stage's sizes and its number of dispatches have to meet. -/
def Stage.Sound (k : Nat) : Stage → Prop
  | .alu _ _ _ => True
  | .powerLoad elements _ => elements.toNat < 2 ^ 30
  | .memory _ tableLen _ lanes gathers => GatherWritten k lanes gathers tableLen
  | .vramPressure tableLen tables lanes gathers =>
    tables ≠ [] ∧ GatherWritten k lanes gathers tableLen
  | .memChase chain lanes steps => ChaseWritten k chain lanes steps
  | .combined _ _ _ chain lanes steps => ChaseWritten k chain lanes steps

variable {k : Nat} {elapsedMs : UInt64}

theorem lanes_lt (n : UInt32) : n.toNat < 2 ^ 32 := n.toNat_lt

theorem aluExpected_length (elements iters : UInt32) (k : UInt64) :
    (aluExpected elements iters k).length = elements.toNat := by
  simp [aluExpected]

theorem powerExpected_length (elements iters : UInt32) (k : UInt64) :
    (powerExpected elements iters k).length = elements.toNat * 4 := by
  unfold powerExpected
  rw [List.length_flatMap]
  simp [Vec4.lanes]

theorem memExpected_length (lanes gathers tableLen : UInt32) :
    (memExpected lanes gathers tableLen).length = lanes.toNat := by
  simp [memExpected]

theorem chaseExpected_length (lanes steps mask : UInt32) :
    (chaseExpected lanes steps mask).length = lanes.toNat := by
  simp [chaseExpected]

theorem alu_knownAnswer (name : String) (elements iters : UInt32) :
    (Stage.alu name elements iters).KnownAnswer k elapsedMs := by
  have hanswers := answers_stageReport_iff
    (Submitted (List.range (invocations elements)) (fun _ => aluShader iters elements)
      (aluInput elements) k)
    name (aluExpected_length elements iters (UInt64.ofNat k)) k elapsedMs
  exact hanswers.mpr ⟨fun output h => alu_final h, lanes_lt elements⟩

theorem powerLoad_knownAnswer_iff (elements iters : UInt32) :
    (Stage.powerLoad elements iters).KnownAnswer k elapsedMs ↔ elements.toNat < 2 ^ 30 := by
  refine (answers_stageReport_iff _ "PowerLoad"
    (powerExpected_length elements iters (UInt64.ofNat k)) k elapsedMs).trans ?_
  constructor
  · rintro ⟨-, hshort⟩
    omega
  · intro hshort
    refine ⟨?_, by omega⟩
    rintro output ⟨data, hdata, rfl⟩
    exact power_final hdata

theorem memory_final_iff {tableLen : UInt32} (table : Filled tableLen tablePattern)
    (lanes gathers : UInt32) :
    (∀ output, Submitted (List.range (invocations lanes))
        (fun _ => memShader gathers lanes tableLen table.cells) (List.replicate lanes.toNat 0) k
        output → output = memExpected lanes gathers tableLen) ↔
      GatherWritten k lanes gathers tableLen := by
  unfold GatherWritten
  simp only [← gatherExpected_eq_zero_iff]
  exact rewrites_iff
    (f := fun _ i _ => gathered gathers tableLen table.cells (UInt32.ofNat i))
    (fun _ i _ _ => gathered_eq table gathers (UInt32.ofNat i)) (le_invocations lanes)

theorem memory_knownAnswer_iff (name : String) {tableLen : UInt32}
    (table : Filled tableLen tablePattern) (lanes gathers : UInt32) :
    (Stage.memory name tableLen table lanes gathers).KnownAnswer k elapsedMs ↔
      GatherWritten k lanes gathers tableLen := by
  refine (answers_stageReport_iff _ name (memExpected_length lanes gathers tableLen) k
    elapsedMs).trans ?_
  rw [memory_final_iff table]
  exact and_iff_left (lanes_lt lanes)

/-- Which table a dispatch takes makes no difference. -/
theorem vramShader_eq {tableLen : UInt32} {tables : List (Filled tableLen tablePattern)}
    (htables : tables ≠ []) (gathers lanes : UInt32) (k i : Nat) (data : List UInt32) :
    vramShader (tables.map Filled.cells) gathers lanes tableLen k i data =
      lane lanes.toNat (fun i _ => gatherExpected gathers tableLen (UInt32.ofNat i)) i data := by
  have hpos : 0 < tables.length := List.length_pos_iff.mpr htables
  have hlt : k % tables.length < tables.length := Nat.mod_lt _ hpos
  unfold vramShader
  rw [List.length_map, List.getElem?_map, List.getElem?_eq_getElem hlt]
  change memShader gathers lanes tableLen _ i data = _
  unfold memShader
  simp only [gathered_eq]

theorem vramPressure_knownAnswer_iff {tableLen : UInt32}
    (tables : List (Filled tableLen tablePattern)) (lanes gathers : UInt32) :
    (Stage.vramPressure tableLen tables lanes gathers).KnownAnswer k elapsedMs ↔
      tables ≠ [] ∧ GatherWritten k lanes gathers tableLen := by
  by_cases htables : tables = []
  · subst htables
    constructor
    · intro h
      obtain ⟨output, hfinal⟩ := exists_submitted (List.range (invocations lanes))
        (vramShader ([].map Filled.cells) gathers lanes tableLen)
        (List.replicate lanes.toNat 0) k
      have hstable := (h.noFalseAlarm output hfinal).2
      cases hstable
    · rintro ⟨hsome, -⟩
      exact absurd rfl hsome
  · have hshader : vramShader (tables.map Filled.cells) gathers lanes tableLen = fun _ =>
        lane lanes.toNat fun i _ => gatherExpected gathers tableLen (UInt32.ofNat i) := by
      funext k i data
      exact vramShader_eq htables gathers lanes k i data
    have hrun : ∀ output, runVramPressure tables.length lanes gathers tableLen
        (faultless k elapsedMs) (some output) = stageReport "VramPressure"
          (memExpected lanes gathers tableLen) (faultless k elapsedMs) (some output) := by
      intro output
      exact if_neg fun h => htables (List.length_eq_zero_iff.mp h)
    have hfinal := rewrites_iff (k := k)
      (f := fun _ i _ => gatherExpected gathers tableLen (UInt32.ofNat i))
      (fun _ _ _ _ => rfl) (le_invocations lanes)
    simp only [gatherExpected_eq_zero_iff] at hfinal
    unfold Stage.KnownAnswer
    simp only [hrun, hshader]
    refine (answers_stageReport_iff _ "VramPressure" (memExpected_length lanes gathers tableLen) k
      elapsedMs).trans ?_
    refine (and_iff_left (lanes_lt lanes)).trans (hfinal.trans ?_)
    exact (and_iff_right htables).symm

theorem Chain.len_sub_one (chain : Chain) : chain.len - 1 = maskOf chain.bits := by
  have hpos := Nat.two_pow_pos chain.bits
  have hsmall : 2 ^ chain.bits < 2 ^ 32 := Nat.pow_lt_pow_right (by decide) chain.small
  unfold Chain.len maskOf
  rw [UInt32.ofNat_sub (by omega)]
  rfl

theorem chaseShader_eq (chain : Chain) (steps lanes : UInt32) :
    chaseShader steps (maskOf chain.bits) lanes chain.buffer.cells = lane lanes.toNat fun i _ =>
      (chainStep (maskOf chain.bits))^[steps.toNat]
        (chainStep (maskOf chain.bits) (UInt32.ofNat i)) := by
  have hhops : ∀ i, (fun idx => chain.buffer.cells.getD idx.toNat 0 &&& maskOf chain.bits)^[
      steps.toNat] (chainStep (maskOf chain.bits) (UInt32.ofNat i)) =
        (chainStep (maskOf chain.bits))^[steps.toNat]
          (chainStep (maskOf chain.bits) (UInt32.ofNat i)) := by
    intro i
    have hstart := and_maskOf_chainStep (m := chain.bits) (UInt32.ofNat i)
    have hsize : UInt32.ofNat (2 ^ chain.bits) = UInt32.ofNat (2 ^ chain.bits) := rfl
    exact iterate_chase hsize chain.small chain.buffer steps.toNat hstart
  unfold chaseShader
  simp only [hhops]

theorem chase_final_iff (chain : Chain) (lanes steps : UInt32) :
    (∀ output, Submitted (List.range (invocations lanes))
        (fun _ => chaseShader steps (chain.len - 1) lanes chain.buffer.cells)
        (List.replicate lanes.toNat 0) k output →
          output = chaseExpected lanes steps (chain.len - 1)) ↔
      ChaseWritten k chain lanes steps := by
  have hm : chain.bits ≤ 32 := Nat.le_of_lt chain.small
  unfold ChaseWritten
  rw [chain.len_sub_one, chaseExpected_eq hm, chaseShader_eq, ← chase_zero_iff hm]
  exact rewrites_iff (fun _ _ _ _ => rfl) (le_invocations lanes)

theorem memChase_knownAnswer_iff (chain : Chain) (lanes steps : UInt32) :
    (Stage.memChase chain lanes steps).KnownAnswer k elapsedMs ↔
      ChaseWritten k chain lanes steps := by
  refine (answers_stageReport_iff _ (chaseName chain.len)
    (chaseExpected_length lanes steps (chain.len - 1)) k elapsedMs).trans ?_
  rw [chase_final_iff]
  exact and_iff_left (lanes_lt lanes)

theorem exists_chain {bits : Nat} (hbits : bits < 32) : ∃ chain : Chain, chain.bits = bits := by
  have hpos := Nat.two_pow_pos bits
  have hle : 2 ^ bits ≤ 2 ^ 31 := Nat.pow_le_pow_right Nat.two_pos (by omega)
  have hsize : (UInt32.ofNat (2 ^ bits)).toNat = 2 ^ bits := by
    rw [UInt32.toNat_ofNat', Nat.mod_eq_of_lt (by omega)]
  have hgroups : fillGroups (UInt32.ofNat (2 ^ bits)) ≤ 65535 := Nat.min_le_right _ _
  have hlen : 0 < UInt32.ofNat (2 ^ bits) := by
    rw [UInt32.lt_iff_toNat_lt, hsize]
    exact hpos
  obtain ⟨buffer⟩ := exists_filled (chainStep (maskOf bits)) hlen (by omega)
  exact ⟨⟨bits, hbits, buffer⟩, rfl⟩

theorem combined_stable_iff (fusedN fusedIters lanes steps mask : UInt32)
    (output : List UInt32 × List UInt32) :
    (runCombined fusedN fusedIters lanes steps mask (faultless k elapsedMs) (some output.1)
        (some output.2)).result = .stable ↔
      2 ^ 32 ∣ differing output.1 (aluExpected fusedN fusedIters (UInt64.ofNat k)) ∧
        2 ^ 32 ∣ differing output.2 (chaseExpected lanes steps mask) := by
  rw [← countMismatches_eq_zero_iff, ← countMismatches_eq_zero_iff, ← saturatingAdd_eq_zero_iff]
  exact verdict_stable_iff _

theorem combined_knownAnswer_iff (fusedN fusedIters bufN : UInt32) (chain : Chain)
    (lanes steps : UInt32) :
    (Stage.combined fusedN fusedIters bufN chain lanes steps).KnownAnswer k elapsedMs ↔
      ChaseWritten k chain lanes steps := by
  have hfused := aluExpected_length fusedN fusedIters (UInt64.ofNat k)
  have hchase := chaseExpected_length lanes steps (chain.len - 1)
  have hfusedLt := lanes_lt fusedN
  have hchaseLt := lanes_lt lanes
  constructor
  · intro h
    rw [← chase_final_iff]
    intro output hout
    obtain ⟨⟨data, streamed⟩, hdata⟩ := exists_submitted (List.range (invocations fusedN))
      (fun _ => fusedShader fusedIters fusedN bufN)
      (aluInput fusedN, List.replicate bufN.toNat 0) k
    have hboth := (h.noFalseAlarm (data, output) ⟨streamed, hdata, hout⟩).1
    exact congrArg Prod.snd hboth
  · intro hwritten
    constructor
    · rintro ⟨data, output⟩ ⟨streamed, hdata, hout⟩
      have hdata' : data = aluExpected fusedN fusedIters (UInt64.ofNat k) := fused_final hdata
      have hout' := chase_final_iff chain lanes steps |>.mpr hwritten output hout
      refine ⟨Prod.ext hdata' hout', (combined_stable_iff ..).mpr ?_⟩
      rw [hdata', hout', differing_self, differing_self]
      exact ⟨dvd_zero _, dvd_zero _⟩
    · rintro ⟨data, output⟩ ⟨hdata, hout⟩ hne hstable
      obtain ⟨hdvd, hdvd'⟩ := (combined_stable_iff ..).mp hstable
      have hdata' := eq_of_dvd_differing (hdata.trans hfused.symm) (by omega) hdvd
      have hout' := eq_of_dvd_differing (hout.trans hchase.symm) (by omega) hdvd'
      exact hne (Prod.ext hdata' hout')

/-- A stage tells right from wrong lanes exactly when its buffer has been written: the accumulating
stages always, the others after one dispatch at least. -/
theorem knownAnswer_iff (stage : Stage) (k : Nat) (elapsedMs : UInt64) :
    stage.KnownAnswer k elapsedMs ↔ stage.Sound k := by
  cases stage with
  | alu name elements iters => exact iff_of_true (alu_knownAnswer name elements iters) trivial
  | powerLoad elements iters => exact powerLoad_knownAnswer_iff elements iters
  | memory name tableLen table lanes gathers =>
    exact memory_knownAnswer_iff name table lanes gathers
  | vramPressure tableLen tables lanes gathers =>
    exact vramPressure_knownAnswer_iff tables lanes gathers
  | memChase chain lanes steps => exact memChase_knownAnswer_iff chain lanes steps
  | combined fusedN fusedIters bufN chain lanes steps =>
    exact combined_knownAnswer_iff fusedN fusedIters bufN chain lanes steps

theorem twenty_le_chaseBits (wantBytes : Nat) {bits : Nat} (hbits : 20 ≤ bits) :
    20 ≤ chaseBits wantBytes bits := by
  induction bits with
  | zero => omega
  | succ bits ih =>
    rw [chaseBits]
    split
    next h =>
      have hlt : 20 < bits + 1 := (Nat.pow_lt_pow_iff_right (by decide)).mp h.2
      exact ih (by omega)
    next => exact hbits

/-- With the lanes and the hops of the battery itself the chase needs its one dispatch. -/
theorem memChase_own_knownAnswer_iff (wantBytes : Nat) {chain : Chain}
    (hchain : chain.bits = chaseBits wantBytes 26) :
    (Stage.memChase chain 65536 8192).KnownAnswer k elapsedMs ↔ 0 < k := by
  have hbits := twenty_le_chaseBits wantBytes (show 20 ≤ 26 by omega)
  rw [memChase_knownAnswer_iff]
  unfold ChaseWritten
  constructor
  · rintro (hk | hnone | hshort | ⟨hone, -⟩)
    · exact hk
    · exact absurd hnone (by decide)
    · omega
    · exact absurd hone (by decide)
  · exact .inl

/-- A loop can end after any number of dispatches. -/
theorem exists_dispatches {targetMs : UInt64} (htarget : 0 < targetMs) (k : Nat) :
    ∃ ticks, dispatches targetMs ticks = k := by
  refine ⟨List.replicate k ⟨0, false, false⟩, ?_⟩
  induction k with
  | zero => rfl
  | succ k ih =>
    rw [List.replicate_succ, dispatches, ih]
    simp [htarget]

theorem verdict_silentError {mismatches : UInt32} (h : mismatches ≠ 0) :
    verdict false mismatches true = .silentError := by
  unfold verdict
  simp [h]

/-- A token set while the tables are being filled leaves no dispatch, and a healthy device is
reported as silently wrong. -/
theorem vramPressure_cancelled_alarms :
    dispatches 8000 [{ elapsedMs := 900, cancelled := true, crashed := false }] = 0 ∧
      ∃ table : Filled (tableLen 2147483648) tablePattern,
        (runVramPressure 1 vramLanes vramGathers (tableLen 2147483648) (faultless 0 900)
            (some (List.replicate vramLanes.toNat 0))).result = .silentError ∧
          ¬ (Stage.vramPressure (tableLen 2147483648) [table] vramLanes
            vramGathers).KnownAnswer 0 900 := by
  refine ⟨by decide +kernel, ?_⟩
  obtain ⟨table⟩ := exists_table 2147483648
  have hlane : gatherExpected vramGathers (tableLen 2147483648) 0 ≠ 0 := by decide +kernel
  have hlen := memExpected_length vramLanes vramGathers (tableLen 2147483648)
  have hwrong : List.replicate vramLanes.toNat 0 ≠
      memExpected vramLanes vramGathers (tableLen 2147483648) := by
    intro h
    have hcell := congrArg (·[0]?) h
    have hpos : 0 < vramLanes.toNat := by decide
    simp only [memExpected, List.getElem?_replicate, List.getElem?_map, List.getElem?_range hpos,
      if_pos hpos, Option.map_some, Option.some.injEq] at hcell
    exact hlane hcell.symm
  have hcount : countMismatches (List.replicate vramLanes.toNat 0)
      (memExpected vramLanes vramGathers (tableLen 2147483648)) ≠ 0 := by
    rw [ne_eq, countMismatches_eq_zero_iff]
    intro h
    exact hwrong (eq_of_dvd_differing (by rw [hlen, List.length_replicate])
      (by rw [hlen]; exact lanes_lt _) h)
  have hsilent : (runVramPressure 1 vramLanes vramGathers (tableLen 2147483648) (faultless 0 900)
      (some (List.replicate vramLanes.toNat 0))).result = .silentError := by
    unfold runVramPressure
    rw [if_neg (by decide), stageReport_result, verdict_silentError hcount]
  refine ⟨table, hsilent, fun h => ?_⟩
  have hstable := (h.noFalseAlarm _ .start).2
  rw [List.length_singleton, hsilent] at hstable
  cases hstable

end Nidavellir.GpuStress
