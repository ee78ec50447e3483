import Mathlib.Data.FinEnum
import Mathlib.Data.Set.Finite.Basic
import Nidavellir.ReadbackCompare

namespace Nidavellir.GpuStress

open Dispatch AffinePower
open scoped UInt32.CommRing

theorem le_invocations (n : UInt32) : n.toNat ≤ invocations n := by
  unfold invocations
  omega

theorem fillStride_toNat (len : UInt32) : (fillStride len).toNat = fillGroups len * 64 := by
  have hle : fillGroups len ≤ 65535 := Nat.min_le_right _ _
  have h64 : (64 : UInt32).toNat = 64 := rfl
  unfold fillStride
  rw [UInt32.toNat_mul, UInt32.toNat_ofNat', h64, Nat.mod_mul_mod, Nat.mod_eq_of_lt (by omega)]

theorem fillStride_pos {len : UInt32} (hlen : 0 < len) : 0 < (fillStride len).toNat := by
  have hpos : 0 < len.toNat := UInt32.lt_iff_toNat_lt.mp hlen
  rw [fillStride_toNat]
  unfold fillGroups
  omega

variable {len : UInt32} {pattern : UInt32 → UInt32}

theorem Filled.cells_eq (buffer : Filled len pattern) :
    buffer.cells = (List.range len.toNat).map fun j => pattern (UInt32.ofNat j) := by
  obtain ⟨fuel, hdispatched⟩ := buffer.completed
  rw [← fillStride_toNat] at hdispatched
  exact hdispatched.stridden (by simp) (fillStride_pos buffer.pos)

theorem Filled.getD (buffer : Filled len pattern) {i : UInt32} (hi : i < len) :
    buffer.cells.getD i.toNat 0 = pattern i := by
  have hlt : i.toNat < len.toNat := UInt32.lt_iff_toNat_lt.mp hi
  rw [List.getD_eq_getElem?_getD, buffer.cells_eq, List.getElem?_map, List.getElem?_range hlt]
  simp

/-- The fill completes on every buffer whose end leaves room for one more stride of the counter. -/
theorem exists_filled (pattern : UInt32 → UInt32) (hlen : 0 < len)
    (hroom : len.toNat + fillGroups len * 64 ≤ 2 ^ 32) : Nonempty (Filled len pattern) := by
  rw [← fillStride_toNat] at hroom
  obtain ⟨cells, hcells⟩ := exists_foldl_stridePass pattern (fillStride_pos hlen) hroom
    (List.range (fillGroups len * 64)) (List.replicate len.toNat 0)
  exact ⟨⟨cells, hlen, _, _, List.Perm.refl _, hcells⟩⟩

theorem tableLen_bounds (maxBufferBytes : UInt64) :
    2 ^ 24 ≤ (tableLen maxBufferBytes).toNat ∧ (tableLen maxBufferBytes).toNat ≤ 2 ^ 26 := by
  have h : ∀ x y : UInt64, (max x y).toNat = max x.toNat y.toNat := by
    intro x y
    by_cases hxy : x ≤ y
    · rw [show max x y = y from if_pos hxy, Nat.max_eq_right (UInt64.le_iff_toNat_le.mp hxy)]
    · have := UInt64.le_iff_toNat_le.not.mp hxy
      rw [show max x y = x from if_neg hxy, Nat.max_eq_left (by omega)]
  have h' : ∀ x y : UInt64, (min x y).toNat = min x.toNat y.toNat := by
    intro x y
    by_cases hxy : x ≤ y
    · rw [show min x y = x from if_pos hxy, Nat.min_eq_left (UInt64.le_iff_toNat_le.mp hxy)]
    · have := UInt64.le_iff_toNat_le.not.mp hxy
      rw [show min x y = y from if_neg hxy, Nat.min_eq_right (by omega)]
  unfold tableLen
  rw [UInt64.toNat_toUInt32, UInt64.toNat_div, h, h']
  have h256 : (256 * 1024 * 1024 : UInt64).toNat = 2 ^ 28 := by decide +kernel
  have h64 : (64 * 1024 * 1024 : UInt64).toNat = 2 ^ 26 := by decide +kernel
  have h4 : (4 : UInt64).toNat = 4 := rfl
  rw [h256, h64, h4, Nat.mod_eq_of_lt (by omega)]
  omega

/-- The fill of every table the battery allocates completes. -/
theorem exists_table (maxBufferBytes : UInt64) :
    Nonempty (Filled (tableLen maxBufferBytes) tablePattern) := by
  obtain ⟨hlow, hhigh⟩ := tableLen_bounds maxBufferBytes
  have hgroups : fillGroups (tableLen maxBufferBytes) ≤ 65535 := Nat.min_le_right _ _
  have hpos : 0 < tableLen maxBufferBytes :=
    UInt32.lt_iff_toNat_lt.mpr (Nat.lt_of_lt_of_le (Nat.two_pow_pos 24) hlow)
  exact exists_filled tablePattern hpos (by omega)

theorem alu_final {elements iters : UInt32} {k : Nat} {buffer : List UInt32}
    (h : Submitted (List.range (invocations elements)) (fun _ => aluShader iters elements)
      (aluInput elements) k buffer) :
    buffer = aluExpected elements iters (UInt64.ofNat k) := by
  have hcells := Submitted.accumulates (f := fun _ x => lcgRound^[iters.toNat] x)
    (by simp [aluInput]) (le_invocations elements) h
  rw [hcells]
  unfold aluInput aluExpected
  apply List.ext_getElem
  · simp
  · intro i h₁ h₂
    simp only [List.getElem_mapIdx, List.getElem_map, List.getElem_range]
    exact (act_jump iters k (UInt32.ofNat i)).symm

theorem iterate_vecRound (n : Nat) (v : Vec4) :
    vecRound^[n] v = ⟨lcgRound^[n] v.x, lcgRound^[n] v.y, lcgRound^[n] v.z, lcgRound^[n] v.w⟩ := by
  induction n generalizing v with
  | zero =>
    rw [Function.iterate_zero, Function.iterate_zero]
    rfl
  | succ n ih =>
    rw [Function.iterate_succ_apply, ih, vecRound_x, vecRound_y, vecRound_z, vecRound_w,
      Function.iterate_succ_apply, Function.iterate_succ_apply, Function.iterate_succ_apply,
      Function.iterate_succ_apply]

theorem power_final {elements iters : UInt32} {k : Nat} {buffer : List Vec4}
    (h : Submitted (List.range (invocations elements)) (fun _ => powerShader iters elements)
      (powerInput elements) k buffer) :
    buffer.flatMap Vec4.lanes = powerExpected elements iters (UInt64.ofNat k) := by
  have hcells := Submitted.accumulates (f := fun _ v => vecRound^[iters.toNat] v)
    (by simp [powerInput]) (le_invocations elements) h
  have hbuffer : buffer = (List.range elements.toNat).map fun i =>
      (vecRound^[iters.toNat])^[k] (powerSeed (UInt32.ofNat i)) := by
    rw [hcells]
    unfold powerInput
    apply List.ext_getElem
    · simp
    · intro i h₁ h₂
      simp only [List.getElem_mapIdx, List.getElem_map, List.getElem_range]
  have hlane : ∀ x, lcgRound^[iters.toNat * k] x =
      act (lcgPow (iters.toUInt64 * UInt64.ofNat k)) x := by
    intro x
    rw [act_jump, Function.iterate_mul]
  have hseed : ∀ v : Vec4, ((vecRound^[iters.toNat])^[k] v).lanes =
      v.lanes.map (act (lcgPow (iters.toUInt64 * UInt64.ofNat k))) := by
    intro v
    rw [← Function.iterate_mul, iterate_vecRound]
    simp only [Vec4.lanes, List.map_cons, List.map_nil, hlane]
  have hact : act (lcgPow (iters.toUInt64 * UInt64.ofNat k)) = fun x =>
      (lcgPow (iters.toUInt64 * UInt64.ofNat k)).1 * x +
        (lcgPow (iters.toUInt64 * UInt64.ofNat k)).2 := rfl
  rw [hbuffer, List.flatMap_map]
  simp only [hseed, hact, powerExpected]

/-- The lane of the fused kernel runs the rounds of the plain one, whatever the streamed buffer
holds. -/
theorem foldl_fusedRound (bufN : UInt32) (i : Nat) (rounds : List Nat) (s : UInt32 × List UInt32) :
    (rounds.foldl (fusedRound bufN i) s).1 = lcgRound^[rounds.length] s.1 := by
  induction rounds generalizing s with
  | nil => rfl
  | cons k rounds ih =>
    rw [List.foldl_cons, ih, List.length_cons, Function.iterate_succ_apply]
    rfl

theorem set_getD_eq_modify (f : UInt32 → UInt32) (cells : List UInt32) (i : Nat) :
    cells.set i (f (cells.getD i 0)) = cells.modify i f := by
  apply List.ext_getElem?
  intro j
  rw [List.getElem?_modify]
  by_cases hij : i = j
  · subst hij
    by_cases hi : i < cells.length
    · simp [hi]
    · simp [hi]
  · simp [hij]

theorem fusedShader_fst (iters n bufN : UInt32) (i : Nat) (s : List UInt32 × List UInt32) :
    (fusedShader iters n bufN i s).1 = aluShader iters n i s.1 := by
  unfold fusedShader aluShader lane
  split
  · rfl
  · have hround := foldl_fusedRound bufN i (List.range iters.toNat) (s.1.getD i 0, s.2)
    rw [List.length_range] at hround
    change s.1.set i _ = _
    rw [hround]
    exact set_getD_eq_modify _ _ _

theorem fused_final {elements iters bufN : UInt32} {k : Nat} {streamed : List UInt32}
    {state : List UInt32 × List UInt32}
    (h : Submitted (List.range (invocations elements)) (fun _ => fusedShader iters elements bufN)
      (aluInput elements, streamed) k state) :
    state.1 = aluExpected elements iters (UInt64.ofNat k) :=
  alu_final (h.project fun _ i s => fusedShader_fst iters elements bufN i s)

/-- Without a dispatch the buffer is still zero, so a zero answer is the only one it gives. -/
theorem rewrites_iff {n m k : Nat} {f : Nat → Nat → UInt32 → UInt32} {value : Nat → UInt32}
    (hvalue : ∀ k i x, i < n → f k i x = value i) (hm : n ≤ m) :
    (∀ buffer, Submitted (List.range m) (fun k => lane n (f k)) (List.replicate n 0) k buffer →
        buffer = (List.range n).map value) ↔
      0 < k ∨ ∀ i < n, value i = 0 := by
  constructor
  · intro h
    rcases Nat.eq_zero_or_pos k with rfl | hk
    · right
      intro i hi
      have hzero := h _ .start
      have hcell := congrArg (·[i]?) hzero
      simpa [hi] using hcell.symm
    · exact .inl hk
  · rintro h buffer hbuffer
    rcases Nat.eq_zero_or_pos k with rfl | hk
    · have hzero := h.resolve_left (by omega)
      rw [hbuffer.unchanged]
      apply List.ext_getElem
      · simp
      · intro i h₁ h₂
        have hi : i < n := by simpa using h₂
        simp [hzero i hi]
    · exact hbuffer.rewrites hvalue (by simp) hm hk

theorem gatherIndex_lt {tableLen : UInt32} (hpos : 0 < tableLen) (i k : UInt32) :
    gatherIndex tableLen i k < tableLen := by
  have hpos' : 0 < tableLen.toNat := UInt32.lt_iff_toNat_lt.mp hpos
  unfold gatherIndex
  rw [UInt32.lt_iff_toNat_lt, UInt32.toNat_mod]
  exact Nat.mod_lt _ hpos'

theorem gathered_eq {tableLen : UInt32} (table : Filled tableLen tablePattern)
    (gathers i : UInt32) :
    gathered gathers tableLen table.cells i = gatherExpected gathers tableLen i := by
  unfold gathered gatherExpected
  congr 1
  funext acc k
  rw [table.getD (gatherIndex_lt table.pos i _)]
  rfl

/-- The indices one lane gathers from, summed. -/
def gatherIndexSum (gathers tableLen i : UInt32) : Nat :=
  ((List.range gathers.toNat).map fun kk => (gatherIndex tableLen i (UInt32.ofNat kk)).toNat).sum

theorem gatherExpected_eq (gathers tableLen i : UInt32) :
    gatherExpected gathers tableLen i =
      UInt32.ofNat (gatherIndexSum gathers tableLen i) * tableInit := by
  have hfold : ∀ (kks : List Nat) (n : Nat),
      kks.foldl (fun acc kk => acc + gatherIndex tableLen i (UInt32.ofNat kk) * tableInit)
          (UInt32.ofNat n * tableInit) =
        UInt32.ofNat (n + (kks.map fun kk =>
          (gatherIndex tableLen i (UInt32.ofNat kk)).toNat).sum) * tableInit := by
    intro kks
    induction kks with
    | nil => intro n; rfl
    | cons kk kks ih =>
      intro n
      rw [List.foldl_cons, List.map_cons, List.sum_cons, ← Nat.add_assoc, ← ih, UInt32.ofNat_add,
        UInt32.ofNat_toNat, add_mul]
  have := hfold (List.range gathers.toNat) 0
  rw [Nat.zero_add] at this
  unfold gatherExpected gatherIndexSum
  rw [← this]
  congr 1

/-- The multiplier is odd, so only a sum of indices that vanishes gives a zero answer. -/
theorem gatherExpected_eq_zero_iff (gathers tableLen i : UInt32) :
    gatherExpected gathers tableLen i = 0 ↔ 2 ^ 32 ∣ gatherIndexSum gathers tableLen i := by
  have hinverse : tableInit * 3066638151 = 1 := by decide +kernel
  have hword : UInt32.ofNat (gatherIndexSum gathers tableLen i) = 0 ↔
      2 ^ 32 ∣ gatherIndexSum gathers tableLen i := by
    rw [← UInt32.toNat_inj, UInt32.toNat_ofNat']
    exact (Nat.dvd_iff_mod_eq_zero).symm
  rw [gatherExpected_eq, ← hword]
  constructor
  · intro h
    have := congrArg (· * 3066638151) h
    simpa [mul_assoc, hinverse] using this
  · intro h
    rw [h, zero_mul]

/-- A lane that never leaves the chain hops along the step it was filled with. -/
theorem iterate_chase {m : Nat} {len : UInt32} (hlen : len = UInt32.ofNat (2 ^ m)) (hm : m < 32)
    (chain : Filled len (chainStep (maskOf m))) (n : Nat) {x : UInt32}
    (hx : x &&& maskOf m = x) :
    (fun idx => chain.cells.getD idx.toNat 0 &&& maskOf m)^[n] x =
      (chainStep (maskOf m))^[n] x := by
  have hsize : 2 ^ m < 2 ^ 32 := Nat.pow_lt_pow_right (by decide) hm
  have hpos := Nat.two_pow_pos m
  refine iterate_eq_chainStep hm.le (fun y hy => ?_) n ((le_maskOf_iff hm.le).mpr hx)
  have hinside : y < len := by
    rw [UInt32.le_iff_toNat_le, maskOf, UInt32.toNat_ofNat', Nat.mod_eq_of_lt (by omega)] at hy
    rw [UInt32.lt_iff_toNat_lt, hlen, UInt32.toNat_ofNat', Nat.mod_eq_of_lt hsize]
    omega
  rw [chain.getD hinside, and_maskOf_chainStep]

theorem chaseExpected_eq {m : Nat} (hm : m ≤ 32) (lanes steps : UInt32) :
    chaseExpected lanes steps (maskOf m) = (List.range lanes.toNat).map fun i =>
      (chainStep (maskOf m))^[steps.toNat] (chainStep (maskOf m) (UInt32.ofNat i)) := by
  unfold chaseExpected
  apply List.map_congr_left
  intro i _
  have hjump := actMod_affinePowMod hm steps.toUInt64
    (and_maskOf_chainStep (m := m) (UInt32.ofNat i))
  rw [UInt32.toNat_toUInt64] at hjump
  exact hjump

/-- `chain[i] = (i * CHAIN_CP + CHAIN_CQ) & mask`, for `i` up to `mask`. -/
def chainTable (mask : UInt32) : List UInt32 :=
  (List.range (mask.toNat + 1)).map fun i => chainStep mask (UInt32.ofNat i)

/-- `idx = chain[idx] & p.mask`. -/
def hop (chain : List UInt32) (mask idx : UInt32) : UInt32 := chain.getD idx.toNat 0 &&& mask

/-- The cells of a table of `mask + 1`. -/
def cellsUpTo (mask : UInt32) : Set UInt32 := {i | i ≤ mask}

variable {m : Nat}

/-- The fill leaves the table in every buffer of a power of two of cells. -/
theorem Filled.cells_eq_chainTable {len : UInt32}
    (chain : Filled len (chainStep (len - 1))) : chain.cells = chainTable (len - 1) := by
  have hpos : 0 < len.toNat := UInt32.lt_iff_toNat_lt.mp chain.pos
  have hone : (1 : UInt32).toNat = 1 := rfl
  have hle : (1 : UInt32) ≤ len := by
    rw [UInt32.le_iff_toNat_le, hone]
    omega
  have hlast : (len - 1).toNat + 1 = len.toNat := by
    rw [UInt32.toNat_sub_of_le _ _ hle, hone]
    omega
  rw [chain.cells_eq]
  unfold chainTable
  rw [hlast]

/-- Inside the table a hop is the step it was filled with. -/
theorem hop_chainTable {mask x : UInt32} (hx : x ≤ mask) :
    hop (chainTable mask) mask x = chainStep mask x := by
  have hlt : x.toNat < mask.toNat + 1 := Nat.lt_succ_of_le (UInt32.le_iff_toNat_le.mp hx)
  unfold hop chainTable
  rw [List.getD_eq_getElem?_getD, List.getElem?_map, List.getElem?_range hlt]
  simp only [Option.map_some, Option.getD_some, UInt32.ofNat_toNat]
  unfold chainStep
  rw [UInt32.and_assoc, UInt32.and_self]

theorem iterate_hop (hm : m ≤ 32) (n : Nat) {x : UInt32} (hx : x ≤ maskOf m) :
    (hop (chainTable (maskOf m)) (maskOf m))^[n] x = (chainStep (maskOf m))^[n] x :=
  iterate_eq_chainStep hm (fun _ => hop_chainTable) n hx

theorem isUnit_chainCp (m : Nat) : IsUnit (chainCp.toNat : ZMod (2 ^ m)) := by
  have hodd : Nat.Coprime chainCp.toNat 2 := by decide
  exact (ZMod.isUnit_iff_coprime _ _).mpr (hodd.pow_right m)

/-- The multiplier is odd, so two cells never lead to one. -/
theorem injOn_chainStep (hm : m ≤ 32) :
    Set.InjOn (chainStep (maskOf m)) (cellsUpTo (maskOf m)) := by
  intro x hx y hy hxy
  have hres : residue hm (chainStep (maskOf m) x) = residue hm (chainStep (maskOf m) y) :=
    congrArg _ hxy
  rw [residue_chainStep, residue_chainStep] at hres
  have hcancel : residue hm x = residue hm y :=
    (isUnit_chainCp m).mul_left_cancel (add_right_cancel hres)
  have hmasked : x &&& maskOf m = y &&& maskOf m := (and_mask_eq_iff hm).mpr hcancel
  rw [(le_maskOf_iff hm).mp hx, (le_maskOf_iff hm).mp hy] at hmasked
  exact hmasked

theorem bijOn_chainStep (hm : m ≤ 32) :
    Set.BijOn (chainStep (maskOf m)) (cellsUpTo (maskOf m)) (cellsUpTo (maskOf m)) := by
  have hmaps : Set.MapsTo (chainStep (maskOf m)) (cellsUpTo (maskOf m)) (cellsUpTo (maskOf m)) :=
    fun x _ => (le_maskOf_iff hm).mpr (and_maskOf_chainStep x)
  exact ((Set.toFinite _).injOn_iff_bijOn_of_mapsTo hmaps).mp (injOn_chainStep hm)

/-- Both jump-aheads are exact, and the table of a chase is a permutation, so that lanes which
start apart stay apart. -/
theorem jump_ahead_exact (k : Nat) (hk : k ≤ 32) :
    (∀ (n : UInt64) (x : UInt32),
      (lcgPow n).1 * x + (lcgPow n).2 = (fun x => c1 * x + c2)^[n.toNat] x) ∧
    (∀ (n : UInt64) (s : UInt32), s ≤ maskOf k →
      ((affinePowMod n (maskOf k)).1 * s + (affinePowMod n (maskOf k)).2) &&& maskOf k =
        (hop (chainTable (maskOf k)) (maskOf k))^[n.toNat] s) ∧
    Set.BijOn (chainStep (maskOf k)) (cellsUpTo (maskOf k)) (cellsUpTo (maskOf k)) ∧
    (∀ n : Nat, Set.InjOn (hop (chainTable (maskOf k)) (maskOf k))^[n] (cellsUpTo (maskOf k))) := by
  refine ⟨fun n x => ?_, fun n s hs => ?_, bijOn_chainStep hk, fun n => ?_⟩
  · have hjump := act_lcgPow n x
    rw [← act_lcg] at hjump
    exact hjump
  · have hjump := actMod_affinePowMod hk n ((le_maskOf_iff hk).mp hs)
    rw [iterate_hop hk n.toNat hs]
    exact hjump
  · have hstays : Set.EqOn (chainStep (maskOf k))^[n]
        (hop (chainTable (maskOf k)) (maskOf k))^[n] (cellsUpTo (maskOf k)) :=
      fun x hx => (iterate_hop hk n hx).symm
    exact ((bijOn_chainStep hk).iterate n).injOn.congr hstays

theorem jump_ahead_exact_sixteen :
    (1 : UInt32) ≤ maskOf 4 ∧ ((affinePowMod 5 (maskOf 4)).1 * 1 +
      (affinePowMod 5 (maskOf 4)).2) &&& maskOf 4 =
        (hop (chainTable (maskOf 4)) (maskOf 4))^[(5 : UInt64).toNat] 1 :=
  ⟨by decide, (jump_ahead_exact 4 (by decide)).2.1 5 1 (by decide)⟩

end Nidavellir.GpuStress
