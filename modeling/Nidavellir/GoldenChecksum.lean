import Mathlib.Algebra.BigOperators.Fin
import Nidavellir.StageBuffers

namespace Nidavellir.GpuStress

open Dispatch
open scoped UInt32.CommRing

def fnvBasis : UInt32 := 2166136261
def fnvPrime : UInt32 := 16777619

/-- `h = (h ^ (buf[i] ^ (i * 2654435761u))) * 16777619u`. -/
def hashRound (i h word : UInt32) : UInt32 := (h ^^^ (word ^^^ i * hash1)) * fnvPrime

/-- The `while` loop of one lane on the host, whose counter is a `usize`. -/
def reduceLane (buf : List UInt32) {lanes : Nat} (hlanes : 0 < lanes) (i : Nat) (h : UInt32) :
    UInt32 :=
  if hi : i < buf.length then
    reduceLane buf hlanes (i + lanes) (hashRound (UInt32.ofNat i) h buf[i])
  else h
termination_by buf.length - i

def laneHash (buf : List UInt32) {lanes : Nat} (lane : Fin lanes) : UInt32 :=
  reduceLane buf lane.pos lane fnvBasis

def reduce3ChecksumCpu (buf : List UInt32) (lanes : UInt32) : UInt32 :=
  (List.finRange lanes.toNat).foldl (fun total lane => total + laneHash buf lane) 0

/-- The loop of one invocation on the device, whose counter is a word and wraps. -/
def hashStride (n stride : UInt32) (buf : List UInt32) : Nat → UInt32 → UInt32 → Option UInt32
  | 0, _, _ => none
  | fuel + 1, i, h =>
    if n ≤ i then some h
    else hashStride n stride buf fuel (i + stride) (hashRound i h (buf.getD i.toNat 0))

/-- `atomicAdd(&res, h)` after the loop, as long as every loop so far has ended. -/
def reduce3Shader (n groups : UInt32) (buf : List UInt32) (fuel i : Nat) (res : Option UInt32) :
    Option UInt32 :=
  res.bind fun total =>
    (hashStride n (groups * 64) buf fuel (UInt32.ofNat i) fnvBasis).map (total + ·)

/-- Two buffers of one length that differ in one word. -/
structure DiffersInOne (buf buf' : List UInt32) (p : Nat) : Prop where
  length : buf.length = buf'.length
  inside : p < buf.length
  differs : buf[p]? ≠ buf'[p]?
  others : ∀ j ≠ p, buf[j]? = buf'[j]?

theorem mul_fnvPrime_inj {x y : UInt32} : x * fnvPrime = y * fnvPrime ↔ x = y := by
  have hinverse : fnvPrime * 899433627 = 1 := by decide
  constructor
  · intro h
    have := congrArg (· * 899433627) h
    simpa [mul_assoc, hinverse] using this
  · intro h
    rw [h]

theorem hashRound_state_inj (i : UInt32) {h h' word : UInt32} :
    hashRound i h word = hashRound i h' word ↔ h = h' := by
  unfold hashRound
  rw [mul_fnvPrime_inj, UInt32.xor_left_inj]

theorem hashRound_word_inj (i : UInt32) {h word word' : UInt32} :
    hashRound i h word = hashRound i h word' ↔ word = word' := by
  unfold hashRound
  rw [mul_fnvPrime_inj, UInt32.xor_right_inj, UInt32.xor_left_inj]

section Lane

variable {buf buf' : List UInt32} {lanes : Nat} {hlanes : 0 < lanes} {i p : Nat} {h h' : UInt32}

theorem reduceLane_of_lt (hi : i < buf.length) :
    reduceLane buf hlanes i h =
      reduceLane buf hlanes (i + lanes) (hashRound (UInt32.ofNat i) h buf[i]) := by
  rw [reduceLane, dif_pos hi]

theorem reduceLane_of_le (hi : buf.length ≤ i) : reduceLane buf hlanes i h = h := by
  rw [reduceLane, dif_neg (by omega)]

/-- Words the lane does not read leave its hash alone. -/
theorem reduceLane_congr (hlen : buf.length = buf'.length)
    (hsame : ∀ t, buf[i + t * lanes]? = buf'[i + t * lanes]?) :
    reduceLane buf hlanes i h = reduceLane buf' hlanes i h := by
  induction i, h using reduceLane.induct buf hlanes with
  | case1 i h hi ih =>
    have hi' : i < buf'.length := by omega
    have hword : buf[i] = buf'[i] := by
      have := hsame 0
      simpa [hi, hi'] using this
    have htail : ∀ t, buf[i + lanes + t * lanes]? = buf'[i + lanes + t * lanes]? := by
      intro t
      have := hsame (t + 1)
      rwa [Nat.succ_mul, Nat.add_comm (t * lanes), ← Nat.add_assoc] at this
    rw [reduceLane_of_lt hi, reduceLane_of_lt hi', ← hword]
    exact ih htail
  | case2 i h hi => rw [reduceLane_of_le (by omega), reduceLane_of_le (by omega)]

/-- A difference of the state stays one through any tail. -/
theorem reduceLane_state_inj (heq : reduceLane buf hlanes i h = reduceLane buf hlanes i h') :
    h = h' := by
  induction i, h using reduceLane.induct buf hlanes generalizing h' with
  | case1 i h hi ih =>
    rw [reduceLane_of_lt hi, reduceLane_of_lt hi] at heq
    exact (hashRound_state_inj _).mp (ih heq)
  | case2 i h hi =>
    rw [reduceLane_of_le (by omega), reduceLane_of_le (by omega)] at heq
    exact heq

/-- The lane that reads the corrupted word ends apart. -/
theorem reduceLane_ne (hdiff : DiffersInOne buf buf' p) (t : Nat) (hp : p = i + t * lanes) :
    reduceLane buf hlanes i h ≠ reduceLane buf' hlanes i h := by
  have hinside := hdiff.inside
  have hlen := hdiff.length
  induction t generalizing i h with
  | zero =>
    obtain rfl : p = i := by omega
    have hinside' : p < buf'.length := by omega
    have hword : buf[p] ≠ buf'[p] := by
      have := hdiff.differs
      simpa [hinside, hinside'] using this
    have htail : ∀ t, buf[p + lanes + t * lanes]? = buf'[p + lanes + t * lanes]? :=
      fun t => hdiff.others _ (by omega)
    rw [reduceLane_of_lt hinside, reduceLane_of_lt hinside', ← reduceLane_congr hlen htail]
    intro heq
    exact hword ((hashRound_word_inj _).mp (reduceLane_state_inj heq))
  | succ t ih =>
    have hsucc : (t + 1) * lanes = t * lanes + lanes := Nat.succ_mul t lanes
    have hi : i < buf.length := by omega
    have hi' : i < buf'.length := by omega
    have hword : buf[i] = buf'[i] := by
      have := hdiff.others i (by omega)
      simpa [hi, hi'] using this
    rw [reduceLane_of_lt hi, reduceLane_of_lt hi', ← hword]
    exact ih (by omega)

/-- Every other lane ends where it did. -/
theorem reduceLane_eq (hdiff : DiffersInOne buf buf' p) (hi : i < lanes) (hlane : i ≠ p % lanes) :
    reduceLane buf hlanes i h = reduceLane buf' hlanes i h := by
  apply reduceLane_congr hdiff.length
  intro t
  apply hdiff.others
  rintro rfl
  rw [Nat.add_mul_mod_self_right, Nat.mod_eq_of_lt hi] at hlane
  exact hlane rfl

end Lane

section Total

variable {buf buf' : List UInt32} {lanes : UInt32} {p : Nat}

theorem foldl_add_eq_sum {α : Type} (f : α → UInt32) (order : List α) (total : UInt32) :
    order.foldl (fun total lane => total + f lane) total = total + (order.map f).sum := by
  induction order generalizing total with
  | nil => simp
  | cons lane order ih => rw [List.foldl_cons, ih, List.map_cons, List.sum_cons, add_assoc]

theorem reduce3ChecksumCpu_eq_sum (buf : List UInt32) (lanes : UInt32) :
    reduce3ChecksumCpu buf lanes = ∑ lane : Fin lanes.toNat, laneHash buf lane := by
  unfold reduce3ChecksumCpu
  rw [foldl_add_eq_sum, zero_add, Fin.sum_univ_def]

/-- The lanes may end in any order. -/
theorem foldl_eq_reduce3ChecksumCpu {order : List (Fin lanes.toNat)}
    (hperm : order.Perm (List.finRange lanes.toNat)) :
    order.foldl (fun total lane => total + laneHash buf lane) 0 =
      reduce3ChecksumCpu buf lanes := by
  unfold reduce3ChecksumCpu
  rw [foldl_add_eq_sum, foldl_add_eq_sum, (hperm.map _).sum_eq]

theorem reduce3ChecksumCpu_ne (hlanes : 0 < lanes.toNat) (hdiff : DiffersInOne buf buf' p) :
    reduce3ChecksumCpu buf lanes ≠ reduce3ChecksumCpu buf' lanes := by
  obtain ⟨own, hown⟩ : ∃ own : Fin lanes.toNat, (own : Nat) = p % lanes.toNat :=
    ⟨⟨p % lanes.toNat, Nat.mod_lt _ hlanes⟩, rfl⟩
  have hapart : laneHash buf own ≠ laneHash buf' own := by
    refine reduceLane_ne hdiff (p / lanes.toNat) ?_
    have := Nat.mod_add_div' p lanes.toNat
    omega
  have hrest : ∑ lane ∈ Finset.univ.erase own, laneHash buf lane =
      ∑ lane ∈ Finset.univ.erase own, laneHash buf' lane := by
    apply Finset.sum_congr rfl
    intro lane hlane
    have hother : (lane : Nat) ≠ p % lanes.toNat := by
      intro heq
      exact Finset.ne_of_mem_erase hlane (Fin.ext (heq.trans hown.symm))
    exact reduceLane_eq hdiff lane.isLt hother
  rw [reduce3ChecksumCpu_eq_sum, reduce3ChecksumCpu_eq_sum,
    ← Finset.add_sum_erase _ _ (Finset.mem_univ own),
    ← Finset.add_sum_erase _ (laneHash buf') (Finset.mem_univ own), hrest]
  intro heq
  exact hapart (add_right_cancel heq)

end Total

section Shader

variable {n groups stride : UInt32} {buf : List UInt32} {fuel : Nat}

/-- While the counter has room for one more stride past the end, the device's loop is the
host's. -/
theorem hashStride_eq (hlen : buf.length = n.toNat) (hstride : 0 < stride.toNat)
    (hroom : n.toNat + stride.toNat ≤ 2 ^ 32) (i h : UInt32)
    (hfuel : n.toNat - i.toNat < fuel) :
    hashStride n stride buf fuel i h = some (reduceLane buf hstride i.toNat h) := by
  induction fuel generalizing i h with
  | zero => omega
  | succ fuel ih =>
    rw [hashStride]
    by_cases hi : n ≤ i
    · rw [if_pos hi, reduceLane_of_le (by rw [hlen]; exact UInt32.le_iff_toNat_le.mp hi)]
    · have hlt : i.toNat < n.toNat := by
        rw [UInt32.le_iff_toNat_le] at hi
        omega
      have hinside : i.toNat < buf.length := by omega
      have hnext : (i + stride).toNat = i.toNat + stride.toNat := by
        rw [UInt32.toNat_add, Nat.mod_eq_of_lt (by omega)]
      rw [if_neg hi, ih _ _ (by omega), reduceLane_of_lt hinside, hnext, UInt32.ofNat_toNat,
        List.getD_eq_getElem?_getD, List.getElem?_eq_getElem hinside, Option.getD_some]

/-- More fuel changes nothing once the loop has ended. -/
theorem hashStride_more {i h result : UInt32}
    (hends : hashStride n stride buf fuel i h = some result) (more : Nat) :
    hashStride n stride buf (fuel + more) i h = some result := by
  induction fuel generalizing i h with
  | zero => cases hends
  | succ fuel ih =>
    rw [Nat.succ_add, hashStride]
    rw [hashStride] at hends
    by_cases hi : n ≤ i
    · rw [if_pos hi] at hends ⊢
      exact hends
    · rw [if_neg hi] at hends ⊢
      exact ih hends

/-- Where the stride divides the range of the counter, a loop that starts on a multiple of it
either ends by itself or comes round again and never does. -/
theorem room_of_ends (hdvd : stride.toNat ∣ 2 ^ 32) {i h result : UInt32}
    (hi : stride.toNat ∣ i.toNat)
    (hends : hashStride n stride buf fuel i h = some result) :
    n.toNat + stride.toNat ≤ 2 ^ 32 := by
  induction fuel generalizing i h with
  | zero => cases hends
  | succ fuel ih =>
    rw [hashStride] at hends
    split at hends
    next hpast =>
      have hpast := UInt32.le_iff_toNat_le.mp hpast
      have hlast := Nat.le_of_dvd (by have := i.toNat_lt; omega) (Nat.dvd_sub hdvd hi)
      have := i.toNat_lt
      omega
    next =>
      have hnext : stride.toNat ∣ (i + stride).toNat := by
        rw [UInt32.toNat_add]
        exact (Nat.dvd_mod_iff hdvd).mpr (Nat.dvd_add hi (Nat.dvd_refl _))
      exact ih hnext hends

/-- Lanes that each end leave their sum behind. -/
theorem foldl_reduce3Shader {g : Nat → UInt32} {order : List Nat}
    (hends : ∀ i ∈ order,
      hashStride n (groups * 64) buf fuel (UInt32.ofNat i) fnvBasis = some (g i))
    (total : UInt32) :
    order.foldl (fun res i => reduce3Shader n groups buf fuel i res) (some total) =
      some (total + (order.map g).sum) := by
  induction order generalizing total with
  | nil => simp
  | cons i order ih =>
    have hone : reduce3Shader n groups buf fuel i (some total) = some (total + g i) := by
      unfold reduce3Shader
      rw [Option.bind_some, hends i List.mem_cons_self, Option.map_some]
    rw [List.foldl_cons, hone, ih fun j hj => hends j (List.mem_cons_of_mem _ hj), List.map_cons,
      List.sum_cons, add_assoc]

theorem foldl_reduce3Shader_none (order : List Nat) :
    order.foldl (fun res i => reduce3Shader n groups buf fuel i res) none = none := by
  induction order with
  | nil => rfl
  | cons i order ih => exact ih

/-- A pass that completed saw every loop end. -/
theorem ends_of_foldl {order : List Nat} {total sum : UInt32}
    (h : order.foldl (fun res i => reduce3Shader n groups buf fuel i res) (some total) =
      some sum) :
    ∀ i ∈ order, ∃ result,
      hashStride n (groups * 64) buf fuel (UInt32.ofNat i) fnvBasis = some result := by
  induction order generalizing total with
  | nil => intro i hi; cases hi
  | cons j order ih =>
    rw [List.foldl_cons] at h
    cases hone : hashStride n (groups * 64) buf fuel (UInt32.ofNat j) fnvBasis with
    | none =>
      have hstuck : reduce3Shader n groups buf fuel j (some total) = none := by
        unfold reduce3Shader
        rw [Option.bind_some, hone, Option.map_none]
      rw [hstuck, foldl_reduce3Shader_none] at h
      cases h
    | some result =>
      have hstep : reduce3Shader n groups buf fuel j (some total) = some (total + result) := by
        unfold reduce3Shader
        rw [Option.bind_some, hone, Option.map_some]
      rw [hstep] at h
      intro i hi
      rcases List.mem_cons.mp hi with rfl | hi
      · exact ⟨result, hone⟩
      · exact ih h i hi

/-- A grid of whole workgroups whose counter has room for one more stride past the frame. -/
structure Grid (n groups : UInt32) : Prop where
  pos : 0 < groups.toNat
  lanes : groups.toNat * 64 < 2 ^ 32
  room : n.toNat + groups.toNat * 64 ≤ 2 ^ 32

theorem toNat_mul_sixtyFour (hlanes : groups.toNat * 64 < 2 ^ 32) :
    (groups * 64).toNat = groups.toNat * 64 := by
  have h64 : (64 : UInt32).toNat = 64 := rfl
  rw [UInt32.toNat_mul, h64, Nat.mod_eq_of_lt hlanes]

/-- An invocation that ends on such a grid has hashed its lane. -/
theorem laneHash_of_ends (hgrid : Grid n groups) (hlen : buf.length = n.toNat)
    (lane : Fin (groups * 64).toNat) (hfuel : n.toNat < fuel ∨ ∃ result,
      hashStride n (groups * 64) buf fuel (UInt32.ofNat lane) fnvBasis = some result) :
    hashStride n (groups * 64) buf fuel (UInt32.ofNat lane) fnvBasis =
      some (laneHash buf lane) := by
  have hcount := toNat_mul_sixtyFour hgrid.lanes
  have hlane : (UInt32.ofNat (lane : Nat)).toNat = lane := by
    have := lane.isLt
    have := hgrid.lanes
    rw [UInt32.toNat_ofNat', Nat.mod_eq_of_lt (by omega)]
  have hroom : n.toNat + (groups * 64).toNat ≤ 2 ^ 32 := by
    rw [hcount]
    exact hgrid.room
  have henough : ∀ fuel, n.toNat < fuel →
      hashStride n (groups * 64) buf fuel (UInt32.ofNat lane) fnvBasis =
        some (laneHash buf lane) := by
    intro fuel hfuel
    rw [hashStride_eq hlen lane.pos hroom _ _ (by omega), hlane]
    rfl
  rcases hfuel with hfuel | ⟨result, hends⟩
  · exact henough fuel hfuel
  · rw [hends, ← hashStride_more hends (n.toNat + 1), henough _ (by omega)]

/-- In whatever order its lanes end, a pass on such a grid leaves the host's checksum. -/
theorem foldl_reduce3Shader_eq (hgrid : Grid n groups) {order : List Nat}
    (hperm : order.Perm (List.range (groups.toNat * 64)))
    (hends : ∀ lane : Fin (groups * 64).toNat, (lane : Nat) ∈ order →
      hashStride n (groups * 64) buf fuel (UInt32.ofNat lane) fnvBasis =
        some (laneHash buf lane)) :
    order.foldl (fun res i => reduce3Shader n groups buf fuel i res) (some 0) =
      some (reduce3ChecksumCpu buf (groups * 64)) := by
  rw [← toNat_mul_sixtyFour hgrid.lanes, ← List.map_coe_finRange_eq_range] at hperm
  have hall : ∀ i ∈ order,
      hashStride n (groups * 64) buf fuel (UInt32.ofNat i) fnvBasis =
        some (if hi : i < (groups * 64).toNat then laneHash buf ⟨i, hi⟩ else 0) := by
    intro i hi
    obtain ⟨lane, -, rfl⟩ := List.mem_map.mp (hperm.mem_iff.mp hi)
    rw [hends lane hi, dif_pos lane.isLt]
  have hsum := reduce3ChecksumCpu_eq_sum buf (groups * 64)
  rw [Fin.sum_univ_def] at hsum
  rw [foldl_reduce3Shader hall, zero_add, (hperm.map _).sum_eq, List.map_map, hsum]
  congr 2
  apply List.map_congr_left
  intro lane _
  exact dif_pos lane.isLt

theorem reduce3_of_dispatched (hgrid : Grid n groups) (hlen : buf.length = n.toNat)
    (hfuel : n.toNat < fuel) {res : Option UInt32}
    (h : Dispatched (List.range (groups.toNat * 64)) (reduce3Shader n groups buf fuel) (some 0)
      res) :
    res = some (reduce3ChecksumCpu buf (groups * 64)) := by
  obtain ⟨order, hperm, rfl⟩ := h
  exact foldl_reduce3Shader_eq hgrid hperm
    fun lane _ => laneHash_of_ends hgrid hlen lane (.inl hfuel)

/-- The 256 workgroups of the capture end only on a frame that leaves their counter room. -/
theorem grid_of_completed {order : List Nat} {total sum : UInt32} (hzero : 0 ∈ order)
    (h : order.foldl (fun res i => reduce3Shader n 256 buf fuel i res) (some total) =
      some sum) : Grid n 256 := by
  obtain ⟨result, hends⟩ := ends_of_foldl h 0 hzero
  have hroom := room_of_ends (by decide) (by simp) hends
  exact ⟨by decide, by decide, hroom⟩

theorem reduce3_of_completed (hlen : buf.length = n.toNat) {sum : UInt32}
    (h : Dispatched (List.range (256 * 64)) (reduce3Shader n 256 buf fuel) (some 0)
      (some sum)) :
    sum = reduce3ChecksumCpu buf (256 * 64) := by
  obtain ⟨order, hperm, hfold⟩ := h
  have hzero : 0 ∈ order := hperm.mem_iff.mpr (List.mem_range.mpr (by decide))
  have hgrid := grid_of_completed hzero hfold
  have hends := ends_of_foldl hfold
  have hsum := foldl_reduce3Shader_eq hgrid hperm
    fun lane hlane => laneHash_of_ends hgrid hlen lane (.inr (hends lane hlane))
  rw [hfold] at hsum
  exact Option.some.inj hsum

end Shader

theorem differsInOne_set {buf : List UInt32} {p : Nat} {word : UInt32} (hp : p < buf.length)
    (hword : buf[p]? ≠ some word) : DiffersInOne buf (buf.set p word) p where
  length := (List.length_set).symm
  inside := hp
  differs := by
    rw [List.getElem?_set_self hp]
    exact hword
  others := fun _ hj => (List.getElem?_set_ne (Ne.symm hj)).symm

/-- A frame with one word changed has another checksum, on the host and on the device, and the
order in which the lanes end is nowhere in it. -/
theorem reduce3_detects :
    (∀ (lanes : UInt32) (buf buf' : List UInt32) (p : Nat), 1 ≤ lanes →
      DiffersInOne buf buf' p → reduce3ChecksumCpu buf lanes ≠ reduce3ChecksumCpu buf' lanes) ∧
    (∀ (lanes : UInt32) (buf : List UInt32) (order : List (Fin lanes.toNat)),
      order.Perm (List.finRange lanes.toNat) →
      order.foldl (fun total lane => total + laneHash buf lane) 0 =
        reduce3ChecksumCpu buf lanes) ∧
    (∀ (n groups : UInt32) (buf : List UInt32) (fuel : Nat) (res : Option UInt32),
      Grid n groups → buf.length = n.toNat → n.toNat < fuel →
      Dispatched (List.range (groups.toNat * 64)) (reduce3Shader n groups buf fuel) (some 0)
        res → res = some (reduce3ChecksumCpu buf (groups * 64))) ∧
    (∀ (n : UInt32) (buf buf' : List UInt32) (fuel fuel' p : Nat) (sum sum' : UInt32),
      buf.length = n.toNat → DiffersInOne buf buf' p →
      Dispatched (List.range (256 * 64)) (reduce3Shader n 256 buf fuel) (some 0) (some sum) →
      Dispatched (List.range (256 * 64)) (reduce3Shader n 256 buf' fuel') (some 0) (some sum') →
      sum ≠ sum') := by
  refine ⟨fun lanes buf buf' p hlanes hdiff => ?_, fun lanes buf order hperm => ?_,
    fun n groups buf fuel res hgrid hlen hfuel h => ?_, ?_⟩
  · exact reduce3ChecksumCpu_ne (UInt32.le_iff_toNat_le.mp hlanes) hdiff
  · exact foldl_eq_reduce3ChecksumCpu hperm
  · exact reduce3_of_dispatched hgrid hlen hfuel h
  · intro n buf buf' fuel fuel' p sum sum' hlen hdiff h h'
    have hlen' : buf'.length = n.toNat := hdiff.length.symm.trans hlen
    rw [reduce3_of_completed hlen h, reduce3_of_completed hlen' h']
    exact reduce3ChecksumCpu_ne (by decide) hdiff

theorem reduce3_detects_second_word :
    reduce3ChecksumCpu [1, 2, 3] 2 ≠ reduce3ChecksumCpu [1, 7, 3] 2 := by
  have hdiff : DiffersInOne [1, 2, 3] ([1, 2, 3].set 1 7) 1 :=
    differsInOne_set (by decide) (by decide)
  exact reduce3_detects.1 2 _ _ 1 (by decide) hdiff

end Nidavellir.GpuStress
