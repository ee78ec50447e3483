import Nidavellir.JumpAhead

namespace Nidavellir.GpuStress

open Dispatch AffinePower

def differing (output expected : List UInt32) : Nat :=
  (output.zip expected).countP fun lane => lane.1 ≠ lane.2

theorem countMismatches_eq (output expected : List UInt32) :
    countMismatches output expected = UInt32.ofNat (differing output expected) := by
  have hfold : ∀ (lanes : List (UInt32 × UInt32)) (n : Nat),
      lanes.foldl (fun n lane => if lane.1 ≠ lane.2 then n + 1 else n) (UInt32.ofNat n) =
        UInt32.ofNat (n + lanes.countP fun lane => lane.1 ≠ lane.2) := by
    intro lanes
    induction lanes with
    | nil => intro n; rfl
    | cons lane lanes ih =>
      intro n
      rw [List.foldl_cons, List.countP_cons]
      by_cases hlane : lane.1 = lane.2
      · simpa [hlane] using ih n
      · have hone : UInt32.ofNat n + 1 = UInt32.ofNat (n + 1) := by rw [UInt32.ofNat_add]; rfl
        have hnext := ih (n + 1)
        rw [← hone] at hnext
        simp only [ne_eq, hlane, not_false_eq_true, if_true, decide_true] at hnext ⊢
        rw [hnext]
        congr 1
        omega
  have := hfold (output.zip expected) 0
  rw [Nat.zero_add] at this
  exact this

theorem countMismatches_eq_zero_iff (output expected : List UInt32) :
    countMismatches output expected = 0 ↔ 2 ^ 32 ∣ differing output expected := by
  rw [countMismatches_eq, ← UInt32.toNat_inj, UInt32.toNat_ofNat']
  exact (Nat.dvd_iff_mod_eq_zero).symm

theorem differing_le (output expected : List UInt32) :
    differing output expected ≤ expected.length := by
  have h := List.countP_le_length (p := fun lane : UInt32 × UInt32 => decide (lane.1 ≠ lane.2))
    (l := output.zip expected)
  rw [List.length_zip] at h
  exact h.trans (Nat.min_le_right _ _)

theorem differing_eq_zero_iff {output expected : List UInt32}
    (hlen : output.length = expected.length) :
    differing output expected = 0 ↔ output = expected := by
  induction output generalizing expected with
  | nil =>
    have : expected = [] := List.length_eq_zero_iff.mp hlen.symm
    simp [this, differing]
  | cons x output ih =>
    rcases expected with _ | ⟨y, expected⟩
    · simp at hlen
    · have hrest : differing output expected = 0 ↔ output = expected := ih (by simpa using hlen)
      unfold differing at *
      rw [List.zip_cons_cons, List.countP_cons]
      by_cases hxy : x = y
      · simp [hxy, ← hrest]
      · simp [hxy]

theorem differing_self (expected : List UInt32) : differing expected expected = 0 :=
  (differing_eq_zero_iff rfl).mpr rfl

/-- A count that cannot wrap misses no wrong lane. -/
theorem eq_of_dvd_differing {output expected : List UInt32}
    (hlen : output.length = expected.length) (hshort : expected.length < 2 ^ 32)
    (h : 2 ^ 32 ∣ differing output expected) : output = expected := by
  by_contra hne
  have hpos : differing output expected ≠ 0 := fun h => hne ((differing_eq_zero_iff hlen).mp h)
  have hle := differing_le output expected
  have := Nat.le_of_dvd (by omega) h
  omega

/-- As many lanes as one likes can be wrong. -/
theorem exists_differing (expected : List UInt32) {n : Nat} (hn : n ≤ expected.length) :
    ∃ output : List UInt32, output.length = expected.length ∧ differing output expected = n := by
  induction expected generalizing n with
  | nil => exact ⟨[], rfl, by simp at hn; simp [hn, differing]⟩
  | cons y expected ih =>
    rcases n with _ | n
    · exact ⟨y :: expected, rfl, differing_self _⟩
    · obtain ⟨output, hlen, hdiff⟩ := ih (n := n) (by simpa using hn)
      refine ⟨(y + 1) :: output, by simp [hlen], ?_⟩
      have hne : y + 1 ≠ y := by
        intro h
        have := congrArg (· - y) h
        simp at this
      unfold differing at *
      rw [List.zip_cons_cons, List.countP_cons, hdiff]
      simp [hne]

theorem saturatingAdd_eq_zero_iff {x y : UInt32} : saturatingAdd x y = 0 ↔ x = 0 ∧ y = 0 := by
  unfold saturatingAdd
  constructor
  · intro h
    split at h
    next => cases h
    next hfits =>
      rw [h] at hfits
      obtain rfl : x = 0 := UInt32.le_zero_iff.mp (UInt32.not_lt.mp hfits)
      rw [UInt32.zero_add] at h
      exact ⟨rfl, h⟩
  · rintro ⟨rfl, rfl⟩
    rfl

/-- The buffer of a faultless run is the known answer and passes; a buffer of the size that differs
from it does not. -/
structure Answers {β : Type} (Final Sized : β → Prop) (expected : β)
    (result : β → StabilityResult) : Prop where
  noFalseAlarm : ∀ buffer, Final buffer → buffer = expected ∧ result buffer = .stable
  noneMissed : ∀ buffer, Sized buffer → buffer ≠ expected → result buffer ≠ .stable

/-- A run on a device that raised no error. -/
def faultless (k : Nat) (elapsedMs : UInt64) : Submission :=
  { k := UInt64.ofNat k, crashed := false, elapsedMs := elapsedMs }

theorem verdict_stable_iff (mismatches : UInt32) :
    verdict false mismatches true = .stable ↔ mismatches = 0 := by
  unfold verdict
  by_cases h : mismatches = 0 <;> simp [h]

theorem stageReport_result (name : String) (expected output : List UInt32) (k : Nat)
    (elapsedMs : UInt64) :
    (stageReport name expected (faultless k elapsedMs) (some output)).result =
      verdict false (countMismatches output expected) true := rfl

theorem stageReport_stable_iff (name : String) (expected output : List UInt32) (k : Nat)
    (elapsedMs : UInt64) :
    (stageReport name expected (faultless k elapsedMs) (some output)).result = .stable ↔
      2 ^ 32 ∣ differing output expected := by
  rw [← countMismatches_eq_zero_iff, stageReport_result]
  exact verdict_stable_iff _

/-- A stage answers when its faultless buffer is the known answer and the counter cannot wrap. -/
theorem answers_stageReport_iff (Final : List UInt32 → Prop) (name : String)
    {expected : List UInt32} {n : Nat} (hsize : expected.length = n) (k : Nat)
    (elapsedMs : UInt64) :
    Answers Final (fun output => output.length = n) expected
        (fun output => (stageReport name expected (faultless k elapsedMs) (some output)).result) ↔
      (∀ output, Final output → output = expected) ∧ n < 2 ^ 32 := by
  subst hsize
  constructor
  · intro h
    refine ⟨fun output hfinal => (h.noFalseAlarm output hfinal).1, ?_⟩
    by_contra hlong
    obtain ⟨output, hlen, hdiff⟩ := exists_differing expected (Nat.le_of_not_lt hlong)
    have hne : output ≠ expected := by
      intro heq
      rw [heq, differing_self] at hdiff
      exact absurd hdiff (by decide)
    refine h.noneMissed output hlen hne ((stageReport_stable_iff ..).mpr ?_)
    rw [hdiff]
  · rintro ⟨hfinal, hshort⟩
    constructor
    · intro output hout
      refine ⟨hfinal output hout, (stageReport_stable_iff ..).mpr ?_⟩
      rw [hfinal output hout, differing_self]
      exact dvd_zero _
    · intro output hlen hne hstable
      exact hne (eq_of_dvd_differing hlen hshort ((stageReport_stable_iff ..).mp hstable))

end Nidavellir.GpuStress
