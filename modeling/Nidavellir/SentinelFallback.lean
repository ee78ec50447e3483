import Nidavellir.SentinelRuns
import Nidavellir.CrashCondemnation
import Nidavellir.FloorDominance

namespace Nidavellir

open Runs SafeLoopStore Envelope

/-- At a condemned clock the floor lies below a height just when every pair at that clock or a lower
one does. -/
theorem floorEnvelope_lt_iff {pts : List (Int × Int)} {clock v : Int} (hkey : (clock, v) ∈ pts)
    (height : Int) :
    (∀ f, floorEnvelope pts clock = some f → f < height) ↔
      ∀ p ∈ pts, p.1 ≤ clock → p.2 < height := by
  obtain ⟨f, hf, -⟩ := floorEnvelope_ge_of_mem hkey
  have hgreatest := (floorEnvelope_eq_some_iff.mp hf).at_key (mem_pointsOf.mpr hkey)
  constructor
  · intro h p hp hle
    have hpf : p.2 ≤ f := hgreatest.2 ⟨p.1, hle, hp⟩
    exact hpf.trans_lt (h f hf)
  · intro h g hg
    obtain rfl := Option.some.inj (hf.symm.trans hg)
    obtain ⟨x, hx, hmem⟩ := hgreatest.1
    exact h (x, f) hmem hx

theorem vfFloorEnvelope_lt_iff {pairs : List (Nat × Nat)} {clockMhz mv : Nat}
    (hkey : (clockMhz, mv) ∈ pairs) (height : Nat) :
    (∀ f, vfFloorEnvelope pairs clockMhz = some f → f < height) ↔
      ∀ p ∈ pairs, p.1 ≤ clockMhz → p.2 < height := by
  have hkey' : ((clockMhz : Int), (mv : Int)) ∈ pairs.map toClockMv := List.mem_map_of_mem hkey
  have hiff := floorEnvelope_lt_iff hkey' height
  constructor
  · intro h p hp hle
    have hall := hiff.mp ?_ (toClockMv p) (List.mem_map_of_mem hp) (Int.ofNat_le.mpr hle)
    · exact Int.ofNat_lt.mp hall
    · intro f hf
      obtain ⟨f, rfl⟩ := Int.eq_ofNat_of_zero_le (floorEnvelope_toClockMv_nonneg hf)
      exact Int.ofNat_lt.mpr (h f (vfFloorEnvelope_eq_some_iff.mpr hf))
  · intro h f hf
    refine Int.ofNat_lt.mp (hiff.mpr ?_ f (vfFloorEnvelope_eq_some_iff.mp hf))
    intro p hp hle
    obtain ⟨q, hq, rfl⟩ := List.mem_map.mp hp
    exact Int.ofNat_lt.mpr (h q hq (Int.ofNat_le.mp hle))

theorem pairIntent_fieldPair (targetMhz anchorMv : Nat) (r : Int) :
    (BlacklistRegion.around (pairIntent targetMhz anchorMv) r).fieldPair =
      some ((targetMhz : Int), (anchorMv : Int)) := by
  simp [BlacklistRegion.fieldPair, BlacklistRegion.around, pairIntent, TuningPoint.fromAxes,
    Finmap.lookup_insert_of_ne]

/-- Two anchors of one clock share a region when they are within its radius. -/
theorem pairIntent_contains_iff (targetMhz anchorMv other : Nat) :
    (BlacklistRegion.around (pairIntent targetMhz anchorMv) defaultBlacklistRadius).contains
        (pairIntent targetMhz other) ↔
      ((anchorMv : Int) - other).natAbs ≤ defaultBlacklistRadius := by
  rw [BlacklistRegion.contains_around_iff]
  simp only [pairIntent_setting]
  constructor
  · intro h
    simpa using h "gpu_vf_bin_mv"
  · intro h key
    by_cases hmv : key = "gpu_vf_bin_mv"
    · simpa [hmv] using h
    · simp [hmv]

/-- The new anchor lies above everything that the record and the ledger already hold against it, and
outside the radius of the failed pair. -/
structure ClearsHistory (record : SafeLoopRecord) (condemned : CondemnedPairs)
    (failed : Nat × Nat) (newAnchorMv : Nat) : Prop where
  region : record.isBlacklisted (pairIntent failed.1 newAnchorMv) = false
  radius : failed.2 + defaultBlacklistRadius < newAnchorMv
  field : ∀ p ∈ fieldPairs record, p.1 ≤ (failed.1 : Int) → p.2 < (newAnchorMv : Int)
  rigid : ∀ p ∈ condemned.rigid, p.1 ≤ failed.1 → p.2 < newAnchorMv
  quarantine : ∀ f, vfFloorEnvelope condemned.quarantine failed.1 = some f → f ≤ newAnchorMv

section Persisted

variable (dir : DataDir) (ledger : List CondemnationEvent) (gpuKey timestamp note : String)
  (failed : Nat × Nat)

/-- The record knows the region of the failed pair, and nothing else that it did not know. -/
theorem persistFieldFailure_any (p : BlacklistRegion → Prop) :
    (∃ region ∈ (loadRecord (persistFieldFailure failed.1 failed.2 .done dir)).blacklist,
        p region) ↔
      (∃ region ∈ (loadRecord dir).blacklist, p region) ∨
        p (.around (pairIntent failed.1 failed.2) defaultBlacklistRadius) := by
  have hself := (persistFieldFailure_blacklist dir failed.1 failed.2).1
  unfold persistFieldFailure at hself ⊢
  dsimp only at hself ⊢
  split at hself
  next hknown =>
    rw [if_pos hknown]
    refine ⟨Or.inl, ?_⟩
    rintro (hold | hnew)
    · exact hold
    · exact ⟨_, hself, hnew⟩
  next hknown =>
    rw [if_neg hknown, loadRecord_saveRecord_done]
    simp only [List.mem_append, List.mem_singleton, or_and_right, exists_or]
    exact or_congr_right ⟨by rintro ⟨_, rfl, h⟩; exact h, fun h => ⟨_, rfl, h⟩⟩

theorem mem_fieldPairs_persist {q : Int × Int} :
    q ∈ fieldPairs (loadRecord (persistFieldFailure failed.1 failed.2 .done dir)) ↔
      q ∈ fieldPairs (loadRecord dir) ∨ q = ((failed.1 : Int), (failed.2 : Int)) := by
  have hany := persistFieldFailure_any dir failed (·.fieldPair = some q)
  rw [pairIntent_fieldPair] at hany
  simp only [fieldPairs, List.mem_filterMap]
  rw [hany, Option.some.injEq, eq_comm (a := q)]

theorem isBlacklisted_persist_iff (newAnchorMv : Nat) :
    (loadRecord (persistFieldFailure failed.1 failed.2 .done dir)).isBlacklisted
        (pairIntent failed.1 newAnchorMv) ↔
      (loadRecord dir).isBlacklisted (pairIntent failed.1 newAnchorMv) ∨
        ((failed.2 : Int) - newAnchorMv).natAbs ≤ defaultBlacklistRadius := by
  have hany := persistFieldFailure_any dir failed
    (·.contains (pairIntent failed.1 newAnchorMv) = true)
  rw [pairIntent_contains_iff] at hany
  simpa only [SafeLoopRecord.isBlacklisted, List.any_eq_true] using hany

/-- The field guard lets the new anchor pass just when the record held nothing against it. -/
theorem fieldPairBlacklisted_persist_iff {newAnchorMv : Nat} (hlt : failed.2 < newAnchorMv) :
    ¬ fieldPairBlacklisted (loadRecord (persistFieldFailure failed.1 failed.2 .done dir)) failed.1
        newAnchorMv ↔
      ¬ (loadRecord dir).isBlacklisted (pairIntent failed.1 newAnchorMv) ∧
        failed.2 + defaultBlacklistRadius < newAnchorMv ∧
        ∀ p ∈ fieldPairs (loadRecord dir), p.1 ≤ (failed.1 : Int) → p.2 < (newAnchorMv : Int) := by
  have hkey : ((failed.1 : Int), (failed.2 : Int)) ∈
      fieldPairs (loadRecord (persistFieldFailure failed.1 failed.2 .done dir)) :=
    (mem_fieldPairs_persist dir failed).mpr (Or.inr rfl)
  have hfloor := floorEnvelope_lt_iff hkey newAnchorMv
  have hradius : ¬ ((failed.2 : Int) - newAnchorMv).natAbs ≤ defaultBlacklistRadius ↔
      failed.2 + defaultBlacklistRadius < newAnchorMv := by
    unfold defaultBlacklistRadius
    omega
  rw [fieldPairBlacklisted_iff, not_or, isBlacklisted_persist_iff, not_or, hradius, and_assoc]
  refine and_congr_right fun _ => and_congr_right fun _ => ?_
  have hnot : (¬ ∃ f, fieldVfFloorMv (loadRecord (persistFieldFailure failed.1 failed.2 .done dir))
      failed.1 = some f ∧ (newAnchorMv : Int) ≤ f) ↔
      ∀ f, fieldVfFloorMv (loadRecord (persistFieldFailure failed.1 failed.2 .done dir))
        failed.1 = some f → f < (newAnchorMv : Int) := by
    simp only [not_exists, not_and, not_le]
  refine (hnot.trans hfloor).trans ⟨?_, ?_⟩
  · intro h p hp
    exact h p ((mem_fieldPairs_persist dir failed).mpr (Or.inl hp))
  · intro h p hp hle
    rcases (mem_fieldPairs_persist dir failed).mp hp with hold | rfl
    · exact h p hold hle
    · exact Int.ofNat_lt.mpr hlt

theorem refuses_append_iff {newAnchorMv : Nat} (hlt : failed.2 < newAnchorMv) :
    ¬ (condemnedPairs (appendFieldFailure timestamp gpuKey failed.1 failed.2 note .done ledger)
        gpuKey).refuses failed.1 newAnchorMv ↔
      (∀ p ∈ (condemnedPairs ledger gpuKey).rigid, p.1 ≤ failed.1 → p.2 < newAnchorMv) ∧
        ∀ f, vfFloorEnvelope (condemnedPairs ledger gpuKey).quarantine failed.1 = some f →
          f ≤ newAnchorMv := by
  obtain ⟨hrigid, hquarantine⟩ :=
    appendFieldFailure_pairs ledger gpuKey failed timestamp note
  have hfloor := vfFloorEnvelope_lt_iff ((hrigid failed).mpr (Or.inr rfl)) newAnchorMv
  rw [CondemnedPairs.refuses_iff, not_or, CondemnedPairs.bySeverity, CondemnedPairs.bySeverity,
    hquarantine]
  simp only [not_exists, not_and, not_le, not_lt]
  refine and_congr_left fun _ => hfloor.trans ⟨?_, ?_⟩
  · intro h p hp
    exact h p ((hrigid p).mpr (Or.inl hp))
  · intro h p hp hle
    rcases (hrigid p).mp hp with hold | rfl
    · exact h p hold hle
    · exact hlt

/-- After a failure is persisted, the new anchor is refused by neither source just when the record
and the ledger held nothing against it before. -/
theorem fallback_allowed_iff {newAnchorMv : Nat} (hlt : failed.2 < newAnchorMv) :
    (¬ fieldPairBlacklisted (loadRecord (persistFieldFailure failed.1 failed.2 .done dir)) failed.1
        newAnchorMv ∧
      ¬ (condemnedPairs (appendFieldFailure timestamp gpuKey failed.1 failed.2 note .done ledger)
        gpuKey).refuses failed.1 newAnchorMv) ↔
      ClearsHistory (loadRecord dir) (condemnedPairs ledger gpuKey) failed newAnchorMv := by
  rw [fieldPairBlacklisted_persist_iff dir failed hlt,
    refuses_append_iff ledger gpuKey timestamp note failed hlt]
  constructor
  · rintro ⟨⟨hregion, hradius, hfield⟩, hrigid, hquarantine⟩
    exact ⟨by simpa using hregion, hradius, hfield, hrigid, hquarantine⟩
  · intro h
    exact ⟨⟨by simp [h.region], h.radius, h.field⟩, h.rigid, h.quarantine⟩

end Persisted

/-- A bump is under way: claimed, and not yet counted by the layer's loop. -/
def LayerPhase.Bumping (phase : LayerPhase) : Prop :=
  (∃ stage failure, phase = .handling stage failure ∧ stage ≠ .decided ∧
    failure.newAnchorMv.isSome) ∨ phase = .returned .bumped

def LayerPhase.bumps : LayerPhase → Bool
  | .handling stage failure => decide (stage ≠ .decided) && failure.newAnchorMv.isSome
  | .returned outcome => decide (outcome = .bumped)
  | _ => false

theorem LayerPhase.Bumping.bumps_eq {phase : LayerPhase} (h : phase.Bumping) :
    phase.bumps = true := by
  rcases h with ⟨stage, failure, rfl, hstage, hsome⟩ | rfl
  · simp [bumps, hstage, hsome]
  · rfl

/-- What the layers share in one session of the service. -/
structure SentinelSession where
  layer : SentinelLayer → LayerPhase
  bumps : Nat
  fallbacks : List (Nat × Nat)

def SentinelState.session (s : SentinelState) : SentinelSession := ⟨s.layer, s.bumps, s.fallbacks⟩

def SentinelSession.enter (v : SentinelSession) (layer : SentinelLayer) (phase : LayerPhase) :
    SentinelSession :=
  { v with layer := Function.update v.layer layer phase }

/-- At one clock every pair lies above the ones before it. -/
def RisesPerClock (pairs : List (Nat × Nat)) : Prop :=
  pairs.Pairwise fun pair later => pair.1 = later.1 → pair.2 < later.2

/-- One bump at a time, within the budget, above every fallback so far. -/
structure LadderInv (v : SentinelSession) : Prop where
  rising : RisesPerClock v.fallbacks
  counted : v.fallbacks.length ≤ v.bumps ∨
    v.fallbacks.length = v.bumps + 1 ∧ ∃ layer, v.layer layer = .returned .bumped
  budget : v.bumps ≤ sentinelMaxBumpsPerSession
  left : ∀ layer, (v.layer layer).Bumping → v.bumps < sentinelMaxBumpsPerSession
  alone : ∀ layer other, (v.layer layer).Bumping → (v.layer other).Bumping → layer = other
  rises : ∀ layer stage failure newAnchorMv, v.layer layer = .handling stage failure →
    failure.newAnchorMv = some newAnchorMv →
      failure.failed.2 < newAnchorMv ∧ failure.bumps < sentinelMaxBumpsPerSession
  above : ∀ layer stage failure, v.layer layer = .handling stage failure → stage ≠ .decided →
    failure.newAnchorMv.isSome → ∀ pair ∈ v.fallbacks, pair.1 = failure.failed.1 →
      pair.2 ≤ failure.failed.2

section Session

variable {v : SentinelSession} {layer other : SentinelLayer} {phase : LayerPhase}
  {stage stage' : SentinelStage} {failure : FailureHandling}

theorem SentinelSession.enter_self : (v.enter layer phase).layer layer = phase :=
  Function.update_self _ _ _

theorem SentinelSession.enter_of_ne (h : other ≠ layer) :
    (v.enter layer phase).layer other = v.layer other := Function.update_of_ne h _ _

/-- What holds of the new phase and of every other layer's holds of all. -/
theorem SentinelSession.enter_cases {p : LayerPhase → Prop} (hself : p phase)
    (hother : ∀ other, p (v.layer other)) (other : SentinelLayer) :
    p ((v.enter layer phase).layer other) := by
  by_cases heq : other = layer
  · subst heq
    rw [SentinelSession.enter_self]
    exact hself
  · rw [SentinelSession.enter_of_ne heq]
    exact hother other

theorem LadderInv.fresh : LadderInv ⟨fun _ => .idle, 0, []⟩ where
  rising := List.Pairwise.nil
  counted := Or.inl le_rfl
  budget := Nat.zero_le _
  left := by simp [LayerPhase.Bumping]
  alone := by simp [LayerPhase.Bumping]
  rises := by simp
  above := by simp

/-- A layer enters a phase in which it bumps nothing, or is the only one that bumps. -/
theorem LadderInv.enter (h : LadderInv v) (hold : v.layer layer ≠ .returned .bumped)
    (hrises : ∀ stage failure newAnchorMv, phase = .handling stage failure →
      failure.newAnchorMv = some newAnchorMv →
        failure.failed.2 < newAnchorMv ∧ failure.bumps < sentinelMaxBumpsPerSession)
    (hbumping : phase.Bumping → v.bumps < sentinelMaxBumpsPerSession ∧
      (∀ other, other ≠ layer → ¬ (v.layer other).Bumping) ∧
      ∀ stage failure, phase = .handling stage failure → ∀ pair ∈ v.fallbacks,
        pair.1 = failure.failed.1 → pair.2 ≤ failure.failed.2) :
    LadderInv (v.enter layer phase) where
  rising := h.rising
  counted := by
    refine h.counted.imp_right (And.imp_right ?_)
    rintro ⟨other, hother⟩
    have hne : other ≠ layer := by
      rintro rfl
      exact hold hother
    exact ⟨other, (Function.update_of_ne hne _ _).trans hother⟩
  budget := h.budget
  left := by
    intro other
    refine SentinelSession.enter_cases (p := fun ph => ph.Bumping → _) ?_ h.left other
    exact fun hb => (hbumping hb).1
  alone := by
    intro one two hone htwo
    by_cases h1 : one = layer
    · subst h1
      rw [SentinelSession.enter_self] at hone
      by_contra hne
      rw [SentinelSession.enter_of_ne (Ne.symm hne)] at htwo
      exact (hbumping hone).2.1 two (Ne.symm hne) htwo
    · rw [SentinelSession.enter_of_ne h1] at hone
      by_cases h2 : two = layer
      · subst h2
        rw [SentinelSession.enter_self] at htwo
        exact absurd hone ((hbumping htwo).2.1 one h1)
      · rw [SentinelSession.enter_of_ne h2] at htwo
        exact h.alone one two hone htwo
  rises := by
    intro other
    exact SentinelSession.enter_cases (p := fun ph => ∀ stage failure newAnchorMv,
      ph = .handling stage failure → failure.newAnchorMv = some newAnchorMv →
        failure.failed.2 < newAnchorMv ∧ failure.bumps < sentinelMaxBumpsPerSession) hrises
      h.rises other
  above := by
    intro other
    refine SentinelSession.enter_cases (p := fun ph => ∀ stage failure,
      ph = .handling stage failure → stage ≠ .decided → failure.newAnchorMv.isSome →
        ∀ pair ∈ v.fallbacks, pair.1 = failure.failed.1 → pair.2 ≤ failure.failed.2) ?_ h.above
      other
    intro stage failure hphase hstage hsome
    exact (hbumping (Or.inl ⟨stage, failure, hphase, hstage, hsome⟩)).2.2 stage failure hphase

/-- A layer that bumps nothing goes on to a phase in which it bumps nothing. -/
theorem LadderInv.enter_quiet (h : LadderInv v) (hold : v.layer layer ≠ .returned .bumped)
    (hnew : ¬ phase.Bumping)
    (hrises : ∀ stage failure newAnchorMv, phase = .handling stage failure →
      failure.newAnchorMv = some newAnchorMv →
        failure.failed.2 < newAnchorMv ∧ failure.bumps < sentinelMaxBumpsPerSession) :
    LadderInv (v.enter layer phase) :=
  h.enter hold hrises fun hbumping => absurd hbumping hnew

theorem not_bumping_of_ne (hphase : ∀ stage failure, phase ≠ .handling stage failure)
    (hreturned : phase ≠ .returned .bumped) : ¬ phase.Bumping := by
  rintro (⟨stage, failure, heq, -⟩ | heq)
  · exact hphase stage failure heq
  · exact hreturned heq

/-- The next stage of the same failure. -/
theorem LadderInv.goes_on (h : LadderInv v) (hphase : v.layer layer = .handling stage failure)
    (hstage : stage ≠ .decided) : LadderInv (v.enter layer (.handling stage' failure)) := by
  have hold : v.layer layer ≠ .returned .bumped := by simp [hphase]
  refine h.enter hold ?_ ?_
  · intro _ failure' newAnchorMv heq
    obtain ⟨-, rfl⟩ := LayerPhase.handling.inj heq
    exact h.rises layer stage failure newAnchorMv hphase
  · rintro (⟨_, failure', heq, -, hsome⟩ | heq)
    · obtain ⟨-, rfl⟩ := LayerPhase.handling.inj heq
      have hbumping : (v.layer layer).Bumping := Or.inl ⟨stage, failure, hphase, hstage, hsome⟩
      refine ⟨h.left layer hbumping, ?_, ?_⟩
      · intro other hne hother
        exact hne (h.alone other layer hother hbumping)
      · intro _ failure' heq'
        obtain ⟨-, rfl⟩ := LayerPhase.handling.inj heq'
        exact h.above layer stage failure hphase hstage hsome
    · cases heq

/-- The bump that a layer makes is the next fallback. -/
theorem LadderInv.fellBack (h : LadderInv v) {newAnchorMv : Nat}
    (hphase : v.layer layer = .handling stage failure) (hstage : stage ≠ .decided)
    (hnew : failure.newAnchorMv = some newAnchorMv) :
    LadderInv { v.enter layer (.returned .bumped) with
      fallbacks := v.fallbacks ++ [(failure.failed.1, newAnchorMv)] } := by
  have hsome : failure.newAnchorMv.isSome := by simp [hnew]
  have hbumping : (v.layer layer).Bumping := Or.inl ⟨stage, failure, hphase, hstage, hsome⟩
  have hothers : ∀ other, other ≠ layer → ¬ (v.layer other).Bumping :=
    fun other hne hother => hne (h.alone other layer hother hbumping)
  have hentered : LadderInv (v.enter layer (.returned .bumped)) := by
    refine h.enter (by simp [hphase]) (by simp) fun _ => ⟨h.left layer hbumping, hothers, by simp⟩
  have hcounted : v.fallbacks.length ≤ v.bumps := by
    rcases h.counted with hle | ⟨-, other, hother⟩
    · exact hle
    · have hne : other ≠ layer := by
        rintro rfl
        rw [hphase] at hother
        cases hother
      exact absurd (Or.inr hother) (hothers other hne)
  refine ⟨?_, ?_, hentered.budget, hentered.left, hentered.alone, hentered.rises, ?_⟩
  · refine List.pairwise_append.mpr ⟨h.rising, List.pairwise_singleton _ _, ?_⟩
    intro pair hpair later hlater hclock
    obtain rfl := List.mem_singleton.mp hlater
    have hle := h.above layer stage failure hphase hstage hsome pair hpair hclock
    exact hle.trans_lt (h.rises layer stage failure newAnchorMv hphase hnew).1
  · have hlength : (v.fallbacks ++ [(failure.failed.1, newAnchorMv)]).length =
        v.fallbacks.length + 1 := by simp
    change (v.fallbacks ++ [(failure.failed.1, newAnchorMv)]).length ≤ v.bumps ∨
      (v.fallbacks ++ [(failure.failed.1, newAnchorMv)]).length = v.bumps + 1 ∧ _
    rw [hlength]
    rcases Nat.lt_or_ge v.fallbacks.length v.bumps with hlt | hge
    · exact Or.inl hlt
    · exact Or.inr ⟨by omega, layer, SentinelSession.enter_self⟩
  · intro other stage' failure' hother hstage' hsome'
    have hne : other ≠ layer := by
      rintro rfl
      rw [show _ = LayerPhase.returned .bumped from SentinelSession.enter_self] at hother
      cases hother
    have hold : v.layer other = .handling stage' failure' :=
      (SentinelSession.enter_of_ne hne).symm.trans hother
    exact absurd (Or.inl ⟨stage', failure', hold, hstage', hsome'⟩) (hothers other hne)

/-- The loop counts a bump, or goes on without one. -/
theorem LadderInv.committed (h : LadderInv v) {outcome : FailureOutcome} {deadline : Nat}
    (hphase : v.layer layer = .returned outcome) :
    LadderInv { v.enter layer (.cooling deadline) with
      bumps := if outcome = .bumped then v.bumps + 1 else v.bumps } := by
  have hquiet : ¬ (LayerPhase.cooling deadline).Bumping := not_bumping_of_ne (by simp) (by simp)
  by_cases houtcome : outcome = .bumped
  · subst houtcome
    have hbumping : (v.layer layer).Bumping := Or.inr hphase
    have hnone : ∀ other, ¬ ((v.enter layer (.cooling deadline)).layer other).Bumping := by
      intro other
      by_cases heq : other = layer
      · subst heq
        rw [SentinelSession.enter_self]
        exact hquiet
      · rw [SentinelSession.enter_of_ne heq]
        exact fun hother => heq (h.alone other layer hother hbumping)
    refine ⟨h.rising, ?_, h.left layer hbumping, ?_, ?_, ?_, ?_⟩
    · have hle : v.fallbacks.length ≤ v.bumps + 1 := by
        rcases h.counted with hle | ⟨heq, -⟩
        · omega
        · omega
      rw [if_pos rfl]
      exact Or.inl hle
    · exact fun other hother => absurd hother (hnone other)
    · exact fun one two hone => absurd hone (hnone one)
    · intro other
      exact SentinelSession.enter_cases (p := fun ph => ∀ stage failure newAnchorMv,
        ph = .handling stage failure → failure.newAnchorMv = some newAnchorMv →
          failure.failed.2 < newAnchorMv ∧ failure.bumps < sentinelMaxBumpsPerSession) (by simp)
        h.rises other
    · intro other stage failure hother hstage hsome
      exact absurd (Or.inl ⟨stage, failure, hother, hstage, hsome⟩) (hnone other)
  · rw [if_neg houtcome]
    have hold : v.layer layer ≠ .returned .bumped := by simpa [hphase] using houtcome
    exact h.enter_quiet hold hquiet (by simp)

end Session

namespace SentinelState

variable {gpuKey : String} {s s' : SentinelState} {e : SentinelEvent}

/-- A bump is claimed only while the counter its layer loaded is current, the other layer is not in
the middle of one, and the failed pair is not below an earlier fallback at its clock. -/
def Paced (s : SentinelState) : SentinelEvent → Prop
  | .claim layer => ∀ failure, s.layer layer = .handling .decided failure →
      failure.newAnchorMv.isSome → failure.bumps = s.bumps ∧
        (∀ other, ¬ (s.layer other).Bumping) ∧
        ∀ pair ∈ s.fallbacks, pair.1 = failure.failed.1 → pair.2 ≤ failure.failed.2
  | _ => True

/-- Outside the running service there is no session. -/
structure SessionInv (s : SentinelState) : Prop where
  ladder : LadderInv s.session
  fresh : s.service ≠ .running → s.fallbacks = [] ∧ ∀ layer, s.layer layer = .idle

theorem SessionInv.same (h : s.SessionInv) (hsession : s'.session = s.session)
    (hservice : s'.service = s.service ∨ s.service ≠ .running) : s'.SessionInv := by
  have hfresh : s'.service ≠ .running → s.service ≠ .running := by
    intro hnot
    rcases hservice with hsame | hdown
    · exact hsame ▸ hnot
    · exact hdown
  refine ⟨hsession ▸ h.ladder, fun hnot => ?_⟩
  have hold := h.fresh (hfresh hnot)
  obtain ⟨hlayer, -, hfallbacks⟩ := SentinelSession.mk.inj hsession
  exact ⟨hfallbacks.trans hold.1, fun layer => (congrFun hlayer layer).trans (hold.2 layer)⟩

theorem SessionInv.killed (s : SentinelState) : s.killed.SessionInv :=
  ⟨LadderInv.fresh, fun _ => ⟨rfl, fun _ => rfl⟩⟩

theorem SessionInv.running (h : s.SessionInv) (layer : SentinelLayer)
    (hphase : s.layer layer ≠ .idle) : s.service = .running := by
  by_contra hnot
  exact hphase ((h.fresh hnot).2 layer)

theorem SessionInv.spawned (h : s.SessionInv) {seen : Bool} (hservice : s.service = .reapplied) :
    (s.spawned seen).SessionInv := by
  obtain ⟨hfallbacks, hlayer⟩ := h.fresh (by simp [hservice])
  have hsession : (s.spawned seen).session = ⟨fun _ => .idle, 0, []⟩ := by
    rw [session, ← hfallbacks, ← funext hlayer]
    rfl
  exact ⟨hsession ▸ LadderInv.fresh, fun _ => ⟨hfallbacks, hlayer⟩⟩

/-- A step of a running layer. -/
theorem SessionInv.of_ladder (hrunning : s'.service = .running) (h : LadderInv s'.session) :
    s'.SessionInv :=
  ⟨h, fun hnot => absurd hrunning hnot⟩

theorem SessionInv.enter_quiet (h : s.SessionInv) {layer : SentinelLayer} {phase : LayerPhase}
    (hrunning : s.service = .running) (hold : s.layer layer ≠ .returned .bumped)
    (hphase : ∀ stage failure, phase ≠ .handling stage failure) (hnew : phase ≠ .returned .bumped) :
    (s.enter layer phase).SessionInv :=
  .of_ladder hrunning (h.ladder.enter_quiet hold (not_bumping_of_ne hphase hnew)
    fun stage failure _ heq => absurd heq (hphase stage failure))

theorem SessionInv.polled (h : s.SessionInv) (hidle : s.layer .watcher = .idle)
    (hrunning : s.service = .running) : s.polled.SessionInv := by
  unfold SentinelState.polled
  split
  next => exact h.same rfl (Or.inl rfl)
  next =>
    split
    next => exact h.same rfl (Or.inl rfl)
    next =>
      have hold : s.layer .watcher ≠ .returned .bumped := by simp [hidle]
      have hquiet : ¬ (LayerPhase.taken s.bumps).Bumping := not_bumping_of_ne (by simp) (by simp)
      exact .of_ladder hrunning (h.ladder.enter_quiet hold hquiet (by simp))

theorem SessionInv.decided (h : s.SessionInv) {layer : SentinelLayer} {bumps : Nat}
    {curve : List (Nat × Nat × Nat)} (hphase : s.layer layer = .taken bumps) :
    (s.decided layer bumps curve).SessionInv := by
  have hrunning := h.running layer (by simp [hphase])
  have hold : s.layer layer ≠ .returned .bumped := by simp [hphase]
  rcases s.decided_cases layer bumps curve with
    ⟨failed, newAnchorMv, -, hrises, heq⟩ | ⟨-, heq⟩ | ⟨-, heq⟩ | ⟨-, heq⟩
  · rw [heq]
    refine .of_ladder hrunning (h.ladder.enter_quiet hold ?_ ?_)
    · rintro (⟨stage, failure, hnew, hstage, -⟩ | hnew)
      · obtain ⟨rfl, -⟩ := LayerPhase.handling.inj hnew
        exact hstage rfl
      · cases hnew
    · intro stage failure newMv hnew hsome
      obtain ⟨-, rfl⟩ := LayerPhase.handling.inj hnew
      exact hrises newMv hsome
  all_goals
    rw [heq]
    exact h.enter_quiet hrunning hold (by simp) (by simp)

theorem SessionInv.claimed (h : s.SessionInv) {layer : SentinelLayer} {failure : FailureHandling}
    (hphase : s.layer layer = .handling .decided failure) (hok : s.Paced (.claim layer)) :
    (s.claimed layer failure).SessionInv := by
  have hrunning := h.running layer (by simp [hphase])
  have hold : s.layer layer ≠ .returned .bumped := by simp [hphase]
  rcases s.claimed_cases layer failure with ⟨-, heq⟩ | ⟨-, heq⟩
  · rw [heq]
    exact h.enter_quiet hrunning hold (by simp) (by simp)
  · rw [heq]
    refine .of_ladder hrunning (LadderInv.enter h.ladder hold ?_ ?_)
    · intro _ failure' newAnchorMv hnew
      obtain ⟨-, rfl⟩ := LayerPhase.handling.inj hnew
      exact h.ladder.rises layer .decided failure newAnchorMv hphase
    · rintro (⟨_, failure', hnew, -, hsome⟩ | hnew)
      · obtain ⟨-, rfl⟩ := LayerPhase.handling.inj hnew
        obtain ⟨hcurrent, hnone, habove⟩ := hok failure hphase hsome
        -- the decision itself saw a bump left, on the counter that still stands
        obtain ⟨newAnchorMv, hnewMv⟩ := Option.isSome_iff_exists.mp hsome
        have hleft := (h.ladder.rises layer .decided failure newAnchorMv hphase hnewMv).2
        rw [hcurrent] at hleft
        refine ⟨hleft, fun other _ => hnone other, ?_⟩
        intro _ failure'' hnew'
        obtain ⟨-, rfl⟩ := LayerPhase.handling.inj hnew'
        exact habove
      · cases hnew

theorem SessionInv.stocked (h : s.SessionInv) {layer : SentinelLayer} {failure : FailureHandling}
    {clockError gpuError : Option String} {results : ResetResults} {clear : FileResult}
    (hphase : s.layer layer = .handling .persisted failure) :
    (s.stocked layer failure clockError gpuError results clear).SessionInv := by
  have hrunning := h.running layer (by simp [hphase])
  obtain ⟨phase, hnext, heq⟩ := s.stocked_cases layer failure clockError gpuError results clear
  rw [heq]
  refine .of_ladder hrunning ?_
  rcases hnext with rfl | rfl
  · exact LadderInv.goes_on h.ladder hphase (by simp)
  · have hquiet : ¬ (LayerPhase.returned .stocked).Bumping := not_bumping_of_ne (by simp) (by simp)
    exact LadderInv.enter_quiet h.ladder (by simp [session, hphase]) hquiet (by simp)

theorem SessionInv.step (h : s.SessionInv) (hok : s.Paced e) (hs : s.step gpuKey e = some s') :
    s'.SessionInv := by
  cases e with
  | tick seconds =>
    obtain rfl := Option.some.inj hs
    exact h.same rfl (Or.inl rfl)
  | tdr =>
    obtain rfl := Option.some.inj hs
    exact h.same rfl (Or.inl rfl)
  | crash =>
    obtain rfl := Option.some.inj hs
    exact .killed s
  | recover bugcheck results sameBoot =>
    obtain ⟨hservice, hs⟩ := Option.ite_none_right_eq_some.mp hs
    obtain rfl := Option.some.inj hs
    exact h.same rfl (Or.inr (by simp [hservice]))
  | reconcile seen bugcheck timestamp source record ledger applied =>
    obtain ⟨hservice, hs⟩ := Option.ite_none_right_eq_some.mp hs
    obtain rfl := Option.some.inj hs
    exact h.same rfl (Or.inr (by simp [hservice]))
  | reapply cleared timestamp armed =>
    obtain ⟨hservice, hs⟩ := Option.ite_none_right_eq_some.mp hs
    obtain rfl := Option.some.inj hs
    refine h.same ?_ (Or.inr (by simp [hservice]))
    unfold SentinelState.reapplied
    split <;> rfl
  | spawn seen =>
    obtain ⟨hservice, hs⟩ := Option.ite_none_right_eq_some.mp hs
    obtain rfl := Option.some.inj hs
    exact h.spawned hservice.1
  | stop marker =>
    obtain ⟨-, hs⟩ := Option.ite_none_right_eq_some.mp hs
    obtain rfl := Option.some.inj hs
    exact .killed _
  | fullReset clockError gpuError results record baseline =>
    obtain ⟨-, hs⟩ := Option.ite_none_right_eq_some.mp hs
    obtain rfl := Option.some.inj hs
    unfold fullyReset
    split
    next => exact h.same rfl (Or.inl rfl)
    next => exact h.same rfl (Or.inl rfl)
  | save result =>
    obtain ⟨profile, -, rfl⟩ := Option.map_eq_some_iff.mp hs
    exact h.same rfl (Or.inl rfl)
  | applyFails =>
    obtain ⟨profile, -, rfl⟩ := Option.map_eq_some_iff.mp hs
    exact h.same rfl (Or.inl rfl)
  | poll =>
    simp only [SentinelState.step] at hs
    split at hs
    next hidle =>
      obtain ⟨⟨hrunning, -⟩, hs⟩ := Option.ite_none_right_eq_some.mp hs
      obtain rfl := Option.some.inj hs
      exact h.polled hidle hrunning
    next => cases hs
  | canaryStarts =>
    simp only [SentinelState.step] at hs
    split at hs
    next hidle =>
      obtain ⟨⟨hrunning, -⟩, hs⟩ := Option.ite_none_right_eq_some.mp hs
      obtain rfl := Option.some.inj hs
      exact h.enter_quiet hrunning (by simp [hidle]) (by simp) (by simp)
    next => cases hs
  | canaryReturns failed =>
    simp only [SentinelState.step] at hs
    split at hs
    next hprobing =>
      obtain rfl := Option.some.inj hs
      have hrunning := h.running .canary (by simp [hprobing])
      cases failed <;> exact h.enter_quiet hrunning (by simp [hprobing]) (by simp) (by simp)
    next => cases hs
  | decide layer curve =>
    simp only [SentinelState.step] at hs
    split at hs
    next bumps hphase =>
      obtain rfl := Option.some.inj hs
      exact h.decided hphase
    next => cases hs
  | claim layer =>
    simp only [SentinelState.step] at hs
    split at hs
    next failure hphase =>
      obtain rfl := Option.some.inj hs
      exact h.claimed hphase hok
    next => cases hs
  | persist layer timestamp record ledger =>
    simp only [SentinelState.step] at hs
    split at hs
    next failure hphase =>
      obtain rfl := Option.some.inj hs
      exact .of_ladder (h.running layer (by simp [hphase]))
        (LadderInv.goes_on h.ladder hphase (by simp))
    next => cases hs
  | stock layer clockError gpuError results clear =>
    simp only [SentinelState.step] at hs
    split at hs
    next failure hphase =>
      obtain rfl := Option.some.inj hs
      exact h.stocked hphase
    next => cases hs
  | fallback layer timestamp armed clear =>
    simp only [SentinelState.step] at hs
    split at hs
    next failure hphase =>
      obtain ⟨newAnchorMv, -, rfl⟩ := Option.map_eq_some_iff.mp hs
      have hrunning := h.running layer (by simp [hphase])
      unfold SentinelState.fallbackArmed
      dsimp only
      split
      next => exact .of_ladder hrunning (LadderInv.goes_on h.ladder hphase (by simp))
      next =>
        have hquiet : ¬ (LayerPhase.returned .stocked).Bumping :=
          not_bumping_of_ne (by simp) (by simp)
        exact .of_ladder hrunning
          (LadderInv.enter_quiet h.ladder (by simp [session, hphase]) hquiet (by simp))
    next => cases hs
  | fallbackReturns layer written appliedAt save clear =>
    simp only [SentinelState.step] at hs
    split at hs
    next failure hphase =>
      obtain ⟨newAnchorMv, hnew, rfl⟩ := Option.map_eq_some_iff.mp hs
      have hrunning := h.running layer (by simp [hphase])
      unfold SentinelState.fellBack
      split
      next => exact .of_ladder hrunning (LadderInv.fellBack h.ladder hphase (by simp) hnew)
      next =>
        have hquiet : ¬ (LayerPhase.returned .stocked).Bumping :=
          not_bumping_of_ne (by simp) (by simp)
        exact .of_ladder hrunning
          (LadderInv.enter_quiet h.ladder (by simp [session, hphase]) hquiet (by simp))
    next => cases hs
  | commit layer =>
    simp only [SentinelState.step] at hs
    split at hs
    next outcome hphase =>
      obtain rfl := Option.some.inj hs
      have hrunning := h.running layer (by simp [hphase])
      cases layer with
      | watcher => exact .of_ladder hrunning (LadderInv.committed h.ladder hphase)
      | canary => exact .of_ladder hrunning (LadderInv.committed h.ladder hphase)
    next => cases hs
  | cooled layer seen =>
    simp only [SentinelState.step] at hs
    split at hs
    next deadline hphase =>
      obtain ⟨-, hs⟩ := Option.ite_none_right_eq_some.mp hs
      obtain rfl := Option.some.inj hs
      have hrunning := h.running layer (by simp [hphase])
      cases layer with
      | canary => exact h.enter_quiet hrunning (by simp [hphase]) (by simp) (by simp)
      | watcher =>
        unfold SentinelState.cooledDown
        cases s.newest seen with
        | none => exact h.enter_quiet hrunning (by simp [hphase]) (by simp) (by simp)
        | some newest =>
          have hadvanced : (s.advance newest).SessionInv := h.same rfl (Or.inl rfl)
          exact hadvanced.enter_quiet hrunning (by simp [advance, hphase]) (by simp) (by simp)
    next => cases hs
  | _ =>
    obtain ⟨-, hs⟩ := Option.ite_none_right_eq_some.mp hs
    obtain rfl := Option.some.inj hs
    exact h.same rfl (Or.inl rfl)

end SentinelState

/-- The pair that the sentinel falls back to is refused by neither source just when the record and
the ledger held nothing against it; and in every run whose claims are paced, the fallbacks of a
session rise at each clock and are at most two. -/
theorem sentinel_fallback_iff_clears_history (gpuKey : String) :
    (∀ (dir : DataDir) (ledger : List CondemnationEvent) (timestamp note : String)
      (curve : List (Nat × Nat × Nat)) (bumps bumpBins : Nat) (failed : Nat × Nat)
      (newAnchorMv : Nat),
      sentinelDecide (some failed) false bumps (binsAboveAnchor curve failed.2) bumpBins =
        .bump failed.1 newAnchorMv →
      ((¬ fieldPairBlacklisted (loadRecord (persistFieldFailure failed.1 failed.2 .done dir))
          failed.1 newAnchorMv ∧
        ¬ (condemnedPairs (appendFieldFailure timestamp gpuKey failed.1 failed.2 note .done ledger)
          gpuKey).refuses failed.1 newAnchorMv) ↔
        ClearsHistory (loadRecord dir) (condemnedPairs ledger gpuKey) failed newAnchorMv)) ∧
    ∀ l s, ((sentinelMachine gpuKey).guarded SentinelState.Paced).Run l s →
      RisesPerClock s.fallbacks ∧ s.fallbacks.length ≤ sentinelMaxBumpsPerSession := by
  constructor
  · intro dir ledger timestamp note curve bumps bumpBins failed newAnchorMv hbump
    obtain ⟨-, -, hbin, -⟩ := sentinelDecide_eq_bump hbump
    exact fallback_allowed_iff dir ledger gpuKey timestamp note failed
      (lt_of_mem_binsAboveAnchor hbin)
  · intro l s hrun
    have hinv : s.SessionInv := by
      refine hrun.invariant ?_ ?_
      · rintro s ⟨hkilled, -⟩
        rw [hkilled]
        exact .killed s
      · intro s e s' hinv hstep
        exact hinv.step hstep.1 hstep.2
    refine ⟨hinv.ladder.rising, ?_⟩
    rcases hinv.ladder.counted with hle | ⟨heq, layer, hlayer⟩
    · exact hle.trans hinv.ladder.budget
    · have hlt := hinv.ladder.left layer (Or.inr hlayer)
      have heq : s.fallbacks.length = s.bumps + 1 := heq
      have hlt : s.bumps < sentinelMaxBumpsPerSession := hlt
      omega

/-- What a claim's guard asks, computed. -/
def SentinelState.paces (s : SentinelState) : SentinelEvent → Bool
  | .claim layer =>
    match s.layer layer with
    | .handling .decided failure =>
      failure.bumps == s.bumps && !(s.layer .watcher).bumps && !(s.layer .canary).bumps &&
        s.fallbacks.all fun pair => pair.1 != failure.failed.1 || decide (pair.2 ≤ failure.failed.2)
    | _ => true
  | _ => true

theorem SentinelState.paced_of_paces {s : SentinelState} {e : SentinelEvent}
    (h : s.paces e = true) : s.Paced e := by
  cases e with
  | claim layer =>
    intro failure hphase _
    simp only [paces, hphase, Bool.and_eq_true, beq_iff_eq, Bool.not_eq_true', List.all_eq_true,
      Bool.or_eq_true, bne_iff_ne, decide_eq_true_eq] at h
    obtain ⟨⟨⟨hcurrent, hwatcher⟩, hcanary⟩, habove⟩ := h
    refine ⟨hcurrent, fun other hbumping => ?_, fun pair hpair hclock => ?_⟩
    · cases other with
      | watcher => exact Bool.false_ne_true (hwatcher.symm.trans hbumping.bumps_eq)
      | canary => exact Bool.false_ne_true (hcanary.symm.trans hbumping.bumps_eq)
    · exact (habove pair hpair).resolve_left fun hne => hne hclock
  | _ => trivial

/-- A driver reset at 843 mV and one at its fallback, after the cooldown and the dedup window. -/
def twoResets : List SentinelEvent :=
  let curve := [(0, 843, 1500), (1, 850, 1500), (2, 856, 1500), (3, 862, 1500), (4, 868, 1500),
    (5, 875, 1500), (6, 881, 1500)]
  let falls := [.tdr, .poll, .decide .watcher curve, .claim .watcher,
    .persist .watcher "" .done .done, .stock .watcher none none {} .done,
    .fallback .watcher "" .done .done, .fallbackReturns .watcher true none .done .done,
    .commit .watcher]
  [.recover .unknown {} false, .reconcile true false "" "" .done .done .done,
    .reapply .done "" .done, .spawn true,
    .apply ⟨"Godforge", some ⟨1815, 843⟩, none, none, some ⟨1815, 843⟩⟩ "" .done, .save .done,
    .tick 8, .timer 1008 .done] ++ falls ++
  [.tick 8, .timer 1016 .done, .tick 90, .cooled .watcher true] ++ falls

/-- Two paced bumps use the session's budget up. -/
theorem sentinel_fallback_twice : ∃ s,
    ((sentinelMachine "gpu-a").guarded SentinelState.Paced).Run twoResets s ∧
      s.fallbacks = [(1815, 862), (1815, 881)] ∧ RisesPerClock s.fallbacks ∧
      s.fallbacks.length ≤ sentinelMaxBumpsPerSession := by
  have hrun : ∃ s, twoResets.foldlM (fun s e => if s.paces e then s.step "gpu-a" e else none)
      freshService = some s ∧ s.fallbacks = [(1815, 862), (1815, 881)] := ⟨_, rfl, rfl⟩
  obtain ⟨s, hs, hfallbacks⟩ := hrun
  have hguarded : ((sentinelMachine "gpu-a").guarded SentinelState.Paced).Run twoResets s := by
    have hinit : ((sentinelMachine "gpu-a").guarded SentinelState.Paced).init freshService :=
      freshService_init "gpu-a"
    refine .of_foldlM (fun s e s' hstep => ?_) hinit hs
    obtain ⟨hpaces, hstep⟩ := Option.ite_none_right_eq_some.mp hstep
    exact ⟨SentinelState.paced_of_paces hpaces, hstep⟩
  exact ⟨s, hguarded, hfallbacks, (sentinel_fallback_iff_clears_history "gpu-a").2 _ s hguarded⟩

/-- The third bin above 1815 MHz @ 843 mV is one that the ledger condemns. -/
theorem sentinel_falls_back_to_condemned :
    ¬ ∀ (gpuKey : String) (dir : DataDir) (ledger : List CondemnationEvent)
      (timestamp note : String) (curve : List (Nat × Nat × Nat)) (bumps bumpBins : Nat)
      (failed : Nat × Nat) (newAnchorMv : Nat),
      sentinelDecide (some failed) false bumps (binsAboveAnchor curve failed.2) bumpBins =
        .bump failed.1 newAnchorMv →
      ¬ fieldPairBlacklisted (loadRecord (persistFieldFailure failed.1 failed.2 .done dir))
          failed.1 newAnchorMv ∧
        ¬ (condemnedPairs (appendFieldFailure timestamp gpuKey failed.1 failed.2 note .done ledger)
          gpuKey).refuses failed.1 newAnchorMv := by
  intro h
  have hallowed := (h "gpu-a" {} [rigidCondemnation 1815 862] "" ""
    [(0, 850, 1500), (1, 856, 1500), (2, 862, 1500)] 0 sentinelTdrBumpBins (1815, 843) 862
    (by decide)).2
  exact hallowed (by decide)

end Nidavellir
