import Nidavellir.SafeLoopRuns
import Mathlib.Data.List.Nodup

namespace Nidavellir

open Runs

/-- While a stored incident is open, the pending slot is taken. -/
def SafeLoopRecord.Latched (record : SafeLoopRecord) : Prop :=
  (∃ stored ∈ record.forgeIncidents, stored.acknowledged = false) →
    record.pendingForgeIncident.isSome

/-- An acknowledgement comes only while no incident but the pending one is open. -/
def SafeLoopRecord.acknowledgesLast (record : SafeLoopRecord) : SafeLoopCall → Prop
  | .acknowledgeForgeIncident =>
    ∀ pending, record.pendingForgeIncident = some pending →
      ∀ stored ∈ record.forgeIncidents, stored.acknowledged = false → stored.id = pending.id
  | _ => True

structure SafeLoopRecord.IncidentsKept (record : SafeLoopRecord) : Prop where
  ids_nodup : (record.forgeIncidents.map ForgeIncident.id).Nodup
  pending_last : ∀ pending, record.pendingForgeIncident = some pending →
    ∃ earlier, record.forgeIncidents = earlier ++ [pending]

theorem recover_incidents (record : SafeLoopRecord) (bootFlag : Option BootFlag)
    (bugcheck : CrashClass) :
    (recover record bootFlag bugcheck).1.forgeIncidents = record.forgeIncidents ∧
      (recover record bootFlag bugcheck).1.pendingForgeIncident =
        record.pendingForgeIncident := by
  unfold recover applyRecovery
  split <;> exact ⟨rfl, rfl⟩

theorem pushCapped_suffix {α : Type*} (v : List α) (item : α) {cap : Nat} (h : 0 < cap) :
    ∃ kept, kept.Sublist v ∧ pushCapped v item cap = kept ++ [item] := by
  have hlen : (v ++ [item]).length - cap ≤ v.length := by
    rw [List.length_append, List.length_singleton]
    omega
  refine ⟨v.drop ((v ++ [item]).length - cap), List.drop_sublist _ _, ?_⟩
  rw [pushCapped, List.drop_append_of_le_length hlen]

namespace SafeLoopRecord

theorem recordForgeIncident_cases (record : SafeLoopRecord) (incident : ForgeIncident) :
    (record.recordForgeIncident incident) = (record, false) ∨
      (record.recordForgeIncident incident).2 = true ∧
      (record.recordForgeIncident incident).1.pendingForgeIncident = some incident ∧
      incident.id ∉ record.forgeIncidents.map ForgeIncident.id ∧
      ∃ kept, kept.Sublist record.forgeIncidents ∧
        (record.recordForgeIncident incident).1.forgeIncidents = kept ++ [incident] := by
  simp only [recordForgeIncident]
  split
  next => exact Or.inl rfl
  next hnew =>
    have hfresh : incident.id ∉ record.forgeIncidents.map ForgeIncident.id := by
      intro hmem
      obtain ⟨known, hknown, hid⟩ := List.mem_map.mp hmem
      exact hnew (List.any_eq_true.mpr ⟨known, hknown, by simp [hid]⟩)
    exact Or.inr ⟨rfl, rfl, hfresh, pushCapped_suffix _ _ (by decide)⟩

theorem acknowledgeStored_append_last {earlier : List ForgeIncident} {pending : ForgeIncident}
    (h : pending.id ∉ earlier.map ForgeIncident.id) :
    acknowledgeStored pending.id (earlier ++ [pending]) =
      earlier ++ [{ pending with acknowledged := true }] := by
  induction earlier with
  | nil => simp [acknowledgeStored]
  | cons stored earlier ih =>
    rw [List.map_cons, List.mem_cons, not_or] at h
    rw [List.cons_append, acknowledgeStored, if_neg (Ne.symm h.1), ih h.2, List.cons_append]

theorem IncidentsKept.pending_fresh {record : SafeLoopRecord} (h : record.IncidentsKept)
    {earlier : List ForgeIncident} {pending : ForgeIncident}
    (he : record.forgeIncidents = earlier ++ [pending]) :
    pending.id ∉ earlier.map ForgeIncident.id := by
  have hnodup := h.ids_nodup
  rw [he, List.map_append, List.map_singleton, List.nodup_append] at hnodup
  intro hmem
  exact hnodup.2.2 pending.id hmem pending.id (List.mem_singleton_self _) rfl

/-- An acknowledgement marks the pending incident, which is the newest of the history. -/
theorem IncidentsKept.acknowledge {record : SafeLoopRecord} (h : record.IncidentsKept)
    {pending : ForgeIncident} (hp : record.pendingForgeIncident = some pending) :
    ∃ earlier, record.forgeIncidents = earlier ++ [pending] ∧
      record.acknowledgeForgeIncident.1.forgeIncidents =
        earlier ++ [{ pending with acknowledged := true }] ∧
      record.acknowledgeForgeIncident.1.pendingForgeIncident = none ∧
      record.acknowledgeForgeIncident.2 = some { pending with acknowledged := true } := by
  obtain ⟨earlier, he⟩ := h.pending_last pending hp
  have hstored := acknowledgeStored_append_last (h.pending_fresh he)
  refine ⟨earlier, he, ?_⟩
  simp only [acknowledgeForgeIncident, hp, he, hstored, and_self]

theorem acknowledgeForgeIncident_none {record : SafeLoopRecord}
    (hp : record.pendingForgeIncident = none) :
    record.acknowledgeForgeIncident = (record, none) := by
  simp only [acknowledgeForgeIncident, hp]

theorem IncidentsKept.congr {record record' : SafeLoopRecord} (h : record.IncidentsKept)
    (hf : record'.forgeIncidents = record.forgeIncidents)
    (hp : record'.pendingForgeIncident = record.pendingForgeIncident) :
    record'.IncidentsKept :=
  ⟨by rw [hf]; exact h.ids_nodup, by rw [hf, hp]; exact h.pending_last⟩

theorem IncidentsKept.after {record : SafeLoopRecord} (h : record.IncidentsKept)
    (call : SafeLoopCall) : (record.after call).IncidentsKept := by
  cases call with
  | boot bootFlag bugcheck =>
    exact h.congr (recover_incidents record bootFlag bugcheck).1
      (recover_incidents record bootFlag bugcheck).2
  | markValidated point => exact h.congr rfl rfl
  | clearRecoveryLatch => exact h.congr rfl rfl
  | recordForgeIncident incident =>
    rcases record.recordForgeIncident_cases incident with hdup | ⟨-, hp, hfresh, kept, hk, hf⟩
    · have hsame : record.after (.recordForgeIncident incident) = record :=
        congrArg Prod.fst hdup
      rwa [hsame]
    · have hkept : (kept.map ForgeIncident.id).Sublist
          (record.forgeIncidents.map ForgeIncident.id) := hk.map _
      refine ⟨?_, ?_⟩
      · show ((record.recordForgeIncident incident).1.forgeIncidents.map _).Nodup
        rw [hf, List.map_append, List.map_singleton]
        apply List.nodup_append.mpr
        refine ⟨h.ids_nodup.sublist hkept, List.nodup_singleton _, ?_⟩
        intro id hid id' hid' heq
        obtain rfl := List.mem_singleton.mp hid'
        exact hfresh (hkept.subset (heq ▸ hid))
      · intro pending hpending
        have hp' : some incident = some pending := hp.symm.trans hpending
        obtain rfl := Option.some.inj hp'
        exact ⟨kept, hf⟩
  | acknowledgeForgeIncident =>
    cases hp : record.pendingForgeIncident with
    | none =>
      have hsame : record.after .acknowledgeForgeIncident = record :=
        congrArg Prod.fst (acknowledgeForgeIncident_none hp)
      rwa [hsame]
    | some pending =>
      obtain ⟨earlier, he, hf, hnone, -⟩ := h.acknowledge hp
      refine ⟨?_, ?_⟩
      · have hids := h.ids_nodup
        rw [he, List.map_append, List.map_singleton] at hids
        show (record.acknowledgeForgeIncident.1.forgeIncidents.map _).Nodup
        rw [hf, List.map_append, List.map_singleton]
        exact hids
      · intro pending' hpending'
        have hcontra : none = some pending' := hnone.symm.trans hpending'
        simp at hcontra

/-- From a latched record exactly the calls that acknowledge the last open incident keep the
latch. -/
theorem Latched.after_iff {record : SafeLoopRecord} (hkept : record.IncidentsKept)
    (h : record.Latched) (call : SafeLoopCall) :
    (record.after call).Latched ↔ record.acknowledgesLast call := by
  cases call with
  | boot bootFlag bugcheck =>
    have hrec := recover_incidents record bootFlag bugcheck
    simp only [acknowledgesLast, iff_true, Latched, SafeLoopRecord.after, hrec.1, hrec.2]
    exact h
  | markValidated point => exact iff_of_true h trivial
  | clearRecoveryLatch => exact iff_of_true h trivial
  | recordForgeIncident incident =>
    refine iff_of_true ?_ trivial
    rcases record.recordForgeIncident_cases incident with hdup | ⟨-, hp, -⟩
    · have hsame : record.after (.recordForgeIncident incident) = record :=
        congrArg Prod.fst hdup
      rwa [hsame]
    · intro hopen
      show (record.recordForgeIncident incident).1.pendingForgeIncident.isSome
      rw [hp]
      rfl
  | acknowledgeForgeIncident =>
    cases hp : record.pendingForgeIncident with
    | none =>
      have hsame : record.after .acknowledgeForgeIncident = record :=
        congrArg Prod.fst (acknowledgeForgeIncident_none hp)
      refine iff_of_true (by rwa [hsame]) ?_
      intro pending hpending
      simp [hp] at hpending
    | some pending =>
      obtain ⟨earlier, he, hf, hnone, -⟩ := hkept.acknowledge hp
      have hfresh := hkept.pending_fresh he
      have hlatched : (record.after .acknowledgeForgeIncident).Latched ↔
          ∀ stored ∈ earlier, stored.acknowledged = true := by
        simp only [Latched, SafeLoopRecord.after, hf, hnone]
        simp
      rw [hlatched]
      constructor
      · intro hall pending' hpending' stored hstored hopen
        rw [hp] at hpending'
        obtain rfl := Option.some.inj hpending'
        rw [he] at hstored
        rcases List.mem_append.mp hstored with hearlier | hlast
        · simp [hall stored hearlier] at hopen
        · rw [List.mem_singleton.mp hlast]
      · intro hok stored hstored
        by_contra hopen
        have hid := hok pending hp stored (he ▸ List.mem_append_left _ hstored)
          (Bool.eq_false_iff.mpr hopen)
        exact hfresh (hid ▸ List.mem_map_of_mem hstored)

end SafeLoopRecord

theorem safeLoop_incidentsKept {calls : List SafeLoopCall} {record : SafeLoopRecord}
    (h : safeLoop.Run calls record) : record.IncidentsKept := by
  refine h.invariant (I := SafeLoopRecord.IncidentsKept) ?_ ?_
  · intro s hs
    obtain rfl := hs
    exact ⟨List.nodup_nil, fun pending hp => by simp at hp⟩
  · intro s call s' hinv hs
    obtain rfl := hs
    exact hinv.after call

theorem safeLoop_latched {calls : List SafeLoopCall} {record : SafeLoopRecord}
    (h : (safeLoop.guarded SafeLoopRecord.acknowledgesLast).Run calls record) :
    record.IncidentsKept ∧ record.Latched := by
  refine h.invariant (I := fun r => r.IncidentsKept ∧ r.Latched) ?_ ?_
  · intro s hs
    obtain rfl := hs
    exact ⟨⟨List.nodup_nil, fun pending hp => by simp at hp⟩,
      fun hopen => by simp at hopen⟩
  · intro s call s' hinv hs
    obtain ⟨hok, rfl⟩ := hs
    exact ⟨hinv.1.after call, (SafeLoopRecord.Latched.after_iff hinv.1 hinv.2 call).mpr hok⟩

/-- With an incident pending, a clean boot outside Safe Mode stays at stock. -/
theorem recover_pending {record : SafeLoopRecord} {bugcheck : CrashClass}
    (hsafe : record.safeMode = false) (hp : record.pendingForgeIncident.isSome) :
    ∃ incident, decideRecovery none bugcheck record = .awaitOperatorAcknowledgement incident ∧
      (recover record none bugcheck).2 = TuningPoint.stock := by
  obtain ⟨incident, hi⟩ := Option.isSome_iff_exists.mp hp
  have hdecide : decideRecovery none bugcheck record =
      .awaitOperatorAcknowledgement incident := by
    simp [decideRecovery, hsafe, hi]
  exact ⟨incident, hdecide, by rw [recover, hdecide]; rfl⟩

/-- The incident latch holds over every run that acknowledges only the last open incident, and
no other acknowledgement keeps it; each acknowledgement marks one stored incident, and a
duplicate changes nothing. -/
theorem forgeIncident_latch (calls : List SafeLoopCall) (record : SafeLoopRecord) :
    ((safeLoop.guarded SafeLoopRecord.acknowledgesLast).Run calls record →
      (∃ stored ∈ record.forgeIncidents, stored.acknowledged = false) →
        record.pendingForgeIncident.isSome ∧
        ∀ bugcheck, record.safeMode = false →
          ∃ incident, decideRecovery none bugcheck record =
              .awaitOperatorAcknowledgement incident ∧
            (recover record none bugcheck).2 = TuningPoint.stock) ∧
    (safeLoop.Run calls record → record.Latched → ∀ call,
      (record.after call).Latched ↔ record.acknowledgesLast call) ∧
    (safeLoop.Run calls record → ∀ pending, record.pendingForgeIncident = some pending →
      ∃ earlier, record.forgeIncidents = earlier ++ [pending] ∧
        record.acknowledgeForgeIncident.1.forgeIncidents =
          earlier ++ [{ pending with acknowledged := true }]) ∧
    ∀ incident, (record.recordForgeIncident incident).2 = false →
      (record.recordForgeIncident incident).1 = record := by
  refine ⟨?_, ?_, ?_, ?_⟩
  · intro hrun hopen
    have hp := (safeLoop_latched hrun).2 hopen
    exact ⟨hp, fun bugcheck hsafe => recover_pending hsafe hp⟩
  · intro hrun hlatched call
    exact hlatched.after_iff (safeLoop_incidentsKept hrun) call
  · intro hrun pending hp
    obtain ⟨earlier, he, hf, -⟩ := (safeLoop_incidentsKept hrun).acknowledge hp
    exact ⟨earlier, he, hf⟩
  · intro incident hrefused
    rcases record.recordForgeIncident_cases incident with hdup | ⟨haccepted, -⟩
    · rw [hdup]
    · simp [haccepted] at hrefused

def incidentOf (id : String) : ForgeIncident where
  id := id
  kind := .runtimeFailure
  detectedAt := "2026-07-15T00:00:00Z"
  runId := some id
  gpuKey := none
  targetMhz := none
  anchorMv := none
  message := ""
  acknowledged := false

/-- A recorded incident holds the latch. -/
theorem forgeIncident_latch_after_record :
    ∃ record, (safeLoop.guarded SafeLoopRecord.acknowledgesLast).Run
        ([] ++ [.recordForgeIncident (incidentOf "forge-1")]) record ∧
      record.pendingForgeIncident.isSome := by
  have hrun : (safeLoop.guarded SafeLoopRecord.acknowledgesLast).Run
      ([] ++ [.recordForgeIncident (incidentOf "forge-1")]) _ :=
    .next (.start rfl) ⟨trivial, rfl⟩
  exact ⟨_, hrun, ((forgeIncident_latch _ _).1 hrun ⟨incidentOf "forge-1", by decide, rfl⟩).1⟩

/-- Acknowledging the second of two incidents releases the latch of the first. -/
theorem forgeIncident_latch_released :
    ¬ ∀ calls record, safeLoop.Run calls record → record.Latched := by
  intro h
  have hrun := h _ _ (.next (.next (.next (.start rfl) rfl) rfl) rfl :
    safeLoop.Run ([] ++ [.recordForgeIncident (incidentOf "forge-1")] ++
      [.recordForgeIncident (incidentOf "forge-2")] ++ [.acknowledgeForgeIncident]) _)
  have hpending := hrun ⟨incidentOf "forge-1", by decide, rfl⟩
  revert hpending
  decide

end Nidavellir
