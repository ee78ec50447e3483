import Mathlib.Algebra.Order.Group.Multiset
import Nidavellir.FloorWalk
import Nidavellir.Lib.Ledger

namespace Nidavellir

inductive CondemnationSeverity
  | rigid
  | quarantine
deriving DecidableEq, Repr

/-- One append-only ledger line. A rehabilitated entry cancels prior entries at its pair. -/
structure CondemnationEvent where
  timestamp : String
  gpuKey : Option String
  severity : CondemnationSeverity
  kind : String
  targetMhz : Nat
  vfBinMv : Nat
  runId : Option String
  qualificationContractVersion : Option Nat
  note : Option String
  rehabilitated : Bool
deriving DecidableEq, Repr

def CondemnationEvent.pair (e : CondemnationEvent) : Nat × Nat := (e.targetMhz, e.vfBinMv)

/-- An entry without a key matches every GPU. -/
def CondemnationEvent.foreign (e : CondemnationEvent) (gpuKey : String) : Bool :=
  e.gpuKey.any (· != gpuKey)

/-- The event a field failure of one pair leaves behind. -/
def rigidCondemnation (targetMhz vfBinMv : Nat) : CondemnationEvent where
  timestamp := "2026-07-15T00:00:00Z"
  gpuKey := some "gpu-a"
  severity := .rigid
  kind := "device-lost"
  targetMhz := targetMhz
  vfBinMv := vfBinMv
  runId := none
  qualificationContractVersion := none
  note := none
  rehabilitated := false

structure CondemnedPairs where
  rigid : List (Nat × Nat) := []
  quarantine : List (Nat × Nat) := []
  quarantineContracts : List (Nat × Nat × Option Nat) := []
deriving DecidableEq, Repr

def CondemnedPairs.push (out : CondemnedPairs) (e : CondemnationEvent) : CondemnedPairs :=
  match e.severity with
  | .rigid => { out with rigid := out.rigid ++ [e.pair] }
  | .quarantine =>
    { out with
      quarantine := out.quarantine ++ [e.pair]
      quarantineContracts := out.quarantineContracts ++
        [(e.targetMhz, e.vfBinMv, e.qualificationContractVersion)] }

def condemns (gpuKey : String) (e : CondemnationEvent) : Bool :=
  !(e.foreign gpuKey || e.rehabilitated)

/-- The cancellation test of `condemned_pairs`: same pair, key absent or equal to `gpuKey`. -/
def liftsFor (gpuKey : String) (r e : CondemnationEvent) : Bool :=
  r.rehabilitated && r.targetMhz == e.targetMhz && r.vfBinMv == e.vfBinMv && !r.foreign gpuKey

/-- The cancellation test of `effective_condemnation_events`: same pair, same key. -/
def liftsExactly (later event : CondemnationEvent) : Bool :=
  later.rehabilitated && later.targetMhz == event.targetMhz &&
    later.vfBinMv == event.vfBinMv && later.gpuKey == event.gpuKey

def condemnedPairs (events : List CondemnationEvent) (gpuKey : String) : CondemnedPairs :=
  (Ledger.uncancelled (condemns gpuKey) (liftsFor gpuKey) events).foldl CondemnedPairs.push {}

def condemnedPairsForRun (events : List CondemnationEvent) (gpuKey runId : String) :
    CondemnedPairs :=
  condemnedPairs (events.filter fun e => e.runId == some runId) gpuKey

def effectiveCondemnationEvents (events : List CondemnationEvent) : List CondemnationEvent :=
  Ledger.uncancelled (fun event => !event.rehabilitated) liftsExactly events

def toClockMv (p : Nat × Nat) : Int × Int := (p.1, p.2)

/-- `u32` values are naturals here, so `u32::try_from` fails on negatives only. -/
def vfFloorEnvelope (pairs : List (Nat × Nat)) (clockMhz : Nat) : Option Nat :=
  (floorEnvelope (pairs.map toClockMv) clockMhz).bind Int.toNat?

def CondemnedPairs.refuses (self : CondemnedPairs) (clockMhz anchorMv : Nat) : Bool :=
  (vfFloorEnvelope self.rigid clockMhz).any (anchorMv ≤ ·) ||
    (vfFloorEnvelope self.quarantine clockMhz).any (anchorMv < ·)

def CondemnedPairs.requiredApplyPasses (self : CondemnedPairs)
    (clockMhz anchorMv currentContract : Nat) : Nat :=
  if self.quarantineContracts.any fun (c, v, contract) =>
    c == clockMhz && v == anchorMv && contract.all (currentContract ≤ ·) then 2 else 1

theorem floorEnvelope_toClockMv_nonneg {pairs : List (Nat × Nat)} {clockMhz : Nat} {f : Int}
    (h : floorEnvelope (pairs.map toClockMv) clockMhz = some f) : 0 ≤ f := by
  obtain ⟨w, ⟨⟨x, -, hw⟩, -⟩, hwf⟩ := (floorEnvelope_eq_some_iff.mp h).exists_worst_le
  obtain ⟨p, -, hp⟩ := List.mem_map.mp (mem_pointsOf.mp hw)
  have hmv : (p.2 : Int) = w := congrArg Prod.snd hp
  omega

/-- No floor over condemned voltages is lost to `u32::try_from`. -/
theorem vfFloorEnvelope_eq_some_iff {pairs : List (Nat × Nat)} {clockMhz f : Nat} :
    vfFloorEnvelope pairs clockMhz = some f ↔
      floorEnvelope (pairs.map toClockMv) clockMhz = some (f : Int) := by
  unfold vfFloorEnvelope
  constructor
  · intro h
    obtain ⟨g, hg, hgf⟩ := Option.bind_eq_some_iff.mp h
    have hpos := floorEnvelope_toClockMv_nonneg hg
    rw [hg, ← Int.mem_toNat?.mp hgf]
  · intro h
    rw [h]
    rfl

theorem vfFloorEnvelope_append_mono {pairs : List (Nat × Nat)} {q : Nat × Nat}
    (h : ¬ SplitsChord (pairs.map toClockMv) (toClockMv q)) {clockMhz f : Nat}
    (hf : vfFloorEnvelope pairs clockMhz = some f) :
    ∃ g, vfFloorEnvelope (pairs ++ [q]) clockMhz = some g ∧ f ≤ g := by
  obtain ⟨g, hg, hfg⟩ := floorEnvelope_append_mono h (vfFloorEnvelope_eq_some_iff.mp hf)
  have hmap : (pairs ++ [q]).map toClockMv = pairs.map toClockMv ++ [toClockMv q] := by simp
  rw [← hmap] at hg
  obtain ⟨g, rfl⟩ := Int.eq_ofNat_of_zero_le (floorEnvelope_toClockMv_nonneg hg)
  exact ⟨g, vfFloorEnvelope_eq_some_iff.mpr hg, by omega⟩

theorem vfFloorEnvelope_append_mono_iff {pairs : List (Nat × Nat)} {q : Nat × Nat} :
    (∀ clockMhz f, vfFloorEnvelope pairs clockMhz = some f →
      ∃ g, vfFloorEnvelope (pairs ++ [q]) clockMhz = some g ∧ f ≤ g) ↔
      ¬ SplitsChord (pairs.map toClockMv) (toClockMv q) := by
  refine ⟨?_, fun h clockMhz f hf => vfFloorEnvelope_append_mono h hf⟩
  intro hmono hs
  obtain ⟨f, hf, hsplit⟩ := hs
  obtain ⟨f, rfl⟩ := Int.eq_ofNat_of_zero_le (floorEnvelope_toClockMv_nonneg hf)
  obtain ⟨g, hg, hfg⟩ := hmono q.1 f (vfFloorEnvelope_eq_some_iff.mpr hf)
  have hg' := vfFloorEnvelope_eq_some_iff.mp hg
  rw [List.map_append, List.map_singleton] at hg'
  have := floorEnvelope_append_lt ⟨f, hf, hsplit⟩ hf hg'
  omega

def CondemnedPairs.bySeverity (self : CondemnedPairs) : CondemnationSeverity → List (Nat × Nat)
  | .rigid => self.rigid
  | .quarantine => self.quarantine

@[simp] theorem CondemnedPairs.bySeverity_push (out : CondemnedPairs) (e : CondemnationEvent)
    (s : CondemnationSeverity) :
    (out.push e).bySeverity s = out.bySeverity s ++ if e.severity = s then [e.pair] else [] := by
  cases s <;> cases h : e.severity <;> simp [CondemnedPairs.bySeverity, CondemnedPairs.push, h]

theorem CondemnedPairs.refuses_iff {self : CondemnedPairs} {clockMhz anchorMv : Nat} :
    self.refuses clockMhz anchorMv ↔
      (∃ f, vfFloorEnvelope (self.bySeverity .rigid) clockMhz = some f ∧ anchorMv ≤ f) ∨
        ∃ f, vfFloorEnvelope (self.bySeverity .quarantine) clockMhz = some f ∧ anchorMv < f := by
  simp [CondemnedPairs.refuses, CondemnedPairs.bySeverity, Option.any_eq_true]

/-- A condemnation only adds its own pair: it cancels nothing. -/
theorem condemnedPairs_append {e : CondemnationEvent} (he : e.rehabilitated = false)
    (events : List CondemnationEvent) (gpuKey : String) :
    condemnedPairs (events ++ [e]) gpuKey =
      if condemns gpuKey e then (condemnedPairs events gpuKey).push e
      else condemnedPairs events gpuKey := by
  have hnone : ∀ x, liftsFor gpuKey e x = false := fun x => by simp [liftsFor, he]
  unfold condemnedPairs
  rw [Ledger.uncancelled_append_singleton hnone]
  split <;> simp [List.foldl_append]

theorem CondemnedPairs.refuses_push {self : CondemnedPairs} {e : CondemnationEvent}
    (h : ¬ SplitsChord ((self.bySeverity e.severity).map toClockMv) (toClockMv e.pair))
    {clockMhz anchorMv : Nat} (href : self.refuses clockMhz anchorMv) :
    (self.push e).refuses clockMhz anchorMv := by
  have hmono : ∀ s f, vfFloorEnvelope (self.bySeverity s) clockMhz = some f →
      ∃ g, vfFloorEnvelope ((self.push e).bySeverity s) clockMhz = some g ∧ f ≤ g := by
    intro s f hf
    rw [CondemnedPairs.bySeverity_push]
    split
    next hs =>
      subst hs
      exact vfFloorEnvelope_append_mono h hf
    next => exact ⟨f, by simpa using hf, le_rfl⟩
  rw [CondemnedPairs.refuses_iff] at href ⊢
  rcases href with ⟨f, hf, hle⟩ | ⟨f, hf, hlt⟩
  · obtain ⟨g, hg, hfg⟩ := hmono .rigid f hf
    exact Or.inl ⟨g, hg, hle.trans hfg⟩
  · obtain ⟨g, hg, hfg⟩ := hmono .quarantine f hf
    exact Or.inr ⟨g, hg, lt_of_lt_of_le hlt hfg⟩

theorem condemnedPairs_refuses_append {events : List CondemnationEvent} {gpuKey : String}
    {e : CondemnationEvent} (he : e.rehabilitated = false)
    (h : ¬ (condemns gpuKey e ∧
      SplitsChord (((condemnedPairs events gpuKey).bySeverity e.severity).map toClockMv)
        (toClockMv e.pair)))
    {clockMhz anchorMv : Nat} (href : (condemnedPairs events gpuKey).refuses clockMhz anchorMv) :
    (condemnedPairs (events ++ [e]) gpuKey).refuses clockMhz anchorMv := by
  rw [condemnedPairs_append he]
  split
  next hc => exact CondemnedPairs.refuses_push (fun hs => h ⟨hc, hs⟩) href
  next => exact href

abbrev LedgerEntry := CondemnationSeverity × Nat × Nat

def CondemnationEvent.entry (e : CondemnationEvent) : LedgerEntry :=
  (e.severity, e.targetMhz, e.vfBinMv)

/-- What refusal enforces, with multiplicity. -/
def CondemnedPairs.entries (self : CondemnedPairs) : Multiset LedgerEntry :=
  Multiset.ofList (self.rigid.map (CondemnationSeverity.rigid, ·)) +
    Multiset.ofList (self.quarantine.map (CondemnationSeverity.quarantine, ·))

/-- What the audit shows as active on one GPU, with multiplicity. -/
def auditedEntries (events : List CondemnationEvent) (gpuKey : String) : Multiset LedgerEntry :=
  ((effectiveCondemnationEvents events).filter fun e => !e.foreign gpuKey).map
    CondemnationEvent.entry

theorem CondemnedPairs.entries_push (out : CondemnedPairs) (e : CondemnationEvent) :
    (out.push e).entries = out.entries + {e.entry} := by
  cases h : e.severity
  · simp only [push, h, entries, CondemnationEvent.entry, CondemnationEvent.pair, List.map_append,
      List.map_singleton, ← Multiset.coe_add, Multiset.coe_singleton]
    exact add_right_comm _ _ _
  · simp only [push, h, entries, CondemnationEvent.entry, CondemnationEvent.pair, List.map_append,
      List.map_singleton, ← Multiset.coe_add, Multiset.coe_singleton]
    exact (add_assoc _ _ _).symm

theorem CondemnedPairs.entries_foldl_push (events : List CondemnationEvent)
    (out : CondemnedPairs) :
    (events.foldl push out).entries =
      out.entries + Multiset.ofList (events.map CondemnationEvent.entry) := by
  induction events generalizing out with
  | nil => simp
  | cons e events ih =>
    rw [List.foldl_cons, ih, entries_push, add_assoc, Multiset.singleton_add, List.map_cons,
      Multiset.cons_coe]

theorem condemnedPairs_entries (events : List CondemnationEvent) (gpuKey : String) :
    (condemnedPairs events gpuKey).entries =
      (Ledger.uncancelled (condemns gpuKey) (liftsFor gpuKey) events).map
        CondemnationEvent.entry := by
  rw [condemnedPairs, CondemnedPairs.entries_foldl_push]
  simp [CondemnedPairs.entries]

theorem auditedEntries_eq (events : List CondemnationEvent) (gpuKey : String) :
    auditedEntries events gpuKey =
      (Ledger.uncancelled (condemns gpuKey) liftsExactly events).map CondemnationEvent.entry := by
  have hkeep : (fun e : CondemnationEvent => !e.rehabilitated && !e.foreign gpuKey) =
      condemns gpuKey := by
    funext e
    simp [condemns, Bool.and_comm]
  rw [auditedEntries, effectiveCondemnationEvents, Ledger.filter_uncancelled, hkeep]

/-- A rehabilitation under the condemnation's own key lifts it for every GPU it condemns. -/
theorem liftsFor_of_liftsExactly {gpuKey : String} {r e : CondemnationEvent}
    (hc : condemns gpuKey e) (h : liftsExactly r e) : liftsFor gpuKey r e := by
  simp only [condemns, liftsExactly, liftsFor, CondemnationEvent.foreign, Bool.and_eq_true,
    Bool.not_eq_true', Bool.or_eq_false_iff, beq_iff_eq] at hc h ⊢
  obtain ⟨⟨⟨hr, ht⟩, hv⟩, hk⟩ := h
  exact ⟨⟨⟨hr, ht⟩, hv⟩, hk ▸ hc.1⟩

theorem condemnedPairs_entries_le_audited (events : List CondemnationEvent) (gpuKey : String) :
    (condemnedPairs events gpuKey).entries ≤ auditedEntries events gpuKey := by
  rw [condemnedPairs_entries, auditedEntries_eq, Multiset.coe_le]
  exact ((Ledger.uncancelled_sublist_of_cancels
    (fun _ _ => liftsFor_of_liftsExactly) events).map _).subperm

theorem condemnedPairs_entries_eq_audited_iff {events : List CondemnationEvent}
    {gpuKey : String} :
    (condemnedPairs events gpuKey).entries = auditedEntries events gpuKey ↔
      Ledger.uncancelled (condemns gpuKey) (liftsFor gpuKey) events =
        Ledger.uncancelled (condemns gpuKey) liftsExactly events := by
  rw [condemnedPairs_entries, auditedEntries_eq]
  constructor
  · intro h
    have hlen := congrArg Multiset.card h
    rw [Multiset.coe_card, Multiset.coe_card, List.length_map, List.length_map] at hlen
    exact (Ledger.uncancelled_sublist_of_cancels
      (fun _ _ => liftsFor_of_liftsExactly) events).eq_of_length hlen
  · intro h
    rw [h]

/-- Enforcement and audit agree exactly when every rehabilitation that refusal honours for an
active condemnation comes with one under the condemnation's own key. -/
theorem condemnation_views_agree_iff (events : List CondemnationEvent) (gpuKey : String) :
    (condemnedPairs events gpuKey).entries = auditedEntries events gpuKey ↔
      ∀ before e later, events = before ++ e :: later → condemns gpuKey e →
        (∃ r ∈ later, r.rehabilitated ∧ r.pair = e.pair ∧ ¬ r.foreign gpuKey) →
        ∃ r ∈ later, r.rehabilitated ∧ r.pair = e.pair ∧ r.gpuKey = e.gpuKey := by
  rw [condemnedPairs_entries_eq_audited_iff,
    Ledger.uncancelled_eq_iff fun _ _ => liftsFor_of_liftsExactly]
  have hfor : ∀ r e, liftsFor gpuKey r e = true ↔
      r.rehabilitated ∧ r.pair = e.pair ∧ ¬ r.foreign gpuKey := fun r e => by
    simp [liftsFor, CondemnationEvent.pair, and_assoc]
  have hexact : ∀ r e, liftsExactly r e = true ↔
      r.rehabilitated ∧ r.pair = e.pair ∧ r.gpuKey = e.gpuKey := fun r e => by
    simp [liftsExactly, CondemnationEvent.pair, and_assoc]
  simp only [List.any_eq_true, hfor, hexact]

/-- A keyless rehabilitation lifts a keyed condemnation for refusal but not for the audit. -/
theorem condemnation_views_disagree :
    ¬ ∀ (events : List CondemnationEvent) (gpuKey : String),
      (condemnedPairs events gpuKey).entries = auditedEntries events gpuKey := by
  intro h
  have := congrArg Multiset.card (h [rigidCondemnation 1845 856,
    { rigidCondemnation 1845 856 with gpuKey := none, rehabilitated := true }] "gpu-a")
  revert this
  decide

end Nidavellir
