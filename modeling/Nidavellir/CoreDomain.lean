import Nidavellir.Lib.GapRuns
import Nidavellir.VfHardware
import Nidavellir.WarmStart

namespace Nidavellir

open Extremes GapRuns

structure CoreCluster where
  vMinMv : Nat
  vMaxMv : Nat
  fMinMhz : Nat
  fMaxMhz : Nat
  pointCount : Nat
  binsMv : List Nat
deriving DecidableEq, Repr

/-- The geometry of the chosen run. -/
def coreCluster (chosen : List VfBin) : CoreCluster where
  vMinMv := (chosen.map VfBin.mv).head?.getD 0
  vMaxMv := (chosen.map VfBin.mv).getLast?.getD 0
  fMinMhz := (chosen.map VfBin.base).min?.getD 0
  fMaxMhz := (chosen.map VfBin.base).max?.getD 0
  pointCount := chosen.length
  binsMv := dedup (chosen.map VfBin.mv)

structure CoreSeed where
  stockBoostMaxMhz : Nat
  stockSustainedMhz : Nat
  safeStartMv : Nat
  rawCount : Nat
  retainedCount : Nat
  rejectedCount : Nat
  rejectedMaxFreqMhz : Option Nat
  rejectedMaxVoltageMv : Option Nat
  clusterPointCount : Nat
  clusterVMinMv : Nat
  clusterVMaxMv : Nat
  clusterFMinMhz : Nat
  clusterFMaxMhz : Nat
  clusterBinsMv : List Nat
  outliersAboveCount : Nat
  warnings : List String
deriving DecidableEq, Repr

def isSaneBin (bin : VfBin) : Bool := isSaneCorePoint bin.mv bin.base

def saneCorePoints (curve : List VfBin) : List VfBin := curve.filter isSaneBin

def coreFreqSoftWarnMhz : Nat := 3200
def coreFreqHardMaxMhz : Nat := 3500
def coreVfHardMaxMv : Nat := 1150

def seedWarnings (stockBoostMaxMhz safeStartMv outliersAboveCount : Nat) : List String :=
  (if stockBoostMaxMhz > coreFreqSoftWarnMhz then
    [s!"stock boost {stockBoostMaxMhz} MHz is above the soft-warn {coreFreqSoftWarnMhz} MHz"]
  else []) ++
  if outliersAboveCount > 0 then
    [s!"rejected {outliersAboveCount} isolated high-voltage outlier(s) above the core cluster " ++
      s!"top ({safeStartMv} mV)"]
  else []

/-- The seed of a cluster, with what the diagnostics say about the rest of the curve. -/
def coreSeed (curve : List VfBin) (cluster : CoreCluster) : CoreSeed :=
  let sane := saneCorePoints curve
  let rejected := curve.filter fun bin => !isSaneBin bin
  let outliersAboveCount := sane.countP fun bin => decide (bin.mv > cluster.vMaxMv)
  { stockBoostMaxMhz := cluster.fMaxMhz
    stockSustainedMhz := cluster.fMaxMhz
    safeStartMv := cluster.vMaxMv
    rawCount := curve.length
    retainedCount := sane.length
    rejectedCount := curve.length - sane.length
    rejectedMaxFreqMhz := (rejected.map VfBin.base).max?
    rejectedMaxVoltageMv := (rejected.map VfBin.mv).max?
    clusterPointCount := cluster.pointCount
    clusterVMinMv := cluster.vMinMv
    clusterVMaxMv := cluster.vMaxMv
    clusterFMinMhz := cluster.fMinMhz
    clusterFMaxMhz := cluster.fMaxMhz
    clusterBinsMv := cluster.binsMv
    outliersAboveCount := outliersAboveCount
    warnings := seedWarnings cluster.fMaxMhz cluster.vMaxMv outliersAboveCount }

def noSanePoints (curve : List VfBin) : String :=
  let rejected := curve.filter fun bin => !isSaneBin bin
  s!"no sane graphics-core VF points among {curve.length} read (rejected max " ++
    s!"freq={debugSteps (rejected.map VfBin.base).max?} MHz, max " ++
    s!"voltage={debugSteps (rejected.map VfBin.mv).max?} mV) — failing closed; a GPU outside " ++
    "the sanity domain needs a code update"

def deriveCoreSeed (curve : List VfBin) : Except String CoreSeed :=
  let sane := saneCorePoints curve
  if sane.isEmpty then .error (noSanePoints curve)
  else
    match selectCoreCluster sane with
    | .error e => .error e
    | .ok chosen =>
      let cluster := coreCluster chosen
      if cluster.fMaxMhz > coreFreqHardMaxMhz then
        .error (s!"derived boost {cluster.fMaxMhz} MHz exceeds core hard max " ++
          s!"{coreFreqHardMaxMhz} — failing closed")
      else if cluster.vMaxMv > coreVfHardMaxMv then
        .error (s!"derived safe_start {cluster.vMaxMv} mV exceeds core hard max " ++
          s!"{coreVfHardMaxMv} — failing closed")
      else .ok (coreSeed curve cluster)

/-- Neighbours of one run. -/
def nearMv (low high : Nat) : Bool := decide (high - low ≤ coreClusterGapMv)

theorem nearMv_self (mv : Nat) : nearMv mv mv = true := by simp [nearMv]

def voltageOrder (a b : VfBin) : Prop := a.mv < b.mv ∨ a.mv = b.mv ∧ a.index ≤ b.index

instance : DecidableRel voltageOrder := fun _ _ => inferInstanceAs (Decidable (_ ∨ _))

instance : Std.Total voltageOrder where
  total a b := by
    unfold voltageOrder
    omega

instance : IsTrans VfBin voltageOrder where
  trans a b c hab hbc := by
    unfold voltageOrder at *
    omega

/-- The points in the order of the pass. -/
def sortedPoints (sane : List VfBin) : List VfBin := sane.insertionSort voltageOrder

def coreClusters (sane : List VfBin) : List (List VfBin) :=
  (sortedPoints sane).foldl growClusters []

theorem sortedPoints_perm (sane : List VfBin) : (sortedPoints sane).Perm sane :=
  List.perm_insertionSort _ _

theorem sortedPoints_sorted (sane : List VfBin) :
    (sortedPoints sane).Pairwise fun a b => a.mv ≤ b.mv := by
  refine (List.pairwise_insertionSort voltageOrder sane).imp fun {a b} h => ?_
  unfold voltageOrder at h
  omega

theorem growClusters_eq_push {clusters : List (List VfBin)} (hne : [] ∉ clusters) (p : VfBin) :
    growClusters clusters p = push (fun a b => nearMv a.mv b.mv) clusters p := by
  unfold growClusters push
  cases hlast : clusters.getLast? with
  | none => rfl
  | some run =>
    obtain ⟨front, last, rfl⟩ := (List.eq_nil_or_concat' run).resolve_left fun h =>
      hne (h ▸ List.mem_of_getLast? hlast)
    simp [nearMv]

theorem foldl_growClusters (points : List VfBin) :
    points.foldl growClusters [] = greedyRuns (fun a b => nearMv a.mv b.mv) points := by
  induction points using List.reverseRecOn with
  | nil => rfl
  | append_singleton points p ih =>
    have hruns := maximalRuns_greedyRuns (fun a b : VfBin => nearMv a.mv b.mv) points
    rw [List.foldl_append, ih, List.foldl_cons, List.foldl_nil,
      growClusters_eq_push hruns.nonempty]
    unfold greedyRuns
    rw [List.foldl_append]
    rfl

theorem coreClusters_maximal (sane : List VfBin) :
    MaximalRuns (fun a b => nearMv a.mv b.mv) (sortedPoints sane) (coreClusters sane) := by
  rw [coreClusters, foldl_growClusters]
  exact maximalRuns_greedyRuns _ _

/-- Larger first, and of one size the one that starts lower. -/
def voltagesBefore (a b : List Nat) : Prop :=
  b.length < a.length ∨ a.length = b.length ∧ a.head?.getD 0 ≤ b.head?.getD 0

instance : DecidableRel voltagesBefore := fun _ _ => inferInstanceAs (Decidable (_ ∨ _))

instance : Std.Total voltagesBefore where
  total a b := by
    unfold voltagesBefore
    omega

instance : IsTrans (List Nat) voltagesBefore where
  trans a b c hab hbc := by
    unfold voltagesBefore at *
    omega

theorem clusterBefore_iff (a b : List VfBin) :
    clusterBefore a b = true ↔ voltagesBefore (a.map VfBin.mv) (b.map VfBin.mv) := by
  have hhead : ∀ run : List VfBin,
      run.head?.elim 0 VfBin.mv = (run.map VfBin.mv).head?.getD 0 := by
    intro run
    cases run <;> rfl
  unfold clusterBefore voltagesBefore
  rw [hhead, hhead, List.length_map, List.length_map, Bool.or_eq_true, Bool.and_eq_true,
    decide_eq_true_iff, decide_eq_true_iff, beq_iff_eq]

/-- The voltages of the chosen run. -/
def chosenVoltages (runs : List (List Nat)) : Option (List Nat) :=
  (runs.insertionSort voltagesBefore).head?

def chosenCluster (clusters : List (List VfBin)) : Option (List VfBin) :=
  (clusters.insertionSort fun a b => clusterBefore a b = true).head?

theorem chosenCluster_voltages (clusters : List (List VfBin)) :
    (chosenCluster clusters).map (List.map VfBin.mv) =
      chosenVoltages (clusters.map (List.map VfBin.mv)) := by
  unfold chosenCluster chosenVoltages
  rw [← List.map_insertionSort _ voltagesBefore (List.map VfBin.mv) clusters
    fun a _ b _ => clusterBefore_iff a b, List.head?_map]

/-- A largest run, and the lowest of those. -/
structure Largest (clusters : List (List VfBin)) (chosen : List VfBin) : Prop where
  mem : chosen ∈ clusters
  before : ∀ other ∈ clusters, voltagesBefore (chosen.map VfBin.mv) (other.map VfBin.mv)

theorem largest_of_chosenCluster {clusters : List (List VfBin)} {chosen : List VfBin}
    (h : chosenCluster clusters = some chosen) : Largest clusters chosen := by
  have hperm := List.perm_insertionSort (fun a b => clusterBefore a b = true) clusters
  have hmem : chosen ∈ clusters := hperm.mem_iff.mp (List.mem_of_head? h)
  refine ⟨hmem, fun other hother => ?_⟩
  have hsorted := List.pairwise_insertionSort voltagesBefore (clusters.map (List.map VfBin.mv))
  have hhead : chosenVoltages (clusters.map (List.map VfBin.mv)) =
      some (chosen.map VfBin.mv) := by
    rw [← chosenCluster_voltages, h, Option.map_some]
  have hother' : other.map VfBin.mv ∈
      (clusters.map (List.map VfBin.mv)).insertionSort voltagesBefore :=
    (List.perm_insertionSort _ _).mem_iff.mpr (List.mem_map_of_mem hother)
  unfold chosenVoltages at hhead
  generalize (clusters.map (List.map VfBin.mv)).insertionSort voltagesBefore = sorted at *
  cases sorted with
  | nil => cases hhead
  | cons first rest =>
    cases hhead
    rcases List.mem_cons.mp hother' with heq | hrest
    · rw [heq]
      exact (Std.Total.total _ _).elim id id
    · exact (List.pairwise_cons.mp hsorted).1 _ hrest

theorem chosenCluster_isSome {clusters : List (List VfBin)} (hne : clusters ≠ []) :
    ∃ chosen, chosenCluster clusters = some chosen := by
  have hlen := List.length_insertionSort (fun a b => clusterBefore a b = true) clusters
  unfold chosenCluster
  cases hsorted : clusters.insertionSort fun a b => clusterBefore a b = true with
  | nil =>
    rw [hsorted] at hlen
    exact absurd (List.length_eq_zero_iff.mp hlen.symm) hne
  | cons chosen rest => exact ⟨chosen, rfl⟩

theorem selectCoreCluster_eq (sane : List VfBin) :
    selectCoreCluster sane =
      (chosenCluster (coreClusters sane)).elim
        (.error "no sane core points to cluster — failing closed") fun chosen =>
        if chosen.length < minCoreClusterPoints then
          .error (s!"largest core VF cluster has only {chosen.length} point(s) " ++
            s!"(< {minCoreClusterPoints} required) — ambiguous, failing closed")
        else .ok chosen := by
  unfold selectCoreCluster chosenCluster
  dsimp only
  split
  next hnil =>
    have hsorted : (coreClusters sane).insertionSort
        (fun a b => clusterBefore a b = true) = [] := hnil
    rw [hsorted]
    rfl
  next chosen rest hcons =>
    have hsorted : (coreClusters sane).insertionSort
        (fun a b => clusterBefore a b = true) = chosen :: rest := hcons
    rw [hsorted]
    rfl

/-- Two runs of the same points that read the same voltages in order. -/
structure SameRun (run run' : List VfBin) : Prop where
  perm : run.Perm run'
  voltages : run.map VfBin.mv = run'.map VfBin.mv

theorem coreCluster_congr {run run' : List VfBin} (h : SameRun run run') :
    coreCluster run = coreCluster run' := by
  unfold coreCluster
  rw [h.voltages, min?_eq_of_perm (h.perm.map VfBin.base),
    max?_eq_of_perm (h.perm.map VfBin.base), h.perm.length_eq]

theorem cluster_eq_filter {sane run : List VfBin} (hrun : run ∈ coreClusters sane) :
    run = (sortedPoints sane).filter fun a => decide (a.mv ∈ run.map VfBin.mv) :=
  (coreClusters_maximal sane).eq_filter nearMv_self (sortedPoints_sorted sane) hrun

theorem coreClusters_voltages_eq {sane sane' : List VfBin} (hperm : sane.Perm sane') :
    (coreClusters sane).map (List.map VfBin.mv) = (coreClusters sane').map (List.map VfBin.mv) :=
  (coreClusters_maximal sane).keys_eq (coreClusters_maximal sane')
    ((sortedPoints_perm sane).trans (hperm.trans (sortedPoints_perm sane').symm))
    (sortedPoints_sorted sane) (sortedPoints_sorted sane')

theorem sameRun_chosen {sane sane' run run' : List VfBin} (hperm : sane.Perm sane')
    (h : chosenCluster (coreClusters sane) = some run)
    (h' : chosenCluster (coreClusters sane') = some run') : SameRun run run' := by
  have hvoltages : run.map VfBin.mv = run'.map VfBin.mv := by
    have heq := chosenCluster_voltages (coreClusters sane)
    rw [coreClusters_voltages_eq hperm, ← chosenCluster_voltages, h, h'] at heq
    exact Option.some.inj heq
  refine ⟨?_, hvoltages⟩
  rw [cluster_eq_filter (largest_of_chosenCluster h).mem,
    cluster_eq_filter (largest_of_chosenCluster h').mem, hvoltages]
  exact ((sortedPoints_perm sane).trans (hperm.trans (sortedPoints_perm sane').symm)).filter _

theorem chosenCluster_none {sane : List VfBin} (h : chosenCluster (coreClusters sane) = none) :
    sane = [] := by
  have hnone : coreClusters sane = [] := by
    by_contra hne
    obtain ⟨chosen, hchosen⟩ := chosenCluster_isSome hne
    rw [h] at hchosen
    cases hchosen
  have hsorted := (coreClusters_maximal sane).joined
  rw [hnone, List.flatten_nil] at hsorted
  exact List.perm_nil.mp (hsorted ▸ (sortedPoints_perm sane).symm)

theorem mem_of_cluster {sane run : List VfBin} (hrun : run ∈ coreClusters sane) {p : VfBin}
    (hp : p ∈ run) : p ∈ sane := by
  rw [← (sortedPoints_perm sane).mem_iff, (coreClusters_maximal sane).joined]
  exact List.mem_flatten.mpr ⟨run, hrun, hp⟩

theorem fMaxMhz_le {curve chosen : List VfBin}
    (hchosen : chosen ∈ coreClusters (saneCorePoints curve)) :
    (coreCluster chosen).fMaxMhz ≤ coreFreqHardMaxMhz := by
  change (chosen.map VfBin.base).max?.getD 0 ≤ 3500
  cases hmax : (chosen.map VfBin.base).max? with
  | none => exact Nat.zero_le _
  | some top =>
    obtain ⟨p, hp, rfl⟩ := List.mem_map.mp (List.max?_eq_some_iff.mp hmax).1
    have hsane := (List.mem_filter.mp (mem_of_cluster hchosen hp)).2
    simp only [isSaneBin, isSaneCorePoint, Bool.and_eq_true, decide_eq_true_eq] at hsane
    exact hsane.1.1.2

theorem vMaxMv_le {curve chosen : List VfBin}
    (hchosen : chosen ∈ coreClusters (saneCorePoints curve)) :
    (coreCluster chosen).vMaxMv ≤ coreVfHardMaxMv := by
  change (chosen.map VfBin.mv).getLast?.getD 0 ≤ 1150
  cases hlast : (chosen.map VfBin.mv).getLast? with
  | none => exact Nat.zero_le _
  | some top =>
    obtain ⟨p, hp, rfl⟩ := List.mem_map.mp (List.mem_of_getLast? hlast)
    have hsane := (List.mem_filter.mp (mem_of_cluster hchosen hp)).2
    simp only [isSaneBin, isSaneCorePoint, Bool.and_eq_true, decide_eq_true_eq] at hsane
    exact hsane.2

/-- The derived values never meet the hard guards: a seed fails on the size of its cluster only. -/
theorem deriveCoreSeed_eq {curve chosen : List VfBin}
    (h : chosenCluster (coreClusters (saneCorePoints curve)) = some chosen) :
    deriveCoreSeed curve =
      if chosen.length < minCoreClusterPoints then
        .error (s!"largest core VF cluster has only {chosen.length} point(s) " ++
          s!"(< {minCoreClusterPoints} required) — ambiguous, failing closed")
      else .ok (coreSeed curve (coreCluster chosen)) := by
  have hmem := (largest_of_chosenCluster h).mem
  have hsane : (saneCorePoints curve).isEmpty = false := by
    cases hempty : saneCorePoints curve with
    | nil => rw [hempty] at h; cases h
    | cons p rest => rfl
  unfold deriveCoreSeed
  dsimp only
  rw [hsane, if_neg Bool.false_ne_true, selectCoreCluster_eq, h, Option.elim_some]
  by_cases hshort : chosen.length < minCoreClusterPoints
  · rw [if_pos hshort, if_pos hshort]
  · rw [if_neg hshort, if_neg hshort]
    dsimp only
    rw [if_neg (Nat.not_lt.mpr (fMaxMhz_le hmem)), if_neg (Nat.not_lt.mpr (vMaxMv_le hmem))]

theorem deriveCoreSeed_of_none {curve : List VfBin} (h : saneCorePoints curve = []) :
    deriveCoreSeed curve = .error (noSanePoints curve) := by
  unfold deriveCoreSeed
  dsimp only
  rw [h]
  rfl

theorem coreSeed_congr {curve curve' : List VfBin} (hperm : curve.Perm curve')
    (cluster : CoreCluster) : coreSeed curve cluster = coreSeed curve' cluster := by
  have hsane : (saneCorePoints curve).Perm (saneCorePoints curve') := hperm.filter _
  have hrejected := hperm.filter fun bin => !isSaneBin bin
  unfold coreSeed
  dsimp only
  rw [hsane.countP_eq, hsane.length_eq, hperm.length_eq,
    max?_eq_of_perm (hrejected.map VfBin.base), max?_eq_of_perm (hrejected.map VfBin.mv)]

theorem noSanePoints_congr {curve curve' : List VfBin} (hperm : curve.Perm curve') :
    noSanePoints curve = noSanePoints curve' := by
  have hrejected := hperm.filter fun bin => !isSaneBin bin
  have hfreq := max?_eq_of_perm (hrejected.map VfBin.base)
  have hvoltage := max?_eq_of_perm (hrejected.map VfBin.mv)
  unfold noSanePoints
  simp only [hperm.length_eq, hfreq, hvoltage]

theorem deriveCoreSeed_perm {curve curve' : List VfBin} (hperm : curve.Perm curve') :
    deriveCoreSeed curve = deriveCoreSeed curve' := by
  have hsane : (saneCorePoints curve).Perm (saneCorePoints curve') := hperm.filter _
  cases h : chosenCluster (coreClusters (saneCorePoints curve)) with
  | none =>
    have hempty := chosenCluster_none h
    rw [hempty] at hsane
    have hempty' := List.perm_nil.mp hsane.symm
    rw [deriveCoreSeed_of_none hempty, deriveCoreSeed_of_none hempty',
      noSanePoints_congr hperm]
  | some chosen =>
    cases h' : chosenCluster (coreClusters (saneCorePoints curve')) with
    | none =>
      rw [chosenCluster_none h'] at hsane
      rw [List.perm_nil.mp hsane] at h
      cases h
    | some chosen' =>
      have hsame := sameRun_chosen hsane h h'
      rw [deriveCoreSeed_eq h, deriveCoreSeed_eq h', coreCluster_congr hsame,
        hsame.perm.length_eq, coreSeed_congr hperm]

theorem mem_of_selectCoreCluster {sane chosen : List VfBin}
    (h : selectCoreCluster sane = .ok chosen) : chosen ∈ coreClusters sane := by
  rw [selectCoreCluster_eq] at h
  cases hchosen : chosenCluster (coreClusters sane) with
  | none => rw [hchosen] at h; cases h
  | some run =>
    rw [hchosen, Option.elim_some] at h
    split at h
    next => cases h
    next =>
      cases h
      exact (largest_of_chosenCluster hchosen).mem

/-- The ceiling that the Apply reads is the boost clock of the seed. -/
theorem f2StockClockCeiling_eq (curve : List VfBin) :
    f2StockClockCeiling curve = (deriveCoreSeed curve).map CoreSeed.stockBoostMaxMhz := by
  unfold f2StockClockCeiling deriveCoreSeed
  dsimp only
  by_cases hempty : (saneCorePoints curve).isEmpty = true
  · rw [if_pos hempty]
    exact if_pos hempty
  · rw [if_neg hempty]
    refine (if_neg hempty).trans ?_
    change (match selectCoreCluster (saneCorePoints curve) with
      | .error e => _
      | .ok cluster => _) = _
    cases hselect : selectCoreCluster (saneCorePoints curve) with
    | error e => rfl
    | ok chosen =>
      have hmem := mem_of_selectCoreCluster hselect
      dsimp only
      rw [if_neg (Nat.not_lt.mpr (fMaxMhz_le hmem)), if_neg (Nat.not_lt.mpr (vMaxMv_le hmem))]
      refine (if_neg (Nat.not_lt.mpr (fMaxMhz_le hmem))).trans ?_
      exact if_neg (Nat.not_lt.mpr (vMaxMv_le hmem))

/-- The values of a seed that a descent starts from are those of one run of points. -/
structure ReadFrom (chosen : List VfBin) (seed : CoreSeed) : Prop where
  boost : IsGreatest {freq | ∃ p ∈ chosen, p.base = freq} seed.stockBoostMaxMhz
  safeStart : IsGreatest {mv | ∃ p ∈ chosen, p.mv = mv} seed.safeStartMv
  floor : IsLeast {mv | ∃ p ∈ chosen, p.mv = mv} seed.clusterVMinMv
  binsAscend : seed.clusterBinsMv.Pairwise (· < ·)
  bins : ∀ mv, mv ∈ seed.clusterBinsMv ↔ ∃ p ∈ chosen, p.mv = mv

theorem sorted_of_cluster {sane run : List VfBin} (hrun : run ∈ coreClusters sane) :
    run.Pairwise fun a b => a.mv ≤ b.mv := by
  rw [cluster_eq_filter hrun]
  exact (sortedPoints_sorted sane).filter _

theorem readFrom_coreSeed {sane chosen : List VfBin} (hmem : chosen ∈ coreClusters sane)
    (curve : List VfBin) : ReadFrom chosen (coreSeed curve (coreCluster chosen)) := by
  have hne : chosen ≠ [] := fun h => (coreClusters_maximal sane).nonempty (h ▸ hmem)
  have hsorted := sorted_of_cluster hmem
  have hvoltages : (chosen.map VfBin.mv).Pairwise (· ≤ ·) := List.pairwise_map.mpr hsorted
  constructor
  · cases hmax : (chosen.map VfBin.base).max? with
    | none => exact absurd (List.map_eq_nil_iff.mp (List.max?_eq_none_iff.mp hmax)) hne
    | some top =>
      obtain ⟨htop, hle⟩ := List.max?_eq_some_iff.mp hmax
      have hvalue : (coreSeed curve (coreCluster chosen)).stockBoostMaxMhz = top := by
        change (chosen.map VfBin.base).max?.getD 0 = top
        rw [hmax, Option.getD_some]
      rw [hvalue]
      refine ⟨List.mem_map.mp htop, ?_⟩
      rintro _ ⟨p, hp, rfl⟩
      exact hle _ (List.mem_map_of_mem hp)
  · have hvalue : (coreSeed curve (coreCluster chosen)).safeStartMv = (chosen.getLast hne).mv := by
      change (chosen.map VfBin.mv).getLast?.getD 0 = _
      rw [List.getLast?_map, List.getLast?_eq_getLast_of_ne_nil hne]
      rfl
    rw [hvalue]
    refine ⟨⟨_, List.getLast_mem hne, rfl⟩, ?_⟩
    rintro _ ⟨p, hp, rfl⟩
    exact le_getLast_of_sorted hsorted hne hp
  · have hvalue : (coreSeed curve (coreCluster chosen)).clusterVMinMv = (chosen.head hne).mv := by
      change (chosen.map VfBin.mv).head?.getD 0 = _
      rw [List.head?_map, List.head?_eq_some_head hne]
      rfl
    rw [hvalue]
    refine ⟨⟨_, List.head_mem hne, rfl⟩, ?_⟩
    rintro _ ⟨p, hp, rfl⟩
    exact head_le_of_sorted hsorted hne hp
  · exact pairwise_lt_dedup hvoltages
  · intro mv
    exact mem_dedup.trans List.mem_map

/-- A run on its own is chosen. -/
theorem chosenCluster_alone {sane chosen : List VfBin} (hmem : chosen ∈ coreClusters sane)
    (hsane : ∀ p ∈ chosen, isSaneBin p = true) :
    chosenCluster (coreClusters (saneCorePoints chosen)) = some chosen := by
  have hfilter : saneCorePoints chosen = chosen := List.filter_eq_self.mpr hsane
  have hordered : chosen.Pairwise voltageOrder := by
    rw [cluster_eq_filter hmem]
    exact (List.pairwise_insertionSort voltageOrder sane).filter _
  have hsorted : sortedPoints chosen = chosen := hordered.insertionSort_eq
  rw [hfilter, coreClusters, foldl_growClusters, hsorted,
    (coreClusters_maximal sane).alone hmem]
  rfl

theorem deriveCoreSeed_ok_iff {curve : List VfBin} {seed : CoreSeed} :
    deriveCoreSeed curve = .ok seed ↔
      ∃ chosen, chosenCluster (coreClusters (saneCorePoints curve)) = some chosen ∧
        minCoreClusterPoints ≤ chosen.length ∧ coreSeed curve (coreCluster chosen) = seed := by
  cases h : chosenCluster (coreClusters (saneCorePoints curve)) with
  | none =>
    rw [deriveCoreSeed_of_none (chosenCluster_none h)]
    simp
  | some chosen =>
    rw [deriveCoreSeed_eq h]
    by_cases hshort : chosen.length < minCoreClusterPoints
    · rw [if_pos hshort]
      simp [Nat.not_le.mpr hshort]
    · rw [if_neg hshort]
      simp [Nat.not_lt.mp hshort]

theorem exists_seed_iff (curve : List VfBin) :
    (∃ seed, deriveCoreSeed curve = .ok seed) ↔
      ∃ cluster ∈ coreClusters (saneCorePoints curve), minCoreClusterPoints ≤ cluster.length := by
  simp only [deriveCoreSeed_ok_iff]
  constructor
  · rintro ⟨_, chosen, hchosen, hlong, -⟩
    exact ⟨chosen, (largest_of_chosenCluster hchosen).mem, hlong⟩
  · rintro ⟨cluster, hmem, hlong⟩
    obtain ⟨chosen, hchosen⟩ := chosenCluster_isSome (List.ne_nil_of_mem hmem)
    have hbefore := (largest_of_chosenCluster hchosen).before cluster hmem
    unfold voltagesBefore at hbefore
    rw [List.length_map, List.length_map] at hbefore
    exact ⟨_, chosen, hchosen, by omega, rfl⟩

/-- What the points of a run alone would give. -/
theorem deriveCoreSeed_alone {curve chosen : List VfBin}
    (hmem : chosen ∈ coreClusters (saneCorePoints curve))
    (hlong : minCoreClusterPoints ≤ chosen.length) :
    deriveCoreSeed chosen = .ok (coreSeed chosen (coreCluster chosen)) := by
  have hsane : ∀ p ∈ chosen, isSaneBin p = true :=
    fun p hp => (List.mem_filter.mp (mem_of_cluster hmem hp)).2
  rw [deriveCoreSeed_eq (chosenCluster_alone hmem hsane), if_neg (Nat.not_lt.mpr hlong)]

structure DescentOf (chosen : List VfBin) (capMv : Nat) (descent : FrontierDescent) : Prop where
  bins : ∀ mv, mv ∈ descent.binsDesc ↔ mv ≤ capMv ∧ ∃ p ∈ chosen, p.mv = mv
  descends : descent.binsDesc.Pairwise (· > ·)
  start : descent.binsDesc ≠ [] → descent.binsDesc.head? = some descent.safeStartMv
  floor : descent.binsDesc ≠ [] → descent.binsDesc.getLast? = some descent.lowestSafeMv
  empty : (∀ p ∈ chosen, capMv < p.mv) → descent.binsDesc = []

theorem mem_deriveDescent {bins : List Nat} {capMv stepMv mv : Nat} :
    mv ∈ (deriveDescent bins capMv stepMv).binsDesc ↔ mv ≤ capMv ∧ mv ∈ bins := by
  unfold deriveDescent
  dsimp only
  rw [List.mem_reverse, mem_dedup, List.mem_insertionSort, List.mem_filter, decide_eq_true_iff,
    and_comm]

theorem descentOf_deriveDescent {chosen : List VfBin} {seed : CoreSeed}
    (hread : ReadFrom chosen seed) (capMv stepMv : Nat) :
    DescentOf chosen capMv (deriveDescent seed.clusterBinsMv capMv stepMv) := by
  have hbins : ∀ mv, mv ∈ (deriveDescent seed.clusterBinsMv capMv stepMv).binsDesc ↔
      mv ≤ capMv ∧ ∃ p ∈ chosen, p.mv = mv := by
    intro mv
    rw [mem_deriveDescent, hread.bins]
  refine ⟨hbins, (domain_deriveDescent _ _ _).sorted, ?_, ?_, ?_⟩
  · intro hne
    unfold deriveDescent at hne ⊢
    dsimp only at hne ⊢
    rw [List.head?_reverse]
    generalize dedup ((seed.clusterBinsMv.filter (· ≤ capMv)).insertionSort (· ≤ ·)) = bins at hne ⊢
    rcases List.eq_nil_or_concat' bins with rfl | ⟨init, last, rfl⟩
    · exact absurd rfl hne
    · rw [List.getLast?_concat, Option.getD_some]
  · intro hne
    unfold deriveDescent at hne ⊢
    dsimp only at hne ⊢
    rw [List.getLast?_reverse]
    generalize dedup ((seed.clusterBinsMv.filter (· ≤ capMv)).insertionSort (· ≤ ·)) = bins at hne ⊢
    cases bins with
    | nil => exact absurd rfl hne
    | cons first rest => rfl
  · intro habove
    refine List.eq_nil_iff_forall_not_mem.mpr fun mv hmv => ?_
    obtain ⟨hcap, p, hp, rfl⟩ := (hbins mv).mp hmv
    exact absurd (habove p hp) (Nat.not_lt.mpr hcap)

/-- The core domain of a raw curve: the clusters are the maximal runs of its sane points, a seed
exists exactly when one is large enough, the order of the input does not matter, and a seed is read
from the largest cluster as if nothing else had been there. -/
theorem core_domain (curve : List VfBin) :
    ((sortedPoints (saneCorePoints curve)).Perm (saneCorePoints curve) ∧
      (sortedPoints (saneCorePoints curve)).Pairwise (fun a b => a.mv ≤ b.mv) ∧
      MaximalRuns (fun a b => nearMv a.mv b.mv) (sortedPoints (saneCorePoints curve))
        (coreClusters (saneCorePoints curve))) ∧
    ((∃ seed, deriveCoreSeed curve = .ok seed) ↔
      ∃ cluster ∈ coreClusters (saneCorePoints curve),
        minCoreClusterPoints ≤ cluster.length) ∧
    (∀ curve', curve.Perm curve' → deriveCoreSeed curve = deriveCoreSeed curve') ∧
    ∀ seed, deriveCoreSeed curve = .ok seed →
      ∃ chosen, Largest (coreClusters (saneCorePoints curve)) chosen ∧
        minCoreClusterPoints ≤ chosen.length ∧ ReadFrom chosen seed ∧
        (∃ alone, deriveCoreSeed chosen = .ok alone ∧
          alone.stockBoostMaxMhz = seed.stockBoostMaxMhz ∧
          alone.safeStartMv = seed.safeStartMv ∧ alone.clusterBinsMv = seed.clusterBinsMv) ∧
        ∀ capMv stepMv,
          DescentOf chosen capMv (deriveDescent seed.clusterBinsMv capMv stepMv) := by
  refine ⟨⟨sortedPoints_perm _, sortedPoints_sorted _, coreClusters_maximal _⟩,
    exists_seed_iff curve, fun _ => deriveCoreSeed_perm, fun seed hseed => ?_⟩
  obtain ⟨chosen, hchosen, hlong, rfl⟩ := deriveCoreSeed_ok_iff.mp hseed
  have hlargest := largest_of_chosenCluster hchosen
  have hread := readFrom_coreSeed hlargest.mem curve
  exact ⟨chosen, hlargest, hlong, hread,
    ⟨_, deriveCoreSeed_alone hlargest.mem hlong, rfl, rfl, rfl⟩,
    descentOf_deriveDescent hread⟩

/-- Ten points from 1025 mV down to 800 mV, one at an insane voltage and one far above. -/
def scatteredCurve : List VfBin :=
  (List.range 10).reverse.map (fun i => ⟨i, 800 + 25 * i, 1500 + 40 * i⟩) ++
    [⟨10, 90, 210⟩, ⟨11, 1240, 2000⟩]

/-- The ten points seed the curve, in whatever order they come. -/
theorem core_domain_scattered : ∃ seed, deriveCoreSeed scatteredCurve = .ok seed ∧
    deriveCoreSeed scatteredCurve.reverse = .ok seed := by
  obtain ⟨-, hseeds, horder, -⟩ := core_domain scatteredCurve
  obtain ⟨seed, hseed⟩ := hseeds.mpr
    ⟨(List.range 10).map fun i => ⟨i, 800 + 25 * i, 1500 + 40 * i⟩, by decide, by decide⟩
  exact ⟨seed, hseed, (horder _ (List.reverse_perm _).symm).symm.trans hseed⟩

end Nidavellir
