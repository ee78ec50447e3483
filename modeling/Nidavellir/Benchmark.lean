import Nidavellir.ApplyHistory

namespace Nidavellir

namespace Benchmark

/-- The before/after benchmark. A snapshot of a pass is any `S`; its lines in the log are rendered
by `BenchTexts`. -/
structure BenchmarkProgress (S : Type*) where
  running : Bool
  phase : String
  log : List String
  stock : Option S
  tuned : Option S
  powerLimitW : ℚ
  note : Option String

structure BenchTexts (S : Type*) where
  stockLine : S → String
  tunedLine : S → String
  report : S → S → String

/-- What the worker meets: whether each context opens, what each pass measures, and the stop flag
after the stock pass. -/
structure BenchAnswers (S : Type*) where
  ctxStock : Except String Unit
  stockPass : S
  powerLimitW : ℚ
  stopped : Bool
  ctxTuned : Except String Unit
  tunedPass : S

/-- The end of a benchmark, with the states of the card in which the two passes ran. -/
structure BenchEnd (S : Type*) where
  progress : BenchmarkProgress S
  rig : Rig
  stockMeasuredAt : Option Hardware
  tunedMeasuredAt : Option Hardware

variable {S : Type*}

/-- Re-apply the saved profile: its core by the ceiling, then its memory offset. -/
def applyProfile (applied : Option AppliedProfile) (rig : Rig) : Rig :=
  match applied with
  | none => rig
  | some ap =>
    let rig := match ap.core with
      | some c => (GpuApplyOps.applyCore c rig).2
      | none => rig
    match ap.memOffsetMhz with
    | some m => (GpuApplyOps.setMemOffsetMhz m rig).2
    | none => rig

def finishRestore (applied : Option AppliedProfile) (rig : Rig) : Rig := applyProfile applied rig

def runBenchmark (texts : BenchTexts S) (answers : BenchAnswers S) (rig : Rig) : BenchEnd S :=
  let prog : BenchmarkProgress S :=
    { running := true
      phase := "stock"
      log := ["Benchmark antes/depois — preparando…"]
      stock := none
      tuned := none
      powerLimitW := 0
      note := none }
  match rig.persisted with
  | none =>
    ⟨{ prog with
        running := false
        phase := "done"
        note := some ("Nenhum perfil aplicado para comparar. " ++
          "Forje/aplique um perfil primeiro.") }, rig, none, none⟩
  | some ap =>
    let applied := some ap
    let prog := { prog with log := prog.log ++ ["1/2 · Stock: revertendo para fábrica e medindo…"] }
    let rig := { rig with hw := rig.card.resetAll { rig.hw with clockCap := none } }
    match answers.ctxStock with
    | .error e =>
      ⟨{ prog with
          running := false
          phase := "done"
          note := some s!"Falha ao iniciar GPU: {e}" }, rig, none, none⟩
    | .ok () =>
      let stockMeasuredAt := some rig.hw
      let prog := { prog with
        powerLimitW := answers.powerLimitW
        stock := some answers.stockPass
        log := prog.log ++ [texts.stockLine answers.stockPass] }
      if answers.stopped then
        ⟨{ prog with
            running := false
            phase := "done"
            note := some "Cancelado — perfil reaplicado." },
          finishRestore applied rig, stockMeasuredAt, none⟩
      else
        let prog := { prog with
          phase := "tuned"
          log := prog.log ++ ["2/2 · Tuned: aplicando perfil e medindo…"] }
        let rig := applyProfile applied rig
        match answers.ctxTuned with
        | .error e =>
          ⟨{ prog with
              running := false
              phase := "done"
              note := some s!"Falha ao iniciar GPU (tuned): {e}" }, rig, stockMeasuredAt, none⟩
        | .ok () =>
          ⟨{ prog with
              tuned := some answers.tunedPass
              log := prog.log ++ [texts.tunedLine answers.tunedPass]
              note := some (texts.report answers.stockPass answers.tunedPass)
              running := false
              phase := "done" }, rig, stockMeasuredAt, some rig.hw⟩

variable {rig : Rig} {profile : AppliedProfile}

theorem applyProfile_eq (profile : AppliedProfile) (rig : Rig) :
    applyProfile (some profile) rig = { rig with
      hw := memApplied profile.memOffsetMhz (coreApplied rig.card profile.core rig.hw) } := by
  obtain ⟨label, core, mem, appliedAt, undervolt⟩ := profile
  cases core <;> cases mem <;> rfl

theorem stockPass_hw (htab : TableOnly rig.card rig.hw) :
    rig.card.resetAll { rig.hw with clockCap := none } = .stock := by
  have hfree : TableOnly rig.card { rig.hw with clockCap := none } := htab
  rw [resetAll_eq hfree]
  rfl

/-- What the benchmark leaves on the card: stock where the first context failed, and the numbers of
the profile by the ceiling otherwise. -/
def restoredBy (card : VfCard) (ctxStock : Except String Unit) (profile : AppliedProfile) :
    Hardware :=
  if ctxStock.isOk then memApplied profile.memOffsetMhz (coreApplied card profile.core .stock)
  else .stock

theorem runBenchmark_end (texts : BenchTexts S) (answers : BenchAnswers S)
    (htab : TableOnly rig.card rig.hw)
    (hprofile : rig.persisted = some profile) :
    (runBenchmark texts answers rig).rig =
        { rig with hw := restoredBy rig.card answers.ctxStock profile } ∧
      ∀ hw, (runBenchmark texts answers rig).tunedMeasuredAt = some hw →
        hw = restoredBy rig.card answers.ctxStock profile := by
  unfold runBenchmark restoredBy
  simp only [hprofile, stockPass_hw htab, finishRestore, applyProfile_eq]
  cases answers.ctxStock with
  | error e => exact ⟨rfl, nofun⟩
  | ok ctx =>
    cases answers.stopped with
    | true => exact ⟨rfl, nofun⟩
    | false =>
      cases answers.ctxTuned with
      | error e => exact ⟨rfl, nofun⟩
      | ok ctx =>
        refine ⟨rfl, ?_⟩
        rintro hw ⟨⟩
        rfl

/-- The benchmark leaves the profile as a boot would have applied it, measures it so, and keeps
what is persisted. -/
def LeavesApplied (rig : Rig) (profile : AppliedProfile) (run : BenchEnd S) : Prop :=
  run.rig.hw = establishedBy rig.card profile ∧
    (∀ hw, run.tunedMeasuredAt = some hw → hw = establishedBy rig.card profile) ∧
      run.rig.persisted = rig.persisted

/-- Where the first context opened, the boot takes the route of the benchmark, or refuses the
undervolt of a profile whose numbers change nothing; where it did not open, the profile is stock. -/
def RestoreMatchesBoot (card : VfCard) (ctxStock : Except String Unit) (profile : AppliedProfile) :
    Prop :=
  if ctxStock.isOk then
    ∀ uv, profile.undervolt = some uv →
      (applyAnchoredUndervoltPoint card uv.targetMhz uv.anchorMv .stock).1.isOk = false ∧
        memApplied profile.memOffsetMhz (coreApplied card profile.core .stock) = .stock
  else establishedBy card profile = .stock

theorem establishedBy_ceiling {card : VfCard} (h : profile.undervolt = none) :
    establishedBy card profile =
      memApplied profile.memOffsetMhz (coreApplied card profile.core .stock) := by
  unfold establishedBy reapply
  rw [h]
  simp only
  rw [applyAndPersist_rig]
  rfl

theorem establishedBy_undervolt (card : VfCard) {uv : UndervoltApply}
    (h : profile.undervolt = some uv) :
    (establishedBy card profile).voltageLock =
        (if (applyAnchoredUndervoltPoint card uv.targetMhz uv.anchorMv .stock).1.isOk then
          some uv.anchorMv else none) ∧
      ((applyAnchoredUndervoltPoint card uv.targetMhz uv.anchorMv .stock).1.isOk = false →
        establishedBy card profile = .stock) := by
  unfold establishedBy reapply
  rw [h]
  simp only
  cases hanswer : (applyAnchoredUndervoltPoint card uv.targetMhz uv.anchorMv .stock).1 with
  | error e =>
    have hstock := applyAnchored_error_stock hanswer
    have hrun : applyAndPersistUndervolt profile.label uv.targetMhz uv.anchorMv
      profile.memOffsetMhz (Rig.atStock card none "") = _ := applyAndPersistUndervolt_error hanswer
    rw [hrun]
    exact ⟨congrArg Hardware.voltageLock hstock, fun _ => hstock⟩
  | ok done =>
    have hrun : applyAndPersistUndervolt profile.label uv.targetMhz uv.anchorMv
      profile.memOffsetMhz (Rig.atStock card none "") = _ := applyAndPersistUndervolt_ok hanswer
    rw [hrun]
    exact ⟨applyAnchored_voltageLock hanswer, nofun⟩

theorem applyCorePoint_voltageLock (card : VfCard) (point : VfPoint) (hw : Hardware) :
    (applyCorePoint card point hw).voltageLock = hw.voltageLock := by
  by_cases htable : card.table = []
  · rw [applyCorePoint_fallback htable]
  · rw [applyCorePoint_ceiling htable]

theorem restoredBy_eq_iff (card : VfCard) (ctxStock : Except String Unit)
    (profile : AppliedProfile) :
    restoredBy card ctxStock profile = establishedBy card profile ↔
      RestoreMatchesBoot card ctxStock profile := by
  unfold restoredBy RestoreMatchesBoot
  cases ctxStock with
  | error e => exact eq_comm
  | ok ctx =>
    change memApplied profile.memOffsetMhz (coreApplied card profile.core .stock) = _ ↔
      ∀ uv, _ → _
    have hlock : (memApplied profile.memOffsetMhz
        (coreApplied card profile.core .stock)).voltageLock = none := by
      cases profile.core with
      | none => rfl
      | some point => exact applyCorePoint_voltageLock card point .stock
    cases hundervolt : profile.undervolt with
    | none =>
      rw [establishedBy_ceiling hundervolt]
      exact iff_of_true rfl nofun
    | some uv =>
      obtain ⟨hvoltage, hrefused⟩ := establishedBy_undervolt card hundervolt
      constructor
      · rintro heq uv' ⟨⟩
        rw [← heq, hlock] at hvoltage
        have hfailed : (applyAnchoredUndervoltPoint card uv.targetMhz uv.anchorMv
            .stock).1.isOk = false := by
          by_contra hok
          rw [Bool.not_eq_false] at hok
          rw [hok] at hvoltage
          cases hvoltage
        exact ⟨hfailed, heq.trans (hrefused hfailed)⟩
      · intro h
        obtain ⟨hfailed, hstock⟩ := h uv rfl
        rw [hrefused hfailed, hstock]

/-- After any history, the benchmark leaves the persisted profile applied just when its own restore
does what the boot would. -/
theorem runBenchmark_leaves_iff (texts : BenchTexts S) (answers : BenchAnswers S) (card : VfCard)
    (persisted : Option AppliedProfile) (now : String) (history : List ApplyOp)
    (profile : AppliedProfile)
    (hprofile : ((Rig.atStock card persisted now).after history).persisted = some profile) :
    LeavesApplied ((Rig.atStock card persisted now).after history) profile
        (runBenchmark texts answers ((Rig.atStock card persisted now).after history)) ↔
      RestoreMatchesBoot card answers.ctxStock profile := by
  have hstart : TableOnly (Rig.atStock card persisted now).card .stock := fun _ _ => rfl
  obtain ⟨hcard, htab⟩ := after_tableOnly history hstart
  rw [← hcard] at htab
  obtain ⟨hrig, htuned⟩ := runBenchmark_end texts answers htab hprofile
  have hcard : ((Rig.atStock card persisted now).after history).card = card := hcard
  unfold LeavesApplied
  rw [hcard] at htuned
  rw [hrig, hcard, ← restoredBy_eq_iff]
  constructor
  · intro h
    exact h.1
  · intro h
    exact ⟨h, fun hw hhw => (htuned hw hhw).trans h, rfl⟩

/-- Both contexts open, or neither. -/
def plainAnswers (ctx : Except String Unit) : BenchAnswers Unit where
  ctxStock := ctx
  stockPass := ()
  powerLimitW := 0
  stopped := false
  ctxTuned := ctx
  tunedPass := ()

def plainTexts : BenchTexts Unit where
  stockLine _ := ""
  tunedLine _ := ""
  report _ _ := ""

theorem benchmark_leaves_ceiling :
    LeavesApplied ((Rig.atStock eightBinCard none "now").after
        [.apply "Godforge" (some ⟨1700, 850⟩) none])
      ⟨"Godforge", some ⟨1700, 850⟩, none, some "now", none⟩
      (runBenchmark plainTexts (plainAnswers (.ok ())) ((Rig.atStock eightBinCard none "now").after
        [.apply "Godforge" (some ⟨1700, 850⟩) none])) :=
  (runBenchmark_leaves_iff plainTexts (plainAnswers (.ok ())) eightBinCard none "now"
    [.apply "Godforge" (some ⟨1700, 850⟩) none]
    ⟨"Godforge", some ⟨1700, 850⟩, none, some "now", none⟩ rfl).mpr nofun

/-- An applied undervolt comes out of the benchmark without its voltage lock, and a ceiling is gone
where the first context fails. -/
theorem benchmark_drops_undervolt :
    ((Rig.atStock eightBinCard none "now").after
        [.applyUndervolt "Godforge" 1700 820 none]).persisted =
      some ⟨"Godforge", some ⟨1700, 820⟩, none, some "now", some ⟨1700, 820⟩⟩ ∧
    (runBenchmark plainTexts (plainAnswers (.ok ())) ((Rig.atStock eightBinCard none "now").after
      [.applyUndervolt "Godforge" 1700 820 none])).rig.hw.voltageLock = none ∧
    (establishedBy eightBinCard
      ⟨"Godforge", some ⟨1700, 820⟩, none, some "now", some ⟨1700, 820⟩⟩).voltageLock = some 820 ∧
    (runBenchmark plainTexts (plainAnswers (.error "device lost"))
      ((Rig.atStock eightBinCard none "now").after
        [.apply "Godforge" (some ⟨1700, 850⟩) none])).rig.hw.offsets 5 = 0 ∧
    (establishedBy eightBinCard
      ⟨"Godforge", some ⟨1700, 850⟩, none, some "now", none⟩).offsets 5 = -50 := by
  decide +kernel

end Benchmark

end Nidavellir
