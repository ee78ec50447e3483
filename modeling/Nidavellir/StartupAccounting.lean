import Nidavellir.StartupFlag
import Mathlib.Data.List.Nodup

namespace Nidavellir

open Runs SafeLoopStore

/-- The record learnt the crash: its region, its log entry and, where it counts, the streak. -/
structure Accounting.Full (a : Accounting) : Prop where
  blacklist : a.after.isBlacklisted a.flag.intent = true
  crashLog : a.after.crashLog = pushCapped a.before.crashLog a.bugcheck 32
  streak : a.after.consecutiveCrashes =
    if supervisedForgeTdr a.flag a.bugcheck then a.before.consecutiveCrashes
    else saturatingAdd a.before.consecutiveCrashes 1

/-- Each flag a crash left behind was accounted once, in full; only the flag of a crash that no
recovery has followed yet was not accounted at all. -/
def StartupState.AccountedOnce (s : StartupState) : Prop :=
  ∀ arm ∈ s.history.left,
    (∃ a, s.history.accountings.filter (fun b => b.arm = arm) = [a] ∧ a.Full) ∨
      s.down = true ∧ s.history.owner = some arm ∧
        s.history.accountings.filter (fun b => b.arm = arm) = []

/-- A recovery that takes a flag for a crash finds none that an earlier recovery retained and that
no step has replaced or removed since, does not trip Safe Mode and saves the record; a crash that
leaves a flag behind finds no marker of a graceful stop. -/
def StartupState.accountsOnce (s : StartupState) : StartupEvent → Prop
  | .recovery bugcheck results =>
    ∀ flag, crashFlag s.dir = some flag →
      s.history.retained = false ∧ tripsSafeMode (loadRecord s.dir) flag bugcheck = false ∧
        results.saveRecord.isDone = true
  | .crash => (readBootFlag s.dir).isSome → isCleanShutdownPresent s.dir = false
  | _ => True

theorem recover_full (arm : Arm) {flag : BootFlag} {bugcheck : CrashClass}
    {record : SafeLoopRecord} (h : tripsSafeMode record flag bugcheck = false) :
    (⟨arm, flag, bugcheck, record, (recover record (some flag) bugcheck).1⟩ : Accounting).Full := by
  have hnot : ¬ tripsSafeMode record flag bugcheck = true := by simp [h]
  have hrecover : (recover record (some flag) bugcheck).1 =
      (applyRecovery record (.blacklistAndRecede flag.intent record.recoveryTarget bugcheck
        (!supervisedForgeTdr flag bugcheck))).1 := by
    rw [recover, decideRecovery_armed, if_neg hnot]
  refine ⟨?_, ?_, ?_⟩
  · exact ((recover_accounts_iff record flag bugcheck).mpr (Or.inl h)).1
  · rw [hrecover]
    rfl
  · rw [hrecover]
    cases supervisedForgeTdr flag bugcheck <;> rfl

theorem filter_eq_singleton {α β : Type*} [DecidableEq β] {l : List α} {f : α → β}
    (h : (l.map f).Nodup) {a : α} (ha : a ∈ l) : l.filter (fun b => f b = f a) = [a] := by
  induction l with
  | nil => simp at ha
  | cons c l ih =>
    rw [List.map_cons, List.nodup_cons] at h
    obtain ⟨hc, hl⟩ := h
    rcases List.mem_cons.mp ha with rfl | hmem
    · have hrest : l.filter (fun b => f b = f a) = [] := by
        rw [List.filter_eq_nil_iff]
        intro b hb heq
        have hfb : f b = f a := by simpa using heq
        exact hc (hfb ▸ List.mem_map_of_mem hb)
      rw [List.filter_cons_of_pos (by simp), hrest]
    · have hne : f c ≠ f a := fun heq => hc (heq ▸ List.mem_map_of_mem hmem)
      rw [List.filter_cons_of_neg (by simpa using hne), ih hl hmem]

/-- The invariant of the history: an arm is accounted once at most. -/
structure FlagHistory.Accounts (history : FlagHistory) : Prop where
  owner_lt : ∀ arm, history.owner = some arm → arm.serial < history.arms
  accounted_lt : ∀ a ∈ history.accountings, a.arm.serial < history.arms
  once : (history.accountings.map Accounting.arm).Nodup
  full : ∀ a ∈ history.accountings, a.Full

/-- Whatever a crash left behind is accounted, or about to be; and a flag that can be read was not
accounted, unless a recovery retained it. -/
structure StartupState.Accounted (s : StartupState) : Prop where
  history : s.history.Accounts
  owned : (readBootFlag s.dir).isSome → s.history.owner.isSome
  fresh : (readBootFlag s.dir).isSome → s.history.retained = false →
    ∀ arm, s.history.owner = some arm → arm ∉ s.history.accountings.map Accounting.arm
  left : ∀ arm ∈ s.history.left, arm ∈ s.history.accountings.map Accounting.arm ∨
    s.down = true ∧ s.history.owner = some arm ∧ (crashFlag s.dir).isSome

theorem FlagHistory.Accounts.arm {self : FlagHistory} (h : self.Accounts)
    (pair : Option UndervoltApply) : (self.arm pair).Accounts where
  owner_lt arm howner := by
    obtain rfl := Option.some.inj howner
    exact Nat.lt_succ_self _
  accounted_lt a ha := Nat.lt_succ_of_lt (h.accounted_lt a ha)
  once := h.once
  full := h.full

theorem FlagHistory.Accounts.armed_fresh {self : FlagHistory} (h : self.Accounts)
    (pair : Option UndervoltApply) :
    (⟨self.arms, pair⟩ : Arm) ∉ self.accountings.map Accounting.arm := by
  intro hmem
  obtain ⟨a, ha, harm⟩ := List.mem_map.mp hmem
  have hlt := h.accounted_lt a ha
  rw [harm] at hlt
  exact Nat.lt_irrefl _ hlt

/-- Accounting the flag of an arm that was not accounted yet. -/
theorem FlagHistory.Accounts.account {self : FlagHistory} (h : self.Accounts) {a : Accounting}
    (howner : self.owner = some a.arm) (hfresh : a.arm ∉ self.accountings.map Accounting.arm)
    (hfull : a.Full) :
    { self with retained := true, accountings := self.accountings ++ [a] }.Accounts := by
  refine ⟨h.owner_lt, ?_, ?_, ?_⟩
  · intro b hb
    rcases List.mem_append.mp hb with hold | hnew
    · exact h.accounted_lt b hold
    · obtain rfl := List.mem_singleton.mp hnew
      exact h.owner_lt b.arm howner
  · rw [List.map_append, List.map_singleton, ← List.concat_eq_append]
    exact h.once.concat hfresh
  · intro b hb
    rcases List.mem_append.mp hb with hold | hnew
    · exact h.full b hold
    · obtain rfl := List.mem_singleton.mp hnew
      exact hfull

namespace StartupState

variable {s s' : StartupState} {e : StartupEvent}

theorem Accounted.act (h : s.Accounted) (hdown : s.down = false)
    (hs : KeepsFlag s s' ∨ Arms s s') : s'.Accounted := by
  have hleft : ∀ arm ∈ s.history.left, arm ∈ s.history.accountings.map Accounting.arm := by
    intro arm harm
    rcases h.left arm harm with haccounted | hpending
    · exact haccounted
    · simp [hdown] at hpending
  rcases hs with hkeep | harm
  · have hread : (readBootFlag s'.dir).isSome → (readBootFlag s.dir).isSome := by
      intro hflag
      rcases hkeep.bootFlag with hsame | hgone
      · rwa [readBootFlag, hsame] at hflag
      · simp [readBootFlag, hgone] at hflag
    refine ⟨hkeep.history ▸ h.history, ?_, ?_, ?_⟩
    · intro hflag
      rw [hkeep.history]
      exact h.owned (hread hflag)
    · intro hflag
      rw [hkeep.history]
      exact h.fresh (hread hflag)
    · intro arm harm
      rw [hkeep.history] at harm ⊢
      exact Or.inl (hleft arm harm)
  · obtain ⟨pair, hhistory⟩ := harm.history
    refine ⟨hhistory ▸ h.history.arm pair, ?_, ?_, ?_⟩
    · intro hflag
      rw [hhistory]
      rfl
    · intro hflag hretained arm howner
      rw [hhistory] at howner ⊢
      obtain rfl := Option.some.inj howner
      exact h.history.armed_fresh pair
    · intro arm hmem
      rw [hhistory] at hmem ⊢
      exact Or.inl (hleft arm hmem)

/-- A step that removes a retained flag leaves none, or a new one, to be accounted. -/
theorem Accounted.released (h : s.Accounted)
    (he : e.removesFlag = true → s.history.retained = false ∨ readBootFlag s.dir = none) :
    (s.released e).Accounted := by
  unfold StartupState.released
  split
  next hremoves =>
    refine ⟨⟨h.history.owner_lt, h.history.accounted_lt, h.history.once, h.history.full⟩,
      h.owned, fun hflag _ => ?_, h.left⟩
    rcases he hremoves with hretained | hnone
    · exact h.fresh hflag hretained
    · have hflag : (readBootFlag s.dir).isSome := hflag
      simp [hnone] at hflag
  next => exact h

theorem Accounted.afterCrash (h : s.Accounted) (hok : s.accountsOnce .crash) :
    s.afterCrash.Accounted := by
  refine ⟨⟨h.history.owner_lt, h.history.accounted_lt, h.history.once, h.history.full⟩, h.owned,
    h.fresh, ?_⟩
  intro arm harm
  have hcases : arm ∈ s.history.left ∨
      (readBootFlag s.dir).isSome ∧ s.history.owner = some arm := by
    simp only [StartupState.afterCrash] at harm
    split at harm
    next hflag =>
      rcases List.mem_append.mp harm with hnew | hold
      · exact Or.inr ⟨hflag, Option.mem_toList.mp hnew⟩
      · exact Or.inl hold
    next => exact Or.inl harm
  rcases hcases with hold | hnew
  · rcases h.left arm hold with haccounted | hpending
    · exact Or.inl haccounted
    · exact Or.inr ⟨rfl, hpending.2⟩
  · refine Or.inr ⟨rfl, hnew.2, ?_⟩
    have hmarker := hok hnew.1
    show (crashFlag s.dir).isSome
    rw [crashFlag, hmarker]
    exact hnew.1

theorem Accounted.recovered (h : s.Accounted) {bugcheck : CrashClass}
    {results : RecoveryResults} (hok : s.accountsOnce (.recovery bugcheck results)) :
    (s.recovered bugcheck results).Accounted := by
  cases hflag : crashFlag s.dir with
  | none =>
    rw [recovered_other (Or.inl hflag), runStartupRecovery_clean hflag]
    have hread : (clearedFlag results s.dir).read.isSome → (readBootFlag s.dir).isSome := by
      intro hread
      rcases clearedFlag_cases results s.dir with hgone | hsame
      · simp [hgone, StoredFile.read] at hread
      · rwa [hsame] at hread
    refine ⟨h.history, fun hflag => h.owned (hread hflag), fun hflag => h.fresh (hread hflag), ?_⟩
    · intro arm harm
      rcases h.left arm harm with haccounted | hpending
      · exact Or.inl haccounted
      · simp [hflag] at hpending
  | some flag =>
    obtain ⟨hretained, htrips, hsaved⟩ := hok flag hflag
    have hread : (readBootFlag s.dir).isSome := by
      simp [readBootFlag, (crashFlag_eq_some_iff.mp hflag).1, StoredFile.read]
    obtain ⟨arm, howner⟩ := Option.isSome_iff_exists.mp (h.owned hread)
    have hhistory := h.history.account
      (a := ⟨arm, flag, bugcheck, loadRecord s.dir, _⟩) howner (h.fresh hread hretained arm howner)
      (recover_full arm htrips)
    rw [recovered_saved hflag howner bugcheck hsaved]
    refine ⟨hhistory, fun _ => by simp [howner], fun _ hfalse => (by cases hfalse), ?_⟩
    intro arm' harm'
    left
    show arm' ∈ (s.history.accountings ++ [_]).map Accounting.arm
    rw [List.map_append, List.mem_append]
    rcases h.left arm' harm' with haccounted | hpending
    · exact Or.inl haccounted
    · obtain rfl := Option.some.inj (howner.symm.trans hpending.2.1)
      exact Or.inr (by simp)

theorem Accounted.step (h : s.Accounted) (hok : s.accountsOnce e) (hs : s.step e = some s') :
    s'.Accounted := by
  rcases step_cases hs with hact | hupdate | hcrash | hrecovery
  · obtain ⟨hdown, s₁, hact, rfl⟩ := hact
    exact (h.act hdown (act_flag hact)).released (act_removesFlag hact)
  · obtain ⟨call, result, -, -, rfl⟩ := hupdate
    exact ⟨h.history, h.owned, h.fresh, h.left⟩
  · obtain ⟨rfl, rfl⟩ := hcrash
    exact h.afterCrash hok
  · obtain ⟨bugcheck, results, rfl, rfl⟩ := hrecovery
    exact h.recovered hok

theorem Accounted.accountedOnce (h : s.Accounted) : s.AccountedOnce := by
  intro arm harm
  by_cases hmem : arm ∈ s.history.accountings.map Accounting.arm
  · obtain ⟨a, ha, rfl⟩ := List.mem_map.mp hmem
    exact Or.inl ⟨a, filter_eq_singleton h.history.once ha, h.history.full a ha⟩
  · rcases h.left arm harm with haccounted | hpending
    · exact absurd haccounted hmem
    · refine Or.inr ⟨hpending.1, hpending.2.1, ?_⟩
      rw [List.filter_eq_nil_iff]
      intro b hb heq
      have harm' : b.arm = arm := by simpa using heq
      exact hmem (harm' ▸ List.mem_map_of_mem hb)

end StartupState

/-- Over every run whose recoveries and crashes meet the condition, each flag left behind by a
crash is accounted exactly once. -/
theorem crash_accountedOnce (dir : DataDir) (hdir : dir.bootFlag = .absent)
    (events : List StartupEvent) (s : StartupState)
    (h : ((startup dir).guarded StartupState.accountsOnce).Run events s) : s.AccountedOnce := by
  have hinv : s.Accounted := by
    refine h.invariant (I := StartupState.Accounted) ?_ ?_
    · intro s hs
      obtain rfl := hs
      have hnone : (readBootFlag dir) = none := by simp [readBootFlag, hdir, StoredFile.read]
      exact ⟨⟨by simp, by simp, List.nodup_nil, by simp⟩, by simp [hnone], by simp [hnone], by simp⟩
    · intro s e s' hs hnext
      obtain ⟨hok, hstep⟩ := hnext
      exact hs.step hok hstep
  exact hinv.accountedOnce

/-- The machine crashes while a profile is applied. -/
def crashedApply : List StartupEvent :=
  [] ++ [.apply true (anchoredProfile 1845 856) "2026-07-15T00:00:00Z" .done] ++ [.crash]

/-- A crashed apply is accounted by the boot after it and not by the next one. -/
theorem crash_accountedOnce_over_two_boots :
    ∃ s, ((startup {}).guarded StartupState.accountsOnce).Run
        (crashedApply ++ [.recovery .ocInstability {}] ++ [.reapply none .done "" .done] ++
          [.recovery .unknown {}]) s ∧
      s.history.left ≠ [] ∧ s.history.accountings.length = 1 ∧ s.AccountedOnce := by
  have hrun : ∃ s, ((startup {}).guarded StartupState.accountsOnce).Run
        (crashedApply ++ [.recovery .ocInstability {}] ++ [.reapply none .done "" .done] ++
          [.recovery .unknown {}]) s ∧
      s.history.left ≠ [] ∧ s.history.accountings.length = 1 := by
    refine ⟨_, .next (.next (.next (.next (.next (.start rfl) ⟨trivial, rfl⟩) ⟨?_, rfl⟩)
      ⟨?_, rfl⟩) ⟨trivial, rfl⟩) ⟨?_, rfl⟩, ?_, ?_⟩
    · intro _
      rfl
    · intro flag _
      exact ⟨rfl, Bool.and_eq_false_iff.mpr (Or.inr rfl), rfl⟩
    · intro flag hflag
      have hnone : none = some flag := hflag
      simp at hnone
    · exact List.cons_ne_nil _ _
    · rfl
  obtain ⟨s, hrun, hleft, hlen⟩ := hrun
  exact ⟨s, hrun, hleft, hlen, crash_accountedOnce {} rfl _ s hrun⟩

/-- A confirmed console run accounts the crash and keeps the flag, and the next service start
accounts it again. -/
theorem crash_accounted_twice :
    ¬ ∀ (dir : DataDir), dir.bootFlag = .absent → ∀ events s,
      (startup dir).Run events s → s.AccountedOnce := by
  intro h
  have hrun : ∃ s, (startup {}).Run (crashedApply ++ [.recovery .ocInstability {}] ++
        [.recovery .ocInstability {}]) s ∧
      s.down = false ∧ ∃ arm ∈ s.history.left,
        (s.history.accountings.filter fun b => b.arm = arm).length = 2 :=
    ⟨_, .next (.next (.next (.next (.start rfl) rfl) rfl) rfl) rfl, rfl, ⟨0, some ⟨1845, 856⟩⟩,
      List.mem_singleton_self _, rfl⟩
  obtain ⟨s, hrun, hup, arm, harm, htwice⟩ := hrun
  rcases h {} rfl _ s hrun arm harm with honce | hpending
  · obtain ⟨a, honce, -⟩ := honce
    rw [honce] at htwice
    simp at htwice
  · rw [hpending.1] at hup
    simp at hup

end Nidavellir
