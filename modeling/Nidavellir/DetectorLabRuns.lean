import Nidavellir.DetectorLabWorker

namespace Nidavellir.DetectorLab

open Interference Runs SafeLoopStore

variable {card : VfCard} {first : Lab} {sys sys' : System}

/-- A session sets its status only when no earlier worker has a store left, and no reset breaks what
a worker relies on. -/
def System.orderly (sys : System) : LabAction card → Prop
  | .request a => sys.lab.allows a
  | .storeStatus => ∀ k, sys.workers k = .gone
  | _ => True

/-- Nothing was written to the learned files. -/
structure Lab.EvidenceKept (first s : Lab) : Prop where
  blacklist : (loadRecord s.dir).blacklist ⊆ (loadRecord first.dir).blacklist
  ledger : s.ledger = first.ledger
  observations : s.observations = first.observations

/-- What is left of a worker brings its session to an end. -/
structure Lab.Going (card : VfCard) (s : Lab) (rest : LabProg Unit) : Prop where
  keeps : rest.Keeps Lab.Frame
  live : s.Live
  ends : rest.ensures (Lab.Moves card) (fun _ => (LabAssertion.ended card).holds) s

/-- The invariant of the orderly runs. -/
structure System.Inv (card : VfCard) (first : Lab) (sys : System) : Prop where
  alive : ∀ k, (sys.workers k).Alive → k + 1 = sys.sessions ∧ sys.lab.status.running = true
  working : ∀ k p, sys.workers k = .working p → sys.lab.Going card p
  leaving : ∀ k, sys.workers k = .leaving tailStores → LabAssertion.ended card sys.lab
  tails : ∀ k rest, sys.workers k = .leaving rest → rest <:+ tailStores
  unsettled : ∀ k, (sys.workers k).InSession → sys.settled = false
  handler : sys.starting.isSome → sys.lab.request = .idle
  claimed : ∀ session stage, sys.starting = some (session, stage) → stage ≠ .validated →
    (∀ k, ¬ (sys.workers k).InSession) ∧ sys.lab.running = true
  statusSet : ∀ session stage, sys.starting = some (session, stage) →
    stage = .statusSet ∨ stage = .timed →
      (∀ k, sys.workers k = .gone) ∧ sys.lab.status.running = true ∧ sys.settled = false
  settled : sys.settled = true → sys.lab.Ended card
  evidence : first.EvidenceKept sys.lab

theorem gone_of_not_alive {w : LabWorker} (h : ¬ w.Alive) : w = .gone := by
  cases w with
  | working p => exact absurd trivial h
  | leaving rest =>
    cases rest with
    | nil => rfl
    | cons store rest => exact absurd (List.cons_ne_nil store rest) h

theorem not_alive_gone : ¬ LabWorker.gone.Alive := fun h => h rfl

theorem gone_ne_tailStores : LabWorker.gone ≠ .leaving tailStores := by
  rintro ⟨⟩

theorem LabWorker.InSession.alive {w : LabWorker} (h : w.InSession) : w.Alive := by
  cases w with
  | working p => trivial
  | leaving rest =>
    obtain rfl : rest = tailStores := h
    exact List.cons_ne_nil _ _

theorem LabWorker.InSession.of_working {w : LabWorker} {p : LabProg Unit} (h : w = .working p) :
    w.InSession :=
  h ▸ trivial

theorem LabWorker.InSession.of_tail {w : LabWorker} (h : w = .leaving tailStores) :
    w.InSession := by
  subst h
  rfl

theorem Lab.EvidenceKept.requested {s s' : Lab} {a : RequestAction card}
    (h : first.EvidenceKept s) (hs : s.Requested a s') : first.EvidenceKept s' where
  blacklist := List.Subset.trans hs.blacklist h.blacklist
  ledger := hs.ledger.trans h.ledger
  observations := hs.observations.trans h.observations

theorem Lab.EvidenceKept.framed {s s' : Lab} (h : first.EvidenceKept s) (hs : s.Frame s') :
    first.EvidenceKept s' where
  blacklist := by
    have hload : loadRecord s'.dir = loadRecord s.dir :=
      congrArg (fun f => f.read.getD {}) hs.record
    exact hload ▸ h.blacklist
  ledger := hs.ledger.trans h.ledger
  observations := hs.observations.trans h.observations

namespace System.Inv

theorem init : System.Inv card first ⟨first, fun _ => .gone, 0, none, false⟩ where
  alive k h := absurd h not_alive_gone
  working k p h := by cases h
  leaving k h := by cases h
  tails k rest h := by
    cases h
    exact List.nil_suffix
  unsettled k h := absurd h.alive not_alive_gone
  handler h := by cases h
  claimed session stage h := by cases h
  statusSet session stage h := by cases h
  settled h := by cases h
  evidence := ⟨List.Subset.refl _, rfl, rfl⟩

variable (h : sys.Inv card first)

include h

/-- A step of a request. -/
theorem request {a : RequestAction card} {lab : Lab} (hfree : sys.starting = none)
    (hok : sys.lab.allows a) (hs : sys.lab.requestStep a = some lab) :
    System.Inv card first { sys with lab } where
  alive k hk := ⟨(h.alive k hk).1, (Lab.requested hs).statusRunning.trans (h.alive k hk).2⟩
  working k p hk := by
    have hgoing := h.working k p hk
    have hmoves : sys.lab.Moves card lab := .inr ⟨a, hok, hs⟩
    exact ⟨hgoing.keeps, hgoing.live.moves hmoves, hgoing.ends.interfered hmoves⟩
  leaving k hk := (LabAssertion.ended card).stable (.inr ⟨a, hok, hs⟩) (h.leaving k hk)
  tails := h.tails
  unsettled := h.unsettled
  handler hsome := by simp [hfree] at hsome
  claimed session stage hstart := by simp [hfree] at hstart
  statusSet session stage hstart := by simp [hfree] at hstart
  settled hset := (h.settled hset).requested hok hs
  evidence := h.evidence.requested (Lab.requested hs)

/-- A worker in its session holds `running`. -/
theorem notInSession (hrunning : sys.lab.running = false) (k : Nat) :
    ¬ (sys.workers k).InSession := by
  intro hk
  have hlive : sys.lab.Live := by
    cases hw : sys.workers k with
    | working p => exact (h.working k p hw).live
    | leaving rest =>
      rw [hw] at hk
      obtain rfl : rest = tailStores := hk
      exact (h.leaving k hw).1
  exact absurd (hrunning.symm.trans hlive.running) Bool.false_ne_true

/-- The steps of `start` outside of a session: the point and the report stay. -/
theorem starting {lab : Lab} {start : Option (DetectorSession × StartStage)}
    (hnone : ∀ k, ¬ (sys.workers k).InSession) (hsame : sys.lab.SamePoint lab)
    (hreport : lab.status.running = sys.lab.status.running)
    (hevidence : first.EvidenceKept lab) (hidle : sys.lab.request = .idle)
    (hclaimed : start.isSome → lab.running = true)
    (hstatus : ∀ session stage, start = some (session, stage) →
      stage = .statusSet ∨ stage = .timed →
        (∀ k, sys.workers k = .gone) ∧ lab.status.running = true ∧ sys.settled = false) :
    System.Inv card first { sys with lab, starting := start } where
  alive k hk := ⟨(h.alive k hk).1, hreport.trans (h.alive k hk).2⟩
  working k _ hk := absurd (LabWorker.InSession.of_working hk) (hnone k)
  leaving k hk := absurd (LabWorker.InSession.of_tail hk) (hnone k)
  tails := h.tails
  unsettled := h.unsettled
  handler _ := hsame.request.trans hidle
  claimed _ _ hstart _ :=
    ⟨hnone, hclaimed (Option.isSome_iff_exists.mpr ⟨_, hstart⟩)⟩
  statusSet := hstatus
  settled hset := (h.settled hset).same hsame
  evidence := hevidence

/-- A step of the one worker that is alive. -/
theorem moved {k : Nat} {w : LabWorker} {lab : Lab} {settled : Bool}
    (hk : (sys.workers k).Alive) (hrequest : lab.request = sys.lab.request)
    (hrunning : ¬ (sys.workers k).InSession → ¬ w.InSession ∧ lab.running = sys.lab.running)
    (halive : w.Alive → lab.status.running = true)
    (hworking : ∀ p, w = .working p → lab.Going card p)
    (hleaving : w = .leaving tailStores → LabAssertion.ended card lab)
    (htails : ∀ rest, w = .leaving rest → rest <:+ tailStores)
    (hunsettled : w.InSession → settled = false)
    (hsettled : settled = true → lab.Ended card) (hevidence : first.EvidenceKept lab) :
    System.Inv card first
      { sys with lab, workers := Function.update sys.workers k w, settled } := by
  have hlast := (h.alive k hk).1
  have hothers : ∀ j, j ≠ k → sys.workers j = .gone := fun j hj =>
    gone_of_not_alive fun ha => hj (by have := (h.alive j ha).1; omega)
  have hforall : ∀ P : Nat → LabWorker → Prop, P k w → (∀ j, j ≠ k → P j .gone) →
      ∀ j, P j (Function.update sys.workers k w j) := fun P hw hgone =>
    (Function.forall_update_iff _ P).mpr ⟨hw, fun j hj => (hothers j hj).symm ▸ hgone j hj⟩
  constructor
  case alive =>
    exact hforall (fun j w => w.Alive → j + 1 = sys.sessions ∧ lab.status.running = true)
      (fun ha => ⟨hlast, halive ha⟩) fun j _ ha => absurd ha not_alive_gone
  case working =>
    refine hforall (fun _ w => ∀ p, w = .working p → lab.Going card p) hworking fun j _ p hp => ?_
    cases hp
  case leaving =>
    exact hforall (fun _ w => w = .leaving tailStores → LabAssertion.ended card lab)
      hleaving fun j _ hj => absurd hj gone_ne_tailStores
  case tails =>
    refine hforall (fun _ w => ∀ rest, w = .leaving rest → rest <:+ tailStores) htails
      fun j _ rest hj => ?_
    cases hj
    exact List.nil_suffix
  case unsettled =>
    exact hforall (fun _ w => w.InSession → settled = false) hunsettled
      fun j _ hj => absurd hj.alive not_alive_gone
  case handler => exact fun hs => hrequest.trans (h.handler hs)
  case claimed =>
    intro session stage hs hne
    obtain ⟨hnone, hclaimed⟩ := h.claimed session stage hs hne
    obtain ⟨hw, hkept⟩ := hrunning (hnone k)
    refine ⟨hforall (fun _ w => ¬ w.InSession) hw fun _ _ hj => ?_, hkept.trans hclaimed⟩
    exact not_alive_gone hj.alive
  case statusSet =>
    intro session stage hs hst
    rw [(h.statusSet session stage hs hst).1 k] at hk
    exact absurd hk not_alive_gone
  case settled => exact hsettled
  case evidence => exact hevidence

theorem work {k : Nat} {answer β : Type} {does : answer → Lab → β × Lab}
    {next : β → LabProg Unit} (r : answer) (hk : sys.workers k = .working (.act does next)) :
    System.Inv card first { sys with
      lab := (does r sys.lab).2
      workers := Function.update sys.workers k (.working (next (does r sys.lab).1)) } := by
  obtain ⟨hkeeps, hlive, hensures⟩ := h.working k _ hk
  have hframe : sys.lab.Frame (does r sys.lab).2 := hkeeps.1 r sys.lab
  have hunsettled := h.unsettled k (hk ▸ trivial)
  refine h.moved (hk ▸ trivial) hframe.request (absurd (hk ▸ trivial)) (fun _ => ?_)
    (fun p hp => ?_) (by rintro ⟨⟩) (by rintro rest ⟨⟩) (fun _ => hunsettled) (fun hset => ?_)
    (h.evidence.framed hframe)
  · exact hframe.statusRunning.trans (h.alive k (hk ▸ trivial)).2
  · cases hp
    exact ⟨hkeeps.2 _, hlive.framed hframe, hensures.acted r⟩
  · rw [hunsettled] at hset
    cases hset

theorem leave {k : Nat} (hk : sys.workers k = .working (.ret ())) :
    System.Inv card first { sys with
      workers := Function.update sys.workers k (.leaving tailStores) } := by
  obtain ⟨-, -, hensures⟩ := h.working k _ hk
  refine h.moved (hk ▸ trivial) rfl (absurd (hk ▸ trivial))
    (fun _ => (h.alive k (hk ▸ trivial)).2) (by rintro p ⟨⟩) (fun _ => hensures.returned)
    (fun rest hrest => ?_) (fun _ => h.unsettled k (hk ▸ trivial)) h.settled h.evidence
  cases hrest
  exact List.suffix_rfl

/-- The session settles as its worker gives `running` back. -/
theorem tail {k : Nat} {store : TailStore} {rest : List TailStore}
    (hk : sys.workers k = .leaving (store :: rest)) :
    System.Inv card first { sys with
      lab := sys.lab.after store
      workers := Function.update sys.workers k (.leaving rest)
      settled := store = .running || sys.settled } := by
  have halive : (sys.workers k).Alive := hk ▸ List.cons_ne_nil _ _
  have hsuffix := h.tails k _ hk
  have hsame : sys.lab.SamePoint (sys.lab.after store) := by
    cases store <;> exact ⟨rfl, rfl, rfl, rfl, rfl, rfl⟩
  have hevidence : first.EvidenceKept (sys.lab.after store) := by
    cases store <;> exact ⟨h.evidence.blacklist, h.evidence.ledger, h.evidence.observations⟩
  have hcases : store :: rest = tailStores ∨ store = .timer ∧ rest = [.statusRunning] ∨
      store = .statusRunning ∧ rest = [] := by
    simp only [tailStores, List.suffix_cons_iff, List.suffix_nil, List.cons.injEq] at hsuffix ⊢
    aesop
  refine h.moved halive hsame.request (fun hnone => ?_) (fun hrest => ?_) (by rintro p ⟨⟩)
    (fun hrest => ?_) (fun rest' hrest => ?_) (fun hrest => ?_) (fun hset => ?_) hevidence
  · rcases hcases with heq | ⟨rfl, rfl⟩ | ⟨rfl, rfl⟩
    · exact absurd (LabWorker.InSession.of_tail (hk.trans (congrArg _ heq))) hnone
    · exact ⟨by rintro ⟨⟩, rfl⟩
    · exact ⟨by rintro ⟨⟩, rfl⟩
  · -- the last store comes when nothing is left
    have hrunning := (h.alive k halive).2
    rcases hcases with heq | ⟨rfl, -⟩ | ⟨-, rfl⟩
    · cases heq
      exact hrunning
    · exact hrunning
    · exact absurd rfl hrest
  · cases hrest
    rcases hcases with heq | ⟨-, heq⟩ | ⟨-, heq⟩ <;> cases heq
  · cases hrest
    exact (List.suffix_cons store rest).trans hsuffix
  · obtain rfl : rest = tailStores := hrest
    rcases hcases with heq | ⟨-, heq⟩ | ⟨-, heq⟩ <;> cases heq
  · refine Lab.Ended.same ?_ hsame
    rcases hcases with heq | ⟨rfl, -⟩ | ⟨rfl, -⟩
    · exact (h.leaving k (hk.trans (congrArg _ heq))).2
    · exact h.settled (by simpa using hset)
    · exact h.settled (by simpa using hset)

theorem spawn {session : DetectorSession} (hstart : sys.starting = some (session, .timed)) :
    System.Inv card first { sys with
      workers := Function.update sys.workers sys.sessions (.working (worker card session))
      sessions := sys.sessions + 1
      starting := none } := by
  obtain ⟨-, hrunning⟩ := h.claimed session .timed hstart (by rintro ⟨⟩)
  obtain ⟨hgone, hstatus, hsettled⟩ := h.statusSet session .timed hstart (.inr rfl)
  have hidle := h.handler (by rw [hstart]; rfl)
  have hlive : sys.lab.Live := ⟨hrunning, fun hne => absurd hidle hne⟩
  have hforall : ∀ P : Nat → LabWorker → Prop, P sys.sessions (.working (worker card session)) →
      (∀ j, P j .gone) →
      ∀ j, P j (Function.update sys.workers sys.sessions (.working (worker card session)) j) :=
    fun P hw hothers => (Function.forall_update_iff _ P).mpr
      ⟨hw, fun j _ => (hgone j).symm ▸ hothers j⟩
  constructor
  case alive =>
    exact hforall (fun j w => w.Alive → j + 1 = sys.sessions + 1 ∧ sys.lab.status.running = true)
      (fun _ => ⟨rfl, hstatus⟩) fun j ha => absurd ha not_alive_gone
  case working =>
    refine hforall (fun _ w => ∀ p, w = .working p → sys.lab.Going card p) (fun p hp => ?_)
      fun j p hp => ?_
    · cases hp
      exact ⟨worker_frame, hlive, worker_spec _ ⟨hlive, trivial⟩⟩
    · cases hp
  case leaving =>
    exact hforall (fun _ w => w = .leaving tailStores → LabAssertion.ended card sys.lab)
      (by rintro ⟨⟩) fun j hj => absurd hj gone_ne_tailStores
  case tails =>
    refine hforall (fun _ w => ∀ rest, w = .leaving rest → rest <:+ tailStores) (by rintro p ⟨⟩)
      fun j rest hj => ?_
    cases hj
    exact List.nil_suffix
  case unsettled => exact fun _ _ => hsettled
  case handler => exact fun hs => by cases hs
  case claimed => exact fun session stage hs => by cases hs
  case statusSet => exact fun session stage hs => by cases hs
  case settled => exact h.settled
  case evidence => exact h.evidence

theorem movePoint {hw : Hardware} {manual : ManualPointStatus} {bootFlag : StoredFile BootFlag}
    {applied : StoredFile AppliedProfile} (hfree : sys.starting = none)
    (hrunning : sys.lab.running = false) :
    System.Inv card first { sys with
      lab := { sys.lab with
        hw, manual, dir := { sys.lab.dir with bootFlag, applied } }
      settled := false } := by
  have hnone := h.notInSession hrunning
  constructor
  case alive => exact h.alive
  case working => exact fun k p hk => absurd (LabWorker.InSession.of_working hk) (hnone k)
  case leaving => exact fun k hk => absurd (LabWorker.InSession.of_tail hk) (hnone k)
  case tails => exact h.tails
  case unsettled => exact fun _ _ => rfl
  case handler => exact h.handler
  case claimed => exact fun session stage hs => by simp [hfree] at hs
  case statusSet => exact fun session stage hs => by simp [hfree] at hs
  case settled => exact fun hs => by cases hs
  case evidence => exact ⟨h.evidence.blacklist, h.evidence.ledger, h.evidence.observations⟩

theorem step {a : LabAction card} (hok : sys.orderly a) (hs : System.Step card sys a sys') :
    sys'.Inv card first := by
  cases hs with
  | request hfree hreq => exact h.request hfree hok hreq
  | openStart hfree hidle hvalid =>
    refine ⟨h.alive, h.working, h.leaving, h.tails, h.unsettled, fun _ => hidle,
      fun session stage hs hne => ?_, fun session stage hs hst => ?_, h.settled, h.evidence⟩
    · cases hs
      exact absurd rfl hne
    · cases hs
      rcases hst with hst | hst <;> cases hst
  | claimed hstart hrunning =>
    exact h.starting (h.notInSession hrunning) ⟨rfl, rfl, rfl, rfl, rfl, rfl⟩ rfl
      ⟨h.evidence.blacklist, h.evidence.ledger, h.evidence.observations⟩
      (h.handler (by rw [hstart]; rfl)) (fun _ => rfl) (by rintro _ _ ⟨⟩ (hst | hst) <;> cases hst)
  | refused hstart hrunning =>
    exact ⟨h.alive, h.working, h.leaving, h.tails, h.unsettled, by rintro ⟨⟩, by rintro _ _ ⟨⟩,
      by rintro _ _ ⟨⟩, h.settled, h.evidence⟩
  | clearCancel hstart =>
    obtain ⟨hnone, hrunning⟩ := h.claimed _ _ hstart (by rintro ⟨⟩)
    exact h.starting hnone ⟨rfl, rfl, rfl, rfl, rfl, rfl⟩ rfl
      ⟨h.evidence.blacklist, h.evidence.ledger, h.evidence.observations⟩
      (h.handler (by rw [hstart]; rfl)) (fun _ => hrunning)
      (by rintro _ _ ⟨⟩ (hst | hst) <;> cases hst)
  | journaled hstart =>
    obtain ⟨hnone, hrunning⟩ := h.claimed _ _ hstart (by rintro ⟨⟩)
    exact h.starting hnone ⟨rfl, rfl, rfl, rfl, rfl, rfl⟩ rfl
      ⟨h.evidence.blacklist, h.evidence.ledger, h.evidence.observations⟩
      (h.handler (by rw [hstart]; rfl)) (fun _ => hrunning)
      (by rintro _ _ ⟨⟩ (hst | hst) <;> cases hst)
  | journalFailed hstart =>
    obtain ⟨hnone, -⟩ := h.claimed _ _ hstart (by rintro ⟨⟩)
    exact h.starting hnone ⟨rfl, rfl, rfl, rfl, rfl, rfl⟩ rfl
      ⟨h.evidence.blacklist, h.evidence.ledger, h.evidence.observations⟩
      (h.handler (by rw [hstart]; rfl)) (fun hs => by cases hs) (by rintro _ _ ⟨⟩)
  | storeStatus hstart =>
    obtain ⟨hnone, hrunning⟩ := h.claimed _ _ hstart (by rintro ⟨⟩)
    exact ⟨fun k hk => absurd ((hok k : sys.workers k = .gone) ▸ hk) not_alive_gone,
      fun k p hk => absurd (LabWorker.InSession.of_working hk) (hnone k),
      fun k hk => absurd (LabWorker.InSession.of_tail hk) (hnone k),
      h.tails, fun _ _ => rfl, fun _ => h.handler (by rw [hstart]; rfl),
      fun _ _ _ _ => ⟨hnone, hrunning⟩, fun _ _ _ _ => ⟨hok, rfl, rfl⟩, (by rintro ⟨⟩),
      ⟨h.evidence.blacklist, h.evidence.ledger, h.evidence.observations⟩⟩
  | storeTimer hstart =>
    obtain ⟨hnone, hrunning⟩ := h.claimed _ _ hstart (by rintro ⟨⟩)
    exact h.starting hnone ⟨rfl, rfl, rfl, rfl, rfl, rfl⟩ rfl
      ⟨h.evidence.blacklist, h.evidence.ledger, h.evidence.observations⟩
      (h.handler (by rw [hstart]; rfl)) (fun _ => hrunning)
      (fun _ _ _ _ => h.statusSet _ _ hstart (.inl rfl))
  | spawn hstart => exact h.spawn hstart
  | movePoint hfree _ hrunning => exact h.movePoint hfree hrunning
  | work r hk => exact h.work r hk
  | leave hk => exact h.leave hk
  | tail hk => exact h.tail hk

end System.Inv

/-- At the end of a session the GPU is at stock, or the approved point is still on it, or the status
says that the recovery failed; nothing was learned from it; and a worker at work is reported. -/
theorem detectorLab_ends (card : VfCard) (first : Lab) {l : List (LabAction card)} {sys : System}
    (h : ((labMachine card first).guarded System.orderly).Run l sys) :
    (sys.settled = true → sys.lab.request = .idle →
      sys.lab.IsStock card ∨ sys.lab.Unverified ∨
        ∃ session run, sys.lab.status.result = some "stable" ∧ sys.lab.judged = some run ∧
          run.cancelled = false ∧ run.Accepted session.resolvedVoltageMv ∧
          sys.lab.OnPoint card session ∧ sys.lab.Reports session) ∧
      first.EvidenceKept sys.lab ∧
      ∀ k, (sys.workers k).Alive → sys.lab.status.running = true := by
  have hinv : sys.Inv card first :=
    h.invariant (fun _ hinit => hinit ▸ System.Inv.init) fun _ _ _ hs hstep =>
      hs.step hstep.1 hstep.2
  refine ⟨fun hsettled hidle => ?_, hinv.evidence, fun k hk => (hinv.alive k hk).2⟩
  rcases hinv.settled hsettled with hstock | hunverified | ⟨session, run, hkept, hresult⟩
  · exact .inl hstock
  · exact .inr (.inl hunverified)
  · rcases hkept.place with hheld | hdep
    · exact .inr (.inr ⟨session, run, hresult, hkept.approved.judged, hkept.approved.completed,
        SingleDwell.accepted_of_passes hkept.approved.passes, hheld.onPoint,
        hkept.approved.reports⟩)
    · exact absurd hdep.request (by simp [hidle, Request.early])

section Failing

/-- What is orderly in every state. -/
def LabAction.ofSession : LabAction card → Bool
  | .request _ | .storeStatus => false
  | _ => true

variable {ok : System → LabAction card → Prop} {l : List (LabAction card)}

theorem run_launched (hok : ∀ sys (a : LabAction card), a.ofSession → ok sys a)
    (h : ((labMachine card first).guarded ok).Run l sys) (hfree : sys.starting = none)
    (hidle : sys.lab.request = .idle) (hrunning : sys.lab.running = false)
    {recipe : String} {durationS : Nat} {session : DetectorSession}
    (hvalid : validate sys.lab.rebootRequired sys.lab.manual recipe durationS = .ok session)
    (hstatus : ∀ sys' : System, sys'.workers = sys.workers → ok sys' .storeStatus) :
    ∃ l' lab, ((labMachine card first).guarded ok).Run l'
        { lab
          workers := Function.update sys.workers sys.sessions (.working (worker card session))
          sessions := sys.sessions + 1
          starting := none
          settled := false } ∧
      lab.request = .idle ∧ lab.rebootRequired = sys.lab.rebootRequired := by
  have h₁ := h.next ⟨hok _ _ rfl, .openStart hfree hidle hvalid⟩
  have h₂ := h₁.next ⟨hok _ _ rfl, .claimed rfl hrunning⟩
  have h₃ := h₂.next ⟨hok _ _ rfl, .clearCancel rfl⟩
  have h₄ := h₃.next ⟨hok _ _ rfl, .journaled rfl⟩
  have h₅ := h₄.next ⟨hstatus _ rfl, .storeStatus rfl⟩
  have h₆ := h₅.next ⟨hok _ (.storeTimer 0) rfl, .storeTimer rfl⟩
  exact ⟨_, _, h₆.next ⟨hok _ _ rfl, .spawn rfl⟩, hidle, rfl⟩

/-- The clock lock refuses both resets of the worker. -/
theorem run_unrecovered (hok : ∀ sys (a : LabAction card), a.ofSession → ok sys a)
    (h : ((labMachine card first).guarded ok).Run l sys) (hidle : sys.lab.request = .idle) {k : Nat}
    {session : DetectorSession} (hk : sys.workers k = .working (worker card session)) :
    ∃ l' lab, ((labMachine card first).guarded ok).Run l'
        { lab
          workers := Function.update sys.workers k (.leaving [.timer, .statusRunning])
          sessions := sys.sessions
          starting := sys.starting
          settled := true } ∧
      lab.request = .idle ∧ lab.running = false ∧ lab.rebootRequired = sys.lab.rebootRequired ∧
      lab.Unverified := by
  let refused : HardwareReset card := { clockError := some "clock lock refused" }
  have h₁ := h.next ⟨hok _ _ rfl, .work refused hk⟩
  have h₂ := h₁.next ⟨hok _ _ rfl, .work (none : Option String) (Function.update_self ..)⟩
  have h₃ := h₂.next ⟨hok _ _ rfl, .work refused (Function.update_self ..)⟩
  have h₄ := h₃.next ⟨hok _ _ rfl, .work () (Function.update_self ..)⟩
  have h₅ := h₄.next ⟨hok _ _ rfl, .work (Outcome.ok ()) (Function.update_self ..)⟩
  have h₆ := h₅.next ⟨hok _ _ rfl, .work () (Function.update_self ..)⟩
  have h₇ := h₆.next ⟨hok _ _ rfl, .leave (Function.update_self ..)⟩
  have h₈ := h₇.next ⟨hok _ _ rfl, .tail (Function.update_self ..)⟩
  simp only [Function.update_idem] at h₈
  exact ⟨_, _, h₈, hidle, rfl, rfl, ⟨rfl, rfl, .inl rfl⟩⟩

/-- A manual point is applied after a session. -/
theorem run_moved (hok : ∀ sys (a : LabAction card), a.ofSession → ok sys a)
    (h : ((labMachine card first).guarded ok).Run l sys) (hfree : sys.starting = none)
    (hidle : sys.lab.request = .idle) (hrunning : sys.lab.running = false)
    (hw : Hardware) (manual : ManualPointStatus) :
    ∃ l', ((labMachine card first).guarded ok).Run l'
      { sys with
        lab := { sys.lab with
          hw, manual, dir := { sys.lab.dir with bootFlag := .absent, applied := .absent } }
        settled := false } :=
  ⟨_, h.next ⟨hok _ _ rfl, .movePoint hfree hidle hrunning⟩⟩

end Failing

def bareCard : VfCard := ⟨[], List.nodup_nil, fun _ => none⟩

def verifiedPoint : ManualPointStatus :=
  { active := true, targetMhz := some 1800, requestedVoltageMv := some 850
    resolvedVoltageMv := some 850, verified := true }

def verifiedLab : Lab where
  hw := .stock
  dir := {}
  ledger := []
  observations := []
  manual := verifiedPoint
  status := {}
  startedAt := none
  cancel := false
  running := false
  rebootRequired := none
  journal := []
  request := .idle
  judged := none

def verifiedSession : DetectorSession := ⟨.denseV14, 60, verifiedPoint, 1800, 850, 850⟩

theorem validate_verified :
    validate none verifiedPoint "dense_v14" 60 = .ok verifiedSession := rfl

/-- A session on a card that refuses every reset ends with the point reported, but not verified. -/
theorem refusedSession_ends :
    ∃ (l : List (LabAction bareCard)) (sys : System),
      ((labMachine bareCard verifiedLab).guarded System.orderly).Run l sys ∧ sys.settled = true ∧
      (sys.lab.IsStock bareCard ∨ sys.lab.Unverified ∨
        ∃ session run, sys.lab.status.result = some "stable" ∧ sys.lab.judged = some run ∧
          run.cancelled = false ∧ run.Accepted session.resolvedVoltageMv ∧
          sys.lab.OnPoint bareCard session ∧ sys.lab.Reports session) := by
  have hok : ∀ sys (a : LabAction bareCard), a.ofSession → System.orderly sys a := by
    intro sys a ha
    cases a <;> trivial
  have h₀ : ((labMachine bareCard verifiedLab).guarded System.orderly).Run []
      ⟨verifiedLab, fun _ => .gone, 0, none, false⟩ := .start rfl
  obtain ⟨l₁, lab₁, h₁, hidle₁, -⟩ :=
    run_launched hok h₀ rfl rfl rfl validate_verified fun sys' hsame k => by rw [hsame]
  obtain ⟨l₂, lab₂, h₂, hidle₂, -⟩ := run_unrecovered hok h₁ hidle₁ (k := 0) rfl
  exact ⟨l₂, _, h₂, rfl, (detectorLab_ends bareCard verifiedLab h₂).1 rfl hidle₂⟩

/-- The last stores of an ended session switch off the report of the next one, whose worker runs. -/
theorem nextSession_unreported :
    ∃ (l : List (LabAction bareCard)) (sys : System) (k : Nat),
      (labMachine bareCard verifiedLab).Run l sys ∧ (sys.workers k).Alive ∧
      sys.lab.status.running = false := by
  have hok : ∀ (sys : System) (a : LabAction bareCard), a.ofSession → True := fun _ _ _ => trivial
  have h₀ : ((labMachine bareCard verifiedLab).guarded fun _ _ => True).Run []
      ⟨verifiedLab, fun _ => .gone, 0, none, false⟩ := .start rfl
  obtain ⟨l₁, lab₁, h₁, hidle₁, hreboot₁⟩ :=
    run_launched hok h₀ rfl rfl rfl validate_verified fun _ _ => trivial
  obtain ⟨l₂, lab₂, h₂, hidle₂, hrunning, hreboot₂, -⟩ := run_unrecovered hok h₁ hidle₁ (k := 0) rfl
  obtain ⟨l₃, h₃⟩ := run_moved hok h₂ rfl hidle₂ hrunning .stock verifiedPoint
  have hvalid : validate lab₂.rebootRequired verifiedPoint "dense_v14" 60 =
      .ok verifiedSession := by
    rw [hreboot₂, hreboot₁]
    exact validate_verified
  obtain ⟨l₄, lab₄, h₄, -, -⟩ := run_launched hok h₃ rfl hidle₂ hrunning hvalid fun _ _ => trivial
  have h₅ := h₄.next ⟨trivial, .tail (k := 0) rfl⟩
  have h₆ := h₅.next ⟨trivial, .tail (k := 0) rfl⟩
  exact ⟨_, _, 1, h₆.of_guarded, trivial, rfl⟩

end Nidavellir.DetectorLab
