import Nidavellir.ConfirmedPaths
import Nidavellir.Lib.Trace

namespace Nidavellir

open Trace F2Ops

/-- The answers that decide what becomes of the boot flag of a candidate, and whether the call that
armed it can tell its caller. -/
inductive FlagEvent
  | arm (target : Option F2Target) (armed : Bool)
  | dwell (lost : Bool)
  | clear (cleared : Bool)
  | stop (requested : Bool)
  | append (appended : Bool)
deriving DecidableEq

/-- The world with a record of these answers. -/
abbrev Watched (W : Type*) := Recorded FlagEvent W

def Watched.quiet {W R : Type*} (self : Watched W) (op : W → R × W) : R × Watched W :=
  let (result, ops) := op self.ops
  (result, { self with ops })

instance {W : Type*} [F2World W] : F2World (Watched W) where
  readStores self := self.quiet F2World.readStores
  stopRequested self := self.record .stop F2World.stopRequested
  armBootFlag target self :=
    self.record (fun result => .arm target result.isOk) (F2World.armBootFlag target)
  applyPositiveOffset target self := self.quiet (F2World.applyPositiveOffset target)
  verify target self := self.quiet (F2World.verify target)
  dwell target self :=
    self.record (fun result : F2DwellResult => .dwell (result.outcome == .deviceLost))
      (F2World.dwell target)
  resetToStock target self := self.quiet (F2World.resetToStock target)
  clearBootFlag self := self.record (fun result => .clear result.isOk) F2World.clearBootFlag
  blacklistPoint target countsAsCrash self :=
    self.quiet (F2World.blacklistPoint target countsAsCrash)
  appendObservation report self :=
    self.record (fun result => .append result.isOk) (F2World.appendObservation report)

/-- A candidate that armed the flag: whether a dwell of it lost the device and whether its flag was
cleared. The last two say what happened while its flag was on disk: an observation that was not
appended, a stop that was seen. -/
structure ArmedCandidate where
  target : F2Target
  lost : Bool := false
  cleared : Bool := false
  unrecorded : Bool := false
  stopped : Bool := false
deriving DecidableEq

def ArmedCandidate.unclean (self : ArmedCandidate) : Bool := self.lost || !self.cleared

/-- The candidates of a run; the flag of `current` is on disk. -/
structure FlagTrail where
  past : List ArmedCandidate := []
  current : Option ArmedCandidate := none

namespace FlagTrail

def candidates (self : FlagTrail) : List ArmedCandidate := self.past ++ self.current.toList

/-- Without a target the source stops before it arms. -/
def after (self : FlagTrail) : FlagEvent → FlagTrail
  | .arm (some target) true => { past := self.candidates, current := some { target } }
  | .dwell true =>
    { self with current := self.current.map fun candidate => { candidate with lost := true } }
  | .clear true =>
    { past := self.past ++
        (self.current.map fun candidate => { candidate with cleared := true }).toList }
  | .append false =>
    { self with
      current := self.current.map fun candidate => { candidate with unrecorded := true } }
  | .stop true =>
    { self with current := self.current.map fun candidate => { candidate with stopped := true } }
  | _ => self

-- The lemmas below are elaborated side by side; this makes the equations that they unfold, once.
section
attribute [local simp] after
end

def ofEvents (events : List FlagEvent) : FlagTrail := events.foldl after {}

@[simp] theorem ofEvents_concat (events : List FlagEvent) (e : FlagEvent) :
    ofEvents (events ++ [e]) = (ofEvents events).after e := by
  rw [ofEvents, List.foldl_append]
  rfl

/-- Every candidate was cleaned up and its flag is gone. -/
structure Settled (t : FlagTrail) : Prop where
  current : t.current = none
  past : ∀ candidate ∈ t.past, candidate.unclean = false

/-- The flag of the last candidate is on disk, all the others were cleaned up. -/
structure Holds (t : FlagTrail) (lost : Bool) : Prop where
  current : ∃ candidate, t.current = some candidate ∧ candidate.lost = lost ∧
    candidate.cleared = false
  past : ∀ candidate ∈ t.past, candidate.unclean = false

/-- While a candidate is under test: its flag is on disk, unless it had no target. -/
def Running (t : FlagTrail) (lost : Bool) : Prop := t.Settled ∨ t.Holds lost

/-- What a step leaves, with `left` what it reports of the flag. -/
def Leaves (t : FlagTrail) (left : Bool) : Prop :=
  t.Settled ∨ left = true ∧ ∃ lost, t.Holds lost

/-- An observation was lost while the flag was on disk. -/
def Unrecorded (t : FlagTrail) : Prop := t.current.any ArmedCandidate.unrecorded

/-- A stop was seen while the flag was on disk. -/
def Stopped (t : FlagTrail) : Prop := t.current.any ArmedCandidate.stopped

/-- Every candidate was cleaned up, or the flag of the last one is on disk and `known`. -/
def LeavesKnown (t : FlagTrail) (known : Prop) : Prop :=
  t.Settled ∨ (∃ lost, t.Holds lost) ∧ known

variable {t : FlagTrail} {lost : Bool} {e : FlagEvent}

theorem settled_start : (ofEvents []).Settled where
  current := rfl
  past := by simp [ofEvents]

/-- Only an arm ends the rest. -/
theorem Settled.quiet (h : t.Settled) (he : ∀ target, e ≠ .arm (some target) true) :
    (t.after e).Settled := by
  have hnone := h.current
  unfold after
  split
  next target => exact absurd rfl (he target)
  next => exact ⟨by simp [hnone], h.past⟩
  next => exact ⟨rfl, by simpa [hnone] using h.past⟩
  next => exact ⟨by simp [hnone], h.past⟩
  next => exact ⟨by simp [hnone], h.past⟩
  next => exact h

theorem Settled.arm (h : t.Settled) (target : Option F2Target) :
    (t.after (.arm target true)).Running false := by
  cases target with
  | none => exact .inl (h.quiet (by simp))
  | some target =>
    refine .inr ⟨⟨{ target }, rfl, rfl, rfl⟩, ?_⟩
    intro candidate hmem
    exact h.past candidate (by simpa [candidates, h.current, after] using hmem)

theorem Holds.dwell (h : t.Holds lost) (b : Bool) : (t.after (.dwell b)).Holds (lost || b) := by
  obtain ⟨candidate, hcurrent, rfl, hcleared⟩ := h.current
  cases b with
  | true =>
    exact ⟨⟨{ candidate with lost := true }, by simp [after, hcurrent], by simp, hcleared⟩, h.past⟩
  | false => exact ⟨⟨candidate, hcurrent, by simp, hcleared⟩, h.past⟩

/-- A candidate that lost no device is cleaned up by a clear. -/
theorem Holds.clear (h : t.Holds false) : (t.after (.clear true)).Settled := by
  obtain ⟨candidate, hcurrent, hlost, -⟩ := h.current
  refine ⟨rfl, ?_⟩
  intro c hmem
  simp only [after, hcurrent, Option.map_some, Option.toList_some, List.mem_append,
    List.mem_singleton] at hmem
  rcases hmem with hmem | rfl
  · exact h.past c hmem
  · simp [ArmedCandidate.unclean, hlost]

theorem Holds.append (h : t.Holds lost) (b : Bool) : (t.after (.append b)).Holds lost := by
  obtain ⟨candidate, hcurrent, hlost, hcleared⟩ := h.current
  cases b with
  | true => exact h
  | false =>
    exact ⟨⟨{ candidate with unrecorded := true }, by simp [after, hcurrent], hlost, hcleared⟩,
      h.past⟩

theorem Holds.stop (h : t.Holds lost) (b : Bool) : (t.after (.stop b)).Holds lost := by
  obtain ⟨candidate, hcurrent, hlost, hcleared⟩ := h.current
  cases b with
  | true =>
    exact ⟨⟨{ candidate with stopped := true }, by simp [after, hcurrent], hlost, hcleared⟩, h.past⟩
  | false => exact h

theorem Holds.unrecorded (h : t.Holds lost) : (t.after (.append false)).Unrecorded := by
  obtain ⟨candidate, hcurrent, -⟩ := h.current
  simp [Unrecorded, after, hcurrent]

theorem Holds.stopped (h : t.Holds lost) : (t.after (.stop true)).Stopped := by
  obtain ⟨candidate, hcurrent, -⟩ := h.current
  simp [Stopped, after, hcurrent]

/-- What keeps the trail at rest and its flag on disk keeps it running. -/
theorem Running.keep (h : t.Running lost) (he : ∀ target, e ≠ .arm (some target) true)
    {lost' : Bool} (hholds : t.Holds lost → (t.after e).Holds lost') :
    (t.after e).Running lost' := by
  rcases h with hsettled | hlost
  · exact .inl (hsettled.quiet he)
  · exact .inr (hholds hlost)

theorem Running.dwell (h : t.Running lost) (b : Bool) :
    (t.after (.dwell b)).Running (lost || b) := h.keep (by simp) fun hlost => hlost.dwell b

theorem Running.stop (h : t.Running lost) (b : Bool) : (t.after (.stop b)).Running lost :=
  h.keep (by simp) fun hlost => hlost.stop b

theorem Running.clearFailed (h : t.Running lost) : (t.after (.clear false)).Running lost :=
  h.keep (by simp) id

theorem Running.clear (h : t.Running false) : (t.after (.clear true)).Settled := by
  rcases h with hsettled | hholds
  · exact hsettled.quiet (by simp)
  · exact hholds.clear

theorem Running.leaves (h : t.Running lost) : t.Leaves true :=
  h.imp_right fun hlost => ⟨rfl, lost, hlost⟩

theorem Leaves.settled (h : t.Leaves false) : t.Settled := by
  rcases h with hsettled | ⟨hleft, -⟩
  · exact hsettled
  · cases hleft

/-- Whatever is unclean at the end is the candidate whose flag is on disk. -/
theorem unclean_mem (h : t.Settled ∨ ∃ lost, t.Holds lost) {candidate : ArmedCandidate}
    (hmem : candidate ∈ t.candidates) (hunclean : candidate.unclean) :
    t.current = some candidate := by
  have hpast : ∀ c ∈ t.past, c.unclean = false := by
    rcases h with h | ⟨lost, h⟩
    · exact h.past
    · exact h.past
  rcases List.mem_append.mp hmem with hmem | hmem
  · exact absurd hunclean (by simp [hpast candidate hmem])
  · exact Option.mem_toList.mp hmem

end FlagTrail

def Watched.trail {W : Type*} (self : Watched W) : FlagTrail := FlagTrail.ofEvents self.calls

end Nidavellir
