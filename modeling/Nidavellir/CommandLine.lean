import Nidavellir.FrontierPlan
import Nidavellir.Lib.Flags
import Nidavellir.Lib.Text

namespace Nidavellir.CommandLine

open Flags Text

def withoutPlus : List Char → List Char
  | '+' :: rest => rest
  | s => s

/-- `str::parse` of an unsigned integer of so many bits. -/
def parseUint (bits : Nat) (s : List Char) : Option Nat :=
  let digits := withoutPlus s
  if digits ≠ [] ∧ digits.all Char.isDigit then
    let n := Nat.ofDigitChars 10 digits 0
    if n < 2 ^ bits then some n else none
  else none

def number {ρ : Type*} (bits : Nat) (flag : String) (set : Nat → ρ → ρ) : Flag ρ String :=
  .value s!"{flag} needs a value" fun v =>
    match parseUint bits v.toList with
    | some n => .ok (set n)
    | none => .error s!"{flag}: invalid number '{v}'"

inductive UndervoltMode
  | anchored
  | simple
deriving DecidableEq

structure UndervoltArgs where
  targetMhz : Option Nat := none
  startMv : Option Nat := none
  steps : Option Nat := none
  mode : UndervoltMode := .anchored
  manualPrior : Bool := false
  autoSweep : Bool := false
  ladderSweep : Bool := false
  targets : List Nat := []
  validationPasses : Nat := 1
deriving DecidableEq

def readTargets (v : String) : Except String (List Nat) :=
  (((v.toList.splitOn ',').map trim).filter fun t => !t.isEmpty).mapM fun t =>
    match parseUint 32 t with
    | some n => .ok n
    | none => .error s!"--targets: invalid number '{String.ofList t}'"

def undervoltFlag : String → Option (Flag UndervoltArgs String)
  | "--target-mhz" =>
    some (number 32 "--target-mhz" fun n a => { a with targetMhz := some n })
  | "--start-mv" => some (number 32 "--start-mv" fun n a => { a with startMv := some n })
  | "--steps" => some (number 64 "--steps" fun n a => { a with steps := some n })
  | "--validation-passes" =>
    some (number 64 "--validation-passes" fun n a => { a with validationPasses := n })
  | "--simple" => some (.switch fun a => { a with mode := .simple })
  | "--anchored" => some (.switch fun a => { a with mode := .anchored })
  | "--manual-prior" => some (.switch fun a => { a with manualPrior := true })
  | "--auto-sweep" => some (.switch fun a => { a with autoSweep := true })
  | "--ladder-sweep" => some (.switch fun a => { a with ladderSweep := true })
  | "--targets" =>
    some (.value "--targets needs a value" fun v =>
      (readTargets v).map fun targets a => { a with targets })
  | _ => none

def parseUndervoltArgs (args : List String) : Except String UndervoltArgs :=
  parse undervoltFlag args {}

def frontierFlag : String → Option (Flag FrontierLimits String)
  | "--max-targets" => some (number 64 "--max-targets" fun n l => { l with maxTargets := some n })
  | "--max-probes" => some (number 32 "--max-probes" fun n l => { l with maxProbes := some n })
  | "--max-probes-per-target" =>
    some (number 32 "--max-probes-per-target" fun n l => { l with maxProbesPerTarget := some n })
  | "--safe-start-cap" =>
    some (number 32 "--safe-start-cap" fun n l => { l with safeStartCapMv := some n })
  | "--warm-start-brackets" => some (.switch fun l => { l with warmStartBrackets := true })
  | "--bind-seeking" => some (.switch fun l => { l with bindSeeking := true })
  | "--power-bound-knee-seeking" =>
    some (.switch fun l => { l with powerBoundKneeSeeking := true })
  | "--phase-b-probes" =>
    some (number 32 "--phase-b-probes" fun n l => { l with phaseBProbes := some n })
  | _ => none

def parseFrontierLimits (args : List String) : Except String FrontierLimits :=
  parse frontierFlag args {}

structure Config where
  out : String
  secs : Nat := 0
  intervalMs : Nat := 10
  voltMs : Nat := 200
deriving DecidableEq

def traceNumber (flag : String) (set : Nat → Config → Config) : Flag Config String :=
  .value s!"{flag} needs a value" fun v =>
    match parseUint 64 v.toList with
    | some n => .ok (set n)
    | none => .error s!"{flag} needs a number"

def traceFlag : String → Option (Flag Config String)
  | "--out" => some (.value "--out needs a value" fun v => .ok fun c => { c with out := v })
  | "--secs" => some (traceNumber "--secs" fun n c => { c with secs := n })
  | "--interval-ms" =>
    some (traceNumber "--interval-ms" fun n c => { c with intervalMs := max n 1 })
  | "--volt-ms" => some (traceNumber "--volt-ms" fun n c => { c with voltMs := max n 1 })
  | _ => none

def parseConfig (args : List String) (default : String) : Except String Config :=
  parse traceFlag args { out := default }

def hasConfirmFlag (args : List String) : Bool := args.any (· == "--confirm")

def hasHelpFlag (args : List String) : Bool := args.any fun a => a == "--help" || a == "-h"

/-- What a command comes to: whether the startup recovery ran first, and whether the run behind it
may write to the card. -/
inductive CommandEnd (ρ : Type*)
  | usage
  | invalidFlags (e : String)
  | ran (recovered confirm : Bool) (args : ρ)

def runUndervoltProbeCmd (args : List String) : CommandEnd UndervoltArgs :=
  if hasHelpFlag args then .usage
  else
    let confirm := hasConfirmFlag args
    match parseUndervoltArgs args with
    | .error e => .invalidFlags e
    | .ok parsed => .ran confirm confirm parsed

def runBuildFrontierCmd (args : List String) : CommandEnd FrontierLimits :=
  let confirm := hasConfirmFlag args
  match parseFrontierLimits args with
  | .error e => .invalidFlags e
  | .ok limits => .ran confirm confirm limits

theorem parseUint_lt {bits n : Nat} {s : List Char} (h : parseUint bits s = some n) :
    n < 2 ^ bits := by
  unfold parseUint at h
  dsimp only at h
  split at h
  next =>
    split at h
    next hlt => cases h; exact hlt
    next => cases h
  next => cases h

theorem withoutPlus_of_isDigit {s : List Char} (h : ∀ c ∈ s, c.isDigit = true) :
    withoutPlus s = s := by
  unfold withoutPlus
  split
  next rest =>
    have hplus := h '+' (List.mem_cons_self ..)
    cases hplus
  next => rfl

/-- A number is read back from its digits. -/
theorem parseUint_toDigits {bits n : Nat} (h : n < 2 ^ bits) :
    parseUint bits (Nat.toDigits 10 n) = some n := by
  have hdigits : ∀ c ∈ Nat.toDigits 10 n, c.isDigit = true := fun c =>
    Nat.isDigit_of_mem_toDigits (by omega) (by omega)
  have hne : Nat.toDigits 10 n ≠ [] := Nat.toDigits_ne_nil
  have hplain : withoutPlus (Nat.toDigits 10 n) = Nat.toDigits 10 n :=
    withoutPlus_of_isDigit hdigits
  unfold parseUint
  dsimp only
  rw [hplain, if_pos ⟨hne, List.all_eq_true.mpr hdigits⟩, Nat.ofDigitChars_ten_toDigits,
    if_pos h]

theorem parseUint_toString {bits n : Nat} (h : n < 2 ^ bits) :
    parseUint bits (toString n).toList = some n := by
  rw [show toString n = n.repr from rfl, Nat.toList_repr, parseUint_toDigits h]

section Written

variable {ρ : Type*} {table : String → Option (Flag ρ String)} {flag : String} {r : ρ}
  {rest : List String}

def numberArgs (flag : String) (o : Option Nat) : List String :=
  o.elim [] fun n => [flag, toString n]

def switchArgs (flag : String) (b : Bool) : List String := if b then [flag] else []

theorem parse_number {bits n : Nat} {set : Nat → ρ → ρ}
    (h : table flag = some (number bits flag set)) (hn : n < 2 ^ bits) :
    parse table (flag :: toString n :: rest) r = parse table rest (set n r) :=
  parse_value h (by rw [parseUint_toString hn])

theorem parse_numberArgs {bits : Nat} {o : Option Nat} (set : Option Nat → ρ → ρ)
    (h : table flag = some (number bits flag fun n => set (some n)))
    (ho : ∀ n ∈ o, n < 2 ^ bits) (hnone : set none r = r) :
    parse table (numberArgs flag o ++ rest) r = parse table rest (set o r) := by
  cases o with
  | none =>
    rw [hnone]
    rfl
  | some n => exact parse_number h (ho n rfl)

theorem parse_switchArgs {b : Bool} (set : Bool → ρ → ρ)
    (h : table flag = some (.switch (set true))) (hfalse : set false r = r) :
    parse table (switchArgs flag b ++ rest) r = parse table rest (set b r) := by
  cases b with
  | false =>
    rw [hfalse]
    rfl
  | true =>
    rw [switchArgs, if_pos rfl, List.singleton_append]
    exact parse_switch h

end Written

structure UndervoltArgs.Fits (a : UndervoltArgs) : Prop where
  targetMhz : ∀ n ∈ a.targetMhz, n < 2 ^ 32
  startMv : ∀ n ∈ a.startMv, n < 2 ^ 32
  steps : ∀ n ∈ a.steps, n < 2 ^ 64
  validationPasses : a.validationPasses < 2 ^ 64
  targets : ∀ n ∈ a.targets, n < 2 ^ 32

structure FrontierLimitsFit (l : FrontierLimits) : Prop where
  maxTargets : ∀ n ∈ l.maxTargets, n < 2 ^ 64
  maxProbes : ∀ n ∈ l.maxProbes, n < 2 ^ 32
  maxProbesPerTarget : ∀ n ∈ l.maxProbesPerTarget, n < 2 ^ 32
  safeStartCapMv : ∀ n ∈ l.safeStartCapMv, n < 2 ^ 32
  phaseBProbes : ∀ n ∈ l.phaseBProbes, n < 2 ^ 32

structure Config.Fits (c : Config) : Prop where
  secs : c.secs < 2 ^ 64
  intervalMs : 0 < c.intervalMs ∧ c.intervalMs < 2 ^ 64
  voltMs : 0 < c.voltMs ∧ c.voltMs < 2 ^ 64

section Tables

variable {ρ : Type*} {bits : Nat} {flag : String} {set : Nat → ρ → ρ}

/-- What a number flag takes is below its bound. -/
theorem number_keeps {P : ρ → Prop} (hset : ∀ n < 2 ^ bits, ∀ r, P r → P (set n r)) :
    (number bits flag set).Keeps P := by
  intro v f hf r hr
  dsimp only at hf
  split at hf
  next n hn =>
    cases hf
    exact hset n (parseUint_lt hn) r hr
  next => cases hf

theorem number_refuses {c : String} (hc : parseUint bits c.toList = none) :
    (number bits flag set).Refuses c := by
  intro f hf
  dsimp only at hf
  rw [hc] at hf
  cases hf

theorem parseUint_confirm (bits : Nat) : parseUint bits "--confirm".toList = none := by
  unfold parseUint
  dsimp only
  rw [if_neg (by decide)]

end Tables

theorem readTargets_lt {v : String} {targets : List Nat} (h : readTargets v = .ok targets) :
    ∀ n ∈ targets, n < 2 ^ 32 := by
  intro n hn
  obtain ⟨t, _, ht⟩ := Fallible.exists_of_mem_mapM h hn
  split at ht
  next m hm =>
    cases ht
    exact parseUint_lt hm
  next => cases ht

theorem readTargets_confirm : readTargets "--confirm" =
    .error "--targets: invalid number '--confirm'" := by
  rfl

theorem undervoltFlag_keeps (t : String) (f : Flag UndervoltArgs String)
    (h : undervoltFlag t = some f) : f.Keeps UndervoltArgs.Fits := by
  unfold undervoltFlag at h
  split at h
  all_goals cases h
  · exact number_keeps fun n hn a ha => { ha with targetMhz := by rintro _ ⟨⟩; exact hn }
  · exact number_keeps fun n hn a ha => { ha with startMv := by rintro _ ⟨⟩; exact hn }
  · exact number_keeps fun n hn a ha => { ha with steps := by rintro _ ⟨⟩; exact hn }
  · exact number_keeps fun n hn a ha => { ha with validationPasses := hn }
  · exact fun a ha => { ha with }
  · exact fun a ha => { ha with }
  · exact fun a ha => { ha with }
  · exact fun a ha => { ha with }
  · exact fun a ha => { ha with }
  · intro v set hset a ha
    dsimp only at hset
    cases htargets : readTargets v with
    | error e =>
      rw [htargets] at hset
      cases hset
    | ok targets =>
      rw [htargets] at hset
      cases hset
      exact { ha with targets := readTargets_lt htargets }

theorem undervoltFlag_refuses (t : String) (f : Flag UndervoltArgs String)
    (h : undervoltFlag t = some f) : f.Refuses "--confirm" := by
  unfold undervoltFlag at h
  split at h
  all_goals cases h
  · exact number_refuses (parseUint_confirm 32)
  · exact number_refuses (parseUint_confirm 32)
  · exact number_refuses (parseUint_confirm 64)
  · exact number_refuses (parseUint_confirm 64)
  · trivial
  · trivial
  · trivial
  · trivial
  · trivial
  · intro set hset
    dsimp only at hset
    rw [readTargets_confirm] at hset
    cases hset

def targetsText (targets : List Nat) : List Char :=
  [','].intercalate (targets.map (Nat.toDigits 10))

theorem trim_toDigits (n : Nat) : trim (Nat.toDigits 10 n) = Nat.toDigits 10 n := by
  have hkept : ∀ c ∈ Nat.toDigits 10 n, isWhitespace c = false := fun c hc =>
    isWhitespace_of_isDigit (Nat.isDigit_of_mem_toDigits (by omega) (by omega) hc)
  exact trim_of_kept hkept

theorem comma_notMem_toDigits (n : Nat) : ',' ∉ Nat.toDigits 10 n := by
  intro hc
  have hdigit := Nat.isDigit_of_mem_toDigits (b := 10) (by omega) (by omega) hc
  cases hdigit

theorem readTargets_targetsText {targets : List Nat} (h : ∀ n ∈ targets, n < 2 ^ 32) :
    readTargets (String.ofList (targetsText targets)) = .ok targets := by
  have hread : ((((targetsText targets).splitOn ',').map trim).filter fun t => !t.isEmpty) =
      targets.map (Nat.toDigits 10) := by
    cases targets with
    | nil => rfl
    | cons n rest =>
      have hsplit : (targetsText (n :: rest)).splitOn ',' = (n :: rest).map (Nat.toDigits 10) := by
        refine List.splitOn_intercalate ',' ?_ (by simp)
        intro l hl
        obtain ⟨m, _, hm⟩ := List.mem_map.mp hl
        rw [← hm]
        exact comma_notMem_toDigits m
      have htrim : trim ∘ Nat.toDigits 10 = Nat.toDigits 10 := funext trim_toDigits
      rw [hsplit, List.map_map, htrim, List.filter_eq_self]
      intro l hl
      obtain ⟨m, _, hm⟩ := List.mem_map.mp hl
      rw [← hm]
      simp
  unfold readTargets
  rw [String.toList_ofList, hread, Fallible.mapM_eq_ok, List.forall₂_map_left_iff,
    List.forall₂_same]
  intro n hn
  rw [parseUint_toDigits (h n hn)]

def UndervoltArgs.line (self : UndervoltArgs) : List String :=
  numberArgs "--target-mhz" self.targetMhz ++ (numberArgs "--start-mv" self.startMv ++
    (numberArgs "--steps" self.steps ++
      ("--validation-passes" :: toString self.validationPasses ::
        (switchArgs "--simple" (self.mode == .simple) ++
          (switchArgs "--manual-prior" self.manualPrior ++
            (switchArgs "--auto-sweep" self.autoSweep ++
              (switchArgs "--ladder-sweep" self.ladderSweep ++
                ["--targets", String.ofList (targetsText self.targets)])))))))

theorem parseUndervoltArgs_line {a : UndervoltArgs} (h : a.Fits) :
    parseUndervoltArgs a.line = .ok a := by
  unfold parseUndervoltArgs UndervoltArgs.line
  rw [parse_numberArgs (fun o a => { a with targetMhz := o }) rfl h.targetMhz,
    parse_numberArgs (fun o a => { a with startMv := o }) rfl h.startMv,
    parse_numberArgs (fun o a => { a with steps := o }) rfl h.steps,
    parse_number rfl h.validationPasses,
    parse_switchArgs (fun b a => { a with mode := if b then .simple else a.mode }) rfl,
    parse_switchArgs (fun b a => { a with manualPrior := b }) rfl,
    parse_switchArgs (fun b a => { a with autoSweep := b }) rfl,
    parse_switchArgs (fun b a => { a with ladderSweep := b }) rfl,
    parse_value rfl (by rw [readTargets_targetsText h.targets]; rfl)]
  · have hmode : (if (a.mode == .simple) = true then UndervoltMode.simple else .anchored) =
        a.mode := by
      cases a.mode with
      | anchored => rfl
      | simple => rfl
    exact congrArg (fun mode => Except.ok { a with mode }) hmode
  all_goals rfl

def frontierLine (l : FrontierLimits) : List String :=
  numberArgs "--max-targets" l.maxTargets ++ (numberArgs "--max-probes" l.maxProbes ++
    (numberArgs "--max-probes-per-target" l.maxProbesPerTarget ++
      (numberArgs "--safe-start-cap" l.safeStartCapMv ++
        (switchArgs "--warm-start-brackets" l.warmStartBrackets ++
          (switchArgs "--bind-seeking" l.bindSeeking ++
            (switchArgs "--power-bound-knee-seeking" l.powerBoundKneeSeeking ++
              (numberArgs "--phase-b-probes" l.phaseBProbes ++ [])))))))

theorem parseFrontierLimits_line {l : FrontierLimits} (h : FrontierLimitsFit l) :
    parseFrontierLimits (frontierLine l) = .ok l := by
  unfold parseFrontierLimits frontierLine
  rw [parse_numberArgs (fun o l => { l with maxTargets := o }) rfl h.maxTargets,
    parse_numberArgs (fun o l => { l with maxProbes := o }) rfl h.maxProbes,
    parse_numberArgs (fun o l => { l with maxProbesPerTarget := o }) rfl h.maxProbesPerTarget,
    parse_numberArgs (fun o l => { l with safeStartCapMv := o }) rfl h.safeStartCapMv,
    parse_switchArgs (fun b l => { l with warmStartBrackets := b }) rfl,
    parse_switchArgs (fun b l => { l with bindSeeking := b }) rfl,
    parse_switchArgs (fun b l => { l with powerBoundKneeSeeking := b }) rfl,
    parse_numberArgs (fun o l => { l with phaseBProbes := o }) rfl h.phaseBProbes]
  all_goals rfl

theorem parseUndervoltArgs_iff (a : UndervoltArgs) :
    (∃ args, parseUndervoltArgs args = .ok a) ↔ a.Fits := by
  constructor
  · intro ⟨args, hargs⟩
    obtain ⟨items, hreads⟩ := parse_ok_iff.mp hargs
    have hdefault : UndervoltArgs.Fits {} :=
      ⟨by simp, by simp, by simp, by norm_num, by simp⟩
    exact hreads.keeps undervoltFlag_keeps hdefault
  · intro h
    exact ⟨a.line, parseUndervoltArgs_line h⟩

theorem frontierFlag_keeps (t : String) (f : Flag FrontierLimits String)
    (h : frontierFlag t = some f) : f.Keeps FrontierLimitsFit := by
  unfold frontierFlag at h
  split at h
  all_goals cases h
  · exact number_keeps fun n hn l hl => { hl with maxTargets := by rintro _ ⟨⟩; exact hn }
  · exact number_keeps fun n hn l hl => { hl with maxProbes := by rintro _ ⟨⟩; exact hn }
  · exact number_keeps fun n hn l hl =>
      { hl with maxProbesPerTarget := by rintro _ ⟨⟩; exact hn }
  · exact number_keeps fun n hn l hl => { hl with safeStartCapMv := by rintro _ ⟨⟩; exact hn }
  · exact fun l hl => { hl with }
  · exact fun l hl => { hl with }
  · exact fun l hl => { hl with }
  · exact number_keeps fun n hn l hl => { hl with phaseBProbes := by rintro _ ⟨⟩; exact hn }

theorem frontierFlag_refuses (t : String) (f : Flag FrontierLimits String)
    (h : frontierFlag t = some f) : f.Refuses "--confirm" := by
  unfold frontierFlag at h
  split at h
  all_goals cases h
  · exact number_refuses (parseUint_confirm 64)
  · exact number_refuses (parseUint_confirm 32)
  · exact number_refuses (parseUint_confirm 32)
  · exact number_refuses (parseUint_confirm 32)
  · trivial
  · trivial
  · trivial
  · exact number_refuses (parseUint_confirm 32)

theorem parseFrontierLimits_iff (l : FrontierLimits) :
    (∃ args, parseFrontierLimits args = .ok l) ↔ FrontierLimitsFit l := by
  constructor
  · intro ⟨args, hargs⟩
    obtain ⟨items, hreads⟩ := parse_ok_iff.mp hargs
    have hdefault : FrontierLimitsFit {} := ⟨by simp, by simp, by simp, by simp, by simp⟩
    exact hreads.keeps frontierFlag_keeps hdefault
  · intro h
    exact ⟨frontierLine l, parseFrontierLimits_line h⟩

theorem traceNumber_keeps {flag : String} {set : Nat → Config → Config}
    (hset : ∀ n < 2 ^ 64, ∀ c, c.Fits → (set n c).Fits) :
    (traceNumber flag set).Keeps Config.Fits := by
  intro v f hf c hc
  dsimp only at hf
  split at hf
  next n hn =>
    cases hf
    exact hset n (parseUint_lt hn) c hc
  next => cases hf

theorem positive_fits {n : Nat} (h : n < 2 ^ 64) : 0 < max n 1 ∧ max n 1 < 2 ^ 64 := by
  omega

theorem traceFlag_keeps (t : String) (f : Flag Config String) (h : traceFlag t = some f) :
    f.Keeps Config.Fits := by
  unfold traceFlag at h
  split at h
  all_goals cases h
  · intro v set hset c hc
    cases hset
    exact { hc with }
  · exact traceNumber_keeps fun n hn c hc => { hc with secs := hn }
  · exact traceNumber_keeps fun n hn c hc => { hc with intervalMs := positive_fits hn }
  · exact traceNumber_keeps fun n hn c hc => { hc with voltMs := positive_fits hn }

def Config.line (c : Config) : List String :=
  ["--out", c.out, "--secs", toString c.secs, "--interval-ms", toString c.intervalMs,
    "--volt-ms", toString c.voltMs]

theorem parseConfig_line {c : Config} {default : String} (h : c.Fits) :
    parseConfig c.line default = .ok c := by
  unfold parseConfig Config.line
  rw [parse_value rfl rfl, parse_value rfl (by rw [parseUint_toString h.secs]),
    parse_value rfl (by rw [parseUint_toString h.intervalMs.2]),
    parse_value rfl (by rw [parseUint_toString h.voltMs.2])]
  dsimp only
  rw [max_eq_left h.intervalMs.1, max_eq_left h.voltMs.1, parse]

/-- Whatever the default path is, the loop of a recording never waits no time at all. -/
theorem parseConfig_iff (c : Config) (default : String) :
    (∃ args, parseConfig args default = .ok c) ↔ c.Fits := by
  constructor
  · intro ⟨args, hargs⟩
    obtain ⟨items, hreads⟩ := parse_ok_iff.mp hargs
    have hdefault : Config.Fits { out := default } :=
      ⟨by norm_num, by norm_num, by norm_num⟩
    exact hreads.keeps traceFlag_keeps hdefault
  · intro h
    exact ⟨c.line, parseConfig_line h⟩

theorem hasConfirmFlag_iff {args : List String} :
    hasConfirmFlag args = true ↔ "--confirm" ∈ args := by
  simp [hasConfirmFlag]

/-- A run is confirmed by a `--confirm` that stands for itself. -/
theorem runUndervoltProbeCmd_ran_iff (args : List String) (recovered confirm : Bool)
    (a : UndervoltArgs) :
    runUndervoltProbeCmd args = .ran recovered confirm a ↔
      hasHelpFlag args = false ∧ recovered = confirm ∧
        ∃ items, Reads undervoltFlag args {} items a ∧
          (confirm = true ↔ .ignored "--confirm" ∈ items) := by
  have hconfirm : ∀ {items}, Reads undervoltFlag args {} items a →
      (hasConfirmFlag args = true ↔ .ignored "--confirm" ∈ items) := fun hreads =>
    hasConfirmFlag_iff.trans (hreads.mem_iff_ignored rfl undervoltFlag_refuses)
  unfold runUndervoltProbeCmd
  constructor
  · intro h
    split at h
    next => cases h
    next hhelp =>
      dsimp only at h
      split at h
      next => cases h
      next parsed hparsed =>
        obtain ⟨items, hreads⟩ := parse_ok_iff.mp hparsed
        cases h
        exact ⟨Bool.eq_false_iff.mpr hhelp, rfl, items, hreads, hconfirm hreads⟩
  · intro ⟨hhelp, hrecovered, items, hreads, hitems⟩
    have hparsed : parseUndervoltArgs args = .ok a := parse_ok_iff.mpr ⟨items, hreads⟩
    have hsame : hasConfirmFlag args = confirm :=
      Bool.eq_iff_iff.mpr ((hconfirm hreads).trans hitems.symm)
    rw [hhelp, hparsed, hsame, hrecovered]
    rfl

/-- A line is refused at the first flag that has no value it can use, before anything runs. -/
theorem runUndervoltProbeCmd_invalidFlags_iff (args : List String) (e : String) :
    runUndervoltProbeCmd args = .invalidFlags e ↔
      hasHelpFlag args = false ∧ Stops undervoltFlag args {} e := by
  unfold runUndervoltProbeCmd
  constructor
  · intro h
    split at h
    next => cases h
    next hhelp =>
      dsimp only at h
      split at h
      next e' hparsed =>
        cases h
        exact ⟨Bool.eq_false_iff.mpr hhelp, parse_error_iff.mp hparsed⟩
      next => cases h
  · intro ⟨hhelp, hstops⟩
    have hparsed : parseUndervoltArgs args = .error e := parse_error_iff.mpr hstops
    rw [hhelp, hparsed]
    rfl

theorem runBuildFrontierCmd_ran_iff (args : List String) (recovered confirm : Bool)
    (l : FrontierLimits) :
    runBuildFrontierCmd args = .ran recovered confirm l ↔
      recovered = confirm ∧
        ∃ items, Reads frontierFlag args {} items l ∧
          (confirm = true ↔ .ignored "--confirm" ∈ items) := by
  have hconfirm : ∀ {items}, Reads frontierFlag args {} items l →
      (hasConfirmFlag args = true ↔ .ignored "--confirm" ∈ items) := fun hreads =>
    hasConfirmFlag_iff.trans (hreads.mem_iff_ignored rfl frontierFlag_refuses)
  unfold runBuildFrontierCmd
  constructor
  · intro h
    dsimp only at h
    split at h
    next => cases h
    next limits hparsed =>
      obtain ⟨items, hreads⟩ := parse_ok_iff.mp hparsed
      cases h
      exact ⟨rfl, items, hreads, hconfirm hreads⟩
  · intro ⟨hrecovered, items, hreads, hitems⟩
    have hparsed : parseFrontierLimits args = .ok l := parse_ok_iff.mpr ⟨items, hreads⟩
    have hsame : hasConfirmFlag args = confirm :=
      Bool.eq_iff_iff.mpr ((hconfirm hreads).trans hitems.symm)
    rw [hparsed, hsame, hrecovered]

end Nidavellir.CommandLine
