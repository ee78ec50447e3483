import Nidavellir.Lib.Text
import Nidavellir.Lib.UtcText
import Nidavellir.Startup

namespace Nidavellir

open SafeLoopStore UtcText

def classifyBugcheck (code : Nat) : CrashClass :=
  if code = 0 then .unknown
  else if code ∈ [0x101, 0x124, 0x133, 0x116, 0x117] then .ocInstability
  else .unrelated

/-- The first 19 characters, when they are 19 bytes, and nine places of the fraction. -/
def utcOrderKey (timestamp : List Char) : Option (List Char) :=
  let second := timestamp.take 19
  if (second.map Char.utf8Size).sum ≠ 19 then none
  else
    let fraction :=
      match timestamp.drop 19 with
      | '.' :: tail => (tail.takeWhile Char.isDigit).take 9
      | _ => []
    some (second ++ (fraction ++ List.replicate (9 - fraction.length) '0'))

def eventBelongsToAppliedSession (eventTs : String) (appliedAt : Option String) : Bool :=
  match appliedAt with
  | none => false
  | some appliedAt =>
    match utcOrderKey eventTs.toList, utcOrderKey appliedAt.toList with
    | some event, some applied => decide (applied ≤ event)
    | _, _ => false

/-- The test of the newest driver reset against the stored baseline, which compares the texts. -/
def newTdr (newest baseline : Option String) : Bool :=
  newest.any fun timestamp =>
    baseline.any fun old => decide (String.ofList (Text.trim old.toList) < timestamp)

def sessionBugcheck (profile : Option AppliedProfile) (newest : Option (String × Nat)) :
    Option (String × Nat) :=
  profile.bind fun profile => newest.filter fun event =>
    eventBelongsToAppliedSession event.1 profile.appliedAt &&
      classifyBugcheck event.2 == .ocInstability

/-- The boot reconciliation, from what the event log and the baseline file hold; it answers whether
it demoted, and the baseline that it leaves. -/
def reconcileEvents (newestTdr baseline : Option String) (newestBugcheck : Option (String × Nat))
    (record applied : FileResult) (dir : DataDir) : Bool × Option String × DataDir :=
  let bugcheck := sessionBugcheck (loadApplied dir) newestBugcheck
  let (demoted, dir) :=
    startupReconcile (newTdr newestTdr baseline || bugcheck.isSome) record applied dir
  (demoted, newestTdr <|> baseline, dir)

theorem isDigit_digitsText (digits : List (Fin 10)) :
    ∀ c ∈ digitsText digits, c.isDigit = true := by
  intro c hc
  obtain ⟨d, -, rfl⟩ := List.mem_map.mp hc
  rw [Nat.isDigit_digitChar]
  exact decide_eq_true d.isLt

theorem isDigit_decimal {width n : Nat} (h : n < 10 ^ width) :
    ∀ c ∈ decimal width n, c.isDigit = true := by
  induction width generalizing n with
  | zero => exact fun c hc => absurd hc List.not_mem_nil
  | succ width ih =>
    intro c hc
    rcases List.mem_cons.mp hc with rfl | hc
    · rw [Nat.isDigit_digitChar]
      exact decide_eq_true (div_lt_ten h)
    · exact ih (Nat.mod_lt _ (Nat.pow_pos (by decide))) c hc

theorem utf8Size_of_isDigit {c : Char} (h : c.isDigit = true) : c.utf8Size = 1 := by
  simp only [Char.isDigit, Bool.and_eq_true, decide_eq_true_eq] at h
  have hnine : (57 : UInt32) ≤ 0x7F := by decide
  have hle : c.val ≤ 0x7F := UInt32.le_trans h.2 hnine
  exact if_pos hle

theorem utf8Size_second (time : Second) : ∀ c ∈ time.text, c.utf8Size = 1 := by
  have hdigits : ∀ {width n : Nat}, n < 10 ^ width → ∀ c ∈ decimal width n, c.utf8Size = 1 :=
    fun h c hc => utf8Size_of_isDigit (isDigit_decimal h c hc)
  have hmonth : time.month < 10 ^ 2 := time.month_le.trans_lt (by decide)
  have hday : time.day < 10 ^ 2 :=
    (time.day_le.trans (daysInMonth_le _ _)).trans_lt (by decide)
  have hhour : time.hour < 10 ^ 2 := time.hour_lt.trans (by decide)
  have hminute : time.minute < 10 ^ 2 := time.minute_lt.trans (by decide)
  have hsecond : time.second < 10 ^ 2 := time.second_lt.trans (by decide)
  simp only [Second.text, Date.text, List.forall_mem_append, List.forall_mem_cons]
  exact ⟨⟨⟨⟨hdigits time.year_lt, rfl, hdigits hmonth, rfl, hdigits hday⟩, rfl, hdigits hhour⟩,
    rfl, hdigits hminute⟩, rfl, hdigits hsecond⟩

theorem sum_utf8Size_second (time : Second) : (time.text.map Char.utf8Size).sum = 19 := by
  rw [List.map_eq_replicate_iff.mpr (utf8Size_second time), List.sum_replicate,
    time.length_text]
  rfl

theorem takeWhile_digitsText (digits : List (Fin 10)) (suffix : Suffix) :
    (digitsText digits ++ suffix.text).takeWhile Char.isDigit = digitsText digits := by
  have hsuffix : suffix.text.takeWhile Char.isDigit = [] := by cases suffix <;> rfl
  rw [List.takeWhile_append_of_pos (isDigit_digitsText digits), hsuffix, List.append_nil]

/-- The key of a timestamp has all its places written out. -/
theorem utcOrderKey_text (t : Timestamp) :
    utcOrderKey t.text.toList = some (t.toSecond.text ++ decimal 9 (scaled 9 t.fraction)) := by
  have hlen := t.toSecond.length_text
  rw [Timestamp.text, String.toList_ofList, Timestamp.chars, decimal_scaled t.places]
  unfold utcOrderKey
  dsimp only
  rw [List.take_left' hlen, List.drop_left' hlen, if_neg (not_not.mpr (sum_utf8Size_second _))]
  unfold fractionText
  cases hfraction : t.fraction with
  | nil => cases t.suffix <;> rfl
  | cons d digits =>
    have hplaces := t.places
    rw [hfraction] at hplaces
    have hlength : (digitsText (d :: digits)).length = (d :: digits).length := List.length_map _
    have htake : (digitsText (d :: digits)).take 9 = digitsText (d :: digits) :=
      List.take_of_length_le (hlength.trans_le hplaces)
    simp only [List.isEmpty_cons, Bool.false_eq_true, if_false, List.cons_append,
      takeWhile_digitsText, htake, hlength]

theorem eventBelongsToAppliedSession_iff (event applied : Timestamp) :
    eventBelongsToAppliedSession event.text (some applied.text) = true ↔
      applied.instant ≤ event.instant := by
  unfold eventBelongsToAppliedSession
  simp only [utcOrderKey_text]
  rw [decide_eq_true_iff, ← not_lt, ← not_lt, (Timestamp.ordered_padded event applied).lt_iff]

/-- Nothing of a timestamp is trimmed. -/
theorem trim_chars (t : Timestamp) : Text.trim t.chars = t.chars := by
  have hhead : Text.isWhitespace (Nat.digitChar (t.year / 10 ^ 3)) = false := by
    have hall : ∀ d : Fin 10, Text.isWhitespace (Nat.digitChar d) = false := by decide
    exact hall ⟨t.year / 10 ^ 3, div_lt_ten t.year_lt⟩
  have hstart : Text.trimStart t.chars = t.chars :=
    List.dropWhile_cons_of_neg (by rw [hhead]; exact Bool.false_ne_true)
  have hlast : ∃ body c, t.chars = body ++ [c] ∧ Text.isWhitespace c = false := by
    have hsuffix : ∃ body c, t.suffix.text = body ++ [c] ∧ Text.isWhitespace c = false := by
      cases t.suffix with
      | zulu => exact ⟨[], 'Z', rfl, by decide⟩
      | offset => exact ⟨['+', '0', '0', ':', '0'], '0', rfl, by decide⟩
    obtain ⟨body, c, heq, hc⟩ := hsuffix
    refine ⟨t.toSecond.text ++ (fractionText t.fraction ++ body), c, ?_, hc⟩
    rw [Timestamp.chars, heq, List.append_assoc, List.append_assoc]
  obtain ⟨body, c, heq, hc⟩ := hlast
  rw [Text.trim, hstart, heq, Text.trimEnd_concat_kept hc]

theorem newTdr_iff (event old : Timestamp) :
    newTdr (some event.text) (some old.text) = true ↔ old.text < event.text := by
  have htrim : String.ofList (Text.trim old.text.toList) = old.text := by
    rw [Timestamp.text, String.toList_ofList, trim_chars]
  rw [newTdr, Option.any_some, Option.any_some, htrim, decide_eq_true_iff]

/-- The profile on the disk, where it has a time, has one in the form of the source. -/
def StampedApply (dir : DataDir) : Prop :=
  ∀ profile, loadApplied dir = some profile → ∀ text, profile.appliedAt = some text →
    ∃ applied : Timestamp, text = applied.text

/-- A driver reset came after the baseline. -/
def ResetInSession (newestTdr baseline : Option Timestamp) : Prop :=
  ∃ event old : Timestamp, newestTdr = some event ∧ baseline = some old ∧
    old.instant < event.instant

/-- A bugcheck of an unstable overclock came not before the apply. -/
def BugcheckInSession (bugcheck : Option (Timestamp × Nat)) (dir : DataDir) : Prop :=
  ∃ (profile : AppliedProfile) (event : Timestamp) (code : Nat) (applied : Timestamp),
    loadApplied dir = some profile ∧ bugcheck = some (event, code) ∧
    classifyBugcheck code = .ocInstability ∧ profile.appliedAt = some applied.text ∧
    applied.instant ≤ event.instant

/-- An undervolt is there to be demoted. -/
def HasUndervolt (dir : DataDir) : Prop :=
  ((loadApplied dir).bind (·.undervolt)).isSome = true

/-- Both tests follow the time, and a profile is demoted exactly for a crash of its session. -/
structure AttributedByTime (newestTdr stored : Option Timestamp) : Prop where
  session : ∀ event applied : Timestamp,
    eventBelongsToAppliedSession event.text (some applied.text) = true ↔
      applied.instant ≤ event.instant
  baseline : ∀ event old, newestTdr = some event → stored = some old →
    (newTdr (some event.text) (some old.text) = true ↔ old.instant < event.instant)
  demoted : ∀ bugcheck dir record applied, StampedApply dir →
    ((reconcileEvents (newestTdr.map Timestamp.text) (stored.map Timestamp.text)
        (bugcheck.map (Prod.map Timestamp.text id)) record applied dir).1 = true ↔
      HasUndervolt dir ∧ (ResetInSession newestTdr stored ∨ BugcheckInSession bugcheck dir))

theorem sessionBugcheck_iff {dir : DataDir} (hstamped : StampedApply dir)
    (bugcheck : Option (Timestamp × Nat)) :
    (sessionBugcheck (loadApplied dir) (bugcheck.map (Prod.map Timestamp.text id))).isSome = true ↔
      BugcheckInSession bugcheck dir := by
  unfold sessionBugcheck BugcheckInSession
  constructor
  · intro h
    obtain ⟨_, h⟩ := Option.isSome_iff_exists.mp h
    obtain ⟨profile, hprofile, h⟩ := Option.bind_eq_some_iff.mp h
    obtain ⟨hevent, htest⟩ := Option.filter_eq_some_iff.mp h
    obtain ⟨⟨event, code⟩, hbugcheck, rfl⟩ := Option.map_eq_some_iff.mp hevent
    obtain ⟨hbelongs, hclass⟩ := Bool.and_eq_true_iff.mp htest
    cases happlied : profile.appliedAt with
    | none =>
      rw [happlied] at hbelongs
      cases hbelongs
    | some text =>
      obtain ⟨applied, rfl⟩ := hstamped profile hprofile text happlied
      rw [happlied] at hbelongs
      exact ⟨profile, event, code, applied, hprofile, hbugcheck, eq_of_beq hclass, happlied,
        (eventBelongsToAppliedSession_iff event applied).mp hbelongs⟩
  · rintro ⟨profile, event, code, applied, hprofile, rfl, hclass, happlied, hle⟩
    have hbelongs := (eventBelongsToAppliedSession_iff event applied).mpr hle
    rw [hprofile, Option.bind_some, Option.map_some, Option.filter_some, happlied]
    simp only [Prod.map_fst, Prod.map_snd, id_eq, hbelongs, hclass]
    rfl

theorem reconcileEvents_demoted (newestTdr stored : Option String)
    (bugcheck : Option (String × Nat)) (record applied : FileResult) (dir : DataDir) :
    (reconcileEvents newestTdr stored bugcheck record applied dir).1 = true ↔
      HasUndervolt dir ∧ (newTdr newestTdr stored = true ∨
        (sessionBugcheck (loadApplied dir) bugcheck).isSome = true) := by
  rw [← Bool.or_eq_true]
  unfold reconcileEvents startupReconcile HasUndervolt
  dsimp only
  cases (loadApplied dir).bind (·.undervolt) with
  | none => simp
  | some uv =>
    cases newTdr newestTdr stored || (sessionBugcheck (loadApplied dir) bugcheck).isSome <;> simp

theorem newTdr_isSome_iff {newestTdr stored : Option Timestamp}
    (h : ∀ event old, newestTdr = some event → stored = some old →
      (newTdr (some event.text) (some old.text) = true ↔ old.instant < event.instant)) :
    newTdr (newestTdr.map Timestamp.text) (stored.map Timestamp.text) = true ↔
      ResetInSession newestTdr stored := by
  unfold ResetInSession
  cases newestTdr with
  | none => simp [newTdr]
  | some event =>
    cases stored with
    | none => simp [newTdr]
    | some old =>
      refine (h event old rfl rfl).trans ⟨fun hlt => ⟨event, old, rfl, rfl, hlt⟩, ?_⟩
      rintro ⟨event, old, ⟨⟩, ⟨⟩, hlt⟩
      exact hlt

/-- Crashes are attributed by the time just where the newest driver reset and the baseline compare
by their texts as they do by their instants. -/
theorem crashes_attributed_iff (newestTdr stored : Option Timestamp) :
    AttributedByTime newestTdr stored ↔
      ∀ event old, newestTdr = some event → stored = some old → event.textsAgree old = true := by
  constructor
  · intro h event old hevent hold
    rw [Timestamp.textsAgree_iff, ← newTdr_iff]
    exact h.baseline event old hevent hold
  · intro h
    have hbaseline : ∀ event old, newestTdr = some event → stored = some old →
        (newTdr (some event.text) (some old.text) = true ↔ old.instant < event.instant) := by
      intro event old hevent hold
      rw [newTdr_iff]
      exact (event.textsAgree_iff old).mp (h event old hevent hold)
    refine ⟨eventBelongsToAppliedSession_iff, hbaseline, ?_⟩
    intro bugcheck dir record applied hstamped
    rw [reconcileEvents_demoted, newTdr_isSome_iff hbaseline, sessionBugcheck_iff hstamped]

/-- The second 2026-07-09T07:43:40. -/
def resetSecond : Second where
  year := 2026
  month := 7
  day := 9
  year_lt := by decide
  month_pos := by decide
  month_le := by decide
  day_pos := by decide
  day_le := by decide
  hour := 7
  minute := 43
  second := 40
  hour_lt := by decide
  minute_lt := by decide
  second_lt := by decide

def placesOf (digits : List Nat) : List (Fin 10) :=
  digits.map fun digit => ⟨digit % 10, Nat.mod_lt digit (Nat.succ_pos 9)⟩

/-- One instant, written with seven places and with nine. -/
def sevenPlaces : Timestamp := ⟨resetSecond, placesOf [1, 2, 3, 4, 5, 6, 7], .zulu, by decide⟩

def ninePlaces : Timestamp :=
  ⟨resetSecond, placesOf [1, 2, 3, 4, 5, 6, 7, 0, 0], .zulu, by decide⟩

/-- The reset that the baseline holds already, told with fewer places, is taken for a new one. -/
theorem reset_counted_twice : ¬ AttributedByTime (some sevenPlaces) (some ninePlaces) := by
  intro h
  have hagree : sevenPlaces.textsAgree ninePlaces = false := by decide +kernel
  have hiff := h.baseline sevenPlaces ninePlaces rfl rfl
  rw [newTdr_iff, ← Timestamp.textsAgree_iff, hagree] at hiff
  cases hiff

end Nidavellir
