import Mathlib.Data.List.Lex
import Mathlib.Data.String.Basic
import Mathlib.Order.Lattice

namespace UtcText

section Append

variable {α : Type*} [LinearOrder α] {a b x y : List α}

theorem append_lt_append_iff (h : a.length = b.length) :
    a ++ x < b ++ y ↔ a < b ∨ a = b ∧ x < y := by
  induction a generalizing b with
  | nil =>
    obtain rfl := List.length_eq_zero_iff.mp h.symm
    simp
  | cons c a ih =>
    cases b with
    | nil => cases h
    | cons d b =>
      rw [List.cons_append, List.cons_append, List.cons_lt_cons_iff, List.cons_lt_cons_iff,
        ih (Nat.succ.inj h), List.cons.injEq]
      tauto

end Append

theorem positional_lt_iff {width high high' low low' : Nat} (h : low < width)
    (h' : low' < width) :
    high * width + low < high' * width + low' ↔ high < high' ∨ high = high' ∧ low < low' := by
  rcases Nat.lt_trichotomy high high' with hlt | rfl | hgt
  · have hstep := Nat.mul_le_mul_right width (Nat.succ_le_of_lt hlt)
    rw [Nat.succ_mul] at hstep
    exact ⟨fun _ => .inl hlt, fun _ => by omega⟩
  · simp
  · have hstep := Nat.mul_le_mul_right width (Nat.succ_le_of_lt hgt)
    rw [Nat.succ_mul] at hstep
    constructor
    · intro hlt
      omega
    · rintro (hlt | ⟨rfl, -⟩) <;> omega

/-- The decimal digits of a number, padded with zeros. -/
def decimal : Nat → Nat → List Char
  | 0, _ => []
  | width + 1, n => Nat.digitChar (n / 10 ^ width) :: decimal width (n % 10 ^ width)

theorem length_decimal (width n : Nat) : (decimal width n).length = width := by
  induction width generalizing n with
  | zero => rfl
  | succ width ih => rw [decimal, List.length_cons, ih]

theorem digitChar_lt_iff {d e : Nat} (hd : d < 10) (he : e < 10) :
    Nat.digitChar d < Nat.digitChar e ↔ d < e := by
  have hall : ∀ d e : Fin 10, Nat.digitChar d < Nat.digitChar e ↔ d.val < e.val := by decide
  exact hall ⟨d, hd⟩ ⟨e, he⟩

theorem digitChar_inj {d e : Nat} (hd : d < 10) (he : e < 10) :
    Nat.digitChar d = Nat.digitChar e ↔ d = e := by
  have hall : ∀ d e : Fin 10, Nat.digitChar d = Nat.digitChar e ↔ d.val = e.val := by decide
  exact hall ⟨d, hd⟩ ⟨e, he⟩

theorem div_lt_ten {width n : Nat} (h : n < 10 ^ (width + 1)) : n / 10 ^ width < 10 :=
  Nat.div_lt_of_lt_mul (by rwa [← pow_succ])

theorem decimal_lt_iff {width n m : Nat} (hn : n < 10 ^ width) (hm : m < 10 ^ width) :
    decimal width n < decimal width m ↔ n < m := by
  induction width generalizing n m with
  | zero =>
    rw [pow_zero] at hn hm
    simp [decimal]
    omega
  | succ width ih =>
    have hpos : 0 < 10 ^ width := Nat.pow_pos (by decide)
    rw [decimal, decimal, List.cons_lt_cons_iff, digitChar_lt_iff (div_lt_ten hn) (div_lt_ten hm),
      digitChar_inj (div_lt_ten hn) (div_lt_ten hm),
      ih (Nat.mod_lt _ hpos) (Nat.mod_lt _ hpos),
      ← positional_lt_iff (Nat.mod_lt n hpos) (Nat.mod_lt m hpos), Nat.div_add_mod',
      Nat.div_add_mod']

/-- Two texts of one length are ordered as two numbers are. -/
structure Ordered (a b : List Char) (n m : Nat) : Prop where
  length : a.length = b.length
  lt_iff : a < b ↔ n < m
  gt_iff : b < a ↔ m < n

namespace Ordered

variable {a b : List Char} {n m : Nat}

theorem eq_iff (h : Ordered a b n m) : a = b ↔ n = m := by
  have hlt := h.lt_iff
  have hgt := h.gt_iff
  constructor
  · rintro rfl
    have hirrefl := lt_irrefl a
    exact le_antisymm (not_lt.mp (mt hgt.mpr hirrefl)) (not_lt.mp (mt hlt.mpr hirrefl))
  · rintro rfl
    have hirrefl := lt_irrefl n
    exact le_antisymm (not_lt.mp (mt hgt.mp hirrefl)) (not_lt.mp (mt hlt.mp hirrefl))

theorem append_lt_iff (h : Ordered a b n m) {x y : List Char} :
    a ++ x < b ++ y ↔ n < m ∨ n = m ∧ x < y := by
  rw [append_lt_append_iff h.length, h.lt_iff, h.eq_iff]

theorem symm (h : Ordered a b n m) : Ordered b a m n := ⟨h.length.symm, h.gt_iff, h.lt_iff⟩

theorem append {x y : List Char} {k l radix : Nat} (h : Ordered a b n m) (hxy : Ordered x y k l)
    (hk : k < radix) (hl : l < radix) :
    Ordered (a ++ x) (b ++ y) (n * radix + k) (m * radix + l) where
  length := by rw [List.length_append, List.length_append, h.length, hxy.length]
  lt_iff := by rw [h.append_lt_iff, hxy.lt_iff, positional_lt_iff hk hl]
  gt_iff := by rw [h.symm.append_lt_iff, hxy.gt_iff, positional_lt_iff hl hk]

theorem cons {x y : List Char} {k l : Nat} (c : Char) (h : Ordered x y k l) :
    Ordered (c :: x) (c :: y) k l where
  length := by rw [List.length_cons, List.length_cons, h.length]
  lt_iff := List.cons_lt_cons_self.trans h.lt_iff
  gt_iff := List.cons_lt_cons_self.trans h.gt_iff

end Ordered

theorem ordered_decimal {width n m : Nat} (hn : n < 10 ^ width) (hm : m < 10 ^ width) :
    Ordered (decimal width n) (decimal width m) n m :=
  ⟨by rw [length_decimal, length_decimal], decimal_lt_iff hn hm, decimal_lt_iff hm hn⟩

def isLeap (year : Nat) : Bool :=
  decide (year % 4 = 0) && (!decide (year % 100 = 0) || decide (year % 400 = 0))

def daysInMonth (year : Nat) : Nat → Nat
  | 2 => if isLeap year then 29 else 28
  | 4 | 6 | 9 | 11 => 30
  | _ => 31

/-- The days of the first months of a year. -/
def daysThrough (year : Nat) : Nat → Nat
  | 0 => 0
  | month + 1 => daysThrough year month + daysInMonth year (month + 1)

def daysBefore : Nat → Nat
  | 0 => 0
  | year + 1 => daysBefore year + daysThrough year 12

theorem daysThrough_mono {year month month' : Nat} (h : month ≤ month') :
    daysThrough year month ≤ daysThrough year month' := by
  induction h with
  | refl => exact le_rfl
  | step _ ih => exact ih.trans (Nat.le_add_right _ _)

theorem daysBefore_mono {year year' : Nat} (h : year ≤ year') :
    daysBefore year ≤ daysBefore year' := by
  induction h with
  | refl => exact le_rfl
  | step _ ih => exact ih.trans (Nat.le_add_right _ _)

structure Date where
  year : Nat
  month : Nat
  day : Nat
  year_lt : year < 10000
  month_pos : 0 < month
  month_le : month ≤ 12
  day_pos : 0 < day
  day_le : day ≤ daysInMonth year month

namespace Date

/-- The days since the first day of the year zero, counted from one. -/
def number (date : Date) : Nat :=
  daysBefore date.year + daysThrough date.year (date.month - 1) + date.day

variable {a b : Date}

theorem le_daysThrough (date : Date) :
    daysThrough date.year (date.month - 1) + date.day ≤ daysThrough date.year date.month := by
  obtain ⟨month, hmonth⟩ := Nat.exists_eq_add_one_of_ne_zero date.month_pos.ne'
  have hday := date.day_le
  rw [hmonth] at hday ⊢
  exact Nat.add_le_add_left hday _

def Earlier (a b : Date) : Prop :=
  a.year < b.year ∨ a.year = b.year ∧ (a.month < b.month ∨ a.month = b.month ∧ a.day < b.day)

theorem number_lt (h : Earlier a b) : a.number < b.number := by
  have ha := a.le_daysThrough
  have hpos := b.day_pos
  unfold number
  rcases h with hyear | ⟨hyear, hmonth | ⟨hmonth, hday⟩⟩
  · have hwhole : daysThrough a.year a.month ≤ daysThrough a.year 12 := daysThrough_mono a.month_le
    have hyears : daysBefore (a.year + 1) ≤ daysBefore b.year := daysBefore_mono hyear
    rw [daysBefore] at hyears
    omega
  · have hmonths : daysThrough b.year a.month ≤ daysThrough b.year (b.month - 1) :=
      daysThrough_mono (by omega)
    rw [hyear] at ha ⊢
    omega
  · rw [hyear, hmonth]
    omega

theorem number_lt_iff : a.number < b.number ↔ Earlier a b := by
  refine ⟨fun hlt => ?_, number_lt⟩
  by_contra hnot
  have hor : Earlier b a ∨ a.number = b.number := by
    unfold Earlier at hnot ⊢
    by_cases hsame : a.year = b.year ∧ a.month = b.month ∧ a.day = b.day
    · refine .inr ?_
      unfold number
      rw [hsame.1, hsame.2.1, hsame.2.2]
    · refine .inl ?_
      omega
  rcases hor with hlater | heq
  · exact absurd (number_lt hlater) (by omega)
  · omega

end Date

theorem daysInMonth_le (year month : Nat) : daysInMonth year month ≤ 31 := by
  unfold daysInMonth
  split
  · split <;> decide
  all_goals decide

namespace Date

/-- `YYYY-MM-DD` -/
def text (date : Date) : List Char :=
  decimal 4 date.year ++ '-' :: (decimal 2 date.month ++ '-' :: decimal 2 date.day)

theorem text_lt_iff {a b : Date} : a.text < b.text ↔ a.number < b.number := by
  have hmonth : ∀ date : Date, date.month < 10 ^ 2 := fun date => by
    have hle := date.month_le
    omega
  have hday : ∀ date : Date, date.day < 10 ^ 2 := fun date => by
    have hle := date.day_le.trans (daysInMonth_le date.year date.month)
    omega
  unfold text
  rw [number_lt_iff, Earlier, (ordered_decimal a.year_lt b.year_lt).append_lt_iff,
    List.cons_lt_cons_self, (ordered_decimal (hmonth a) (hmonth b)).append_lt_iff,
    List.cons_lt_cons_self, decimal_lt_iff (hday a) (hday b)]

theorem ordered_text (a b : Date) : Ordered a.text b.text a.number b.number where
  length := by simp only [text, List.length_append, List.length_cons, length_decimal]
  lt_iff := text_lt_iff
  gt_iff := text_lt_iff

end Date

/-- A second of the universal time, which knows no leap seconds. -/
structure Second extends Date where
  hour : Nat
  minute : Nat
  second : Nat
  hour_lt : hour < 24
  minute_lt : minute < 60
  second_lt : second < 60

namespace Second

def number (time : Second) : Nat :=
  ((time.toDate.number * 24 + time.hour) * 60 + time.minute) * 60 + time.second

/-- `YYYY-MM-DDTHH:MM:SS` -/
def text (time : Second) : List Char :=
  time.toDate.text ++ 'T' :: decimal 2 time.hour ++ ':' :: decimal 2 time.minute ++
    ':' :: decimal 2 time.second

theorem length_text (time : Second) : time.text.length = 19 := by
  simp only [text, Date.text, List.length_append, List.length_cons, length_decimal]

theorem ordered_text (a b : Second) : Ordered a.text b.text a.number b.number := by
  have hfield : ∀ {n m radix : Nat} (c : Char), n < radix → m < radix → radix ≤ 10 ^ 2 →
      Ordered (c :: decimal 2 n) (c :: decimal 2 m) n m := fun c hn hm hle =>
    (ordered_decimal (hn.trans_le hle) (hm.trans_le hle)).cons c
  exact (((Date.ordered_text _ _).append (hfield 'T' a.hour_lt b.hour_lt (by decide))
    a.hour_lt b.hour_lt).append (hfield ':' a.minute_lt b.minute_lt (by decide))
    a.minute_lt b.minute_lt).append (hfield ':' a.second_lt b.second_lt (by decide))
    a.second_lt b.second_lt

end Second

/-- The fraction in units of the last of so many places. -/
def scaled : Nat → List (Fin 10) → Nat
  | _, [] => 0
  | 0, _ => 0
  | places + 1, d :: digits => d * 10 ^ places + scaled places digits

def digitsText (digits : List (Fin 10)) : List Char :=
  digits.map fun d : Fin 10 => Nat.digitChar d.val

theorem scaled_nil (places : Nat) : scaled places [] = 0 := by cases places <;> rfl

theorem scaled_lt (places : Nat) (digits : List (Fin 10)) : scaled places digits < 10 ^ places := by
  induction digits generalizing places with
  | nil =>
    rw [scaled_nil]
    exact Nat.pow_pos (by decide)
  | cons d digits ih =>
    cases places with
    | zero => exact Nat.one_pos
    | succ places =>
      have hrest := ih places
      have hd : (d : Nat) * 10 ^ places ≤ 9 * 10 ^ places :=
        Nat.mul_le_mul_right _ (Nat.le_of_lt_succ d.isLt)
      rw [scaled, pow_succ]
      omega

/-- The fraction padded with zeros. -/
theorem decimal_scaled {places : Nat} {digits : List (Fin 10)} (h : digits.length ≤ places) :
    decimal places (scaled places digits) =
      digitsText digits ++ List.replicate (places - digits.length) '0' := by
  induction places generalizing digits with
  | zero =>
    obtain rfl := List.length_eq_zero_iff.mp (Nat.le_zero.mp h)
    rfl
  | succ places ih =>
    have hpos : 0 < 10 ^ places := Nat.pow_pos (by decide)
    cases digits with
    | nil =>
      have hrest := @ih [] (Nat.zero_le _)
      rw [scaled_nil] at hrest ⊢
      rw [decimal, Nat.zero_div, Nat.zero_mod, hrest]
      rfl
    | cons d digits =>
      have hlt := scaled_lt places digits
      rw [scaled, decimal, Nat.add_comm, Nat.add_mul_div_right _ _ hpos, Nat.div_eq_of_lt hlt,
        Nat.add_mul_mod_self_right, Nat.mod_eq_of_lt hlt, ih (Nat.le_of_succ_le_succ h),
        List.length_cons, Nat.add_sub_add_right, Nat.zero_add]
      rfl

inductive Suffix
  | zulu
  | offset
deriving DecidableEq

def Suffix.text : Suffix → List Char
  | .zulu => ['Z']
  | .offset => ['+', '0', '0', ':', '0', '0']

/-- A timestamp of the universal time with up to nine places. -/
structure Timestamp extends Second where
  fraction : List (Fin 10)
  suffix : Suffix
  places : fraction.length ≤ 9

def fractionText (fraction : List (Fin 10)) : List Char :=
  if fraction.isEmpty then [] else '.' :: digitsText fraction

namespace Timestamp

def chars (t : Timestamp) : List Char :=
  t.toSecond.text ++ (fractionText t.fraction ++ t.suffix.text)

def text (t : Timestamp) : String := String.ofList t.chars

/-- The nanoseconds since the beginning of the year zero. -/
def instant (t : Timestamp) : Nat := t.toSecond.number * 10 ^ 9 + scaled 9 t.fraction

/-- With all places written out, texts are ordered as their instants are. -/
theorem ordered_padded (a b : Timestamp) :
    Ordered (a.toSecond.text ++ decimal 9 (scaled 9 a.fraction))
      (b.toSecond.text ++ decimal 9 (scaled 9 b.fraction)) a.instant b.instant :=
  (Second.ordered_text _ _).append (ordered_decimal (scaled_lt 9 _) (scaled_lt 9 _))
    (scaled_lt 9 _) (scaled_lt 9 _)

end Timestamp

/-- Whether two fractions compare by their texts, suffixes included, as they do by their values. The
first digit that only one of them has meets the suffix of the other: `Z` lies above every digit
and `+` below. -/
def tailsAgree : List (Fin 10) → Suffix → List (Fin 10) → Suffix → Bool
  | [], suffix, [], suffix' => suffix == .offset || suffix' == .zulu
  | [], suffix, _ :: _, _ => suffix == .offset
  | d :: digits, _, [], suffix' => (suffix' == .zulu) == (d :: digits).all (· == 0)
  | d :: digits, suffix, d' :: digits', suffix' =>
    d != d' || tailsAgree digits suffix digits' suffix'

/-- Above `+` and below `Z`, as the point and the digits are. -/
def Between (c : Char) : Prop := '+' < c ∧ c < 'Z'

theorem between_digitChar (d : Fin 10) : Between (Nat.digitChar d) := by
  have hall : ∀ d : Fin 10, '+' < Nat.digitChar d ∧ Nat.digitChar d < 'Z' := by decide
  exact hall d

theorem suffix_lt_cons_iff {c : Char} (h : Between c) (suffix : Suffix) (x : List Char) :
    suffix.text < c :: x ↔ suffix = .offset := by
  cases suffix with
  | zulu =>
    rw [Suffix.text, List.cons_lt_cons_iff]
    simp [h.2.not_gt, h.2.ne']
  | offset =>
    rw [Suffix.text, List.cons_lt_cons_iff]
    simp [h.1]

theorem cons_lt_suffix_iff {c : Char} (h : Between c) (suffix : Suffix) (x : List Char) :
    c :: x < suffix.text ↔ suffix = .zulu := by
  cases suffix with
  | zulu =>
    rw [Suffix.text, List.cons_lt_cons_iff]
    simp [h.2]
  | offset =>
    rw [Suffix.text, List.cons_lt_cons_iff]
    simp [h.1.not_gt, h.1.ne']

theorem suffix_lt_suffix_iff (suffix suffix' : Suffix) :
    suffix'.text < suffix.text ↔ suffix' = .offset ∧ suffix = .zulu := by
  cases suffix <;> cases suffix' <;> decide

theorem scaled_pos_iff {places : Nat} {digits : List (Fin 10)} (h : digits.length ≤ places) :
    0 < scaled places digits ↔ digits.all (· == 0) = false := by
  induction digits generalizing places with
  | nil => simp [scaled_nil]
  | cons d digits ih =>
    cases places with
    | zero => cases h
    | succ places =>
      have hpos : 0 < 10 ^ places := Nat.pow_pos (by decide)
      have hrest := ih (Nat.le_of_succ_le_succ h)
      by_cases hd : d = 0
      · subst hd
        simpa [scaled] using hrest
      · have hval : 0 < (d : Nat) := Nat.pos_of_ne_zero fun hzero => hd (Fin.ext hzero)
        have hmul := Nat.mul_pos hval hpos
        simp only [scaled, List.all_cons, beq_eq_false_iff_ne.mpr hd, Bool.false_and, iff_true]
        omega

theorem tailsAgree_iff {places : Nat} {digits digits' : List (Fin 10)}
    (h : digits.length ≤ places) (h' : digits'.length ≤ places) (suffix suffix' : Suffix) :
    tailsAgree digits suffix digits' suffix' = true ↔
      (digitsText digits' ++ suffix'.text < digitsText digits ++ suffix.text ↔
        scaled places digits' < scaled places digits) := by
  induction digits, suffix, digits', suffix' using tailsAgree.induct generalizing places with
  | case1 suffix suffix' =>
    have hirrefl := lt_irrefl (scaled places [])
    rw [iff_false_right hirrefl, digitsText, List.map_nil, List.nil_append, List.nil_append,
      suffix_lt_suffix_iff]
    cases suffix <;> cases suffix' <;> decide
  | case2 suffix d' digits' suffix' =>
    have hnot : ¬ scaled places (d' :: digits') < scaled places [] := by
      rw [scaled_nil]
      exact Nat.not_lt_zero _
    rw [iff_false_right hnot]
    have hlt := cons_lt_suffix_iff (between_digitChar d') suffix
      (digitsText digits' ++ suffix'.text)
    rw [show digitsText (d' :: digits') ++ suffix'.text < digitsText [] ++ suffix.text ↔
      suffix = .zulu from hlt, tailsAgree]
    cases suffix <;> decide
  | case3 d digits suffix suffix' =>
    have hlt := suffix_lt_cons_iff (between_digitChar d) suffix'
      (digitsText digits ++ suffix.text)
    rw [show digitsText [] ++ suffix'.text < digitsText (d :: digits) ++ suffix.text ↔
      suffix' = .offset from hlt, scaled_nil, scaled_pos_iff h, tailsAgree]
    cases suffix' <;> cases (d :: digits).all (· == 0) <;> decide
  | case4 d digits suffix d' digits' suffix' ih =>
    cases places with
    | zero => cases h
    | succ places =>
      have hrest := ih (Nat.le_of_succ_le_succ h) (Nat.le_of_succ_le_succ h')
      have hscaled : d'.val * 10 ^ places + scaled places digits' <
          d.val * 10 ^ places + scaled places digits ↔ d'.val < d.val ∨ d'.val = d.val ∧
            scaled places digits' < scaled places digits :=
        positional_lt_iff (scaled_lt places digits') (scaled_lt places digits)
      have htext : digitsText (d' :: digits') ++ suffix'.text <
          digitsText (d :: digits) ++ suffix.text ↔ d'.val < d.val ∨ d'.val = d.val ∧
            digitsText digits' ++ suffix'.text < digitsText digits ++ suffix.text := by
        refine List.cons_lt_cons_iff.trans ?_
        rw [digitChar_lt_iff d'.isLt d.isLt, digitChar_inj d'.isLt d.isLt]
        rfl
      rw [htext, scaled, scaled, hscaled, tailsAgree]
      by_cases hd : d = d'
      · subst hd
        simpa using hrest
      · have hne : d'.val ≠ d.val := fun heq => hd (Fin.ext heq.symm)
        simp [hd, hne]

namespace Timestamp

/-- Whether the texts of two timestamps compare as their instants do. -/
def textsAgree (a b : Timestamp) : Bool :=
  decide (a.toSecond.number ≠ b.toSecond.number) ||
    tailsAgree a.fraction a.suffix b.fraction b.suffix

theorem tail_lt_iff (a b : Timestamp) :
    fractionText b.fraction ++ b.suffix.text < fractionText a.fraction ++ a.suffix.text ↔
      digitsText b.fraction ++ b.suffix.text < digitsText a.fraction ++ a.suffix.text := by
  have hpoint : Between '.' := ⟨by decide, by decide⟩
  unfold fractionText
  cases ha : a.fraction with
  | nil =>
    cases hb : b.fraction with
    | nil => rfl
    | cons d digits =>
      exact (cons_lt_suffix_iff hpoint _ _).trans
        (cons_lt_suffix_iff (between_digitChar d) _ _).symm
  | cons d digits =>
    cases hb : b.fraction with
    | nil =>
      exact (suffix_lt_cons_iff hpoint _ _).trans
        (suffix_lt_cons_iff (between_digitChar d) _ _).symm
    | cons d' digits' => exact List.cons_lt_cons_self

theorem textsAgree_iff (a b : Timestamp) :
    a.textsAgree b = true ↔ (b.text < a.text ↔ b.instant < a.instant) := by
  have hseconds := Second.ordered_text b.toSecond a.toSecond
  have hinstant : b.instant < a.instant ↔ b.toSecond.number < a.toSecond.number ∨
      b.toSecond.number = a.toSecond.number ∧ scaled 9 b.fraction < scaled 9 a.fraction :=
    positional_lt_iff (scaled_lt 9 b.fraction) (scaled_lt 9 a.fraction)
  rw [String.lt_iff_toList_lt, text, text, String.toList_ofList, String.toList_ofList, chars,
    chars, hseconds.append_lt_iff, tail_lt_iff, hinstant, textsAgree,
    Bool.or_eq_true, decide_eq_true_iff, tailsAgree_iff a.places b.places]
  by_cases heq : a.toSecond.number = b.toSecond.number
  · simp [heq]
  · simp [heq, Ne.symm heq]

end Timestamp

end UtcText
