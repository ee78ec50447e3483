import Mathlib.Data.List.Basic

namespace Nidavellir.Flags

/-- What a flag of a command line does to the record that is filled; a value is the next token. -/
inductive Flag (ρ ε : Type*)
  | switch (set : ρ → ρ)
  | value (missing : ε) (read : String → Except ε (ρ → ρ))

variable {ρ ε : Type*} (table : String → Option (Flag ρ ε))

/-- A token that is no flag is passed over. -/
def parse : List String → ρ → Except ε ρ
  | [], r => .ok r
  | [t], r =>
    match table t with
    | none => .ok r
    | some (.switch set) => .ok (set r)
    | some (.value missing _) => .error missing
  | t :: v :: rest, r =>
    match table t with
    | none => parse (v :: rest) r
    | some (.switch set) => parse (v :: rest) (set r)
    | some (.value _ read) =>
      match read v with
      | .error e => .error e
      | .ok set => parse rest (set r)

inductive Item
  | ignored (t : String)
  | switch (t : String)
  | value (t v : String)
deriving DecidableEq

def Item.tokens : Item → List String
  | .ignored t | .switch t => [t]
  | .value t v => [t, v]

/-- How the tokens of a line are read one after the other. -/
inductive Reads : List String → ρ → List Item → ρ → Prop
  | done (r : ρ) : Reads [] r [] r
  | ignored {t : String} {rest : List String} {r r' : ρ} {items : List Item}
      (h : table t = none) (hrest : Reads rest r items r') :
      Reads (t :: rest) r (.ignored t :: items) r'
  | switch {t : String} {rest : List String} {r r' : ρ} {items : List Item} {set : ρ → ρ}
      (h : table t = some (.switch set)) (hrest : Reads rest (set r) items r') :
      Reads (t :: rest) r (.switch t :: items) r'
  | value {t v : String} {rest : List String} {r r' : ρ} {items : List Item} {missing : ε}
      {read : String → Except ε (ρ → ρ)} {set : ρ → ρ}
      (h : table t = some (.value missing read)) (hv : read v = .ok set)
      (hrest : Reads rest (set r) items r') :
      Reads (t :: v :: rest) r (.value t v :: items) r'

variable {table}

section Equations

variable {t v : String} {rest : List String} {r : ρ} {set : ρ → ρ} {missing : ε}
  {read : String → Except ε (ρ → ρ)}

theorem parse_ignored (h : table t = none) : parse table (t :: rest) r = parse table rest r := by
  cases rest with
  | nil => simp [parse, h]
  | cons v rest => simp [parse, h]

theorem parse_switch (h : table t = some (.switch set)) :
    parse table (t :: rest) r = parse table rest (set r) := by
  cases rest with
  | nil => simp [parse, h]
  | cons v rest => simp [parse, h]

theorem parse_value (h : table t = some (.value missing read)) (hv : read v = .ok set) :
    parse table (t :: v :: rest) r = parse table rest (set r) := by
  simp [parse, h, hv]

theorem parse_missing (h : table t = some (.value missing read)) :
    parse table [t] r = .error missing := by
  simp [parse, h]

theorem parse_refused {e : ε} (h : table t = some (.value missing read))
    (hv : read v = .error e) : parse table (t :: v :: rest) r = .error e := by
  simp [parse, h, hv]

end Equations

theorem Reads.parse_append {front back : List String} {r r' : ρ} {items : List Item}
    (h : Reads table front r items r') :
    parse table (front ++ back) r = parse table back r' := by
  induction h with
  | done => rfl
  | ignored h _ ih => rw [List.cons_append, parse_ignored h, ih]
  | switch h _ ih => rw [List.cons_append, parse_switch h, ih]
  | value h hv _ ih => rw [List.cons_append, List.cons_append, parse_value h hv, ih]

theorem Reads.append {front back : List String} {r r' r'' : ρ} {items items' : List Item}
    (h : Reads table front r items r') (h' : Reads table back r' items' r'') :
    Reads table (front ++ back) r (items ++ items') r'' := by
  induction h with
  | done => exact h'
  | ignored h _ ih => exact .ignored h (ih h')
  | switch h _ ih => exact .switch h (ih h')
  | value h hv _ ih => exact .value h hv (ih h')

theorem Reads.tokens {args : List String} {r r' : ρ} {items : List Item}
    (h : Reads table args r items r') : items.flatMap Item.tokens = args := by
  induction h with
  | done => rfl
  | ignored _ _ ih => rw [List.flatMap_cons, ih, Item.tokens, List.singleton_append]
  | switch _ _ ih => rw [List.flatMap_cons, ih, Item.tokens, List.singleton_append]
  | value _ _ _ ih => rw [List.flatMap_cons, ih]; rfl

variable (table) in
/-- A flag whose value is missing or refused, behind tokens that were read. -/
def Stops (args : List String) (r : ρ) (e : ε) : Prop :=
  ∃ front t rest items r' missing read, args = front ++ t :: rest ∧
    Reads table front r items r' ∧ table t = some (.value missing read) ∧
    (rest = [] ∧ e = missing ∨ ∃ v more, rest = v :: more ∧ read v = .error e)

theorem Stops.behind {front args : List String} {r r' : ρ} {items : List Item} {e : ε}
    (h : Stops table args r' e) (hfront : Reads table front r items r') :
    Stops table (front ++ args) r e := by
  obtain ⟨front', t, rest, items', r'', missing, read, rfl, hreads, htable, hwhy⟩ := h
  exact ⟨front ++ front', t, rest, _, r'', missing, read, (List.append_assoc ..).symm,
    hfront.append hreads, htable, hwhy⟩

/-- A line is read through, or it stops at the first flag that has no value it can use. -/
theorem parse_cases (table : String → Option (Flag ρ ε)) (args : List String) (r : ρ) :
    (∃ items r', Reads table args r items r' ∧ parse table args r = .ok r') ∨
      ∃ e, Stops table args r e ∧ parse table args r = .error e := by
  have hread : ∀ {front rest : List String} {r r' : ρ} {items : List Item},
      Reads table front r items r' →
      ((∃ items r'', Reads table rest r' items r'' ∧ parse table rest r' = .ok r'') ∨
        ∃ e, Stops table rest r' e ∧ parse table rest r' = .error e) →
      (∃ items r'', Reads table (front ++ rest) r items r'' ∧
          parse table (front ++ rest) r = .ok r'') ∨
        ∃ e, Stops table (front ++ rest) r e ∧ parse table (front ++ rest) r = .error e := by
    intro front rest r r' items hfront hrest
    rw [hfront.parse_append]
    rcases hrest with ⟨items', r'', hreads, hparse⟩ | ⟨e, hstops, hparse⟩
    · exact .inl ⟨_, r'', hfront.append hreads, hparse⟩
    · exact .inr ⟨e, hstops.behind hfront, hparse⟩
  induction args, r using parse.induct table with
  | case1 r => exact .inl ⟨[], r, .done r, rfl⟩
  | case2 t r h => exact .inl ⟨_, r, .ignored h (.done r), by rw [parse_ignored h, parse]⟩
  | case3 t r set h =>
    exact .inl ⟨_, set r, .switch h (.done _), by rw [parse_switch h, parse]⟩
  | case4 t r missing read h =>
    have hstops : Stops table [t] r missing :=
      ⟨[], t, [], [], r, missing, read, rfl, .done r, h, .inl ⟨rfl, rfl⟩⟩
    exact .inr ⟨missing, hstops, parse_missing h⟩
  | case5 t v rest r h ih => exact @hread [t] (v :: rest) r r _ (.ignored h (.done r)) ih
  | case6 t v rest r set h ih => exact @hread [t] (v :: rest) r _ _ (.switch h (.done _)) ih
  | case7 t v rest r missing read h e hv =>
    exact .inr ⟨e, ⟨[], t, v :: rest, [], r, missing, read, rfl, .done r, h,
      .inr ⟨v, rest, rfl, hv⟩⟩, parse_refused h hv⟩
  | case8 t v rest r missing read h set hv ih =>
    exact @hread [t, v] rest r _ _ (.value h hv (.done _)) ih

theorem parse_ok_iff {args : List String} {r r' : ρ} :
    parse table args r = .ok r' ↔ ∃ items, Reads table args r items r' := by
  constructor
  · intro h
    rcases parse_cases table args r with ⟨items, r'', hreads, hparse⟩ | ⟨e, _, hparse⟩
    · rw [h] at hparse
      cases hparse
      exact ⟨items, hreads⟩
    · rw [h] at hparse
      cases hparse
  · intro ⟨items, hreads⟩
    have hall : parse table (args ++ []) r = parse table [] r' := hreads.parse_append
    rw [List.append_nil] at hall
    rw [hall, parse]

theorem parse_error_iff {args : List String} {r : ρ} {e : ε} :
    parse table args r = .error e ↔ Stops table args r e := by
  constructor
  · intro h
    rcases parse_cases table args r with ⟨items, r', _, hparse⟩ | ⟨e', hstops, hparse⟩
    · rw [h] at hparse
      cases hparse
    · rw [h] at hparse
      cases hparse
      exact hstops
  · intro ⟨front, t, rest, items, r', missing, read, hargs, hfront, htable, hwhy⟩
    rw [hargs, hfront.parse_append]
    rcases hwhy with ⟨hrest, he⟩ | ⟨v, more, hrest, hv⟩
    · rw [hrest, he, parse_missing htable]
    · rw [hrest, parse_refused htable hv]

def Flag.Keeps (P : ρ → Prop) : Flag ρ ε → Prop
  | .switch set => ∀ r, P r → P (set r)
  | .value _ read => ∀ v set, read v = .ok set → ∀ r, P r → P (set r)

/-- What every flag keeps, the parser keeps. -/
theorem Reads.keeps {P : ρ → Prop} {args : List String} {r r' : ρ} {items : List Item}
    (h : Reads table args r items r') (hkeeps : ∀ t f, table t = some f → f.Keeps P)
    (hr : P r) : P r' := by
  induction h with
  | done => exact hr
  | ignored _ _ ih => exact ih hr
  | switch h _ ih => exact ih (hkeeps _ _ h _ hr)
  | value h hv _ ih => exact ih (hkeeps _ _ h _ _ hv _ hr)

def Flag.Refuses (c : String) : Flag ρ ε → Prop
  | .switch _ => True
  | .value _ read => ∀ set, read c ≠ .ok set

/-- A token that is no flag and that no flag takes as its value is passed over wherever it is. -/
theorem Reads.mem_iff_ignored {args : List String} {r r' : ρ} {items : List Item} {c : String}
    (h : Reads table args r items r') (hflag : table c = none)
    (hrefuses : ∀ t f, table t = some f → f.Refuses c) :
    c ∈ args ↔ .ignored c ∈ items := by
  have hne : ∀ {t f}, table t = some f → c ≠ t := by
    intro t f ht hct
    rw [← hct, hflag] at ht
    cases ht
  induction h with
  | done => simp
  | ignored h _ ih => simp [ih]
  | switch h _ ih => simp [ih, hne h]
  | @value t v _ _ _ _ _ _ _ h hv _ ih =>
    have hnot : c ≠ v := by
      intro hcv
      rw [← hcv] at hv
      exact hrefuses _ _ h _ hv
    simp [ih, hne h, hnot]

end Nidavellir.Flags
