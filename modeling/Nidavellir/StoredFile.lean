namespace Nidavellir

/-- A JSON file of the data directory as its readers see it. -/
inductive StoredFile (α : Type)
  | absent
  | unreadable
  | holds (content : α)
deriving DecidableEq

/-- How a file operation ended; a failed write may have left a torn file. -/
inductive FileResult
  | done
  | failed (error : String) (torn : Bool)
deriving DecidableEq

namespace StoredFile

variable {α : Type}

def present : StoredFile α → Bool
  | .absent => false
  | _ => true

def read : StoredFile α → Option α
  | .holds content => some content
  | _ => none

@[simp] theorem read_eq_some_iff {file : StoredFile α} {content : α} :
    file.read = some content ↔ file = .holds content := by
  cases file <;> simp [read]

theorem eq_absent {file : StoredFile α} (h : file.present = false) : file = .absent := by
  cases file with
  | absent => rfl
  | unreadable => simp [present] at h
  | holds content => simp [present] at h

theorem read_of_absent {file : StoredFile α} (h : file.present = false) : file.read = none := by
  rw [eq_absent h]
  rfl

end StoredFile

namespace FileResult

variable {α : Type}

def error : FileResult → Option String
  | .done => none
  | .failed error _ => some error

def isDone : FileResult → Bool
  | .done => true
  | .failed _ _ => false

def isTorn : FileResult → Bool
  | .failed _ torn => torn
  | .done => false

def write (self : FileResult) (content : α) (file : StoredFile α) : StoredFile α :=
  match self with
  | .done => .holds content
  | .failed _ true => .unreadable
  | .failed _ false => file

def remove (self : FileResult) (file : StoredFile α) : StoredFile α :=
  match self with
  | .done => .absent
  | .failed _ _ => file

@[simp] theorem remove_absent (self : FileResult) :
    self.remove (.absent : StoredFile α) = .absent := by
  cases self <;> rfl

theorem remove_cases (self : FileResult) (file : StoredFile α) :
    self.isDone = true ∧ self.remove file = .absent ∨
      self.isDone = false ∧ self.remove file = file := by
  cases self with
  | done => exact Or.inl ⟨rfl, rfl⟩
  | failed => exact Or.inr ⟨rfl, rfl⟩

theorem remove_eq_self_iff (self : FileResult) (file : StoredFile α) :
    self.remove file = file ↔ (file.present = true → self.isDone = false) := by
  rcases self.remove_cases file with ⟨hdone, hgone⟩ | ⟨hfailed, hkept⟩
  · rw [hgone, hdone]
    cases file with
    | absent => simp [StoredFile.present]
    | unreadable => simp [StoredFile.present]
    | holds content => simp [StoredFile.present]
  · exact iff_of_true hkept fun _ => hfailed

theorem read_remove (self : FileResult) (file : StoredFile α) :
    self.remove file = file ∨ (self.remove file).read = none := by
  rcases self.remove_cases file with hgone | hkept
  · exact Or.inr (by rw [hgone.2]; rfl)
  · exact Or.inl hkept.2

theorem write_cases (self : FileResult) (content : α) (file : StoredFile α) :
    self.isDone = true ∧ self.write content file = .holds content ∨
      self.isDone = false ∧ self.isTorn = true ∧ self.write content file = .unreadable ∨
      self.isDone = false ∧ self.isTorn = false ∧ self.write content file = file := by
  cases self with
  | done => exact Or.inl ⟨rfl, rfl⟩
  | failed error torn =>
    cases torn with
    | true => exact Or.inr (Or.inl ⟨rfl, rfl, rfl⟩)
    | false => exact Or.inr (Or.inr ⟨rfl, rfl, rfl⟩)

end FileResult

end Nidavellir
