import Mathlib.Tactic

namespace Framing

variable {α ε S : Type*} [DecidableEq α]

/-- What a reader will be given: the chunks to come, none of them empty, and how it ends. -/
structure Source (α ε : Type*) where
  chunks : List (List α)
  ending : Option ε
  nonempty : ∀ chunk ∈ chunks, chunk ≠ []

section

variable (d : α) (ending : Option ε)

def takeFrame (buffer : List α) (chunks : List (List α)) :
    List α × List α × List (List α) :=
  (buffer.takeWhile (· ≠ d) ++ [d], (buffer.dropWhile (· ≠ d)).tail, chunks)

def atEnd (buffer : List α) : Except ε (List α × List α × List (List α)) :=
  match ending with
  | some e => .error e
  | none => .ok (buffer, [], [])

/-- The next frame with its delimiter, or what is left at a clean end; then what is buffered and
what is still to come. -/
def readUntil : List (List α) → List α → Except ε (List α × List α × List (List α))
  | [], buffer =>
    if d ∈ buffer then .ok (takeFrame d buffer []) else atEnd ending buffer
  | chunk :: chunks, buffer =>
    if d ∈ buffer then .ok (takeFrame d buffer (chunk :: chunks))
    else readUntil chunks (buffer ++ chunk)

variable {d} {ending}

theorem takeFrame_eq {line more : List α} (h : d ∉ line) (chunks : List (List α)) :
    takeFrame d (line ++ d :: more) chunks = (line ++ [d], more, chunks) := by
  unfold takeFrame
  induction line with
  | nil => simp
  | cons a line ih =>
    rw [List.mem_cons, not_or] at h
    have hne : ¬ a = d := Ne.symm h.1
    have hrest := ih h.2
    rw [Prod.mk.injEq, Prod.mk.injEq] at hrest
    simp [hne] at hrest ⊢
    exact hrest

/-- A buffer with a delimiter gives its first frame. -/
theorem readUntil_buffered {line more : List α} (h : d ∉ line) (chunks : List (List α)) :
    readUntil d ending chunks (line ++ d :: more) = .ok (line ++ [d], more, chunks) := by
  cases chunks with
  | nil => rw [readUntil, if_pos (by simp), takeFrame_eq h]
  | cons chunk chunks => rw [readUntil, if_pos (by simp), takeFrame_eq h]

/-- A read takes what it returns from the front of what is to come. -/
theorem readUntil_append {chunks chunks' : List (List α)} {buffer line buffer' : List α}
    (h : readUntil d ending chunks buffer = .ok (line, buffer', chunks')) :
    buffer ++ chunks.flatten = line ++ (buffer' ++ chunks'.flatten) := by
  by_cases hmem : d ∈ buffer
  · obtain ⟨front, more, rfl, hfront⟩ := List.eq_append_cons_of_mem hmem
    rw [readUntil_buffered hfront] at h
    cases h
    simp
  · induction chunks generalizing buffer with
    | nil =>
      rw [readUntil, if_neg hmem] at h
      cases ending with
      | some e => cases h
      | none =>
        cases h
        simp
    | cons chunk chunks ih =>
      rw [readUntil, if_neg hmem] at h
      rw [List.flatten_cons, ← List.append_assoc]
      by_cases hnext : d ∈ buffer ++ chunk
      · generalize buffer ++ chunk = buffer at h hnext ⊢
        obtain ⟨front, more, rfl, hfront⟩ := List.eq_append_cons_of_mem hnext
        rw [readUntil_buffered hfront] at h
        cases h
        simp
      · exact ih h hnext

/-- A frame is read as soon as its delimiter is there, whatever the chunks are. -/
theorem readUntil_frame {chunks : List (List α)} {buffer line more : List α} (hline : d ∉ line)
    (h : buffer ++ chunks.flatten = line ++ d :: more) :
    ∃ buffer' chunks', readUntil d ending chunks buffer = .ok (line ++ [d], buffer', chunks') ∧
      buffer' ++ chunks'.flatten = more := by
  have hbuffered : ∀ {chunks : List (List α)} {buffer : List α}, d ∈ buffer →
      buffer ++ chunks.flatten = line ++ d :: more →
      ∃ buffer' chunks', readUntil d ending chunks buffer = .ok (line ++ [d], buffer', chunks') ∧
        buffer' ++ chunks'.flatten = more := by
    intro chunks buffer hmem h
    obtain ⟨front, behind, rfl, hfront⟩ := List.eq_append_cons_of_mem hmem
    have hsame : takeFrame d (front ++ d :: (behind ++ chunks.flatten)) chunks = _ :=
      takeFrame_eq hfront chunks
    rw [← List.cons_append, ← List.append_assoc, h, takeFrame_eq hline, Prod.mk.injEq,
      Prod.mk.injEq] at hsame
    obtain ⟨hfirst, rfl, -⟩ := hsame
    obtain rfl := List.append_cancel_right hfirst
    exact ⟨behind, chunks, readUntil_buffered hfront chunks, rfl⟩
  induction chunks generalizing buffer with
  | nil =>
    refine hbuffered ?_ h
    rw [List.flatten_nil, List.append_nil] at h
    simp [h]
  | cons chunk chunks ih =>
    by_cases hmem : d ∈ buffer
    · exact hbuffered hmem h
    · rw [List.flatten_cons, ← List.append_assoc] at h
      rw [readUntil, if_neg hmem]
      exact ih h

theorem readUntil_open {chunks : List (List α)} {buffer : List α}
    (h : d ∉ buffer ++ chunks.flatten) :
    readUntil d ending chunks buffer = atEnd ending (buffer ++ chunks.flatten) := by
  induction chunks generalizing buffer with
  | nil =>
    rw [List.flatten_nil, List.append_nil] at h ⊢
    rw [readUntil, if_neg h]
  | cons chunk chunks ih =>
    have hbuffer : d ∉ buffer := fun hmem => h (List.mem_append_left _ hmem)
    rw [readUntil, if_neg hbuffer]
    rw [List.flatten_cons, ← List.append_assoc] at h ⊢
    exact ih h

end

section

variable (d : α) (handle : List α → S → Except ε Unit × S) (ending : Option ε)

/-- Reads frame after frame and handles each, until a read returns nothing or something fails. -/
def pump (chunks : List (List α)) (buffer : List α) (s : S) : Except ε Unit × S :=
  match _hread : readUntil d ending chunks buffer with
  | .error e => (.error e, s)
  | .ok ([], _, _) => (.ok (), s)
  | .ok (a :: line, buffer', chunks') =>
    match handle (a :: line) s with
    | (.error e, s) => (.error e, s)
    | (.ok (), s) => pump chunks' buffer' s
termination_by buffer.length + chunks.flatten.length
decreasing_by
  have hlength := congrArg List.length (readUntil_append _hread)
  simp only [List.length_append, List.length_cons] at hlength
  omega

/-- What no delimiter ended counts when the stream ended well and it is not empty. -/
def handleOpen (rest : List α) (s : S) : Except ε Unit × S :=
  match ending with
  | some e => (.error e, s)
  | none => if rest = [] then (.ok (), s) else handle rest s

/-- The frames of a whole stream in order, the last one open. -/
def handleFrames : List (List α) → S → Except ε Unit × S
  | [], s => (.ok (), s)
  | [rest], s => handleOpen handle ending rest s
  | line :: next :: lines, s =>
    match handle (line ++ [d]) s with
    | (.error e, s) => (.error e, s)
    | (.ok (), s) => handleFrames (next :: lines) s

section

variable {chunks chunks' : List (List α)} {buffer buffer' line : List α} (s : S)

theorem pump_of_error {e : ε} (h : readUntil d ending chunks buffer = .error e) :
    pump d handle ending chunks buffer s = (.error e, s) := by
  rw [pump]
  split
  all_goals simp_all

theorem pump_of_nil (h : readUntil d ending chunks buffer = .ok ([], buffer', chunks')) :
    pump d handle ending chunks buffer s = (.ok (), s) := by
  rw [pump]
  split
  all_goals simp_all

theorem pump_of_frame (h : readUntil d ending chunks buffer = .ok (line, buffer', chunks'))
    (hne : line ≠ []) :
    pump d handle ending chunks buffer s =
      match handle line s with
      | (.error e, s) => (.error e, s)
      | (.ok (), s) => pump d handle ending chunks' buffer' s := by
  obtain ⟨a, rest, rfl⟩ := List.exists_cons_of_ne_nil hne
  rw [pump]
  split
  next e hread =>
    rw [h] at hread
    cases hread
  next hread =>
    rw [h] at hread
    cases hread
  next hread =>
    rw [h] at hread
    cases hread
    rfl

end

/-- What is done depends on the bytes and the ending alone, not on how the bytes came. -/
theorem pump_eq (chunks : List (List α)) (buffer : List α) (s : S) :
    pump d handle ending chunks buffer s =
      handleFrames d handle ending ((buffer ++ chunks.flatten).splitOn d) s := by
  induction hsize : (buffer ++ chunks.flatten).length using Nat.strongRecOn
    generalizing chunks buffer s with
  | _ n ih =>
    by_cases hmem : d ∈ buffer ++ chunks.flatten
    · obtain ⟨line, more, heq, hline⟩ := List.eq_append_cons_of_mem hmem
      obtain ⟨buffer', chunks', hread, hrest⟩ :
          ∃ buffer' chunks',
            readUntil d ending chunks buffer = .ok (line ++ [d], buffer', chunks') ∧
              buffer' ++ chunks'.flatten = more := readUntil_frame hline heq
      have hsplit : (buffer ++ chunks.flatten).splitOn d = line :: more.splitOn d := by
        rw [heq, List.splitOn_append_cons_self, List.splitOn_eq_singleton hline]
        rfl
      have hshorter : (buffer' ++ chunks'.flatten).length < n := by
        rw [← hsize, heq, hrest, List.length_append, List.length_cons]
        omega
      obtain ⟨next, lines, hnext⟩ : ∃ next lines, more.splitOn d = next :: lines :=
        List.exists_cons_of_ne_nil (List.splitOn_ne_nil d more)
      rw [pump_of_frame d handle ending s hread (by simp), hsplit, hnext, handleFrames, ← hnext,
        ← hrest]
      cases handle (line ++ [d]) s with
      | mk answer s =>
        cases answer with
        | error e => rfl
        | ok => exact ih _ hshorter chunks' buffer' s rfl
    · rw [List.splitOn_eq_singleton hmem, handleFrames]
      have hread : readUntil d ending chunks buffer = atEnd ending (buffer ++ chunks.flatten) :=
        readUntil_open hmem
      cases ending with
      | some e => exact pump_of_error d handle _ s hread
      | none =>
        by_cases hempty : buffer ++ chunks.flatten = []
        · rw [hempty] at hread ⊢
          exact pump_of_nil d handle none s hread
        · rw [pump_of_frame d handle none s hread hempty, handleOpen, if_neg hempty]
          have hend : ∀ s : S, pump d handle (none : Option ε) [] [] s = (.ok (), s) :=
            fun s => pump_of_nil d handle none s rfl
          cases handle (buffer ++ chunks.flatten) s with
          | mk answer s =>
            cases answer with
            | error e => rfl
            | ok => exact hend s

end

end Framing
