/-! # Lines of a text -/

namespace NativeStubs

namespace Text

/-- The pieces of a text between its line feeds. There is always at least one. -/
def lines : List Char → List (List Char)
  | [] => [[]]
  | c :: s =>
    if c = '\n' then [] :: lines s
    else match lines s with
      | [] => [[c]]
      | line :: rest => (c :: line) :: rest

theorem lines_ne_nil (s : List Char) : lines s ≠ [] := by
  cases s with
  | nil => simp [lines]
  | cons c s =>
    unfold lines
    split
    · simp
    · split <;> simp

/-- Joining the pieces with line feeds gives the text back. -/
theorem intercalate_lines (s : List Char) : List.intercalate ['\n'] (lines s) = s := by
  induction s with
  | nil => rfl
  | cons c s ih =>
    unfold lines
    split
    · next h =>
      subst h
      cases hl : lines s with
      | nil => exact absurd hl (lines_ne_nil s)
      | cons line rest => simp [hl, List.intercalate] at ih ⊢; exact ih
    · cases hl : lines s with
      | nil => exact absurd hl (lines_ne_nil s)
      | cons line rest =>
        cases rest <;> simp_all [List.intercalate]

end Text

end NativeStubs
