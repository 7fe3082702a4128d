namespace Snippet.Text

/-- The pieces between newlines; a text with `n` newlines has `n + 1` of them. -/
def splitLines : List Char → List (List Char)
  | [] => [[]]
  | '\n' :: rest => [] :: splitLines rest
  | c :: rest =>
    match splitLines rest with
    | [] => [[c]]
    | line :: lines => (c :: line) :: lines

/-- The line without a carriage return at its very end. -/
def dropCarriageReturn : List Char → List Char
  | [] => []
  | ['\r'] => []
  | c :: rest => c :: dropCarriageReturn rest

/-- A piece that no newline ends is a line only when it is not empty, and keeps its carriage
return; every other piece is a line that loses the carriage return before its newline. -/
def closeLines : List (List Char) → List (List Char)
  | [] => []
  | [last] => if last.isEmpty then [] else [last]
  | line :: rest => dropCarriageReturn line :: closeLines rest

def physicalLines (text : List Char) : List (List Char) := closeLines (splitLines text)

theorem splitLines_ne_nil (text : List Char) : splitLines text ≠ [] := by
  fun_cases splitLines text <;> simp

theorem newline_not_mem_of_mem_splitLines {text line : List Char} (h : line ∈ splitLines text) :
    '\n' ∉ line := by
  fun_induction splitLines text generalizing line with
  | case1 => simp_all
  | case2 rest ih => grind
  | case3 c rest hc heq ih => exact absurd heq (splitLines_ne_nil rest)
  | case4 c rest hc first lines heq ih => grind

theorem mem_of_mem_dropCarriageReturn {line : List Char} {c : Char}
    (h : c ∈ dropCarriageReturn line) : c ∈ line := by
  fun_induction dropCarriageReturn line with
  | case1 => exact h
  | case2 => simp at h
  | case3 first rest _ ih => grind

theorem newline_not_mem_of_mem_closeLines {pieces : List (List Char)}
    (h : ∀ piece ∈ pieces, '\n' ∉ piece) {line : List Char} (hline : line ∈ closeLines pieces) :
    '\n' ∉ line := by
  fun_induction closeLines pieces with
  | case1 => simp at hline
  | case2 => simp at hline
  | case3 last => simp_all
  | case4 first rest _ ih =>
      rcases List.mem_cons.mp hline with rfl | hrest
      · exact fun hmem => h first List.mem_cons_self (mem_of_mem_dropCarriageReturn hmem)
      · exact ih (fun piece hpiece => h piece (List.mem_cons_of_mem _ hpiece)) hrest

theorem newline_not_mem_of_mem_physicalLines {text line : List Char}
    (h : line ∈ physicalLines text) : '\n' ∉ line :=
  newline_not_mem_of_mem_closeLines (fun _ => newline_not_mem_of_mem_splitLines) h

/-- Joining the pieces with newlines gives the text back. -/
theorem intercalate_splitLines (text : List Char) :
    List.intercalate ['\n'] (splitLines text) = text := by
  fun_induction splitLines text with
  | case1 => rfl
  | case2 rest ih =>
    obtain ⟨line, lines, h⟩ := List.exists_cons_of_ne_nil (splitLines_ne_nil rest)
    rw [h] at ih ⊢
    simp_all [List.intercalate]
  | case3 c rest hc heq ih => exact absurd heq (splitLines_ne_nil rest)
  | case4 c rest hc first lines heq ih =>
    rw [heq] at ih
    cases lines <;> simp_all [List.intercalate]

end Snippet.Text
