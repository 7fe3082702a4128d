import Mathlib.Data.List.Basic
import Snippet.Comment.Scan

/-!
# The literals of a line

A line is cut into parts, its string literals and the characters between them, by what a literal is:
the leftmost literal is cut out, and the cutting goes on after it. A quote that no literal starts at
is a character like any other. The scan for comments covers exactly the literals of this cut.
-/

namespace Snippet.Comment

open Text

def isQuote (c : Char) : Bool := c == '"' || c == '\''

/-- What stands between the quotes of a literal. A backslash takes the next character with it. -/
inductive LiteralBody (quote : Char) : List Char → Prop
  | nil : LiteralBody quote []
  | plain {c : Char} {rest : List Char} (hquote : c ≠ quote) (hescape : c ≠ '\\')
      (hrest : LiteralBody quote rest) : LiteralBody quote (c :: rest)
  | escaped {c : Char} {rest : List Char} (hline : c ≠ '\n') (hrest : LiteralBody quote rest) :
      LiteralBody quote ('\\' :: c :: rest)

/-- A string literal that is closed on its line. -/
inductive IsLiteral : List Char → Prop
  | enclosed {quote : Char} {body : List Char} (hquote : isQuote quote = true)
      (hbody : LiteralBody quote body) : IsLiteral (quote :: (body ++ [quote]))

inductive Part where
  | loose (c : Char)
  | literal (text : List Char)
deriving DecidableEq

namespace Part

def text : Part → List Char
  | loose c => [c]
  | literal text => text

/-- A part as the scan sees it, where a literal is covered byte for byte. -/
def covered : Part → List Char
  | loose c => [c]
  | literal text => List.replicate (byteLength text) '_'

end Part

/-- The parts of a line. A character is loose where no literal starts. -/
inductive Parted : List Char → List Part → Prop
  | nil : Parted [] []
  | literal {text rest : List Char} {parts : List Part} (h : IsLiteral text)
      (hrest : Parted rest parts) : Parted (text ++ rest) (.literal text :: parts)
  | loose {c : Char} {rest : List Char} {parts : List Part}
      (h : ∀ text, IsLiteral text → ¬ text <+: c :: rest) (hrest : Parted rest parts) :
      Parted (c :: rest) (.loose c :: parts)

/-! ### Where a literal closes -/

theorem closingLength_of_body {quote : Char} {body : List Char} (h : LiteralBody quote body)
    (hquote : isQuote quote = true) (rest : List Char) :
    closingLength quote (body ++ quote :: rest) = some (body.length + 1) := by
  have hescape : '\\' ≠ quote := by
    rintro rfl
    exact absurd hquote (by decide)
  induction h with
  | nil => rw [List.nil_append, closingLength.eq_def, List.length_nil]; simp
  | plain hc hplain _ ih =>
      rw [List.cons_append, closingLength.eq_def]
      simp [hc, hplain, ih]
  | escaped hline _ ih =>
      rw [List.cons_append, List.cons_append, closingLength.eq_def]
      simp [hescape, hline, ih]

theorem exists_body_of_closingLength {quote : Char} {text : List Char} {length : Nat}
    (h : closingLength quote text = some length) :
    ∃ body rest, LiteralBody quote body ∧ text = body ++ quote :: rest ∧
      length = body.length + 1 := by
  fun_induction closingLength quote text generalizing length with
  | case1 => cases h
  | case2 rest =>
      obtain rfl := Option.some.inj h
      exact ⟨[], rest, .nil, rfl, rfl⟩
  | case3 => cases h
  | case4 => cases h
  | case5 taken rest hline hquote ih =>
      obtain ⟨count, hcount, rfl⟩ := Option.map_eq_some_iff.mp h
      obtain ⟨body, after, hbody, rfl, rfl⟩ := ih hcount
      exact ⟨'\\' :: taken :: body, after, .escaped hline hbody, rfl, rfl⟩
  | case6 c rest hquote hescape ih =>
      obtain ⟨count, hcount, rfl⟩ := Option.map_eq_some_iff.mp h
      obtain ⟨body, after, hbody, rfl, rfl⟩ := ih hcount
      exact ⟨c :: body, after, .plain hquote hescape hbody, rfl, rfl⟩

/-- A literal goes from its quote to where that quote closes. -/
theorem exists_closingLength_of_literal {text : List Char} (h : IsLiteral text)
    (rest : List Char) :
    ∃ quote inside, text = quote :: inside ∧ isQuote quote = true ∧
      closingLength quote (inside ++ rest) = some inside.length := by
  obtain ⟨hquote, hbody⟩ := h
  refine ⟨_, _, rfl, hquote, ?_⟩
  rw [List.append_assoc, List.length_append]
  exact closingLength_of_body hbody hquote rest

/-- At most one literal starts at a place. -/
theorem IsLiteral.eq_of_append_eq {first second rest after : List Char} (h₁ : IsLiteral first)
    (h₂ : IsLiteral second) (h : first ++ rest = second ++ after) : first = second := by
  obtain ⟨quote, inside, rfl, -, hfirst⟩ := exists_closingLength_of_literal h₁ rest
  obtain ⟨other, within, rfl, -, hsecond⟩ := exists_closingLength_of_literal h₂ after
  obtain ⟨rfl, htail⟩ : quote = other ∧ inside ++ rest = within ++ after := by simpa using h
  have hlength : inside.length = within.length := by
    rw [htail, hsecond] at hfirst
    exact (Option.some.inj hfirst).symm
  rw [(List.append_inj htail hlength).1]

theorem IsLiteral.head_isQuote {c : Char} {rest : List Char} (h : IsLiteral (c :: rest)) :
    isQuote c = true := by
  cases h
  assumption

theorem IsLiteral.ne_nil {text : List Char} (h : IsLiteral text) : text ≠ [] := by
  cases h
  exact List.cons_ne_nil _ _

/-! ### The cut -/

theorem Parted.loose_of_not_isQuote {c : Char} {rest : List Char} {parts : List Part}
    (hc : isQuote c = false) (hrest : Parted rest parts) :
    Parted (c :: rest) (.loose c :: parts) := by
  refine .loose (fun text htext hprefix => ?_) hrest
  obtain ⟨after, heq⟩ := hprefix
  cases text with
  | nil => exact htext.ne_nil rfl
  | cons first inside =>
      obtain ⟨rfl, -⟩ := List.cons.inj heq
      exact absurd htext.head_isQuote (by simp [hc])

theorem Parted.flatMap_text {line : List Char} {parts : List Part} (h : Parted line parts) :
    parts.flatMap Part.text = line := by
  induction h with
  | nil => rfl
  | literal _ _ ih => rw [List.flatMap_cons, ih, Part.text]
  | loose _ _ ih => rw [List.flatMap_cons, ih, Part.text, List.singleton_append]

theorem Parted.isLiteral_of_mem {line text : List Char} {parts : List Part} (h : Parted line parts)
    (hmem : Part.literal text ∈ parts) : IsLiteral text := by
  induction h with
  | nil => cases hmem
  | literal hliteral _ ih =>
      rcases List.mem_cons.mp hmem with heq | hrest
      · obtain rfl := Part.literal.inj heq
        exact hliteral
      · exact ih hrest
  | loose _ _ ih => exact ih (by simpa using hmem)

/-- A line has one cut. -/
theorem Parted.unique {line : List Char} {first second : List Part} (h₁ : Parted line first)
    (h₂ : Parted line second) : first = second := by
  induction h₁ generalizing second with
  | nil =>
      generalize hline : [] = line at h₂
      cases h₂ with
      | nil => rfl
      | literal hliteral _ => simp [hliteral.ne_nil] at hline
      | loose => cases hline
  | @literal text rest parts hliteral _ ih =>
      generalize hline : text ++ rest = line at h₂
      cases h₂ with
      | nil => simp [hliteral.ne_nil] at hline
      | literal hother hrest =>
          obtain rfl := hliteral.eq_of_append_eq hother hline
          obtain rfl := List.append_cancel_left hline
          rw [ih hrest]
      | loose hnone _ => exact absurd (hline ▸ List.prefix_append text rest) (hnone text hliteral)
  | @loose c rest parts hnone _ ih =>
      generalize hline : c :: rest = line at h₂
      cases h₂ with
      | nil => cases hline
      | literal hother _ => exact absurd (hline ▸ List.prefix_append _ _) (hnone _ hother)
      | loose _ hrest =>
          obtain ⟨rfl, rfl⟩ := List.cons.inj hline
          rw [ih hrest]

/-! ### What the scan covers -/

@[simp] theorem byteLength_append (first second : List Char) :
    byteLength (first ++ second) = byteLength first + byteLength second := by
  induction first with
  | nil => simp [byteLength]
  | cons c rest ih => simp [byteLength, ih, Nat.add_assoc]

theorem byteLength_replicate_underscore (count : Nat) :
    byteLength (List.replicate count '_') = count := by
  induction count with
  | zero => rfl
  | succ count ih => rw [List.replicate_succ, byteLength, ih]; exact Nat.add_comm _ _

theorem byteLength_covered (parts : List Part) :
    byteLength (parts.flatMap Part.covered) = byteLength (parts.flatMap Part.text) := by
  induction parts with
  | nil => rfl
  | cons part rest ih =>
      rw [List.flatMap_cons, List.flatMap_cons, byteLength_append, byteLength_append, ih]
      cases part with
      | loose => rfl
      | literal text => rw [Part.covered, byteLength_replicate_underscore, Part.text]

theorem maskFrom_length_append (inside rest : List Char) :
    maskFrom inside.length (inside ++ rest) =
      List.replicate (byteLength inside) '_' ++ maskFrom 0 rest := by
  induction inside with
  | nil => rfl
  | cons c inside ih =>
      rw [List.length_cons, List.cons_append, maskFrom, ih, byteLength,
        ← List.replicate_append_replicate, List.append_assoc]

theorem maskFrom_literal {text : List Char} (h : IsLiteral text) (rest : List Char) :
    maskFrom 0 (text ++ rest) = List.replicate (byteLength text) '_' ++ maskFrom 0 rest := by
  obtain ⟨quote, inside, rfl, hquote, hlength⟩ := exists_closingLength_of_literal h rest
  have hsize : quote.utf8Size = 1 := by
    rcases (by simpa [isQuote] using hquote : quote = '"' ∨ quote = '\'') with rfl | rfl <;> rfl
  have hmask : maskFrom 0 (quote :: (inside ++ rest)) =
      '_' :: maskFrom inside.length (inside ++ rest) := by
    rw [maskFrom, if_pos (by simpa [isQuote] using hquote), hlength]
  rw [List.cons_append, hmask, maskFrom_length_append, byteLength, hsize, Nat.add_comm,
    List.replicate_succ, List.cons_append]

theorem maskFrom_loose {c : Char} {rest : List Char}
    (h : ∀ text, IsLiteral text → ¬ text <+: c :: rest) :
    maskFrom 0 (c :: rest) = c :: maskFrom 0 rest := by
  rw [maskFrom]
  split
  · next hquote =>
      cases hlength : closingLength c rest with
      | none => rfl
      | some length =>
          obtain ⟨body, after, hbody, rfl, -⟩ := exists_body_of_closingLength hlength
          refine absurd ⟨after, ?_⟩ (h _ (.enclosed (by simpa [isQuote] using hquote) hbody))
          simp
  · rfl

/-- The scan covers the literals of a line and nothing else. -/
theorem Parted.maskLiterals_eq {line : List Char} {parts : List Part} (h : Parted line parts) :
    maskLiterals line = parts.flatMap Part.covered := by
  rw [maskLiterals]
  induction h with
  | nil => rfl
  | literal hliteral _ ih => rw [maskFrom_literal hliteral, ih, List.flatMap_cons, Part.covered]
  | loose hnone _ ih =>
      rw [maskFrom_loose hnone, ih, List.flatMap_cons, Part.covered, List.singleton_append]

theorem exists_parted (line : List Char) : ∃ parts, Parted line parts := by
  induction hlength : line.length using Nat.strongRecOn generalizing line with
  | ind length ih =>
      cases line with
      | nil => exact ⟨[], .nil⟩
      | cons c rest =>
          by_cases hliteral : ∃ text, IsLiteral text ∧ text <+: c :: rest
          · obtain ⟨text, htext, after, heq⟩ := hliteral
            have hshort : after.length < length := by
              have hpos := List.length_pos_iff.mpr htext.ne_nil
              rw [← hlength, ← heq, List.length_append]
              omega
            obtain ⟨parts, hparts⟩ := ih _ hshort after rfl
            exact ⟨.literal text :: parts, heq ▸ .literal htext hparts⟩
          · obtain ⟨parts, hparts⟩ := ih _ (by simp [← hlength]) rest rfl
            exact ⟨.loose c :: parts, .loose (by simpa using hliteral) hparts⟩

end Snippet.Comment
