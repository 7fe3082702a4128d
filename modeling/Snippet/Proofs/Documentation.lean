import Mathlib.Data.List.TakeWhile
import Mathlib.Tactic.ByContra
import Snippet.Proofs.Outline.Characters

/-!
# Documentation texts lose shared indentation and outer empty lines only

The first line of a documentation text loses its indentation and each other line the indentation that
the lines after the first share. Everything that is dropped is white space: a line that is not blank
is indented by the margin at least, and a shorter one is blank.
-/

namespace Snippet.Text

/-! ### The margin -/

/-- The least indentation of the lines that are not blank, zero where all lines are. -/
def IsMargin (lines : List (List Char)) (margin : Nat) : Prop :=
  (∀ line ∈ lines, isBlankLine line = false → margin ≤ indentation line) ∧
    ((∃ line ∈ lines, isBlankLine line = false ∧ indentation line = margin) ∨
      (∀ line ∈ lines, isBlankLine line = true) ∧ margin = 0)

theorem isMargin_commonIndentation (lines : List (List Char)) :
    IsMargin lines (commonIndentation lines) := by
  have hmem : ∀ line, line ∈ lines.filter (fun line => !isBlankLine line) ↔
      line ∈ lines ∧ isBlankLine line = false := by
    intro line
    rw [List.mem_filter, Bool.not_eq_true']
  rw [commonIndentation]
  cases hleast : ((lines.filter fun line => !isBlankLine line).map indentation).min? with
  | none =>
      have hnone : lines.filter (fun line => !isBlankLine line) = [] :=
        List.map_eq_nil_iff.mp (List.min?_eq_none_iff.mp hleast)
      have hblank : ∀ line ∈ lines, isBlankLine line = true := by
        intro line hline
        by_contra hink
        have hfound := (hmem line).mpr ⟨hline, Bool.eq_false_iff.mpr hink⟩
        rw [hnone] at hfound
        cases hfound
      exact ⟨fun line hline hink => absurd (hblank line hline) (Bool.eq_false_iff.mp hink),
        .inr ⟨hblank, rfl⟩⟩
  | some least =>
      obtain ⟨hfound, hle⟩ := List.min?_eq_some_iff.mp hleast
      obtain ⟨line, hline, hindent⟩ := List.mem_map.mp hfound
      obtain ⟨hline, hink⟩ := (hmem line).mp hline
      refine ⟨fun other hother hinked => ?_, .inl ⟨line, hline, hink, hindent⟩⟩
      exact hle _ (List.mem_map_of_mem ((hmem other).mpr ⟨hother, hinked⟩))

/-- What the margin takes from a line is white space, also where the line is shorter. -/
theorem IsMargin.take_blank {lines : List (List Char)} {margin : Nat} (h : IsMargin lines margin)
    {line : List Char} (hline : line ∈ lines) : ∀ c ∈ line.take margin, isBlank c = true := by
  intro c hc
  cases hblank : isBlankLine line with
  | true => exact List.all_eq_true.mp hblank c (List.mem_of_mem_take hc)
  | false =>
      have hmargin : margin ≤ (line.takeWhile isBlank).length := h.1 line hline hblank
      have hindent : line.take margin = (line.takeWhile isBlank).take margin := by
        conv => lhs; rw [← List.takeWhile_append_dropWhile (p := isBlank) (l := line)]
        exact List.take_append_of_le_length hmargin
      rw [hindent] at hc
      exact List.mem_takeWhile_imp (List.mem_of_mem_take hc)

/-- A line that white space is taken from keeps the rest of its indentation. -/
theorem indentation_eq_add {line : List Char} {margin : Nat} (hmargin : margin ≤ indentation line) :
    indentation line = margin + indentation (line.drop margin) := by
  induction margin generalizing line with
  | zero => rw [Nat.zero_add, List.drop_zero]
  | succ margin ih =>
      cases line with
      | nil => exact absurd hmargin (Nat.not_succ_le_zero margin)
      | cons c rest =>
          cases hblank : isBlank c with
          | false =>
              rw [indentation, List.takeWhile_cons_of_neg (by simp [hblank])] at hmargin
              exact absurd hmargin (Nat.not_succ_le_zero margin)
          | true =>
              have hstep : indentation (c :: rest) = indentation rest + 1 := by
                rw [indentation, List.takeWhile_cons_of_pos hblank, List.length_cons, indentation]
              rw [hstep] at hmargin ⊢
              rw [List.drop_succ_cons, ih (Nat.le_of_succ_le_succ hmargin)]
              omega

/-! ### Characters besides white space -/

/-- The characters of a text that are not white space. -/
def ink (text : List Char) : List Char := text.filter fun c => !isBlank c

theorem ink_append (first second : List Char) : ink (first ++ second) = ink first ++ ink second :=
  List.filter_append ..

theorem ink_eq_nil {text : List Char} (h : ∀ c ∈ text, isBlank c = true) : ink text = [] :=
  List.filter_eq_nil_iff.mpr fun c hc => by simp [h c hc]

theorem ink_dropBlanks (line : List Char) : ink (dropBlanks line) = ink line := by
  have hparts := List.takeWhile_append_dropWhile (p := isBlank) (l := line)
  calc ink (dropBlanks line)
      = ink (line.takeWhile isBlank) ++ ink (dropBlanks line) := by
        rw [ink_eq_nil fun c hc => List.mem_takeWhile_imp hc, List.nil_append]
    _ = ink line := by rw [← ink_append, dropBlanks, hparts]

theorem ink_drop {line : List Char} {count : Nat} (h : ∀ c ∈ line.take count, isBlank c = true) :
    ink (line.drop count) = ink line := by
  calc ink (line.drop count)
      = ink (line.take count) ++ ink (line.drop count) := by rw [ink_eq_nil h, List.nil_append]
    _ = ink line := by rw [← ink_append, List.take_append_drop]

theorem ink_intercalate (lines : List (List Char)) :
    ink (['\n'].intercalate lines) = ink lines.flatten := by
  have hnewline : ink ['\n'] = [] := by decide
  induction lines with
  | nil => rfl
  | cons first rest ih =>
      cases rest with
      | nil => rw [List.intercalate_singleton, List.flatten_singleton]
      | cons second more =>
          rw [List.intercalate_cons_cons, List.flatten_cons, ink_append, ink_append, ink_append, ih,
            hnewline, List.append_nil]

/-! ### Outer empty lines -/

/-- Behind the first line that is not empty, only empty lines at the end are dropped. -/
theorem dropWhile_isEmpty_eq (lines : List (List Char)) :
    lines.dropWhile List.isEmpty = dropOuterEmpty lines ++
      ((lines.dropWhile List.isEmpty).reverse.takeWhile List.isEmpty).reverse := by
  rw [dropOuterEmpty, ← List.reverse_append, List.takeWhile_append_dropWhile, List.reverse_reverse]

theorem exists_dropOuterEmpty (lines : List (List Char)) :
    ∃ before after, lines = before ++ dropOuterEmpty lines ++ after ∧
      ∀ line ∈ before ++ after, line = [] := by
  refine ⟨lines.takeWhile List.isEmpty,
    ((lines.dropWhile List.isEmpty).reverse.takeWhile List.isEmpty).reverse, ?_, ?_⟩
  · rw [List.append_assoc, ← dropWhile_isEmpty_eq, List.takeWhile_append_dropWhile]
  · intro line hline
    rw [List.mem_append, List.mem_reverse] at hline
    rcases hline with hline | hline
    · exact List.isEmpty_iff.mp (List.mem_takeWhile_imp hline)
    · exact List.isEmpty_iff.mp (List.mem_takeWhile_imp hline)

theorem ne_nil_of_head?_dropOuterEmpty {lines : List (List Char)} {line : List Char}
    (h : (dropOuterEmpty lines).head? = some line) : line ≠ [] := by
  have hhead := List.head?_dropWhile_not List.isEmpty lines
  rw [dropWhile_isEmpty_eq, List.head?_append, h] at hhead
  rintro rfl
  cases hhead

theorem ne_nil_of_getLast?_dropOuterEmpty {lines : List (List Char)} {line : List Char}
    (h : (dropOuterEmpty lines).getLast? = some line) : line ≠ [] := by
  have hlast := List.head?_dropWhile_not List.isEmpty (lines.dropWhile List.isEmpty).reverse
  rw [dropOuterEmpty, List.getLast?_reverse] at h
  rw [h] at hlast
  rintro rfl
  cases hlast

/-! ### The lines of a documentation text -/

/-- The lines that are left of a text with the line `first` and then those in `rest`: the first loses
its leading white space and each other the margin, and then empty lines go at both ends only. -/
structure Dedents (first : List Char) (rest : List (List Char)) (margin : Nat)
    (lines : List (List Char)) : Prop where
  isMargin : IsMargin rest margin
  take_blank : ∀ line ∈ rest, ∀ c ∈ line.take margin, isBlank c = true
  cut : ∃ before after,
    first.dropWhile isBlank :: rest.map (·.drop margin) = before ++ lines ++ after ∧
      ∀ line ∈ before ++ after, line = []

theorem dedents_docLines {text first : List Char} {rest : List (List Char)}
    (h : splitLines text = first :: rest) :
    Dedents first rest (commonIndentation rest) (docLines text) := by
  have hmargin := isMargin_commonIndentation rest
  refine ⟨hmargin, fun line hline => hmargin.take_blank hline, ?_⟩
  rw [docLines, h]
  exact exists_dropOuterEmpty _

namespace Dedents

variable {first : List Char} {rest lines : List (List Char)} {margin : Nat}

/-- Only white space is lost. -/
theorem ink_flatten (h : Dedents first rest margin lines) :
    ink lines.flatten = ink (first :: rest).flatten := by
  obtain ⟨before, after, hcut, hempty⟩ := h.cut
  obtain ⟨hbefore, hafter⟩ := List.forall_mem_append.mp hempty
  have hrest : ∀ others : List (List Char), (∀ line ∈ others, line ∈ rest) →
      ink (others.map (·.drop margin)).flatten = ink others.flatten := by
    intro others hothers
    induction others with
    | nil => rfl
    | cons line more ih =>
        obtain ⟨hline, hmore⟩ := List.forall_mem_cons.mp hothers
        rw [List.map_cons, List.flatten_cons, List.flatten_cons, ink_append, ink_append, ih hmore,
          ink_drop (h.take_blank line hline)]
  calc ink lines.flatten
      = ink (before ++ lines ++ after).flatten := by
        rw [List.flatten_append, List.flatten_append, List.flatten_eq_nil_iff.mpr hbefore,
          List.flatten_eq_nil_iff.mpr hafter, List.nil_append, List.append_nil]
    _ = ink (dropBlanks first) ++ ink (rest.map (·.drop margin)).flatten := by
        rw [← hcut, List.flatten_cons, ink_append, dropBlanks]
    _ = ink (first :: rest).flatten := by
        rw [ink_dropBlanks, hrest rest fun _ => id, List.flatten_cons, ink_append]

/-- A line that is not blank stays, and keeps its indentation but for the margin. -/
theorem keeps_line (h : Dedents first rest margin lines) {line : List Char} (hline : line ∈ rest)
    (hink : isBlankLine line = false) :
    line.drop margin ∈ lines ∧ indentation line = margin + indentation (line.drop margin) := by
  refine ⟨?_, indentation_eq_add (h.isMargin.1 line hline hink)⟩
  obtain ⟨before, after, hcut, hempty⟩ := h.cut
  have hne : line.drop margin ≠ [] := by
    intro hnil
    have hall := h.take_blank line hline
    rw [← List.append_nil (line.take margin), ← hnil, List.take_append_drop] at hall
    rw [isBlankLine, List.all_eq_true.mpr hall] at hink
    cases hink
  have hmem : line.drop margin ∈ before ++ lines ++ after := by
    rw [← hcut]
    exact List.mem_cons_of_mem _ (List.mem_map_of_mem hline)
  simp only [List.mem_append] at hmem hempty
  rcases hmem with (hbefore | hinner) | hafter
  · exact absurd (hempty _ (.inl hbefore)) hne
  · exact hinner
  · exact absurd (hempty _ (.inr hafter)) hne

/-- Some line keeps no indentation, if there is one that is not blank. -/
theorem exists_flush (h : Dedents first rest margin lines)
    (hsome : ∃ line ∈ rest, isBlankLine line = false) :
    ∃ line ∈ rest, isBlankLine line = false ∧ indentation (line.drop margin) = 0 := by
  rcases h.isMargin.2 with ⟨line, hline, hink, hindent⟩ | ⟨hblank, -⟩
  · have hkept := (h.keeps_line hline hink).2
    exact ⟨line, hline, hink, by omega⟩
  · obtain ⟨line, hline, hink⟩ := hsome
    rw [hblank line hline] at hink
    cases hink

end Dedents

/-- **Cleaning a documentation text drops shared indentation and outer empty lines only.** The first
line loses its leading white space and the others the least indentation of those that are not blank,
and then empty lines go at both ends. So no character but white space is lost, the lines that are not
blank keep their indentation relative to each other, and one of them keeps none. -/
theorem cleanDoc_dedents (text : String) :
    let lines := (cleanDoc text).map String.toList
    ∃ first rest margin, text.toList = ['\n'].intercalate (first :: rest) ∧
      (∀ line ∈ first :: rest, '\n' ∉ line) ∧ Dedents first rest margin lines ∧
      (∀ line ∈ lines, '\n' ∉ line) ∧ (∀ line ∈ lines.head?, line ≠ []) ∧
      (∀ line ∈ lines.getLast?, line ≠ []) ∧ ink lines.flatten = ink text.toList ∧
      (∀ line ∈ rest, isBlankLine line = false →
        line.drop margin ∈ lines ∧ indentation line = margin + indentation (line.drop margin)) ∧
      ((∃ line ∈ rest, isBlankLine line = false) →
        ∃ line ∈ rest, isBlankLine line = false ∧ indentation (line.drop margin) = 0) := by
  intro lines
  obtain ⟨first, rest, hsplit⟩ := List.exists_cons_of_ne_nil (splitLines_ne_nil text.toList)
  have hlines : lines = docLines text.toList := by
    simp only [lines, cleanDoc, List.map_map, Function.comp_def, String.toList_ofList, List.map_id']
  have hdoc : docLines text.toList =
      dropOuterEmpty (dropBlanks first :: rest.map (·.drop (commonIndentation rest))) := by
    rw [docLines, hsplit]
  have hdedents : Dedents first rest (commonIndentation rest) lines :=
    hlines ▸ dedents_docLines hsplit
  have htext : text.toList = ['\n'].intercalate (first :: rest) := by
    rw [← hsplit]
    exact (intercalate_splitLines text.toList).symm
  refine ⟨first, rest, commonIndentation rest, htext, ?_, hdedents, ?_, ?_, ?_, ?_,
    fun line hline => hdedents.keeps_line hline, hdedents.exists_flush⟩
  · rw [← hsplit]
    exact fun line => newline_not_mem_of_mem_splitLines
  · intro line hline
    obtain ⟨shown, hshown, rfl⟩ := List.mem_map.mp hline
    exact newline_not_mem_of_mem_cleanDoc hshown
  · rw [hlines, hdoc]
    exact fun line => ne_nil_of_head?_dropOuterEmpty
  · rw [hlines, hdoc]
    exact fun line => ne_nil_of_getLast?_dropOuterEmpty
  · rw [hdedents.ink_flatten, htext, ink_intercalate]

/-- Blank lines inside stay, one of them longer than the margin. -/
example : cleanDoc "  Summary.\n\n     deeper\n      \n   body\n  \n" =
    ["Summary.", "", "  deeper", "   ", "body"] := by
  decide +kernel

end Snippet.Text
