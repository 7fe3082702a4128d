import Snippet.Proofs.Cursor
import Snippet.Proofs.Outline.Outlined
import Snippet.Proofs.Weaving

/-!
# Pages without comments

On a page without records a script leaves its lines of code and nothing else. A kind of characters
that indentation and newlines are not of stands in the output as it stands in those lines.
-/

namespace Snippet

open Comment (Record)
open Layout
open Render
open Number (Single)

def Layout.Step.text? : Step → Option String
  | .code text _ _ => some text
  | _ => none

/-- The characters of one kind in the lines of code of a script. -/
def Layout.kept (keeps : Char → Bool) (steps : List Step) : List Char :=
  (steps.filterMap Step.text?).flatMap fun text => text.toList.filter keeps

@[simp]
theorem Layout.kept_nil (keeps : Char → Bool) : kept keeps [] = [] := rfl

@[simp]
theorem Layout.kept_code (keeps : Char → Bool) (text : String) (comments : Bool) (offset : Single)
    (rest : List Step) :
    kept keeps (.code text comments offset :: rest) = text.toList.filter keeps ++ kept keeps rest :=
  rfl

@[simp]
theorem Layout.kept_skipBlank (keeps : Char → Bool) (rest : List Step) :
    kept keeps (.skipBlank :: rest) = kept keeps rest :=
  rfl

theorem Layout.kept_append (keeps : Char → Bool) (first second : List Step) :
    kept keeps (first ++ second) = kept keeps first ++ kept keeps second := by
  simp [kept]

namespace Layout.Page

variable {unit : IndentUnit} {page : Page}

theorem write_quiet (h : page.cursor.rest = []) (text : String) (comments : Bool)
    (offset : Single) :
    page.write unit text comments offset =
      ([.code (unit.countAt page.level offset) text none], page) := by
  have hflush :
      (if comments then page.cursor.flush else ([], page.cursor)) = ([], page.cursor) := by
    split
    · exact page.cursor.flush_of_rest_nil h
    · rfl
  rw [write, hflush]
  simp only [Comment.Cursor.takeElse_of_rest_nil h, Comment.Cursor.takeTail_of_rest_nil h]
  rfl

theorem rest_step (h : page.cursor.rest = []) (step : Step) :
    (page.step unit step).2.cursor.rest = [] := by
  cases step with
  | prepare line => exact h
  | skipBlank => rwa [Page.step, Comment.Cursor.skipBlank_of_rest_nil h]
  | code text comments offset =>
      rw [Page.step, write_quiet h]
      exact h
  | indent => exact h
  | dedent => exact h

theorem play_append (first second : List Step) :
    page.play unit (first ++ second) =
      ((page.play unit first).1 ++ ((page.play unit first).2.play unit second).1,
        ((page.play unit first).2.play unit second).2) := by
  induction first generalizing page with
  | nil => rfl
  | cons step rest ih => simp [play, ih]

theorem rest_play (h : page.cursor.rest = []) (steps : List Step) :
    (page.play unit steps).2.cursor.rest = [] := by
  induction steps generalizing page with
  | nil => exact h
  | cons step rest ih => exact ih (rest_step h step)

variable {keeps : Char → Bool}

theorem filter_indented (hunit : keeps unit.character = false) (indent : Nat) (text : String) :
    (Line.indented unit indent text).toList.filter keeps = text.toList.filter keeps := by
  rw [Line.indented]
  split
  · next hempty => simp [hempty]
  · simp [IndentUnit.indentation, hunit]

/-- **What a page without records keeps.** -/
theorem filter_textOf_play (hunit : keeps unit.character = false) (hnewline : keeps '\n' = false)
    (h : page.cursor.rest = []) (spell : String → String) (steps : List Step) :
    (textOf unit spell (page.play unit steps).1).toList.filter keeps = kept keeps steps := by
  induction steps generalizing page with
  | nil => rfl
  | cons step rest ih =>
      have hstep : (page.step unit step).2.cursor.rest = [] := rest_step h step
      rw [play, textOf_append, String.toList_append, List.filter_append, ih hstep]
      cases step with
      | code text comments offset =>
          rw [Page.step, write_quiet h, textOf_singleton, Line.text, String.toList_append,
            List.filter_append, filter_indented hunit]
          simp [kept_code, hnewline]
      | _ => rfl

end Layout.Page

/-- The characters of one kind in a piece, which the brace styles leave alone. -/
def Piece.residue (keeps : Char → Bool) : Piece → List Char
  | code text | closing text => text.toList.filter keeps
  | remark lines => kept keeps (Dialect.comment lines)
  | documentation lines => kept keeps (Dialect.docComment lines)
  | opening header => header.toList.filter keeps ++ ['\x7b']
  | middle header => '\x7d' :: (header.toList.filter keeps ++ ['\x7b'])
  | prepare _ _ | indent | dedent => []

section Residue

variable {keeps : Char → Bool} (hspace : keeps ' ' = false) (hopen : keeps '\x7b' = true)
  (hclose : keeps '\x7d' = true)

include hspace hopen hclose

theorem Piece.kept_steps (style : BraceStyle) (piece : Piece) :
    kept keeps (piece.steps style) = piece.residue keeps := by
  cases piece with
  | opening header | middle header =>
      cases style <;> simp [Piece.steps, BraceStyle.opening, BraceStyle.middle,
        BraceStyle.ownLineOffset, Step.line, residue, hspace, hopen, hclose]
  | code text | closing text =>
      cases style <;> simp [Piece.steps, BraceStyle.closing, BraceStyle.ownLineOffset, Step.line,
        residue]
  | _ => rfl

theorem kept_flatMap_steps (style : BraceStyle) (pieces : List Piece) :
    kept keeps (pieces.flatMap (Piece.steps style)) = pieces.flatMap (Piece.residue keeps) := by
  induction pieces with
  | nil => rfl
  | cons piece rest ih =>
      rw [List.flatMap_cons, List.flatMap_cons, kept_append, ih,
        piece.kept_steps hspace hopen hclose style]

end Residue

/-- A rendering is the page that its script leaves, with the records left over. -/
theorem Program.exists_render {target : Target} {unit : IndentUnit} {program : Program}
    {inside : Surroundings} {steps : List Step}
    (h : program.script target .outermost = ⟨.ok (), inside, steps⟩) (records : List Record) :
    ∃ rendering, program.render target unit records = .ok rendering ∧
      rendering.text = textOf unit target.lineComment
        (((Page.ofRecords records).play unit steps).1 ++
          (((Page.ofRecords records).play unit steps).2.finish unit).1) := by
  refine ⟨⟨_, ((Page.ofRecords records).play unit steps).2.cursor.isExhausted⟩, ?_, rfl⟩
  rw [Program.render, Program.play, h]
  rfl

/-- Without records nothing is left over. -/
theorem Program.render_quiet {target : Target} {unit : IndentUnit} {program : Program}
    {inside : Surroundings} {steps : List Step}
    (h : program.script target .outermost = ⟨.ok (), inside, steps⟩) :
    ∃ rendering, program.render target unit [] = .ok rendering ∧
      rendering.text = textOf unit target.lineComment ((Page.ofRecords []).play unit steps).1 := by
  obtain ⟨rendering, hrender, htext⟩ := Program.exists_render h []
  have hrest : ((Page.ofRecords []).play unit steps).2.cursor.rest = [] := Page.rest_play rfl steps
  refine ⟨rendering, hrender, ?_⟩
  simpa [Page.finish, Comment.Cursor.drain, hrest, leftover] using htext

theorem Program.render_rejected {target : Target} {unit : IndentUnit} {records : List Record}
    {program : Program} {rejection : Rejection}
    (h : (program.script target .outermost).result = .error rejection) :
    program.render target unit records = .error rejection := by
  rw [Program.render, Program.play, h]
  rfl

end Snippet
