import Snippet.Proofs.Outline.Quiet

/-!
# Brace styles are layout only

Two brace styles and two indentation units that are white space give a program the same text but for
white space, or reject it alike.
-/

namespace Snippet

open Layout
open Render
open Text (isBlank)

/-- The characters of a text that are not white space. -/
def inked (text : String) : List Char := text.toList.filter fun c => !isBlank c

/-- Any text is code where nothing is asked of it. -/
theorem codeLaw_trivial : CodeLaw fun _ => True := by
  constructor <;> simp

theorem Leaf.fits_trivial (dialect : Dialect) (leaf : Leaf) :
    leaf.Fits dialect (fun _ => True) fun _ => True := by
  cases leaf <;> simp [Leaf.Fits, Dialect.SpellsName]

theorem inked_of_render {dialect : Dialect} {style : BraceStyle} {unit : IndentUnit}
    {program : Program} {inside : Surroundings} {pieces : List Piece}
    (hunit : isBlank unit.character = true) (h : program.script (.curly dialect style) .outermost =
      ⟨.ok (), inside, pieces.flatMap (Piece.steps style)⟩) :
    ∃ rendering, program.render (.curly dialect style) unit [] = .ok rendering ∧
      inked rendering.text = pieces.flatMap (Piece.residue fun c => !isBlank c) := by
  obtain ⟨rendering, hrender, htext⟩ := Program.render_quiet h
  refine ⟨rendering, hrender, ?_⟩
  rw [inked, htext, Page.filter_textOf_play (by simp [hunit]) (by decide) rfl]
  exact kept_flatMap_steps (by decide) (by decide) (by decide) style pieces

/-- **Brace styles are layout only.** In two brace styles, with indentation of white space, a
program has the same text but for white space, or the same error. -/
theorem render_inked (dialect : Dialect) (style other : BraceStyle) (unit otherUnit : IndentUnit)
    (program : Program) (hunit : isBlank unit.character = true)
    (hother : isBlank otherUnit.character = true) :
    (∃ rendering otherRendering,
      program.render (.curly dialect style) unit [] = .ok rendering ∧
        program.render (.curly dialect other) otherUnit [] = .ok otherRendering ∧
        inked rendering.text = inked otherRendering.text) ∨
    ∃ rejection otherRejection,
      program.render (.curly dialect style) unit [] = .error rejection ∧
        program.render (.curly dialect other) otherUnit [] = .error otherRejection ∧
        rejection.target.name = otherRejection.target.name ∧ rejection.node = otherRejection.node ∧
        rejection.message = otherRejection.message := by
  have hname : (Target.curly dialect style).name = (Target.curly dialect other).name := by
    cases dialect <;> rfl
  rcases program.exists_outline codeLaw_trivial fun leaf _ => leaf.fits_trivial dialect with
    ⟨inside, pieces, heq, -, -⟩ | ⟨node, hrejected⟩
  · obtain ⟨rendering, hrender, hink⟩ := inked_of_render hunit (heq style)
    obtain ⟨otherRendering, hotherRender, hotherInk⟩ := inked_of_render hother (heq other)
    exact .inl ⟨rendering, otherRendering, hrender, hotherRender, hink.trans hotherInk.symm⟩
  · refine .inr ⟨⟨.curly dialect style, node⟩, ⟨.curly dialect other, node⟩,
      Program.render_rejected (hrejected style), Program.render_rejected (hrejected other), hname,
      rfl, ?_⟩
    rw [Rejection.message, Rejection.message, hname]

/-- A class in the style of K&R with four blanks and in the style of GNU with tabs. -/
theorem render_inked_class :
    let program : Program := ⟨[.mk 1 (.classDef "A" [] [.mk 2 .pass, .mk 3 .breakLoop])]⟩
    (isBlank ' ' = true ∧ isBlank '\t' = true) ∧
      ∃ rendering otherRendering,
        program.render (.curly .cpp .kAndR) ⟨4, ' '⟩ [] = .ok rendering ∧
          program.render (.curly .cpp .gnu) ⟨1, '\t'⟩ [] = .ok otherRendering ∧
          inked rendering.text = inked otherRendering.text := by
  intro program
  have hblank : isBlank ' ' = true := by decide
  have htab : isBlank '\t' = true := by decide
  refine ⟨⟨hblank, htab⟩, ?_⟩
  rcases render_inked .cpp .kAndR .gnu ⟨4, ' '⟩ ⟨1, '\t'⟩ program hblank htab with
    hok | ⟨rejection, -, herror, -⟩
  · exact hok
  · cases herror

end Snippet
