import Snippet.Proofs.Balance
import Snippet.Proofs.Halves
import Snippet.Proofs.Outline.Quiet

/-!
# A block one level deeper

A script knows nothing of the level it is played at. Played one level deeper it writes the same
lines of code, and each that is not empty has one width more before it. Braces that stand between
two levels move with the others, since no number of halves is rounded while the characters of the
deepest level stay in the digits of binary32.
-/

namespace Snippet

open Layout
open Number (Single twoTo)
open Render Script

namespace Layout

/-- Lines of code stand in by no more than a level, and by a whole number of halves. -/
def InHalves (steps : List Step) : Prop :=
  ∀ text comments offset, .code text comments offset ∈ steps →
    ∃ halves, halves ≤ 2 ∧ offset = Single.ofHalves halves

theorem BraceStyle.exists_halves {style : BraceStyle} {offset : Single}
    (h : style.ownLineOffset = some offset) : ∃ halves, halves ≤ 2 ∧ offset = .ofHalves halves := by
  cases style with
  | kAndR => cases h
  | allman =>
      cases h
      exact ⟨0, by omega, Single.zero_eq⟩
  | whitesmiths =>
      cases h
      exact ⟨2, by omega, Single.one_eq⟩
  | gnu =>
      cases h
      exact ⟨1, by omega, Single.half_eq⟩

namespace InHalves

theorem nil : InHalves [] := by
  intro text comments offset h
  cases h

theorem append {first second : List Step} (h₁ : InHalves first) (h₂ : InHalves second) :
    InHalves (first ++ second) := by
  intro text comments offset h
  rcases List.mem_append.mp h with h | h
  · exact h₁ text comments offset h
  · exact h₂ text comments offset h

theorem head {first : Step} {rest : List Step} (h : InHalves (first :: rest)) :
    InHalves [first] := by
  intro text comments offset hmem
  exact h text comments offset (List.mem_cons.mpr (.inl (List.mem_singleton.mp hmem)))

theorem tail {first : Step} {rest : List Step} (h : InHalves (first :: rest)) : InHalves rest := by
  intro text comments offset hmem
  exact h text comments offset (List.mem_cons_of_mem _ hmem)

theorem code {halves : Nat} {offset : Single} (h : halves ≤ 2) (hoffset : offset = .ofHalves halves)
    (text : String) (comments : Bool) : InHalves [.code text comments offset] := by
  intro _ _ _ hmem
  cases List.mem_singleton.mp hmem
  exact ⟨halves, h, hoffset⟩

theorem line (text : String) : InHalves [.line text] :=
  code (Nat.zero_le 2) Single.zero_eq text true

theorem other {step : Step} (h : step.text? = none) : InHalves [step] := by
  intro _ _ _ hmem
  cases List.mem_singleton.mp hmem
  cases h

theorem deeper {steps : List Step} (h : InHalves steps) :
    InHalves (.indent :: (steps ++ [.dedent])) :=
  append (other rfl) (append h (other rfl))

theorem opening (style : BraceStyle) (header : String) : InHalves (style.opening header) := by
  unfold BraceStyle.opening
  split
  · exact line _
  · next offset hoffset =>
      obtain ⟨halves, htwo, heq⟩ := BraceStyle.exists_halves hoffset
      exact append (line header) (append (code htwo heq _ _) (other rfl))

theorem middle (style : BraceStyle) (header : String) : InHalves (style.middle header) := by
  unfold BraceStyle.middle
  split
  · exact line _
  · next offset hoffset =>
      obtain ⟨halves, htwo, heq⟩ := BraceStyle.exists_halves hoffset
      have hheader : InHalves [.code header false .zero] := code (Nat.zero_le 2) Single.zero_eq _ _
      have hbrace : ∀ text comments, InHalves [.code text comments offset] := code htwo heq
      exact append (other rfl)
        (append (hbrace _ _) (append hheader (append (hbrace _ _) (other rfl))))

theorem closing (style : BraceStyle) (closer : String) : InHalves (style.closing closer) := by
  unfold BraceStyle.closing
  split
  · exact line closer
  · next offset hoffset =>
      obtain ⟨halves, htwo, heq⟩ := BraceStyle.exists_halves hoffset
      exact code htwo heq closer true

end InHalves

/-- The deepest level of a script, from the one it starts at. -/
def deepest : Nat → List Step → Nat
  | level, [] => level
  | level, .indent :: rest => deepest (level + 1) rest
  | level, .dedent :: rest => max level (deepest (level - 1) rest)
  | level, _ :: rest => deepest level rest

theorem le_deepest (level : Nat) (steps : List Step) : level ≤ deepest level steps := by
  fun_induction deepest level steps with
  | case1 level => exact Nat.le_refl level
  | case2 level rest ih => omega
  | case3 level rest ih => omega
  | case4 level step rest hindent hdedent ih => exact ih

theorem deepest_step_le (unit : IndentUnit) (page : Page) (step : Step) (rest : List Step) :
    deepest (page.step unit step).2.level rest ≤ deepest page.level (step :: rest) := by
  cases step with
  | dedent => exact Nat.le_max_right _ _
  | _ => exact Nat.le_refl _

/-- A line of code and the line it is one level deeper. -/
def Line.Deeper (unit : IndentUnit) (spell : String → String) (line deeper : Line) : Prop :=
  ∃ indent text, line = .code indent text none ∧ deeper = .code (indent + unit.width) text none ∧
    (text ≠ "" → deeper.text unit spell = unit.indentation unit.width ++ line.text unit spell)

theorem IndentUnit.indentation_add (unit : IndentUnit) (more count : Nat) :
    unit.indentation (more + count) = unit.indentation more ++ unit.indentation count := by
  unfold indentation
  rw [← List.replicate_append_replicate, String.ofList_append]

theorem Line.deeper_code (unit : IndentUnit) (spell : String → String) (indent : Nat)
    (text : String) :
    Line.Deeper unit spell (.code indent text none) (.code (indent + unit.width) text none) := by
  refine ⟨indent, text, rfl, rfl, ?_⟩
  intro htext
  simp only [Line.text, Line.indented, if_neg htext]
  rw [Nat.add_comm, unit.indentation_add]
  simp only [String.append_assoc]

/-- What two pages one level apart come to. -/
structure Page.Shifts (unit : IndentUnit) (spell : String → String)
    (played deeper : List Line × Page) : Prop where
  lines : List.Forall₂ (Line.Deeper unit spell) played.1 deeper.1
  level : deeper.2.level = played.2.level + 1

namespace Page

variable {unit : IndentUnit} (spell : String → String) {page deeper : Page}

theorem shifts_step {step : Step} {level : Nat} (hlevel : deeper.level = page.level + 1)
    (hpage : page.cursor.rest = []) (hdeeper : deeper.cursor.rest = []) (hhalves : InHalves [step])
    (hground : levelAfter? page.level [step] = some level)
    (hbound : (page.level + 1) * unit.width ≤ twoTo 22) :
    Shifts unit spell (page.step unit step) (deeper.step unit step) := by
  cases step with
  | prepare line => exact ⟨.nil, hlevel⟩
  | skipBlank => exact ⟨.nil, hlevel⟩
  | indent => exact ⟨.nil, congrArg (· + 1) hlevel⟩
  | dedent =>
      have hafter : (page.level - 1) + 1 = page.level := by
        cases hzero : page.level with
        | zero => simp [levelAfter?, hzero] at hground
        | succ below => rfl
      refine ⟨.nil, ?_⟩
      change deeper.level - 1 = page.level - 1 + 1
      omega
  | code text comments offset =>
      obtain ⟨halves, htwo, rfl⟩ := hhalves text comments offset List.mem_cons_self
      rw [step, step, write_quiet hpage, write_quiet hdeeper, hlevel,
        IndentUnit.countAt_succ htwo hbound]
      exact ⟨.cons (Line.deeper_code unit spell _ text) .nil, hlevel⟩

theorem shifts_play {steps : List Step} {level : Nat} (hlevel : deeper.level = page.level + 1)
    (hpage : page.cursor.rest = []) (hdeeper : deeper.cursor.rest = [])
    (hhalves : InHalves steps) (hground : levelAfter? page.level steps = some level)
    (hbound : (deepest page.level steps + 1) * unit.width ≤ twoTo 22) :
    Shifts unit spell (page.play unit steps) (deeper.play unit steps) := by
  -- The two pages stay one level apart, and the upper one never leaves the ground.
  induction steps generalizing page deeper with
  | nil => exact ⟨.nil, hlevel⟩
  | cons step rest ih =>
      rw [← List.singleton_append, levelAfter?_append, Option.bind_eq_some_iff] at hground
      obtain ⟨between, hstep, hrest⟩ := hground
      have hhere : (page.level + 1) * unit.width ≤ twoTo 22 := by
        have hle : page.level ≤ deepest page.level (step :: rest) := le_deepest _ _
        exact Nat.le_trans (Nat.mul_le_mul_right _ (Nat.succ_le_succ hle)) hbound
      have hbelow : (deepest (page.step unit step).2.level rest + 1) * unit.width ≤ twoTo 22 := by
        have hle := deepest_step_le unit page step rest
        exact Nat.le_trans (Nat.mul_le_mul_right _ (Nat.succ_le_succ hle)) hbound
      have hfirst : Shifts unit spell (page.step unit step) (deeper.step unit step) :=
        shifts_step spell hlevel hpage hdeeper hhalves.head hstep hhere
      have hafter : (page.step unit step).2.level = between := level_step unit page step hstep
      have hlast := ih hfirst.level (rest_step hpage step) (rest_step hdeeper step)
        hhalves.tail (hafter ▸ hrest) hbelow
      exact ⟨List.rel_append hfirst.lines hlast.lines, hlast.level⟩

end Page

end Layout

/-! ### Every script of the walk -/

theorem Target.Emits.inHalves {target : Target} {steps : List Step} (h : target.Emits steps) :
    InHalves steps := by
  induction h with
  | nil => exact .nil
  | append _ _ ih₁ ih₂ => exact ih₁.append ih₂
  | line text => exact .line text
  | deeper _ ih => exact ih.deeper
  | opening _ header => exact .opening _ header
  | middle _ header => exact .middle _ header
  | closing _ closer => exact .closing _ closer

theorem walked_inHalves (target : Target) :
    Walked target fun script => ∀ around, InHalves (script around).steps where
  pure _ _ := .nil
  bind h₁ h₂ around := by
    rw [bind_apply]
    split
    · exact (h₁ around).append (h₂ _ _)
    · exact h₁ around
  surroundings _ := .nil
  text _ _ := .nil
  declare _ _ _ := .nil
  prepare _ _ := .other rfl
  emit h _ := h.inHalves
  reject _ _ := .nil
  begin? node h around := by
    rw [begin?]
    split
    · next inside steps hform => exact (h hform).2.inHalves
    · exact .nil
  inScope h around := h around.pushScope
  indented className h around := (h (around.enter className)).deeper

/-! ### Scripts on pages -/

/-- What a script comes to on a page: its result, what surrounds the next one, the lines it writes,
and the page after them. -/
structure Render.Written (α : Type) where
  result : Except Rejection α
  around : Surroundings
  lines : List Line
  page : Page

def Render.Script.writtenAt {α : Type} (unit : IndentUnit) (script : Script α)
    (around : Surroundings) (page : Page) : Written α :=
  let outcome := script around
  let (lines, last) := page.play unit outcome.steps
  ⟨outcome.result, outcome.around, lines, last⟩

theorem Program.play_eq_writtenAt (target : Target) (unit : IndentUnit)
    (records : List Comment.Record) (program : Program) :
    program.play target unit records =
      let written :=
        (program.script target).writtenAt unit .outermost (Page.ofRecords records)
      written.result.map fun _ => (written.lines, written.page) :=
  rfl

/-- The same result in the same surroundings, with every line one level deeper. -/
structure Render.Written.Nests {α : Type} (unit : IndentUnit) (spell : String → String)
    (written deeper : Written α) : Prop where
  result : deeper.result = written.result
  around : deeper.around = written.around
  lines : List.Forall₂ (Line.Deeper unit spell) written.lines deeper.lines
  level : deeper.page.level = written.page.level + 1

/-- **Nesting is a shift.** A block, accepted or rejected, comes to the same result one level deeper
and writes the same lines of code there, each that is not empty with one width more before it, as
long as the deepest level of the block leaves the binary32 product exact. A whole program is such a
block at the outermost level. -/
theorem block_nests (target : Target) (unit : IndentUnit) (stmts : List Stmt)
    (around : Surroundings) {page deeper : Page} (hlevel : deeper.level = page.level + 1)
    (hpage : page.cursor.rest = []) (hdeeper : deeper.cursor.rest = [])
    (hbound : (deepest page.level (inScope (Stmt.renderAll target stmts) around).steps + 1) *
      unit.width ≤ twoTo 22) :
    ((inScope (Stmt.renderAll target stmts)).writtenAt unit around page).Nests unit
        target.lineComment
        ((inScope (Stmt.renderAll target stmts)).writtenAt unit around deeper) ∧
      ∀ records, (Program.mk stmts).play target unit records =
        let written := (inScope (Stmt.renderAll target stmts)).writtenAt unit .outermost
          (Page.ofRecords records)
        written.result.map fun _ => (written.lines, written.page) := by
  have hhalves : InHalves (inScope (Stmt.renderAll target stmts) around).steps :=
    (walked_inHalves target).inScope ((walked_inHalves target).all stmts) around
  have hbalanced : Balanced (inScope (Stmt.renderAll target stmts) around).steps :=
    (walked_balanced target).inScope ((walked_balanced target).all stmts) around
  have hshifts := Page.shifts_play target.lineComment hlevel hpage hdeeper hhalves
    (hbalanced page.level) hbound
  exact ⟨⟨rfl, rfl, hshifts.lines, hshifts.level⟩, fun records =>
    Program.play_eq_writtenAt target unit records ⟨stmts⟩⟩

/-- Braces half a level in move by the width of a whole one. -/
theorem block_nests_gnu :
    let target : Target := .curly .cpp .gnu
    let unit : IndentUnit := ⟨3, ' '⟩
    let block := inScope (Stmt.renderAll target
      [.mk 1 (.whileLoop (.constant (.bool true)) [.mk 2 .breakLoop])])
    let page : Page := Page.ofRecords []
    let deeper : Page := ⟨1, page.cursor⟩
    textOf unit target.lineComment (block.writtenAt unit .outermost page).lines =
        "while ( true )\n \x7b\n   break;\n \x7d\n" ∧
      textOf unit target.lineComment (block.writtenAt unit .outermost deeper).lines =
        "   while ( true )\n    \x7b\n      break;\n    \x7d\n" ∧
      (block.writtenAt unit .outermost page).Nests unit target.lineComment
        (block.writtenAt unit .outermost deeper) := by
  intro target unit block page deeper
  refine ⟨by decide +kernel, by decide +kernel, ?_⟩
  exact (block_nests target unit _ .outermost rfl rfl rfl (by decide)).1

end Snippet
