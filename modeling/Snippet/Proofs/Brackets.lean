import Snippet.Proofs.Outline.Characters
import Snippet.Proofs.Outline.Quiet

/-!
# Brackets

The languages with braces nest their brackets when the names and the strings of a program bring none
of their own, and the braces open at a statement are those of the blocks around it. Code leaves the
open brackets as they are, and each piece of an outline opens or closes the braces it is for.
-/

namespace Snippet

open Layout
open Number (Single)
open Render
open Text (cleanDoc)

/-! ### Open brackets -/

/-- The bracket that a closing bracket is the end of. -/
def partner? : Char → Option Char
  | ')' => some '('
  | ']' => some '['
  | '\x7d' => some '\x7b'
  | _ => none

def isBracket (c : Char) : Bool := ['(', ')', '[', ']', '\x7b', '\x7d'].contains c

/-- Reads a character with some brackets open, the innermost first. A closing bracket has to answer
the innermost. -/
def bracket? (stack : List Char) (c : Char) : Option (List Char) :=
  if ['(', '[', '\x7b'].contains c then some (c :: stack)
  else
    match partner? c, stack with
    | none, _ => some stack
    | some start, innermost :: outer => if innermost = start then some outer else none
    | some _, [] => none

/-- The brackets open after a text, if those it closes were open. -/
def opened? (stack : List Char) (text : List Char) : Option (List Char) :=
  text.foldlM bracket? stack

variable {stack : List Char}

@[simp]
theorem opened?_nil : opened? stack [] = some stack := rfl

@[simp]
theorem opened?_cons (c : Char) (text : List Char) :
    opened? stack (c :: text) = (bracket? stack c).bind (opened? · text) :=
  List.foldlM_cons

theorem opened?_append (first second : List Char) :
    opened? stack (first ++ second) = (opened? stack first).bind (opened? · second) :=
  List.foldlM_append

theorem bracket?_of_isBracket_eq_false {c : Char} (h : isBracket c = false) :
    bracket? stack c = some stack := by
  have hopening : ['(', '[', '\x7b'].contains c = false := by simp_all [isBracket]
  have hclosing : partner? c = none := by
    rw [partner?.eq_def]
    split <;> simp_all [isBracket]
  simp only [bracket?, hopening, hclosing]
  rfl

/-- Only brackets count. -/
theorem opened?_filter_isBracket (text : List Char) :
    opened? stack (text.filter isBracket) = opened? stack text := by
  induction text generalizing stack with
  | nil => rfl
  | cons c rest ih =>
      cases hc : isBracket c with
      | true => simp [hc, ih]
      | false => simp [hc, ih, bracket?_of_isBracket_eq_false hc]

/-! ### Texts that leave the open brackets as they are -/

def BracketFree (text : String) : Prop := ∀ c ∈ text.toList, isBracket c = false

instance (text : String) : Decidable (BracketFree text) :=
  decidable_of_iff (text.toList.any isBracket = false) (by simp [BracketFree])

def Nested (text : String) : Prop := ∀ stack, opened? stack text.toList = some stack

theorem BracketFree.filter_eq_nil {text : String} (h : BracketFree text) :
    text.toList.filter isBracket = [] :=
  List.filter_eq_nil_iff.mpr (by simpa [BracketFree] using h)

theorem BracketFree.nested {text : String} (h : BracketFree text) : Nested text := by
  intro stack
  rw [← opened?_filter_isBracket, h.filter_eq_nil, opened?_nil]

/-- A text between a bracket and its partner. -/
theorem Nested.enclosed {text start stop : String} (h : Nested text)
    (henclosed : ∀ stack, ∃ inner, opened? stack start.toList = some inner ∧
      opened? inner stop.toList = some stack) :
    Nested (start ++ text ++ stop) := by
  intro stack
  obtain ⟨inner, hstart, hstop⟩ := henclosed stack
  simp [opened?_append, hstart, h inner, hstop]

theorem codeLaw_nested : CodeLaw Nested where
  plain h := BracketFree.nested fun c hc => by
    have hplain := List.all_eq_true.mp h c hc
    simp_all [isPlain, isBracket]
  append h₁ h₂ stack := by simp [opened?_append, h₁ stack, h₂ stack]
  cancel h₁ h stack := by simpa [opened?_append, h₁ stack] using h stack
  group h := h.enclosed fun stack => ⟨'(' :: stack, rfl, rfl⟩
  index h := h.enclosed fun stack => ⟨'[' :: stack, rfl, rfl⟩
  braces h := h.enclosed fun stack => ⟨'\x7b' :: stack, rfl, rfl⟩

/-- Names and strings without brackets. -/
def Leaf.BracketFree : Leaf → Prop
  | .name text | .constant (.str text) | .note (.str text) => Snippet.BracketFree text
  | _ => True

theorem bracketFree_of_forall_mem {text : String} {chars : List Char}
    (h : ∀ c ∈ text.toList, c ∈ chars) (hchars : chars.any isBracket = false) :
    BracketFree text := fun c hc => by simpa using List.any_eq_false.mp hchars c (h c hc)

theorem isBracket_of_isUpper {c : Char} (h : c.isUpper = true) : isBracket c = false :=
  contains_eq_false_of_isUpper (by decide) h

theorem Dialect.spellsName_nested (dialect : Dialect) {name : String} (h : BracketFree name) :
    dialect.SpellsName Nested name :=
  ⟨h.nested, BracketFree.nested <| forall_mem_styledName (by decide) (fun _ => isBracket_of_isUpper)
    dialect h⟩

theorem bracketFree_int (value : Int) : BracketFree (toString value) :=
  bracketFree_of_forall_mem (mem_int value) (by decide)

theorem bracketFree_double (value : Number.Double) : BracketFree (value.text .code) :=
  bracketFree_of_forall_mem (mem_double value) (by decide)

theorem Dialect.nested_constant (dialect : Dialect) {value : Constant}
    (h : (Leaf.constant value).BracketFree) (asType : Bool) :
    Nested (dialect.constant value asType) := by
  refine BracketFree.nested ?_
  cases value with
  | nothing =>
      rcases dialect with _ | ⟨_ | _⟩ <;> cases asType <;> decide
  | bool value =>
      show Snippet.BracketFree (if value then "true" else "false")
      cases value <;> decide
  | int value => exact bracketFree_int _
  | float value => exact bracketFree_double value
  | str text =>
      have hescape : escapeCharacters.any isBracket = false := by decide
      exact forall_mem_jsonString (by simpa using hescape) h

theorem Constant.bracketFree_plainText {value : Constant} (h : (Leaf.note value).BracketFree) :
    BracketFree value.plainText := by
  cases value with
  | nothing => decide
  | bool value => cases value <;> decide
  | int value => exact bracketFree_int _
  | float value => exact bracketFree_double value
  | str text => exact h

theorem Leaf.BracketFree.fits {leaf : Leaf} (h : leaf.BracketFree) (dialect : Dialect) :
    leaf.Fits dialect Nested Snippet.BracketFree := by
  cases leaf with
  | name ident => exact dialect.spellsName_nested h
  | constant value => exact dialect.nested_constant h
  | note value =>
      have hplain := Constant.bracketFree_plainText h
      refine ⟨fun line hline c hc => hplain c (mem_of_mem_cleanDoc hline c hc), ?_⟩
      intro line hline c hc
      exact hplain c (mem_of_mem_documentation c (mem_of_mem_cleanDoc hline c hc))
  | operator op =>
      have hspelling : dialect.operator (.binary op) = (Operator.binary op).curlySpelling :=
        dialect.operator_eq_curlySpelling (by simp) (by simp)
      refine ⟨BracketFree.nested ?_, BracketFree.nested ?_⟩
      all_goals rw [hspelling]; cases op <;> decide

/-! ### Pieces -/

theorem BracketFree.append {first second : String} (h₁ : BracketFree first)
    (h₂ : BracketFree second) : BracketFree (first ++ second) := by
  intro c hc
  rw [String.toList_append, List.mem_append] at hc
  exact hc.elim (h₁ c) (h₂ c)

theorem kept_map_line {texts : List String} (h : ∀ text ∈ texts, BracketFree text) :
    kept isBracket (texts.map Step.line) = [] := by
  induction texts with
  | nil => rfl
  | cons text rest ih =>
      obtain ⟨htext, hrest⟩ := List.forall_mem_cons.mp h
      rw [List.map_cons, Step.line, kept_code, htext.filter_eq_nil, ih hrest]
      rfl

theorem kept_comment {lines : List String} (h : ∀ line ∈ lines, BracketFree line) :
    kept isBracket (Dialect.comment lines) = [] := by
  match lines, h with
  | [], _ => rfl
  | [line], h =>
      have hline : BracketFree (Dialect.lineComment line) :=
        .append (by decide) (h line List.mem_cons_self)
      exact kept_map_line (List.forall_mem_singleton.mpr hline)
  | first :: second :: rest, h =>
      have hlast : kept isBracket [Step.line "*/"] = [] := rfl
      show kept isBracket (Step.line "/*" :: ((first :: second :: rest).map Step.line ++ _)) = []
      rw [Step.line, kept_code, kept_append, kept_map_line h, hlast]
      rfl

theorem kept_docComment {lines : List String} (h : ∀ line ∈ lines, BracketFree line) :
    kept isBracket (Dialect.docComment lines) = [] := by
  have hlines : ∀ text ∈ lines.map Dialect.docLine, BracketFree text := by
    intro text htext
    obtain ⟨line, hline, rfl⟩ := List.mem_map.mp htext
    rw [Dialect.docLine]
    split
    · decide
    · exact .append (by decide) (h line hline)
  have hlast : kept isBracket [Step.line " */"] = [] := rfl
  have hmap : (lines.map fun line => Step.line (Dialect.docLine line)) =
      (lines.map Dialect.docLine).map Step.line := by simp
  rw [Dialect.docComment, Step.line, kept_code, kept_append, hmap, kept_map_line hlines, hlast]
  rfl

/-- The braces open at a depth. -/
def braces (depth : Nat) : List Char := List.replicate depth '\x7b'

theorem opened?_closer {closer : String} (h : closer = "\x7d" ∨ closer = "\x7d;") (depth : Nat) :
    opened? (braces (depth + 1)) closer.toList = some (braces depth) := by
  rcases h with rfl | rfl <;> rfl

theorem Piece.opened?_residue {piece : Piece} {depth next : Nat}
    (hfits : piece.Fits Nested BracketFree) (hdepth : piece.depth? depth = some next) :
    opened? (braces depth) (piece.residue isBracket) = some (braces next) := by
  cases piece with
  | prepare place line =>
      obtain rfl := Option.some.inj hdepth
      rfl
  | indent | dedent =>
      obtain rfl := Option.some.inj hdepth
      rfl
  | code text =>
      obtain rfl := Option.some.inj hdepth
      rw [residue, opened?_filter_isBracket, hfits]
  | remark lines =>
      obtain rfl := Option.some.inj hdepth
      rw [residue, kept_comment hfits, opened?_nil]
  | documentation lines =>
      obtain rfl := Option.some.inj hdepth
      rw [residue, kept_docComment hfits, opened?_nil]
  | opening header =>
      obtain rfl := Option.some.inj hdepth
      rw [residue, opened?_append, opened?_filter_isBracket, hfits]
      rfl
  | middle header =>
      obtain ⟨hopen, hsome⟩ := Option.ite_none_left_eq_some.mp hdepth
      obtain rfl := Option.some.inj hsome
      obtain ⟨outer, rfl⟩ := Nat.exists_eq_succ_of_ne_zero hopen
      have hclosed : bracket? (braces (outer + 1)) '\x7d' = some (braces outer) := rfl
      rw [residue, opened?_cons, hclosed, Option.bind_some, opened?_append,
        opened?_filter_isBracket, hfits]
      rfl
  | closing closer =>
      obtain ⟨hopen, hsome⟩ := Option.ite_none_left_eq_some.mp hdepth
      obtain rfl := Option.some.inj hsome
      obtain ⟨outer, rfl⟩ := Nat.exists_eq_succ_of_ne_zero hopen
      rw [residue, opened?_filter_isBracket]
      exact opened?_closer hfits outer

/-! ### Where lines are prepared for -/

/-- The lines of the snippet that a script prepares for, with what is written of the output by
then. -/
def Layout.Page.prepared (unit : IndentUnit) (spell : String → String) (written : String) :
    Page → List Step → List (UInt64 × String)
  | _, [] => []
  | page, first :: rest =>
    let (lines, next) := page.step unit first
    let later := prepared unit spell (written ++ textOf unit spell lines) next rest
    match first with
    | .prepare line => (line, written) :: later
    | _ => later

namespace Layout.Page

variable {unit : IndentUnit} {spell : String → String} {written : String} {page : Page}

theorem prepared_append (first second : List Step) :
    page.prepared unit spell written (first ++ second) =
      page.prepared unit spell written first ++
        (page.play unit first).2.prepared unit spell
          (written ++ textOf unit spell (page.play unit first).1) second := by
  induction first generalizing page written with
  | nil => simp [prepared, play, textOf]
  | cons step rest ih =>
      cases step <;> simp [prepared, play, ih, textOf_append, String.append_assoc]

/-- What is written when a line is prepared for stands at the start of the output. -/
theorem prefix_of_mem_prepared {steps : List Step} {line : UInt64} {before : String}
    (h : (line, before) ∈ page.prepared unit spell written steps) :
    before.toList <+: (written ++ textOf unit spell (page.play unit steps).1).toList := by
  induction steps generalizing page written with
  | nil => cases h
  | cons step rest ih =>
      have hlater : ∀ later ∈ (page.step unit step).2.prepared unit spell
          (written ++ textOf unit spell (page.step unit step).1) rest,
          later = (line, before) →
          before.toList <+:
            (written ++ textOf unit spell (page.play unit (step :: rest)).1).toList := by
        rintro _ hmem rfl
        simpa [play, textOf_append, String.append_assoc] using ih hmem
      cases step with
      | prepare start =>
          rcases List.mem_cons.mp h with heq | hrest
          · obtain ⟨-, rfl⟩ := Prod.mk.inj heq
            rw [String.toList_append]
            exact List.prefix_append _ _
          · exact hlater _ hrest rfl
      | _ => exact hlater _ h rfl

theorem prepared_eq_nil {steps : List Step} (h : ∀ step ∈ steps, ∀ line, step ≠ .prepare line) :
    page.prepared unit spell written steps = [] := by
  induction steps generalizing page written with
  | nil => rfl
  | cons step rest ih =>
      obtain ⟨hstep, hrest⟩ := List.forall_mem_cons.mp h
      cases step with
      | prepare line => exact absurd rfl (hstep line)
      | _ => exact ih hrest

end Layout.Page

/-- Where a line is prepared for, with the number of braces open there. -/
structure Start where
  place : Place
  line : UInt64
  depth : Nat
deriving DecidableEq

def Landmark.start? : Landmark → Option Start
  | start place line depth => some ⟨place, line, depth⟩
  | _ => none

theorem ne_prepare_of_mem_comment {lines : List String} {step : Step}
    (h : step ∈ Dialect.comment lines) (line : UInt64) : step ≠ .prepare line := by
  rintro rfl
  rw [Dialect.comment.eq_def] at h
  split at h <;> simp [Step.line] at h

theorem ne_prepare_of_mem_docComment {lines : List String} {step : Step}
    (h : step ∈ Dialect.docComment lines) (line : UInt64) : step ≠ .prepare line := by
  rintro rfl
  simp [Dialect.docComment, Step.line] at h

section Starts

variable {unit : IndentUnit} {spell : String → String} {written : String} {page : Page}
  {style : BraceStyle}

/-- A piece prepares for at most one line, before it writes anything. -/
theorem Piece.prepared_steps (piece : Piece) (depth : Nat) :
    page.prepared unit spell written (piece.steps style) =
      ((piece.landmarks depth).filterMap Landmark.start?).map
        fun start => (start.line, written) := by
  cases piece with
  | prepare place line => rfl
  | remark lines => exact Page.prepared_eq_nil fun _ => ne_prepare_of_mem_comment
  | documentation lines => exact Page.prepared_eq_nil fun _ => ne_prepare_of_mem_docComment
  | opening header | middle header | closing closer => cases style <;> rfl
  | code text | indent | dedent => rfl

/-- The braces open where the pieces prepare for lines are as many as the landmarks say. -/
theorem Traced.opened?_prepared (hunit : isBracket unit.character = false) {pieces : List Piece}
    {depth last : Nat} {landmarks : List Landmark} (h : Traced depth pieces last landmarks)
    (hfits : ∀ piece ∈ pieces, piece.Fits Nested BracketFree) (hrest : page.cursor.rest = [])
    (hwritten : opened? [] written.toList = some (braces depth)) :
    (page.prepared unit spell written (pieces.flatMap (Piece.steps style))).map
        (fun start => (start.1, opened? [] start.2.toList)) =
      (landmarks.filterMap Landmark.start?).map
        (fun start => (start.line, some (braces start.depth))) := by
  induction h generalizing page written with
  | nil depth => rfl
  | @cons depth next last piece pieces landmarks hnext _ ih =>
      obtain ⟨hpiece, hothers⟩ := List.forall_mem_cons.mp hfits
      have hpassed : opened? []
          (written ++ textOf unit spell (page.play unit (piece.steps style)).1).toList =
            some (braces next) := by
        rw [String.toList_append, opened?_append, hwritten, Option.bind_some,
          ← opened?_filter_isBracket, Page.filter_textOf_play hunit (by decide) hrest,
          piece.kept_steps (by decide) (by decide) (by decide)]
        exact piece.opened?_residue hpiece hnext
      have hstart : ((piece.landmarks depth).filterMap Landmark.start?).map
            (fun start => (start.line, opened? [] written.toList)) =
          ((piece.landmarks depth).filterMap Landmark.start?).map
            (fun start => (start.line, some (braces start.depth))) := by
        rw [hwritten]
        cases piece <;> rfl
      rw [List.flatMap_cons, Page.prepared_append, List.map_append, List.filterMap_append,
        List.map_append, ih hothers (Page.rest_play hrest _) hpassed, ← hstart,
        piece.prepared_steps depth, List.map_map]
      rfl

end Starts

theorem Traced.opened?_residue {pieces : List Piece} {depth last : Nat} {landmarks : List Landmark}
    (h : Traced depth pieces last landmarks)
    (hfits : ∀ piece ∈ pieces, piece.Fits Nested BracketFree) :
    opened? (braces depth) (pieces.flatMap (Piece.residue isBracket)) = some (braces last) := by
  induction h with
  | nil depth => rfl
  | @cons depth next last piece pieces landmarks hnext _ ih =>
      obtain ⟨hpiece, hothers⟩ := List.forall_mem_cons.mp hfits
      rw [List.flatMap_cons, opened?_append, piece.opened?_residue hpiece hnext, Option.bind_some,
        ih hothers]

/-! ### Renderings -/

/-- The lines that are prepared for as a program is rendered, with the number of braces that the
tree has around each. A branch after the first of its chain is prepared for inside the branch before
it. -/
def Program.starts (program : Program) : List Start :=
  program.landmarks.filterMap Landmark.start?

/-- The lines that are prepared for as a program is rendered without comments, with what is written
of the output by then. -/
def Program.prepared (target : Target) (unit : IndentUnit) (program : Program) :
    List (UInt64 × String) :=
  (Page.ofRecords []).prepared unit target.lineComment "" (program.script target .outermost).steps

/-- **Brackets nest, and braces follow the tree.** In a rendering of names and strings without
brackets, indented by other characters, every bracket is closed by its partner, and where a
statement starts, just the braces of the blocks around it are open. -/
theorem render_nested (dialect : Dialect) (style : BraceStyle) (unit : IndentUnit)
    (program : Program) (rendering : Rendering) (hunit : isBracket unit.character = false)
    (hleaves : ∀ leaf ∈ program.leaves, leaf.BracketFree)
    (h : program.render (.curly dialect style) unit [] = .ok rendering) :
    opened? [] rendering.text.toList = some [] ∧
      (program.prepared (.curly dialect style) unit).map
          (fun start => (start.1, opened? [] start.2.toList)) =
        program.starts.map (fun start => (start.line, some (braces start.depth))) ∧
      ∀ start ∈ program.prepared (.curly dialect style) unit,
        start.2.toList <+: rendering.text.toList := by
  have hfit : ∀ leaf ∈ program.leaves, leaf.Fits dialect Nested BracketFree := fun leaf hleaf =>
    (hleaves leaf hleaf).fits dialect
  rcases program.exists_outline codeLaw_nested hfit with
    ⟨inside, pieces, heq, hfits, htraced⟩ | ⟨node, hrejected⟩
  · obtain ⟨outlined, hrender, htext⟩ := Program.render_quiet (heq style)
    obtain rfl := Except.ok.inj (hrender.symm.trans h)
    refine ⟨?_, ?_, ?_⟩
    · rw [htext, ← opened?_filter_isBracket, Page.filter_textOf_play hunit (by decide) rfl,
        kept_flatMap_steps (by decide) (by decide) (by decide)]
      exact htraced.opened?_residue hfits
    · rw [Program.prepared, heq]
      exact htraced.opened?_prepared hunit hfits rfl rfl
    · rw [Program.prepared, heq, htext]
      intro start hstart
      simpa using Page.prefix_of_mem_prepared hstart
  · rw [Program.render_rejected (hrejected style)] at h
    cases h

/-- A chain in a loop: its branches are on one level. -/
theorem render_nested_chain :
    let program : Program :=
      ⟨[.mk 1 (.whileLoop (.name "a") [.mk 2 (.branch (.name "b") [.mk 3 .breakLoop]
        [.mk 4 (.branch (.call (.name "c") []) [.mk 5 .pass] [.mk 7 .continueLoop])])])]⟩
    (isBracket ' ' = false ∧ ∀ leaf ∈ program.leaves, leaf.BracketFree) ∧
      program.starts =
        [⟨.statement, 1, 0⟩, ⟨.statement, 2, 1⟩, ⟨.statement, 3, 2⟩, ⟨.branch, 4, 2⟩,
          ⟨.statement, 5, 2⟩, ⟨.branch, 7, 2⟩, ⟨.statement, 7, 2⟩] ∧
      ∃ rendering, program.render (.curly .cpp .allman) .standard [] = .ok rendering ∧
        opened? [] rendering.text.toList = some [] ∧
        (program.prepared (.curly .cpp .allman) .standard).map
            (fun start => (start.1, opened? [] start.2.toList)) =
          program.starts.map (fun start => (start.line, some (braces start.depth))) := by
  intro program
  have hspace : isBracket ' ' = false := by decide
  have hleaves : ∀ leaf ∈ program.leaves, leaf.BracketFree := by
    have hnames : program.leaves = [.name "a", .name "b", .name "c"] := rfl
    have hfree : BracketFree "a" ∧ BracketFree "b" ∧ BracketFree "c" := by decide
    simpa [hnames, Leaf.BracketFree] using hfree
  obtain ⟨hnested, hprepared, -⟩ :=
    render_nested .cpp .allman .standard program _ hspace hleaves rfl
  exact ⟨⟨hspace, hleaves⟩, rfl, _, rfl, hnested, hprepared⟩

end Snippet
