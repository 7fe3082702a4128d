import Snippet.Proofs.Lexing
import Snippet.Proofs.Outline.Quiet

/-!
# Comments and code stay apart

A reader of a rendering finds in comments what was written as a comment: the records of the snippet
and the constants that stand as statements. Between two lines it is in code or in a block comment,
and each line leads from the one to the other as it was written to.
-/

namespace Snippet

open Comment (Record)
open Layout
open Number (Single)
open Render
open Text (cleanDoc isBlank)

/-! ### Marked characters -/

/-- The marked characters that are not white space. -/
def inkedMarks (marks : List (Char × Bool)) : List (Char × Bool) :=
  marks.filter fun mark => !isBlank mark.1

@[simp]
theorem inkedMarks_append (first second : List (Char × Bool)) :
    inkedMarks (first ++ second) = inkedMarks first ++ inkedMarks second :=
  List.filter_append _ _

/-- The characters after the code of a line, with a comment if there is one. -/
def tailMarks : Option String → List (Char × Bool)
  | none => [('\n', false)]
  | some text => (" " ++ Dialect.lineComment text).toList.map (·, true) ++ [('\n', false)]

/-- The characters of a line, each with whether it is written as a comment. The code of a line is
when a constant becomes it. -/
def Layout.Line.marks (unit : IndentUnit) (inComment : Bool) : Line → List (Char × Bool)
  | blank => [('\n', false)]
  | comment indent text =>
    (indented unit indent (Dialect.lineComment text)).toList.map (·, true) ++ [('\n', false)]
  | code indent text tail => (indented unit indent text).toList.map (·, inComment) ++ tailMarks tail

def Piece.isComment : Piece → Bool
  | remark _ | documentation _ => true
  | _ => false

/-- The characters of an output, each with whether it is written as a comment. -/
def Layout.Page.marks (unit : IndentUnit) (style : BraceStyle) :
    Page → List Piece → List (Char × Bool)
  | page, [] => (page.finish unit).1.flatMap (Line.marks unit false)
  | page, piece :: rest =>
    let (lines, next) := page.play unit (piece.steps style)
    lines.flatMap (Line.marks unit piece.isComment) ++ next.marks unit style rest

/-! ### Reading from one line to another -/

/-- A text leads a reader from one mode to another and has these marks, apart from white space. -/
structure Reads (dialect : Dialect) (mode : LexMode) (text : List Char) (next : LexMode)
    (marks : List (Char × Bool)) : Prop where
  unspliced : dialect = .cpp → Unspliced text
  last : (mode.readAll text).1 = next
  settled : inkedMarks (mode.readAll text).2 = inkedMarks marks

section Reads

variable {dialect : Dialect} {mode middle next : LexMode} {first second text : List Char}
  {marks before after : List (Char × Bool)} {inComment : Bool}

theorem Reads.append (h₁ : Reads dialect mode first middle before)
    (h₂ : Reads dialect middle second next after) :
    Reads dialect mode (first ++ second) next (before ++ after) where
  unspliced hcpp := (h₁.unspliced hcpp).append (h₂.unspliced hcpp)
  last := by rw [LexMode.readAll_append, h₁.last, h₂.last]
  settled := by
    rw [LexMode.readAll_append, h₁.last, inkedMarks_append, h₁.settled, h₂.settled,
      inkedMarks_append]

theorem LexMode.Keeps.reads (h : mode.Keeps inComment text)
    (hunspliced : dialect = .cpp → Unspliced text) :
    Reads dialect mode text mode (text.map (·, inComment)) where
  unspliced := hunspliced
  last := congrArg Prod.fst h
  settled := congrArg (fun read => inkedMarks read.2) h

theorem Reads.nil (mode : LexMode) : Reads dialect mode [] mode [] := ⟨fun _ _ => rfl, rfl, rfl⟩

/-- Where a line starts. -/
def LexMode.StartsLine (mode : LexMode) : Prop := mode = .code ∨ mode = .block

theorem LexMode.StartsLine.read_blank (h : mode.StartsLine) {c : Char} (hc : isBlank c = true) :
    ∃ mark, mode.read c = (mode, [(c, mark)]) := by
  have hslash : c ≠ '/' := by
    rintro rfl
    exact absurd hc (by decide)
  have hquote : c ≠ '"' := by
    rintro rfl
    exact absurd hc (by decide)
  have hstar : c ≠ '*' := by
    rintro rfl
    exact absurd hc (by decide)
  rcases h with rfl | rfl
  · refine ⟨false, ?_⟩
    rw [read.eq_def]
    split <;> simp_all
  · refine ⟨true, ?_⟩
    rw [read.eq_def]
    split <;> simp_all

/-- White space leaves no marks and stays in code or in a block comment. -/
theorem LexMode.StartsLine.reads_blank (h : mode.StartsLine)
    (hblank : text.all isBlank = true) :
    Reads dialect mode text mode (text.map (·, inComment)) := by
  induction text with
  | nil => exact .nil mode
  | cons c rest ih =>
      obtain ⟨hc, hrest⟩ := (Bool.and_eq_true _ _).mp hblank
      obtain ⟨mark, hread⟩ := h.read_blank hc
      have hbackslash : '\\' ∉ [c] := by
        rintro hmem
        obtain rfl := List.mem_singleton.mp hmem
        exact absurd hc (by decide)
      have hfirst : Reads dialect mode [c] mode [(c, inComment)] :=
        { unspliced := fun _ => unspliced_of_backslash_not_mem hbackslash
          last := by simp [LexMode.readAll, hread]
          settled := by simp [LexMode.readAll, hread, inkedMarks, hc] }
      exact hfirst.append (ih hrest)

/-- What stands on one line of a comment. -/
structure Dialect.CommentLine (dialect : Dialect) (text : String) : Prop
    extends dialect.Comments text where
  newline : '\n' ∉ text.toList

theorem Dialect.CommentLine.unspliced_toList {line : String} (h : dialect.CommentLine line)
    (hcpp : dialect = .cpp) : Unspliced line.toList :=
  unspliced_of_newline_not_mem h.newline (h.unspliced hcpp)

/-- A comment after two slashes is a line of a comment too. -/
theorem Dialect.CommentLine.lineComment {line : String} (h : dialect.CommentLine line) :
    dialect.CommentLine (Dialect.lineComment line) where
  unclosed hinfix := by
    have hinner : ['*', '/'] <:+: line.toList := by
      simpa [Dialect.lineComment, List.infix_cons_iff] using hinfix
    exact h.unclosed hinner
  unspliced hcpp := by
    have hlast := h.unspliced hcpp
    cases hline : line.toList <;> simp_all [Dialect.lineComment]
  newline := by simpa [Dialect.lineComment] using h.newline

theorem Reads.lineComment {line : String} (h : dialect.CommentLine line) :
    Reads dialect .code (Dialect.lineComment line).toList .line
      ((Dialect.lineComment line).toList.map (·, true)) := by
  have hopen : Reads dialect .code ['/', '/'] .line [('/', true), ('/', true)] :=
    ⟨fun _ => unspliced_of_backslash_not_mem (by decide), rfl, rfl⟩
  have hspace : Unspliced [' '] := unspliced_of_backslash_not_mem (by decide)
  have hline : LexMode.line.Keeps true (' ' :: line.toList) :=
    LexMode.keeps_line (by simpa using h.newline)
  have hboth := hopen.append (hline.reads fun hcpp => hspace.append (h.unspliced_toList hcpp))
  simpa [Dialect.lineComment] using hboth

theorem Reads.newline (h : mode.StartsLine) : Reads dialect mode ['\n'] mode [('\n', false)] :=
  h.reads_blank (by decide)

/-- The end of a line ends the comment after two slashes. -/
theorem Reads.lineEnd : Reads dialect .line ['\n'] .code [('\n', false)] :=
  ⟨fun _ => unspliced_of_backslash_not_mem (by decide), rfl, rfl⟩

/-- A line of a block comment, up to a blank after it. -/
theorem Reads.blockLine {line : String} (h : dialect.CommentLine line) {c : Char}
    (hc : c = ' ' ∨ c = '\n') :
    Reads dialect .block (line.toList ++ [c]) .block
      (line.toList.map (·, true) ++ [(c, inComment)]) := by
  have hkeeps : LexMode.block.Keeps true (line.toList ++ [c]) := by
    rcases hc with rfl | rfl <;> exact LexMode.keeps_block h.unclosed (by decide) (by decide)
  have hblank : isBlank c = true := by rcases hc with rfl | rfl <;> decide
  have hunspliced : Unspliced [c] := by
    rcases hc with rfl | rfl <;> exact unspliced_of_backslash_not_mem (by decide)
  have hread : Reads dialect .block (line.toList ++ [c]) .block _ :=
    hkeeps.reads fun hcpp => (h.unspliced_toList hcpp).append hunspliced
  exact ⟨hread.unspliced, hread.last, by rw [hread.settled]; simp [inkedMarks, hblank]⟩

/-- What follows the code of a line. -/
def tailText : Option String → List Char
  | none => ['\n']
  | some text => (" " ++ Dialect.lineComment text).toList ++ ['\n']

variable {tail : Option String}

theorem Reads.tail_code (h : ∀ text ∈ tail, dialect.CommentLine text) :
    Reads dialect .code (tailText tail) .code (tailMarks tail) := by
  cases tail with
  | none => exact .newline (.inl rfl)
  | some text =>
      have hspace : Reads dialect .code [' '] .code [(' ', true)] :=
        LexMode.StartsLine.reads_blank (.inl rfl) (by decide)
      have hcomment := hspace.append (.lineComment (h text rfl))
      simpa [tailText, tailMarks] using hcomment.append .lineEnd

theorem Reads.tail_line (h : ∀ text ∈ tail, dialect.CommentLine text) :
    Reads dialect .line (tailText tail) .code (tailMarks tail) := by
  cases tail with
  | none => exact .lineEnd
  | some text =>
      have hcomment := (h text rfl).lineComment
      have hspace : Unspliced [' '] := unspliced_of_backslash_not_mem (by decide)
      have hkeeps : LexMode.line.Keeps true (' ' :: (Dialect.lineComment text).toList) :=
        LexMode.keeps_line (by simpa using hcomment.newline)
      have hread := hkeeps.reads fun hcpp => hspace.append (hcomment.unspliced_toList hcpp)
      simpa [tailText, tailMarks] using hread.append .lineEnd

theorem Reads.tail_block {line : String} (hline : dialect.CommentLine line)
    (h : ∀ text ∈ tail, dialect.CommentLine text) :
    Reads dialect .block (line.toList ++ tailText tail) .block
      (line.toList.map (·, true) ++ tailMarks tail) := by
  cases tail with
  | none => exact .blockLine hline (.inr rfl)
  | some text =>
      have hfirst : Reads dialect .block (line.toList ++ [' ']) .block
          (line.toList.map (·, true) ++ [(' ', true)]) := .blockLine hline (.inl rfl)
      have hsecond : Reads dialect .block ((Dialect.lineComment text).toList ++ ['\n']) .block
          ((Dialect.lineComment text).toList.map (·, true) ++ [('\n', false)]) :=
        .blockLine (h text rfl).lineComment (.inr rfl)
      simpa [tailText, tailMarks] using hfirst.append hsecond

end Reads

/-! ### Lines -/

/-- A line of this text leads from one mode to another, whether a comment follows on it or not. -/
def LineReads (dialect : Dialect) (mode : LexMode) (text : String) (next : LexMode)
    (inComment : Bool) : Prop :=
  ∀ tail : Option String, (∀ remark ∈ tail, dialect.CommentLine remark) →
    Reads dialect mode (text.toList ++ tailText tail) next
      (text.toList.map (·, inComment) ++ tailMarks tail)

namespace LineReads

variable {dialect : Dialect} {text line : String}

theorem code (h : StaysCode text) : LineReads dialect .code text .code false := fun _ htail =>
  (h.keeps.reads fun _ => h.unspliced).append (.tail_code htail)

theorem remark (h : dialect.CommentLine line) :
    LineReads dialect .code (Dialect.lineComment line) .code true := fun _ htail =>
  (Reads.lineComment h).append (.tail_line htail)

theorem empty : LineReads dialect .code "" .code true := fun _ htail => .tail_code htail

theorem inside (h : dialect.CommentLine line) : LineReads dialect .block line .block true :=
  fun _ htail => .tail_block h htail

/-- The line that opens a comment, with one more asterisk when the comment is documentation. -/
theorem opens (h : line = "" ∨ line = "*") :
    LineReads dialect .code ("/*" ++ line) .block true := fun tail htail => by
  have hopen : Reads dialect .code ['/', '*'] .block [('/', true), ('*', true)] :=
    ⟨fun _ => unspliced_of_backslash_not_mem (by decide), rfl, rfl⟩
  have hline : dialect.CommentLine line := by
    rcases h with rfl | rfl
    · exact { unclosed := by decide, unspliced := fun _ => by decide, newline := by decide }
    · exact { unclosed := by decide, unspliced := fun _ => by decide, newline := by decide }
  simpa using hopen.append (.tail_block hline htail)

theorem closes (h : line = "*/" ∨ line = " */") : LineReads dialect .block line .code true :=
  fun tail htail => by
    have hclose : Reads dialect .block line.toList .code (line.toList.map (·, true)) := by
      rcases h with rfl | rfl
      · exact ⟨fun _ => unspliced_of_backslash_not_mem (by decide), rfl, rfl⟩
      · exact ⟨fun _ => unspliced_of_backslash_not_mem (by decide), rfl, rfl⟩
    exact hclose.append (.tail_code htail)

end LineReads

section Lines

variable {dialect : Dialect} {unit : IndentUnit} {mode next : LexMode} {inComment : Bool}
  {text : String}

theorem exists_indentation (hunit : isBlank unit.character = true) (indent : Nat) (text : String) :
    ∃ blank : List Char, blank.all isBlank = true ∧
      (Line.indented unit indent text).toList = blank ++ text.toList := by
  rw [Line.indented]
  split
  · next hempty => exact ⟨[], rfl, by simp [hempty]⟩
  · exact ⟨List.replicate indent unit.character, by simp [hunit],
      by simp [IndentUnit.indentation]⟩

theorem Layout.Line.reads_code (hunit : isBlank unit.character = true) (hmode : mode.StartsLine)
    (h : LineReads dialect mode text next inComment) (indent : Nat) {tail : Option String}
    (htail : ∀ remark ∈ tail, dialect.CommentLine remark) :
    Reads dialect mode ((Line.code indent text tail).text unit Dialect.lineComment).toList next
      ((Line.code indent text tail).marks unit inComment) := by
  obtain ⟨blank, hblank, hindented⟩ := exists_indentation hunit indent text
  have hstart : Reads dialect mode blank mode (blank.map (·, inComment)) := hmode.reads_blank hblank
  have hread := hstart.append (h tail htail)
  cases tail <;> simpa [Line.text, Line.marks, hindented, tailText] using hread

theorem Layout.Line.reads_comment (hunit : isBlank unit.character = true) (hmode : mode.StartsLine)
    (h : dialect.CommentLine text) (indent : Nat) :
    Reads dialect mode ((Line.comment indent text).text unit Dialect.lineComment).toList mode
      ((Line.comment indent text).marks unit inComment) := by
  have hline : LineReads dialect mode (Dialect.lineComment text) mode true := by
    rcases hmode with rfl | rfl
    · exact .remark h
    · exact .inside h.lineComment
  have hnone : ∀ remark ∈ (none : Option String), dialect.CommentLine remark := by simp
  simpa [Line.text, Line.marks, tailMarks] using Line.reads_code hunit hmode hline indent hnone

/-! ### Pages -/

/-- What is left to replay stands on lines of comments. -/
def RemarksFit (dialect : Dialect) (records : List Record) : Prop :=
  ∀ record ∈ records, ∀ text, record.remark.text? = some text → dialect.CommentLine text

/-- Lines lead from one mode to another. -/
def LinesRead (dialect : Dialect) (unit : IndentUnit) (mode : LexMode) (lines : List Line)
    (next : LexMode) (inComment : Bool) : Prop :=
  Reads dialect mode (textOf unit Dialect.lineComment lines).toList next
    (lines.flatMap (Line.marks unit inComment))

theorem LinesRead.append {middle : LexMode} {first second : List Line}
    (h₁ : LinesRead dialect unit mode first middle inComment)
    (h₂ : LinesRead dialect unit middle second next inComment) :
    LinesRead dialect unit mode (first ++ second) next inComment := by
  rw [LinesRead, textOf_append, String.toList_append, List.flatMap_append]
  exact Reads.append h₁ h₂

theorem LinesRead.singleton {line : Line}
    (h : Reads dialect mode (line.text unit Dialect.lineComment).toList next
      (line.marks unit inComment)) :
    LinesRead dialect unit mode [line] next inComment := by
  rw [LinesRead, textOf_singleton]
  simpa using h

theorem LinesRead.nil (mode : LexMode) : LinesRead dialect unit mode [] mode inComment :=
  Reads.nil mode

theorem LinesRead.cons {middle : LexMode} {line : Line} {rest : List Line}
    (h₁ : Reads dialect mode (line.text unit Dialect.lineComment).toList middle
      (line.marks unit inComment))
    (h₂ : LinesRead dialect unit middle rest next inComment) :
    LinesRead dialect unit mode (line :: rest) next inComment :=
  (LinesRead.singleton h₁).append h₂

/-- Records replayed on lines of their own. -/
theorem linesRead_replayed (hunit : isBlank unit.character = true) (hmode : mode.StartsLine)
    (indent : Nat) {records : List Record} (h : RemarksFit dialect records) :
    LinesRead dialect unit mode (records.map fun record => replayed indent record.remark.text?) mode
      inComment := by
  induction records with
  | nil => exact .nil mode
  | cons record rest ih =>
      obtain ⟨hrecord, hrest⟩ := List.forall_mem_cons.mp h
      refine .cons ?_ (ih hrest)
      dsimp only
      cases htext : record.remark.text? with
      | none =>
          have hblank : Reads dialect mode ['\n'] mode [('\n', false)] := .newline hmode
          simpa [replayed, Line.text, Line.marks] using hblank
      | some text => exact Line.reads_comment hunit hmode (hrecord text htext) indent

theorem linesRead_leftover (hunit : isBlank unit.character = true) (indent : Nat)
    {records : List Record} (h : RemarksFit dialect records) :
    LinesRead dialect unit .code (leftover indent 0 records) .code inComment := by
  obtain ⟨kept, trailing, hsplit, -, hleft⟩ := exists_leftover indent [] records (by simp)
  have hkept : RemarksFit dialect (kept.filter (·.remark ≠ .elseLine)) := fun record hrecord =>
    h record (by rw [← List.nil_append records, hsplit]; simp [List.mem_of_mem_filter hrecord])
  rw [List.countP_nil] at hleft
  rw [hleft]
  exact linesRead_replayed hunit (.inl rfl) indent hkept

theorem Layout.Page.linesRead_write (hunit : isBlank unit.character = true)
    (hmode : mode.StartsLine) (h : LineReads dialect mode text next inComment) {page : Page}
    (hrecords : RemarksFit dialect page.cursor.rest) (comments : Bool) (offset : Single) :
    LinesRead dialect unit mode (page.write unit text comments offset).1 next inComment ∧
      RemarksFit dialect (page.write unit text comments offset).2.cursor.rest := by
  obtain ⟨own, flushed, hsplit, hflush⟩ : ∃ own flushed, page.cursor.rest = own ++ flushed.rest ∧
      (if comments then page.cursor.flush else ([], page.cursor)) =
        (own.map (·.remark.text?), flushed) := by
    split
    · obtain ⟨own, hrest, htexts, -⟩ := page.cursor.exists_flush
      exact ⟨own, page.cursor.flush.2, hrest, Prod.ext htexts rfl⟩
    · exact ⟨[], page.cursor, rfl, rfl⟩
  obtain ⟨marker, hmarker, -⟩ := flushed.exists_takeElse
  obtain ⟨tail, htail, htext, -⟩ := flushed.takeElse.2.exists_takeTail
  rw [hsplit, hmarker, htail] at hrecords
  obtain ⟨hown, hlater⟩ := List.forall_mem_append.mp hrecords
  obtain ⟨-, hlater⟩ := List.forall_mem_append.mp hlater
  obtain ⟨htailFits, hrest⟩ := List.forall_mem_append.mp hlater
  have hremark : ∀ remark ∈ flushed.takeElse.2.takeTail.1, dialect.CommentLine remark := by
    intro remark hremark
    rw [htext] at hremark
    obtain ⟨record, hrecord, htext⟩ := Option.bind_eq_some_iff.mp hremark
    exact htailFits record (by simp [hrecord]) remark htext
  rw [write, hflush]
  refine ⟨?_, hrest⟩
  simp only [List.map_map]
  exact (linesRead_replayed hunit hmode _ hown).append
    (.singleton (Line.reads_code hunit hmode h _ hremark))

end Lines

/-- The lines of some steps lead from one mode to another, each from where a line may start. -/
inductive Crosses (dialect : Dialect) (inComment : Bool) :
    LexMode → List Step → LexMode → Prop where
  | nil (mode : LexMode) : Crosses dialect inComment mode [] mode
  | code {mode next last : LexMode} {text : String} {rest : List Step} (hmode : mode.StartsLine)
      (h : LineReads dialect mode text next inComment) (comments : Bool) (offset : Single)
      (hrest : Crosses dialect inComment next rest last) :
      Crosses dialect inComment mode (.code text comments offset :: rest) last
  | silent {mode last : LexMode} {step : Step} {rest : List Step} (h : step.text? = none)
      (hrest : Crosses dialect inComment mode rest last) :
      Crosses dialect inComment mode (step :: rest) last

namespace Crosses

variable {dialect : Dialect} {inComment : Bool} {mode middle next : LexMode}
  {first second : List Step}

theorem append (h₁ : Crosses dialect inComment mode first middle)
    (h₂ : Crosses dialect inComment middle second next) :
    Crosses dialect inComment mode (first ++ second) next := by
  induction h₁ with
  | nil mode => exact h₂
  | code hmode h comments offset _ ih => exact .code hmode h comments offset (ih h₂)
  | silent h _ ih => exact .silent h (ih h₂)

theorem lines {texts : List String}
    (h : ∀ text ∈ texts, LineReads dialect .block text .block inComment) :
    Crosses dialect inComment .block (texts.map Step.line) .block := by
  induction texts with
  | nil => exact .nil _
  | cons text rest ih =>
      obtain ⟨htext, hrest⟩ := List.forall_mem_cons.mp h
      exact .code (.inr rfl) htext true .zero (ih hrest)

/-- Code on a line. -/
theorem line {text : String} (h : StaysCode text) (comments : Bool) (offset : Single)
    (hrest : Crosses dialect false .code second .code) :
    Crosses dialect false .code (.code text comments offset :: second) .code :=
  .code (.inl rfl) (.code h) comments offset hrest

end Crosses

/-- What steps write leads from one mode to another, and what they leave of the records is fit. -/
theorem Layout.Page.linesRead_play {dialect : Dialect} {unit : IndentUnit}
    (hunit : isBlank unit.character = true) {inComment : Bool} {mode next : LexMode}
    {steps : List Step} (h : Crosses dialect inComment mode steps next) {page : Page}
    (hrecords : RemarksFit dialect page.cursor.rest) :
    LinesRead dialect unit mode (page.play unit steps).1 next inComment ∧
      RemarksFit dialect (page.play unit steps).2.cursor.rest := by
  induction h generalizing page with
  | nil mode => exact ⟨.nil mode, hrecords⟩
  | code hmode h comments offset _ ih =>
      obtain ⟨hwrite, hleft⟩ := linesRead_write hunit hmode h hrecords comments offset
      obtain ⟨hread, hlast⟩ := ih hleft
      exact ⟨hwrite.append hread, hlast⟩
  | @silent mode last step rest h _ ih =>
      have hstep : (page.step unit step).1 = [] ∧
          RemarksFit dialect (page.step unit step).2.cursor.rest := by
        cases step with
        | code text comments offset => cases h
        | skipBlank =>
            obtain ⟨blank, hsplit, -⟩ := page.cursor.exists_skipBlank
            rw [hsplit] at hrecords
            exact ⟨rfl, (List.forall_mem_append.mp hrecords).2⟩
        | _ => exact ⟨rfl, hrecords⟩
      obtain ⟨hread, hlast⟩ := ih hstep.2
      have hlines : (page.play unit (step :: rest)).1 =
          (page.step unit step).1 ++ ((page.step unit step).2.play unit rest).1 := rfl
      rw [hlines, hstep.1]
      exact ⟨hread, hlast⟩

/-! ### Pieces -/

theorem Dialect.crosses_comment {dialect : Dialect} {lines : List String}
    (h : ∀ line ∈ lines, dialect.CommentLine line) :
    Crosses dialect true .code (Dialect.comment lines) .code := by
  match lines, h with
  | [], _ => exact .code (.inl rfl) .empty true .zero (.nil _)
  | [line], h =>
      exact .code (.inl rfl) (.remark (h line List.mem_cons_self)) true .zero (.nil _)
  | first :: second :: rest, h =>
      have hinside := Crosses.lines fun line hline => LineReads.inside (h line hline)
      have hclose : Crosses dialect true .block [Step.line "*/"] .code :=
        .code (.inr rfl) (.closes (.inl rfl)) true .zero (.nil _)
      exact .code (.inl rfl) (.opens (.inl rfl)) true .zero (hinside.append hclose)

theorem Dialect.CommentLine.docLine {dialect : Dialect} {line : String}
    (h : dialect.CommentLine line) : dialect.CommentLine (Dialect.docLine line) := by
  rw [Dialect.docLine]
  split
  · exact { unclosed := by decide, unspliced := fun _ => by decide, newline := by decide }
  · exact {
      unclosed := fun hinfix =>
        h.unclosed (by simpa [List.infix_cons_iff] using hinfix)
      unspliced := fun hcpp => by
        have hlast := h.unspliced hcpp
        cases hline : line.toList <;> simp_all
      newline := by simpa using h.newline }

theorem Dialect.crosses_docComment {dialect : Dialect} {lines : List String}
    (h : ∀ line ∈ lines, dialect.CommentLine line) :
    Crosses dialect true .code (Dialect.docComment lines) .code := by
  have hinside :
      Crosses dialect true .block ((lines.map Dialect.docLine).map Step.line) .block := by
    refine .lines fun text htext => ?_
    obtain ⟨line, hline, rfl⟩ := List.mem_map.mp htext
    exact .inside (h line hline).docLine
  have hclose : Crosses dialect true .block [Step.line " */"] .code :=
    .code (.inr rfl) (.closes (.inr rfl)) true .zero (.nil _)
  rw [List.map_map] at hinside
  exact .code (.inl rfl) (.opens (.inr rfl)) true .zero (hinside.append hclose)

theorem Piece.crosses {dialect : Dialect} {piece : Piece}
    (h : piece.Fits StaysCode dialect.CommentLine) (style : BraceStyle) :
    Crosses dialect piece.isComment .code (piece.steps style) .code := by
  have hopen : StaysCode "\x7b" := staysCode_of_isOrdinary (by decide)
  have hclose : StaysCode "\x7d" := staysCode_of_isOrdinary (by decide)
  cases piece with
  | prepare place line => exact .silent rfl (.nil _)
  | indent | dedent => exact .silent rfl (.nil _)
  | code text => exact .line h true .zero (.nil _)
  | remark lines => exact Dialect.crosses_comment h
  | documentation lines => exact Dialect.crosses_docComment h
  | opening header =>
      have hlast : StaysCode " \x7b" := staysCode_of_isOrdinary (by decide)
      cases style with
      | kAndR => exact .line (h.append hlast) true .zero (.nil _)
      | _ => exact .line h true .zero (.line hopen false _ (.silent rfl (.nil _)))
  | middle header =>
      have hfirst : StaysCode "\x7d " := staysCode_of_isOrdinary (by decide)
      have hlast : StaysCode " \x7b" := staysCode_of_isOrdinary (by decide)
      cases style with
      | kAndR => exact .line ((hfirst.append h).append hlast) true .zero (.nil _)
      | _ =>
        exact .silent rfl (.line hclose true _
          (.line h false .zero (.line hopen false _ (.silent rfl (.nil _)))))
  | closing closer =>
      have hcloser : StaysCode closer := by
        rcases h with rfl | rfl
        · exact hclose
        · exact staysCode_of_isOrdinary (by decide)
      cases style <;> exact .line hcloser true _ (.nil _)

/-! ### Renderings -/

/-- What a reader is not led astray by: names of ordinary characters, any constant in code, any
operator but the floor division, and constants as statements whose lines do not end a comment. -/
def Leaf.StaysApart (dialect : Dialect) : Leaf → Prop
  | .name ident => ident.toList.all isOrdinary = true
  | .constant _ => True
  | .note value =>
    (∀ line ∈ cleanDoc value.plainText, dialect.Comments line) ∧
      ∀ line ∈ cleanDoc (documentation value.plainText), dialect.Comments line
  | .operator op => op ≠ .floorDiv

theorem Leaf.StaysApart.fits {dialect : Dialect} {leaf : Leaf} (h : leaf.StaysApart dialect) :
    leaf.Fits dialect StaysCode dialect.CommentLine := by
  cases leaf with
  | name ident => exact dialect.spellsName_staysCode h
  | constant value => exact dialect.staysCode_constant value
  | note value =>
      obtain ⟨hremark, hdocumentation⟩ := h
      exact ⟨fun line hline => ⟨hremark line hline, newline_not_mem_of_mem_cleanDoc hline⟩,
        fun line hline => ⟨hdocumentation line hline, newline_not_mem_of_mem_cleanDoc hline⟩⟩
  | operator op => exact dialect.staysCode_operator h

/-- Pieces of code and of comments, one after another, are read as they were written. -/
theorem Layout.Page.reads_marks {dialect : Dialect} {unit : IndentUnit}
    (hunit : isBlank unit.character = true) (style : BraceStyle) {pieces : List Piece}
    (hfits : ∀ piece ∈ pieces, piece.Fits StaysCode dialect.CommentLine) {page : Page}
    (hrecords : RemarksFit dialect page.cursor.rest) :
    Reads dialect .code
      (textOf unit Dialect.lineComment
        ((page.play unit (pieces.flatMap (Piece.steps style))).1 ++
          ((page.play unit (pieces.flatMap (Piece.steps style))).2.finish unit).1)).toList .code
      (page.marks unit style pieces) := by
  induction pieces generalizing page with
  | nil => exact linesRead_leftover hunit _ hrecords
  | cons piece rest ih =>
      obtain ⟨hpiece, hothers⟩ := List.forall_mem_cons.mp hfits
      obtain ⟨hread, hleft⟩ := linesRead_play hunit (piece.crosses hpiece style) hrecords
      rw [List.flatMap_cons, play_append, List.append_assoc, textOf_append, String.toList_append]
      exact Reads.append hread (ih hothers hleft)

/-- A reading from code to code is the reading of the whole text. -/
theorem Reads.inkedMarks_lexed {dialect : Dialect} {text : String} {marks : List (Char × Bool)}
    (h : Reads dialect .code text.toList .code marks) :
    inkedMarks (dialect.lexed text) = inkedMarks marks := by
  have hlexed : lexed text.toList = (LexMode.code.readAll text.toList).2 ++
      (LexMode.code.readAll text.toList).1.pending := rfl
  have hpending : LexMode.code.pending = [] := rfl
  have hplain : inkedMarks (lexed text.toList) = inkedMarks marks := by
    rw [hlexed, h.last, hpending, List.append_nil, h.settled]
  cases dialect with
  | cpp =>
      have hspliced : splice text.toList = text.toList := by simpa [splice] using h.unspliced rfl []
      rw [Dialect.lexed, hspliced, hplain]
  | typeScript typed => exact hplain

section Spelled

variable {unit : IndentUnit} {inComment : Bool}

theorem Layout.Line.map_fst_marks (line : Line) :
    (line.marks unit inComment).map Prod.fst = (line.text unit Dialect.lineComment).toList := by
  rcases line with _ | ⟨indent, text⟩ | ⟨indent, text, _ | tail⟩ <;>
    simp [Line.marks, Line.text, tailMarks, Function.comp_def]

theorem map_fst_flatMap_marks (lines : List Line) :
    (lines.flatMap (Line.marks unit inComment)).map Prod.fst =
      (textOf unit Dialect.lineComment lines).toList := by
  induction lines with
  | nil => rfl
  | cons line rest ih =>
      rw [List.flatMap_cons, List.map_append, line.map_fst_marks, ih, ← List.singleton_append,
        textOf_append, textOf_singleton, String.toList_append]

/-- The marked characters are those of the output. -/
theorem Layout.Page.map_fst_marks (style : BraceStyle) (page : Page) (pieces : List Piece) :
    (page.marks unit style pieces).map Prod.fst =
      (textOf unit Dialect.lineComment
        ((page.play unit (pieces.flatMap (Piece.steps style))).1 ++
          ((page.play unit (pieces.flatMap (Piece.steps style))).2.finish unit).1)).toList := by
  induction pieces generalizing page with
  | nil => exact map_fst_flatMap_marks _
  | cons piece rest ih =>
      rw [List.flatMap_cons, play_append, List.append_assoc, textOf_append, String.toList_append,
        ← ih, ← map_fst_flatMap_marks (page.play unit (piece.steps style)).1, ← List.map_append]
      rfl

end Spelled

/-- **Comments and code stay apart.** In the rendering of a program without floor divisions, with
names of ordinary characters and with no comment that ends early, just what is written as a comment
lies in comments: the records of the source and the constants that stand as statements. -/
theorem render_lexed (dialect : Dialect) (style : BraceStyle) (unit : IndentUnit)
    (program : Program) (source : String) (rendering : Rendering)
    (hunit : isBlank unit.character = true)
    (hleaves : ∀ leaf ∈ program.leaves, leaf.StaysApart dialect)
    (hsource : ∀ record ∈ Comment.scan source, ∀ text, record.remark.text? = some text →
      dialect.Comments text)
    (h : program.render (.curly dialect style) unit (Comment.scan source) = .ok rendering) :
    ∃ pieces : List Piece,
      (program.script (.curly dialect style) .outermost).steps =
          pieces.flatMap (Piece.steps style) ∧
        Traced 0 pieces 0 program.landmarks ∧
        ((Page.ofRecords (Comment.scan source)).marks unit style pieces).map Prod.fst =
          rendering.text.toList ∧
        inkedMarks (dialect.lexed rendering.text) =
          inkedMarks ((Page.ofRecords (Comment.scan source)).marks unit style pieces) := by
  rcases program.exists_outline codeLaw_staysCode fun leaf hleaf => (hleaves leaf hleaf).fits with
    ⟨inside, pieces, heq, hfits, htraced⟩ | ⟨node, hrejected⟩
  · obtain ⟨outlined, hrender, htext⟩ := Program.exists_render (heq style) (Comment.scan source)
    obtain rfl := Except.ok.inj (hrender.symm.trans h)
    have hrecords : RemarksFit dialect (Comment.scan source) := fun record hrecord text hremark =>
      ⟨hsource record hrecord text hremark, Comment.newline_not_mem_of_mem_scan hrecord hremark⟩
    refine ⟨pieces, congrArg Outcome.steps (heq style), htraced, ?_, ?_⟩
    · rw [htext]
      exact Page.map_fst_marks style _ pieces
    · refine Reads.inkedMarks_lexed ?_
      rw [htext]
      exact Page.reads_marks hunit style hfits hrecords
  · rw [Program.render_rejected (hrejected style)] at h
    cases h

/-- A division with a comment before it and one after it. -/
theorem render_lexed_division :
    let program : Program :=
      ⟨[.mk 2 (.assign [.name "x"] (.binary (.name "a") .div (.name "b")))]⟩
    let source := "# why\nx = a / b  # how\n"
    (isBlank ' ' = true ∧ (∀ leaf ∈ program.leaves, leaf.StaysApart .cpp) ∧
      ∀ record ∈ Comment.scan source, ∀ text, record.remark.text? = some text →
        Dialect.cpp.Comments text) ∧
      ∃ rendering,
        program.render (.curly .cpp .allman) .standard (Comment.scan source) = .ok rendering ∧
        rendering.text = "// why\nx = a / b; // how\n" ∧
        ∃ pieces : List Piece,
          (program.script (.curly .cpp .allman) .outermost).steps =
              pieces.flatMap (Piece.steps .allman) ∧
            Traced 0 pieces 0 program.landmarks ∧
            inkedMarks (Dialect.cpp.lexed rendering.text) = inkedMarks
              ((Page.ofRecords (Comment.scan source)).marks .standard .allman pieces) := by
  intro program source
  have hblank : isBlank ' ' = true := by decide
  have hleaves : ∀ leaf ∈ program.leaves, leaf.StaysApart .cpp := by
    have hnames : program.leaves = [.name "x", .operator .div, .name "a", .name "b"] := rfl
    simp [hnames, Leaf.StaysApart, isOrdinary]
  have hsource : ∀ record ∈ Comment.scan source, ∀ text, record.remark.text? = some text →
      Dialect.cpp.Comments text := by
    have hscan : Comment.scan source = [⟨1, .own "why"⟩, ⟨2, .tail "how"⟩] := by decide
    have hwhy : Dialect.cpp.Comments "why" := ⟨by decide, fun _ => by decide⟩
    have hhow : Dialect.cpp.Comments "how" := ⟨by decide, fun _ => by decide⟩
    simpa [hscan, Comment.Remark.text?] using ⟨hwhy, hhow⟩
  obtain ⟨pieces, hsteps, htraced, -, hlexed⟩ :=
    render_lexed .cpp .allman .standard program source _ hblank hleaves hsource rfl
  exact ⟨⟨hblank, hleaves, hsource⟩, _, rfl, by decide, pieces, hsteps, htraced, hlexed⟩

/-- No condition can be left out: the operator of a floor division opens a comment, a constant
closes the comment that it stands in, and in C++ a backslash at the end of a comment takes in the
next line. -/
theorem stays_apart_needed :
    let assigned := fun (line : UInt64) (value : Expr) => Stmt.mk line (.assign [.name "x"] value)
    let divided : Program := ⟨[assigned 1 (.binary (.name "a") .floorDiv (.name "b"))]⟩
    let closed : Program := ⟨[.mk 1 (.expr (.constant (.str "a */ b\nc")))]⟩
    let spliced : Program := ⟨[assigned 1 (.name "a"), assigned 2 (.name "b")]⟩
    let source := "x = a  # why \\\nx = b\n"
    (Comment.scan "x = a // b\n" = [] ∧ divided.landmarks = [.start .statement 1 0] ∧
      ∃ rendering, divided.render (.curly .cpp .allman) .standard [] = .ok rendering ∧
        rendering.text = "x = a // b;\n" ∧ (';', true) ∈ Dialect.cpp.lexed rendering.text) ∧
    (∃ rendering, closed.render (.curly .cpp .allman) .standard [] = .ok rendering ∧
      rendering.text = "/*\na */ b\nc\n*/\n" ∧ ('b', false) ∈ Dialect.cpp.lexed rendering.text) ∧
    ∃ rendering,
      spliced.render (.curly .cpp .allman) .standard (Comment.scan source) = .ok rendering ∧
        rendering.text = "x = a; // why \\\nx = b;\n" ∧
        (';', true) ∈ Dialect.cpp.lexed rendering.text := by
  exact ⟨⟨by decide, rfl, _, rfl, by decide, by decide⟩, ⟨_, rfl, by decide, by decide⟩,
    _, rfl, by decide, by decide⟩

end Snippet
