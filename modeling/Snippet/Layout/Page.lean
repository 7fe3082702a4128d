import Snippet.Comment.Cursor
import Snippet.Layout.Line
import Snippet.Layout.Step

namespace Snippet.Layout

open Comment (Cursor Record)
open Number (Single)

/-- Where a page stands: the level of indentation and the comments not yet replayed. -/
structure Page where
  level : Nat
  cursor : Cursor
deriving DecidableEq, Repr

/-- The line that replays a whole-line record, which has no text when it is blank. -/
def replayed (indent : Nat) : Option String → Line
  | none => .blank
  | some text => .comment indent text

/-- Lines for the records left at the end. Blank lines are kept only before a comment, and lines of
`else` leave nothing. -/
def leftover (indent blanks : Nat) : List Record → List Line
  | [] => []
  | record :: rest =>
    match record.remark with
    | .elseLine => leftover indent blanks rest
    | .blank => leftover indent (blanks + 1) rest
    | .own text | .tail text =>
      List.replicate blanks .blank ++ .comment indent text :: leftover indent 0 rest

namespace Page

def ofRecords (records : List Record) : Page := ⟨0, .ofRecords records⟩

/-- Writes a line of code among the comments that are pending: whole lines before it when they are
asked for, then at most one `else` line, which leaves nothing, then a tail after it. -/
def write (unit : IndentUnit) (page : Page) (text : String) (comments : Bool) (offset : Single) :
    List Line × Page :=
  let (own, flushed) := if comments then page.cursor.flush else ([], page.cursor)
  let (tail, cursor) := flushed.takeElse.2.takeTail
  (own.map (replayed (unit.countAt page.level .zero)) ++
      [.code (unit.countAt page.level offset) text tail],
    { page with cursor })

def step (unit : IndentUnit) (page : Page) : Step → List Line × Page
  | .prepare line => ([], { page with cursor := page.cursor.prepare line })
  | .skipBlank => ([], { page with cursor := page.cursor.skipBlank })
  | .code text comments offset => page.write unit text comments offset
  | .indent => ([], { page with level := page.level + 1 })
  | .dedent => ([], { page with level := page.level - 1 })

def play (unit : IndentUnit) : Page → List Step → List Line × Page
  | page, [] => ([], page)
  | page, first :: rest =>
    let (lines, next) := page.step unit first
    let (more, last) := next.play unit rest
    (lines ++ more, last)

/-- What is written after the script: the comments it never reached. -/
def finish (unit : IndentUnit) (page : Page) : List Line × Page :=
  let (records, cursor) := page.cursor.drain
  (leftover (unit.countAt page.level .zero) 0 records, { page with cursor })

end Page

end Snippet.Layout
