import Snippet.Layout.Page
import Snippet.Render.Stmt

namespace Snippet

open Comment (Record)
open Layout
open Render

def Program.play (target : Target) (unit : IndentUnit) (records : List Record)
    (program : Program) : Except Rejection (List Line × Page) :=
  let outcome := program.script target .outermost
  outcome.result.map fun _ => (Page.ofRecords records).play unit outcome.steps

/-- A program in a target language, and whether its statements reached every record. -/
structure Rendering where
  text : String
  replayed : Bool
deriving DecidableEq, Repr

/-- Renders a program among the comments of its source. What the statements do not reach comes
after them. -/
def Program.render (target : Target) (unit : IndentUnit) (records : List Record)
    (program : Program) : Except Rejection Rendering :=
  (program.play target unit records).map fun (lines, page) =>
    { text := textOf unit target.lineComment (lines ++ (page.finish unit).1)
      replayed := page.cursor.isExhausted }

end Snippet
