import Snippet.Number.Single

namespace Snippet.Layout

open Number (Single)

/-- What a target asks of the page. A list of steps is a script; it knows nothing of comments, of
the indentation unit or of the level it is played at. -/
inductive Step where
  | prepare (line : UInt64)
  /-- Passes over a blank line of the snippet right here. -/
  | skipBlank
  /-- Writes a line of code, the pending comments before it when `comments` is set, moved by
  `offset` levels. -/
  | code (text : String) (comments : Bool) (offset : Single)
  | indent
  | dedent
deriving DecidableEq, Repr

/-- A line of code at the current level, after the pending comments. -/
def Step.line (text : String) : Step := .code text true .zero

end Snippet.Layout
