namespace Snippet.Comment

/-- What a line of a snippet holds besides code. -/
inductive Remark where
  | blank
  /-- A comment on a line of its own. -/
  | own (text : String)
  /-- A comment after code on the same line. -/
  | tail (text : String)
  /-- A line that starts an `else` or `elif` branch. -/
  | elseLine
deriving DecidableEq, Repr

structure Record where
  line : Nat
  remark : Remark
deriving DecidableEq, Repr

namespace Remark

def text? : Remark → Option String
  | own text | tail text => some text
  | blank | elseLine => none

def isWholeLine : Remark → Bool
  | blank | own _ => true
  | tail _ | elseLine => false

end Remark

end Snippet.Comment
