import Snippet.Proofs.Grouping

/-!
# Reading formulas of mathematics

A formula is cut into words and signs as expressions of other languages are. Its brackets say more
than theirs: fractions, floors and intervals have brackets of their own, which are read as calls and
parentheses, and what is left is read by the levels of the snippet language.
-/

namespace Snippet.Latex

open Formula

/-! ### Signs -/

/-- Names that are signs. -/
def symbols : List String := ["\\min", "\\max", "\\alpha", "\\beta", "\\theta"]

def closers : List String := ["\\right)", "\\rfloor", "\\rceil", "]", ")"]

def openers : List String := ["\\left(", "\\lfloor", "\\lceil", "[", "[0,"]

/-- Brackets around the parts of a fraction and around a name with an arrow. -/
def braces : List String := ["\\frac\x7b", "\\vec\x7b", "\x7d\x7b", "\x7d"]

def operators : List String :=
  ["\\text\x7b by \x7d", "\\lor", "\\land", "\\neg", "=", "\\neq", "<", "\\leq", ">", "\\geq",
    "\\in", "\\notin", "|", "&", "<<", ">>", "+", "-", "\\cdot", "\\times", "%", "//", "~", "^"]

def signs : List String := symbols ++ closers ++ openers ++ braces ++ "," :: "." :: operators

/-! ### Brackets -/

/-- A bracket that closes further on, and whether there is a comma before it. -/
structure Closing where
  sign : String
  several : Bool
deriving DecidableEq

/-- Whether an operand can end with a token. -/
def endsOperand : Token → Bool
  | .word _ => true
  | .sign sign => sign == "\x7d" || closers.contains sign || symbols.contains sign

/-- What an opening bracket stands for, by the bracket that closes it: a call if it does not open
the arguments of a call or an index. Parentheses around several or no items are those of a vector. -/
def opened? (after : Bool) (sign : String) (closing : Closing) (inner : List Token) :
    Option (List Token) :=
  match sign, closing.sign with
  | "\\left(", "\\right)" =>
    if after then some [.sign "("]
    else if closing.several || inner.head? == some (.sign ")") then
      some [.word "Vector2D", .sign "("]
    else some [.sign "("]
  | "\\lfloor", "\\rfloor" => some [.word "floor", .sign "("]
  | "\\lfloor", "\\rceil" => some [.word "round", .sign "("]
  | "\\lceil", "\\rceil" => some [.word "ceil", .sign "("]
  | "[", "]" => if after then some [.sign "["] else none
  | "[", ")" => if after then none else some [.word "range", .sign "("]
  | "[0,", ")" => if after then none else some [.word "range", .sign "("]
  | _, _ => none

def closed (sign : String) : Token := .sign (if sign = "]" then "]" else ")")

/-- What any other token stands for: a fraction is a quotient in parentheses, and an arrow leaves no
trace. -/
def expansion : Token → List Token
  | .word text => [.word text]
  | .sign "\\frac\x7b" | .sign "\\vec\x7b" => [.sign "(", .sign "("]
  | .sign "\x7d\x7b" => [.sign ")", .sign "/", .sign "("]
  | .sign "\x7d" => [.sign ")", .sign ")"]
  | .sign sign =>
    if symbols.contains sign then [.word (String.ofList (sign.toList.drop 1))] else [.sign sign]

/-- A comma stands before the next closing bracket. -/
def marked (several : Bool) : List Closing → List Closing
  | [] => []
  | closing :: others => { closing with several := closing.several || several } :: others

/-- The brackets that are closed but not opened by some tokens, and what the tokens stand for;
`after` says that they come after an operand. -/
def plain? (after : Bool) : List Token → Option (List Closing × List Token)
  | [] => some ([], [])
  | token :: rest => do
    let (closings, inner) ← plain? (endsOperand token) rest
    match token with
    | .sign sign =>
      if closers.contains sign then some (⟨sign, false⟩ :: closings, closed sign :: inner)
      else if openers.contains sign then
        match closings with
        | [] => none
        | closing :: others => (opened? after sign closing inner).map (others, · ++ inner)
      else some (marked (sign == ",") closings, expansion token ++ inner)
    | .word _ => some (closings, expansion token ++ inner)

/-! ### Levels -/

def comparisons : List (String × CompareOp) :=
  [("=", .equal), ("\\neq", .notEqual), ("<", .less), ("\\leq", .lessEqual), (">", .greater),
    ("\\geq", .greaterEqual), ("\\in", .isIn), ("\\notin", .notIn)]

/-- An interval with a step. -/
def stepped (interval step : Expr) : Expr :=
  match interval with
  | .call func [stop] => .call func [.constant (.int 0), stop, step]
  | .call func args => .call func (args ++ [step])
  | _ => .call interval [step]

/-- The operators of the snippet language at their strengths, in the spelling of mathematics. The
exclusive or has no sign of its own; the sign of quotients is the one that fractions stand for. -/
def levels : List Level :=
  [.left [("\\text\x7b by \x7d", stepped)],
    .run "\\lor" .or,
    .run "\\land" .and,
    .before [("\\neg", .not)],
    .chain comparisons,
    binaries [("|", .bitOr)],
    binaries [],
    binaries [("&", .bitAnd)],
    binaries [("<<", .leftShift), (">>", .rightShift)],
    binaries [("+", .add), ("-", .sub)],
    binaries [("\\cdot", .mult), ("\\times", .matMult), ("/", .div), ("//", .floorDiv),
      ("%", .mod)],
    .before arithmeticPrefixes,
    .power arithmeticPrefixes "^"]

def read? (text : String) : Option Expr := do
  let tokens ← tokens? signs text.toList
  match ← plain? false tokens with
  | ([], plain) =>
    match ← read levels levels plain with
    | ⟨expr, [], _⟩ => some expr
    | _ => none
  | _ => none

example : read? "\\frac\x7ba\x7d\x7bb + c\x7d" =
    some (.binary (.name "a") .div (.binary (.name "b") .add (.name "c"))) := by cbv

end Snippet.Latex
