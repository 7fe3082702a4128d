namespace Snippet

inductive BinaryOp where
  | add
  | sub
  | mult
  | matMult
  | div
  | mod
  | pow
  | leftShift
  | rightShift
  | bitOr
  | bitXor
  | bitAnd
  | floorDiv
deriving DecidableEq, Repr

inductive UnaryOp where
  | invert
  | not
  | plus
  | minus
deriving DecidableEq, Repr

inductive BoolOp where
  | and
  | or
deriving DecidableEq, Repr

inductive CompareOp where
  | equal
  | notEqual
  | less
  | lessEqual
  | greater
  | greaterEqual
  | is
  | isNot
  | isIn
  | notIn
deriving DecidableEq, Repr

/-- Any operator that can stand in an expression. -/
inductive Operator where
  | binary (op : BinaryOp)
  | unary (op : UnaryOp)
  | bool (op : BoolOp)
  | compare (op : CompareOp)
deriving DecidableEq, Repr

namespace BinaryOp

def all : List BinaryOp :=
  [add, sub, mult, matMult, div, mod, pow, leftShift, rightShift, bitOr, bitXor, bitAnd, floorDiv]

/-- The name of the operator in dumps and in the JSON form of a tree. -/
def name : BinaryOp → String
  | add => "Add"
  | sub => "Sub"
  | mult => "Mult"
  | matMult => "MatMult"
  | div => "Div"
  | mod => "Mod"
  | pow => "Pow"
  | leftShift => "LShift"
  | rightShift => "RShift"
  | bitOr => "BitOr"
  | bitXor => "BitXor"
  | bitAnd => "BitAnd"
  | floorDiv => "FloorDiv"

def symbol : BinaryOp → String
  | add => "+"
  | sub => "-"
  | mult => "*"
  | matMult => "@"
  | div => "/"
  | mod => "%"
  | pow => "**"
  | leftShift => "<<"
  | rightShift => ">>"
  | bitOr => "|"
  | bitXor => "^"
  | bitAnd => "&"
  | floorDiv => "//"

def ofName? (text : String) : Option BinaryOp := all.find? (·.name == text)

def ofSymbol? (text : String) : Option BinaryOp := all.find? (·.symbol == text)

theorem ofName?_name (op : BinaryOp) : ofName? op.name = some op := by cases op <;> decide

theorem ofSymbol?_symbol (op : BinaryOp) : ofSymbol? op.symbol = some op := by cases op <;> decide

end BinaryOp

namespace UnaryOp

def all : List UnaryOp := [invert, not, plus, minus]

def name : UnaryOp → String
  | invert => "Invert"
  | not => "Not"
  | plus => "UAdd"
  | minus => "USub"

def ofName? (text : String) : Option UnaryOp := all.find? (·.name == text)

theorem ofName?_name (op : UnaryOp) : ofName? op.name = some op := by cases op <;> decide

end UnaryOp

namespace BoolOp

def all : List BoolOp := [and, or]

def name : BoolOp → String
  | and => "And"
  | or => "Or"

def ofName? (text : String) : Option BoolOp := all.find? (·.name == text)

theorem ofName?_name (op : BoolOp) : ofName? op.name = some op := by cases op <;> decide

end BoolOp

namespace CompareOp

def all : List CompareOp :=
  [equal, notEqual, less, lessEqual, greater, greaterEqual, is, isNot, isIn, notIn]

def name : CompareOp → String
  | equal => "Eq"
  | notEqual => "NotEq"
  | less => "Lt"
  | lessEqual => "LtE"
  | greater => "Gt"
  | greaterEqual => "GtE"
  | is => "Is"
  | isNot => "IsNot"
  | isIn => "In"
  | notIn => "NotIn"

def symbol : CompareOp → String
  | equal => "=="
  | notEqual => "!="
  | less => "<"
  | lessEqual => "<="
  | greater => ">"
  | greaterEqual => ">="
  | is => "is"
  | isNot => "is not"
  | isIn => "in"
  | notIn => "not in"

def ofName? (text : String) : Option CompareOp := all.find? (·.name == text)

/-- The comparison a symbol spells; `<>` is an old spelling of `!=`. -/
def ofSymbol? (text : String) : Option CompareOp :=
  if text = "<>" then some notEqual else all.find? (·.symbol == text)

theorem ofName?_name (op : CompareOp) : ofName? op.name = some op := by cases op <;> decide

theorem ofSymbol?_symbol (op : CompareOp) : ofSymbol? op.symbol = some op := by
  cases op <;> decide

end CompareOp

namespace Operator

/-- The operator classes and the name of an operator in its class. -/
def ofName? (kind text : String) : Option Operator :=
  match kind with
  | "binary" => (BinaryOp.ofName? text).map binary
  | "unary" => (UnaryOp.ofName? text).map unary
  | "bool" => (BoolOp.ofName? text).map bool
  | "compare" => (CompareOp.ofName? text).map compare
  | _ => none

end Operator

end Snippet
