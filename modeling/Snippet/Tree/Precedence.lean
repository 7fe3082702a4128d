import Snippet.Tree.Basic

namespace Snippet

/-! Binding strengths of the snippet language, the loosest first. -/

def Strength.conditional : Nat := 0

def Strength.comparison : Nat := 4

def Strength.unary : Nat := 11

def Strength.atom : Nat := 13

def BinaryOp.strength : BinaryOp → Nat
  | bitOr => 5
  | bitXor => 6
  | bitAnd => 7
  | leftShift | rightShift => 8
  | add | sub => 9
  | mult | matMult | div | floorDiv | mod => 10
  | pow => 12

def Operator.strength : Operator → Nat
  | bool .or => 1
  | bool .and => 2
  | unary .not => 3
  | unary _ => Strength.unary
  | compare _ => Strength.comparison
  | binary op => op.strength

/-- How tightly an expression binds when it is an operand. -/
def Expr.strength : Expr → Nat
  | conditional .. | starred _ => Strength.conditional
  | bool op _ => (Operator.bool op).strength
  | unary op _ => (Operator.unary op).strength
  | compare .. => Strength.comparison
  | binary _ op _ => op.strength
  | _ => Strength.atom

end Snippet
