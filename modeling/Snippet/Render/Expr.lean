import Snippet.Render.Rejection
import Snippet.Target.Hooks
import Snippet.Tree.Precedence

namespace Snippet

open Render

/-- What a target makes of a node, or the node's rejection. -/
def Target.accept (target : Target) (node : RejectedNode) : Option α → Except Rejection α
  | some form => .ok form
  | none => .error ⟨target, node⟩

/-- An operand's text, in parentheses when it binds more loosely than its place asks for. -/
def Target.operand (target : Target) (op : Operator) (least : Nat) (expr : Expr) (text : String) :
    String :=
  if expr.strength < least && target.groupsOperands op then target.group text else text

/-- The text of what a member, an argument list or an index belongs to. -/
def Target.atom (target : Target) (expr : Expr) (text : String) : String :=
  if expr.strength < Strength.atom then target.group text else text

/-- The text of a part of a conditional. -/
def Target.choice (target : Target) (expr : Expr) (text : String) : String :=
  if expr.strength ≤ Strength.conditional then target.group text else text

/-- The least strengths of the operands of a binary operator; only powers group to the right. -/
def BinaryOp.leastStrengths (op : BinaryOp) : Nat × Nat :=
  if op = .pow then (op.strength + 1, op.strength) else (op.strength, op.strength + 1)

mutual

/-- The text of an expression. Names are spelled as what surrounds them asks for, and as types where
`asType` is set. -/
def Expr.render (target : Target) (around : Surroundings) (asType : Bool) :
    Expr → Except Rejection String
  | .constant value => .ok (target.constant value asType)
  | .name ident => .ok (target.nameText around ident asType)
  | .member value attr => do
    let object ← value.render target around asType
    return target.member (target.atom value object) attr
  | .unary op operand => do
    let text ← operand.render target around asType
    return target.unary op (target.operand (.unary op) Strength.unary operand text)
  | .binary left op right => do
    let (leftLeast, rightLeast) := op.leastStrengths
    let leftText ← left.render target around asType
    let rightText ← right.render target around asType
    return target.infixed (.binary op)
      [target.operand (.binary op) leftLeast left leftText,
        target.operand (.binary op) rightLeast right rightText]
  | .bool op values => do
    let least := (Operator.bool op).strength + 1
    return target.infixed (.bool op)
      (← Expr.renderOperands target around asType (.bool op) least values)
  | .call func args => do
    let callee ← func.render target around asType
    let texts ← Expr.renderAll target around asType args
    target.accept (.expr (.call func args)) (target.call? (target.atom func callee) texts)
  | .tuple elements => do
    let texts ← Expr.renderAll target around asType elements
    target.accept (.expr (.tuple elements)) (target.sequence? .tuple texts)
  | .list elements => do
    let texts ← Expr.renderAll target around asType elements
    target.accept (.expr (.list elements)) (target.sequence? .list texts)
  | .set elements => do
    let texts ← Expr.renderAll target around asType elements
    target.accept (.expr (.set elements)) (target.sequence? .set texts)
  | .dict pairs => do
    let texts ← Expr.renderPairs target around asType pairs
    target.accept (.expr (.dict pairs)) (target.dict? texts)
  | .compare left [] comparators =>
    .error ⟨target, .expr (.compare left [] comparators)⟩
  | .compare left (op :: ops) comparators => do
    let least := Strength.comparison + 1
    let text ← left.render target around asType
    let rest ← Expr.renderLinks target around asType (op :: ops) comparators
    return target.compare (target.operand (.compare op) least left text) rest
  | .conditional test body orelse => do
    let testText ← test.render target around asType
    let bodyText ← body.render target around asType
    let orelseText ← orelse.render target around asType
    target.accept (.expr (.conditional test body orelse))
      (target.conditional? (target.choice test testText) (target.choice body bodyText)
        (target.choice orelse orelseText))
  | .subscript value (.slice lower upper step) => do
    let text ← value.render target around asType
    let start ← Expr.renderOptional target around asType lower
    let stop ← Expr.renderOptional target around asType upper
    let stride ← Expr.renderOptional target around asType step
    target.accept (.expr (.subscript value (.slice lower upper step)))
      (target.slice? (target.atom value text) ⟨start, stop, stride⟩)
  | .subscript value index => do
    let text ← value.render target around asType
    let indexText ← index.render target around asType
    return Target.subscript (target.atom value text) indexText
  | .slice lower upper step => .error ⟨target, .expr (.slice lower upper step)⟩
  | .starred value => do
    let text ← value.render target around asType
    target.accept (.expr (.starred value)) (target.starred? (target.atom value text))
  | .matchValue value => value.render target around asType
  | .matchAs none => .error ⟨target, .expr (.matchAs none)⟩
  | .matchAs (some binder) =>
    target.accept (.expr (.matchAs (some binder))) (target.capturePattern? binder)

def Expr.renderAll (target : Target) (around : Surroundings) (asType : Bool) :
    List Expr → Except Rejection (List String)
  | [] => .ok []
  | expr :: rest => do
    let text ← expr.render target around asType
    return text :: (← Expr.renderAll target around asType rest)

def Expr.renderOperands (target : Target) (around : Surroundings) (asType : Bool)
    (op : Operator) (least : Nat) : List Expr → Except Rejection (List String)
  | [] => .ok []
  | expr :: rest => do
    let text ← expr.render target around asType
    return target.operand op least expr text ::
      (← Expr.renderOperands target around asType op least rest)

def Expr.renderPairs (target : Target) (around : Surroundings) (asType : Bool) :
    List (Expr × Expr) → Except Rejection (List (String × String))
  | [] => .ok []
  | (key, value) :: rest => do
    let keyText ← key.render target around asType
    let valueText ← value.render target around asType
    return (keyText, valueText) :: (← Expr.renderPairs target around asType rest)

/-- The operators of a comparison with the operands after them; an operand without an operator is
passed over. -/
def Expr.renderLinks (target : Target) (around : Surroundings) (asType : Bool) :
    List CompareOp → List Expr → Except Rejection (List (Operator × String))
  | op :: ops, expr :: rest => do
    let text ← expr.render target around asType
    let operand := target.operand (.compare op) (Strength.comparison + 1) expr text
    return (.compare op, operand) :: (← Expr.renderLinks target around asType ops rest)
  | _, _ => .ok []

def Expr.renderOptional (target : Target) (around : Surroundings) (asType : Bool) :
    Option Expr → Except Rejection (Option String)
  | none => .ok none
  | some expr => do return some (← expr.render target around asType)

end

/-- The arguments of a call of `range` that a loop can count through: none of them is starred. -/
def Expr.rangeArguments? : Expr → Option (List Expr)
  | .call (.name "range") args =>
    if args.any Expr.isStarred then none else some args
  | _ => none

/-- What a loop goes over. A call of `range` keeps its bounds when it has one to three. -/
def Expr.renderLoopItems (target : Target) (around : Surroundings) (iter : Expr) :
    Except Rejection LoopItems := do
  match iter.rangeArguments? with
  | none => return .items (← iter.render target around false)
  | some args =>
    let texts ← Expr.renderAll target around false args
    match Bounds.ofArguments texts with
    | some bounds => return .range bounds (← iter.render target around false)
    | none => return .items (← iter.render target around false)

end Snippet
