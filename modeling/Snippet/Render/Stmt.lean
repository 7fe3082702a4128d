import Snippet.Render.Expr
import Snippet.Render.Script
import Snippet.Text.Doc

namespace Snippet

open Render Script
open Text (cleanDoc)

/-- A constant as text that stands for itself. -/
def Constant.plainText : Constant → String
  | .nothing => "None"
  | .bool value => if value then "True" else "False"
  | .int value => toString value.toInt
  | .float value => value.text .code
  | .str value => value

def Stmt.docText? : Stmt → Option String
  | .mk _ (.expr (.constant (.str text))) => some text
  | _ => none

/-- A documentation text without one leading exclamation mark. -/
def documentation (text : String) : String :=
  match text.toList with
  | '!' :: rest => String.ofList rest
  | _ => text

def renderDocumentation (target : Target) : List Stmt → Script Unit
  | [] => pure ()
  | first :: _ =>
    match first.docText? with
    | some text => emit (target.docComment (cleanDoc (documentation text)))
    | none => pure ()

def renderExpr (target : Target) (expr : Expr) : Script String :=
  Script.text fun around => expr.render target around false

def renderType (target : Target) (expr : Expr) : Script String :=
  Script.text fun around => expr.render target around true

def renderExprs (target : Target) (exprs : List Expr) : Script (List String) :=
  Script.text fun around => Expr.renderAll target around false exprs

def renderTypes (target : Target) (exprs : List Expr) : Script (List String) :=
  Script.text fun around => Expr.renderAll target around true exprs

def renderOptionalExpr (target : Target) (expr : Option Expr) : Script (Option String) :=
  Script.text fun around => Expr.renderOptional target around false expr

def renderOptionalType (target : Target) (expr : Option Expr) : Script (Option String) :=
  Script.text fun around => Expr.renderOptional target around true expr

def FunctionHeader.renderParams (target : Target) (around : Surroundings)
    (header : FunctionHeader) : Nat → List Param → Except Rejection (List SignatureParam)
  | _, [] => .ok []
  | index, param :: rest => do
    let hint ← Expr.renderOptional target around true param.hint
    let default ← Expr.renderOptional target around false (header.default? index)
    return ⟨param.name, hint, default⟩ ::
      (← header.renderParams target around (index + 1) rest)

/-- Whether the first parameter is the receiver, which a method's signature leaves out. -/
def FunctionHeader.hasReceiver (header : FunctionHeader) : Bool :=
  match header.params with
  | [] => false
  | first :: _ => first.name == "self" || first.name == "cls"

def FunctionHeader.renderSignature (target : Target) (header : FunctionHeader) (isMethod : Bool)
    (returns : Option String) : Script Signature := do
  let skipped := if isMethod && header.hasReceiver then 1 else 0
  let params ← Script.text fun around =>
    header.renderParams target around skipped (header.params.drop skipped)
  return ⟨header.name, params, returns, header.isAsync, isMethod,
    isMethod && header.hasDecorator "property"⟩

/-- A plain name that is declared with a type is in scope from its own target on. -/
def declareTarget (target : Expr) (hint : String) : Script Unit :=
  match target with
  | .name ident => declare ident hint
  | _ => pure ()

def Expr.isCall : Expr → Bool
  | .call .. => true
  | _ => false

def renderPattern (target : Target) : Expr → Script (Option String)
  | .matchAs none => pure none
  | pattern => do return some (← renderExpr target pattern)

mutual

def Stmt.render (target : Target) : Stmt → Script Unit
  | .mk line kind => do
    emit [.prepare line]
    kind.render target

def StmtKind.render (target : Target) : StmtKind → Script Unit
  | .classDef name bases body => do
    let node := RejectedNode.stmt (.classDef name bases body)
    renderDocumentation target body
    let baseTexts ← renderTypes target bases
    emit? target node (target.beginClass? name baseTexts)
    block (some name) (Stmt.renderUndocumented target body)
    emit? target node target.endClass?
  | .functionDef header body => do
    renderDocumentation target body
    let isMethod := (← surroundings).className.isSome
    let returns ← renderOptionalType target header.returns
    inScope do
      let signature ← header.renderSignature target isMethod returns
      begin? target (.stmt (.functionDef header body)) fun around =>
        target.beginFunction? around signature
      block none (Stmt.renderUndocumented target body)
      emit target.endFunction
  | .assign targets value => do
    let texts ← renderExprs target targets
    emit (target.assign texts (← renderExpr target value))
  | .annAssign declared hint value => do
    let type ← renderType target hint
    declareTarget declared type
    let name ← renderExpr target declared
    let text ← renderOptionalExpr target value
    let around ← surroundings
    emit (target.declare around ⟨name, type, text, value.any Expr.isCall⟩)
  | .augAssign assigned op value => do
    let name ← renderExpr target assigned
    emit (target.assignOp name (.binary op) (← renderExpr target value))
  | .branch test body orelse => do
    emit (target.beginIf (← renderExpr target test))
    block none (Stmt.renderAll target body)
    Stmt.renderOrelse target orelse
    emit target.endBlock
  | .forLoop item iter body isAsync => do
    let name ← renderExpr target item
    let items ← Script.text fun around => iter.renderLoopItems target around
    emit? target (.stmt (.forLoop item iter body isAsync)) (target.beginFor? name items isAsync)
    block none (Stmt.renderAll target body)
    emit target.endBlock
  | .whileLoop test body => do
    emit (target.beginWhile (← renderExpr target test))
    block none (Stmt.renderAll target body)
    emit target.endBlock
  | .pass => pure ()
  | .breakLoop => emit (target.keywordStatement "break")
  | .continueLoop => emit (target.keywordStatement "continue")
  | .returning value => do emit (target.returning (← renderOptionalExpr target value))
  | .switch subject cases => do
    let node := RejectedNode.stmt (.switch subject cases)
    emit? target node (target.beginSwitch? (← renderExpr target subject))
    block none (MatchCase.renderAll target node cases)
    emit target.endBlock
  | .imports names => emit? target (.stmt (.imports names)) (target.imports? names)
  | .importFrom module names =>
    emit? target (.stmt (.importFrom module names)) (target.importFrom? module names)
  | .delete targets => do
    let texts ← renderExprs target targets
    emit? target (.stmt (.delete targets)) (target.delete? texts)
  | .typeAlias name value => do
    let nameText ← renderType target name
    let valueText ← renderType target value
    emit? target (.stmt (.typeAlias name value)) (target.typeAlias? nameText valueText)
  | .expr (.constant value) => emit (target.comment (cleanDoc value.plainText))
  | .expr value => do emit (target.expressionStatement (← renderExpr target value))

def Stmt.renderAll (target : Target) : List Stmt → Script Unit
  | [] => pure ()
  | stmt :: rest => do
    stmt.render target
    Stmt.renderAll target rest

def Stmt.renderUndocumented (target : Target) : List Stmt → Script Unit
  | [] => pure ()
  | stmt :: rest =>
    if stmt.docText?.isSome then Stmt.renderAll target rest
    else do
      stmt.render target
      Stmt.renderAll target rest

/-- The branches after the first. A branch that stands alone continues the chain, any other
statements end it. -/
def Stmt.renderOrelse (target : Target) : List Stmt → Script Unit
  | [] => pure ()
  | [.mk line (.branch test body orelse)] => do
    emit [.prepare line]
    emit (target.beginElif (← renderExpr target test))
    block none (Stmt.renderAll target body)
    Stmt.renderOrelse target orelse
  | stmt :: rest => do
    emit [.prepare stmt.line]
    emit target.beginElse
    block none do
      stmt.render target
      Stmt.renderAll target rest

/-- An arm of the `match` statement `node`. -/
def MatchCase.render (target : Target) (node : RejectedNode) : MatchCase → Script Unit
  | .mk line pattern body => do
    emit [.prepare line]
    let text ← renderPattern target pattern
    emit? target (.matchCase (.mk line pattern body)) (target.beginCase? text)
    indented none do
      inScope (Stmt.renderAll target body)
      emit? target node target.endCase?

def MatchCase.renderAll (target : Target) (node : RejectedNode) : List MatchCase → Script Unit
  | [] => pure ()
  | arm :: rest => do
    arm.render target node
    MatchCase.renderAll target node rest

end

def Program.script (target : Target) (program : Program) : Script Unit :=
  inScope (Stmt.renderAll target program.body)

end Snippet
