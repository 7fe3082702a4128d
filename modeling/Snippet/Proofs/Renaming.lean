import Snippet.Proofs.Resolution

/-!
# Names under other names

Another tree has every name of the first one under another name. It is rendered to the same text
where each name is spelled as its new one is: an expression asks its surroundings for nothing but the
spelling of names. Binders keep their names, and only the nodes that rejections tell of differ.
-/

namespace Snippet

open Layout (BraceStyle Step)
open Render Script

section Trees

variable (rename : String → String)

mutual

def Expr.renamed : Expr → Expr
  | .constant value => .constant value
  | .name ident => .name (rename ident)
  | .member value attr => .member value.renamed attr
  | .unary op operand => .unary op operand.renamed
  | .binary left op right => .binary left.renamed op right.renamed
  | .bool op values => .bool op (Expr.renamedAll values)
  | .call func args => .call func.renamed (Expr.renamedAll args)
  | .tuple elements => .tuple (Expr.renamedAll elements)
  | .list elements => .list (Expr.renamedAll elements)
  | .set elements => .set (Expr.renamedAll elements)
  | .dict pairs => .dict (Expr.renamedPairs pairs)
  | .compare left ops comparators => .compare left.renamed ops (Expr.renamedAll comparators)
  | .conditional test body orelse => .conditional test.renamed body.renamed orelse.renamed
  | .subscript value index => .subscript value.renamed index.renamed
  | .slice lower upper step =>
    .slice (Expr.renamedOptional lower) (Expr.renamedOptional upper) (Expr.renamedOptional step)
  | .starred value => .starred value.renamed
  | .matchValue value => .matchValue value.renamed
  | .matchAs binder => .matchAs binder

def Expr.renamedAll : List Expr → List Expr
  | [] => []
  | expr :: rest => expr.renamed :: Expr.renamedAll rest

def Expr.renamedPairs : List (Expr × Expr) → List (Expr × Expr)
  | [] => []
  | (key, value) :: rest => (key.renamed, value.renamed) :: Expr.renamedPairs rest

def Expr.renamedOptional : Option Expr → Option Expr
  | none => none
  | some expr => some expr.renamed

end

def Param.renamed (param : Param) : Param :=
  { param with hint := Expr.renamedOptional rename param.hint }

/-- The parameters keep their names, and decorators are no part of what is rendered. -/
def FunctionHeader.renamed (header : FunctionHeader) : FunctionHeader :=
  { header with
    params := header.params.map (Param.renamed rename)
    defaults := Expr.renamedAll rename header.defaults
    returns := Expr.renamedOptional rename header.returns }

mutual

def Stmt.renamed : Stmt → Stmt
  | .mk line kind => .mk line kind.renamed

def StmtKind.renamed : StmtKind → StmtKind
  | .classDef name bases body =>
    .classDef name (Expr.renamedAll rename bases) (Stmt.renamedAll body)
  | .functionDef header body => .functionDef (header.renamed rename) (Stmt.renamedAll body)
  | .assign targets value => .assign (Expr.renamedAll rename targets) (value.renamed rename)
  | .annAssign declared hint value =>
    .annAssign (declared.renamed rename) (hint.renamed rename) (Expr.renamedOptional rename value)
  | .augAssign assigned op value =>
    .augAssign (assigned.renamed rename) op (value.renamed rename)
  | .branch test body orelse =>
    .branch (test.renamed rename) (Stmt.renamedAll body) (Stmt.renamedAll orelse)
  | .forLoop item iter body isAsync =>
    .forLoop (item.renamed rename) (iter.renamed rename) (Stmt.renamedAll body) isAsync
  | .whileLoop test body => .whileLoop (test.renamed rename) (Stmt.renamedAll body)
  | .pass => .pass
  | .breakLoop => .breakLoop
  | .continueLoop => .continueLoop
  | .returning value => .returning (Expr.renamedOptional rename value)
  | .switch subject cases => .switch (subject.renamed rename) (MatchCase.renamedAll cases)
  | .imports names => .imports names
  | .importFrom module names => .importFrom module names
  | .delete targets => .delete (Expr.renamedAll rename targets)
  | .typeAlias name value => .typeAlias (name.renamed rename) (value.renamed rename)
  | .expr value => .expr (value.renamed rename)

def Stmt.renamedAll : List Stmt → List Stmt
  | [] => []
  | stmt :: rest => stmt.renamed :: Stmt.renamedAll rest

def MatchCase.renamed : MatchCase → MatchCase
  | .mk line pattern body => .mk line (pattern.renamed rename) (Stmt.renamedAll body)

def MatchCase.renamedAll : List MatchCase → List MatchCase
  | [] => []
  | arm :: rest => arm.renamed :: MatchCase.renamedAll rest

end

end Trees

/-! ### What a renaming leaves as it was -/

section Shapes

variable (rename : String → String)

theorem Expr.renamedAll_eq_map (exprs : List Expr) :
    Expr.renamedAll rename exprs = exprs.map (Expr.renamed rename) := by
  induction exprs with
  | nil => rfl
  | cons expr rest ih => rw [Expr.renamedAll, ih, List.map_cons]

theorem Expr.renamedOptional_eq_map (expr : Option Expr) :
    Expr.renamedOptional rename expr = expr.map (Expr.renamed rename) := by
  cases expr with
  | none => rfl
  | some expr => rw [Expr.renamedOptional, Option.map_some]

@[simp] theorem Expr.strength_renamed (expr : Expr) :
    (expr.renamed rename).strength = expr.strength := by
  cases expr <;> simp only [Expr.renamed, Expr.strength]

@[simp] theorem Expr.isStarred_renamed (expr : Expr) :
    (expr.renamed rename).isStarred = expr.isStarred := by
  cases expr <;> rw [Expr.renamed] <;> rfl

@[simp] theorem Expr.isCall_renamed (expr : Expr) :
    (expr.renamed rename).isCall = expr.isCall := by
  cases expr <;> rw [Expr.renamed] <;> rfl

@[simp] theorem Target.operand_renamed (target : Target) (op : Operator) (least : Nat) (expr : Expr)
    (text : String) :
    target.operand op least (expr.renamed rename) text = target.operand op least expr text := by
  simp only [Target.operand, Expr.strength_renamed]

@[simp] theorem Target.atom_renamed (target : Target) (expr : Expr) (text : String) :
    target.atom (expr.renamed rename) text = target.atom expr text := by
  simp only [Target.atom, Expr.strength_renamed]

@[simp] theorem Target.choice_renamed (target : Target) (expr : Expr) (text : String) :
    target.choice (expr.renamed rename) text = target.choice expr text := by
  simp only [Target.choice, Expr.strength_renamed]

@[simp] theorem Stmt.docText?_renamed (stmt : Stmt) :
    (stmt.renamed rename).docText? = stmt.docText? := by
  obtain ⟨line, kind⟩ := stmt
  cases kind with
  | expr value => 
      rw [Stmt.renamed, StmtKind.renamed]
      cases value <;> rw [Expr.renamed] <;> rfl
  | _ => rw [Stmt.renamed, StmtKind.renamed] <;> rfl

theorem FunctionHeader.default?_renamed (header : FunctionHeader) (index : Nat) :
    (header.renamed rename).default? index =
      Expr.renamedOptional rename (header.default? index) := by
  rw [Expr.renamedOptional_eq_map, FunctionHeader.default?, FunctionHeader.default?]
  simp only [FunctionHeader.renamed, Expr.renamedAll_eq_map, List.length_map, Option.map_bind,
    List.getElem?_map, Function.comp_def]

theorem FunctionHeader.hasReceiver_renamed (header : FunctionHeader) :
    (header.renamed rename).hasReceiver = header.hasReceiver := by
  rw [FunctionHeader.hasReceiver.eq_def, FunctionHeader.hasReceiver.eq_def,
    FunctionHeader.renamed]
  cases header.params <;> rfl

end Shapes

/-! ### Expressions -/

theorem toOption_bind {α β : Type} (first : Except Rejection α) (next : α → Except Rejection β) :
    (first >>= next).toOption = first.toOption.bind fun a => (next a).toOption := by
  cases first <;> rfl

theorem toOption_accept {α : Type} (target : Target) (node : RejectedNode) (form : Option α) :
    (target.accept node form).toOption = form := by
  cases form <;> rfl

/-- Each name is spelled in the first surroundings as its new name is in the second. -/
def Target.Respells (target : Target) (rename : String → String) (first second : Surroundings) :
    Prop :=
  ∀ ident asType, target.nameText second (rename ident) asType = target.nameText first ident asType

section Expressions

variable {target : Target} {first second : Surroundings} {rename : String → String}

mutual

theorem Expr.toOption_render_renamed
    (h : target.Respells rename first second) (asType : Bool) : (expr : Expr) →
    ((expr.renamed rename).render target second asType).toOption =
      (expr.render target first asType).toOption
  | .constant value => by rw [Expr.renamed, Expr.render, Expr.render]
  | .name ident => by rw [Expr.renamed, Expr.render, Expr.render, h]
  | .member value attr => by
      have hvalue := Expr.toOption_render_renamed h asType value
      simp only [Expr.renamed, Expr.render, toOption_bind, hvalue, Target.atom_renamed]
  | .unary op operand => by
      have hoperand := Expr.toOption_render_renamed h asType operand
      simp only [Expr.renamed, Expr.render, toOption_bind, hoperand, Target.operand_renamed]
  | .binary left op right => by
      have hleft := Expr.toOption_render_renamed h asType left
      have hright := Expr.toOption_render_renamed h asType right
      simp only [Expr.renamed, Expr.render, toOption_bind, hleft, hright, Target.operand_renamed]
  | .bool op values => by
      have hvalues := Expr.toOption_renderOperands_renamed h asType (.bool op)
        ((Operator.bool op).strength + 1) values
      simp only [Expr.renamed, Expr.render, toOption_bind, hvalues]
  | .call func args => by
      have hfunc := Expr.toOption_render_renamed h asType func
      have hargs := Expr.toOption_renderAll_renamed h asType args
      simp only [Expr.renamed, Expr.render, toOption_bind, toOption_accept, hfunc, hargs,
        Target.atom_renamed]
  | .tuple elements => by
      have helements := Expr.toOption_renderAll_renamed h asType elements
      simp only [Expr.renamed, Expr.render, toOption_bind, toOption_accept, helements]
  | .list elements => by
      have helements := Expr.toOption_renderAll_renamed h asType elements
      simp only [Expr.renamed, Expr.render, toOption_bind, toOption_accept, helements]
  | .set elements => by
      have helements := Expr.toOption_renderAll_renamed h asType elements
      simp only [Expr.renamed, Expr.render, toOption_bind, toOption_accept, helements]
  | .dict pairs => by
      have hpairs := Expr.toOption_renderPairs_renamed h asType pairs
      simp only [Expr.renamed, Expr.render, toOption_bind, toOption_accept, hpairs]
  | .compare left [] comparators => by
      rw [Expr.renamed, Expr.render, Expr.render]
      rfl
  | .compare left (op :: ops) comparators => by
      have hleft := Expr.toOption_render_renamed h asType left
      have hlinks := Expr.toOption_renderLinks_renamed h asType (op :: ops) comparators
      simp only [Expr.renamed, Expr.render, toOption_bind, hleft, hlinks, Target.operand_renamed]
  | .conditional test body orelse => by
      have htest := Expr.toOption_render_renamed h asType test
      have hbody := Expr.toOption_render_renamed h asType body
      have horelse := Expr.toOption_render_renamed h asType orelse
      simp only [Expr.renamed, Expr.render, toOption_bind, toOption_accept, htest, hbody, horelse,
        Target.choice_renamed]
  | .subscript value index => by
      have hvalue := Expr.toOption_render_renamed h asType value
      have hindex := Expr.toOption_render_renamed h asType index
      cases index with
      | slice lower upper step =>
          have hlower := Expr.toOption_renderOptional_renamed h asType lower
          have hupper := Expr.toOption_renderOptional_renamed h asType upper
          have hstep := Expr.toOption_renderOptional_renamed h asType step
          simp only [Expr.renamed, Expr.render, toOption_bind, toOption_accept, hvalue, hlower,
            hupper, hstep, Target.atom_renamed]
      | _ =>
          rw [Expr.renamed, Expr.render_subscript _ (by simp [Expr.renamed]),
            Expr.render_subscript _ (by simp)]
          simp only [toOption_bind, hvalue, hindex, Target.atom_renamed]
  | .slice lower upper step => by
      rw [Expr.renamed, Expr.render, Expr.render]
      rfl
  | .starred value => by
      have hvalue := Expr.toOption_render_renamed h asType value
      simp only [Expr.renamed, Expr.render, toOption_bind, toOption_accept, hvalue,
        Target.atom_renamed]
  | .matchValue value => by
      rw [Expr.renamed, Expr.render, Expr.render, Expr.toOption_render_renamed h asType value]
  | .matchAs none => by rw [Expr.renamed, Expr.render, Expr.render]
  | .matchAs (some binder) => by rw [Expr.renamed, Expr.render, Expr.render]

theorem Expr.toOption_renderAll_renamed
    (h : target.Respells rename first second) (asType : Bool) : (exprs : List Expr) →
    (Expr.renderAll target second asType (Expr.renamedAll rename exprs)).toOption =
      (Expr.renderAll target first asType exprs).toOption
  | [] => by rw [Expr.renamedAll, Expr.renderAll, Expr.renderAll]
  | expr :: rest => by
      have hexpr := Expr.toOption_render_renamed h asType expr
      have hrest := Expr.toOption_renderAll_renamed h asType rest
      simp only [Expr.renamedAll, Expr.renderAll, toOption_bind, hexpr, hrest]

theorem Expr.toOption_renderOperands_renamed
    (h : target.Respells rename first second) (asType : Bool) (op : Operator) (least : Nat) :
    (exprs : List Expr) →
    (Expr.renderOperands target second asType op least (Expr.renamedAll rename exprs)).toOption =
      (Expr.renderOperands target first asType op least exprs).toOption
  | [] => by rw [Expr.renamedAll, Expr.renderOperands, Expr.renderOperands]
  | expr :: rest => by
      have hexpr := Expr.toOption_render_renamed h asType expr
      have hrest := Expr.toOption_renderOperands_renamed h asType op least rest
      simp only [Expr.renamedAll, Expr.renderOperands, toOption_bind, hexpr, hrest,
        Target.operand_renamed]

theorem Expr.toOption_renderPairs_renamed
    (h : target.Respells rename first second) (asType : Bool) : (pairs : List (Expr × Expr)) →
    (Expr.renderPairs target second asType (Expr.renamedPairs rename pairs)).toOption =
      (Expr.renderPairs target first asType pairs).toOption
  | [] => by rw [Expr.renamedPairs, Expr.renderPairs, Expr.renderPairs]
  | (key, value) :: rest => by
      have hkey := Expr.toOption_render_renamed h asType key
      have hvalue := Expr.toOption_render_renamed h asType value
      have hrest := Expr.toOption_renderPairs_renamed h asType rest
      simp only [Expr.renamedPairs, Expr.renderPairs, toOption_bind, hkey, hvalue, hrest]

theorem Expr.toOption_renderLinks_renamed
    (h : target.Respells rename first second) (asType : Bool) :
    (ops : List CompareOp) → (comparators : List Expr) →
    (Expr.renderLinks target second asType ops (Expr.renamedAll rename comparators)).toOption =
      (Expr.renderLinks target first asType ops comparators).toOption
  | op :: ops, expr :: rest => by
      have hexpr := Expr.toOption_render_renamed h asType expr
      have hrest := Expr.toOption_renderLinks_renamed h asType ops rest
      simp only [Expr.renamedAll, Expr.renderLinks, toOption_bind, hexpr, hrest,
        Target.operand_renamed]
  | [], _ => by simp [Expr.renderLinks]
  | _ :: _, [] => by simp [Expr.renamedAll, Expr.renderLinks]

theorem Expr.toOption_renderOptional_renamed
    (h : target.Respells rename first second) (asType : Bool) : (expr : Option Expr) →
    (Expr.renderOptional target second asType (Expr.renamedOptional rename expr)).toOption =
      (Expr.renderOptional target first asType expr).toOption
  | none => by rw [Expr.renamedOptional, Expr.renderOptional, Expr.renderOptional]
  | some expr => by
      have hexpr := Expr.toOption_render_renamed h asType expr
      simp only [Expr.renamedOptional, Expr.renderOptional, toOption_bind, hexpr]

end

theorem Expr.rangeArguments?_renamed (hrange : ∀ ident, rename ident = "range" ↔ ident = "range")
    (iter : Expr) :
    (iter.renamed rename).rangeArguments? = iter.rangeArguments?.map (Expr.renamedAll rename) := by
  have hstarred : ∀ args : List Expr,
      (Expr.renamedAll rename args).any Expr.isStarred = args.any Expr.isStarred := fun args => by
    simp [Expr.renamedAll_eq_map, Function.comp_def]
  cases iter with
  | call func args =>
      cases func with
      | name ident =>
          by_cases hident : ident = "range"
          · subst hident
            rw [Expr.renamed, Expr.renamed, (hrange "range").mpr rfl, Expr.rangeArguments?,
              Expr.rangeArguments?, hstarred]
            split <;> rfl
          · have hother : rename ident ≠ "range" := fun heq => hident ((hrange ident).mp heq)
            simp [Expr.renamed, Expr.rangeArguments?, hident, hother]
      | _ => simp [Expr.renamed, Expr.rangeArguments?]
  | _ => simp [Expr.renamed, Expr.rangeArguments?]

theorem Expr.toOption_renderLoopItems_renamed (h : target.Respells rename first second)
    (hrange : ∀ ident, rename ident = "range" ↔ ident = "range") (iter : Expr) :
    ((iter.renamed rename).renderLoopItems target second).toOption =
      (iter.renderLoopItems target first).toOption := by
  have hiter := Expr.toOption_render_renamed h false iter
  rw [Expr.renderLoopItems, Expr.renderLoopItems, Expr.rangeArguments?_renamed hrange]
  cases iter.rangeArguments? with
  | none => simp only [Option.map_none, toOption_bind, hiter]
  | some args =>
      have hargs := Expr.toOption_renderAll_renamed h false args
      simp only [Option.map_some, toOption_bind, hargs]
      refine Option.bind_congr fun texts _ => ?_
      cases Bounds.ofArguments texts <;> simp only [toOption_bind, hiter]

theorem FunctionHeader.toOption_renderParams_renamed (h : target.Respells rename first second)
    (header : FunctionHeader) (index : Nat) (params : List Param) :
    ((header.renamed rename).renderParams target second index
        (params.map (Param.renamed rename))).toOption =
      (header.renderParams target first index params).toOption := by
  induction params generalizing index with
  | nil => rfl
  | cons param rest ih =>
      have hhint := Expr.toOption_renderOptional_renamed h true param.hint
      have hdefault := Expr.toOption_renderOptional_renamed h false (header.default? index)
      rw [List.map_cons, FunctionHeader.renderParams, FunctionHeader.renderParams,
        FunctionHeader.default?_renamed]
      simp only [toOption_bind, Param.renamed, hhint, hdefault, ih]

end Expressions

end Snippet
