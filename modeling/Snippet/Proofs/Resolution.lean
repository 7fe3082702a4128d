import Snippet.Proofs.Balance

/-!
# Names in pseudocode are resolved where they stand

The walk keeps a stack of scopes and pushes, declares and pops as it goes. In pseudocode the same
script comes from a rendering that has no stack: it hands every node the declarations that are in
sight where the node stands, and forgets those of a block at the end of the block.
-/

namespace Snippet

open Comment (Record)
open Layout
open Render Script
open Text (cleanDoc)

namespace Render

/-- What is written unless something is rejected. -/
def Outcome.written {α : Type} (outcome : Outcome α) : Except Rejection (List Step) :=
  outcome.result.map fun _ => outcome.steps

/-- The declarations in sight of a node, the nearest first, each with the text of its type. -/
abbrev Sight := List (String × String)

/-- Surroundings outside classes with just these declarations. -/
def Sight.around (sight : Sight) : Surroundings := ⟨⟨[], sight⟩, none, false, 0⟩

/-- A name among these declarations. It stands under an arrow when the type of its nearest declaration
starts as a vector type does. -/
def Sight.spelled (sight : Sight) (ident : String) (asType : Bool) : String :=
  let plain := (if asType then Pseudocode.typeName? ident else none).getD (Pseudocode.symbol ident)
  match sight.lookup ident with
  | none => plain
  | some type => if Pseudocode.isVectorType type then "\\vec\x7b" ++ plain ++ "\x7d" else plain

end Render

/-! ### Rendering by what is in sight -/

/-- The parameters that a function's body has in sight, the last one first. A parameter without a
type is declared all the same, and one that is the subject is not declared. -/
def Signature.declared (subject : Option String) (signature : Signature) : Sight :=
  ((Pseudocode.listedParams subject signature.params).map fun param =>
    (param.name, param.hint.getD "")).reverse

/-- What a statement declares for itself and for those after it in its block. -/
def StmtKind.declared (subject : Option String) (sight : Sight) : StmtKind → Sight
  | .annAssign (.name ident) hint _ =>
    match hint.render (.pseudocode subject) sight.around true with
    | .ok type => [(ident, type)]
    | .error _ => []
  | _ => []

def documentationSteps (target : Target) : List Stmt → List Step
  | [] => []
  | first :: _ =>
    match first.docText? with
    | some text => target.docComment (cleanDoc (documentation text))
    | none => []

def deeper (steps : List Step) : List Step := .indent :: (steps ++ [.dedent])

section Lexical

variable (subject : Option String)

mutual

def Stmt.lexical (sight : Sight) : Stmt → Except Rejection (List Step)
  | .mk line kind => do return .prepare line :: (← kind.lexical sight)

/-- A type stands before its declaration, the target and the value of the declaration after it.
Parameters are in sight of the body alone, and no block leaves anything in sight. -/
def StmtKind.lexical (sight : Sight) : StmtKind → Except Rejection (List Step)
  | .classDef name bases body => do
    let _ ← Expr.renderAll (.pseudocode subject) sight.around true bases
    .error ⟨.pseudocode subject, .stmt (.classDef name bases body)⟩
  | .functionDef header body => do
    let returns ← Expr.renderOptional (.pseudocode subject) sight.around true header.returns
    let params ← header.renderParams (.pseudocode subject) sight.around 0 header.params
    let signature : Signature := ⟨header.name, params, returns, header.isAsync, false, false⟩
    let inner ← Stmt.lexicalUndocumented (signature.declared subject ++ sight) body
    return documentationSteps (.pseudocode subject) body ++
      (Pseudocode.beginFunction subject sight.around signature).2 ++ deeper inner
  | .assign targets value => do
    let texts ← Expr.renderAll (.pseudocode subject) sight.around false targets
    let text ← value.render (.pseudocode subject) sight.around false
    return Target.assign (.pseudocode subject) texts text
  | .annAssign declared hint value => do
    let type ← hint.render (.pseudocode subject) sight.around true
    let after := (StmtKind.annAssign declared hint value).declared subject sight ++ sight
    let name ← declared.render (.pseudocode subject) after.around false
    let text ← Expr.renderOptional (.pseudocode subject) after.around false value
    return [.line (Pseudocode.declaration ⟨name, type, text, value.any Expr.isCall⟩)]
  | .augAssign assigned op value => do
    let name ← assigned.render (.pseudocode subject) sight.around false
    let text ← value.render (.pseudocode subject) sight.around false
    return Target.assignOp (.pseudocode subject) name (.binary op) text
  | .branch test body orelse => do
    let text ← test.render (.pseudocode subject) sight.around false
    let inner ← Stmt.lexicalAll sight body
    let others ← Stmt.lexicalOrelse sight orelse
    return Target.beginIf (.pseudocode subject) text ++ deeper inner ++ others
  | .forLoop item iter body _ => do
    let name ← item.render (.pseudocode subject) sight.around false
    let items ← iter.renderLoopItems (.pseudocode subject) sight.around
    let inner ← Stmt.lexicalAll sight body
    return .line (Pseudocode.forHeader name items) :: deeper inner
  | .whileLoop test body => do
    let text ← test.render (.pseudocode subject) sight.around false
    let inner ← Stmt.lexicalAll sight body
    return Target.beginWhile (.pseudocode subject) text ++ deeper inner
  | .pass => .ok []
  | .breakLoop => .ok (Target.keywordStatement (.pseudocode subject) "break")
  | .continueLoop => .ok (Target.keywordStatement (.pseudocode subject) "continue")
  | .returning value => do
    let text ← Expr.renderOptional (.pseudocode subject) sight.around false value
    return Target.returning (.pseudocode subject) text
  | .switch value cases => do
    let _ ← value.render (.pseudocode subject) sight.around false
    .error ⟨.pseudocode subject, .stmt (.switch value cases)⟩
  | .imports _ => .ok []
  | .importFrom module names => .error ⟨.pseudocode subject, .stmt (.importFrom module names)⟩
  | .delete targets => do
    let _ ← Expr.renderAll (.pseudocode subject) sight.around false targets
    .error ⟨.pseudocode subject, .stmt (.delete targets)⟩
  | .typeAlias name value => do
    let _ ← name.render (.pseudocode subject) sight.around true
    let _ ← value.render (.pseudocode subject) sight.around true
    .error ⟨.pseudocode subject, .stmt (.typeAlias name value)⟩
  | .expr (.constant value) =>
    .ok (Target.comment (.pseudocode subject) (cleanDoc value.plainText))
  | .expr value => do
    let text ← value.render (.pseudocode subject) sight.around false
    return Target.expressionStatement (.pseudocode subject) text

/-- A statement has in sight what those before it in its block declare. -/
def Stmt.lexicalAll (sight : Sight) : List Stmt → Except Rejection (List Step)
  | [] => .ok []
  | stmt :: rest => do
    let first ← stmt.lexical sight
    return first ++ (← Stmt.lexicalAll (stmt.kind.declared subject sight ++ sight) rest)

def Stmt.lexicalUndocumented (sight : Sight) : List Stmt → Except Rejection (List Step)
  | [] => .ok []
  | stmt :: rest =>
    if stmt.docText?.isSome then Stmt.lexicalAll sight rest
    else do
      let first ← stmt.lexical sight
      return first ++ (← Stmt.lexicalAll (stmt.kind.declared subject sight ++ sight) rest)

def Stmt.lexicalOrelse (sight : Sight) : List Stmt → Except Rejection (List Step)
  | [] => .ok []
  | [.mk line (.branch test body orelse)] => do
    let text ← test.render (.pseudocode subject) sight.around false
    let inner ← Stmt.lexicalAll sight body
    let others ← Stmt.lexicalOrelse sight orelse
    return .prepare line ::
      (Target.beginElif (.pseudocode subject) text ++ deeper inner ++ others)
  | stmt :: rest => do
    let first ← stmt.lexical sight
    let others ← Stmt.lexicalAll (stmt.kind.declared subject sight ++ sight) rest
    return .prepare stmt.line ::
      (Target.beginElse (.pseudocode subject) ++ deeper (first ++ others))

end

def Program.lexical (program : Program) : Except Rejection (List Step) :=
  Stmt.lexicalAll subject [] program.body

end Lexical

/-! ### Names are all that an expression asks its surroundings for -/

section Congruence

variable {target : Target} {first second : Surroundings}

theorem Expr.render_subscript {around : Surroundings} {asType : Bool} (value : Expr)
    {index : Expr} (h : ∀ lower upper step, index ≠ .slice lower upper step) :
    (Expr.subscript value index).render target around asType = do
      let text ← value.render target around asType
      let indexText ← index.render target around asType
      return Target.subscript (target.atom value text) indexText := by
  rw [Expr.render]
  exact h

mutual

theorem Expr.render_congr (h : target.nameText first = target.nameText second) (asType : Bool) :
    (expr : Expr) → expr.render target first asType = expr.render target second asType
  | .constant value => by rw [Expr.render, Expr.render]
  | .name ident => by rw [Expr.render, Expr.render, h]
  | .member value attr => by
      rw [Expr.render, Expr.render, Expr.render_congr h asType value]
  | .unary op operand => by
      rw [Expr.render, Expr.render, Expr.render_congr h asType operand]
  | .binary left op right => by
      rw [Expr.render, Expr.render, Expr.render_congr h asType left,
        Expr.render_congr h asType right]
  | .bool op values => by
      rw [Expr.render, Expr.render, Expr.renderOperands_congr h asType _ _ values]
  | .call func args => by
      rw [Expr.render, Expr.render, Expr.render_congr h asType func,
        Expr.renderAll_congr h asType args]
  | .tuple elements => by
      rw [Expr.render, Expr.render, Expr.renderAll_congr h asType elements]
  | .list elements => by
      rw [Expr.render, Expr.render, Expr.renderAll_congr h asType elements]
  | .set elements => by
      rw [Expr.render, Expr.render, Expr.renderAll_congr h asType elements]
  | .dict pairs => by
      rw [Expr.render, Expr.render, Expr.renderPairs_congr h asType pairs]
  | .compare left [] comparators => by rw [Expr.render, Expr.render]
  | .compare left (op :: ops) comparators => by
      rw [Expr.render, Expr.render, Expr.render_congr h asType left,
        Expr.renderLinks_congr h asType (op :: ops) comparators]
  | .conditional test body orelse => by
      rw [Expr.render, Expr.render, Expr.render_congr h asType test,
        Expr.render_congr h asType body, Expr.render_congr h asType orelse]
  | .subscript value index => by
      have hvalue := Expr.render_congr h asType value
      have hindex := Expr.render_congr h asType index
      cases index with
      | slice lower upper step =>
          rw [Expr.render, Expr.render, hvalue, Expr.renderOptional_congr h asType lower,
            Expr.renderOptional_congr h asType upper, Expr.renderOptional_congr h asType step]
      | _ =>
          rw [Expr.render_subscript value (by simp), Expr.render_subscript value (by simp), hvalue,
            hindex]
  | .slice lower upper step => by rw [Expr.render, Expr.render]
  | .starred value => by
      rw [Expr.render, Expr.render, Expr.render_congr h asType value]
  | .matchValue value => by
      rw [Expr.render, Expr.render, Expr.render_congr h asType value]
  | .matchAs none => by rw [Expr.render, Expr.render]
  | .matchAs (some binder) => by rw [Expr.render, Expr.render]

theorem Expr.renderAll_congr (h : target.nameText first = target.nameText second) (asType : Bool) :
    (exprs : List Expr) →
      Expr.renderAll target first asType exprs = Expr.renderAll target second asType exprs
  | [] => by rw [Expr.renderAll, Expr.renderAll]
  | expr :: rest => by
      rw [Expr.renderAll, Expr.renderAll, Expr.render_congr h asType expr,
        Expr.renderAll_congr h asType rest]

theorem Expr.renderOperands_congr (h : target.nameText first = target.nameText second)
    (asType : Bool) (op : Operator) (least : Nat) : (exprs : List Expr) →
      Expr.renderOperands target first asType op least exprs =
        Expr.renderOperands target second asType op least exprs
  | [] => by rw [Expr.renderOperands, Expr.renderOperands]
  | expr :: rest => by
      rw [Expr.renderOperands, Expr.renderOperands, Expr.render_congr h asType expr,
        Expr.renderOperands_congr h asType op least rest]

theorem Expr.renderPairs_congr (h : target.nameText first = target.nameText second)
    (asType : Bool) : (pairs : List (Expr × Expr)) →
      Expr.renderPairs target first asType pairs = Expr.renderPairs target second asType pairs
  | [] => by rw [Expr.renderPairs, Expr.renderPairs]
  | (key, value) :: rest => by
      rw [Expr.renderPairs, Expr.renderPairs, Expr.render_congr h asType key,
        Expr.render_congr h asType value, Expr.renderPairs_congr h asType rest]

theorem Expr.renderLinks_congr (h : target.nameText first = target.nameText second)
    (asType : Bool) : (ops : List CompareOp) → (comparators : List Expr) →
      Expr.renderLinks target first asType ops comparators =
        Expr.renderLinks target second asType ops comparators
  | op :: ops, expr :: rest => by
      rw [Expr.renderLinks, Expr.renderLinks, Expr.render_congr h asType expr,
        Expr.renderLinks_congr h asType ops rest]
  | [], _ => by simp [Expr.renderLinks]
  | _ :: _, [] => by simp [Expr.renderLinks]

theorem Expr.renderOptional_congr (h : target.nameText first = target.nameText second)
    (asType : Bool) : (expr : Option Expr) →
      Expr.renderOptional target first asType expr = Expr.renderOptional target second asType expr
  | none => by rw [Expr.renderOptional, Expr.renderOptional]
  | some expr => by
      rw [Expr.renderOptional, Expr.renderOptional, Expr.render_congr h asType expr]

end

theorem Expr.renderLoopItems_congr (h : target.nameText first = target.nameText second)
    (iter : Expr) : iter.renderLoopItems target first = iter.renderLoopItems target second := by
  simp only [Expr.renderLoopItems, Expr.render_congr h, Expr.renderAll_congr h]

theorem FunctionHeader.renderParams_congr (h : target.nameText first = target.nameText second)
    (header : FunctionHeader) (index : Nat) (params : List Param) :
    header.renderParams target first index params =
      header.renderParams target second index params := by
  induction params generalizing index with
  | nil => rfl
  | cons param rest ih =>
      rw [FunctionHeader.renderParams, FunctionHeader.renderParams, ih,
        Expr.renderOptional_congr h, Expr.renderOptional_congr h]

end Congruence

/-! ### What a script writes -/

theorem bind_congr_ok {ε α β : Type} {first : Except ε α} {next other : α → Except ε β}
    (h : ∀ a, first = .ok a → next a = other a) : first >>= next = first >>= other := by
  cases first with
  | error fault => rfl
  | ok a => exact h a rfl

namespace Render.Script

variable {α : Type} (around : Surroundings)

theorem written_emit_bind (steps : List Step) (next : Script Unit) :
    ((emit steps >>= fun _ => next) around).written = do
      return steps ++ (← (next around).written) := by
  rw [bind_apply, Outcome.written, Outcome.written]
  change Except.map _ (next around).result = _
  cases (next around).result <;> rfl

theorem written_text_bind (render : Surroundings → Except Rejection α) (next : α → Script Unit) :
    ((Script.text render >>= next) around).written =
      render around >>= fun a => (next a around).written := by
  have hresult : (Script.text render around).result = render around := rfl
  rw [bind_apply, hresult]
  cases render around with
  | error rejection => rfl
  | ok a =>
      change Except.map _ (next a around).result = (next a around).written
      rfl

theorem written_bind (first next : Script Unit) :
    ((first >>= fun _ => next) around).written = do
      let before ← (first around).written
      return before ++ (← (next (first around).around).written) := by
  rw [bind_apply, Outcome.written, Outcome.written, Outcome.written]
  cases (first around).result with
  | error rejection => rfl
  | ok value =>
      cases (next (first around).around).result <;> rfl

theorem written_block (body : Script Unit) :
    (block none body around).written = do
      return deeper (← (body (around.enter none).pushScope).written) := by
  rw [block, indented, inScope, Outcome.written, Outcome.written]
  cases (body (around.enter none).pushScope).result <;> rfl

theorem written_emit (steps : List Step) : (emit steps around).written = pure steps := rfl

theorem written_surroundings_bind (next : Surroundings → Script Unit) :
    ((surroundings >>= next) around).written = (next around around).written := by
  rw [bind_apply]
  rfl

theorem written_inScope (body : Script Unit) :
    (inScope body around).written = (body around.pushScope).written := rfl

/-- A block leaves what surrounds it as it was. -/
theorem written_block_bind {body : Script Unit} (h : OnlyDeclares body) (next : Script Unit) :
    ((block none body >>= fun _ => next) around).written = do
      let inner ← (body (around.enter none).pushScope).written
      return deeper inner ++ (← (next around).written) := by
  rw [written_bind, written_block, Restores.block none h around, bind_assoc]
  rfl

end Render.Script

/-! ### The stack of scopes and the declarations in sight -/

namespace Render

namespace ScopeStack

theorem lookup?_declare (scopes : ScopeStack) (declared type name : String) :
    (scopes.declare declared type).lookup? name =
      if name == declared then some type else scopes.lookup? name := by
  obtain ⟨inner, outermost⟩ := scopes
  cases inner with
  | nil =>
      simp only [declare, lookup?, List.nil_append, List.findSome?_cons, List.lookup_cons]
      cases name == declared <;> rfl
  | cons scope rest =>
      simp only [declare, lookup?, List.cons_append, List.findSome?_cons, List.lookup_cons]
      cases name == declared <;> rfl

end ScopeStack

/-- The names that surroundings outside classes have in sight. -/
structure Surroundings.Sees (around : Surroundings) (sight : Sight) : Prop where
  className : around.className = none
  lookup? : ∀ name, around.scopes.lookup? name = sight.lookup name

namespace Surroundings.Sees

variable {around : Surroundings} {sight : Sight}

theorem outermost : Surroundings.outermost.Sees [] := ⟨rfl, fun _ => rfl⟩

theorem pushScope (h : around.Sees sight) : around.pushScope.Sees sight :=
  ⟨h.className, h.lookup?⟩

theorem enter (h : around.Sees sight) : (around.enter none).Sees sight := ⟨rfl, h.lookup?⟩

theorem declare (h : around.Sees sight) (name type : String) :
    (around.declare name type).Sees ((name, type) :: sight) := by
  refine ⟨h.className, fun other => ?_⟩
  rw [Surroundings.declare, ScopeStack.lookup?_declare, List.lookup_cons, h.lookup? other]
  cases other == name <;> rfl

/-- Pseudocode spells names by what is in sight. -/
theorem nameText (h : around.Sees sight) (subject : Option String) :
    (Target.pseudocode subject).nameText around =
      (Target.pseudocode subject).nameText sight.around := by
  funext name asType
  have hlookup : sight.around.scopes.lookup? name = sight.lookup name := by
    rw [Sight.around, ScopeStack.lookup?, List.nil_append, List.findSome?_singleton]
  simp only [Target.nameText, Pseudocode.name, ScopeStack.lookup, h.lookup?, hlookup]

/-- Parameters come into sight one after another. -/
theorem inputs (h : around.Sees sight) (params : List SignatureParam) :
    (Pseudocode.inputs around params).1.Sees
      ((params.map fun param => (param.name, param.hint.getD "")).reverse ++ sight) := by
  induction params generalizing around sight with
  | nil => exact h
  | cons param rest ih =>
      simpa [Pseudocode.inputs] using ih (h.declare param.name (param.hint.getD ""))

theorem of_around (sight : Sight) : sight.around.Sees sight := by
  refine ⟨rfl, fun name => ?_⟩
  rw [Sight.around, ScopeStack.lookup?, List.nil_append, List.findSome?_singleton]

/-- What is in sight settles how the parameters are listed. -/
theorem inputs_steps {first second : Surroundings} (h₁ : first.Sees sight) (h₂ : second.Sees sight)
    (params : List SignatureParam) :
    (Pseudocode.inputs first params).2 = (Pseudocode.inputs second params).2 := by
  induction params generalizing first second sight with
  | nil => rfl
  | cons param rest ih =>
      have hfirst := h₁.declare param.name (param.hint.getD "")
      have hsecond := h₂.declare param.name (param.hint.getD "")
      have hname : Pseudocode.name (first.declare param.name (param.hint.getD "")) =
          Pseudocode.name (second.declare param.name (param.hint.getD "")) :=
        (hfirst.nameText none).trans (hsecond.nameText none).symm
      simp only [Pseudocode.inputs, Pseudocode.input, hname, ih hfirst hsecond]

variable (subject : Option String) (signature : Signature)

theorem beginFunction (h : around.Sees sight) :
    (Pseudocode.beginFunction subject around signature).1.Sees
      (signature.declared subject ++ sight) := by
  have hinputs := h.inputs (Pseudocode.listedParams subject signature.params)
  rw [Pseudocode.beginFunction, Signature.declared]
  split
  · next hempty => simpa [List.isEmpty_iff.mp hempty] using h
  · exact hinputs

theorem beginFunction_steps (h : around.Sees sight) :
    (Pseudocode.beginFunction subject around signature).2 =
      (Pseudocode.beginFunction subject sight.around signature).2 := by
  have hinputs := h.inputs_steps (of_around sight) (Pseudocode.listedParams subject signature.params)
  simp only [Pseudocode.beginFunction, hinputs]
  split <;> rfl

end Surroundings.Sees

end Render

section Rendering

variable {around : Surroundings} {sight : Sight} (subject : Option String)

/-- After a statement its declaration is in sight. -/
theorem sees_render (h : around.Sees sight) (stmt : Stmt) :
    (stmt.render (.pseudocode subject) around).around.Sees
      (stmt.kind.declared subject sight ++ sight) := by
  obtain ⟨line, kind⟩ := stmt
  have hkind : ((Stmt.mk line kind).render (.pseudocode subject) around).around =
      (kind.render (.pseudocode subject) around).around := by
    rw [Stmt.render, bind_apply]
    rfl
  rw [hkind, Stmt.kind]
  by_cases hplain : ∃ ident hint value, kind = .annAssign (.name ident) hint value
  · obtain ⟨ident, hint, value, rfl⟩ := hplain
    rw [StmtKind.declared, ← Expr.render_congr (h.nameText subject) true hint]
    rcases renderDeclaration_around (.pseudocode subject) ident hint value around with
      ⟨rejection, hhint, hsame⟩ | ⟨type, hhint, hdeclares⟩
    · rw [hhint, hsame]
      exact h
    · rw [hhint, hdeclares]
      exact h.declare ident type
  · have hrestores := renderKind_restores (.pseudocode subject) kind fun ident hint value heq =>
      hplain ⟨_, _, _, heq⟩
    have hdeclared : kind.declared subject sight = [] := by
      rw [StmtKind.declared]
      rintro ident hint value rfl
      exact hplain ⟨_, _, _, rfl⟩
    rw [hrestores around, hdeclared]
    exact h

theorem renderDocumentation_eq (target : Target) (body : List Stmt) :
    renderDocumentation target body = emit (documentationSteps target body) := by
  cases body with
  | nil => rfl
  | cons first rest =>
      rw [renderDocumentation, documentationSteps]
      cases first.docText? <;> rfl

/-- The target and the value of a declaration have it in sight. -/
theorem sees_declareTarget (h : around.Sees sight) (declared : Expr) {hint : Expr}
    (value : Option Expr) {type : String}
    (hhint : hint.render (.pseudocode subject) sight.around true = .ok type) :
    (declareTarget declared type around).around.Sees
      ((StmtKind.annAssign declared hint value).declared subject sight ++ sight) := by
  cases declared with
  | name ident =>
      rw [StmtKind.declared, hhint]
      exact h.declare ident type
  | _ => exact h

theorem written_declareTarget (declared : Expr) (type : String) :
    (declareTarget declared type around).written = pure [] := by
  cases declared <;> rfl

/-- Outside classes no parameter is left out as a receiver. -/
theorem written_renderSignature_bind (h : around.Sees sight) (header : FunctionHeader)
    (returns : Option String) (next : Signature → Script Unit) :
    ((header.renderSignature (.pseudocode subject) false returns >>= next) around).written =
      header.renderParams (.pseudocode subject) sight.around 0 header.params >>= fun params =>
        (next ⟨header.name, params, returns, header.isAsync, false, false⟩ around).written := by
  rw [FunctionHeader.renderSignature, bind_assoc, written_text_bind,
    header.renderParams_congr (h.nameText subject)]
  rfl

/-- A function's header brings its parameters into sight. -/
theorem written_beginFunction_bind (h : around.Sees sight) (node : RejectedNode)
    (signature : Signature) (next : Script Unit) :
    ∃ inside, inside.Sees (signature.declared subject ++ sight) ∧
      (((begin? (.pseudocode subject) node fun around =>
        Target.beginFunction? (.pseudocode subject) around signature) >>= fun _ => next)
          around).written = do
        return (Pseudocode.beginFunction subject sight.around signature).2 ++
          (← (next inside).written) := by
  refine ⟨_, h.beginFunction subject signature, ?_⟩
  rw [← h.beginFunction_steps subject signature]
  exact written_bind around _ next

/-- The statements under `else` from what the first of them and the rest write. -/
theorem written_otherwise (around : Surroundings) {first rest : Script Unit}
    {firstSteps restSteps : Except Rejection (List Step)} (line : UInt64)
    (hfirst : (first (around.enter none).pushScope).written = firstSteps)
    (hrest : (rest (first (around.enter none).pushScope).around).written = restSteps) :
    ((do
      emit [.prepare line]
      emit (Target.beginElse (.pseudocode subject))
      block none do
        first
        rest : Script Unit) around).written = do
      let before ← firstSteps
      let after ← restSteps
      return .prepare line ::
        (Target.beginElse (.pseudocode subject) ++ deeper (before ++ after)) := by
  rw [written_emit_bind, written_emit_bind, written_block, written_bind, hfirst, hrest]
  simp only [bind_assoc, pure_bind, List.cons_append, List.nil_append]

mutual

theorem Stmt.written_render {around : Surroundings} {sight : Sight} (h : around.Sees sight) :
    (stmt : Stmt) →
      (stmt.render (.pseudocode subject) around).written = stmt.lexical subject sight
  | .mk line kind => by
      rw [Stmt.render, written_emit_bind, StmtKind.written_render h kind, Stmt.lexical]
      rfl

theorem StmtKind.written_render {around : Surroundings} {sight : Sight} (h : around.Sees sight) :
    (kind : StmtKind) →
      (kind.render (.pseudocode subject) around).written = kind.lexical subject sight
  | .classDef name bases body => by
      simp only [StmtKind.render, StmtKind.lexical, renderDocumentation_eq, renderTypes,
        written_emit_bind, written_text_bind, Expr.renderAll_congr (h.nameText subject)]
      cases Expr.renderAll (.pseudocode subject) sight.around true bases <;> rfl
  | .functionDef header body => by
      rw [StmtKind.render, StmtKind.lexical, renderDocumentation_eq, written_emit_bind,
        written_surroundings_bind, h.className, renderOptionalType, written_text_bind,
        Expr.renderOptional_congr (h.nameText subject), bind_assoc]
      refine bind_congr fun returns => ?_
      rw [written_inScope, Option.isSome_none, written_renderSignature_bind subject h.pushScope,
        bind_assoc]
      refine bind_congr fun params => ?_
      obtain ⟨inside, hinside, hbegin⟩ := written_beginFunction_bind subject h.pushScope
        (.stmt (.functionDef header body))
        ⟨header.name, params, returns, header.isAsync, false, false⟩ _
      have hbody := Stmt.written_renderUndocumented hinside.enter.pushScope body
      have honly := (walked_onlyDeclares (.pseudocode subject)).undocumented body
      rw [hbegin, written_block_bind _ honly, hbody]
      simp only [written_emit, Target.endFunction, bind_assoc, pure_bind, List.append_nil,
        List.append_assoc]
  | .assign targets value => by
      simp only [StmtKind.render, StmtKind.lexical, renderExprs, renderExpr, written_text_bind,
        Expr.renderAll_congr (h.nameText subject), Expr.render_congr (h.nameText subject)]
      rfl
  | .annAssign declared hint value => by
      have htype := Expr.render_congr (h.nameText subject) true hint
      rw [StmtKind.render, StmtKind.lexical, renderType, written_text_bind, htype]
      refine bind_congr_ok fun type hhint => ?_
      have hafter := (sees_declareTarget subject h declared value hhint).nameText subject
      simp only [renderExpr, renderOptionalExpr, written_bind, written_declareTarget, pure_bind,
        written_text_bind, written_surroundings_bind, Expr.render_congr hafter,
        Expr.renderOptional_congr hafter, written_emit, List.nil_append, bind_pure]
      rfl
  | .augAssign assigned op value => by
      simp only [StmtKind.render, StmtKind.lexical, renderExpr, written_text_bind,
        Expr.render_congr (h.nameText subject)]
      rfl
  | .branch test body orelse => by
      have hbody := Stmt.written_renderAll h.enter.pushScope body
      have horelse := Stmt.written_renderOrelse h orelse
      simp only [StmtKind.render, StmtKind.lexical, renderExpr, written_text_bind, written_emit_bind,
        Expr.render_congr (h.nameText subject),
        written_block_bind _ ((walked_onlyDeclares (.pseudocode subject)).all body), hbody]
      simp only [written_bind, horelse, written_emit, Target.endBlock, bind_assoc, pure_bind,
        List.append_assoc, List.append_nil]
  | .forLoop item iter body isAsync => by
      have hbody := Stmt.written_renderAll h.enter.pushScope body
      have hblock := written_block_bind around ((walked_onlyDeclares (.pseudocode subject)).all body)
      simp only [StmtKind.render, StmtKind.lexical, renderExpr, written_text_bind,
        Target.beginFor?, emit?, written_emit_bind, Expr.render_congr (h.nameText subject),
        Expr.renderLoopItems_congr (h.nameText subject), hblock, hbody, written_emit,
        Target.endBlock, bind_assoc, pure_bind, List.append_nil]
      rfl
  | .whileLoop test body => by
      have hbody := Stmt.written_renderAll h.enter.pushScope body
      have hblock := written_block_bind around ((walked_onlyDeclares (.pseudocode subject)).all body)
      simp only [StmtKind.render, StmtKind.lexical, renderExpr, written_text_bind, written_emit_bind,
        Expr.render_congr (h.nameText subject), hblock, hbody, written_emit, Target.endBlock,
        bind_assoc, pure_bind, List.append_nil]
  | .pass => by
      rw [StmtKind.render, StmtKind.lexical]
      rfl
  | .breakLoop => by
      rw [StmtKind.render, StmtKind.lexical]
      rfl
  | .continueLoop => by
      rw [StmtKind.render, StmtKind.lexical]
      rfl
  | .returning value => by
      simp only [StmtKind.render, StmtKind.lexical, renderOptionalExpr, written_text_bind,
        Expr.renderOptional_congr (h.nameText subject)]
      rfl
  | .switch value cases => by
      simp only [StmtKind.render, StmtKind.lexical, renderExpr, written_text_bind,
        Expr.render_congr (h.nameText subject)]
      rfl
  | .imports names => by
      rw [StmtKind.render, StmtKind.lexical]
      rfl
  | .importFrom module names => by
      rw [StmtKind.render, StmtKind.lexical]
      rfl
  | .delete targets => by
      simp only [StmtKind.render, StmtKind.lexical, renderExprs, written_text_bind,
        Expr.renderAll_congr (h.nameText subject)]
      rfl
  | .typeAlias name value => by
      simp only [StmtKind.render, StmtKind.lexical, renderType, written_text_bind,
        Expr.render_congr (h.nameText subject)]
      rfl
  | .expr value => by
      rw [StmtKind.render.eq_def]
      cases value with
      | constant value => rfl
      | _ =>
          simp only [renderExpr, written_text_bind, Expr.render_congr (h.nameText subject)]
          rw [StmtKind.lexical]
          · rfl
          · simp

theorem Stmt.written_renderAll {around : Surroundings} {sight : Sight} (h : around.Sees sight) :
    (stmts : List Stmt) →
      (Stmt.renderAll (.pseudocode subject) stmts around).written =
        Stmt.lexicalAll subject sight stmts
  | [] => by
      rw [Stmt.renderAll, Stmt.lexicalAll]
      rfl
  | first :: rest => by
      have hrest := Stmt.written_renderAll (sees_render subject h first) rest
      rw [Stmt.renderAll, Stmt.lexicalAll, written_bind, Stmt.written_render h first, hrest]

theorem Stmt.written_renderUndocumented {around : Surroundings} {sight : Sight}
    (h : around.Sees sight) : (stmts : List Stmt) →
      (Stmt.renderUndocumented (.pseudocode subject) stmts around).written =
        Stmt.lexicalUndocumented subject sight stmts
  | [] => by
      rw [Stmt.renderUndocumented, Stmt.lexicalUndocumented]
      rfl
  | first :: rest => by
      have hrest := Stmt.written_renderAll (sees_render subject h first) rest
      rw [Stmt.renderUndocumented, Stmt.lexicalUndocumented]
      split
      · exact Stmt.written_renderAll h rest
      · rw [written_bind, Stmt.written_render h first, hrest]

theorem Stmt.written_renderOrelse {around : Surroundings} {sight : Sight} (h : around.Sees sight) :
    (orelse : List Stmt) →
      (Stmt.renderOrelse (.pseudocode subject) orelse around).written =
        Stmt.lexicalOrelse subject sight orelse
  | [] => by
      rw [Stmt.renderOrelse, Stmt.lexicalOrelse]
      rfl
  | [.mk line kind] => by
      have honly := Stmt.written_render h.enter.pushScope (.mk line kind)
      have hnone := Stmt.written_renderAll
        (sees_render subject h.enter.pushScope (.mk line kind)) []
      cases kind with
      | branch test body orelse =>
          have hbody := Stmt.written_renderAll h.enter.pushScope body
          have horelse := Stmt.written_renderOrelse h orelse
          have hblock :=
            written_block_bind around ((walked_onlyDeclares (.pseudocode subject)).all body)
          simp only [Stmt.renderOrelse, Stmt.lexicalOrelse, renderExpr, written_emit_bind,
            written_text_bind, Expr.render_congr (h.nameText subject), hblock, hbody, horelse,
            bind_assoc, pure_bind, List.cons_append, List.nil_append, List.append_assoc]
      | _ =>
          rw [Stmt.renderOrelse, Stmt.lexicalOrelse]
          · exact written_otherwise subject around _ honly hnone
          · simp
          · simp
  | first :: second :: rest => by
      have hfirst := Stmt.written_render h.enter.pushScope first
      have hrest := Stmt.written_renderAll (sees_render subject h.enter.pushScope first)
        (second :: rest)
      rw [Stmt.renderOrelse, Stmt.lexicalOrelse]
      · exact written_otherwise subject around _ hfirst hrest
      · simp
      · simp

end

end Rendering

/-- **Names in pseudocode are resolved lexically.** What the walk writes, and what it rejects, is what
the rendering by sight does, and there every name is spelled by the nearest declaration of it that is
in sight where it stands. -/
theorem render_resolves_names (subject : Option String) :
    (∀ program : Program,
      (program.script (.pseudocode subject) .outermost).written = program.lexical subject) ∧
    (∀ (program : Program) (unit : IndentUnit) (records : List Record),
      program.play (.pseudocode subject) unit records =
        (program.lexical subject).map ((Page.ofRecords records).play unit)) ∧
    ∀ (sight : Sight) (ident : String) (asType : Bool),
      (Expr.name ident).render (.pseudocode subject) sight.around asType =
        .ok (sight.spelled ident asType) := by
  have hwritten : ∀ program : Program,
      (program.script (.pseudocode subject) .outermost).written = program.lexical subject :=
    fun program => Stmt.written_renderAll subject Surroundings.Sees.outermost.pushScope program.body
  refine ⟨hwritten, fun program unit records => ?_, fun sight ident asType => ?_⟩
  · rw [← hwritten program, Program.play, Outcome.written]
    cases (program.script (.pseudocode subject) .outermost).result <;> rfl
  · have hlookup := (Surroundings.Sees.of_around sight).lookup? ident
    rw [Expr.render, Target.nameText, Pseudocode.name, ScopeStack.lookup, hlookup, Sight.spelled]
    cases sight.lookup ident with
    | none => rfl
    | some type => rfl

/-- A vector in a function is an ordinary name where a parameter without a type has its name, and a
vector again in the defaults and after the function. -/
example :
    let point : Stmt := .mk 1 (.annAssign (.name "p") (.name "Vector2D") none)
    let read (line : UInt64) : Stmt := .mk line (.expr (.name "p"))
    let header : FunctionHeader := ⟨"f", [⟨"p", none⟩], [.name "p"], none, [], false⟩
    (Program.mk [point, .mk 2 (.functionDef header [read 3]), read 4]).lexical none =
      .ok [.prepare 1, .line "$\\vec\x7bp\x7d \\in \\mathbb\x7bR\x7d^2$",
        .prepare 2, .line "F", .indent, .line "Inputs:", .indent, .line "$p = \\vec\x7bp\x7d$",
        .dedent, .line "", .dedent, .indent, .prepare 3, .line "$p$", .dedent,
        .prepare 4, .line "$\\vec\x7bp\x7d$"] := by
  rfl

end Snippet
