import Snippet.Render.Stmt

/-!
# What the walk over a tree is made of

A script is put together from a few operations of the walk and from the steps that the hooks of a
target answer with. A property that these operations keep holds of every script the walk writes.
`Walked` names the operations once, `Target.Emits` says what the steps of a hook can be, and
`Walked.stmt` and its companions are the one induction over the tree.
-/

namespace Snippet

open Layout (Step BraceStyle)
open Render Script

namespace Render.Surroundings

/-- The surroundings `inside` differ from `around` by declarations in the innermost scope. -/
inductive Declares (around : Surroundings) : Surroundings → Prop where
  | refl : Declares around around
  | declare {inside : Surroundings} (name type : String) (before : Declares around inside) :
      Declares around (inside.declare name type)

theorem Declares.trans {first second third : Surroundings} (h₁ : Declares first second)
    (h₂ : Declares second third) : Declares first third := by
  induction h₂ with
  | refl => exact h₁
  | declare name type _ ih => exact ih.declare name type

end Render.Surroundings

namespace Render.Script

theorem bind_apply {α β : Type} (first : Script α) (next : α → Script β) (around : Surroundings) :
    (first >>= next) around =
      match (first around).result with
      | .ok a =>
        let last := next a (first around).around
        ⟨last.result, last.around, (first around).steps ++ last.steps⟩
      | .error rejection => ⟨.error rejection, (first around).around, (first around).steps⟩ := by
  change Script.bind first next around = _
  rw [Script.bind]
  generalize first around = outcome
  obtain ⟨result, between, steps⟩ := outcome
  cases result <;> rfl

/-- A script that is put together in another order is the same script. -/
instance lawful : LawfulMonad Script := by
  refine LawfulMonad.mk' Script ?_ ?_ ?_
  · intro α script
    funext around
    change (script >>= fun a => pure a) around = script around
    rw [bind_apply]
    obtain ⟨result, between, steps⟩ := script around
    cases result with
    | error rejection => rfl
    | ok value => exact congrArg (Outcome.mk _ _) (List.append_nil steps)
  · intro α β a next
    funext around
    exact bind_apply (pure a) next around
  · intro α β γ script second third
    funext around
    simp only [bind_apply]
    cases (script around).result with
    | error rejection => rfl
    | ok a =>
        simp only []
        cases (second a (script around).around).result with
        | error rejection => rfl
        | ok b => simp only [List.append_assoc]

end Render.Script

/-- The steps that a target's hooks emit at a time: lines of code, the parts of a block with braces,
and a deeper run of such steps. None prepares for a line of the snippet. -/
inductive Target.Emits (target : Target) : List Step → Prop where
  | nil : Emits target []
  | append {first second : List Step} (h₁ : Emits target first) (h₂ : Emits target second) :
      Emits target (first ++ second)
  | line (text : String) : Emits target [.line text]
  | deeper {steps : List Step} (h : Emits target steps) :
      Emits target (.indent :: (steps ++ [.dedent]))
  | opening {dialect : Dialect} {style : BraceStyle} (braces : target = .curly dialect style)
      (header : String) : Emits target (style.opening header)
  | middle {dialect : Dialect} {style : BraceStyle} (braces : target = .curly dialect style)
      (header : String) : Emits target (style.middle header)
  | closing {dialect : Dialect} {style : BraceStyle} (braces : target = .curly dialect style)
      (closer : String) : Emits target (style.closing closer)

namespace Target

variable {target : Target}

theorem Emits.cons_line {steps : List Step} (text : String) (h : target.Emits steps) :
    target.Emits (.line text :: steps) :=
  .append (.line text) h

theorem Emits.lines {α : Type} (spell : α → String) (items : List α) :
    target.Emits (items.map fun item => Step.line (spell item)) := by
  induction items with
  | nil => exact .nil
  | cons item rest ih => exact ih.cons_line (spell item)

/-! ### Every hook of every target -/

theorem emits_curlyComment (texts : List String) : target.Emits (Dialect.comment texts) := by
  match texts with
  | [] => exact .line ""
  | [text] => exact .line _
  | first :: second :: rest => exact ((Emits.lines id _).append (.line "*/")).cons_line "/*"

theorem emits_curlyDocComment (texts : List String) : target.Emits (Dialect.docComment texts) := by
  exact ((Emits.lines Dialect.docLine texts).append (.line " */")).cons_line "/**"

theorem emits_pseudocodeComment (texts : List String) :
    target.Emits (Pseudocode.comment texts) := by
  match texts with
  | [] => exact .line ""
  | first :: rest => exact .lines id (first :: rest)

theorem emits_comment (texts : List String) : target.Emits (target.comment texts) := by
  cases target with
  | curly dialect style => exact emits_curlyComment texts
  | pseudocode subject => exact emits_pseudocodeComment texts

theorem emits_docComment (texts : List String) : target.Emits (target.docComment texts) := by
  cases target with
  | curly dialect style => exact emits_curlyDocComment texts
  | pseudocode subject => exact emits_pseudocodeComment texts

theorem emits_expressionStatement (code : String) :
    target.Emits (target.expressionStatement code) := by
  cases target <;> exact .line _

theorem emits_beginClass {name : String} {bases : List String} {steps : List Step}
    (h : target.beginClass? name bases = some steps) : target.Emits steps := by
  cases target with
  | curly dialect style =>
      obtain rfl : style.opening (dialect.classHeader name bases) = steps := by
        simpa [beginClass?] using h
      exact .opening rfl _
  | pseudocode subject => simp [beginClass?] at h

theorem emits_endClass {steps : List Step} (h : target.endClass? = some steps) :
    target.Emits steps := by
  cases target with
  | curly dialect style =>
      obtain rfl : style.closing dialect.classCloser = steps := by simpa [endClass?] using h
      exact .closing rfl _
  | pseudocode subject => simp [endClass?] at h

theorem declares_inputs (around : Surroundings) (params : List SignatureParam) :
    around.Declares (Pseudocode.inputs around params).1 := by
  induction params generalizing around with
  | nil => exact .refl
  | cons param rest ih => exact (Surroundings.Declares.refl.declare _ _).trans (ih _)

theorem emits_inputs (around : Surroundings) (params : List SignatureParam) :
    target.Emits (Pseudocode.inputs around params).2 := by
  induction params generalizing around with
  | nil => exact .nil
  | cons param rest ih => exact (ih _).cons_line _

/-- A function's parameters are listed two levels in, and the level comes back after them. -/
theorem beginFunction_spec {around inside : Surroundings} {signature : Signature}
    {steps : List Step} (h : target.beginFunction? around signature = some (inside, steps)) :
    around.Declares inside ∧ target.Emits steps := by
  cases target with
  | curly dialect style =>
      simp only [beginFunction?, Option.map_eq_some_iff, Prod.mk.injEq] at h
      obtain ⟨header, -, rfl, rfl⟩ := h
      exact ⟨.refl, .opening rfl _⟩
  | pseudocode subject =>
      simp only [beginFunction?, Option.some.injEq, Pseudocode.beginFunction] at h
      generalize Pseudocode.listedParams subject signature.params = params at h
      cases params with
      | nil =>
          obtain ⟨rfl, rfl⟩ : around = inside ∧ _ = steps := by simpa using h
          exact ⟨.refl, .line _⟩
      | cons param rest =>
          obtain ⟨rfl, rfl⟩ : _ = inside ∧ _ = steps := by simpa using h
          refine ⟨declares_inputs around _, ?_⟩
          have hinputs : Target.Emits (.pseudocode subject)
              (Pseudocode.inputs around (param :: rest)).2 := emits_inputs around _
          have hlist := ((hinputs.deeper.append (.line "")).cons_line "Inputs:").deeper
          simpa using hlist.cons_line (Text.sentence (Text.trimUnderscores signature.name) true)

theorem emits_endFunction : target.Emits target.endFunction := by
  cases target with
  | curly dialect style => exact .closing rfl _
  | pseudocode subject => exact .nil

theorem emits_declare (around : Surroundings) (declaration : Declaration) :
    target.Emits (target.declare around declaration) := by
  cases target <;> exact .line _

theorem emits_assign (targets : List String) (value : String) :
    target.Emits (target.assign targets value) := by
  cases target with
  | curly dialect style => exact .line _
  | pseudocode subject => exact .lines (Pseudocode.assignment value) targets

theorem emits_assignOp (assigned : String) (op : Operator) (value : String) :
    target.Emits (target.assignOp assigned op value) := by
  cases target <;> exact .line _

theorem emits_beginIf (test : String) : target.Emits (target.beginIf test) := by
  cases target with
  | curly dialect style => exact .opening rfl _
  | pseudocode subject => exact .line _

theorem emits_beginElif (test : String) : target.Emits (target.beginElif test) := by
  cases target with
  | curly dialect style => exact .middle rfl _
  | pseudocode subject => exact .line _

theorem emits_beginElse : target.Emits target.beginElse := by
  cases target with
  | curly dialect style => exact .middle rfl _
  | pseudocode subject => exact .line _

theorem emits_endBlock : target.Emits target.endBlock := by
  cases target with
  | curly dialect style => exact .closing rfl _
  | pseudocode subject => exact .nil

theorem emits_beginFor {item : String} {items : LoopItems} {isAsync : Bool} {steps : List Step}
    (h : target.beginFor? item items isAsync = some steps) : target.Emits steps := by
  cases target with
  | curly dialect style =>
      simp only [beginFor?, Option.map_eq_some_iff] at h
      obtain ⟨header, -, rfl⟩ := h
      exact .opening rfl _
  | pseudocode subject =>
      simp only [beginFor?, Option.some.injEq] at h
      exact h ▸ .line _

theorem emits_beginWhile (test : String) : target.Emits (target.beginWhile test) := by
  cases target with
  | curly dialect style => exact .opening rfl _
  | pseudocode subject => exact .line _

theorem emits_keywordStatement (keyword : String) :
    target.Emits (target.keywordStatement keyword) := by
  cases target <;> exact .line _

theorem emits_returning (value : Option String) : target.Emits (target.returning value) := by
  cases target <;> cases value <;> exact .line _

theorem emits_beginSwitch {subject : String} {steps : List Step}
    (h : target.beginSwitch? subject = some steps) : target.Emits steps := by
  cases target with
  | curly dialect style =>
      obtain rfl : style.opening ("switch ( " ++ subject ++ " )") = steps := by
        simpa [beginSwitch?] using h
      exact .opening rfl _
  | pseudocode narrated => simp [beginSwitch?] at h

theorem emits_beginCase {pattern : Option String} {steps : List Step}
    (h : target.beginCase? pattern = some steps) : target.Emits steps := by
  cases target with
  | curly dialect style =>
      cases pattern <;>
        (simp only [beginCase?, Option.some.injEq] at h; exact h ▸ .line _)
  | pseudocode subject => simp [beginCase?] at h

theorem emits_endCase {steps : List Step} (h : target.endCase? = some steps) :
    target.Emits steps := by
  cases target with
  | curly dialect style =>
      simp only [endCase?, Option.some.injEq] at h
      exact h ▸ .line _
  | pseudocode subject => simp [endCase?] at h

theorem emits_imports {names : List Alias} {steps : List Step}
    (h : target.imports? names = some steps) : target.Emits steps := by
  cases target with
  | curly dialect style =>
      simp only [imports?, Option.map_eq_some_iff] at h
      obtain ⟨texts, -, rfl⟩ := h
      exact .lines id texts
  | pseudocode subject =>
      simp only [imports?, Option.some.injEq] at h
      exact h ▸ .nil

theorem emits_importFrom {module : Option String} {names : List Alias} {steps : List Step}
    (h : target.importFrom? module names = some steps) : target.Emits steps := by
  cases target with
  | curly dialect style =>
      simp only [importFrom?, Option.map_eq_some_iff] at h
      obtain ⟨texts, -, rfl⟩ := h
      exact .lines id texts
  | pseudocode subject => simp [importFrom?] at h

theorem emits_delete {targets : List String} {steps : List Step}
    (h : target.delete? targets = some steps) : target.Emits steps := by
  cases target with
  | curly dialect style =>
      simp only [delete?, Option.some.injEq] at h
      exact h ▸ .lines id _
  | pseudocode subject => simp [delete?] at h

theorem emits_typeAlias {name value : String} {steps : List Step}
    (h : target.typeAlias? name value = some steps) : target.Emits steps := by
  cases target with
  | curly dialect style =>
      simp only [typeAlias?, Option.some.injEq] at h
      exact h ▸ .line _
  | pseudocode subject => simp [typeAlias?] at h

end Target

/-! ### The induction over the tree -/

/-- A property of scripts that the operations of the walk keep. -/
structure Walked (target : Target) (Holds : {α : Type} → Script α → Prop) : Prop where
  pure {α : Type} (a : α) : Holds (Pure.pure a)
  bind {α β : Type} {first : Script α} {next : α → Script β} (h₁ : Holds first)
    (h₂ : ∀ a, Holds (next a)) : Holds (first >>= next)
  surroundings : Holds Script.surroundings
  text {α : Type} (render : Surroundings → Except Rejection α) : Holds (Script.text render)
  declare (name type : String) : Holds (Script.declare name type)
  prepare (line : UInt64) : Holds (Script.emit [.prepare line])
  emit {steps : List Step} (h : target.Emits steps) : Holds (Script.emit steps)
  reject (node : RejectedNode) : Holds (Script.emit? target node none)
  begin? {form : Surroundings → Option (Surroundings × List Step)} (node : RejectedNode)
    (h : ∀ {around inside steps}, form around = some (inside, steps) →
      around.Declares inside ∧ target.Emits steps) : Holds (Script.begin? target node form)
  inScope {α : Type} {body : Script α} (h : Holds body) : Holds (Script.inScope body)
  indented {α : Type} {body : Script α} (className : Option String) (h : Holds body) :
    Holds (Script.indented className body)

namespace Walked

variable {target : Target} {Holds : {α : Type} → Script α → Prop}

theorem emit? (walked : Walked target Holds) (node : RejectedNode) {form : Option (List Step)}
    (h : ∀ {steps}, form = some steps → target.Emits steps) :
    Holds (Script.emit? target node form) := by
  cases form with
  | none => exact walked.reject node
  | some steps => exact walked.emit (h rfl)

theorem block (walked : Walked target Holds) {α : Type} (className : Option String)
    {body : Script α} (h : Holds body) : Holds (Script.block className body) :=
  walked.indented className (walked.inScope h)

theorem documentation (walked : Walked target Holds) (body : List Stmt) :
    Holds (renderDocumentation target body) := by
  cases body with
  | nil => exact walked.pure ()
  | cons first rest =>
      rw [renderDocumentation]
      split
      · exact walked.emit (Target.emits_docComment _)
      · exact walked.pure ()

theorem declareTarget (walked : Walked target Holds) (declared : Expr) (hint : String) :
    Holds (declareTarget declared hint) := by
  cases declared with
  | name ident => exact walked.declare ident hint
  | _ => exact walked.pure ()

theorem signature (walked : Walked target Holds) (header : FunctionHeader) (isMethod : Bool)
    (returns : Option String) : Holds (header.renderSignature target isMethod returns) :=
  walked.bind (walked.text _) fun _ => walked.pure _

theorem function (walked : Walked target Holds) (header : FunctionHeader) (body : List Stmt)
    (isMethod : Bool) (returns : Option String) (h : Holds (Stmt.renderUndocumented target body)) :
    Holds (do
      let signature ← header.renderSignature target isMethod returns
      Script.begin? target (.stmt (.functionDef header body)) fun around =>
        target.beginFunction? around signature
      Script.block none (Stmt.renderUndocumented target body)
      Script.emit target.endFunction) := by
  refine walked.bind (walked.signature header _ _) fun _ => ?_
  refine walked.bind (walked.begin? _ Target.beginFunction_spec) fun _ => ?_
  exact walked.bind (walked.block _ h) fun _ => walked.emit Target.emits_endFunction

theorem pattern (walked : Walked target Holds) (pattern : Expr) :
    Holds (renderPattern target pattern) := by
  rw [renderPattern.eq_def]
  split
  · exact walked.pure none
  · exact walked.bind (walked.text _) fun _ => walked.pure _

theorem expression (walked : Walked target Holds) (value : Expr) :
    Holds ((StmtKind.expr value).render target) := by
  rw [StmtKind.render.eq_def]
  cases value with
  | constant value => exact walked.emit (Target.emits_comment _)
  | _ => exact walked.bind (walked.text _) fun _ => walked.emit (Target.emits_expressionStatement _)

theorem otherwise (walked : Walked target Holds) (line : UInt64) {first rest : Script Unit}
    (h₁ : Holds first) (h₂ : Holds rest) :
    Holds (do
      Script.emit [.prepare line]
      Script.emit target.beginElse
      Script.block none do
        first
        rest) := by
  refine walked.bind (walked.prepare line) fun _ => ?_
  refine walked.bind (walked.emit Target.emits_beginElse) fun _ => ?_
  exact walked.block none (walked.bind h₁ fun _ => h₂)

mutual

theorem stmt (walked : Walked target Holds) : (stmt : Stmt) → Holds (stmt.render target)
  | .mk line kind => by
      rw [Stmt.render]
      exact walked.bind (walked.prepare _) fun _ => walked.kind kind

theorem kind (walked : Walked target Holds) : (kind : StmtKind) → Holds (kind.render target)
  | .classDef name bases body => by
      rw [StmtKind.render]
      refine walked.bind (walked.documentation body) fun _ => ?_
      refine walked.bind (walked.text _) fun _ => ?_
      refine walked.bind (walked.emit? _ Target.emits_beginClass) fun _ => ?_
      refine walked.bind (walked.block _ (walked.undocumented body)) fun _ => ?_
      exact walked.emit? _ Target.emits_endClass
  | .functionDef header body => by
      rw [StmtKind.render]
      refine walked.bind (walked.documentation body) fun _ => ?_
      refine walked.bind walked.surroundings fun _ => ?_
      refine walked.bind (walked.text _) fun _ => walked.inScope ?_
      exact walked.function header body _ _ (walked.undocumented body)
  | .assign targets value => by
      rw [StmtKind.render]
      refine walked.bind (walked.text _) fun _ => walked.bind (walked.text _) fun _ => ?_
      exact walked.emit (Target.emits_assign _ _)
  | .annAssign declared hint value => by
      rw [StmtKind.render]
      refine walked.bind (walked.text _) fun _ => ?_
      refine walked.bind (walked.declareTarget declared _) fun _ => ?_
      refine walked.bind (walked.text _) fun _ => walked.bind (walked.text _) fun _ => ?_
      exact walked.bind walked.surroundings fun _ => walked.emit (Target.emits_declare _ _)
  | .augAssign assigned op value => by
      rw [StmtKind.render]
      refine walked.bind (walked.text _) fun _ => walked.bind (walked.text _) fun _ => ?_
      exact walked.emit (Target.emits_assignOp _ _ _)
  | .branch test body orelse => by
      rw [StmtKind.render]
      refine walked.bind (walked.text _) fun _ => ?_
      refine walked.bind (walked.emit (Target.emits_beginIf _)) fun _ => ?_
      refine walked.bind (walked.block _ (walked.all body)) fun _ => ?_
      exact walked.bind (walked.orelse orelse) fun _ => walked.emit Target.emits_endBlock
  | .forLoop item iter body isAsync => by
      rw [StmtKind.render]
      refine walked.bind (walked.text _) fun _ => walked.bind (walked.text _) fun _ => ?_
      refine walked.bind (walked.emit? _ Target.emits_beginFor) fun _ => ?_
      refine walked.bind (walked.block _ (walked.all body)) fun _ => ?_
      exact walked.emit Target.emits_endBlock
  | .whileLoop test body => by
      rw [StmtKind.render]
      refine walked.bind (walked.text _) fun _ => ?_
      refine walked.bind (walked.emit (Target.emits_beginWhile _)) fun _ => ?_
      refine walked.bind (walked.block _ (walked.all body)) fun _ => ?_
      exact walked.emit Target.emits_endBlock
  | .pass => by
      rw [StmtKind.render]
      exact walked.pure ()
  | .breakLoop => by
      rw [StmtKind.render]
      exact walked.emit (Target.emits_keywordStatement _)
  | .continueLoop => by
      rw [StmtKind.render]
      exact walked.emit (Target.emits_keywordStatement _)
  | .returning value => by
      rw [StmtKind.render]
      exact walked.bind (walked.text _) fun _ => walked.emit (Target.emits_returning _)
  | .switch subject cases => by
      rw [StmtKind.render]
      refine walked.bind (walked.text _) fun _ => ?_
      refine walked.bind (walked.emit? _ Target.emits_beginSwitch) fun _ => ?_
      refine walked.bind (walked.block _ (walked.cases _ cases)) fun _ => ?_
      exact walked.emit Target.emits_endBlock
  | .imports names => by
      rw [StmtKind.render]
      exact walked.emit? _ Target.emits_imports
  | .importFrom module names => by
      rw [StmtKind.render]
      exact walked.emit? _ Target.emits_importFrom
  | .delete targets => by
      rw [StmtKind.render]
      exact walked.bind (walked.text _) fun _ => walked.emit? _ Target.emits_delete
  | .typeAlias name value => by
      rw [StmtKind.render]
      refine walked.bind (walked.text _) fun _ => walked.bind (walked.text _) fun _ => ?_
      exact walked.emit? _ Target.emits_typeAlias
  | .expr value => walked.expression value

theorem all (walked : Walked target Holds) :
    (stmts : List Stmt) → Holds (Stmt.renderAll target stmts)
  | [] => by
      rw [Stmt.renderAll]
      exact walked.pure ()
  | first :: rest => by
      rw [Stmt.renderAll]
      exact walked.bind (walked.stmt first) fun _ => walked.all rest

theorem undocumented (walked : Walked target Holds) :
    (body : List Stmt) → Holds (Stmt.renderUndocumented target body)
  | [] => by
      rw [Stmt.renderUndocumented]
      exact walked.pure ()
  | first :: rest => by
      rw [Stmt.renderUndocumented]
      split
      · exact walked.all rest
      · exact walked.bind (walked.stmt first) fun _ => walked.all rest

theorem orelse (walked : Walked target Holds) :
    (orelse : List Stmt) → Holds (Stmt.renderOrelse target orelse)
  | [] => by
      rw [Stmt.renderOrelse]
      exact walked.pure ()
  | [.mk line kind] => by
      have only := walked.stmt (.mk line kind)
      have none := walked.all []
      cases kind with
      | branch test body orelse =>
          rw [Stmt.renderOrelse]
          refine walked.bind (walked.prepare _) fun _ => ?_
          refine walked.bind (walked.text _) fun _ => ?_
          refine walked.bind (walked.emit (Target.emits_beginElif _)) fun _ => ?_
          exact walked.bind (walked.block _ (walked.all body)) fun _ => walked.orelse orelse
      | _ =>
          rw [Stmt.renderOrelse]
          · exact walked.otherwise _ only none
          · simp
  | first :: second :: rest => by
      rw [Stmt.renderOrelse]
      · exact walked.otherwise _ (walked.stmt first) (walked.all (second :: rest))
      · simp

theorem case (walked : Walked target Holds) (node : RejectedNode) :
    (arm : MatchCase) → Holds (arm.render target node)
  | .mk line pattern body => by
      rw [MatchCase.render]
      refine walked.bind (walked.prepare _) fun _ => ?_
      refine walked.bind (walked.pattern pattern) fun _ => ?_
      refine walked.bind (walked.emit? _ Target.emits_beginCase) fun _ => walked.indented _ ?_
      refine walked.bind (walked.inScope (walked.all body)) fun _ => ?_
      exact walked.emit? _ Target.emits_endCase

theorem cases (walked : Walked target Holds) (node : RejectedNode) :
    (arms : List MatchCase) → Holds (MatchCase.renderAll target node arms)
  | [] => by
      rw [MatchCase.renderAll]
      exact walked.pure ()
  | arm :: rest => by
      rw [MatchCase.renderAll]
      exact walked.bind (walked.case node arm) fun _ => walked.cases node rest

end

theorem program (walked : Walked target Holds) (program : Program) :
    Holds (program.script target) :=
  walked.inScope (walked.all program.body)

end Walked

end Snippet
