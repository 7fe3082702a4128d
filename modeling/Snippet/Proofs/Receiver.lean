import Snippet.Proofs.Renaming
import Snippet.Proofs.Walk

/-!
# The receiver in the body of a class

In the languages with braces a receiver that a method's signature leaves out is the object itself.
A class reads the same when every use of `self` in its body, however deep, is a use of `this`: two
scripts are run side by side in surroundings that differ only in what is declared.
-/

namespace Snippet

open Layout (BraceStyle Step)
open Render Script

def receiverName (ident : String) : String := if ident = "self" then "this" else ident

/-- Surroundings that differ only in what is declared, perhaps known to be inside a class. -/
structure Render.Surroundings.Alike (inside : Bool) (first second : Surroundings) : Prop where
  className : second.className = first.className
  inClass : second.inClass = first.inClass
  within : inside = true → first.inClass = true

/-- Scripts that write the same in surroundings that are alike, and are both rejected or neither. -/
def WritesAlike {α : Type} (inside : Bool) (first second : Script α) : Prop :=
  ∀ around other : Surroundings, Surroundings.Alike inside around other →
    (second other).result.toOption = (first around).result.toOption ∧
      (second other).steps = (first around).steps ∧
      Surroundings.Alike inside (first around).around (second other).around

namespace WritesAlike

variable {α β : Type} {inside : Bool} {dialect : Dialect} {style : BraceStyle}

theorem bind {first second : Script α} {next further : α → Script β}
    (h₁ : WritesAlike inside first second) (h₂ : ∀ a, WritesAlike inside (next a) (further a)) :
    WritesAlike inside (first >>= next) (second >>= further) := by
  intro around other h
  obtain ⟨hresult, hsteps, hinside⟩ := h₁ _ _ h
  rw [bind_apply, bind_apply]
  cases hfirst : (first around).result with
  | error rejection =>
      cases hsecond : (second other).result with
      | error _ => exact ⟨rfl, hsteps, hinside⟩
      | ok a => simp [hfirst, hsecond, Except.toOption] at hresult
  | ok a =>
      cases hsecond : (second other).result with
      | error _ => simp [hfirst, hsecond, Except.toOption] at hresult
      | ok b =>
          obtain rfl : b = a := by simpa [hfirst, hsecond, Except.toOption] using hresult
          obtain ⟨hlast, hmore, hend⟩ := h₂ b _ _ hinside
          have hboth : (second other).steps ++ (further b (second other).around).steps =
              (first around).steps ++ (next b (first around).around).steps := by
            rw [hsteps, hmore]
          exact ⟨hlast, hboth, hend⟩

theorem pure (a : α) : WritesAlike inside (Pure.pure a : Script α) (Pure.pure a) :=
  fun _ _ h => ⟨rfl, rfl, h⟩

theorem emit (steps : List Step) : WritesAlike inside (Script.emit steps) (Script.emit steps) :=
  fun _ _ h => ⟨rfl, rfl, h⟩

theorem text {render other : Surroundings → Except Rejection α}
    (h : ∀ {first second : Surroundings}, Surroundings.Alike inside first second →
      (other second).toOption = (render first).toOption) :
    WritesAlike inside (Script.text render) (Script.text other) :=
  fun _ _ halike => ⟨h halike, rfl, halike⟩

theorem declare (first second type : String) :
    WritesAlike inside (Script.declare first type) (Script.declare second type) :=
  fun _ _ h => ⟨rfl, rfl, h.className, h.inClass, h.within⟩

/-- The class around is the same, and so is what depends on nothing but it. -/
theorem surroundings {next further : Surroundings → Script β}
    (h : ∀ around other : Surroundings, other.className = around.className →
      WritesAlike inside (next around) (further other)) :
    WritesAlike inside (Script.surroundings >>= next) (Script.surroundings >>= further) :=
  fun around other halike => h around other halike.className around other halike

theorem emit? (node another : RejectedNode) (form : Option (List Step)) :
    WritesAlike inside (Script.emit? (.curly dialect style) node form)
      (Script.emit? (.curly dialect style) another form) := by
  intro around other h
  cases form with
  | none => exact ⟨rfl, rfl, h⟩
  | some steps => exact ⟨rfl, rfl, h⟩

theorem beginFunction (node another : RejectedNode) (signature : Signature) :
    WritesAlike inside
      (Script.begin? (.curly dialect style) node fun around =>
        Target.beginFunction? (.curly dialect style) around signature)
      (Script.begin? (.curly dialect style) another fun around =>
        Target.beginFunction? (.curly dialect style) around signature) := by
  intro around other h
  have hheader : dialect.functionHeader? other signature =
      dialect.functionHeader? around signature := by
    cases dialect with
    | cpp =>
        simp only [Dialect.functionHeader?, Dialect.cppFunctionHeader?, h.className]
    | typeScript typed => rfl
  simp only [Script.begin?, Target.beginFunction?, hheader]
  cases dialect.functionHeader? around signature with
  | none => exact ⟨rfl, rfl, h⟩
  | some header => exact ⟨rfl, rfl, h⟩

theorem inScope {first second : Script α} (h : WritesAlike inside first second) :
    WritesAlike inside (Script.inScope first) (Script.inScope second) := by
  intro around other halike
  have hpushed : Surroundings.Alike inside around.pushScope other.pushScope :=
    ⟨halike.className, halike.inClass, halike.within⟩
  obtain ⟨hresult, hsteps, hinside⟩ := h _ _ hpushed
  exact ⟨hresult, hsteps, hinside.className, hinside.inClass, hinside.within⟩

theorem indented {first second : Script α} (className : Option String)
    (h : WritesAlike (inside || className.isSome) first second) :
    WritesAlike inside (Script.indented className first) (Script.indented className second) := by
  intro around other halike
  have hentered : Surroundings.Alike (inside || className.isSome) (around.enter className)
      (other.enter className) := by
    refine ⟨rfl, by rw [Surroundings.enter, Surroundings.enter, halike.inClass], fun hwithin => ?_⟩
    rcases (Bool.or_eq_true _ _).mp hwithin with hinside | hclass
    · rw [Surroundings.enter, halike.within hinside, Bool.true_or]
    · rw [Surroundings.enter, hclass, Bool.or_true]
  obtain ⟨hresult, hsteps, -⟩ := h _ _ hentered
  refine ⟨hresult, ?_, halike.className, halike.inClass, halike.within⟩
  simp only [Script.indented, hsteps]

theorem block {first second : Script α} (className : Option String)
    (h : WritesAlike (inside || className.isSome) first second) :
    WritesAlike inside (Script.block className first) (Script.block className second) :=
  h.inScope.indented className

end WritesAlike

section Receiver

variable {dialect : Dialect} {style : BraceStyle}

theorem Dialect.name_self {around : Surroundings} (h : around.inClass = true) :
    dialect.name around "self" = "this" := by
  have hrename : dialect.rename? "self" = none := by cases dialect <;> rfl
  simp [Dialect.name, hrename, h]

theorem Dialect.name_this (around : Surroundings) : dialect.name around "this" = "this" := by
  have hrename : dialect.rename? "this" = none := by cases dialect <;> rfl
  have hstyled : dialect.styledName "this" = "this" := by cases dialect <;> rfl
  simp [Dialect.name, hrename, hstyled]

theorem respells_receiverName {first second : Surroundings}
    (h : Surroundings.Alike true first second) :
    (Target.curly dialect style).Respells receiverName first second := by
  intro ident asType
  simp only [Target.nameText]
  by_cases hself : ident = "self"
  · subst hself
    rw [Dialect.name_self (h.within rfl)]
    exact Dialect.name_this second
  · rw [receiverName, if_neg hself, Dialect.name, Dialect.name, h.inClass]

theorem receiverName_eq_range (ident : String) : receiverName ident = "range" ↔ ident = "range" := by
  rw [receiverName]
  split
  · next hself => simp [hself]
  · exact Iff.rfl

theorem renderExpr_alike (expr : Expr) :
    WritesAlike true (renderExpr (.curly dialect style) expr)
      (renderExpr (.curly dialect style) (expr.renamed receiverName)) :=
  .text fun h => Expr.toOption_render_renamed (respells_receiverName h) false expr

theorem renderType_alike (expr : Expr) :
    WritesAlike true (renderType (.curly dialect style) expr)
      (renderType (.curly dialect style) (expr.renamed receiverName)) :=
  .text fun h => Expr.toOption_render_renamed (respells_receiverName h) true expr

theorem renderExprs_alike (exprs : List Expr) :
    WritesAlike true (renderExprs (.curly dialect style) exprs)
      (renderExprs (.curly dialect style) (Expr.renamedAll receiverName exprs)) :=
  .text fun h => Expr.toOption_renderAll_renamed (respells_receiverName h) false exprs

theorem renderTypes_alike (exprs : List Expr) :
    WritesAlike true (renderTypes (.curly dialect style) exprs)
      (renderTypes (.curly dialect style) (Expr.renamedAll receiverName exprs)) :=
  .text fun h => Expr.toOption_renderAll_renamed (respells_receiverName h) true exprs

theorem renderOptionalExpr_alike (expr : Option Expr) :
    WritesAlike true (renderOptionalExpr (.curly dialect style) expr)
      (renderOptionalExpr (.curly dialect style) (Expr.renamedOptional receiverName expr)) :=
  .text fun h => Expr.toOption_renderOptional_renamed (respells_receiverName h) false expr

theorem renderOptionalType_alike (expr : Option Expr) :
    WritesAlike true (renderOptionalType (.curly dialect style) expr)
      (renderOptionalType (.curly dialect style) (Expr.renamedOptional receiverName expr)) :=
  .text fun h => Expr.toOption_renderOptional_renamed (respells_receiverName h) true expr

theorem renderDocumentation_alike (body : List Stmt) :
    WritesAlike true (renderDocumentation (.curly dialect style) body)
      (renderDocumentation (.curly dialect style) (Stmt.renamedAll receiverName body)) := by
  cases body with
  | nil => exact .pure ()
  | cons first rest =>
      rw [Stmt.renamedAll, renderDocumentation, renderDocumentation, Stmt.docText?_renamed]
      cases first.docText? with
      | none => exact .pure ()
      | some text => exact .emit _

theorem declareTarget_alike (declared : Expr) (type : String) :
    WritesAlike true (declareTarget declared type)
      (declareTarget (declared.renamed receiverName) type) := by
  cases declared <;> rw [Expr.renamed]
  case name ident => exact .declare _ _ _
  all_goals exact .pure ()

theorem renderSignature_alike (header : FunctionHeader) (isMethod : Bool)
    (returns : Option String) :
    WritesAlike true (header.renderSignature (.curly dialect style) isMethod returns)
      ((header.renamed receiverName).renderSignature (.curly dialect style) isMethod returns) := by
  simp only [FunctionHeader.renderSignature, FunctionHeader.hasReceiver_renamed]
  refine .bind (.text fun h => ?_) fun _ => .pure _
  have hrespells : (Target.curly dialect style).Respells receiverName _ _ := respells_receiverName h
  simpa only [FunctionHeader.renamed, List.map_drop] using
    header.toOption_renderParams_renamed hrespells _ (header.params.drop _)

theorem renderPattern_alike (pattern : Expr) :
    WritesAlike true (renderPattern (.curly dialect style) pattern)
      (renderPattern (.curly dialect style) (pattern.renamed receiverName)) := by
  by_cases hwildcard : pattern = .matchAs none
  · subst hwildcard
    exact .pure none
  · have hrenamed : pattern.renamed receiverName ≠ .matchAs none := by
      cases pattern <;> simp_all [Expr.renamed]
    rw [renderPattern, renderPattern]
    · exact .bind (renderExpr_alike pattern) fun _ => .pure _
    · exact hrenamed
    · exact hwildcard

theorem otherwise_alike (line : UInt64) {first second rest others : Script Unit}
    (h₁ : WritesAlike true first second) (h₂ : WritesAlike true rest others) :
    WritesAlike true
      (do
        Script.emit [.prepare line]
        Script.emit (Target.beginElse (.curly dialect style))
        Script.block none do
          first
          rest)
      (do
        Script.emit [.prepare line]
        Script.emit (Target.beginElse (.curly dialect style))
        Script.block none do
          second
          others) :=
  .bind (.emit _) fun _ => .bind (.emit _) fun _ => .block none (.bind h₁ fun _ => h₂)

mutual

theorem Stmt.render_alike : (stmt : Stmt) →
    WritesAlike true (stmt.render (.curly dialect style))
      ((stmt.renamed receiverName).render (.curly dialect style))
  | .mk line kind => by
      rw [Stmt.renamed, Stmt.render, Stmt.render]
      exact .bind (.emit _) fun _ => kind.render_alike

theorem StmtKind.render_alike : (kind : StmtKind) →
    WritesAlike true (kind.render (.curly dialect style))
      ((kind.renamed receiverName).render (.curly dialect style))
  | .classDef name bases body => by
      rw [StmtKind.renamed, StmtKind.render, StmtKind.render]
      refine .bind (renderDocumentation_alike body) fun _ => ?_
      refine .bind (renderTypes_alike bases) fun _ => .bind (.emit? _ _ _) fun _ => ?_
      exact .bind (.block _ (Stmt.renderUndocumented_alike body)) fun _ => .emit? _ _ _
  | .functionDef header body => by
      rw [StmtKind.renamed, StmtKind.render, StmtKind.render]
      refine .bind (renderDocumentation_alike body) fun _ => ?_
      refine .surroundings fun around other hclass => ?_
      rw [hclass]
      refine .bind (renderOptionalType_alike header.returns) fun _ => .inScope ?_
      refine .bind (renderSignature_alike header _ _) fun _ => ?_
      refine .bind (.beginFunction _ _ _) fun _ => ?_
      exact .bind (.block none (Stmt.renderUndocumented_alike body)) fun _ => .emit _
  | .assign targets value => by
      rw [StmtKind.renamed, StmtKind.render, StmtKind.render]
      refine .bind (renderExprs_alike targets) fun _ => ?_
      exact .bind (renderExpr_alike value) fun _ => .emit _
  | .annAssign declared hint value => by
      rw [StmtKind.renamed, StmtKind.render, StmtKind.render]
      refine .bind (renderType_alike hint) fun _ => ?_
      refine .bind (declareTarget_alike declared _) fun _ => ?_
      refine .bind (renderExpr_alike declared) fun _ => ?_
      refine .bind (renderOptionalExpr_alike value) fun _ => ?_
      refine .surroundings fun around other hclass => ?_
      have hcall : (Expr.renamedOptional receiverName value).any Expr.isCall =
          value.any Expr.isCall := by
        cases value <;> simp [Expr.renamedOptional]
      have hdeclaration : ∀ declaration : Declaration,
          Target.declare (.curly dialect style) other declaration =
            Target.declare (.curly dialect style) around declaration := fun declaration => by
        cases dialect with
        | cpp => rfl
        | typeScript typed =>
            simp only [Target.declare, Dialect.declaration, Dialect.typeScriptDeclaration, hclass]
      rw [hcall, hdeclaration]
      exact .emit _
  | .augAssign assigned op value => by
      rw [StmtKind.renamed, StmtKind.render, StmtKind.render]
      refine .bind (renderExpr_alike assigned) fun _ => ?_
      exact .bind (renderExpr_alike value) fun _ => .emit _
  | .branch test body orelse => by
      rw [StmtKind.renamed, StmtKind.render, StmtKind.render]
      refine .bind (renderExpr_alike test) fun _ => .bind (.emit _) fun _ => ?_
      refine .bind (.block none (Stmt.renderAll_alike body)) fun _ => ?_
      exact .bind (Stmt.renderOrelse_alike orelse) fun _ => .emit _
  | .forLoop item iter body isAsync => by
      rw [StmtKind.renamed, StmtKind.render, StmtKind.render]
      refine .bind (renderExpr_alike item) fun _ => .bind (.text fun h => ?_) fun _ => ?_
      · exact Expr.toOption_renderLoopItems_renamed (respells_receiverName h)
          receiverName_eq_range iter
      · refine .bind (.emit? _ _ _) fun _ => ?_
        exact .bind (.block none (Stmt.renderAll_alike body)) fun _ => .emit _
  | .whileLoop test body => by
      rw [StmtKind.renamed, StmtKind.render, StmtKind.render]
      refine .bind (renderExpr_alike test) fun _ => .bind (.emit _) fun _ => ?_
      exact .bind (.block none (Stmt.renderAll_alike body)) fun _ => .emit _
  | .pass => by
      rw [StmtKind.renamed, StmtKind.render]
      exact .pure ()
  | .breakLoop => by
      rw [StmtKind.renamed, StmtKind.render]
      exact .emit _
  | .continueLoop => by
      rw [StmtKind.renamed, StmtKind.render]
      exact .emit _
  | .returning value => by
      rw [StmtKind.renamed, StmtKind.render, StmtKind.render]
      exact .bind (renderOptionalExpr_alike value) fun _ => .emit _
  | .switch subject cases => by
      rw [StmtKind.renamed, StmtKind.render, StmtKind.render]
      refine .bind (renderExpr_alike subject) fun _ => .bind (.emit? _ _ _) fun _ => ?_
      exact .bind (.block none (MatchCase.renderAll_alike _ _ cases)) fun _ => .emit _
  | .imports names => by
      rw [StmtKind.renamed, StmtKind.render]
      exact .emit? _ _ _
  | .importFrom module names => by
      rw [StmtKind.renamed, StmtKind.render]
      exact .emit? _ _ _
  | .delete targets => by
      rw [StmtKind.renamed, StmtKind.render, StmtKind.render]
      exact .bind (renderExprs_alike targets) fun _ => .emit? _ _ _
  | .typeAlias name value => by
      rw [StmtKind.renamed, StmtKind.render, StmtKind.render]
      refine .bind (renderType_alike name) fun _ => ?_
      exact .bind (renderType_alike value) fun _ => .emit? _ _ _
  | .expr value => by
      rw [StmtKind.renamed]
      cases value with
      | constant value =>
          rw [Expr.renamed, StmtKind.render]
          exact .emit _
      | _ =>
          rw [StmtKind.render, StmtKind.render]
          · exact .bind (renderExpr_alike _) fun _ => .emit _
          · simp [Expr.renamed]
          · simp

theorem Stmt.renderAll_alike : (stmts : List Stmt) →
    WritesAlike true (Stmt.renderAll (.curly dialect style) stmts)
      (Stmt.renderAll (.curly dialect style) (Stmt.renamedAll receiverName stmts))
  | [] => by
      rw [Stmt.renamedAll, Stmt.renderAll]
      exact .pure ()
  | first :: rest => by
      rw [Stmt.renamedAll, Stmt.renderAll, Stmt.renderAll]
      exact .bind first.render_alike fun _ => Stmt.renderAll_alike rest

theorem Stmt.renderUndocumented_alike : (body : List Stmt) →
    WritesAlike true (Stmt.renderUndocumented (.curly dialect style) body)
      (Stmt.renderUndocumented (.curly dialect style) (Stmt.renamedAll receiverName body))
  | [] => by
      rw [Stmt.renamedAll, Stmt.renderUndocumented]
      exact .pure ()
  | first :: rest => by
      rw [Stmt.renamedAll, Stmt.renderUndocumented, Stmt.renderUndocumented,
        Stmt.docText?_renamed]
      split
      · exact Stmt.renderAll_alike rest
      · exact .bind first.render_alike fun _ => Stmt.renderAll_alike rest

theorem Stmt.renderOrelse_alike : (orelse : List Stmt) →
    WritesAlike true (Stmt.renderOrelse (.curly dialect style) orelse)
      (Stmt.renderOrelse (.curly dialect style) (Stmt.renamedAll receiverName orelse))
  | [] => by
      rw [Stmt.renamedAll, Stmt.renderOrelse]
      exact .pure ()
  | [.mk line kind] => by
      have honly := Stmt.render_alike (.mk line kind)
      have hnone := Stmt.renderAll_alike []
      rw [Stmt.renamedAll, Stmt.renamedAll]
      cases kind with
      | branch test body orelse =>
          rw [Stmt.renamed, StmtKind.renamed, Stmt.renderOrelse, Stmt.renderOrelse]
          refine .bind (.emit _) fun _ => .bind (renderExpr_alike test) fun _ => ?_
          refine .bind (.emit _) fun _ => ?_
          exact .bind (.block none (Stmt.renderAll_alike body)) fun _ =>
            Stmt.renderOrelse_alike orelse
      | _ =>
          rw [Stmt.renderOrelse, Stmt.renderOrelse]
          · exact otherwise_alike _ honly hnone
          · simp [Stmt.renamed, StmtKind.renamed]
          · simp
  | first :: second :: rest => by
      have hline : (first.renamed receiverName).line = first.line := by
        cases first
        rw [Stmt.renamed]
        rfl
      rw [Stmt.renamedAll, Stmt.renderOrelse, Stmt.renderOrelse, hline]
      · exact otherwise_alike _ first.render_alike (Stmt.renderAll_alike _)
      · simp [Stmt.renamedAll]
      · simp

theorem MatchCase.render_alike (node other : RejectedNode) : (arm : MatchCase) →
    WritesAlike true (arm.render (.curly dialect style) node)
      ((arm.renamed receiverName).render (.curly dialect style) other)
  | .mk line pattern body => by
      rw [MatchCase.renamed, MatchCase.render, MatchCase.render]
      refine .bind (.emit _) fun _ => .bind (renderPattern_alike pattern) fun _ => ?_
      refine .bind (.emit? _ _ _) fun _ => .indented none ?_
      exact .bind (.inScope (Stmt.renderAll_alike body)) fun _ => .emit? _ _ _

theorem MatchCase.renderAll_alike (node other : RejectedNode) : (arms : List MatchCase) →
    WritesAlike true (MatchCase.renderAll (.curly dialect style) node arms)
      (MatchCase.renderAll (.curly dialect style) other (MatchCase.renamedAll receiverName arms))
  | [] => by
      rw [MatchCase.renamedAll, MatchCase.renderAll]
      exact .pure ()
  | arm :: rest => by
      rw [MatchCase.renamedAll, MatchCase.renderAll, MatchCase.renderAll]
      exact .bind (arm.render_alike node other) fun _ => MatchCase.renderAll_alike node other rest

end

theorem documentationSteps_renamed (target : Target) (body : List Stmt) :
    documentationSteps target (Stmt.renamedAll receiverName body) =
      documentationSteps target body := by
  cases body with
  | nil => rfl
  | cons first rest =>
      rw [Stmt.renamedAll, documentationSteps, documentationSteps, Stmt.docText?_renamed]

/-- A class, which need not stand in another one, reads the same when every use of `self` in its body
is a use of `this`. -/
theorem renderClass_alike (dialect : Dialect) (style : BraceStyle) (name : String)
    (bases : List Expr) (body : List Stmt) :
    WritesAlike false ((StmtKind.classDef name bases body).render (.curly dialect style))
      ((StmtKind.classDef name bases (Stmt.renamedAll receiverName body)).render
        (.curly dialect style)) := by
  rw [StmtKind.render, StmtKind.render, renderDocumentation_eq, renderDocumentation_eq,
    documentationSteps_renamed]
  refine .bind (.emit _) fun _ => .bind (.text fun {first second} h => ?_) fun _ => ?_
  · have hname : (Target.curly dialect style).nameText second =
        (Target.curly dialect style).nameText first := by
      funext ident asType
      simp only [Target.nameText, Dialect.name, h.inClass]
    rw [Expr.renderAll_congr hname]
  · refine .bind (.emit? _ _ _) fun _ => ?_
    exact .bind (.block _ (Stmt.renderUndocumented_alike body)) fun _ => .emit? _ _ _

end Receiver

end Snippet
