import Snippet.Proofs.Stops

/-!
# A walk prepares for lines in their order

A walk prepares for the lines of the stops, all of them or, where it is rejected, the first ones. So
it never goes back where the stops do not.
-/

namespace Snippet

open Layout (Step)
open Render Script

/-! ### What a script prepares for -/

namespace Layout

def Step.prepared? : Step → Option Nat
  | .prepare line => some line.toNat
  | _ => none

/-- The lines that a script prepares for, one after another. -/
def preparedLines (steps : List Step) : List Nat := steps.filterMap Step.prepared?

theorem preparedLines_append (first second : List Step) :
    preparedLines (first ++ second) = preparedLines first ++ preparedLines second :=
  List.filterMap_append

theorem preparedLines_deeper (steps : List Step) :
    preparedLines (.indent :: (steps ++ [.dedent])) = preparedLines steps := by
  change preparedLines (steps ++ [.dedent]) = _
  rw [preparedLines_append]
  exact List.append_nil _

end Layout

open Layout (preparedLines)

theorem Target.Emits.preparedLines {target : Target} {steps : List Step} (h : target.Emits steps) :
    preparedLines steps = [] := by
  induction h with
  | nil => rfl
  | append _ _ ih₁ ih₂ => rw [Layout.preparedLines_append, ih₁, ih₂, List.append_nil]
  | line text => rfl
  | deeper _ ih => rw [Layout.preparedLines_deeper, ih]
  | @opening dialect style _ header => cases style <;> rfl
  | @middle dialect style _ header => cases style <;> rfl
  | @closing dialect style _ closer => cases style <;> rfl

namespace Render.Script

variable {α β : Type} {target : Target} {stops before after : List Stop}

/-- A script prepares for the lines of the stops or, where it is rejected, for the first of them. -/
structure Prepares (stops : List Stop) (script : Script α) : Prop where
  all : ∀ {around a}, (script around).result = .ok a →
    preparedLines (script around).steps = stops.map Stop.line
  first : ∀ around, preparedLines (script around).steps <+: stops.map Stop.line

namespace Prepares

/-- A script that prepares for nothing, rejected or not. -/
theorem quiet {script : Script α} (h : ∀ around, preparedLines (script around).steps = []) :
    Prepares [] script :=
  ⟨fun _ => h _, fun around => List.prefix_nil.mpr (h around)⟩

theorem pure (a : α) : Prepares [] (Pure.pure a : Script α) := .quiet fun _ => rfl

theorem text (render : Surroundings → Except Rejection α) : Prepares [] (Script.text render) :=
  .quiet fun _ => rfl

theorem surroundings : Prepares [] Script.surroundings := .quiet fun _ => rfl

theorem emit {steps : List Step} (h : target.Emits steps) : Prepares [] (Script.emit steps) :=
  .quiet fun _ => h.preparedLines

theorem emit? (node : RejectedNode) {form : Option (List Step)}
    (h : ∀ {steps}, form = some steps → target.Emits steps) :
    Prepares [] (Script.emit? target node form) := by
  cases form with
  | none => exact .quiet fun _ => rfl
  | some steps => exact .emit (h rfl)

theorem beginFunction (node : RejectedNode) (signature : Signature) :
    Prepares [] (Script.begin? target node fun around =>
      target.beginFunction? around signature) := by
  refine .quiet fun around => ?_
  rw [begin?]
  split
  · next inside steps hform => exact (Target.beginFunction_spec hform).2.preparedLines
  · rfl

theorem bind {first : Script α} {next : α → Script β} (h₁ : Prepares before first)
    (h₂ : ∀ a, Prepares after (next a)) : Prepares (before ++ after) (first >>= next) := by
  refine ⟨fun {around b} hb => ?_, fun around => ?_⟩
  · obtain ⟨a, hfirst, hnext, hsteps⟩ := exists_of_bind_ok hb
    rw [hsteps, Layout.preparedLines_append, h₁.all hfirst, (h₂ a).all hnext, List.map_append]
  · rw [bind_apply, List.map_append]
    cases hfirst : (first around).result with
    | error rejection => exact (h₁.first around).trans (List.prefix_append _ _)
    | ok a =>
        dsimp only
        rw [Layout.preparedLines_append, h₁.all hfirst]
        exact (List.prefix_append_right_inj _).mpr ((h₂ a).first _)

theorem next {first : Script α} {next : α → Script β} (h₁ : Prepares [] first)
    (h₂ : ∀ a, Prepares stops (next a)) : Prepares stops (first >>= next) :=
  h₁.bind h₂

theorem last {first : Script α} {next : α → Script β} (h₁ : Prepares stops first)
    (h₂ : ∀ a, Prepares [] (next a)) : Prepares stops (first >>= next) := by
  rw [← List.append_nil stops]
  exact h₁.bind h₂

theorem stop (stop : Stop) {script : Script α} (h : Prepares stops script) :
    Prepares (stop :: stops) (Script.emit [.prepare stop.word] >>= fun _ => script) := by
  have hstop : Prepares [stop] (Script.emit [.prepare stop.word]) :=
    ⟨fun _ => rfl, fun _ => List.prefix_rfl⟩
  exact hstop.bind fun _ => h

theorem inScope {body : Script α} (h : Prepares stops body) :
    Prepares stops (Script.inScope body) :=
  ⟨fun ha => h.all ha, fun around => h.first around.pushScope⟩

theorem indented (className : Option String) {body : Script α} (h : Prepares stops body) :
    Prepares stops (Script.indented className body) := by
  refine ⟨fun {around a} ha => ?_, fun around => ?_⟩
  · exact (Layout.preparedLines_deeper _).trans (h.all ha)
  · rw [Script.indented, Layout.preparedLines_deeper]
    exact h.first _

theorem block (className : Option String) {body : Script α} (h : Prepares stops body) :
    Prepares stops (Script.block className body) :=
  .indented className (.inScope h)

end Prepares

end Render.Script

section Tree

variable (target : Target)

theorem renderDocumentation_prepares (body : List Stmt) :
    Prepares [] (renderDocumentation target body) := by
  cases body with
  | nil => exact .pure ()
  | cons first rest =>
      rw [renderDocumentation]
      cases first.docText? with
      | none => exact .pure ()
      | some text => exact .emit (Target.emits_docComment _)

theorem declareTarget_prepares (declared : Expr) (hint : String) :
    Prepares [] (declareTarget declared hint) := by
  cases declared with
  | name ident => exact .quiet fun _ => rfl
  | _ => exact .pure ()

theorem renderPattern_prepares (pattern : Expr) : Prepares [] (renderPattern target pattern) := by
  rw [renderPattern.eq_def]
  split
  · exact .pure none
  · exact .next (.text _) fun _ => .pure _

theorem renderOtherwise_prepares (first : Stmt) {stops : List Stop} {body : Script Unit}
    (h : Prepares stops body) :
    Prepares (.otherwise first :: stops) (do
      Script.emit [.prepare first.line]
      Script.emit target.beginElse
      Script.block none body) :=
  .stop (.otherwise first) (.next (.emit Target.emits_beginElse) fun _ => h.block none)

mutual

theorem Stmt.render_prepares : (stmt : Stmt) → Prepares stmt.stops (stmt.render target)
  | .mk line kind => by
      rw [Stmt.render, Stmt.stops]
      exact .stop (.stmt (.mk line kind)) (StmtKind.render_prepares kind)

theorem StmtKind.render_prepares : (kind : StmtKind) → Prepares kind.stops (kind.render target)
  | .classDef name bases body => by
      rw [StmtKind.render, StmtKind.stops]
      refine .next (renderDocumentation_prepares target body) fun _ => .next (.text _) fun _ => ?_
      refine .next (.emit? _ Target.emits_beginClass) fun _ => ?_
      refine (Stmt.renderUndocumented_prepares body).block _ |>.last fun _ => ?_
      exact .emit? _ Target.emits_endClass
  | .functionDef header body => by
      rw [StmtKind.render, StmtKind.stops]
      refine .next (renderDocumentation_prepares target body) fun _ => ?_
      refine .next .surroundings fun _ => .next (.text _) fun _ => .inScope ?_
      refine .next (.next (.text _) fun _ => .pure _) fun signature => ?_
      refine .next (.beginFunction _ signature) fun _ => ?_
      refine (Stmt.renderUndocumented_prepares body).block none |>.last fun _ => ?_
      exact .emit Target.emits_endFunction
  | .assign targets value => by
      rw [StmtKind.render]
      refine .next (.text _) fun _ => .next (.text _) fun _ => ?_
      exact .emit (Target.emits_assign _ _)
  | .annAssign declared hint value => by
      rw [StmtKind.render]
      refine .next (.text _) fun _ => .next (declareTarget_prepares _ _) fun _ => ?_
      refine .next (.text _) fun _ => .next (.text _) fun _ => .next .surroundings fun _ => ?_
      exact .emit (Target.emits_declare _ _)
  | .augAssign assigned op value => by
      rw [StmtKind.render]
      refine .next (.text _) fun _ => .next (.text _) fun _ => ?_
      exact .emit (Target.emits_assignOp _ _ _)
  | .branch test body orelse => by
      rw [StmtKind.render, StmtKind.stops]
      refine .next (.text _) fun _ => .next (.emit (Target.emits_beginIf _)) fun _ => ?_
      refine (Stmt.renderAll_prepares body).block none |>.bind fun _ => ?_
      exact (Stmt.renderOrelse_prepares orelse).last fun _ => .emit Target.emits_endBlock
  | .forLoop item iter body isAsync => by
      rw [StmtKind.render, StmtKind.stops]
      refine .next (.text _) fun _ => .next (.text _) fun _ => ?_
      refine .next (.emit? _ Target.emits_beginFor) fun _ => ?_
      refine (Stmt.renderAll_prepares body).block none |>.last fun _ => ?_
      exact .emit Target.emits_endBlock
  | .whileLoop test body => by
      rw [StmtKind.render, StmtKind.stops]
      refine .next (.text _) fun _ => .next (.emit (Target.emits_beginWhile _)) fun _ => ?_
      refine (Stmt.renderAll_prepares body).block none |>.last fun _ => ?_
      exact .emit Target.emits_endBlock
  | .pass => by
      rw [StmtKind.render]
      exact .pure ()
  | .breakLoop => by
      rw [StmtKind.render]
      exact .emit (Target.emits_keywordStatement _)
  | .continueLoop => by
      rw [StmtKind.render]
      exact .emit (Target.emits_keywordStatement _)
  | .returning value => by
      rw [StmtKind.render]
      exact .next (.text _) fun _ => .emit (Target.emits_returning _)
  | .switch subject cases => by
      rw [StmtKind.render, StmtKind.stops]
      refine .next (.text _) fun _ => .next (.emit? _ Target.emits_beginSwitch) fun _ => ?_
      refine (MatchCase.renderAll_prepares _ cases).block none |>.last fun _ => ?_
      exact .emit Target.emits_endBlock
  | .imports names => by
      rw [StmtKind.render]
      exact .emit? _ Target.emits_imports
  | .importFrom module names => by
      rw [StmtKind.render]
      exact .emit? _ Target.emits_importFrom
  | .delete targets => by
      rw [StmtKind.render]
      exact .next (.text _) fun _ => .emit? _ Target.emits_delete
  | .typeAlias name value => by
      rw [StmtKind.render]
      refine .next (.text _) fun _ => .next (.text _) fun _ => ?_
      exact .emit? _ Target.emits_typeAlias
  | .expr value => by
      rw [StmtKind.render.eq_def]
      cases value with
      | constant value => exact .emit (Target.emits_comment _)
      | _ => exact .next (.text _) fun _ => .emit (Target.emits_expressionStatement _)

theorem Stmt.renderAll_prepares : (stmts : List Stmt) →
    Prepares (Stmt.stopsAll stmts) (Stmt.renderAll target stmts)
  | [] => by
      rw [Stmt.renderAll]
      exact .pure ()
  | first :: rest => by
      rw [Stmt.renderAll, Stmt.stopsAll]
      exact (Stmt.render_prepares first).bind fun _ => Stmt.renderAll_prepares rest

theorem Stmt.renderUndocumented_prepares : (body : List Stmt) →
    Prepares (Stmt.stopsUndocumented body) (Stmt.renderUndocumented target body)
  | [] => by
      rw [Stmt.renderUndocumented]
      exact .pure ()
  | first :: rest => by
      rw [Stmt.renderUndocumented, Stmt.stopsUndocumented]
      split
      · exact Stmt.renderAll_prepares rest
      · exact (Stmt.render_prepares first).bind fun _ => Stmt.renderAll_prepares rest

theorem Stmt.renderOrelse_prepares : (orelse : List Stmt) →
    Prepares (Stmt.stopsOrelse orelse) (Stmt.renderOrelse target orelse)
  | [] => by
      rw [Stmt.renderOrelse]
      exact .pure ()
  | [.mk line kind] => by
      have honly := Stmt.render_prepares (.mk line kind)
      have hnone := Stmt.renderAll_prepares []
      cases kind with
      | branch test body orelse =>
          have hbody := (Stmt.renderAll_prepares body).block none
          rw [Stmt.renderOrelse, Stmt.stopsOrelse]
          refine .stop (.stmt (.mk line (.branch test body orelse))) (.next (.text _) fun _ => ?_)
          refine .next (.emit (Target.emits_beginElif _)) fun _ => ?_
          exact hbody.bind fun _ => Stmt.renderOrelse_prepares orelse
      | _ =>
          rw [Stmt.renderOrelse, Stmt.stopsOrelse]
          · exact renderOtherwise_prepares target _ (honly.bind fun _ => hnone)
          · simp
          · simp
  | first :: second :: rest => by
      rw [Stmt.renderOrelse, Stmt.stopsOrelse]
      · exact renderOtherwise_prepares target _
          ((Stmt.render_prepares first).bind fun _ => Stmt.renderAll_prepares (second :: rest))
      · simp
      · simp

theorem MatchCase.render_prepares (node : RejectedNode) : (arm : MatchCase) →
    Prepares arm.stops (arm.render target node)
  | .mk line pattern body => by
      rw [MatchCase.render, MatchCase.stops]
      refine .stop (.arm (.mk line pattern body)) ?_
      refine .next (renderPattern_prepares target _) fun _ => ?_
      refine .next (.emit? _ Target.emits_beginCase) fun _ => .indented none ?_
      refine (Stmt.renderAll_prepares body).inScope.last fun _ => ?_
      exact .emit? node Target.emits_endCase

theorem MatchCase.renderAll_prepares (node : RejectedNode) : (arms : List MatchCase) →
    Prepares (MatchCase.stopsAll arms) (MatchCase.renderAll target node arms)
  | [] => by
      rw [MatchCase.renderAll]
      exact .pure ()
  | arm :: rest => by
      rw [MatchCase.renderAll, MatchCase.stopsAll]
      exact (MatchCase.render_prepares node arm).bind fun _ => MatchCase.renderAll_prepares node rest

end

theorem Program.script_prepares (program : Program) :
    Prepares program.stops (program.script target) :=
  (Stmt.renderAll_prepares target program.body).inScope

end Tree

end Snippet
