import Snippet.Proofs.Balance
import Snippet.Proofs.Refusal.Expr

/-!
# What the languages with braces reject

A rendering fails exactly when the walk reaches a node that the dialect refuses, and it names the
first such node. Statements are judged with the class they stand in, since a function right in the
body of a class passes over its receiver.
-/

namespace Snippet

open Layout (BraceStyle)
open Render Script

/-- A script's result is the verdict on the nodes it visits, where it stands right in a class body or
not, and the class stays the same. -/
def Judged (dialect : Dialect) (style : BraceStyle) (inClassBody : Bool)
    (visited : List RejectedNode) {α : Type} (script : Script α) : Prop :=
  ∀ around : Surroundings, around.className.isSome = inClassBody →
    Verdict dialect style visited (script around).result ∧
      (script around).around.className = around.className

namespace Judged

variable {dialect : Dialect} {style : BraceStyle} {inClassBody : Bool} {α β : Type}

theorem bind {first : Script α} {next : α → Script β} {before after : List RejectedNode}
    (h₁ : Judged dialect style inClassBody before first)
    (h₂ : ∀ around : Surroundings, around.className.isSome = inClassBody →
      ∀ a, (first around).result = .ok a → Judged dialect style inClassBody after (next a)) :
    Judged dialect style inClassBody (before ++ after) (first >>= next) := by
  intro around haround
  obtain ⟨hverdict, hclass⟩ := h₁ around haround
  have hbind : ((first >>= next) around).result = (first around).result >>= fun a =>
      (next a (first around).around).result := by
    rw [Script.bind_apply]
    cases (first around).result <;> rfl
  refine ⟨hbind ▸ hverdict.bind fun a ha => ?_, ?_⟩
  · exact (h₂ around haround a ha _ (hclass ▸ haround)).1
  · rw [Script.bind_apply]
    split
    · next a ha => exact (h₂ around haround a ha _ (hclass ▸ haround)).2.trans hclass
    · exact hclass

theorem visit {first : Script α} {next : α → Script β} {node : RejectedNode}
    {after : List RejectedNode} (h₁ : Judged dialect style inClassBody [node] first)
    (h₂ : ∀ a, Judged dialect style inClassBody after (next a)) :
    Judged dialect style inClassBody (node :: after) (first >>= next) :=
  h₁.bind fun _ _ a _ => h₂ a

theorem preceded {first : Script α} {next : α → Script β} {after : List RejectedNode}
    (h₁ : Judged dialect style inClassBody [] first)
    (h₂ : ∀ a, Judged dialect style inClassBody after (next a)) :
    Judged dialect style inClassBody after (first >>= next) :=
  h₁.bind fun _ _ a _ => h₂ a

theorem followed {first : Script α} {next : α → Script β} {before : List RejectedNode}
    (h₁ : Judged dialect style inClassBody before first)
    (h₂ : ∀ a, Judged dialect style inClassBody [] (next a)) :
    Judged dialect style inClassBody before (first >>= next) := by
  rw [← List.append_nil before]
  exact h₁.bind fun _ _ a _ => h₂ a

theorem pure (a : α) : Judged dialect style inClassBody [] (Pure.pure a : Script α) :=
  fun _ _ => ⟨.ok a, rfl⟩

theorem emit (steps : List Layout.Step) :
    Judged dialect style inClassBody [] (Script.emit steps) :=
  fun _ _ => ⟨.ok (), rfl⟩

theorem surroundings {next : Surroundings → Script β} {visited : List RejectedNode}
    (h : ∀ around : Surroundings, around.className.isSome = inClassBody →
      Judged dialect style inClassBody visited (next around)) :
    Judged dialect style inClassBody visited (Script.surroundings >>= next) :=
  fun around haround => h around haround around haround

theorem text {visited : List RejectedNode} {render : Surroundings → Except Rejection α}
    (h : ∀ around, Verdict dialect style visited (render around)) :
    Judged dialect style inClassBody visited (Script.text render) :=
  fun around _ => ⟨h around, rfl⟩

theorem emit? {node : RejectedNode} {form : Option (List Layout.Step)}
    (h : dialect.refuses node = form.isNone) :
    Judged dialect style inClassBody [node] (Script.emit? (.curly dialect style) node form) := by
  intro around _
  cases form with
  | none => exact ⟨.refused h, rfl⟩
  | some steps => exact ⟨.accepted h (), rfl⟩

theorem emitted (node : RejectedNode) (steps : List Layout.Step) :
    Judged dialect style inClassBody [] (Script.emit? (.curly dialect style) node (some steps)) :=
  emit steps

theorem begin? {node : RejectedNode}
    {form : Surroundings → Option (Surroundings × List Layout.Step)}
    (h : ∀ around, around.className.isSome = inClassBody →
      dialect.refuses node = (form around).isNone)
    (hclass : ∀ {around inside steps}, form around = some (inside, steps) →
      inside.className = around.className) :
    Judged dialect style inClassBody [node] (Script.begin? (.curly dialect style) node form) := by
  intro around haround
  have hnode := h around haround
  rw [Script.begin?]
  cases hform : form around with
  | none => exact ⟨.refused (by simpa [hform] using hnode), rfl⟩
  | some opened =>
      obtain ⟨inside, steps⟩ := opened
      exact ⟨.accepted (by simpa [hform] using hnode) (), hclass hform⟩

theorem inScope {visited : List RejectedNode} {body : Script α}
    (h : Judged dialect style inClassBody visited body) :
    Judged dialect style inClassBody visited (Script.inScope body) :=
  fun around haround => h around.pushScope haround

theorem indented {visited : List RejectedNode} {body : Script α} (className : Option String)
    (h : Judged dialect style className.isSome visited body) :
    Judged dialect style inClassBody visited (Script.indented className body) :=
  fun around _ => ⟨(h (around.enter className) rfl).1, rfl⟩

theorem block {visited : List RejectedNode} {body : Script α} (className : Option String)
    (h : Judged dialect style className.isSome visited body) :
    Judged dialect style inClassBody visited (Script.block className body) :=
  indented className (inScope h)

end Judged

/-! ### Statements -/

section Statements

variable {dialect : Dialect} {style : BraceStyle} {inClassBody : Bool}

theorem renderDocumentation_judged (body : List Stmt) :
    Judged dialect style inClassBody [] (renderDocumentation (.curly dialect style) body) := by
  cases body with
  | nil => exact .pure ()
  | cons first rest =>
      rw [renderDocumentation]
      split
      · exact .emit _
      · exact .pure ()

theorem declareTarget_judged (declared : Expr) (hint : String) :
    Judged dialect style inClassBody [] (declareTarget declared hint) := by
  cases declared with
  | name ident => exact fun _ _ => ⟨.ok (), rfl⟩
  | _ => exact .pure ()

theorem renderParams_verdict (header : FunctionHeader) (around : Surroundings) (index : Nat)
    (params : List Param) :
    Verdict dialect style (header.visitedParams index params)
      (header.renderParams (.curly dialect style) around index params) := by
  induction params generalizing index with
  | nil => exact .ok []
  | cons param rest ih =>
      rw [FunctionHeader.visitedParams, FunctionHeader.renderParams, List.append_assoc]
      refine (Expr.renderOptional_verdict param.hint).bind fun _ _ => ?_
      refine (Expr.renderOptional_verdict (header.default? index)).bind fun _ _ => ?_
      exact (ih (index + 1)).map _

/-- Only a method has a header that needs a class, and it stands in one. -/
theorem refuses_functionDef {header : FunctionHeader} {body : List Stmt} {around : Surroundings}
    {signature : Signature} (hasync : signature.isAsync = header.isAsync)
    (hmethod : signature.isMethod = around.className.isSome) :
    dialect.refuses (.stmt (.functionDef header body)) =
      (Target.beginFunction? (.curly dialect style) around signature).isNone := by
  cases dialect with
  | typeScript typed => rfl
  | cpp =>
      rw [Target.beginFunction?, Dialect.functionHeader?, Dialect.cppFunctionHeader?]
      cases hheader : header.isAsync with
      | true => simp [Dialect.refuses, hheader, hasync]
      | false =>
          simp only [Dialect.refuses, hheader, hasync, hmethod, Bool.and_false]
          cases around.className <;> grind

theorem signature_of_renderSignature {target : Target} {header : FunctionHeader} {isMethod : Bool}
    {returns : Option String} {around : Surroundings} {signature : Signature}
    (h : (header.renderSignature target isMethod returns around).result = .ok signature) :
    signature.isAsync = header.isAsync ∧ signature.isMethod = isMethod := by
  rw [FunctionHeader.renderSignature, Script.bind_apply] at h
  split at h
  · obtain rfl := Except.ok.inj h
    exact ⟨rfl, rfl⟩
  · cases h

theorem renderFunction_judged (header : FunctionHeader) (returns : Option String)
    {stmts : List Stmt} {body : Script Unit}
    (h : Judged dialect style false (Stmt.visitedAll false stmts) body) :
    let skipped := if inClassBody && header.hasReceiver then 1 else 0
    Judged dialect style inClassBody
      (header.visitedParams skipped (header.params.drop skipped) ++
        .stmt (.functionDef header stmts) :: Stmt.visitedAll false stmts)
      (do
        let signature ← header.renderSignature (.curly dialect style) inClassBody returns
        Script.begin? (.curly dialect style) (.stmt (.functionDef header stmts)) fun around =>
          Target.beginFunction? (.curly dialect style) around signature
        Script.block none body
        Script.emit (Target.endFunction (.curly dialect style))) := by
  intro skipped
  have hsignature : Judged dialect style inClassBody
      (header.visitedParams skipped (header.params.drop skipped))
      (header.renderSignature (.curly dialect style) inClassBody returns) :=
    Judged.followed (.text fun around => renderParams_verdict header around _ _) fun _ => .pure _
  refine hsignature.bind fun around haround signature hresult => ?_
  obtain ⟨hasync, hmethod⟩ := signature_of_renderSignature hresult
  -- The signature leaves the class as it was, so the header still stands where the function does.
  refine Judged.visit (.begin? (fun inside hinside => ?_) fun hform => ?_) fun _ => ?_
  · exact refuses_functionDef hasync (hmethod.trans hinside.symm)
  · exact (Target.beginFunction_spec hform).1.sameOutside.className
  · exact Judged.followed (.block none h) fun _ => .emit _

theorem pattern_judged (pattern : Expr) :
    Judged dialect style inClassBody pattern.visitedPattern
      (renderPattern (.curly dialect style) pattern) := by
  by_cases hwildcard : pattern = .matchAs none
  · subst hwildcard
    exact .pure none
  · rw [renderPattern, Expr.visitedPattern]
    · exact .followed (.text fun _ => pattern.render_verdict) fun _ => .pure _
    · exact hwildcard
    · exact hwildcard

theorem otherwise_judged (line : UInt64) {first rest : Script Unit} {before after : List RejectedNode}
    (h₁ : Judged dialect style false before first) (h₂ : Judged dialect style false after rest) :
    Judged dialect style inClassBody (before ++ after) (do
      Script.emit [.prepare line]
      Script.emit (Target.beginElse (.curly dialect style))
      Script.block none do
        first
        rest) := by
  refine Judged.preceded (.emit _) fun _ => Judged.preceded (.emit _) fun _ => ?_
  exact .block none (h₁.bind fun _ _ _ _ => h₂)

theorem refuses_forLoop {item iter : Expr} {body : List Stmt} {isAsync : Bool} {name : String}
    {items : LoopItems} {around : Surroundings}
    (h : iter.renderLoopItems (.curly dialect style) around = .ok items) :
    dialect.refuses (.stmt (.forLoop item iter body isAsync)) =
      (Target.beginFor? (.curly dialect style) name items isAsync).isNone := by
  have hcounts := countsRange_of_renderLoopItems h
  rw [Target.beginFor?, Option.isNone_map, Dialect.forHeader?.eq_def]
  cases items with
  | range bounds call =>
      obtain ⟨hcounts, hstop⟩ := hcounts
      obtain ⟨stop, hstop⟩ := Option.isSome_iff_exists.mp hstop
      cases isAsync with
      | true => simp [Dialect.refuses, hcounts]
      | false => simp [Dialect.refuses, Dialect.countingLoop?, Bounds.fillDefaults, hstop]
  | items text =>
      replace hcounts : iter.countsRange = false := hcounts
      cases dialect <;> cases isAsync <;> simp [Dialect.refuses, Dialect.eachLoop?, hcounts]

theorem Stmt.visited_of_docText?_isSome (inClassBody : Bool) {stmt : Stmt}
    (h : stmt.docText?.isSome = true) : stmt.visited inClassBody = [] := by
  rw [Stmt.docText?.eq_def] at h
  split at h
  · rw [Stmt.visited, StmtKind.visited]
  · cases h

mutual

theorem Stmt.render_judged (inClassBody : Bool) : (stmt : Stmt) →
    Judged dialect style inClassBody (stmt.visited inClassBody) (stmt.render (.curly dialect style))
  | .mk line kind => by
      rw [Stmt.visited, Stmt.render]
      exact .preceded (.emit _) fun _ => kind.render_judged inClassBody

theorem StmtKind.render_judged (inClassBody : Bool) : (kind : StmtKind) →
    Judged dialect style inClassBody (kind.visited inClassBody) (kind.render (.curly dialect style))
  | .classDef name bases body => by
      rw [StmtKind.visited, StmtKind.render]
      refine .preceded (renderDocumentation_judged body) fun _ => ?_
      refine Judged.bind (.text fun _ => Expr.renderAll_verdict bases) fun _ _ _ _ => ?_
      refine .visit (.emit? rfl) fun _ => ?_
      exact .followed (.block _ (Stmt.renderUndocumented_judged true body)) fun _ => .emitted _ _
  | .functionDef header body => by
      rw [StmtKind.visited, StmtKind.render, FunctionHeader.visited, List.append_assoc]
      refine .preceded (renderDocumentation_judged body) fun _ => .surroundings fun around h => ?_
      refine Judged.bind (.text fun _ => Expr.renderOptional_verdict header.returns) ?_
      intro _ _ returns _
      simp only [h]
      exact .inScope (renderFunction_judged header returns (Stmt.renderUndocumented_judged false body))
  | .assign targets value => by
      rw [StmtKind.visited, StmtKind.render]
      refine Judged.bind (.text fun _ => Expr.renderAll_verdict targets) fun _ _ _ _ => ?_
      exact .followed (.text fun _ => value.render_verdict) fun _ => .emit _
  | .annAssign declared hint value => by
      rw [StmtKind.visited, StmtKind.render, List.append_assoc]
      refine Judged.bind (.text fun _ => hint.render_verdict) fun _ _ _ _ => ?_
      refine .preceded (declareTarget_judged declared _) fun _ => ?_
      refine Judged.bind (.text fun _ => declared.render_verdict) fun _ _ _ _ => ?_
      refine .followed (.text fun _ => Expr.renderOptional_verdict value) fun _ => ?_
      exact .preceded (fun _ _ => ⟨.ok _, rfl⟩) fun _ => .emit _
  | .augAssign assigned op value => by
      rw [StmtKind.visited, StmtKind.render]
      refine Judged.bind (.text fun _ => assigned.render_verdict) fun _ _ _ _ => ?_
      exact .followed (.text fun _ => value.render_verdict) fun _ => .emit _
  | .branch test body orelse => by
      rw [StmtKind.visited, StmtKind.render, List.append_assoc]
      refine Judged.bind (.text fun _ => test.render_verdict) fun _ _ _ _ => ?_
      refine .preceded (.emit _) fun _ => ?_
      refine Judged.bind (.block none (Stmt.renderAll_judged false body)) fun _ _ _ _ => ?_
      exact .followed (Stmt.renderOrelse_judged _ orelse) fun _ => .emit _
  | .forLoop item iter body isAsync => by
      rw [StmtKind.visited, StmtKind.render, List.append_assoc]
      refine Judged.bind (.text fun _ => item.render_verdict) fun _ _ name _ => ?_
      refine Judged.bind (.text fun _ => renderLoopItems_verdict iter) fun _ _ items hitems => ?_
      refine .visit (.emit? (refuses_forLoop hitems)) fun _ => ?_
      exact .followed (.block none (Stmt.renderAll_judged false body)) fun _ => .emit _
  | .whileLoop test body => by
      rw [StmtKind.visited, StmtKind.render]
      refine Judged.bind (.text fun _ => test.render_verdict) fun _ _ _ _ => ?_
      refine .preceded (.emit _) fun _ => ?_
      exact .followed (.block none (Stmt.renderAll_judged false body)) fun _ => .emit _
  | .pass => by
      rw [StmtKind.visited, StmtKind.render]
      exact .pure ()
  | .breakLoop => by
      rw [StmtKind.visited, StmtKind.render]
      exact .emit _
  | .continueLoop => by
      rw [StmtKind.visited, StmtKind.render]
      exact .emit _
  | .returning value => by
      rw [StmtKind.visited, StmtKind.render]
      exact .followed (.text fun _ => Expr.renderOptional_verdict value) fun _ => .emit _
  | .switch subject cases => by
      rw [StmtKind.visited, StmtKind.render]
      refine Judged.bind (.text fun _ => subject.render_verdict) fun _ _ _ _ => ?_
      refine .visit (.emit? rfl) fun _ => ?_
      exact .followed (.block none (MatchCase.renderAll_judged _ cases)) fun _ => .emit _
  | .imports names => by
      rw [StmtKind.visited, StmtKind.render]
      refine .emit? ?_
      cases dialect <;> rfl
  | .importFrom module names => by
      rw [StmtKind.visited, StmtKind.render]
      refine .emit? ?_
      cases dialect <;> cases module <;> rfl
  | .delete targets => by
      rw [StmtKind.visited, StmtKind.render]
      refine Judged.bind (.text fun _ => Expr.renderAll_verdict targets) fun _ _ _ _ => ?_
      exact .emit? rfl
  | .typeAlias name value => by
      rw [StmtKind.visited, StmtKind.render, List.append_assoc]
      refine Judged.bind (.text fun _ => name.render_verdict) fun _ _ _ _ => ?_
      refine Judged.bind (.text fun _ => value.render_verdict) fun _ _ _ _ => ?_
      exact .emit? rfl
  | .expr value => by
      rw [StmtKind.render.eq_def]
      cases value with
      | constant value =>
          rw [StmtKind.visited]
          exact .emit _
      | _ =>
          rw [StmtKind.visited]
          · exact .followed (.text fun _ => Expr.render_verdict _) fun _ => .emit _
          · simp

theorem Stmt.renderAll_judged (inClassBody : Bool) : (stmts : List Stmt) →
    Judged dialect style inClassBody (Stmt.visitedAll inClassBody stmts)
      (Stmt.renderAll (.curly dialect style) stmts)
  | [] => by
      rw [Stmt.visitedAll, Stmt.renderAll]
      exact .pure ()
  | first :: rest => by
      rw [Stmt.visitedAll, Stmt.renderAll]
      exact (first.render_judged inClassBody).bind fun _ _ _ _ => Stmt.renderAll_judged _ rest

theorem Stmt.renderUndocumented_judged (inClassBody : Bool) : (body : List Stmt) →
    Judged dialect style inClassBody (Stmt.visitedAll inClassBody body)
      (Stmt.renderUndocumented (.curly dialect style) body)
  | [] => by
      rw [Stmt.visitedAll, Stmt.renderUndocumented]
      exact .pure ()
  | first :: rest => by
      rw [Stmt.visitedAll, Stmt.renderUndocumented]
      split
      · next hdoc =>
          rw [Stmt.visited_of_docText?_isSome inClassBody hdoc]
          exact Stmt.renderAll_judged _ rest
      · exact (first.render_judged inClassBody).bind fun _ _ _ _ => Stmt.renderAll_judged _ rest

theorem Stmt.renderOrelse_judged (inClassBody : Bool) : (orelse : List Stmt) →
    Judged dialect style inClassBody (Stmt.visitedAll false orelse)
      (Stmt.renderOrelse (.curly dialect style) orelse)
  | [] => by
      rw [Stmt.visitedAll, Stmt.renderOrelse]
      exact .pure ()
  | [.mk line kind] => by
      have only := Stmt.render_judged false (.mk line kind)
      have none := Stmt.renderAll_judged false []
      -- A single `if` goes on with the chain; anything else stands in a block of its own.
      cases kind with
      | branch test body orelse =>
          rw [Stmt.visitedAll, Stmt.visitedAll, Stmt.visited, StmtKind.visited, List.append_nil,
            List.append_assoc, Stmt.renderOrelse]
          refine .preceded (.emit _) fun _ => ?_
          refine Judged.bind (.text fun _ => test.render_verdict) fun _ _ _ _ => ?_
          refine .preceded (.emit _) fun _ => ?_
          refine Judged.bind (.block Option.none (Stmt.renderAll_judged false body)) fun _ _ _ _ => ?_
          exact Stmt.renderOrelse_judged _ orelse
      | _ =>
          rw [Stmt.renderOrelse, Stmt.visitedAll]
          · exact otherwise_judged _ only none
          · simp
  | first :: second :: rest => by
      rw [Stmt.renderOrelse, Stmt.visitedAll]
      · exact otherwise_judged _ (first.render_judged false) (Stmt.renderAll_judged false _)
      · simp

theorem MatchCase.render_judged (node : RejectedNode) : (arm : MatchCase) →
    Judged dialect style false arm.visited (arm.render (.curly dialect style) node)
  | .mk line pattern body => by
      rw [MatchCase.visited, MatchCase.render]
      refine .preceded (.emit _) fun _ => ?_
      refine (pattern_judged pattern).bind fun _ _ text _ => ?_
      refine .visit (.emit? (by cases text <;> rfl)) fun _ => .indented _ ?_
      exact .followed (.inScope (Stmt.renderAll_judged false body)) fun _ => .emitted _ _

theorem MatchCase.renderAll_judged (node : RejectedNode) : (arms : List MatchCase) →
    Judged dialect style false (MatchCase.visitedAll arms)
      (MatchCase.renderAll (.curly dialect style) node arms)
  | [] => by
      rw [MatchCase.visitedAll, MatchCase.renderAll]
      exact .pure ()
  | arm :: rest => by
      rw [MatchCase.visitedAll, MatchCase.renderAll]
      exact (arm.render_judged node).bind fun _ _ _ _ => MatchCase.renderAll_judged node rest

end

end Statements

/-- **What the languages with braces reject.** A rendering succeeds unless the walk reaches a node
that the dialect refuses, and otherwise fails at the first such node, whose kind and dump the message
gives. -/
theorem render_rejects_first_refused (dialect : Dialect) (style : BraceStyle) (unit : Layout.IndentUnit)
    (records : List Comment.Record) (program : Program) :
    match program.visited.find? dialect.refuses with
    | none => ∃ rendering, program.render (.curly dialect style) unit records = .ok rendering
    | some node => ∃ rejection,
        program.render (.curly dialect style) unit records = .error rejection ∧
          rejection.node = node ∧
          rejection.message = (Target.curly dialect style).name ++ ": unsupported " ++
            node.kindName ++ ": " ++ node.dump := by
  have hverdict : Verdict dialect style program.visited
      (program.script (.curly dialect style) .outermost).result :=
    (Judged.inScope (Stmt.renderAll_judged false program.body) .outermost rfl).1
  rw [Verdict] at hverdict
  rw [Program.render, Program.play]
  cases hfound : program.visited.find? dialect.refuses with
  | none =>
      obtain ⟨value, hvalue⟩ : ∃ value, (program.script (.curly dialect style) .outermost).result =
          .ok value := by simpa only [hfound] using hverdict
      rw [hvalue]
      exact ⟨_, rfl⟩
  | some node =>
      have hrejected : (program.script (.curly dialect style) .outermost).result =
          .error ⟨.curly dialect style, node⟩ := by simpa only [hfound] using hverdict
      rw [hrejected]
      exact ⟨_, rfl, rfl, rfl⟩

end Snippet
