import Snippet.Proofs.Outline.Forms
import Snippet.Proofs.Walk

/-!
# Scripts in every brace style

A program has one outline, which every brace style lays out in its own way, or it is rejected at the
same node in every style. The outline is found by going through the tree once for all styles; the
braces open around a node and the landmarks passed are followed on the way.
-/

namespace Snippet

open Layout (BraceStyle Step)
open Render Script
open Text (cleanDoc)

/-- Scripts, one for every brace style, that are laid out from the same pieces, or that are all
rejected at the same node. The pieces are texts of code and lines of comments, they lead from one
number of braces to another above any depth, and they pass the landmarks of that depth. A class
whose body the script stands in has a name that is code. -/
def Outlined (dialect : Dialect) (Code Note : String → Prop) (opened closed : Nat)
    (landmarks : Nat → List Landmark) {α : Type} (Good : α → Prop)
    (family : BraceStyle → Script α) : Prop :=
  ∀ around : Surroundings, (∀ name ∈ around.className, Code name) →
    (∃ a inside pieces,
      (∀ style, family style around = ⟨.ok a, inside, pieces.flatMap (Piece.steps style)⟩) ∧
        Good a ∧ inside.className = around.className ∧ (∀ piece ∈ pieces, piece.Fits Code Note) ∧
        ∀ depth, Traced (depth + opened) pieces (depth + closed) (landmarks depth)) ∨
    ∃ node, ∀ style, (family style around).result = .error ⟨.curly dialect style, node⟩

namespace Outlined

variable {dialect : Dialect} {Code Note : String → Prop} {opened reached closed : Nat}
  {before after : Nat → List Landmark} {α β : Type} {Good : α → Prop} {Better : β → Prop}

theorem bind {first : BraceStyle → Script α} {next : BraceStyle → α → Script β}
    (h₁ : Outlined dialect Code Note opened reached before Good first)
    (h₂ : ∀ a, Good a →
      Outlined dialect Code Note reached closed after Better fun style => next style a) :
    Outlined dialect Code Note opened closed (fun depth => before depth ++ after depth) Better
      fun style => first style >>= next style := by
  intro around haround
  simp only [Script.bind_apply]
  rcases h₁ around haround with
    ⟨a, between, pieces, heq, hgood, hclass, hfits, htraced⟩ | ⟨node, herror⟩
  · simp only [heq]
    rcases h₂ a hgood between (hclass ▸ haround) with
      ⟨b, inside, more, hnext, hbetter, hinside, hmore, hmoreTraced⟩ | ⟨node, herror⟩
    · refine .inl
        ⟨b, inside, pieces ++ more, fun style => ?_, hbetter, hinside.trans hclass, ?_, ?_⟩
      · simp only [hnext, List.flatMap_append]
      · exact List.forall_mem_append.mpr ⟨hfits, hmore⟩
      · exact fun depth => (htraced depth).append (hmoreTraced depth)
    · exact .inr ⟨node, herror⟩
  · exact .inr ⟨node, fun style => by simp only [herror style]⟩

theorem preceded {first : BraceStyle → Script α} {next : BraceStyle → α → Script β}
    (h₁ : Outlined dialect Code Note opened reached (fun _ => []) Good first)
    (h₂ : ∀ a, Good a →
      Outlined dialect Code Note reached closed after Better fun style => next style a) :
    Outlined dialect Code Note opened closed after Better fun style => first style >>= next style :=
  h₁.bind h₂

theorem followed {first : BraceStyle → Script α} {next : BraceStyle → α → Script β}
    (h₁ : Outlined dialect Code Note opened reached before Good first)
    (h₂ : ∀ a, Good a → Outlined dialect Code Note reached closed (fun _ => []) Better
      fun style => next style a) :
    Outlined dialect Code Note opened closed before Better
      fun style => first style >>= next style := by
  have h := h₁.bind h₂
  simpa only [List.append_nil] using h

theorem pure {a : α} (h : Good a) :
    Outlined dialect Code Note opened opened (fun _ => []) Good fun _ => (Pure.pure a : Script α) :=
  fun around _ => .inl ⟨a, around, [], fun _ => rfl, h, rfl, by simp, fun _ => .nil _⟩

theorem surroundings :
    Outlined dialect Code Note opened opened (fun _ => [])
      (fun around => ∀ name ∈ around.className, Code name) fun _ => Script.surroundings :=
  fun around haround =>
    .inl ⟨around, around, [], fun _ => rfl, haround, rfl, by simp, fun _ => .nil _⟩

theorem text {render : BraceStyle → Surroundings → Except Rejection α}
    (h : ∀ around, Agrees dialect Good fun style => render style around) :
    Outlined dialect Code Note opened opened (fun _ => []) Good fun style =>
      Script.text (render style) := by
  intro around _
  rcases h around with ⟨a, hgood, hok⟩ | ⟨node, herror⟩
  · refine .inl ⟨a, around, [], fun style => ?_, hgood, rfl, by simp, fun _ => .nil _⟩
    simp [Script.text, hok style]
  · exact .inr ⟨node, herror⟩

/-- One piece, which leads from one number of open braces to another. -/
theorem emit {steps : BraceStyle → List Step} (piece : Piece) (hfits : piece.Fits Code Note)
    (heq : ∀ style, steps style = piece.steps style)
    (hdepth : ∀ depth, piece.depth? (depth + opened) = some (depth + closed)) :
    Outlined dialect Code Note opened closed (fun depth => piece.landmarks (depth + opened))
      (fun _ => True) fun style => Script.emit (steps style) := by
  refine fun around _ => .inl ⟨(), around, [piece], fun style => ?_, trivial, rfl, ?_, ?_⟩
  · simp [Script.emit, heq]
  · simpa using hfits
  · exact fun depth => .singleton (hdepth depth)

theorem lines {steps : BraceStyle → List Step} (texts : List String) (h : ∀ text ∈ texts, Code text)
    (heq : ∀ style, steps style = texts.map Step.line) :
    Outlined dialect Code Note opened opened (fun _ => []) (fun _ => True) fun style =>
      Script.emit (steps style) := by
  refine fun around _ => .inl ⟨(), around, texts.map .code, fun style => ?_, trivial, rfl, ?_, ?_⟩
  · have hpieces : (texts.map Piece.code).flatMap (Piece.steps style) = texts.map Step.line := by
      rw [List.flatMap_map, List.map_eq_flatMap]
      rfl
    simp only [Script.emit, heq, hpieces]
  · simpa [Piece.Fits] using h
  · intro depth
    clear heq h
    induction texts with
    | nil => exact .nil _
    | cons text rest ih => exact .cons rfl ih

theorem line {steps : BraceStyle → List Step} (text : String) (h : Code text)
    (heq : ∀ style, steps style = [.line text]) :
    Outlined dialect Code Note opened opened (fun _ => []) (fun _ => True) fun style =>
      Script.emit (steps style) :=
  .lines [text] (by simpa using h) heq

theorem prepare (place : Place) (line : UInt64) :
    Outlined dialect Code Note opened opened (fun depth => [.start place line (depth + opened)])
      (fun _ => True) fun _ => Script.emit [.prepare line] :=
  .emit (.prepare place line) trivial (fun _ => rfl) fun _ => rfl

theorem opening {steps : BraceStyle → List Step} (header : String) (h : Code header)
    (heq : ∀ style, steps style = style.opening header) :
    Outlined dialect Code Note opened (opened + 1) (fun _ => []) (fun _ => True) fun style =>
      Script.emit (steps style) :=
  .emit (.opening header) h heq fun _ => rfl

theorem middle {steps : BraceStyle → List Step} (header : String) (h : Code header)
    (heq : ∀ style, steps style = style.middle header) :
    Outlined dialect Code Note (opened + 1) (opened + 1) (fun _ => []) (fun _ => True) fun style =>
      Script.emit (steps style) :=
  .emit (.middle header) h heq fun _ => rfl

theorem closing {steps : BraceStyle → List Step} (closer : String)
    (h : closer = "\x7d" ∨ closer = "\x7d;") (heq : ∀ style, steps style = style.closing closer) :
    Outlined dialect Code Note (opened + 1) opened (fun _ => []) (fun _ => True) fun style =>
      Script.emit (steps style) :=
  .emit (.closing closer) h heq fun _ => rfl

/-- A form of a node that every style lays out, or the rejection of the node. -/
theorem emit? {γ : Type} {node : RejectedNode} {form : Option γ}
    {layout : BraceStyle → γ → List Step}
    (h : ∀ found, form = some found →
      Outlined dialect Code Note opened closed before (fun _ => True) fun style =>
        Script.emit (layout style found)) :
    Outlined dialect Code Note opened closed before (fun _ => True) fun style =>
      Script.emit? (.curly dialect style) node (form.map (layout style)) := by
  cases form with
  | none => exact fun _ _ => .inr ⟨node, fun _ => rfl⟩
  | some found => exact h found rfl

theorem opening? {node : RejectedNode} (form : Option String) (h : ∀ header ∈ form, Code header) :
    Outlined dialect Code Note opened (opened + 1) (fun _ => []) (fun _ => True) fun style =>
      Script.emit? (.curly dialect style) node (form.map style.opening) :=
  emit? fun header hheader => .opening header (h header hheader) fun _ => rfl

theorem lines? {node : RejectedNode} (form : Option (List String))
    (h : ∀ texts ∈ form, ∀ text ∈ texts, Code text) :
    Outlined dialect Code Note opened opened (fun _ => []) (fun _ => True) fun style =>
      Script.emit? (.curly dialect style) node (form.map (·.map Step.line)) :=
  emit? fun texts htexts => .lines texts (h texts htexts) fun _ => rfl

theorem line? {node : RejectedNode} (text : String) (h : Code text) :
    Outlined dialect Code Note opened opened (fun _ => []) (fun _ => True) fun style =>
      Script.emit? (.curly dialect style) node (some [.line text]) :=
  line text h fun _ => rfl

theorem begin? {node : RejectedNode} {signature : Signature}
    (hsignature : signature.Spelled dialect Code) (law : CodeLaw Code) :
    Outlined dialect Code Note opened (opened + 1) (fun _ => []) (fun _ => True) fun style =>
      Script.begin? (.curly dialect style) node fun around =>
        Target.beginFunction? (.curly dialect style) around signature := by
  intro around haround
  cases hheader : dialect.functionHeader? around signature with
  | none =>
      refine .inr ⟨node, fun style => ?_⟩
      simp [Script.begin?, Target.beginFunction?, hheader]
  | some header =>
      refine .inl ⟨(), around, [.opening header], fun style => ?_, trivial, rfl, ?_, ?_⟩
      · simp [Script.begin?, Target.beginFunction?, hheader, Piece.steps]
      · simpa [Piece.Fits] using law.functionHeader haround hsignature hheader
      · exact fun depth => .singleton rfl

theorem declare (name type : String) :
    Outlined dialect Code Note opened opened (fun _ => []) (fun _ => True) fun _ =>
      Script.declare name type :=
  fun around _ => .inl ⟨(), around.declare name type, [], fun _ => rfl, trivial, rfl, by simp,
    fun _ => .nil _⟩

theorem inScope {body : BraceStyle → Script α}
    (h : Outlined dialect Code Note opened closed before Good body) :
    Outlined dialect Code Note opened closed before Good
      fun style => Script.inScope (body style) := by
  intro around haround
  rcases h around.pushScope haround with
    ⟨a, inside, pieces, heq, hgood, hclass, hfits, htraced⟩ | herror
  · refine .inl ⟨a, inside.popScope, pieces, fun style => ?_, hgood, hclass, hfits, htraced⟩
    simp only [Script.inScope, heq]
  · exact .inr herror

theorem indented {body : BraceStyle → Script α} (className : Option String)
    (hname : ∀ name ∈ className, Code name)
    (h : Outlined dialect Code Note opened closed before Good body) :
    Outlined dialect Code Note opened closed before Good fun style =>
      Script.indented className (body style) := by
  intro around _
  rcases h (around.enter className) hname with
    ⟨a, inside, pieces, heq, hgood, -, hfits, htraced⟩ | herror
  · refine .inl ⟨a, inside.leave around, .indent :: (pieces ++ [.dedent]), fun style => ?_, hgood,
      rfl, ?_, fun depth => ?_⟩
    · simp [Script.indented, heq, Piece.steps]
    · simpa [or_imp, forall_and, Piece.Fits] using hfits
    · have hdedent : Traced (depth + closed) [.dedent] (depth + closed) [] := .singleton rfl
      have hbody := (htraced depth).append hdedent
      rw [List.append_nil] at hbody
      exact .cons rfl hbody
  · exact .inr herror

/-- A script stands as well with one more brace open around it. -/
theorem deeper {family : BraceStyle → Script α}
    (h : Outlined dialect Code Note opened closed before Good family) :
    Outlined dialect Code Note (opened + 1) (closed + 1) (fun depth => before (depth + 1)) Good
      family := by
  intro around haround
  rcases h around haround with ⟨a, inside, pieces, heq, hgood, hclass, hfits, htraced⟩ | herror
  · refine .inl ⟨a, inside, pieces, heq, hgood, hclass, hfits, fun depth => ?_⟩
    have hdeeper := htraced (depth + 1)
    rwa [Nat.add_right_comm depth 1 opened, Nat.add_right_comm depth 1 closed] at hdeeper
  · exact .inr herror

theorem block {body : BraceStyle → Script α} (className : Option String)
    (hname : ∀ name ∈ className, Code name)
    (h : Outlined dialect Code Note 0 0 before Good body) :
    Outlined dialect Code Note 1 1 (fun depth => before (depth + 1)) Good fun style =>
      Script.block className (body style) :=
  (h.inScope.indented className hname).deeper

end Outlined

/-! ### The parts of statements -/

theorem mem_leavesAll {exprs : List Expr} {expr : Expr} (h : expr ∈ exprs) {leaf : Leaf}
    (hleaf : leaf ∈ expr.leaves) : leaf ∈ Expr.leavesAll exprs := by
  induction exprs with
  | nil => cases h
  | cons first rest ih =>
      rw [Expr.leavesAll, List.mem_append]
      rcases List.mem_cons.mp h with rfl | hrest
      · exact .inl hleaf
      · exact .inr (ih hrest)

theorem leaves_default? (header : FunctionHeader) (index : Nat) :
    ∀ leaf ∈ Expr.leavesOptional (header.default? index),
      leaf ∈ Expr.leavesAll header.defaults := by
  intro leaf hleaf
  cases hdefault : header.default? index with
  | none => simp [hdefault, Expr.leavesOptional] at hleaf
  | some expr =>
      obtain ⟨place, -, hplace⟩ := Option.bind_eq_some_iff.mp hdefault
      rw [hdefault] at hleaf
      exact mem_leavesAll (List.mem_of_getElem? hplace) hleaf

section Statements

variable {dialect : Dialect} {Code Note : String → Prop} {opened : Nat}

theorem renderDocumentation_outlined (body : List Stmt)
    (h : ∀ leaf ∈ Stmt.leavesAll body, leaf.Fits dialect Code Note) :
    Outlined dialect Code Note opened opened (fun _ => Stmt.documentedLandmarks body)
      (fun _ => True) fun style => renderDocumentation (.curly dialect style) body := by
  cases body with
  | nil => exact .pure trivial
  | cons first rest =>
      simp only [renderDocumentation, Stmt.documentedLandmarks]
      cases hdoc : first.docText? with
      | none => exact .pure trivial
      | some text =>
          have hleaf : Leaf.note (.str text) ∈ Stmt.leavesAll (first :: rest) := by
            rw [Stmt.docText?.eq_def] at hdoc
            split at hdoc
            · obtain rfl := Option.some.inj hdoc
              exact List.mem_cons_self
            · cases hdoc
          exact .emit (.documentation _) (h _ hleaf).2 (fun _ => rfl) fun _ => rfl

theorem declareTarget_outlined (declared : Expr) (hint : String) :
    Outlined dialect Code Note opened opened (fun _ => []) (fun _ => True) fun _ =>
      declareTarget declared hint := by
  cases declared with
  | name ident => exact .declare ident hint
  | _ => exact .pure trivial

variable (law : CodeLaw Code)

include law

theorem renderParams_agrees (header : FunctionHeader) (around : Surroundings)
    (hdefaults : ∀ leaf ∈ Expr.leavesAll header.defaults, leaf.Fits dialect Code Note)
    {params : List Param} (index : Nat)
    (h : ∀ param ∈ params, dialect.SpellsName Code param.name ∧
      ∀ leaf ∈ Expr.leavesOptional param.hint, leaf.Fits dialect Code Note) :
    Agrees dialect (fun params => ∀ param ∈ params, param.Spelled dialect Code) fun style =>
      header.renderParams (.curly dialect style) around index params := by
  induction params generalizing index with
  | nil =>
      simp only [FunctionHeader.renderParams]
      exact .ok (by simp)
  | cons param rest ih =>
      simp only [FunctionHeader.renderParams]
      obtain ⟨⟨hname, hhint⟩, hrest⟩ := List.forall_mem_cons.mp h
      have hown : ∀ leaf ∈ Expr.leavesOptional (header.default? index),
          leaf.Fits dialect Code Note := fun leaf hleaf =>
        hdefaults leaf (leaves_default? header index leaf hleaf)
      refine (Expr.renderOptional_agrees law param.hint hhint).bind fun hint hhintText => ?_
      refine (Expr.renderOptional_agrees law (header.default? index) hown).bind fun _ hdefault => ?_
      refine (ih (index + 1) hrest).bind fun params hparams => ?_
      exact .ok (List.forall_mem_cons.mpr ⟨⟨hname, hhintText, hdefault⟩, hparams⟩)

theorem renderSignature_outlined (header : FunctionHeader) (isMethod : Bool)
    {returns : Option String} (h : ∀ leaf ∈ header.leaves, leaf.Fits dialect Code Note)
    (hreturns : ∀ text ∈ returns, Code text) :
    Outlined dialect Code Note opened opened (fun _ => []) (Signature.Spelled dialect Code)
      fun style => header.renderSignature (.curly dialect style) isMethod returns := by
  obtain ⟨hname, hothers⟩ := List.forall_mem_cons.mp h
  obtain ⟨hboth, -⟩ := List.forall_mem_append.mp hothers
  obtain ⟨hparams, hdefaults⟩ := List.forall_mem_append.mp hboth
  refine .preceded (.text fun around => renderParams_agrees law header around hdefaults _ ?_) ?_
  · intro param hparam
    have hleaves := fun leaf hleaf =>
      hparams leaf (List.mem_flatMap.mpr ⟨param, List.mem_of_mem_drop hparam, hleaf⟩)
    exact List.forall_mem_cons.mp hleaves
  · exact fun params hspelled => .pure ⟨hname, hspelled, hreturns⟩

theorem renderFunction_outlined (header : FunctionHeader) (isMethod : Bool) (node : RejectedNode)
    {returns : Option String} {body : BraceStyle → Script Unit} {landmarks : Nat → List Landmark}
    (hheader : ∀ leaf ∈ header.leaves, leaf.Fits dialect Code Note)
    (hreturns : ∀ text ∈ returns, Code text)
    (h : Outlined dialect Code Note 0 0 landmarks (fun _ => True) body) :
    Outlined dialect Code Note 0 0 (fun depth => landmarks (depth + 1)) (fun _ => True)
      fun style => (do
        let signature ← header.renderSignature (.curly dialect style) isMethod returns
        Script.begin? (.curly dialect style) node fun around =>
          Target.beginFunction? (.curly dialect style) around signature
        Script.block none (body style)
        Script.emit (Target.endFunction (.curly dialect style))) := by
  refine .preceded (renderSignature_outlined law header isMethod hheader hreturns) ?_
  intro signature hspelled
  refine (Outlined.begin? hspelled law).preceded fun _ _ => ?_
  exact (h.block none (by simp)).followed fun _ _ => .closing _ (.inl rfl) fun _ => rfl

theorem renderPattern_outlined (pattern : Expr)
    (h : ∀ leaf ∈ pattern.leaves, leaf.Fits dialect Code Note) :
    Outlined dialect Code Note opened opened (fun _ => []) (fun text => ∀ found ∈ text, Code found)
      fun style => renderPattern (.curly dialect style) pattern := by
  simp only [renderPattern.eq_def]
  split
  · exact .pure (by simp)
  · refine .preceded (.text fun around => Expr.render_agrees law pattern h) fun text htext => ?_
    exact .pure (by simpa using htext)

omit law in
theorem spelled_aliases {names : List Alias}
    (h : ∀ leaf ∈ names.flatMap Alias.leaves, leaf.Fits dialect Code Note) :
    ∀ imported ∈ names, Code imported.name ∧ ∀ asname ∈ imported.asname, Code asname := by
  intro imported himported
  have hleaves : ∀ leaf ∈ imported.leaves, leaf.Fits dialect Code Note := fun leaf hleaf =>
    h leaf (List.mem_flatMap.mpr ⟨imported, himported, hleaf⟩)
  obtain ⟨hname, hasname⟩ := List.forall_mem_cons.mp hleaves
  exact ⟨hname.1, fun asname hfound => (hasname (.name asname) (by simpa using hfound)).1⟩

theorem renderOtherwise_outlined (line : UInt64) {first rest : BraceStyle → Script Unit}
    {before after : Nat → List Landmark}
    (h₁ : Outlined dialect Code Note 0 0 before (fun _ => True) first)
    (h₂ : Outlined dialect Code Note 0 0 after (fun _ => True) rest) :
    Outlined dialect Code Note 1 1
      (fun depth => .start .branch line (depth + 1) :: (before (depth + 1) ++ after (depth + 1)))
      (fun _ => True) fun style => (do
        Script.emit [.prepare line]
        Script.emit (Target.beginElse (.curly dialect style))
        Script.block none do
          first style
          rest style) := by
  refine (Outlined.prepare .branch line).bind fun _ _ => ?_
  refine (Outlined.middle "else" (law.plain rfl) fun _ => rfl).preceded fun _ _ => ?_
  exact (h₁.bind fun _ _ => h₂).block none (by simp)

theorem expression_outlined (value : Expr)
    (h : ∀ leaf ∈ (StmtKind.expr value).leaves, leaf.Fits dialect Code Note) :
    Outlined dialect Code Note 0 0 (fun depth => (StmtKind.expr value).landmarks depth)
      (fun _ => True) fun style => (StmtKind.expr value).render (.curly dialect style) := by
  by_cases hconstant : ∃ constant, value = .constant constant
  · obtain ⟨constant, rfl⟩ := hconstant
    simp only [StmtKind.render, StmtKind.landmarks]
    exact .emit (.remark _) (h (.note constant) List.mem_cons_self).1 (fun _ => rfl) fun _ => rfl
  · have hvalue : ∀ constant, value ≠ .constant constant := by simpa using hconstant
    have hrender : ∀ style, (StmtKind.expr value).render (.curly dialect style) = (do
        Script.emit (Target.expressionStatement (.curly dialect style)
          (← renderExpr (.curly dialect style) value))) := by
      intro style
      rw [StmtKind.render]
      exact hvalue
    have hlandmarks : ∀ depth, (StmtKind.expr value).landmarks depth = [] := by
      intro depth
      rw [StmtKind.landmarks]
      all_goals simp [hvalue]
    have hleaves : (StmtKind.expr value).leaves = value.leaves := by
      rw [StmtKind.leaves]
      exact hvalue
    simp only [hrender, hlandmarks]
    rw [hleaves] at h
    refine .preceded (.text fun around => Expr.render_agrees law value h) fun text htext => ?_
    exact .line _ (law.statement htext) fun _ => rfl

end Statements

section Induction

variable {dialect : Dialect} {Code Note : String → Prop}

mutual

theorem Stmt.render_outlined (law : CodeLaw Code) : (stmt : Stmt) →
    (∀ leaf ∈ stmt.leaves, leaf.Fits dialect Code Note) →
    Outlined dialect Code Note 0 0 (fun depth => stmt.landmarks depth) (fun _ => True) fun style =>
      stmt.render (.curly dialect style)
  | .mk line kind, h => by
      simp only [Stmt.render, Stmt.landmarks]
      exact (Outlined.prepare .statement line).bind fun _ _ =>
        StmtKind.render_outlined law kind h

theorem StmtKind.render_outlined (law : CodeLaw Code) : (kind : StmtKind) →
    (∀ leaf ∈ kind.leaves, leaf.Fits dialect Code Note) →
    Outlined dialect Code Note 0 0 (fun depth => kind.landmarks depth) (fun _ => True) fun style =>
      kind.render (.curly dialect style)
  | .classDef name bases body, h => by
      simp only [StmtKind.render, StmtKind.landmarks]
      obtain ⟨hname, hothers⟩ := List.forall_mem_cons.mp h
      obtain ⟨hbases, hbody⟩ := List.forall_mem_append.mp hothers
      refine (renderDocumentation_outlined body hbody).bind fun _ _ => ?_
      refine .preceded (.text fun around => Expr.renderAll_agrees law bases hbases) ?_
      intro texts htexts
      refine .preceded (.opening? (some (dialect.classHeader name texts)) ?_) fun _ _ => ?_
      · simpa using law.classHeader hname.1 htexts
      · have hblock := Stmt.renderUndocumented_outlined law body hbody
        refine (hblock.block (some name) (by simpa using hname.1)).followed fun _ _ => ?_
        have hcloser : dialect.classCloser = "\x7d" ∨ dialect.classCloser = "\x7d;" := by
          cases dialect <;> simp [Dialect.classCloser]
        exact .closing _ hcloser fun _ => rfl
  | .functionDef header body, h => by
      simp only [StmtKind.render, StmtKind.landmarks]
      obtain ⟨hheader, hbody⟩ := List.forall_mem_append.mp h
      have hreturns : ∀ leaf ∈ Expr.leavesOptional header.returns, leaf.Fits dialect Code Note :=
        fun leaf hleaf => hheader leaf (List.mem_cons_of_mem _ (List.mem_append_right _ hleaf))
      refine (renderDocumentation_outlined body hbody).bind fun _ _ => ?_
      refine Outlined.surroundings.preceded fun around _ => ?_
      refine .preceded (.text fun around => Expr.renderOptional_agrees law _ hreturns) ?_
      intro returns hspelled
      have hblock := Stmt.renderUndocumented_outlined law body hbody
      have hfunction := renderFunction_outlined law header around.className.isSome
        (.stmt (.functionDef header body)) hheader hspelled hblock
      exact hfunction.inScope
  | .assign targets value, h => by
      simp only [StmtKind.render, StmtKind.landmarks]
      obtain ⟨htargets, hvalue⟩ := List.forall_mem_append.mp h
      refine .preceded (.text fun around => Expr.renderAll_agrees law targets htargets) ?_
      intro texts htexts
      refine .preceded (.text fun around => Expr.render_agrees law value hvalue) ?_
      intro text htext
      have hnames := law.intercalate (law.plain rfl : Code " = ") htexts
      exact .line _ (law.statement (law.between hnames " = " htext rfl)) fun _ => rfl
  | .annAssign declared hint value, h => by
      simp only [StmtKind.render, StmtKind.landmarks]
      obtain ⟨hboth, hvalue⟩ := List.forall_mem_append.mp h
      obtain ⟨hhint, hdeclared⟩ := List.forall_mem_append.mp hboth
      refine .preceded (.text fun around => Expr.render_agrees law hint hhint) fun type htype => ?_
      refine (declareTarget_outlined declared type).preceded fun _ _ => ?_
      refine .preceded (.text fun around => Expr.render_agrees law declared hdeclared) ?_
      intro name hname
      refine .preceded (.text fun around => Expr.renderOptional_agrees law value hvalue) ?_
      intro text htext
      refine Outlined.surroundings.preceded fun around _ => ?_
      exact .line _ (law.declaration ⟨hname, htype, htext⟩) fun _ => rfl
  | .augAssign assigned op value, h => by
      simp only [StmtKind.render, StmtKind.landmarks]
      obtain ⟨hop, hboth⟩ := List.forall_mem_cons.mp h
      obtain ⟨hassigned, hvalue⟩ := List.forall_mem_append.mp hboth
      refine .preceded (.text fun around => Expr.render_agrees law assigned hassigned) ?_
      intro name hname
      refine .preceded (.text fun around => Expr.render_agrees law value hvalue) ?_
      intro text htext
      have hassignment := law.statement (law.append (law.append hname hop.2) htext)
      exact .line _ (respelled hassignment (by simp)) fun _ => rfl
  | .branch test body orelse, h => by
      simp only [StmtKind.render, StmtKind.landmarks]
      obtain ⟨hboth, horelse⟩ := List.forall_mem_append.mp h
      obtain ⟨htest, hbody⟩ := List.forall_mem_append.mp hboth
      refine .preceded (.text fun around => Expr.render_agrees law test htest) fun text htext => ?_
      have hheader : Code ("if ( " ++ text ++ " )") :=
        respelled (law.header (law.plain rfl : Code "if ") htext) (by simp)
      refine (Outlined.opening _ hheader fun _ => rfl).preceded fun _ _ => ?_
      refine ((Stmt.renderAll_outlined law body hbody).block none (by simp)).bind fun _ _ => ?_
      refine (Stmt.renderOrelse_outlined law orelse horelse).followed fun _ _ => ?_
      exact .closing _ (.inl rfl) fun _ => rfl
  | .forLoop item iter body isAsync, h => by
      simp only [StmtKind.render, StmtKind.landmarks]
      obtain ⟨hboth, hbody⟩ := List.forall_mem_append.mp h
      obtain ⟨hitem, hiter⟩ := List.forall_mem_append.mp hboth
      refine .preceded (.text fun around => Expr.render_agrees law item hitem) fun name hname => ?_
      refine .preceded (.text fun around => Expr.renderLoopItems_agrees law iter hiter) ?_
      intro items hitems
      refine .preceded (.opening? (dialect.forHeader? name items isAsync) ?_) fun _ _ => ?_
      · exact fun header hheader => law.forHeader hname hitems hheader
      · refine ((Stmt.renderAll_outlined law body hbody).block none (by simp)).followed ?_
        intro _ _
        exact .closing _ (.inl rfl) fun _ => rfl
  | .whileLoop test body, h => by
      simp only [StmtKind.render, StmtKind.landmarks]
      obtain ⟨htest, hbody⟩ := List.forall_mem_append.mp h
      refine .preceded (.text fun around => Expr.render_agrees law test htest) fun text htext => ?_
      have hheader : Code ("while ( " ++ text ++ " )") :=
        respelled (law.header (law.plain rfl : Code "while ") htext) (by simp)
      refine (Outlined.opening _ hheader fun _ => rfl).preceded fun _ _ => ?_
      refine ((Stmt.renderAll_outlined law body hbody).block none (by simp)).followed fun _ _ => ?_
      exact .closing _ (.inl rfl) fun _ => rfl
  | .pass, _ => by
      simp only [StmtKind.render, StmtKind.landmarks]
      exact .pure trivial
  | .breakLoop, _ => by
      simp only [StmtKind.render, StmtKind.landmarks]
      exact .line "break;" (law.plain rfl) fun _ => rfl
  | .continueLoop, _ => by
      simp only [StmtKind.render, StmtKind.landmarks]
      exact .line "continue;" (law.plain rfl) fun _ => rfl
  | .returning value, h => by
      simp only [StmtKind.render, StmtKind.landmarks]
      refine .preceded (.text fun around => Expr.renderOptional_agrees law value h) ?_
      intro text htext
      cases text with
      | none => exact .line "return;" (law.plain rfl) fun _ => rfl
      | some text =>
          have hreturn := law.append (law.plain rfl : Code "return ") (htext text rfl)
          exact .line _ (law.statement hreturn) fun _ => rfl
  | .switch subject cases, h => by
      simp only [StmtKind.render, StmtKind.landmarks]
      obtain ⟨hsubject, hcases⟩ := List.forall_mem_append.mp h
      refine .preceded (.text fun around => Expr.render_agrees law subject hsubject) ?_
      intro text htext
      have hheader : Code ("switch ( " ++ text ++ " )") :=
        respelled (law.header (law.plain rfl : Code "switch ") htext) (by simp)
      refine .preceded (.opening? (some ("switch ( " ++ text ++ " )")) (by simpa using hheader)) ?_
      intro _ _
      refine ((MatchCase.renderAll_outlined law _ cases hcases).block none (by simp)).followed ?_
      exact fun _ _ => .closing _ (.inl rfl) fun _ => rfl
  | .imports names, h => by
      simp only [StmtKind.render, StmtKind.landmarks]
      exact .lines? (dialect.imports? names) (law.imports (spelled_aliases h))
  | .importFrom module names, h => by
      simp only [StmtKind.render, StmtKind.landmarks]
      obtain ⟨hmodule, hnames⟩ := List.forall_mem_append.mp h
      refine .lines? (dialect.importFrom? module names)
        (law.importsFrom ?_ (spelled_aliases hnames))
      intro found hfound
      exact (hmodule (.name found) (by simpa using hfound)).1
  | .delete targets, h => by
      simp only [StmtKind.render, StmtKind.landmarks]
      refine .preceded (.text fun around => Expr.renderAll_agrees law targets h) ?_
      intro texts htexts
      exact .lines? (some (dialect.delete texts)) (by simpa using law.delete htexts)
  | .typeAlias name value, h => by
      simp only [StmtKind.render, StmtKind.landmarks]
      obtain ⟨hname, hvalue⟩ := List.forall_mem_append.mp h
      refine .preceded (.text fun around => Expr.render_agrees law name hname) ?_
      intro nameText hnameText
      refine .preceded (.text fun around => Expr.render_agrees law value hvalue) ?_
      intro valueText hvalueText
      exact .line? _ (law.typeAlias hnameText hvalueText)
  | .expr value, h => expression_outlined law value h

theorem Stmt.renderAll_outlined (law : CodeLaw Code) : (stmts : List Stmt) →
    (∀ leaf ∈ Stmt.leavesAll stmts, leaf.Fits dialect Code Note) →
    Outlined dialect Code Note 0 0 (fun depth => Stmt.landmarksAll depth stmts) (fun _ => True)
      fun style => Stmt.renderAll (.curly dialect style) stmts
  | [], _ => by
      simp only [Stmt.renderAll, Stmt.landmarksAll]
      exact .pure trivial
  | first :: rest, h => by
      simp only [Stmt.renderAll, Stmt.landmarksAll]
      obtain ⟨hfirst, hrest⟩ := List.forall_mem_append.mp h
      exact (Stmt.render_outlined law first hfirst).bind fun _ _ =>
        Stmt.renderAll_outlined law rest hrest

theorem Stmt.renderUndocumented_outlined (law : CodeLaw Code) : (body : List Stmt) →
    (∀ leaf ∈ Stmt.leavesAll body, leaf.Fits dialect Code Note) →
    Outlined dialect Code Note 0 0 (fun depth => Stmt.undocumentedLandmarks depth body)
      (fun _ => True) fun style => Stmt.renderUndocumented (.curly dialect style) body
  | [], _ => by
      simp only [Stmt.renderUndocumented, Stmt.undocumentedLandmarks]
      exact .pure trivial
  | first :: rest, h => by
      obtain ⟨hfirst, hrest⟩ := List.forall_mem_append.mp h
      cases hdoc : first.docText?.isSome with
      | true =>
          simp only [Stmt.renderUndocumented, Stmt.undocumentedLandmarks, hdoc]
          exact Stmt.renderAll_outlined law rest hrest
      | false =>
          simp only [Stmt.renderUndocumented, Stmt.undocumentedLandmarks, hdoc]
          exact (Stmt.render_outlined law first hfirst).bind fun _ _ =>
            Stmt.renderAll_outlined law rest hrest

theorem Stmt.renderOrelse_outlined (law : CodeLaw Code) : (orelse : List Stmt) →
    (∀ leaf ∈ Stmt.leavesAll orelse, leaf.Fits dialect Code Note) →
    Outlined dialect Code Note 1 1 (fun depth => Stmt.orelseLandmarks depth orelse) (fun _ => True)
      fun style => Stmt.renderOrelse (.curly dialect style) orelse
  | [], _ => by
      simp only [Stmt.renderOrelse, Stmt.orelseLandmarks]
      exact .pure trivial
  | [.mk line kind], h => by
      have only := Stmt.render_outlined law (.mk line kind) (List.forall_mem_append.mp h).1
      have none := Stmt.renderAll_outlined law [] (by simp [Stmt.leavesAll])
      -- A single `if` goes on with the chain; anything else stands in a block of its own.
      cases kind with
      | branch test body orelse =>
          simp only [Stmt.renderOrelse, Stmt.orelseLandmarks]
          have hleaves := (List.forall_mem_append.mp h).1
          obtain ⟨hboth, horelse⟩ := List.forall_mem_append.mp hleaves
          obtain ⟨htest, hbody⟩ := List.forall_mem_append.mp hboth
          refine (Outlined.prepare .branch line).bind fun _ _ => ?_
          refine .preceded (.text fun around => Expr.render_agrees law test htest) ?_
          intro text htext
          have hheader : Code ("else if ( " ++ text ++ " )") :=
            respelled (law.header (law.plain rfl : Code "else if ") htext) (by simp)
          refine (Outlined.middle _ hheader fun _ => rfl).preceded fun _ _ => ?_
          refine ((Stmt.renderAll_outlined law body hbody).block Option.none (by simp)).bind ?_
          intro _ _
          exact Stmt.renderOrelse_outlined law orelse horelse
      | _ =>
          simp only [Stmt.renderOrelse, Stmt.orelseLandmarks]
          exact renderOtherwise_outlined law _ only none
  | first :: second :: rest, h => by
      obtain ⟨hfirst, hrest⟩ := List.forall_mem_append.mp h
      simp only [Stmt.renderOrelse, Stmt.orelseLandmarks]
      exact renderOtherwise_outlined law _ (Stmt.render_outlined law first hfirst)
        (Stmt.renderAll_outlined law (second :: rest) hrest)

theorem MatchCase.render_outlined (law : CodeLaw Code) (node : RejectedNode) : (arm : MatchCase) →
    (∀ leaf ∈ arm.leaves, leaf.Fits dialect Code Note) →
    Outlined dialect Code Note 0 0 (fun depth => arm.landmarks depth) (fun _ => True)
      fun style => arm.render (.curly dialect style) node
  | .mk line pattern body, h => by
      simp only [MatchCase.render, MatchCase.landmarks]
      obtain ⟨hpattern, hbody⟩ := List.forall_mem_append.mp h
      refine (Outlined.prepare .arm line).bind fun _ _ => ?_
      refine (renderPattern_outlined law pattern hpattern).preceded fun text htext => ?_
      have harm : ∃ header, Code header ∧ ∀ style, Target.beginCase? (.curly dialect style) text =
          some [.line header] := by
        cases text with
        | none => exact ⟨"default:", law.plain rfl, fun _ => rfl⟩
        | some text =>
            have hcase := law.append (law.plain rfl : Code "case ") (htext text rfl)
            exact ⟨"case " ++ text ++ ":", law.append hcase (law.plain rfl), fun _ => rfl⟩
      obtain ⟨header, hheader, heq⟩ := harm
      simp only [heq]
      refine (Outlined.line? header hheader).preceded fun _ _ => ?_
      refine .indented none (by simp) ?_
      refine (Stmt.renderAll_outlined law body hbody).inScope.followed fun _ _ => ?_
      exact .line? "break;" (law.plain rfl)

theorem MatchCase.renderAll_outlined (law : CodeLaw Code) (node : RejectedNode) :
    (arms : List MatchCase) → (∀ leaf ∈ MatchCase.leavesAll arms, leaf.Fits dialect Code Note) →
    Outlined dialect Code Note 0 0 (fun depth => MatchCase.landmarksAll depth arms) (fun _ => True)
      fun style => MatchCase.renderAll (.curly dialect style) node arms
  | [], _ => by
      simp only [MatchCase.renderAll, MatchCase.landmarksAll]
      exact .pure trivial
  | arm :: rest, h => by
      simp only [MatchCase.renderAll, MatchCase.landmarksAll]
      obtain ⟨harm, hrest⟩ := List.forall_mem_append.mp h
      exact (MatchCase.render_outlined law node arm harm).bind fun _ _ =>
        MatchCase.renderAll_outlined law node rest hrest

end

theorem Program.script_outlined (law : CodeLaw Code) (program : Program)
    (h : ∀ leaf ∈ program.leaves, leaf.Fits dialect Code Note) :
    Outlined dialect Code Note 0 0 (fun depth => Stmt.landmarksAll depth program.body)
      (fun _ => True) fun style => program.script (.curly dialect style) :=
  (Stmt.renderAll_outlined law program.body h).inScope

/-- A program is rejected at one node in every brace style, or the styles lay out the same pieces,
which close the braces that they open. -/
theorem Program.exists_outline (law : CodeLaw Code) (program : Program)
    (h : ∀ leaf ∈ program.leaves, leaf.Fits dialect Code Note) :
    (∃ inside pieces,
      (∀ style, program.script (.curly dialect style) .outermost =
        ⟨.ok (), inside, pieces.flatMap (Piece.steps style)⟩) ∧
      (∀ piece ∈ pieces, piece.Fits Code Note) ∧ Traced 0 pieces 0 program.landmarks) ∨
    ∃ node, ∀ style, (program.script (.curly dialect style) .outermost).result =
      .error ⟨.curly dialect style, node⟩ := by
  have hclass : ∀ name ∈ Surroundings.outermost.className, Code name := by
    simp [Surroundings.outermost]
  rcases Program.script_outlined law program h .outermost hclass with
    ⟨_, inside, pieces, heq, -, -, hfits, htraced⟩ | herror
  · exact .inl ⟨inside, pieces, heq, hfits, htraced 0⟩
  · exact .inr herror

end Induction

end Snippet
