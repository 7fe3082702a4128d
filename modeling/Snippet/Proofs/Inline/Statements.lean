import Snippet.Proofs.Inline.Lines
import Snippet.Proofs.Passages

/-!
# Inline mathematics in programs

Each statement writes its lines out of fixed words, which are prose, and of what its expressions read.
What goes between dollar signs is good or nests, and so is every line that is put together from such
parts; the lines that are left bare are looked at one by one. The statements inside of a statement
follow by induction, and a page without records only indents the lines of its script.
-/

namespace Snippet

open Layout
open Render
open Text (cleanDoc sentence trimUnderscores)

section Statements

variable {subject : Option String} {kind : StmtKind} {kinds more : List StmtKind}
  {around : Surroundings} {asType : Bool} {code text : String} {steps : List Step}

/-! ### The texts that a statement has -/

theorem Expr.render_spelled (kind : StmtKind) {expr : Expr} (hexpr : expr ∈ kind.written)
    (h : ∀ leaf ∈ expr.leaves, leaf.isTame = true) :
    Promises (Spelled subject kind around asType expr)
      (expr.render (.pseudocode subject) around asType) :=
  fun _ hrender => ⟨hexpr, h, hrender⟩

theorem Expr.render_fills (kind : StmtKind) {expr : Expr} (hexpr : expr ∈ kind.written)
    (h : ∀ leaf ∈ expr.leaves, leaf.isTame = true) :
    Promises (kind.Fills subject) (expr.render (.pseudocode subject) around asType) :=
  fun _ hrender => Spelled.fills ⟨hexpr, h, hrender⟩

theorem Expr.renderAll_spelled (kind : StmtKind) {exprs : List Expr} (hexprs : exprs ⊆ kind.written)
    (h : ∀ leaf ∈ Expr.leavesAll exprs, leaf.isTame = true) :
    Promises (fun texts => ∀ text ∈ texts, ∃ expr ∈ exprs, Spelled subject kind around asType expr text)
      (Expr.renderAll (.pseudocode subject) around asType exprs) := by
  induction exprs with
  | nil =>
      rw [Expr.renderAll]
      exact .ok (by simp)
  | cons expr rest ih =>
      rw [Expr.renderAll]
      obtain ⟨hexpr, hrest⟩ := List.forall_mem_append.mp h
      obtain ⟨hmem, hsub⟩ := List.cons_subset.mp hexprs
      refine (Expr.render_spelled kind hmem hexpr).bind fun text htext => ?_
      refine (ih hsub hrest).bind fun texts htexts => .ok ?_
      refine List.forall_mem_cons.mpr ⟨⟨expr, List.mem_cons_self, htext⟩, fun other hother => ?_⟩
      obtain ⟨found, hfound, hspelled⟩ := htexts other hother
      exact ⟨found, List.mem_cons_of_mem expr hfound, hspelled⟩

theorem Expr.renderOptional_fills (kind : StmtKind) {value : Option Expr}
    (hvalue : ∀ expr ∈ value, expr ∈ kind.written)
    (h : ∀ leaf ∈ Expr.leavesOptional value, leaf.isTame = true) :
    Promises (fun text? => ∀ text ∈ text?, kind.Fills subject text)
      (Expr.renderOptional (.pseudocode subject) around asType value) := by
  cases value with
  | none =>
      rw [Expr.renderOptional]
      exact .ok (by simp)
  | some expr =>
      rw [Expr.renderOptional]
      refine (Expr.render_fills kind (hvalue expr rfl) h).bind fun text htext => .ok ?_
      simpa using htext

/-- A loop reads what it goes over as the expression reads. -/
theorem Expr.renderLoopItems_fills (kind : StmtKind) {iter : Expr} (hiter : iter ∈ kind.written)
    (h : ∀ leaf ∈ iter.leaves, leaf.isTame = true) {item : String} (hitem : kind.Fills subject item) :
    Promises (fun items => kind.Explains subject (Pseudocode.forHeader item items))
      (iter.renderLoopItems (.pseudocode subject) around) := by
  have hheader (text : String) (htext : kind.Fills subject text) :
      kind.Explains subject
        ("For each " ++ Pseudocode.math item ++ " in " ++ Pseudocode.math text) :=
    (((StmtKind.Shows.of_isProse rfl).append hitem.math).append
      (StmtKind.Shows.of_isProse rfl)).append htext.math
  have htext : Promises (kind.Fills subject) (iter.render (.pseudocode subject) around false) :=
    Expr.render_fills kind hiter h
  rw [Expr.renderLoopItems]
  split
  · exact htext.bind fun text hfills => .ok (hheader text hfills)
  · refine .next fun texts => ?_
    split
    · exact htext.bind fun text hfills => .ok (hheader text hfills)
    · exact htext.bind fun text hfills => .ok (hheader text hfills)

/-! ### Parameters -/

/-- A parameter has a name that is prose, and texts that go between dollar signs. -/
structure SignatureParam.Listed (subject : Option String) (kind : StmtKind) (param : SignatureParam) :
    Prop where
  name : param.name.toList.all isProse = true
  hint : ∀ hint ∈ param.hint, kind.Fills subject hint
  default : ∀ default ∈ param.default, kind.Fills subject default

theorem SignatureParam.Listed.input {param : SignatureParam} (h : param.Listed subject kind)
    (around : Surroundings) : kind.Explains subject (Pseudocode.input around param) := by
  have hname : kind.Fills subject (Pseudocode.name around param.name false) :=
    StmtKind.fills_of_free fun _ hd => hd.name around h.name false
  rw [Pseudocode.input]
  refine ((hname.append ?_).append ?_).math
  · split
    · next hint heq => exact (StmtKind.fills_of_all rfl).append (h.hint hint heq)
    · exact StmtKind.fills_of_all rfl
  · split
    · next default heq => exact (StmtKind.fills_of_all rfl).append (h.default default heq)
    · exact StmtKind.fills_of_all rfl

theorem FunctionHeader.default?_mem {header : FunctionHeader} {index : Nat} :
    ∀ expr ∈ header.default? index, expr ∈ header.defaults := by
  intro expr hexpr
  obtain ⟨place, -, hplace⟩ := Option.bind_eq_some_iff.mp hexpr
  exact List.mem_of_getElem? hplace

theorem FunctionHeader.renderParams_listed (header : FunctionHeader) (body : List Stmt)
    (h : ∀ leaf ∈ header.leaves, leaf.isTame = true) (index : Nat) {params : List Param}
    (hparams : params ⊆ header.params) :
    Promises (fun listed => ∀ param ∈ listed, param.Listed subject (.functionDef header body))
      (header.renderParams (.pseudocode subject) around index params) := by
  obtain ⟨-, hrest⟩ := List.forall_mem_cons.mp h
  obtain ⟨hboth, -⟩ := List.forall_mem_append.mp hrest
  obtain ⟨hnames, hdefaults⟩ := List.forall_mem_append.mp hboth
  induction params generalizing index with
  | nil => exact .ok (by simp)
  | cons param rest ih =>
      rw [FunctionHeader.renderParams]
      obtain ⟨hmem, hsub⟩ := List.cons_subset.mp hparams
      have hparam : ∀ leaf ∈ Leaf.name param.name :: Expr.leavesOptional param.hint,
          leaf.isTame = true := fun leaf hleaf =>
        hnames leaf (List.mem_flatMap.mpr ⟨param, hmem, hleaf⟩)
      obtain ⟨hname, hhint⟩ := List.forall_mem_cons.mp hparam
      have hwrittenHint : ∀ expr ∈ param.hint, expr ∈ (StmtKind.functionDef header body).written :=
        fun expr hexpr => List.mem_append_left _ (List.mem_filterMap.mpr ⟨param, hmem, hexpr⟩)
      have hwrittenDefault : ∀ expr ∈ header.default? index,
          expr ∈ (StmtKind.functionDef header body).written := fun expr hexpr =>
        List.mem_append_right _ (FunctionHeader.default?_mem expr hexpr)
      have hdefault : ∀ leaf ∈ Expr.leavesOptional (header.default? index), leaf.isTame = true :=
        fun leaf hleaf => hdefaults leaf (leaves_default? header index leaf hleaf)
      refine (Expr.renderOptional_fills (.functionDef header body) hwrittenHint hhint).bind ?_
      intro hint hintFills
      refine (Expr.renderOptional_fills (.functionDef header body) hwrittenDefault hdefault).bind ?_
      intro default defaultFills
      refine (ih (index + 1) hsub).bind fun listed hlisted => .ok ?_
      exact List.forall_mem_cons.mpr ⟨⟨hname, hintFills, defaultFills⟩, hlisted⟩

/-! ### Steps -/

theorem explained_nil : Explained subject kinds [] := fun _ hcode => by cases hcode

theorem Explained.append {first second : List Step} (h₁ : Explained subject kinds first)
    (h₂ : Explained subject kinds second) : Explained subject kinds (first ++ second) := by
  intro code hcode
  rw [List.filterMap_append, List.mem_append] at hcode
  exact hcode.elim (h₁ code) (h₂ code)

theorem Explained.mono (h : Explained subject kinds steps) (hsub : kinds ⊆ more) :
    Explained subject more steps := fun code hcode =>
  let ⟨kind, hkind, hexplains⟩ := h code hcode
  ⟨kind, hsub hkind, hexplains⟩

theorem Explained.line (hkind : kind ∈ kinds) (h : kind.Explains subject code) :
    Explained subject kinds [.line code] := by
  intro line hline
  obtain rfl := List.mem_singleton.mp hline
  exact ⟨kind, hkind, h⟩

/-- A step that is no line of code. -/
theorem Explained.skip {step : Step} (hstep : step.text? = none) (h : Explained subject kinds steps) :
    Explained subject kinds (step :: steps) := by
  intro code hcode
  rw [List.filterMap_cons_none hstep] at hcode
  exact h code hcode

theorem Explained.deeper (h : Explained subject kinds steps) :
    Explained subject kinds (deeper steps) :=
  .skip rfl (h.append (.skip rfl explained_nil))

theorem explained_lines {α : Type} (spell : α → String) {items : List α}
    (h : ∀ item ∈ items, ∃ kind ∈ kinds, kind.Explains subject (spell item)) :
    Explained subject kinds (items.map fun item => Step.line (spell item)) := by
  intro code hcode
  obtain ⟨step, hstep, heq⟩ := List.mem_filterMap.mp hcode
  obtain ⟨item, hitem, rfl⟩ := List.mem_map.mp hstep
  obtain rfl := Option.some.inj heq
  exact h item hitem

theorem Explained.prose (hkind : kind ∈ kinds) (h : text.toList.all isProse = true) :
    Explained subject kinds [.line text] :=
  .line hkind (StmtKind.Shows.of_isProse h)

theorem explained_comment (hkind : kind ∈ kinds) {lines : List String}
    (h : ∀ line ∈ lines, line.toList.all isProse = true) :
    Explained subject kinds (Pseudocode.comment lines) := by
  rw [Pseudocode.comment.eq_def]
  split
  · exact .prose hkind rfl
  · exact explained_lines id fun line hline => ⟨kind, hkind, StmtKind.Shows.of_isProse (h line hline)⟩

theorem explained_inputs (hkind : kind ∈ kinds) {params : List SignatureParam}
    (h : ∀ param ∈ params, param.Listed subject kind) (around : Surroundings) :
    Explained subject kinds (Pseudocode.inputs around params).2 := by
  induction params generalizing around with
  | nil => exact explained_nil
  | cons param rest ih =>
      obtain ⟨hparam, hrest⟩ := List.forall_mem_cons.mp h
      exact Explained.append (.line hkind (hparam.input _)) (ih hrest _)

theorem listedParams_subset (subject : Option String) (params : List SignatureParam) :
    Pseudocode.listedParams subject params ⊆ params := by
  rw [Pseudocode.listedParams.eq_def]
  split
  · exact List.Subset.refl _
  · split
    · exact List.subset_cons_self _ _
    · exact List.Subset.refl _

/-- The title of a function and its parameters. -/
theorem explained_beginFunction (hkind : kind ∈ kinds) {signature : Signature}
    (hname : signature.name.toList.all isProse = true)
    (h : ∀ param ∈ signature.params, param.Listed subject kind) :
    Explained subject kinds (Pseudocode.beginFunction subject around signature).2 := by
  have htitle : Explained subject kinds [.line (sentence (trimUnderscores signature.name) true)] :=
    .prose hkind (isProse_sentence (isProse_trimUnderscores hname) true)
  have hlisted : ∀ param ∈ Pseudocode.listedParams subject signature.params,
      param.Listed subject kind := fun param hparam => h param (listedParams_subset _ _ hparam)
  rw [Pseudocode.beginFunction]
  split
  · exact htitle
  · refine (Explained.append ?_ (explained_inputs hkind hlisted around)).append ?_
    · exact htitle.append (.skip rfl (.append (.prose hkind rfl) (.skip rfl explained_nil)))
    · exact .skip rfl (.append (.prose hkind rfl) (.skip rfl explained_nil))

theorem explains_assignOp {name : String} (op : Operator) (hname : kind.Fills subject name)
    (htext : kind.Fills subject text) :
    kind.Explains subject (Pseudocode.assignOp name op text) := by
  have hoperand : kind.Fills subject
      (if Pseudocode.isSentence text && Pseudocode.groupsOperands op then Pseudocode.group text
        else text) := by
    split
    · exact ((StmtKind.fills_of_all rfl).append htext).append (StmtKind.fills_of_all rfl)
    · exact htext
  have hsign : kind.Fills subject (Pseudocode.operator op) :=
    StmtKind.fills_of_free fun _ hd => hd.operator op
  refine ((hname.append (StmtKind.fills_of_all rfl)).append ?_).math
  rw [Pseudocode.infixed.eq_def]
  split
  · next heq =>
      obtain ⟨rfl, htail⟩ := List.cons.inj heq
      obtain rfl := (List.cons.inj htail).1
      refine StmtKind.Fills.append (.append (.append (.append ?_ hname) ?_) hoperand) ?_
      all_goals exact StmtKind.fills_of_all rfl
  · rw [String.intercalate_cons_of_ne_nil (by simp), String.intercalate_singleton]
    refine (hname.append (.append (.append ?_ hsign) ?_)).append hoperand
    all_goals exact StmtKind.fills_of_all rfl

/-! ### Lines that may stand bare -/

/-- A target with a blank and what is assigned to it stand bare. Other assignments are in a segment. -/
theorem explains_assignment {targets : List Expr} {value target : Expr} {name text : String}
    (hmem : target ∈ targets)
    (htarget : Spelled subject (.assign targets value) around false target name)
    (hvalue : Spelled subject (.assign targets value) around false value text) :
    (StmtKind.assign targets value).Explains subject (Pseudocode.assignment text name) := by
  have hname := htarget.shows.mono (.inl : _ → Exposed name ∨ Exposed text)
  have htext := hvalue.shows.mono (.inr : _ → Exposed name ∨ Exposed text)
  by_cases hsentence : Pseudocode.isSentence name = true
  · refine StmtKind.Shows.mono ?_ (.setting hmem htarget.rendered hvalue.rendered hsentence)
    rw [Pseudocode.assignment.eq_def, if_pos hsentence]
    split
    · exact (StmtKind.Shows.of_isProse rfl).append hname
    · exact (StmtKind.Shows.of_isProse rfl).append hname
    · refine (StmtKind.Shows.append ?_ (.of_isProse rfl)).append htext
      exact (StmtKind.Shows.of_isProse rfl).append hname
  · rw [Pseudocode.assignment.eq_def, if_neg hsentence]
    exact ((htarget.fills.append (StmtKind.fills_of_all rfl)).append hvalue.fills).math

/-- An expression that stands as a statement. -/
theorem explains_expressionStatement {value : Expr}
    (h : Spelled subject (.expr value) around false value text) :
    (StmtKind.expr value).Explains subject (Pseudocode.expressionStatement text) := by
  rw [Pseudocode.expressionStatement]
  split
  · next hleft =>
      by_cases hsentence : Pseudocode.isSentence text = true
      · exact h.shows.mono (.statement h.rendered hsentence)
      · have hdollar : '$' ∈ text.toList := by simpa [hsentence] using hleft
        rcases h.bare with hbare | ⟨node, hnode, hnarrates⟩
        · exact absurd (hbare.isSentence hdollar) hsentence
        · exact ⟨h.newline, .inr (.inr (.inside h.written hnode hnarrates h.rendered
            (List.infix_refl _)))⟩
  · exact h.fills.math

/-! ### Programs -/

/-- A line of a constant that stands as a statement. -/
theorem isProse_of_mem_cleanDoc {value : Constant} (h : (Leaf.note value).isTame = true)
    {source line : String} (hsource : ∀ c ∈ source.toList, c ∈ value.plainText.toList)
    (hline : line ∈ cleanDoc source) :
    line.toList.all isProse = true := by
  have hfixed {text : String} (hall : text.toList.all isProse = true) :
      ∀ c ∈ text.toList, c ≠ '\n' → isProse c = true := fun c hc _ => List.all_eq_true.mp hall c hc
  have hplain : ∀ c ∈ value.plainText.toList, c ≠ '\n' → isProse c = true := by
    cases value with
    | nothing => exact hfixed rfl
    | bool value => cases value <;> exact hfixed rfl
    | int value => exact hfixed (isProse_of_numeral (mem_int value.toInt))
    | float value => exact hfixed (isProse_of_numeral (mem_double value))
    | str text =>
        intro c hc hline
        have htame := List.all_eq_true.mp h c hc
        simpa [isProse, hline] using htame
  have hnewline := newline_not_mem_of_mem_cleanDoc hline
  exact List.all_eq_true.mpr fun c hc =>
    hplain c (hsource c (mem_of_mem_cleanDoc hline c hc)) fun heq => hnewline (heq ▸ hc)

theorem explained_documentationSteps (hkind : kind ∈ kinds) (body : List Stmt)
    (h : ∀ leaf ∈ Stmt.leavesAll body, leaf.isTame = true) :
    Explained subject kinds (documentationSteps (.pseudocode subject) body) := by
  cases body with
  | nil => exact explained_nil
  | cons first rest =>
      rw [documentationSteps]
      split
      · next text hdoc =>
          rw [Stmt.docText?.eq_def] at hdoc
          split at hdoc
          · next line source =>
              obtain rfl := Option.some.inj hdoc
              have htame : (Leaf.note (.str source)).isTame = true := h _ List.mem_cons_self
              exact explained_comment hkind fun shown hshown =>
                isProse_of_mem_cleanDoc htame mem_of_mem_documentation hshown
          · cases hdoc
      · exact explained_nil

/-- The statements under `else`, which a line comes before. -/
theorem explained_otherwise (line : UInt64) {stmt : Stmt} {first rest : Except Rejection (List Step)}
    (hfirst : Promises (Explained subject stmt.statements) first)
    (hrest : Promises (Explained subject more) rest) :
    Promises (Explained subject (stmt.statements ++ more)) (do
      let before ← first
      let after ← rest
      return .prepare line ::
        (Target.beginElse (.pseudocode subject) ++ deeper (before ++ after))) := by
  have hmem : stmt.kind ∈ stmt.statements ++ more := by
    cases stmt
    exact List.mem_cons_self
  refine hfirst.bind fun before hbefore => hrest.bind fun after hafter => .ok ?_
  refine .skip rfl (Explained.append (.prose hmem rfl) (Explained.deeper ?_))
  exact (hbefore.mono (List.subset_append_left _ _)).append
    (hafter.mono (List.subset_append_right _ _))

end Statements

section Induction

variable {subject : Option String}

mutual

theorem Stmt.lexical_explained (sight : Sight) : (stmt : Stmt) →
    (∀ leaf ∈ stmt.leaves, leaf.isTame = true) →
    Promises (Explained subject stmt.statements) (stmt.lexical subject sight)
  | .mk line kind, h => by
      rw [Stmt.lexical]
      refine (StmtKind.lexical_explained sight kind h).bind fun steps hsteps => .ok ?_
      exact .skip rfl hsteps

theorem StmtKind.lexical_explained (sight : Sight) : (kind : StmtKind) →
    (∀ leaf ∈ kind.leaves, leaf.isTame = true) →
    Promises (Explained subject (kind :: kind.inner)) (kind.lexical subject sight)
  | .classDef name bases body, _ => by
      rw [StmtKind.lexical]
      exact .next fun _ => .error _
  | .functionDef header body, h => by
      rw [StmtKind.lexical]
      obtain ⟨hheader, hbody⟩ := List.forall_mem_append.mp h
      refine .next fun returns => ?_
      refine (header.renderParams_listed body hheader 0 (List.Subset.refl _)).bind ?_
      intro params hparams
      refine (Stmt.lexicalUndocumented_explained _ body hbody).bind fun inner hinner => .ok ?_
      have hname : header.name.toList.all isProse = true :=
        hheader (.name header.name) List.mem_cons_self
      refine (Explained.append ?_ ?_).append (hinner.deeper.mono (List.subset_cons_self _ _))
      · exact explained_documentationSteps List.mem_cons_self body hbody
      · exact explained_beginFunction List.mem_cons_self hname hparams
  | .assign targets value, h => by
      rw [StmtKind.lexical]
      obtain ⟨htargets, hvalue⟩ := List.forall_mem_append.mp h
      have hwritten : targets ⊆ (StmtKind.assign targets value).written := List.subset_cons_self _ _
      refine (Expr.renderAll_spelled _ hwritten htargets).bind ?_
      intro texts htexts
      refine (Expr.render_spelled (.assign targets value) List.mem_cons_self hvalue).bind ?_
      refine fun text htext => .ok ?_
      refine explained_lines (Pseudocode.assignment text) fun name hname => ?_
      obtain ⟨target, htarget, hspelled⟩ := htexts name hname
      exact ⟨_, List.mem_cons_self, explains_assignment htarget hspelled htext⟩
  | .annAssign declared hint value, h => by
      rw [StmtKind.lexical]
      obtain ⟨hboth, hvalue⟩ := List.forall_mem_append.mp h
      obtain ⟨hhint, hdeclared⟩ := List.forall_mem_append.mp hboth
      obtain ⟨hintMem, declaredMem⟩ : hint ∈ (StmtKind.annAssign declared hint value).written ∧
          declared ∈ (StmtKind.annAssign declared hint value).written := by
        simp [StmtKind.written]
      have hwritten : ∀ expr ∈ value, expr ∈ (StmtKind.annAssign declared hint value).written := by
        intro expr hexpr
        simp [StmtKind.written, Option.mem_def.mp hexpr]
      refine (Expr.render_fills _ hintMem hhint).bind fun type htype => ?_
      refine (Expr.render_fills _ declaredMem hdeclared).bind fun name hname => ?_
      refine (Expr.renderOptional_fills _ hwritten hvalue).bind fun text htext => .ok ?_
      refine .line List.mem_cons_self ?_
      rw [Pseudocode.declaration]
      split
      · next value heq =>
          exact ((hname.append (StmtKind.fills_of_all rfl)).append (htext value heq)).math
      · exact ((hname.append (StmtKind.fills_of_all rfl)).append htype).math
  | .augAssign assigned op value, h => by
      rw [StmtKind.lexical]
      obtain ⟨-, hboth⟩ := List.forall_mem_cons.mp h
      obtain ⟨hassigned, hvalue⟩ := List.forall_mem_append.mp hboth
      obtain ⟨assignedMem, valueMem⟩ : assigned ∈ (StmtKind.augAssign assigned op value).written ∧
          value ∈ (StmtKind.augAssign assigned op value).written := by
        simp [StmtKind.written]
      refine (Expr.render_fills _ assignedMem hassigned).bind fun name hname => ?_
      refine (Expr.render_fills _ valueMem hvalue).bind fun text htext => .ok ?_
      exact .line List.mem_cons_self (explains_assignOp (.binary op) hname htext)
  | .branch test body orelse, h => by
      rw [StmtKind.lexical]
      obtain ⟨hboth, horelse⟩ := List.forall_mem_append.mp h
      obtain ⟨htest, hbody⟩ := List.forall_mem_append.mp hboth
      refine (Expr.render_fills (.branch test body orelse) List.mem_cons_self htest).bind ?_
      intro text htext
      refine (Stmt.lexicalAll_explained sight body hbody).bind fun inner hinner => ?_
      refine (Stmt.lexicalOrelse_explained sight orelse horelse).bind fun others hothers => .ok ?_
      refine (Explained.append ?_ (hinner.deeper.mono ?_)).append (hothers.mono ?_)
      · exact .line List.mem_cons_self ((StmtKind.Shows.of_isProse rfl).append htext.math)
      · simp [StmtKind.inner]
      · simp [StmtKind.inner]
  | .forLoop item iter body isAsync, h => by
      rw [StmtKind.lexical]
      obtain ⟨hboth, hbody⟩ := List.forall_mem_append.mp h
      obtain ⟨hitem, hiter⟩ := List.forall_mem_append.mp hboth
      obtain ⟨itemMem, iterMem⟩ : item ∈ (StmtKind.forLoop item iter body isAsync).written ∧
          iter ∈ (StmtKind.forLoop item iter body isAsync).written := by
        simp [StmtKind.written]
      refine (Expr.render_fills _ itemMem hitem).bind fun name hname => ?_
      refine (Expr.renderLoopItems_fills _ iterMem hiter hname).bind fun items hitems => ?_
      refine (Stmt.lexicalAll_explained sight body hbody).bind fun inner hinner => .ok ?_
      exact Explained.append (.line List.mem_cons_self hitems)
        (hinner.deeper.mono (List.subset_cons_self _ _))
  | .whileLoop test body, h => by
      rw [StmtKind.lexical]
      obtain ⟨htest, hbody⟩ := List.forall_mem_append.mp h
      refine (Expr.render_fills (.whileLoop test body) List.mem_cons_self htest).bind ?_
      intro text htext
      refine (Stmt.lexicalAll_explained sight body hbody).bind fun inner hinner => .ok ?_
      refine Explained.append ?_ (hinner.deeper.mono (List.subset_cons_self _ _))
      exact .line List.mem_cons_self ((StmtKind.Shows.of_isProse rfl).append htext.math)
  | .pass, _ => by
      rw [StmtKind.lexical]
      exact .ok explained_nil
  | .breakLoop, _ => by
      rw [StmtKind.lexical]
      exact .ok (.prose List.mem_cons_self (by decide))
  | .continueLoop, _ => by
      rw [StmtKind.lexical]
      exact .ok (.prose List.mem_cons_self (by decide))
  | .returning value, h => by
      rw [StmtKind.lexical]
      have hwritten : ∀ expr ∈ value, expr ∈ (StmtKind.returning value).written := by
        intro expr hexpr
        simpa [StmtKind.written] using hexpr
      refine (Expr.renderOptional_fills (.returning value) hwritten h).bind fun text htext => .ok ?_
      cases text with
      | none => exact .prose List.mem_cons_self rfl
      | some text =>
          exact .line List.mem_cons_self
            ((StmtKind.Shows.of_isProse rfl).append (htext text rfl).math)
  | .switch value cases, _ => by
      rw [StmtKind.lexical]
      exact .next fun _ => .error _
  | .imports _, _ => by
      rw [StmtKind.lexical]
      exact .ok explained_nil
  | .importFrom module names, _ => by
      rw [StmtKind.lexical]
      exact .error _
  | .delete targets, _ => by
      rw [StmtKind.lexical]
      exact .next fun _ => .error _
  | .typeAlias name value, _ => by
      rw [StmtKind.lexical]
      exact .next fun _ => .next fun _ => .error _
  | .expr value, h => by
      cases value with
      | constant value =>
          rw [StmtKind.lexical]
          refine .ok (explained_comment List.mem_cons_self fun line hline => ?_)
          exact isProse_of_mem_cleanDoc (h _ List.mem_cons_self) (fun _ hc => hc) hline
      | _ =>
          rw [StmtKind.lexical]
          · refine (Expr.render_spelled (.expr _) List.mem_cons_self h).bind fun text htext => .ok ?_
            exact .line List.mem_cons_self (explains_expressionStatement htext)
          · simp

theorem Stmt.lexicalAll_explained (sight : Sight) : (stmts : List Stmt) →
    (∀ leaf ∈ Stmt.leavesAll stmts, leaf.isTame = true) →
    Promises (Explained subject (Stmt.statementsAll stmts)) (Stmt.lexicalAll subject sight stmts)
  | [], _ => by
      rw [Stmt.lexicalAll]
      exact .ok explained_nil
  | stmt :: rest, h => by
      rw [Stmt.lexicalAll, Stmt.statementsAll]
      obtain ⟨hstmt, hrest⟩ := List.forall_mem_append.mp h
      refine (Stmt.lexical_explained sight stmt hstmt).bind fun first hfirst => ?_
      refine (Stmt.lexicalAll_explained _ rest hrest).bind fun others hothers => .ok ?_
      exact (hfirst.mono (List.subset_append_left _ _)).append
        (hothers.mono (List.subset_append_right _ _))

theorem Stmt.lexicalUndocumented_explained (sight : Sight) : (stmts : List Stmt) →
    (∀ leaf ∈ Stmt.leavesAll stmts, leaf.isTame = true) →
    Promises (Explained subject (Stmt.statementsAll stmts))
      (Stmt.lexicalUndocumented subject sight stmts)
  | [], _ => by
      rw [Stmt.lexicalUndocumented]
      exact .ok explained_nil
  | stmt :: rest, h => by
      rw [Stmt.lexicalUndocumented, Stmt.statementsAll]
      obtain ⟨hstmt, hrest⟩ := List.forall_mem_append.mp h
      split
      · intro steps hsteps
        exact (Stmt.lexicalAll_explained sight rest hrest steps hsteps).mono
          (List.subset_append_right _ _)
      · refine (Stmt.lexical_explained sight stmt hstmt).bind fun first hfirst => ?_
        refine (Stmt.lexicalAll_explained _ rest hrest).bind fun others hothers => .ok ?_
        exact (hfirst.mono (List.subset_append_left _ _)).append
          (hothers.mono (List.subset_append_right _ _))

theorem Stmt.lexicalOrelse_explained (sight : Sight) : (stmts : List Stmt) →
    (∀ leaf ∈ Stmt.leavesAll stmts, leaf.isTame = true) →
    Promises (Explained subject (Stmt.statementsAll stmts)) (Stmt.lexicalOrelse subject sight stmts)
  | [], _ => by
      rw [Stmt.lexicalOrelse]
      exact .ok explained_nil
  | [.mk line kind], h => by
      have hkind := (List.forall_mem_append.mp h).1
      -- A single `if` goes on with the chain; anything else stands in a block of its own.
      cases kind with
      | branch test body orelse =>
          rw [Stmt.lexicalOrelse]
          obtain ⟨hboth, horelse⟩ := List.forall_mem_append.mp hkind
          obtain ⟨htest, hbody⟩ := List.forall_mem_append.mp hboth
          refine (Expr.render_fills (.branch test body orelse) List.mem_cons_self htest).bind ?_
          intro text htext
          refine (Stmt.lexicalAll_explained sight body hbody).bind fun inner hinner => ?_
          refine (Stmt.lexicalOrelse_explained sight orelse horelse).bind fun others hothers => .ok ?_
          have hheader : (StmtKind.branch test body orelse).Explains subject
              ("Otherwise, if " ++ Pseudocode.math text) :=
            (StmtKind.Shows.of_isProse rfl).append htext.math
          refine .skip rfl ((Explained.append (.line ?_ hheader) (hinner.deeper.mono ?_)).append
            (hothers.mono ?_))
          all_goals simp [Stmt.statementsAll, Stmt.statements, StmtKind.inner]
      | _ =>
          rw [Stmt.lexicalOrelse]
          · exact explained_otherwise _ (Stmt.lexical_explained sight _ hkind)
              (Stmt.lexicalAll_explained _ [] (by simp [Stmt.leavesAll]))
          · simp
  | stmt :: second :: rest, h => by
      obtain ⟨hstmt, hrest⟩ := List.forall_mem_append.mp h
      rw [Stmt.lexicalOrelse]
      · exact explained_otherwise _ (Stmt.lexical_explained sight stmt hstmt)
          (Stmt.lexicalAll_explained _ (second :: rest) hrest)
      · simp

end

end Induction

/-- A page without records indents the lines of its script. -/
theorem Layout.Page.exists_lines {unit : IndentUnit} {page : Page} (h : page.cursor.rest = [])
    (spell : String → String) (steps : List Step) :
    ∃ entries : List (Nat × String),
      textOf unit spell (page.play unit steps).1 =
        String.join (entries.map fun entry => Line.indented unit entry.1 entry.2 ++ "\n") ∧
      ∀ entry ∈ entries, entry.2 ∈ steps.filterMap Step.text? := by
  induction steps generalizing page with
  | nil => exact ⟨[], rfl, by simp⟩
  | cons step rest ih =>
      have hstep : (page.step unit step).2.cursor.rest = [] := rest_step h step
      obtain ⟨entries, htext, hentries⟩ := ih hstep
      cases step with
      | code text comments offset =>
          refine ⟨(unit.countAt page.level offset, text) :: entries, ?_, ?_⟩
          · rw [play, textOf_append, htext, Page.step, write_quiet h, textOf_singleton, List.map_cons,
              String.join_cons]
            rfl
          · have hcons : (Step.code text comments offset :: rest).filterMap Step.text? =
                text :: rest.filterMap Step.text? := rfl
            rw [hcons]
            exact List.forall_mem_cons.mpr ⟨List.mem_cons_self, fun entry hentry =>
              List.mem_cons_of_mem text (hentries entry hentry)⟩
      | _ => exact ⟨entries, htext, hentries⟩

theorem StmtKind.Explains.indented {subject : Option String} {kind : StmtKind} {code : String}
    {unit : IndentUnit} (hunit : isProse unit.character = true) (h : kind.Explains subject code)
    (indent : Nat) :
    kind.Shows subject (kind.LeavesBare subject code) (Line.indented unit indent code) := by
  rw [Line.indented]
  split
  · exact .of_isProse rfl
  · refine StmtKind.Shows.append (.of_isProse ?_) h
    simp [IndentUnit.indentation, hunit]

/-- **Lines of pseudocode are inline mathematics.** Where neither names nor constants have dollar signs
or backslashes, the dollar signs of each line pair up and every command stands between them, unless the
statement leaves a text with a blank bare, where the dollar signs pair up all the same, or a sentence
with arguments stands inside of another text. -/
theorem pseudocode_lines_inline {subject : Option String} {unit : IndentUnit} {program : Program}
    {rendering : Rendering} (hunit : isProse unit.character = true)
    (h : ∀ leaf ∈ program.leaves, leaf.isTame = true)
    (hrender : program.render (.pseudocode subject) unit [] = .ok rendering) :
    ∃ lines : List String, rendering.text = String.join (lines.map (· ++ "\n")) ∧
      ∀ line ∈ lines, '\n' ∉ line.toList ∧
        (InlineMath line ∨ ∃ kind ∈ program.statements,
          (Paired line ∧ ∃ indent code, line = Line.indented unit indent code ∧
            kind.LeavesBare subject code) ∨ kind.Nests subject line) := by
  cases hscript : program.script (.pseudocode subject) .outermost with
  | mk result inside steps =>
  have hresult := (Program.script_of_render hrender).1
  rw [hscript] at hresult
  obtain rfl : result = .ok () := hresult
  have hexplained : Explained subject program.statements steps := by
    refine Stmt.lexicalAll_explained [] program.body h steps ?_
    have hwritten : (program.script (.pseudocode subject) .outermost).written =
        Stmt.lexicalAll subject [] program.body :=
      Stmt.written_renderAll subject Surroundings.Sees.outermost.pushScope program.body
    rw [hscript] at hwritten
    exact hwritten.symm
  obtain ⟨found, hfound, htext⟩ := Program.render_quiet hscript
  obtain rfl : rendering = found := Except.ok.inj (hrender.symm.trans hfound)
  have hrest : (Page.ofRecords []).cursor.rest = [] := rfl
  obtain ⟨entries, hlines, hentries⟩ := Page.exists_lines hrest _ steps
  refine ⟨entries.map fun entry => Line.indented unit entry.1 entry.2, ?_, ?_⟩
  · rw [htext, hlines, List.map_map]
    rfl
  · intro line hline
    obtain ⟨⟨indent, code⟩, hentry, rfl⟩ := List.mem_map.mp hline
    obtain ⟨kind, hkind, hexplains⟩ := hexplained code (hentries _ hentry)
    obtain ⟨hnewline, hshows⟩ := hexplains.indented hunit indent
    refine ⟨hnewline, hshows.imp_right fun hrest => ⟨kind, hkind, hrest.imp_left ?_⟩⟩
    exact fun hbare => ⟨hbare.1, indent, code, rfl, hbare.2⟩

/-- A branch that sets a member of the subject, which leaves the value bare. -/
theorem pseudocode_lines_inline_branch :
    let program : Program :=
      ⟨[.mk 1 (.branch (.compare (.name "alpha") [.greater] [.name "beta"])
          [.mk 2 (.assign [.member (.name "shape") "line_width"] (.name "alpha"))] []),
        .mk 3 (.returning (some (.binary (.member (.name "shape") "length") .div (.name "alpha"))))]⟩
    let text := "If $\\alpha > \\beta$\n    Set Line width to \\alpha\n" ++
      "Return $\\frac\x7bLength\x7d\x7b\\alpha\x7d$\n"
    (isProse ' ' = true ∧ (∀ leaf ∈ program.leaves, leaf.isTame = true) ∧
      program.render (.pseudocode (some "shape")) .standard [] = .ok ⟨text, true⟩) ∧
    ∃ lines : List String, text = String.join (lines.map (· ++ "\n")) ∧
      ∀ line ∈ lines, '\n' ∉ line.toList ∧
        (InlineMath line ∨ ∃ kind ∈ program.statements,
          (Paired line ∧ ∃ indent code, line = Line.indented .standard indent code ∧
            kind.LeavesBare (some "shape") code) ∨ kind.Nests (some "shape") line) := by
  intro program text
  have hspace : isProse ' ' = true := by decide
  have htame : ∀ leaf ∈ program.leaves, leaf.isTame = true := by decide
  have hrender : program.render (.pseudocode (some "shape")) .standard [] = .ok ⟨text, true⟩ := rfl
  exact ⟨⟨hspace, htame, hrender⟩, pseudocode_lines_inline hspace htame hrender⟩

/-- A product that stands as a statement and a value that a member is set to are bare, and a sentence
with arguments splits the segment that it stands in. -/
theorem not_inlineMath_of_bare :
    let product : Program := ⟨[.mk 1 (.expr (.binary (.name "a") .mult (.name "b")))]⟩
    let setting : Program :=
      ⟨[.mk 1 (.assign [.member (.name "shape") "line_width"] (.name "alpha"))]⟩
    let nested : Program :=
      ⟨[.mk 1 (.returning (some (.call (.member (.name "shape") "point_at") [.name "alpha"])))]⟩
    (∀ leaf ∈ product.leaves ++ setting.leaves ++ nested.leaves, leaf.isTame = true) ∧
      (product.render (.pseudocode (some "shape")) .standard [] = .ok ⟨"a \\cdot b\n", true⟩ ∧
        ¬InlineMath "a \\cdot b") ∧
      (setting.render (.pseudocode (some "shape")) .standard [] =
          .ok ⟨"Set Line width to \\alpha\n", true⟩ ∧
        ¬InlineMath "Set Line width to \\alpha") ∧
      nested.render (.pseudocode (some "shape")) .standard [] =
          .ok ⟨"Return $Point at $\\alpha$$\n", true⟩ ∧
        ¬InlineMath "Return $Point at $\\alpha$$" := by
  intro product setting nested
  have htame : ∀ leaf ∈ product.leaves ++ setting.leaves ++ nested.leaves, leaf.isTame = true := by
    decide
  exact ⟨htame, ⟨rfl, by decide⟩, ⟨rfl, by decide⟩, rfl, by decide⟩

end Snippet
