import Snippet.Proofs.Refusal.Settled
import Snippet.Proofs.Resolution

/-!
# What pseudocode has no form for

Whether a call has a form hangs on the text of its callee, and so on the declarations in sight. The
nodes that the walk reaches are therefore taken with the place where they stand. A rendering fails
exactly when one of them is refused at its place, and it names the first of these.
-/

namespace Snippet

open Render Script

/-- A node with the declarations in sight of it. Names in an expression that stands for a type are
spelled as types. -/
structure Site where
  node : RejectedNode
  sight : Sight
  asType : Bool

def placed (sight : Sight) (asType : Bool) (nodes : List RejectedNode) : List Site :=
  nodes.map fun node => ⟨node, sight, asType⟩

/-- The text that a call has for its callee, where that has a text. -/
def Expr.calleeText? (subject : Option String) (sight : Sight) (asType : Bool) (func : Expr) :
    Option String :=
  ((func.render (.pseudocode subject) sight.around asType).map
    ((Target.pseudocode subject).atom func)).toOption

/-- A slice in an index is refused as the index it makes. -/
def Pseudocode.refuses (subject : Option String) (place : Site) : Bool :=
  match place.node with
  | .expr (.tuple _) | .expr (.list _) | .expr (.set _) | .expr (.dict _) => true
  | .expr (.conditional ..) | .expr (.starred _) | .expr (.slice ..) => true
  | .expr (.subscript _ (.slice ..)) => true
  | .expr (.matchAs _) | .expr (.compare _ [] _) => true
  | .expr (.call func args) =>
    func.calleeText? subject place.sight place.asType == some "range" &&
      !(1 ≤ args.length && args.length ≤ 3)
  | .stmt (.classDef ..) | .stmt (.switch ..) | .matchCase _ => true
  | .stmt (.importFrom ..) | .stmt (.delete _) | .stmt (.typeAlias ..) => true
  | _ => false

/-- The parameters that a function's body has in sight; a method leaves its receiver out. -/
def FunctionHeader.declared (subject : Option String) (sight : Sight) (isMethod : Bool)
    (header : FunctionHeader) : Sight :=
  let skipped := if isMethod && header.hasReceiver then 1 else 0
  match header.renderParams (.pseudocode subject) sight.around skipped
      (header.params.drop skipped) with
  | .ok params =>
    Signature.declared subject ⟨header.name, params, none, header.isAsync, isMethod, false⟩
  | .error _ => []

def FunctionHeader.sitesOfParams (sight : Sight) (header : FunctionHeader) :
    Nat → List Param → List Site
  | _, [] => []
  | index, param :: rest =>
    placed sight true (Expr.visitedOptional param.hint) ++
      placed sight false (Expr.visitedOptional (header.default? index)) ++
      header.sitesOfParams sight (index + 1) rest

section Places

variable (subject : Option String)

mutual

def Stmt.sites (inClassBody : Bool) (sight : Sight) : Stmt → List Site
  | .mk _ kind => kind.sites inClassBody sight

/-- The places of the nodes that the walk reaches, in their order. -/
def StmtKind.sites (inClassBody : Bool) (sight : Sight) : StmtKind → List Site
  | .classDef name bases body =>
    placed sight true (Expr.visitedAll bases) ++
      ⟨.stmt (.classDef name bases body), sight, false⟩ :: Stmt.sitesAll true sight body
  | .functionDef header body =>
    let skipped := if inClassBody && header.hasReceiver then 1 else 0
    placed sight true (Expr.visitedOptional header.returns) ++
      header.sitesOfParams sight skipped (header.params.drop skipped) ++
      ⟨.stmt (.functionDef header body), sight, false⟩ ::
        Stmt.sitesAll false (header.declared subject sight inClassBody ++ sight) body
  | .assign targets value =>
    placed sight false (Expr.visitedAll targets) ++ placed sight false value.visited
  | .annAssign declared hint value =>
    let after := (StmtKind.annAssign declared hint value).declared subject sight ++ sight
    placed sight true hint.visited ++ placed after false declared.visited ++
      placed after false (Expr.visitedOptional value)
  | .augAssign assigned _ value =>
    placed sight false assigned.visited ++ placed sight false value.visited
  | .branch test body orelse =>
    placed sight false test.visited ++ Stmt.sitesAll false sight body ++
      Stmt.sitesAll false sight orelse
  | .forLoop item iter body isAsync =>
    placed sight false item.visited ++ placed sight false iter.visited ++
      ⟨.stmt (.forLoop item iter body isAsync), sight, false⟩ :: Stmt.sitesAll false sight body
  | .whileLoop test body => placed sight false test.visited ++ Stmt.sitesAll false sight body
  | .pass | .breakLoop | .continueLoop => []
  | .returning value => placed sight false (Expr.visitedOptional value)
  | .switch value cases =>
    placed sight false value.visited ++
      ⟨.stmt (.switch value cases), sight, false⟩ :: MatchCase.sitesAll sight cases
  | .imports names => [⟨.stmt (.imports names), sight, false⟩]
  | .importFrom module names => [⟨.stmt (.importFrom module names), sight, false⟩]
  | .delete targets =>
    placed sight false (Expr.visitedAll targets) ++ [⟨.stmt (.delete targets), sight, false⟩]
  | .typeAlias name value =>
    placed sight true name.visited ++ placed sight true value.visited ++
      [⟨.stmt (.typeAlias name value), sight, false⟩]
  | .expr (.constant _) => []
  | .expr value => placed sight false value.visited

def Stmt.sitesAll (inClassBody : Bool) (sight : Sight) : List Stmt → List Site
  | [] => []
  | stmt :: rest =>
    stmt.sites inClassBody sight ++
      Stmt.sitesAll inClassBody (stmt.kind.declared subject sight ++ sight) rest

def MatchCase.sites (sight : Sight) : MatchCase → List Site
  | .mk line pattern body =>
    placed sight false pattern.visitedPattern ++
      ⟨.matchCase (.mk line pattern body), sight, false⟩ :: Stmt.sitesAll false sight body

def MatchCase.sitesAll (sight : Sight) : List MatchCase → List Site
  | [] => []
  | arm :: rest => arm.sites sight ++ MatchCase.sitesAll sight rest

end

def Program.sites (program : Program) : List Site := Stmt.sitesAll subject false [] program.body

end Places

/-! ### The places are those of the visited nodes -/

section Nodes

variable (subject : Option String)

@[simp] theorem map_node_placed (sight : Sight) (asType : Bool) (nodes : List RejectedNode) :
    (placed sight asType nodes).map Site.node = nodes := by
  simp [placed, Function.comp_def]

theorem map_node_sitesOfParams (sight : Sight) (header : FunctionHeader) (index : Nat)
    (params : List Param) :
    (header.sitesOfParams sight index params).map Site.node =
      header.visitedParams index params := by
  induction params generalizing index with
  | nil => rfl
  | cons param rest ih => simp [FunctionHeader.sitesOfParams, FunctionHeader.visitedParams, ih]

mutual

theorem Stmt.map_node_sites (inClassBody : Bool) (sight : Sight) : (stmt : Stmt) →
    (stmt.sites subject inClassBody sight).map Site.node = stmt.visited inClassBody
  | .mk line kind => by
      rw [Stmt.sites, Stmt.visited, kind.map_node_sites]

theorem StmtKind.map_node_sites (inClassBody : Bool) (sight : Sight) : (kind : StmtKind) →
    (kind.sites subject inClassBody sight).map Site.node = kind.visited inClassBody
  | .classDef name bases body => by
      simp [StmtKind.sites, StmtKind.visited, Stmt.map_node_sitesAll true sight body]
  | .functionDef header body => by
      simp [StmtKind.sites, StmtKind.visited, FunctionHeader.visited, map_node_sitesOfParams,
        Stmt.map_node_sitesAll false _ body]
  | .assign targets value => by simp [StmtKind.sites, StmtKind.visited]
  | .annAssign declared hint value => by simp [StmtKind.sites, StmtKind.visited]
  | .augAssign assigned op value => by simp [StmtKind.sites, StmtKind.visited]
  | .branch test body orelse => by
      simp [StmtKind.sites, StmtKind.visited, Stmt.map_node_sitesAll false sight body,
        Stmt.map_node_sitesAll false sight orelse]
  | .forLoop item iter body isAsync => by
      simp [StmtKind.sites, StmtKind.visited, Stmt.map_node_sitesAll false sight body]
  | .whileLoop test body => by
      simp [StmtKind.sites, StmtKind.visited, Stmt.map_node_sitesAll false sight body]
  | .pass => by rw [StmtKind.sites, StmtKind.visited, List.map_nil]
  | .breakLoop => by rw [StmtKind.sites, StmtKind.visited, List.map_nil]
  | .continueLoop => by rw [StmtKind.sites, StmtKind.visited, List.map_nil]
  | .returning value => by simp [StmtKind.sites, StmtKind.visited]
  | .switch value cases => by
      simp [StmtKind.sites, StmtKind.visited, MatchCase.map_node_sitesAll sight cases]
  | .imports names => by simp [StmtKind.sites, StmtKind.visited]
  | .importFrom module names => by simp [StmtKind.sites, StmtKind.visited]
  | .delete targets => by simp [StmtKind.sites, StmtKind.visited]
  | .typeAlias name value => by simp [StmtKind.sites, StmtKind.visited]
  | .expr value => by
      cases value with
      | constant value => rw [StmtKind.sites, StmtKind.visited, List.map_nil]
      | _ => rw [StmtKind.sites, StmtKind.visited, map_node_placed] <;> simp

theorem Stmt.map_node_sitesAll (inClassBody : Bool) (sight : Sight) : (stmts : List Stmt) →
    (Stmt.sitesAll subject inClassBody sight stmts).map Site.node =
      Stmt.visitedAll inClassBody stmts
  | [] => by rw [Stmt.sitesAll, Stmt.visitedAll, List.map_nil]
  | stmt :: rest => by
      rw [Stmt.sitesAll, Stmt.visitedAll, List.map_append, stmt.map_node_sites,
        Stmt.map_node_sitesAll _ _ rest]

theorem MatchCase.map_node_sites (sight : Sight) : (arm : MatchCase) →
    (arm.sites subject sight).map Site.node = arm.visited
  | .mk line pattern body => by
      simp [MatchCase.sites, MatchCase.visited, Stmt.map_node_sitesAll false sight body]

theorem MatchCase.map_node_sitesAll (sight : Sight) : (arms : List MatchCase) →
    (MatchCase.sitesAll subject sight arms).map Site.node = MatchCase.visitedAll arms
  | [] => by rw [MatchCase.sitesAll, MatchCase.visitedAll, List.map_nil]
  | arm :: rest => by
      rw [MatchCase.sitesAll, MatchCase.visitedAll, List.map_append, arm.map_node_sites,
        MatchCase.map_node_sitesAll _ rest]

end

end Nodes

/-! ### Expressions -/

namespace Pseudocode

theorem interval?_isNone (texts : List String) :
    (interval? texts).isNone = !(1 ≤ texts.length && texts.length ≤ 3) := by
  fun_cases interval? texts with
  | case4 texts =>
      rcases texts with _ | ⟨_, _ | ⟨_, _ | ⟨_, _ | ⟨_, rest⟩⟩⟩⟩ <;> simp_all
  | _ => rfl

/-- Only a call of `range` may have no form. -/
theorem call?_isNone (func : String) (texts : List String) :
    (call? func texts).isNone =
      (func == "range" && !(1 ≤ texts.length && texts.length ≤ 3)) := by
  fun_cases call? func texts with
  | case6 => exact interval?_isNone texts
  | case8 func _ _ _ _ _ hrange =>
      have hother : (func == "range") = false := beq_eq_false_iff_ne.mpr hrange
      rw [hother]
      rfl
  | _ => rfl

variable {subject : Option String} {sight : Sight} {asType : Bool}

theorem answers : Answers (.pseudocode subject) sight.around asType
    (refuses subject ∘ fun node => ⟨node, sight, asType⟩) where
  plain {expr} h := by
    cases expr with
    | compare left ops comparators => cases ops <;> first | rfl | cases h
    | subscript value index => cases index <;> first | rfl | cases h
    | _ => first | rfl | cases h
  formless {expr} h := by
    cases expr with
    | compare left ops comparators => cases ops <;> first | rfl | cases h
    | _ => first | rfl | cases h
  call {func args callee texts} hcallee hlength := by
    have htext : func.calleeText? subject sight asType =
        some ((Target.pseudocode subject).atom func callee) := by
      rw [Expr.calleeText?, hcallee]
      rfl
    have hrefused : refuses subject ⟨.expr (.call func args), sight, asType⟩ =
        (func.calleeText? subject sight asType == some "range" &&
          !(1 ≤ args.length && args.length ≤ 3)) := rfl
    rw [Target.call?, call?_isNone, hlength, Function.comp_apply, hrefused, htext]
    rfl
  tuple _ _ := rfl
  list _ _ := rfl
  set _ _ := rfl
  dict _ _ := rfl
  conditional _ _ _ _ _ _ := rfl
  slice _ _ _ _ _ _ _ := rfl
  starred _ _ := rfl
  capture _ := rfl

end Pseudocode

/-! ### Statements -/

/-- A result in pseudocode that the places of a walk settle. -/
abbrev Told (subject : Option String) {α : Type} (places : List Site)
    (result : Except Rejection α) : Prop :=
  Settles (.pseudocode subject) Site.node (Pseudocode.refuses subject) places result

section Statements

variable {subject : Option String} {sight : Sight} {asType : Bool}

theorem Expr.render_told (expr : Expr) :
    Told subject (placed sight asType expr.visited)
      (expr.render (.pseudocode subject) sight.around asType) :=
  (expr.render_settled Pseudocode.answers).placed fun _ => rfl

theorem Expr.renderAll_told (exprs : List Expr) :
    Told subject (placed sight asType (Expr.visitedAll exprs))
      (Expr.renderAll (.pseudocode subject) sight.around asType exprs) :=
  (Expr.renderAll_settled Pseudocode.answers exprs).placed fun _ => rfl

theorem Expr.renderOptional_told (expr : Option Expr) :
    Told subject (placed sight asType (Expr.visitedOptional expr))
      (Expr.renderOptional (.pseudocode subject) sight.around asType expr) :=
  (Expr.renderOptional_settled Pseudocode.answers expr).placed fun _ => rfl

theorem renderLoopItems_told (iter : Expr) :
    Told subject (placed sight false iter.visited)
      (iter.renderLoopItems (.pseudocode subject) sight.around) :=
  (renderLoopItems_settled Pseudocode.answers iter).placed fun _ => rfl

theorem renderParams_told (header : FunctionHeader) (index : Nat) (params : List Param) :
    Told subject (header.sitesOfParams sight index params)
      (header.renderParams (.pseudocode subject) sight.around index params) := by
  induction params generalizing index with
  | nil => exact .ok []
  | cons param rest ih =>
      rw [FunctionHeader.sitesOfParams, FunctionHeader.renderParams, List.append_assoc]
      refine (Expr.renderOptional_told param.hint).bind fun _ _ => ?_
      refine (Expr.renderOptional_told (header.default? index)).bind fun _ _ => ?_
      exact (ih (index + 1)).map _

/-- A function outside classes has all its parameters in sight, without regard to the rest of its
header. -/
theorem declared_of_renderParams {header : FunctionHeader} {params : List SignatureParam}
    (h : header.renderParams (.pseudocode subject) sight.around 0 header.params = .ok params)
    (signature : Signature) (hparams : signature.params = params) :
    header.declared subject sight false = signature.declared subject := by
  simp only [FunctionHeader.declared, Bool.false_and, Bool.false_eq_true, if_false, List.drop_zero,
    h, Signature.declared, hparams]

theorem Stmt.sites_of_docText?_isSome (subject : Option String) (inClassBody : Bool)
    (sight : Sight) {stmt : Stmt}
    (h : stmt.docText?.isSome = true) :
    stmt.sites subject inClassBody sight = [] ∧ stmt.kind.declared subject sight = [] := by
  rw [Stmt.docText?.eq_def] at h
  split at h
  · exact ⟨by rw [Stmt.sites, StmtKind.sites], rfl⟩
  · cases h

mutual

theorem Stmt.lexical_told (sight : Sight) : (stmt : Stmt) →
    Told subject (stmt.sites subject false sight) (stmt.lexical subject sight)
  | .mk line kind => by
      rw [Stmt.sites, Stmt.lexical]
      exact (kind.lexical_told sight).map _

theorem StmtKind.lexical_told (sight : Sight) : (kind : StmtKind) →
    Told subject (kind.sites subject false sight) (kind.lexical subject sight)
  | .classDef name bases body => by
      rw [StmtKind.sites, StmtKind.lexical]
      refine (Expr.renderAll_told bases).bind fun _ _ => ?_
      -- The class itself is refused, and so nothing of its body is reached.
      exact .cons_refuses rfl
  | .functionDef header body => by
      rw [StmtKind.sites, StmtKind.lexical, List.append_assoc]
      refine (Expr.renderOptional_told header.returns).bind fun returns _ => ?_
      refine (renderParams_told header 0 header.params).bind fun params hparams => ?_
      let signature : Signature := ⟨header.name, params, returns, header.isAsync, false, false⟩
      rw [declared_of_renderParams hparams signature rfl]
      have hbody := Stmt.lexicalUndocumented_told (signature.declared subject ++ sight) body
      exact .cons_accepted rfl (hbody.map _)
  | .assign targets value => by
      rw [StmtKind.sites, StmtKind.lexical]
      exact (Expr.renderAll_told targets).bind fun _ _ => value.render_told.map _
  | .annAssign declared hint value => by
      rw [StmtKind.sites, StmtKind.lexical, List.append_assoc]
      refine hint.render_told.bind fun _ _ => declared.render_told.bind fun _ _ => ?_
      exact (Expr.renderOptional_told value).map _
  | .augAssign assigned op value => by
      rw [StmtKind.sites, StmtKind.lexical]
      exact assigned.render_told.bind fun _ _ => value.render_told.map _
  | .branch test body orelse => by
      rw [StmtKind.sites, StmtKind.lexical, List.append_assoc]
      refine test.render_told.bind fun _ _ => ?_
      refine (Stmt.lexicalAll_told sight body).bind fun _ _ => ?_
      exact (Stmt.lexicalOrelse_told sight orelse).map _
  | .forLoop item iter body isAsync => by
      rw [StmtKind.sites, StmtKind.lexical, List.append_assoc]
      refine item.render_told.bind fun _ _ => (renderLoopItems_told iter).bind fun _ _ => ?_
      exact .cons_accepted rfl ((Stmt.lexicalAll_told sight body).map _)
  | .whileLoop test body => by
      rw [StmtKind.sites, StmtKind.lexical]
      exact test.render_told.bind fun _ _ => (Stmt.lexicalAll_told sight body).map _
  | .pass => by
      rw [StmtKind.sites, StmtKind.lexical]
      exact .ok _
  | .breakLoop => by
      rw [StmtKind.sites, StmtKind.lexical]
      exact .ok _
  | .continueLoop => by
      rw [StmtKind.sites, StmtKind.lexical]
      exact .ok _
  | .returning value => by
      rw [StmtKind.sites, StmtKind.lexical]
      exact (Expr.renderOptional_told value).map _
  | .switch value cases => by
      rw [StmtKind.sites, StmtKind.lexical]
      refine value.render_told.bind fun _ _ => ?_
      exact .cons_refuses rfl
  | .imports names => by
      rw [StmtKind.sites, StmtKind.lexical]
      exact .accepted rfl _
  | .importFrom module names => by
      rw [StmtKind.sites, StmtKind.lexical]
      exact .refuses rfl
  | .delete targets => by
      rw [StmtKind.sites, StmtKind.lexical]
      exact (Expr.renderAll_told targets).bind fun _ _ => .refuses rfl
  | .typeAlias name value => by
      rw [StmtKind.sites, StmtKind.lexical, List.append_assoc]
      exact name.render_told.bind fun _ _ => value.render_told.bind fun _ _ => .refuses rfl
  | .expr value => by
      cases value with
      | constant value =>
          rw [StmtKind.sites, StmtKind.lexical]
          exact .ok _
      | _ =>
          rw [StmtKind.sites, StmtKind.lexical]
          · exact (Expr.render_told _).map _
          · simp
          · simp

theorem Stmt.lexicalAll_told (sight : Sight) : (stmts : List Stmt) →
    Told subject (Stmt.sitesAll subject false sight stmts) (Stmt.lexicalAll subject sight stmts)
  | [] => by
      rw [Stmt.sitesAll, Stmt.lexicalAll]
      exact .ok _
  | first :: rest => by
      rw [Stmt.sitesAll, Stmt.lexicalAll]
      exact (first.lexical_told sight).bind fun _ _ => (Stmt.lexicalAll_told _ rest).map _

theorem Stmt.lexicalUndocumented_told (sight : Sight) : (body : List Stmt) →
    Told subject (Stmt.sitesAll subject false sight body)
      (Stmt.lexicalUndocumented subject sight body)
  | [] => by
      rw [Stmt.sitesAll, Stmt.lexicalUndocumented]
      exact .ok _
  | first :: rest => by
      rw [Stmt.sitesAll, Stmt.lexicalUndocumented]
      split
      · next hdoc =>
          obtain ⟨hsites, hdeclared⟩ := Stmt.sites_of_docText?_isSome subject false sight hdoc
          rw [hsites, hdeclared]
          exact Stmt.lexicalAll_told sight rest
      · exact (first.lexical_told sight).bind fun _ _ => (Stmt.lexicalAll_told _ rest).map _

theorem Stmt.lexicalOrelse_told (sight : Sight) : (orelse : List Stmt) →
    Told subject (Stmt.sitesAll subject false sight orelse)
      (Stmt.lexicalOrelse subject sight orelse)
  | [] => by
      rw [Stmt.sitesAll, Stmt.lexicalOrelse]
      exact .ok _
  | [.mk line kind] => by
      have honly := Stmt.lexical_told sight (.mk line kind)
      -- A single `if` goes on with the chain; anything else stands in a block of its own.
      cases kind with
      | branch test body orelse =>
          rw [Stmt.sitesAll, Stmt.sitesAll, Stmt.sites, StmtKind.sites, List.append_nil,
            List.append_assoc, Stmt.lexicalOrelse]
          refine test.render_told.bind fun _ _ => ?_
          refine (Stmt.lexicalAll_told sight body).bind fun _ _ => ?_
          exact (Stmt.lexicalOrelse_told sight orelse).map _
      | _ =>
          rw [Stmt.sitesAll, Stmt.lexicalOrelse]
          · exact honly.bind fun _ _ => (Stmt.lexicalAll_told _ []).map _
          · simp
  | first :: second :: rest => by
      rw [Stmt.sitesAll, Stmt.lexicalOrelse]
      · exact (first.lexical_told sight).bind fun _ _ => (Stmt.lexicalAll_told _ _).map _
      · simp

end

end Statements

/-- **What pseudocode rejects.** A rendering succeeds unless the walk reaches a node that is refused
where it stands, and otherwise fails at the first such node, whose kind and dump the message gives. -/
theorem pseudocode_rejects_first_refused (subject : Option String) (unit : Layout.IndentUnit)
    (records : List Comment.Record) (program : Program) :
    (program.sites subject).map Site.node = program.visited ∧
    match (program.sites subject).find? (Pseudocode.refuses subject) with
    | none => ∃ rendering, program.render (.pseudocode subject) unit records = .ok rendering
    | some site => ∃ rejection,
        program.render (.pseudocode subject) unit records = .error rejection ∧
          rejection.node = site.node ∧
          rejection.message = "pseudo: unsupported " ++ site.node.kindName ++ ": " ++
            site.node.dump := by
  refine ⟨Stmt.map_node_sitesAll subject false [] program.body, ?_⟩
  have hwritten : (program.script (.pseudocode subject) .outermost).written =
      program.lexical subject :=
    Stmt.written_renderAll subject Surroundings.Sees.outermost.pushScope program.body
  have htold : Told subject (program.sites subject) (program.lexical subject) :=
    Stmt.lexicalAll_told [] program.body
  rw [← hwritten, Told, Settles, Outcome.written] at htold
  rw [Program.render, Program.play]
  cases hfound : (program.sites subject).find? (Pseudocode.refuses subject) with
  | none =>
      cases hresult : (program.script (.pseudocode subject) .outermost).result with
      | ok value => exact ⟨_, rfl⟩
      | error rejection => simp [hfound, hresult, Except.map] at htold
  | some site =>
      cases hresult : (program.script (.pseudocode subject) .outermost).result with
      | ok value => simp [hfound, hresult, Except.map] at htold
      | error rejection =>
          obtain rfl : rejection = ⟨.pseudocode subject, site.node⟩ := by
            simpa [hfound, hresult, Except.map] using htold
          exact ⟨_, rfl, rfl, rfl⟩

/-- A slice in an index is not the node that the message names. -/
theorem slice_in_index_named_as_subscript :
    let sliced : Expr := .subscript (.name "x") (.slice none none none)
    ∃ rejection,
      (Program.mk [.mk 1 (.expr sliced)]).render .narrated .standard [] = .error rejection ∧
        rejection.message = "pseudo: unsupported Subscript: " ++ sliced.dump ∧
        rejection.message ≠ "pseudo: unsupported Slice: " ++ (Expr.slice none none none).dump :=
  ⟨_, rfl, rfl, by decide⟩

end Snippet
