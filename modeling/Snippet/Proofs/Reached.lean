import Mathlib.Data.List.Basic
import Snippet.Proofs.Refusal.Pseudocode
import Snippet.Proofs.Refusal.Stmt
import Snippet.Proofs.WellFormed

/-!
# What is never reached from a source

A rejection names a node on the walk. On the walk over a well-formed program every comparison has its
operators, so no target comes to a comparison without one.
-/

namespace Snippet

open Layout (BraceStyle IndentUnit)
open Render
open Source (Node Tree)

/-! ### Rejections name nodes on the walk -/

theorem node_mem_visited {target : Target} {unit : IndentUnit} {records : List Comment.Record}
    {program : Program} {rejection : Rejection}
    (h : program.render target unit records = .error rejection) :
    rejection.node ∈ program.visited := by
  have hscript : (program.script target .outermost).result = .error rejection := by
    rw [Program.render, Program.play] at h
    cases hresult : (program.script target .outermost).result with
    | ok value => simp [hresult, Except.map] at h
    | error other =>
        obtain rfl : other = rejection := by simpa [hresult, Except.map] using h
        rfl
  cases target with
  | curly dialect style =>
      have hverdict : Verdict dialect style program.visited
          (program.script (.curly dialect style) .outermost).result :=
        (Judged.inScope (Stmt.renderAll_judged false program.body) .outermost rfl).1
      obtain ⟨node, hnode, heq⟩ := (Verdict.iff_settles.mp hverdict).exists_mem hscript
      rwa [heq]
  | pseudocode subject =>
      have hwritten : (program.script (.pseudocode subject) .outermost).written =
          program.lexical subject :=
        Stmt.written_renderAll subject Surroundings.Sees.outermost.pushScope program.body
      have hlexical : program.lexical subject = .error rejection := by
        rw [← hwritten, Outcome.written, hscript]
        rfl
      have htold : Told subject (program.sites subject) (program.lexical subject) :=
        Stmt.lexicalAll_told [] program.body
      obtain ⟨site, hsite, heq⟩ := htold.exists_mem hlexical
      rw [heq]
      have hnodes : (program.sites subject).map Site.node = program.visited :=
        Stmt.map_node_sitesAll subject false [] program.body
      exact hnodes ▸ List.mem_map_of_mem hsite

/-! ### Comparisons on the walk over a well-formed tree -/

/-- A comparison has an operator, and one before each comparator. -/
def Render.RejectedNode.comparesWell : RejectedNode → Bool
  | .expr (.compare _ ops comparators) => 1 ≤ ops.length && comparators.length == ops.length
  | _ => true

section Walk

mutual

theorem Expr.visited_comparesWell : (expr : Expr) → expr.wellFormed = true →
    expr.visited.all RejectedNode.comparesWell = true
  | .constant value, h => by
      rw [Expr.visited]
      rfl
  | .name ident, h => by
      rw [Expr.visited]
      rfl
  | .member value attr, h => by
      rw [Expr.wellFormed] at h
      rw [Expr.visited, List.all_append, value.visited_comparesWell h]
      rfl
  | .unary op operand, h => by
      rw [Expr.wellFormed] at h
      rw [Expr.visited, List.all_append, operand.visited_comparesWell h]
      rfl
  | .binary left op right, h => by
      rw [Expr.wellFormed, Bool.and_eq_true] at h
      rw [Expr.visited, List.all_append, List.all_append, left.visited_comparesWell h.1,
        right.visited_comparesWell h.2]
      rfl
  | .bool op values, h => by
      rw [Expr.wellFormed, Bool.and_eq_true] at h
      rw [Expr.visited, List.all_append, Expr.visitedAll_comparesWell values h.2]
      rfl
  | .call func args, h => by
      rw [Expr.wellFormed, Bool.and_eq_true] at h
      rw [Expr.visited, List.all_append, List.all_append, func.visited_comparesWell h.1,
        Expr.visitedAll_comparesWell args h.2]
      rfl
  | .tuple elements, h => by
      rw [Expr.wellFormed] at h
      rw [Expr.visited, List.all_append, Expr.visitedAll_comparesWell elements h]
      rfl
  | .list elements, h => by
      rw [Expr.wellFormed] at h
      rw [Expr.visited, List.all_append, Expr.visitedAll_comparesWell elements h]
      rfl
  | .set elements, h => by
      rw [Expr.wellFormed] at h
      rw [Expr.visited, List.all_append, Expr.visitedAll_comparesWell elements h]
      rfl
  | .dict pairs, h => by
      rw [Expr.wellFormed] at h
      rw [Expr.visited, List.all_append, Expr.visitedPairs_comparesWell pairs h]
      rfl
  | .compare left [] comparators, h => by simp [Expr.wellFormed] at h
  | .compare left (op :: ops) comparators, h => by
      simp only [Expr.wellFormed, Bool.and_eq_true] at h
      obtain ⟨hlength, hleft, hcomparators⟩ := h
      rw [Expr.visited, List.all_append, List.all_append, left.visited_comparesWell hleft,
        Expr.visitedLinks_comparesWell (op :: ops) comparators hcomparators]
      simpa [RejectedNode.comparesWell] using hlength
  | .conditional test body orelse, h => by
      simp only [Expr.wellFormed, Bool.and_eq_true] at h
      rw [Expr.visited, List.all_append, List.all_append, List.all_append,
        test.visited_comparesWell h.1.1, body.visited_comparesWell h.1.2,
        orelse.visited_comparesWell h.2]
      rfl
  | .subscript value index, h => by
      rw [Expr.wellFormed, Bool.and_eq_true] at h
      have hvalue := value.visited_comparesWell h.1
      have hindex := index.visited_comparesWell
      cases index with
      | slice lower upper step =>
          have hparts := h.2
          simp only [Expr.wellFormed, Bool.and_eq_true] at hparts
          rw [Expr.visited, List.all_append, List.all_append, List.all_append, List.all_append,
            hvalue, Expr.visitedOptional_comparesWell lower hparts.1.1,
            Expr.visitedOptional_comparesWell upper hparts.1.2,
            Expr.visitedOptional_comparesWell step hparts.2]
          rfl
      | _ =>
          rw [Expr.visited, List.all_append, List.all_append, hvalue, hindex h.2]
          · rfl
          · simp
  | .slice lower upper step, h => by
      rw [Expr.visited]
      rfl
  | .starred value, h => by
      rw [Expr.wellFormed] at h
      rw [Expr.visited, List.all_append, value.visited_comparesWell h]
      rfl
  | .matchValue value, h => by simp [Expr.wellFormed] at h
  | .matchAs binder, h => by simp [Expr.wellFormed] at h

theorem Expr.visitedAll_comparesWell : (exprs : List Expr) → Expr.wellFormedAll exprs = true →
    (Expr.visitedAll exprs).all RejectedNode.comparesWell = true
  | [], h => by
      rw [Expr.visitedAll]
      rfl
  | expr :: rest, h => by
      rw [Expr.wellFormedAll, Bool.and_eq_true] at h
      rw [Expr.visitedAll, List.all_append, expr.visited_comparesWell h.1,
        Expr.visitedAll_comparesWell rest h.2]
      rfl

theorem Expr.visitedPairs_comparesWell : (pairs : List (Expr × Expr)) →
    Expr.wellFormedPairs pairs = true →
    (Expr.visitedPairs pairs).all RejectedNode.comparesWell = true
  | [], h => by
      rw [Expr.visitedPairs]
      rfl
  | (key, value) :: rest, h => by
      simp only [Expr.wellFormedPairs, Bool.and_eq_true] at h
      rw [Expr.visitedPairs, List.all_append, List.all_append, key.visited_comparesWell h.1.1,
        value.visited_comparesWell h.1.2, Expr.visitedPairs_comparesWell rest h.2]
      rfl

theorem Expr.visitedLinks_comparesWell : (ops : List CompareOp) → (exprs : List Expr) →
    Expr.wellFormedAll exprs = true →
    (Expr.visitedLinks ops exprs).all RejectedNode.comparesWell = true
  | op :: ops, expr :: rest, h => by
      rw [Expr.wellFormedAll, Bool.and_eq_true] at h
      rw [Expr.visitedLinks, List.all_append, expr.visited_comparesWell h.1,
        Expr.visitedLinks_comparesWell ops rest h.2]
      rfl
  | [], _, _ => by simp [Expr.visitedLinks]
  | _ :: _, [], _ => by simp [Expr.visitedLinks]

theorem Expr.visitedOptional_comparesWell : (expr : Option Expr) →
    Expr.wellFormedOptional expr = true →
    (Expr.visitedOptional expr).all RejectedNode.comparesWell = true
  | none, h => by
      rw [Expr.visitedOptional]
      rfl
  | some expr, h => by
      rw [Expr.wellFormedOptional] at h
      rw [Expr.visitedOptional, expr.visited_comparesWell h]

end

theorem Expr.visitedPattern_comparesWell {pattern : Expr} (h : pattern.wellFormedPattern = true) :
    pattern.visitedPattern.all RejectedNode.comparesWell = true := by
  cases pattern with
  | matchValue value =>
      rw [Expr.wellFormedPattern] at h
      rw [Expr.visitedPattern, Expr.visited, List.all_append, value.visited_comparesWell h]
      · rfl
      · simp
  | matchAs binder =>
      cases binder with
      | none => rfl
      | some name =>
          rw [Expr.visitedPattern, Expr.visited]
          · rfl
          · simp
  | _ => cases h

theorem visitedParams_comparesWell {header : FunctionHeader}
    (hdefaults : Expr.wellFormedAll header.defaults = true) {params : List Param} (index : Nat)
    (h : params.all (fun param => Expr.wellFormedOptional param.hint) = true) :
    (header.visitedParams index params).all RejectedNode.comparesWell = true := by
  have hdefault : ∀ place, Expr.wellFormedOptional (header.default? place) = true := by
    intro place
    cases hfound : header.default? place with
    | none => rfl
    | some expr =>
        obtain ⟨found, -, hmem⟩ := Option.bind_eq_some_iff.mp hfound
        rw [Expr.wellFormedOptional]
        exact (Expr.wellFormedAll_iff _).mp hdefaults expr (List.mem_of_getElem? hmem)
  induction params generalizing index with
  | nil => rfl
  | cons param rest ih =>
      rw [List.all_cons, Bool.and_eq_true] at h
      rw [FunctionHeader.visitedParams, List.all_append, List.all_append,
        Expr.visitedOptional_comparesWell _ h.1, Expr.visitedOptional_comparesWell _ (hdefault index),
        ih (index + 1) h.2]
      rfl

theorem FunctionHeader.visited_comparesWell {header : FunctionHeader} (isMethod : Bool)
    (h : header.wellFormed = true) :
    (header.visited isMethod).all RejectedNode.comparesWell = true := by
  simp only [FunctionHeader.wellFormed, Bool.and_eq_true] at h
  obtain ⟨⟨⟨⟨-, hhints⟩, hdefaults⟩, hreturns⟩, -⟩ := h
  rw [FunctionHeader.visited, List.all_append, Expr.visitedOptional_comparesWell _ hreturns]
  refine visitedParams_comparesWell hdefaults _ (List.all_eq_true.mpr fun param hparam => ?_)
  exact List.all_eq_true.mp hhints param (List.mem_of_mem_drop hparam)

mutual

theorem Stmt.visited_comparesWell (inClassBody : Bool) : (stmt : Stmt) → stmt.wellFormed = true →
    (stmt.visited inClassBody).all RejectedNode.comparesWell = true
  | .mk line kind, h => by
      rw [Stmt.wellFormed] at h
      rw [Stmt.visited, kind.visited_comparesWell inClassBody h]

theorem StmtKind.visited_comparesWell (inClassBody : Bool) : (kind : StmtKind) →
    kind.wellFormed = true → (kind.visited inClassBody).all RejectedNode.comparesWell = true
  | .classDef name bases body, h => by
      rw [StmtKind.wellFormed, Bool.and_eq_true] at h
      rw [StmtKind.visited, List.all_append, Expr.visitedAll_comparesWell bases h.1]
      exact Stmt.visitedAll_comparesWell true body h.2
  | .functionDef header body, h => by
      rw [StmtKind.wellFormed, Bool.and_eq_true] at h
      rw [StmtKind.visited, List.all_append, header.visited_comparesWell inClassBody h.1]
      exact Stmt.visitedAll_comparesWell false body h.2
  | .assign targets value, h => by
      simp only [StmtKind.wellFormed, Bool.and_eq_true] at h
      rw [StmtKind.visited, List.all_append, Expr.visitedAll_comparesWell targets h.1.2,
        value.visited_comparesWell h.2]
      rfl
  | .annAssign declared hint value, h => by
      simp only [StmtKind.wellFormed, Bool.and_eq_true] at h
      rw [StmtKind.visited, List.all_append, List.all_append, hint.visited_comparesWell h.1.2,
        declared.visited_comparesWell h.1.1, Expr.visitedOptional_comparesWell value h.2]
      rfl
  | .augAssign assigned op value, h => by
      rw [StmtKind.wellFormed, Bool.and_eq_true] at h
      rw [StmtKind.visited, List.all_append, assigned.visited_comparesWell h.1,
        value.visited_comparesWell h.2]
      rfl
  | .branch test body orelse, h => by
      simp only [StmtKind.wellFormed, Bool.and_eq_true] at h
      rw [StmtKind.visited, List.all_append, List.all_append, test.visited_comparesWell h.1.1,
        Stmt.visitedAll_comparesWell false body h.1.2,
        Stmt.visitedAll_comparesWell false orelse h.2]
      rfl
  | .forLoop item iter body isAsync, h => by
      simp only [StmtKind.wellFormed, Bool.and_eq_true] at h
      rw [StmtKind.visited, List.all_append, List.all_append, item.visited_comparesWell h.1.1,
        iter.visited_comparesWell h.1.2]
      exact Stmt.visitedAll_comparesWell false body h.2
  | .whileLoop test body, h => by
      rw [StmtKind.wellFormed, Bool.and_eq_true] at h
      rw [StmtKind.visited, List.all_append, test.visited_comparesWell h.1,
        Stmt.visitedAll_comparesWell false body h.2]
      rfl
  | .pass, _ => by
      rw [StmtKind.visited]
      rfl
  | .breakLoop, _ => by
      rw [StmtKind.visited]
      rfl
  | .continueLoop, _ => by
      rw [StmtKind.visited]
      rfl
  | .returning value, h => by
      rw [StmtKind.wellFormed] at h
      rw [StmtKind.visited, Expr.visitedOptional_comparesWell value h]
  | .switch subject cases, h => by
      rw [StmtKind.wellFormed, Bool.and_eq_true] at h
      rw [StmtKind.visited, List.all_append, subject.visited_comparesWell h.1]
      exact MatchCase.visitedAll_comparesWell cases h.2
  | .imports names, _ => by
      rw [StmtKind.visited]
      rfl
  | .importFrom module names, _ => by
      rw [StmtKind.visited]
      rfl
  | .delete targets, h => by
      rw [StmtKind.wellFormed] at h
      rw [StmtKind.visited, List.all_append, Expr.visitedAll_comparesWell targets h]
      rfl
  | .typeAlias name value, h => by
      rw [StmtKind.wellFormed, Bool.and_eq_true] at h
      rw [StmtKind.visited, List.all_append, List.all_append, name.visited_comparesWell h.1,
        value.visited_comparesWell h.2]
      rfl
  | .expr value, h => by
      rw [StmtKind.wellFormed] at h
      cases value with
      | constant value =>
          rw [StmtKind.visited]
          rfl
      | _ =>
          rw [StmtKind.visited]
          · exact Expr.visited_comparesWell _ h
          · simp

theorem Stmt.visitedAll_comparesWell (inClassBody : Bool) : (stmts : List Stmt) →
    Stmt.wellFormedAll stmts = true →
    (Stmt.visitedAll inClassBody stmts).all RejectedNode.comparesWell = true
  | [], _ => by
      rw [Stmt.visitedAll]
      rfl
  | first :: rest, h => by
      rw [Stmt.wellFormedAll, Bool.and_eq_true] at h
      rw [Stmt.visitedAll, List.all_append, first.visited_comparesWell inClassBody h.1,
        Stmt.visitedAll_comparesWell inClassBody rest h.2]
      rfl

theorem MatchCase.visited_comparesWell : (arm : MatchCase) → arm.wellFormed = true →
    arm.visited.all RejectedNode.comparesWell = true
  | .mk line pattern body, h => by
      rw [MatchCase.wellFormed, Bool.and_eq_true] at h
      rw [MatchCase.visited, List.all_append, Expr.visitedPattern_comparesWell h.1]
      exact Stmt.visitedAll_comparesWell false body h.2

theorem MatchCase.visitedAll_comparesWell : (arms : List MatchCase) →
    MatchCase.wellFormedAll arms = true →
    (MatchCase.visitedAll arms).all RejectedNode.comparesWell = true
  | [], _ => by
      rw [MatchCase.visitedAll]
      rfl
  | arm :: rest, h => by
      rw [MatchCase.wellFormedAll, Bool.and_eq_true] at h
      rw [MatchCase.visitedAll, List.all_append, arm.visited_comparesWell h.1,
        MatchCase.visitedAll_comparesWell rest h.2]
      rfl

end

end Walk

/-! ### The texts of comparisons -/

section Texts

variable {dialect : Dialect} {style : BraceStyle} {around : Surroundings} {asType : Bool}

/-- A comparison with an operator has a blank in its text. -/
theorem blank_mem_compare (left : String) (op : Operator) (right : String)
    (rest : List (Operator × String)) :
    ' ' ∈ (dialect.compare left ((op, right) :: rest)).toList := by
  have hlink : ∀ last : String, ' ' ∈ (left ++ " " ++ dialect.operator op ++ " " ++ last).toList :=
    fun last => by simp
  rw [Dialect.compare, Dialect.links]
  cases rest with
  | nil =>
      rw [Dialect.links]
      exact hlink right
  | cons second others =>
      obtain ⟨next, after⟩ := second
      rw [Dialect.links]
      simp [String.intercalate_cons_of_ne_nil]

theorem exists_links {op : CompareOp} {ops : List CompareOp} {expr : Expr} {rest : List Expr}
    {texts : List (Operator × String)}
    (h : Expr.renderLinks (.curly dialect style) around asType (op :: ops) (expr :: rest) =
      .ok texts) :
    ∃ text more, texts = (.compare op, text) :: more := by
  rw [Expr.renderLinks] at h
  obtain ⟨text, -, h⟩ := exists_of_bind_eq_ok h
  obtain ⟨more, -, h⟩ := exists_of_bind_eq_ok h
  obtain rfl := Except.ok.inj h
  exact ⟨_, more, rfl⟩

theorem compare_render_ne {left : Expr} {ops : List CompareOp} {comparators : List Expr}
    (hops : 1 ≤ ops.length) (hlength : comparators.length = ops.length) :
    (Expr.compare left ops comparators).render (.curly dialect style) around asType ≠ .ok "()" := by
  cases ops with
  | nil => cases hops
  | cons op ops =>
      cases comparators with
      | nil => cases hlength
      | cons expr rest =>
          intro h
          obtain ⟨leftText, texts, -, htexts, hparens⟩ := Expr.exists_parts_of_compare h
          obtain ⟨text, more, rfl⟩ := exists_links htexts
          have hblank : ' ' ∈ "()".toList := hparens ▸ blank_mem_compare _ _ text more
          simp at hblank

end Texts

/-- **Every tree of nodes is read as a well-formed program.** So on the walk over the program no
comparison is without an operator: none is rejected for that, and none reads as an empty pair of
parentheses. -/
theorem readTree_wellFormed (tree : Tree) (program : Program) (h : tree.read = .ok program) :
    program.wellFormed = true ∧
    (∀ (target : Target) (unit : IndentUnit) (records : List Comment.Record)
      (rejection : Rejection), program.render target unit records = .error rejection →
        ∀ left comparators, rejection.node ≠ .expr (.compare left [] comparators)) ∧
    ∀ (left : Expr) (ops : List CompareOp) (comparators : List Expr),
      .expr (.compare left ops comparators) ∈ program.visited →
        1 ≤ ops.length ∧ comparators.length = ops.length ∧
        ∀ dialect style around asType,
          (Expr.compare left ops comparators).render (.curly dialect style) around asType ≠
            .ok "()" := by
  have hwellFormed : program.wellFormed = true := tree.read_wellFormed program h
  have hwalk : ∀ node ∈ program.visited, RejectedNode.comparesWell node = true :=
    List.all_eq_true.mp (Stmt.visitedAll_comparesWell false program.body hwellFormed)
  refine ⟨hwellFormed, fun target unit records rejection hrejected left comparators hnode => ?_,
    fun left ops comparators hmem => ?_⟩
  · have hcompares := hwalk _ (node_mem_visited hrejected)
    rw [hnode] at hcompares
    simp [RejectedNode.comparesWell] at hcompares
  · have hcompares := hwalk _ hmem
    simp only [RejectedNode.comparesWell, Bool.and_eq_true, decide_eq_true_eq, beq_iff_eq]
      at hcompares
    exact ⟨hcompares.1, hcompares.2, fun _ _ _ _ => compare_render_ne hcompares.1 hcompares.2⟩

/-- The tree of `a < n <= b`. -/
def chainTree : Tree :=
  ⟨.construct "module" 0 "a < n <= b" [.construct "comparison_operator" 0 "a < n <= b"
    [.construct "identifier" 0 "a" [], .token 0 "<", .construct "identifier" 0 "n" [], .token 0 "<=",
      .construct "identifier" 0 "b" []]], false⟩

/-- A chain is read as one comparison with two operators, which a curly target writes out. -/
theorem readTree_wellFormed_chain :
    let expr : Expr :=
      .compare (.name "a") [.less, .lessEqual] [.name "n", .name "b"]
    ∃ program, chainTree.read = .ok program ∧ program.wellFormed = true ∧
      .expr expr ∈ program.visited ∧ expr.render .cpp .outermost false ≠ .ok "()" := by
  intro expr
  have hread : chainTree.read = .ok ⟨[.mk 1 (.expr expr)]⟩ := by cbv
  obtain ⟨hwellFormed, -, hcompares⟩ := readTree_wellFormed chainTree _ hread
  have hmem : .expr expr ∈ Program.visited ⟨[.mk 1 (.expr expr)]⟩ := by
    simp [expr, Program.visited, Stmt.visitedAll, Stmt.visited, StmtKind.visited, Expr.visited]
  exact ⟨_, hread, hwellFormed, hmem, (hcompares _ _ _ hmem).2.2 _ _ _ _⟩

end Snippet
