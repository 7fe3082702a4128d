import Mathlib.Data.List.Basic
import Snippet.Proofs.Walk
import Snippet.Source.Statement

/-!
# Chains of branches

A source writes a chain of branches as a row of clauses, a tree keeps it as nested `if` statements,
and the walk goes over the nest in one loop. Folding the clauses into the nest and visiting the nest
undo each other, and an `else` that holds a single `if` is visited as one more clause.
-/

namespace Snippet

open Render Script
open Source (Node ReadError)
open Source.Node (TestedBody nested)

/-- An `if` statement as its clauses: the first test, those of `elif` with their lines, and the
statements under `else`, of which there are none without an `else`. -/
structure Branches where
  test : Expr
  body : List Stmt
  elifs : List TestedBody
  otherwise : List Stmt

/-- Whether the statements under `else` go on with the chain: they are a single `if`. -/
def isChained : List Stmt → Bool
  | [.mk _ (.branch ..)] => true
  | _ => false

/-- What the walk over an `if` statement comes to. -/
inductive BranchVisit where
  | first (test : Expr) (body : List Stmt)
  | prepare (line : UInt64)
  | another (test : Expr) (body : List Stmt)
  | otherwise (body : List Stmt)
  | close

def BranchVisit.render (target : Target) : BranchVisit → Script Unit
  | .first test body => do
    emit (target.beginIf (← renderExpr target test))
    block none (Stmt.renderAll target body)
  | .prepare line => emit [.prepare line]
  | .another test body => do
    emit (target.beginElif (← renderExpr target test))
    block none (Stmt.renderAll target body)
  | .otherwise body => do
    emit target.beginElse
    block none (Stmt.renderAll target body)
  | .close => emit target.endBlock

def BranchVisit.renderAll (target : Target) : List BranchVisit → Script Unit
  | [] => pure ()
  | visit :: rest => do
    visit.render target
    BranchVisit.renderAll target rest

mutual

/-- The clauses after the first in what hangs under `else`, and the statements that end them. -/
def unnested : List Stmt → List TestedBody × List Stmt
  | [] => ([], [])
  | first :: rest =>
    match rest, first.unnested? with
    | [], some chain => chain
    | _, _ => ([], first :: rest)

def Stmt.unnested? : Stmt → Option (List TestedBody × List Stmt)
  | .mk line kind => kind.unnested? line

def StmtKind.unnested? (line : UInt64) : StmtKind → Option (List TestedBody × List Stmt)
  | .branch test body orelse =>
    let (elifs, otherwise) := unnested orelse
    some (⟨line, test, body⟩ :: elifs, otherwise)
  | _ => none

end

namespace Branches

/-- The statements of an `else` clause, of which there are none without one. -/
def readOtherwise {node : Node} (read : node.Inner → Except ReadError Stmt) :
    Option node.Inner → Except ReadError (List Stmt)
  | some clause => do node.readBlock read (clause.within (← clause.val.field "body"))
  | none => pure []

/-- The clauses of an `if` statement as they are read one after another: the test and the statements
of the first, those of each `elif`, and the statements of the `else`. -/
def read (node : Node) (elifs : List node.Inner) (orelse : Option node.Inner) :
    Except ReadError Branches := do
  let inside := fun (inner : node.Inner) => inner.val.readStmt
  let test ← (← node.field "condition").val.readExpr
  let body ← node.readBlock inside (← node.field "consequence")
  let tested ← elifs.mapM (node.readTested inside)
  return ⟨test, body, tested, ← readOtherwise inside orelse⟩

/-- The nest of `if` statements that stands for the clauses. -/
def fold (branches : Branches) : StmtKind :=
  .branch branches.test branches.body (nested branches.elifs branches.otherwise)

/-- The clauses that the walk finds in a nest. -/
def unfold (test : Expr) (body orelse : List Stmt) : Branches :=
  ⟨test, body, (unnested orelse).1, (unnested orelse).2⟩

def elifVisits (elifs : List TestedBody) : List BranchVisit :=
  elifs.flatMap fun clause => [.prepare clause.line, .another clause.test clause.body]

/-- The first statement under `else` gives the line of the whole clause. -/
def otherwiseVisits : List Stmt → List BranchVisit
  | [] => []
  | first :: rest => [.prepare first.line, .otherwise (first :: rest)]

/-- Every clause once and in order, each after the line it stands at, and then the end. -/
def visits (branches : Branches) : List BranchVisit :=
  .first branches.test branches.body ::
    (elifVisits branches.elifs ++ (otherwiseVisits branches.otherwise ++ [.close]))

end Branches

/-! ### Reading -/

section Reading

variable {node : Node} (read : node.Inner → Except ReadError Stmt)

theorem readAlternatives_elifs {elifs : List node.Inner} (rest : List node.Inner)
    (h : ∀ clause ∈ elifs, clause.val.kind = "elif_clause") :
    node.readAlternatives read (elifs ++ rest) = do
      let tested ← elifs.mapM (node.readTested read)
      let (more, orelse) ← node.readAlternatives read rest
      return (tested ++ more, orelse) := by
  induction elifs with
  | nil =>
      rw [List.nil_append, List.mapM_nil, pure_bind]
      cases node.readAlternatives read rest <;> rfl
  | cons clause elifs ih =>
      obtain ⟨hclause, helifs⟩ := List.forall_mem_cons.mp h
      rw [List.cons_append, Node.readAlternatives, hclause, List.mapM_cons, ih helifs]
      simp only [bind_assoc, pure_bind, List.cons_append]

theorem readAlternatives_else {orelse : Option node.Inner}
    (h : ∀ clause ∈ orelse, clause.val.kind = "else_clause") :
    node.readAlternatives read orelse.toList = do
      return ([], ← Branches.readOtherwise read orelse) := by
  cases orelse with
  | none => rfl
  | some clause =>
      rw [Option.toList_some, Node.readAlternatives, h clause rfl]
      simp only [Branches.readOtherwise, bind_assoc]

end Reading

theorem readStmt_branch (node : Node) (elifs : List node.Inner) (orelse : Option node.Inner)
    (hkind : node.kind = "if_statement")
    (halternatives : node.fields "alternative" = elifs ++ orelse.toList)
    (helifs : ∀ clause ∈ elifs, clause.val.kind = "elif_clause")
    (horelse : ∀ clause ∈ orelse, clause.val.kind = "else_clause") :
    node.readStmt =
      (fun branches => .mk node.line branches.fold) <$> Branches.read node elifs orelse := by
  have hname : Source.StatementKind.ofName? node.kind = some .ifStatement := by
    rw [hkind]
    rfl
  have hplain : node.kind ≠ "decorated_definition" := by
    rw [hkind]
    decide
  rw [Node.readStmt, Node.readStatement, if_neg hplain, Node.readKind, hname]
  simp only [Node.readIf, halternatives, readAlternatives_elifs _ _ helifs,
    readAlternatives_else _ horelse, Branches.read, bind_assoc, pure_bind, map_eq_pure_bind,
    List.append_nil, Branches.fold]

/-! ### Folding and unfolding -/

theorem unnested_branch (line : UInt64) (test : Expr) (body orelse : List Stmt) :
    unnested [.mk line (.branch test body orelse)] =
      (⟨line, test, body⟩ :: (unnested orelse).1, (unnested orelse).2) := rfl

theorem unnested_of_not_chained {orelse : List Stmt} (h : isChained orelse = false) :
    unnested orelse = ([], orelse) := by
  cases orelse with
  | nil => rfl
  | cons first rest =>
      obtain ⟨line, kind⟩ := first
      cases rest with
      | nil => cases kind <;> first | rfl | cases h
      | cons second more => rfl

/-- What hangs under `else` goes on with the chain through a single `if`, or it ends the chain. -/
theorem orelse_induction {motive : List Stmt → Prop}
    (ends : ∀ orelse, isChained orelse = false → motive orelse)
    (chained : ∀ line test body more, motive more → motive [.mk line (.branch test body more)])
    (orelse : List Stmt) : motive orelse := by
  cases orelse with
  | nil => exact ends [] rfl
  | cons first rest =>
      cases rest with
      | nil =>
          obtain ⟨line, kind⟩ := first
          cases kind with
          | branch test body more =>
              exact chained line test body more (orelse_induction ends chained more)
          | _ => exact ends _ rfl
      | cons second more => exact ends _ (by simp [isChained])
termination_by sizeOf orelse

/-- The statements that end a nest do not go on with the chain. -/
theorem isChained_unnested (orelse : List Stmt) : isChained (unnested orelse).2 = false := by
  induction orelse using orelse_induction with
  | ends orelse h => rwa [unnested_of_not_chained h]
  | chained line test body more ih => exact ih

/-- Going on through the `else` of a nest adds its clauses to those before it. -/
theorem unnested_nested (elifs : List TestedBody) (orelse : List Stmt) :
    unnested (nested elifs orelse) = (elifs ++ (unnested orelse).1, (unnested orelse).2) := by
  induction elifs with
  | nil => rfl
  | cons clause rest ih =>
      rw [nested, Stmt.branch, unnested_branch, ih, List.cons_append]

theorem nested_unnested (orelse : List Stmt) :
    nested (unnested orelse).1 (unnested orelse).2 = orelse := by
  induction orelse using orelse_induction with
  | ends orelse h => rw [unnested_of_not_chained h, nested]
  | chained line test body more ih =>
      rw [unnested_branch, nested, ih]
      rfl

/-! ### The walk -/

theorem BranchVisit.renderAll_append (target : Target) (first second : List BranchVisit) :
    renderAll target (first ++ second) =
      renderAll target first >>= fun _ => renderAll target second := by
  induction first with
  | nil => rw [List.nil_append, renderAll, pure_bind]
  | cons visit rest ih => rw [List.cons_append, renderAll, renderAll, ih, bind_assoc]

theorem renderOrelse_of_not_chained (target : Target) {orelse : List Stmt}
    (h : isChained orelse = false) :
    Stmt.renderOrelse target orelse =
      BranchVisit.renderAll target (Branches.otherwiseVisits orelse) := by
  cases orelse with
  | nil => rw [Stmt.renderOrelse, Branches.otherwiseVisits, BranchVisit.renderAll]
  | cons first rest =>
      rw [Stmt.renderOrelse]
      · simp only [Branches.otherwiseVisits, BranchVisit.renderAll, BranchVisit.render, bind_assoc,
          bind_pure_unit, Stmt.renderAll]
      · rintro line test body more rfl rfl
        cases h

/-- The loop over what hangs under `else` visits the clauses it unfolds into. -/
theorem renderOrelse_eq (target : Target) (orelse : List Stmt) :
    Stmt.renderOrelse target orelse =
      BranchVisit.renderAll target (Branches.elifVisits (unnested orelse).1 ++
        Branches.otherwiseVisits (unnested orelse).2) := by
  induction orelse using orelse_induction with
  | ends orelse h =>
      rw [unnested_of_not_chained h]
      exact renderOrelse_of_not_chained target h
  | chained line test body more ih =>
      rw [unnested_branch, Stmt.renderOrelse, ih]
      simp only [Branches.elifVisits, List.flatMap_cons, List.cons_append, List.nil_append,
        BranchVisit.renderAll, BranchVisit.render, bind_assoc]

/-- The walk over an `if` statement visits the clauses that it unfolds into. -/
theorem render_branch (target : Target) (test : Expr) (body orelse : List Stmt) :
    (StmtKind.branch test body orelse).render target =
      BranchVisit.renderAll target (Branches.unfold test body orelse).visits := by
  rw [StmtKind.render, renderOrelse_eq]
  simp only [Branches.visits, Branches.unfold, BranchVisit.renderAll, BranchVisit.renderAll_append,
    BranchVisit.render, bind_assoc, bind_pure_unit]

/-! ### Both ways -/

namespace Branches

theorem fold_unfold (test : Expr) (body orelse : List Stmt) :
    (unfold test body orelse).fold = .branch test body orelse := by
  rw [fold, unfold, nested_unnested]

theorem unfold_fold {branches : Branches} (h : isChained branches.otherwise = false) :
    unfold branches.test branches.body (nested branches.elifs branches.otherwise) = branches := by
  rw [unfold, unnested_nested, unnested_of_not_chained h, List.append_nil]

end Branches

/-- **Folding clauses and visiting their nest undo each other.** A chain is read clause by clause
into a nest, and the walk over the nest visits just those clauses, each `elif` after its own line and
the `else` where it has statements, unless these go on with the chain. Every nest comes back from
the clauses it is visited as, and an `else` that holds a single `if` is visited as more clauses. -/
theorem branches_fold_unfold (target : Target) :
    (∀ (node : Node) (elifs : List node.Inner) (orelse : Option node.Inner),
      node.kind = "if_statement" → node.fields "alternative" = elifs ++ orelse.toList →
      (∀ clause ∈ elifs, clause.val.kind = "elif_clause") →
      (∀ clause ∈ orelse, clause.val.kind = "else_clause") →
      node.readStmt =
        (fun branches => .mk node.line branches.fold) <$> Branches.read node elifs orelse) ∧
    (∀ branches : Branches, isChained branches.otherwise = false →
      branches.fold.render target = BranchVisit.renderAll target branches.visits ∧
        Branches.unfold branches.test branches.body
          (nested branches.elifs branches.otherwise) = branches) ∧
    (∀ test body orelse, (StmtKind.branch test body orelse).render target =
        BranchVisit.renderAll target (Branches.unfold test body orelse).visits ∧
      (Branches.unfold test body orelse).fold = .branch test body orelse ∧
      isChained (Branches.unfold test body orelse).otherwise = false) ∧
    ∀ (branches : Branches) line test body more,
      branches.otherwise = [.mk line (.branch test body more)] →
      branches.fold.render target = BranchVisit.renderAll target
        { branches with
          elifs := branches.elifs ++ TestedBody.mk line test body :: (unnested more).1
          otherwise := (unnested more).2 }.visits := by
  refine ⟨readStmt_branch, fun branches h => ⟨?_, Branches.unfold_fold h⟩,
    fun test body orelse => ⟨render_branch target test body orelse,
      Branches.fold_unfold test body orelse, isChained_unnested orelse⟩, ?_⟩
  · rw [Branches.fold, render_branch, Branches.unfold_fold h]
  · intro branches line test body more hmore
    rw [Branches.fold, render_branch, Branches.unfold, unnested_nested, hmore, unnested_branch]

/-- The node of an `if` with an `elif` and an `else`, on six rows. -/
def branchNode : Node :=
  let name := fun row text => (Node.construct "identifier" row text []).filling "condition"
  let block := fun row kind text =>
    Node.construct "block" row text [.construct kind row text []]
  .construct "if_statement" 0 "if a:\n  break\nelif b:\n  pass\nelse:\n  continue"
    [name 0 "a", (block 1 "break_statement" "break").filling "consequence",
      (Node.construct "elif_clause" 2 "elif b:\n  pass"
        [name 2 "b", (block 3 "pass_statement" "pass").filling "consequence"]).filling "alternative",
      (Node.construct "else_clause" 4 "else:\n  continue"
        [(block 5 "continue_statement" "continue").filling "body"]).filling "alternative"]

/-- A chain with an `elif` and an `else` as it is read, one that is walked, and the same with an `else`
that goes on with it. -/
theorem branches_fold_unfold_else :
    let last : Stmt := .mk 7 (.branch (.name "c") [.mk 8 .pass] [])
    let ended : Branches :=
      ⟨.name "a", [.mk 2 .breakLoop], [⟨3, .name "b", [.mk 4 .pass]⟩], [.mk 6 .pass, last]⟩
    let chained : Branches := { ended with otherwise := [last] }
    let found : Branches :=
      { ended with
        elifs := [⟨3, .name "b", [.mk 4 .pass]⟩, ⟨7, .name "c", [.mk 8 .pass]⟩]
        otherwise := [] }
    (branchNode.readStmt = .ok (.mk 1 (.branch (.name "a") [.mk 2 .breakLoop]
        [.mk 3 (.branch (.name "b") [.mk 4 .pass] [.mk 6 .continueLoop])])) ∧
      ∃ elifs orelse, branchNode.fields "alternative" = elifs ++ Option.toList orelse ∧
        branchNode.readStmt = (fun branches => .mk branchNode.line branches.fold) <$>
          Branches.read branchNode elifs orelse) ∧
    (isChained ended.otherwise = false ∧
      ended.fold.render .cpp = BranchVisit.renderAll .cpp ended.visits ∧
      ended.visits = [.first (.name "a") [.mk 2 .breakLoop], .prepare 3,
        .another (.name "b") [.mk 4 .pass], .prepare 6, .otherwise [.mk 6 .pass, last], .close]) ∧
    chained.otherwise = [last] ∧
      chained.fold.render .cpp = BranchVisit.renderAll .cpp found.visits ∧
      found.visits = [.first (.name "a") [.mk 2 .breakLoop], .prepare 3,
        .another (.name "b") [.mk 4 .pass], .prepare 7, .another (.name "c") [.mk 8 .pass],
        .close] := by
  intro last ended chained found
  obtain ⟨hread, hended, -, hchained⟩ := branches_fold_unfold .cpp
  have hvalue : branchNode.readStmt = .ok (.mk 1 (.branch (.name "a") [.mk 2 .breakLoop]
      [.mk 3 (.branch (.name "b") [.mk 4 .pass] [.mk 6 .continueLoop])])) := by cbv
  have hfields : branchNode.fields "alternative" =
      (branchNode.fields "alternative").take 1 ++
        Option.toList (branchNode.fields "alternative")[1]? := by rfl
  have hnode := hread branchNode _ _ rfl hfields (by decide) (by decide)
  refine ⟨⟨hvalue, _, _, hfields, hnode⟩, ⟨rfl, (hended ended rfl).1, rfl⟩, rfl, ?_, rfl⟩
  exact hchained chained 7 (.name "c") [.mk 8 .pass] [] rfl

end Snippet
