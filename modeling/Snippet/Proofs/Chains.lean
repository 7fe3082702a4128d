import Mathlib.Data.List.Basic
import Snippet.Proofs.Refusal.Settled
import Snippet.Proofs.WellFormed

/-!
# Chains of `and` and `or`

A source joins operands with `and` and `or` two at a time, so that a row of one operator is a tree of
nodes. The reader makes one chain of the largest group of such nodes at its root. A parenthesis ends
the group, as the other operator does.

What is asked, and in which order, stays the same. Joining the evaluations of two operands is
associative for either operator and has a neutral element, so it does not matter how the operands of
one operator are nested.
-/

namespace Snippet

open Source (ExprKind Node ReadError)
open Source.Node (chainOf? chained)

namespace Source.Node

variable {node : Node}

/-! ### Nodes of the two operators -/

/-- The operator and the sides of a node of `and` or `or` that has all three. -/
def junction? (node : Node) : Option (BoolOp × node.Inner × node.Inner) :=
  if node.kind = "boolean_operator" then do
    let operator ← node.field? "operator"
    let op ← chainOf? operator.val.text
    let left ← node.field? "left"
    let right ← node.field? "right"
    return (op, left, right)
  else none

/-- The node inside parentheses, or inside the wrapping of an annotation. -/
def wrapped? (node : Node) : Option node.Inner :=
  if node.kind = "parenthesized_expression" ∨ node.kind = "type" then node.parts.head? else none

theorem field_eq_ok_iff {name : String} {inner : node.Inner} :
    node.field name = .ok inner ↔ node.field? name = some inner := by
  rw [field]
  cases node.field? name with
  | none => simp
  | some found => simp

theorem readOperator_eq_ok_iff {α : Type} {sort : OperatorSort} {ofSymbol? : String → Option α}
    {op : α} :
    node.readOperator sort ofSymbol? = .ok op ↔
      ∃ operator, node.field? "operator" = some operator ∧
        ofSymbol? operator.val.text = some op := by
  rw [readOperator]
  constructor
  · intro h
    obtain ⟨operator, hoperator, h⟩ := exists_of_bind_eq_ok h
    refine ⟨operator, field_eq_ok_iff.mp hoperator, ?_⟩
    split at h
    · next found hfound =>
        obtain rfl := Except.ok.inj h
        exact hfound
    · cases h
  · rintro ⟨operator, hoperator, hop⟩
    simp only [field_eq_ok_iff.mpr hoperator, hop, bind, Except.bind, pure, Except.pure]

theorem junction?_eq_some_iff {op : BoolOp} {left right : node.Inner} :
    node.junction? = some (op, left, right) ↔
      node.kind = "boolean_operator" ∧ node.readOperator .boolean chainOf? = .ok op ∧
        node.field "left" = .ok left ∧ node.field "right" = .ok right := by
  rw [readOperator_eq_ok_iff, field_eq_ok_iff, field_eq_ok_iff, junction?]
  split
  · next hkind =>
      simp only [Option.bind_eq_bind, Option.bind_eq_some_iff, Option.pure_def, Option.some.injEq,
        Prod.mk.injEq]
      constructor
      · rintro ⟨operator, hoperator, found, hop, first, hleft, second, hright, rfl, rfl, rfl⟩
        exact ⟨hkind, ⟨operator, hoperator, hop⟩, hleft, hright⟩
      · rintro ⟨-, ⟨operator, hoperator, hop⟩, hleft, hright⟩
        exact ⟨operator, hoperator, op, hop, left, hleft, right, hright, rfl, rfl, rfl⟩
  · next hkind => simp [hkind]

/-- A node with an operator and two sides is read as the chain of what its sides give. -/
theorem readExpr_junction {op : BoolOp} {left right : node.Inner}
    (h : node.junction? = some (op, left, right)) :
    node.readExpr = do
      let leftValue ← left.val.readExpr
      let rightValue ← right.val.readExpr
      return .bool op (chained op left.val leftValue ++ chained op right.val rightValue) := by
  obtain ⟨hkind, hop, hleft, hright⟩ := junction?_eq_some_iff.mp h
  have hname : ExprKind.ofName? node.kind = some .booleanOperator := by
    rw [hkind]
    rfl
  rw [readExpr, readForm, hname]
  simp only [readChain, hop, hleft, hright]
  rfl

/-- Parentheses are read as what stands in them. -/
theorem readExpr_wrapped {inner : node.Inner} (h : node.wrapped? = some inner) :
    node.readExpr = inner.val.readExpr := by
  rw [wrapped?] at h
  split at h
  · next hkind =>
      have hpart : ∀ gap, node.part gap = .ok inner := by
        intro gap
        rw [part]
        obtain ⟨rest, hparts⟩ := List.head?_eq_some_iff.mp h
        rw [hparts]
      rw [readExpr, readForm]
      rcases hkind with hkind | hkind
      · have hname : ExprKind.ofName? node.kind = some .parenthesizedExpression := by
          rw [hkind]
          rfl
        simp only [hname, hpart]
        rfl
      · have hname : ExprKind.ofName? node.kind = some .type := by
          rw [hkind]
          rfl
        simp only [hname, hpart]
        rfl
  · cases h

/-! ### The largest group -/

/-- The operands of some nodes of one operator at the root of a node, which hang together. -/
inductive Joined (op : BoolOp) : Node → List Node → Prop where
  | operand (node : Node) : Joined op node [node]
  | join {node : Node} {left right : node.Inner} {lefts rights : List Node}
      (hnode : node.junction? = some (op, left, right)) (hleft : Joined op left.val lefts)
      (hright : Joined op right.val rights) : Joined op node (lefts ++ rights)

/-- The operands of the largest group: it has the most of them, and none is a node of the group's
operator again. -/
structure Largest (op : BoolOp) (node : Node) (operands : List Node) : Prop where
  joined : Joined op node operands
  most : ∀ others, Joined op node others → others.length ≤ operands.length
  ends : ∀ operand ∈ operands, ∀ left right, operand.junction? ≠ some (op, left, right)

def operands (op : BoolOp) (node : Node) : List Node :=
  match node.junction? with
  | some (inner, left, right) =>
    if inner = op then left.val.operands op ++ right.val.operands op else [node]
  | none => [node]
termination_by node
decreasing_by
  · exact left.property
  · exact right.property

theorem operands_junction {op : BoolOp} {left right : node.Inner}
    (h : node.junction? = some (op, left, right)) :
    node.operands op = left.val.operands op ++ right.val.operands op := by
  rw [operands, h]
  exact if_pos rfl

theorem operands_joined (op : BoolOp) (node : Node) : Joined op node (node.operands op) := by
  fun_induction operands op node with
  | case1 node left right hnode ihleft ihright => exact .join hnode ihleft ihright
  | case2 node => exact .operand node
  | case3 node => exact .operand node

theorem operands_ends (op : BoolOp) (node : Node) :
    ∀ operand ∈ node.operands op, ∀ left right, operand.junction? ≠ some (op, left, right) := by
  fun_induction operands op node with
  | case1 node left right hnode ihleft ihright => exact List.forall_mem_append.mpr ⟨ihleft, ihright⟩
  | case2 node inner left right hnode hop =>
      rw [List.forall_mem_singleton, hnode]
      rintro other another ⟨⟩
      exact hop rfl
  | case3 node hnode =>
      rw [List.forall_mem_singleton, hnode]
      simp

theorem length_operands_pos (op : BoolOp) (node : Node) : 0 < (node.operands op).length := by
  fun_induction operands op node with
  | case1 node left right hnode ihleft ihright =>
      rw [List.length_append]
      omega
  | case2 => exact Nat.one_pos
  | case3 => exact Nat.one_pos

theorem Joined.length_le {op : BoolOp} {others : List Node} (h : Joined op node others) :
    others.length ≤ (node.operands op).length := by
  induction h with
  | operand node => exact node.length_operands_pos op
  | join hnode _ _ ihleft ihright =>
      rw [operands_junction hnode, List.length_append, List.length_append]
      omega

theorem operands_largest (op : BoolOp) (node : Node) : Largest op node (node.operands op) where
  joined := node.operands_joined op
  most := fun _ h => h.length_le
  ends := node.operands_ends op

/-! ### What the reader makes of it -/

end Source.Node

def Expr.isBool : Expr → Bool
  | .bool .. => true
  | _ => false

namespace Source.Node

variable {node : Node}

theorem exists_junction {value : Expr} (hkind : node.kind = "boolean_operator")
    (h : node.readExpr = .ok value) :
    ∃ op left right, node.junction? = some (op, left, right) := by
  have hname : ExprKind.ofName? node.kind = some .booleanOperator := by
    rw [hkind]
    rfl
  rw [readExpr, readForm, hname] at h
  obtain ⟨op, hop, h⟩ := exists_of_bind_eq_ok h
  obtain ⟨left, hleft, h⟩ := exists_of_bind_eq_ok h
  obtain ⟨right, hright, -⟩ := exists_of_bind_eq_ok h
  exact ⟨op, left, right, junction?_eq_some_iff.mpr ⟨hkind, hop, hleft, hright⟩⟩

/-- Only a node of an operator with both its sides, or parentheses around something, is read as a
chain. -/
theorem readExpr_isBool_eq_false (hnode : node.junction? = none) (hwrapped : node.wrapped? = none) :
    Promises (fun value => value.isBool = false) node.readExpr := by
  have ok {value : Expr} (h : value.isBool = false) :
      Promises (fun value => value.isBool = false) (.ok value : Except ReadError Expr) :=
    .ok h
  have hempty (h : node.kind = "parenthesized_expression" ∨ node.kind = "type") :
      node.parts = [] := by
    rw [wrapped?, if_pos h] at hwrapped
    exact List.head?_eq_none_iff.mp hwrapped
  have hchain (h : node.kind = "boolean_operator") (value : Expr) : node.readExpr ≠ .ok value := by
    intro hvalue
    obtain ⟨op, left, right, hsome⟩ := exists_junction h hvalue
    rw [hnode] at hsome
    cases hsome
  rw [readExpr, readForm]
  cases hkind : ExprKind.ofName? node.kind with
  | none => exact refuse_promises _ _
  | some kind =>
    have hname := ExprKind.name_of_ofName? hkind
    cases kind with
    | integer =>
      dsimp only
      rw [readInteger]
      split
      · exact .error _
      · split
        · exact ok rfl
        · exact .error _
    | float =>
      dsimp only
      rw [readFloat]
      split
      · exact .error _
      · split
        · exact ok rfl
        · exact .error _
    | truth | falsity | nothing | identifier | keywordIdentifier => exact ok rfl
    | string | concatenatedString | list | tuple | expressionList | patternList | set | dictionary =>
      exact .next fun _ => ok rfl
    | notOperator | listSplat | listSplatPattern => exact .next fun _ => .next fun _ => ok rfl
    | binaryOperator =>
      exact .next fun _ => .next fun _ => .next fun _ => .next fun _ => .next fun _ => ok rfl
    | unaryOperator | member | subscript => exact .next fun _ => .next fun _ => .next fun _ => ok rfl
    | slice => exact .next fun _ => ok rfl
    | type =>
      simp only [part, hempty (.inr hname.symm)]
      exact .error _
    | parenthesizedExpression =>
      simp only [part, hempty (.inl hname.symm)]
      exact .error _
    | genericType =>
      dsimp only
      rw [readGenericType]
      split
      · exact .next fun _ => .next fun _ => ok rfl
      · exact .error _
    | unionType =>
      dsimp only
      rw [readUnionType]
      split
      · exact .next fun _ => .next fun _ => ok rfl
      · exact .error _
    | memberType =>
      dsimp only
      rw [readMemberType]
      split
      · exact .next fun _ => ok rfl
      · exact .error _
    | conditionalExpression =>
      dsimp only
      rw [readConditional]
      split
      · exact .next fun _ => .next fun _ => .next fun _ => ok rfl
      · exact .error _
    | comparisonOperator =>
      dsimp only
      rw [readComparison]
      refine .next fun found => ?_
      rw [Comparison.whole]
      split
      · exact .error _
      · split
        · exact ok rfl
        · exact .error _
    | booleanOperator =>
      intro value hvalue
      refine absurd ?_ (hchain hname.symm value)
      rw [readExpr, readForm, hkind]
      exact hvalue
    | call =>
      dsimp only
      rw [readCall]
      refine .next fun _ => .next fun _ => .next fun arguments => ?_
      split
      · exact refuse_promises _ _
      · exact .next fun _ => ok rfl

theorem mapM_readExpr_singleton (node : Node) :
    [node].mapM readExpr = (fun value => [value]) <$> node.readExpr := by
  rw [List.mapM_cons, List.mapM_nil]
  cases node.readExpr <;> rfl

theorem chained_of_kind_ne {op : BoolOp} {side : Node} (h : side.kind ≠ "boolean_operator")
    (value : Expr) : chained op side value = [value] := by
  cases value with
  | bool inner values => exact if_neg fun hsame => h hsame.2
  | _ => rfl

/-- A side gives the operands of its largest group. -/
theorem chained_readExpr (op : BoolOp) (side : Node) :
    chained op side <$> side.readExpr = (side.operands op).mapM readExpr := by
  fun_induction operands op side with
  | case1 side left right hnode ihleft ihright =>
      have hkind := (junction?_eq_some_iff.mp hnode).1
      rw [List.mapM_append, ← ihleft, ← ihright, readExpr_junction hnode]
      cases left.val.readExpr with
      | error fault => rfl
      | ok leftValue =>
          cases right.val.readExpr with
          | error fault => rfl
          | ok rightValue => exact congrArg Except.ok (if_pos ⟨rfl, hkind⟩)
  | case2 side inner left right hnode hop =>
      rw [mapM_readExpr_singleton, readExpr_junction hnode]
      cases left.val.readExpr with
      | error fault => rfl
      | ok leftValue =>
          cases right.val.readExpr with
          | error fault => rfl
          | ok rightValue => exact congrArg Except.ok (if_neg fun h => hop h.1)
  | case3 side hnode =>
      rw [mapM_readExpr_singleton]
      cases hread : side.readExpr with
      | error fault => rfl
      | ok value =>
          have hkind : side.kind ≠ "boolean_operator" := by
            intro h
            obtain ⟨inner, left, right, hsome⟩ := exists_junction h hread
            rw [hnode] at hsome
            cases hsome
          exact congrArg Except.ok (chained_of_kind_ne hkind value)

theorem readExpr_eq_operands {op : BoolOp} {left right : node.Inner}
    (h : node.junction? = some (op, left, right)) :
    node.readExpr = Expr.bool op <$> (node.operands op).mapM readExpr := by
  rw [operands_junction h, List.mapM_append, ← chained_readExpr, ← chained_readExpr,
    readExpr_junction h]
  cases left.val.readExpr <;> cases right.val.readExpr <;> rfl

end Source.Node

/-! ### What is asked -/

/-- The operands of a node that are no chains themselves, with or without parentheses. -/
def Source.Node.atoms (node : Node) : List Node :=
  match node.junction? with
  | some (_, left, right) => left.val.atoms ++ right.val.atoms
  | none =>
    match node.wrapped? with
    | some inner => inner.val.atoms
    | none => [node]
termination_by node
decreasing_by
  · exact left.property
  · exact right.property
  · exact inner.property

mutual

def Expr.atoms : Expr → List Expr
  | .bool _ values => Expr.atomsAll values
  | expr => [expr]

def Expr.atomsAll : List Expr → List Expr
  | [] => []
  | expr :: rest => expr.atoms ++ Expr.atomsAll rest

end

/-- The value of an operand that does not settle a chain. -/
def BoolOp.neutral : BoolOp → Bool
  | .and => true
  | .or => false

/-- A truth value, and the places of the operands that were asked for it, in order. -/
structure Evaluation where
  value : Bool
  asked : List Nat
deriving DecidableEq, Repr

namespace Evaluation

/-- The second operand is asked unless the first settles the chain. -/
def join (op : BoolOp) (first second : Evaluation) : Evaluation :=
  if first.value = op.neutral then ⟨second.value, first.asked ++ second.asked⟩ else first

def chain (op : BoolOp) (evaluations : List Evaluation) : Evaluation :=
  evaluations.foldr (join op) ⟨op.neutral, []⟩

theorem join_assoc (op : BoolOp) (a b c : Evaluation) :
    join op (join op a b) c = join op a (join op b c) := by
  unfold join
  by_cases ha : a.value = op.neutral
  · by_cases hb : b.value = op.neutral
    · simp [ha, hb]
    · simp [ha, hb]
  · simp [ha]

theorem neutral_join (op : BoolOp) (a : Evaluation) : join op ⟨op.neutral, []⟩ a = a := by
  simp [join]

theorem join_neutral (op : BoolOp) (a : Evaluation) : join op a ⟨op.neutral, []⟩ = a := by
  unfold join
  by_cases ha : a.value = op.neutral
  · simp [← ha]
  · simp [ha]

theorem chain_singleton (op : BoolOp) (a : Evaluation) : chain op [a] = a := join_neutral op a

theorem chain_append (op : BoolOp) (first second : List Evaluation) :
    chain op (first ++ second) = join op (chain op first) (chain op second) := by
  induction first with
  | nil => exact (neutral_join op _).symm
  | cons a first ih =>
      calc chain op (a :: first ++ second)
          = join op a (chain op (first ++ second)) := rfl
        _ = join op a (join op (chain op first) (chain op second)) := by rw [ih]
        _ = join op (chain op (a :: first)) (chain op second) := (join_assoc op ..).symm

end Evaluation

section Truth

-- The truth of the operands that are no chains, by their places in the source.
variable (truth : Nat → Bool)

/-- The evaluation of a node whose operands have the places from one on. -/
def Source.Node.evaluation (node : Node) (first : Nat) : Evaluation :=
  match node.junction? with
  | some (op, left, right) =>
    .join op (left.val.evaluation first) (right.val.evaluation (first + left.val.atoms.length))
  | none =>
    match node.wrapped? with
    | some inner => inner.val.evaluation first
    | none => ⟨truth first, [first]⟩
termination_by node
decreasing_by
  · exact left.property
  · exact right.property
  · exact inner.property

mutual

def Expr.evaluation : Expr → Nat → Evaluation
  | .bool op values, first => .chain op (Expr.evaluations values first)
  | _, first => ⟨truth first, [first]⟩

def Expr.evaluations : List Expr → Nat → List Evaluation
  | [], _ => []
  | expr :: rest, first =>
    expr.evaluation first :: Expr.evaluations rest (first + expr.atoms.length)

end

end Truth

theorem Expr.atomsAll_append (first second : List Expr) :
    Expr.atomsAll (first ++ second) = Expr.atomsAll first ++ Expr.atomsAll second := by
  induction first with
  | nil => simp [Expr.atomsAll]
  | cons expr first ih => simp [Expr.atomsAll, ih]

theorem Expr.evaluations_append (truth : Nat → Bool) (exprs more : List Expr) (first : Nat) :
    Expr.evaluations truth (exprs ++ more) first =
      Expr.evaluations truth exprs first ++
        Expr.evaluations truth more (first + (Expr.atomsAll exprs).length) := by
  induction exprs generalizing first with
  | nil => simp [Expr.evaluations, Expr.atomsAll]
  | cons expr exprs ih => simp [Expr.evaluations, Expr.atomsAll, ih, Nat.add_assoc]

theorem Expr.atoms_of_isBool_eq_false {expr : Expr} (h : expr.isBool = false) :
    expr.atoms = [expr] := by
  cases expr <;> first | rfl | cases h

theorem Expr.evaluation_of_isBool_eq_false (truth : Nat → Bool) {expr : Expr} (h : expr.isBool = false)
    (first : Nat) : expr.evaluation truth first = ⟨truth first, [first]⟩ := by
  cases expr <;> first | rfl | cases h

/-- A side gives its value, or the operands of a chain that is its value. -/
theorem chained_cases (op : BoolOp) (side : Node) (value : Expr) :
    chained op side value = [value] ∨ value = .bool op (chained op side value) := by
  cases value with
  | bool inner values =>
      by_cases h : inner = op ∧ side.kind = "boolean_operator"
      · exact .inr (by rw [chained, if_pos h, h.1])
      · exact .inl (if_neg h)
  | _ => exact .inl rfl

theorem atomsAll_chained (op : BoolOp) (side : Node) (value : Expr) :
    Expr.atomsAll (chained op side value) = value.atoms := by
  rcases chained_cases op side value with hone | hchain
  · simp [hone, Expr.atomsAll]
  · calc Expr.atomsAll (chained op side value)
        = (Expr.bool op (chained op side value)).atoms := by rw [Expr.atoms]
      _ = value.atoms := by rw [← hchain]

theorem chain_evaluations_chained (truth : Nat → Bool) (op : BoolOp) (side : Node) (value : Expr)
    (first : Nat) :
    Evaluation.chain op (Expr.evaluations truth (chained op side value) first) =
      value.evaluation truth first := by
  rcases chained_cases op side value with hone | hchain
  · rw [hone, Expr.evaluations, Expr.evaluations, Evaluation.chain_singleton]
  · calc Evaluation.chain op (Expr.evaluations truth (chained op side value) first)
        = (Expr.bool op (chained op side value)).evaluation truth first := by rw [Expr.evaluation]
      _ = value.evaluation truth first := by rw [← hchain]

theorem Source.Node.length_of_mapM_readExpr {nodes : List Node} {values : List Expr}
    (h : nodes.mapM Node.readExpr = .ok values) : nodes.length = values.length := by
  induction nodes generalizing values with
  | nil =>
      cases h
      rfl
  | cons node nodes ih =>
      rw [List.mapM_cons] at h
      obtain ⟨value, -, h⟩ := exists_of_bind_eq_ok h
      obtain ⟨more, hmore, h⟩ := exists_of_bind_eq_ok h
      cases h
      rw [List.length_cons, List.length_cons, ih hmore]

/-- An expression has the atoms of its node, each at its place, and asks the same of them. -/
def Expr.Follows (node : Node) (value : Expr) : Prop :=
  node.atoms.mapM Node.readExpr = .ok value.atoms ∧
    ∀ truth first, value.evaluation truth first = node.evaluation truth first

theorem Source.Node.readExpr_follows (node : Node) : Promises (Expr.Follows node) node.readExpr := by
  fun_induction Node.atoms node with
  | case1 node op left right hnode ihleft ihright =>
      rw [readExpr_junction hnode]
      refine ihleft.bind fun leftValue hleft => ihright.bind fun rightValue hright => .ok ⟨?_, ?_⟩
      · rw [atoms, hnode, List.mapM_append, hleft.1, hright.1, Expr.atoms, Expr.atomsAll_append,
          atomsAll_chained, atomsAll_chained]
        rfl
      · intro truth first
        calc (Expr.bool op (chained op left.val leftValue ++ chained op right.val rightValue)).evaluation
              truth first
            = .join op (leftValue.evaluation truth first)
                (rightValue.evaluation truth (first + leftValue.atoms.length)) := by
              rw [Expr.evaluation, Expr.evaluations_append, Evaluation.chain_append,
                chain_evaluations_chained, chain_evaluations_chained, atomsAll_chained]
          _ = .join op (left.val.evaluation truth first)
                (right.val.evaluation truth (first + left.val.atoms.length)) := by
              rw [hleft.2, hright.2, length_of_mapM_readExpr hleft.1]
          _ = node.evaluation truth first := by rw [evaluation.eq_def truth node, hnode]
  | case2 node hnode inner hwrapped ih =>
      rw [readExpr_wrapped hwrapped]
      intro value hread
      obtain ⟨hatoms, hevaluation⟩ := ih value hread
      refine ⟨?_, fun truth first => ?_⟩
      · rwa [atoms, hnode, hwrapped]
      · rw [hevaluation, evaluation.eq_def truth node, hnode, hwrapped]
  | case3 node hnode hwrapped =>
      intro value hread
      have hvalue := readExpr_isBool_eq_false hnode hwrapped value hread
      constructor
      · rw [atoms, hnode, hwrapped, Expr.atoms_of_isBool_eq_false hvalue]
        dsimp only
        rw [mapM_readExpr_singleton, hread]
        rfl
      · intro truth first
        rw [Expr.evaluation_of_isBool_eq_false truth hvalue, evaluation, hnode, hwrapped]

/-- A node of `and` or `or` is read as a chain only if it has an operator and both its sides. Then what
is read of it is the chain of what is read of the operands of the largest group of nodes with its
operator at its root, in order; and whatever the operands are worth, the chain is worth what the node
is and asks the same operands in the same order. -/
theorem bool_read_flattens (node : Node) (hkind : node.kind = "boolean_operator") :
    Promises (fun _ => ∃ op left right, node.junction? = some (op, left, right)) node.readExpr ∧
    ∀ op left right, node.junction? = some (op, left, right) →
      ∃ operands, Node.Largest op node operands ∧
        node.readExpr = Expr.bool op <$> operands.mapM Node.readExpr ∧
        ∀ value, node.readExpr = .ok value →
          node.atoms.mapM Node.readExpr = .ok value.atoms ∧
            ∀ truth first, value.evaluation truth first = node.evaluation truth first := by
  refine ⟨fun _ hvalue => Node.exists_junction hkind hvalue, fun op left right hnode => ?_⟩
  exact ⟨node.operands op, node.operands_largest op, Node.readExpr_eq_operands hnode,
    node.readExpr_follows⟩

/-- `a and (b and c) and d and (e or f)`, where every `and` but the second is in the group of the
root. -/
def groupedConjunction : Node :=
  junctionNode "and"
    (junctionNode "and" (junctionNode "and" (nameNode "a")
      (groupNode (junctionNode "and" (nameNode "b") (nameNode "c")))) (nameNode "d"))
    (groupNode (junctionNode "or" (nameNode "e") (nameNode "f")))
where
  nameNode (name : String) : Node := .construct "identifier" 0 name []
  junctionNode (op : String) (left right : Node) : Node :=
    .construct "boolean_operator" 0 (left.text ++ " " ++ op ++ " " ++ right.text)
      [left.filling "left", (Node.token 0 op).filling "operator", right.filling "right"]
  groupNode (inner : Node) : Node :=
    .construct "parenthesized_expression" 0 ("(" ++ inner.text ++ ")")
      [.token 0 "(", inner, .token 0 ")"]

theorem bool_read_flattens_groups :
    groupedConjunction.readExpr =
      .ok (.bool .and [.name "a", .bool .and [.name "b", .name "c"], .name "d",
        .bool .or [.name "e", .name "f"]]) ∧
    groupedConjunction.atoms.mapM Node.readExpr =
      .ok [.name "a", .name "b", .name "c", .name "d", .name "e", .name "f"] ∧
    ∀ truth first,
      (Expr.bool .and [.name "a", .bool .and [.name "b", .name "c"], .name "d",
          .bool .or [.name "e", .name "f"]]).evaluation truth first =
        groupedConjunction.evaluation truth first := by
  have hread : groupedConjunction.readExpr = .ok (.bool .and [.name "a",
      .bool .and [.name "b", .name "c"], .name "d", .bool .or [.name "e", .name "f"]]) := by
    cbv
  obtain ⟨hjunction, hflattens⟩ := bool_read_flattens groupedConjunction rfl
  obtain ⟨op, left, right, hsome⟩ := hjunction _ hread
  obtain ⟨_, _, _, hfollows⟩ := hflattens op left right hsome
  exact ⟨hread, hfollows _ hread⟩

end Snippet
