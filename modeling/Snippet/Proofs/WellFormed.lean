import Snippet.Source.Statement
import Snippet.Tree.Invariant

/-!
# Every tree that is read is well-formed

A result keeps a promise when its value does, if it has one. Promises of the parts that are read one
after the other make the promise of the whole. So what is read of a node is well-formed as soon as
what is read of the nodes inside it is, whatever kinds, fields and children the nodes have, and by
induction on its size every tree of nodes is read as a well-formed program or not at all.
-/

namespace Snippet

open Source (Node ReadError)

/-! ### Promises -/

/-- A result that is good if it is a value. -/
def Promises {ε α : Type} (Good : α → Prop) (result : Except ε α) : Prop :=
  ∀ a, result = .ok a → Good a

namespace Promises

variable {ε α β : Type} {Good : α → Prop} {Better : β → Prop}

theorem ok {a : α} (h : Good a) : Promises Good (.ok a : Except ε α) := fun _ ha =>
  Except.ok.inj ha ▸ h

theorem error (fault : ε) : Promises Good (.error fault : Except ε α) := fun _ ha => by cases ha

theorem bind {first : Except ε α} {next : α → Except ε β} (h₁ : Promises Good first)
    (h₂ : ∀ a, Good a → Promises Better (next a)) : Promises Better (first >>= next) := by
  cases first with
  | error fault => exact error fault
  | ok a => exact h₂ a (h₁ a rfl)

/-- What comes after anything at all. -/
theorem next {first : Except ε α} {next : α → Except ε β} (h : ∀ a, Promises Better (next a)) :
    Promises Better (first >>= next) := by
  have hany : Promises (fun _ => True) first := fun _ _ => trivial
  exact hany.bind fun a _ => h a

theorem mapM {read : β → Except ε α} {items : List β}
    (h : ∀ item ∈ items, Promises Good (read item)) :
    Promises (fun values => ∀ value ∈ values, Good value) (items.mapM read) := by
  induction items with
  | nil => exact ok (by simp)
  | cons item rest ih =>
      obtain ⟨hitem, hrest⟩ := List.forall_mem_cons.mp h
      rw [List.mapM_cons]
      exact hitem.bind fun value hvalue => (ih hrest).bind fun values hvalues =>
        ok (List.forall_mem_cons.mpr ⟨hvalue, hvalues⟩)

/-- What each step keeps, a run of them keeps. -/
theorem foldlM {step : α → β → Except ε α} {items : List β} {start : α} (hstart : Good start)
    (hstep : ∀ a, Good a → ∀ item, Promises Good (step a item)) :
    Promises Good (items.foldlM step start) := by
  induction items generalizing start with
  | nil => exact ok hstart
  | cons item rest ih =>
      rw [List.foldlM_cons]
      exact (hstep start hstart item).bind fun a ha => ih ha

end Promises

theorem Source.Node.refuse_promises {α : Type} {Good : α → Prop} (node : Node)
    (refusal : Source.Refusal) : Promises Good (node.refuse refusal) :=
  .error _

namespace Source.Node

/-! ### Expressions -/

section Expressions

variable {node : Node} {read : node.Inner → Except ReadError Expr}

theorem joined_wellFormed {values : List Expr} (h : ∀ value ∈ values, value.wellFormed = true) :
    (joined values).wellFormed = true := by
  rw [joined.eq_def]
  split
  · exact h _ List.mem_cons_self
  · rw [Expr.wellFormed]
    exact (Expr.wellFormedAll_iff _).mpr h

theorem readInteger_wellFormed (line : UInt64) (text : String) :
    Promises (fun expr => expr.wellFormed = true) (readInteger line text) := by
  rw [readInteger]
  split
  · exact .error _
  · split
    · exact .ok (by rw [Expr.wellFormed])
    · exact .error _

theorem readFloat_wellFormed (line : UInt64) (text : String) :
    Promises (fun expr => expr.wellFormed = true) (readFloat line text) := by
  rw [readFloat]
  split
  · exact .error _
  · split
    · exact .ok (by rw [Expr.wellFormed])
    · exact .error _

/-- The operands and the operators of a comparison are well-formed up to any of its children. -/
def Comparison.WellFormed (found : Comparison) : Prop :=
  ∀ operand ∈ found.operands, operand.wellFormed = true

/-- A comparison is made only where its guard has found the operands and operators in step. -/
theorem Comparison.whole_wellFormed {found : Comparison} (h : found.WellFormed) :
    Promises (fun expr => expr.wellFormed = true) found.whole := by
  rw [Comparison.whole]
  split
  · exact .error _
  · next hguard =>
      split
      · next left comparators hoperands =>
          rw [WellFormed, hoperands, List.forall_mem_cons] at h
          rw [hoperands, List.length_cons] at hguard
          simp only [Bool.or_eq_true, decide_eq_true_eq, bne_iff_ne, ne_eq, not_or,
            Decidable.not_not] at hguard
          refine .ok ?_
          simp only [Expr.wellFormed, Bool.and_eq_true, decide_eq_true_eq, beq_iff_eq,
            Expr.wellFormedAll_iff]
          exact ⟨⟨by omega, by omega⟩, h⟩
      · exact .error _

theorem chained_wellFormed (op : BoolOp) (side : Node) {value : Expr}
    (h : value.wellFormed = true) :
    1 ≤ (chained op side value).length ∧
      ∀ operand ∈ chained op side value, operand.wellFormed = true := by
  rw [chained.eq_def]
  split
  · next inner values =>
      split
      · simp only [Expr.wellFormed, Bool.and_eq_true, decide_eq_true_eq, Expr.wellFormedAll_iff] at h
        exact ⟨by omega, h.2⟩
      · exact ⟨Nat.le_refl 1, by simpa using h⟩
  · exact ⟨Nat.le_refl 1, by simpa using h⟩

-- What is read of the nodes inside is well-formed.
variable (hread : ∀ inner, Promises (fun expr => expr.wellFormed = true) (read inner))

include hread

theorem readAll_wellFormed (nodes : List node.Inner) :
    Promises (fun values => ∀ value ∈ values, value.wellFormed = true) (nodes.mapM read) :=
  .mapM fun inner _ => hread inner

theorem readGenericType_wellFormed :
    Promises (fun expr => expr.wellFormed = true) (node.readGenericType read) := by
  rw [readGenericType]
  split
  · next base params _ =>
      refine (Promises.mapM fun arg _ => hread (params.within arg)).bind fun args hargs => ?_
      refine (hread base).bind fun value hvalue => .ok ?_
      rw [Expr.wellFormed, hvalue, joined_wellFormed hargs]
      rfl
  · exact .error _

theorem readUnionType_wellFormed :
    Promises (fun expr => expr.wellFormed = true) (node.readUnionType read) := by
  rw [readUnionType]
  split
  · next left right _ =>
      refine (hread left).bind fun _ hleft => (hread right).bind fun _ hright => .ok ?_
      rw [Expr.wellFormed, hleft, hright]
      rfl
  · exact .error _

theorem readMemberType_wellFormed :
    Promises (fun expr => expr.wellFormed = true) (node.readMemberType read) := by
  rw [readMemberType]
  split
  · next object member _ => exact (hread object).bind fun _ h => .ok (by rwa [Expr.wellFormed])
  · exact .error _

theorem readBinary_wellFormed :
    Promises (fun expr => expr.wellFormed = true) (node.readBinary read) := by
  rw [readBinary]
  refine .next fun op => .next fun left => (hread left).bind fun _ hleft => ?_
  refine .next fun right => (hread right).bind fun _ hright => .ok ?_
  rw [Expr.wellFormed, hleft, hright]
  rfl

theorem readUnary_wellFormed :
    Promises (fun expr => expr.wellFormed = true) (node.readUnary read) := by
  rw [readUnary]
  refine .next fun op => .next fun operand => (hread operand).bind fun _ h => .ok ?_
  rwa [Expr.wellFormed]

theorem Comparison.add_wellFormed {found : Comparison} (h : found.WellFormed) (child : node.Inner) :
    Promises Comparison.WellFormed (found.add read child) := by
  rw [Comparison.add]
  split
  · exact .ok h
  · split
    · refine .next fun ops => (hread child).bind fun value hvalue => .ok ?_
      rw [WellFormed, List.forall_mem_append, List.forall_mem_singleton]
      exact ⟨h, hvalue⟩
    · exact .ok h

theorem readComparison_wellFormed :
    Promises (fun expr => expr.wellFormed = true) (node.readComparison read) := by
  have hstart : Comparison.WellFormed ⟨[], [], []⟩ := by simp [Comparison.WellFormed]
  have hfound : Promises Comparison.WellFormed
      (node.inner.foldlM (Comparison.add read) ⟨[], [], []⟩) :=
    .foldlM hstart fun found h child => Comparison.add_wellFormed hread h child
  rw [readComparison]
  exact hfound.bind fun found h => Comparison.whole_wellFormed h

/-- Either side of a chain gives an operand at least. -/
theorem readChain_wellFormed :
    Promises (fun expr => expr.wellFormed = true) (node.readChain read) := by
  rw [readChain]
  refine .next fun op => .next fun left => .next fun right => ?_
  refine (hread left).bind fun _ hleft => (hread right).bind fun _ hright => .ok ?_
  obtain ⟨hfirst, hlefts⟩ := chained_wellFormed op left.val hleft
  obtain ⟨hsecond, hrights⟩ := chained_wellFormed op right.val hright
  simp only [Expr.wellFormed, Bool.and_eq_true, decide_eq_true_eq, List.length_append,
    Expr.wellFormedAll_iff]
  exact ⟨by omega, List.forall_mem_append.mpr ⟨hlefts, hrights⟩⟩

theorem readArgument_wellFormed (arg : node.Inner) :
    Promises (fun expr => expr.wellFormed = true) (node.readArgument read arg) := by
  rw [readArgument]
  split
  · exact refuse_promises _ _
  · exact refuse_promises _ _
  · exact hread arg

theorem readCall_wellFormed :
    Promises (fun expr => expr.wellFormed = true) (node.readCall read) := by
  rw [readCall]
  refine .next fun func => (hread func).bind fun _ hfunc => .next fun arguments => ?_
  split
  · exact refuse_promises _ _
  · refine (Promises.mapM fun arg _ => readArgument_wellFormed hread _).bind fun _ hargs => .ok ?_
    rw [Expr.wellFormed, hfunc, (Expr.wellFormedAll_iff _).mpr hargs]
    rfl

theorem readJoined_wellFormed (name : String) (gap : Gap) :
    Promises (fun expr => expr.wellFormed = true) (node.readJoined read name gap) := by
  rw [readJoined]
  split
  · exact .error _
  · exact (readAll_wellFormed hread _).bind fun _ h => .ok (joined_wellFormed h)

theorem readSubscript_wellFormed :
    Promises (fun expr => expr.wellFormed = true) (node.readSubscript read) := by
  rw [readSubscript]
  refine .next fun value => (hread value).bind fun _ hvalue => ?_
  refine (readJoined_wellFormed hread _ _).bind fun _ hindex => .ok ?_
  rw [Expr.wellFormed, hvalue, hindex]
  rfl

omit hread in
/-- The parts of a slice are well-formed up to any of its children. -/
def SliceParts.WellFormed (found : SliceParts) : Prop :=
  Expr.wellFormedOptional found.lower = true ∧ Expr.wellFormedOptional found.upper = true ∧
    Expr.wellFormedOptional found.step = true

theorem SliceParts.add_wellFormed {found : SliceParts} (h : found.WellFormed) (child : node.Inner) :
    Promises SliceParts.WellFormed (found.add read child) := by
  obtain ⟨hlower, hupper, hstep⟩ := h
  rw [SliceParts.add]
  split
  · exact .ok ⟨hlower, hupper, hstep⟩
  · split
    · split
      · exact (hread child).bind fun _ hvalue => .ok ⟨hvalue, hupper, hstep⟩
      · exact (hread child).bind fun _ hvalue => .ok ⟨hlower, hvalue, hstep⟩
      · exact (hread child).bind fun _ hvalue => .ok ⟨hlower, hupper, hvalue⟩
      · exact .ok ⟨hlower, hupper, hstep⟩
    · exact .ok ⟨hlower, hupper, hstep⟩

theorem readSlice_wellFormed :
    Promises (fun expr => expr.wellFormed = true) (node.readSlice read) := by
  have hstart : SliceParts.WellFormed ⟨0, none, none, none⟩ := ⟨rfl, rfl, rfl⟩
  have hfound : Promises SliceParts.WellFormed
      (node.inner.foldlM (SliceParts.add read) ⟨0, none, none, none⟩) :=
    .foldlM hstart fun found h child => SliceParts.add_wellFormed hread h child
  rw [readSlice]
  refine hfound.bind fun found ⟨hlower, hupper, hstep⟩ => .ok ?_
  rw [Expr.wellFormed, hlower, hupper, hstep]
  rfl

theorem readEntry_wellFormed (entry : node.Inner) :
    Promises (fun pair => pair.1.wellFormed = true ∧ pair.2.wellFormed = true)
      (node.readEntry read entry) := by
  rw [readEntry]
  split
  · exact refuse_promises _ _
  · refine .next fun key => (hread _).bind fun _ hkey => ?_
    exact .next fun value => (hread _).bind fun _ hvalue => .ok ⟨hkey, hvalue⟩

theorem readConditional_wellFormed :
    Promises (fun expr => expr.wellFormed = true) (node.readConditional read) := by
  rw [readConditional]
  split
  · next body test orelse _ =>
      refine (hread test).bind fun _ htest => (hread body).bind fun _ hbody => ?_
      refine (hread orelse).bind fun _ horelse => .ok ?_
      rw [Expr.wellFormed, htest, hbody, horelse]
      rfl
  · exact .error _

/-- One case for each kind of node; a node of another kind is refused. -/
theorem readForm_wellFormed :
    Promises (fun expr => expr.wellFormed = true) (node.readForm read) := by
  have hall := readAll_wellFormed hread node.parts
  rw [readForm]
  cases ExprKind.ofName? node.kind with
  | none => exact refuse_promises _ _
  | some kind =>
    cases kind with
    | integer => exact readInteger_wellFormed _ _
    | float => exact readFloat_wellFormed _ _
    | string | concatenatedString => exact .next fun _ => .ok (by rw [Expr.wellFormed])
    | truth | falsity | nothing | identifier | keywordIdentifier =>
      exact .ok (by rw [Expr.wellFormed])
    | type | parenthesizedExpression => exact .next hread
    | genericType => exact readGenericType_wellFormed hread
    | unionType => exact readUnionType_wellFormed hread
    | memberType => exact readMemberType_wellFormed hread
    | binaryOperator => exact readBinary_wellFormed hread
    | comparisonOperator => exact readComparison_wellFormed hread
    | booleanOperator => exact readChain_wellFormed hread
    | unaryOperator => exact readUnary_wellFormed hread
    | notOperator | listSplat | listSplatPattern =>
      exact .next fun inner => (hread inner).bind fun _ h => .ok (by rwa [Expr.wellFormed])
    | call => exact readCall_wellFormed hread
    | member =>
      refine .next fun object => (hread object).bind fun _ h => .next fun _ => .ok ?_
      rwa [Expr.wellFormed]
    | subscript => exact readSubscript_wellFormed hread
    | slice => exact readSlice_wellFormed hread
    | list | tuple | expressionList | patternList | set =>
      exact hall.bind fun _ h => .ok (by rwa [Expr.wellFormed, Expr.wellFormedAll_iff])
    | dictionary =>
      refine (Promises.mapM fun entry _ => readEntry_wellFormed hread entry).bind fun _ h => .ok ?_
      rwa [Expr.wellFormed, Expr.wellFormedPairs_iff]
    | conditionalExpression => exact readConditional_wellFormed hread

end Expressions

theorem readExpr_wellFormed (node : Node) :
    Promises (fun expr => expr.wellFormed = true) node.readExpr := by
  rw [readExpr]
  exact readForm_wellFormed fun inner => inner.val.readExpr_wellFormed
termination_by node
decreasing_by exact inner.property

theorem readTarget_wellFormed (node : Node) :
    Promises (fun expr => expr.wellFormed = true) node.readTarget := by
  have hitems : Promises (fun values => ∀ value ∈ values, value.wellFormed = true)
      (node.parts.mapM fun item => item.val.readTarget) :=
    .mapM fun item _ => item.val.readTarget_wellFormed
  rw [readTarget]
  split
  · exact hitems.bind fun _ h => .ok (by rwa [Expr.wellFormed, Expr.wellFormedAll_iff])
  · split
    · exact hitems.bind fun _ h => .ok (by rwa [Expr.wellFormed, Expr.wellFormedAll_iff])
    · split
      · refine .next fun inner => inner.val.readTarget_wellFormed.bind fun _ h => .ok ?_
        rwa [Expr.wellFormed]
      · exact node.readExpr_wellFormed
termination_by node
decreasing_by
  · exact item.property
  · exact inner.property

/-! ### Statements without statements inside -/

theorem readTargets_wellFormed (right : Node) :
    Promises (fun found => ∀ target ∈ found.1, target.wellFormed = true) right.readTargets := by
  rw [readTargets]
  split
  · split
    · exact refuse_promises _ _
    · refine .next fun left => left.val.readTarget_wellFormed.bind fun _ htarget => ?_
      refine .next fun inner => inner.val.readTargets_wellFormed.bind fun _ hmore => .ok ?_
      exact List.forall_mem_cons.mpr ⟨htarget, hmore⟩
  · exact .ok (by simp)
termination_by right
decreasing_by exact inner.property

theorem readOptional_wellFormed (node : Node) (name : String) :
    Promises (fun expr => Expr.wellFormedOptional expr = true) (node.readOptional name) := by
  rw [readOptional]
  split
  · next inner _ => exact inner.val.readExpr_wellFormed.bind fun _ h => .ok h
  · exact .ok rfl

/-- An assignment has its first target at least. -/
theorem readAssignment_wellFormed (node : Node) :
    Promises (fun kind => kind.wellFormed = true) node.readAssignment := by
  rw [readAssignment]
  refine .next fun left => left.val.readTarget_wellFormed.bind fun target htarget => ?_
  split
  · next hint _ =>
      refine (node.readOptional_wellFormed _).bind fun _ hvalue => ?_
      refine hint.val.readExpr_wellFormed.bind fun _ hhint => .ok ?_
      rw [StmtKind.wellFormed, htarget, hhint, hvalue]
      rfl
  · refine .next fun right => (readTargets_wellFormed _).bind fun ⟨more, value⟩ hmore => ?_
    dsimp only
    split
    · exact refuse_promises _ _
    · refine (readExpr_wellFormed _).bind fun _ hvalue => .ok ?_
      have hall : Expr.wellFormedAll (target :: more) = true :=
        (Expr.wellFormedAll_iff _).mpr (List.forall_mem_cons.mpr ⟨htarget, hmore⟩)
      rw [StmtKind.wellFormed, hall, hvalue, List.length_cons]
      simp

theorem readAugmentedAssignment_wellFormed (node : Node) :
    Promises (fun kind => kind.wellFormed = true) node.readAugmentedAssignment := by
  rw [readAugmentedAssignment]
  refine .next fun op => .next fun left => left.val.readTarget_wellFormed.bind fun _ htarget => ?_
  refine .next fun right => right.val.readExpr_wellFormed.bind fun _ hvalue => .ok ?_
  rw [StmtKind.wellFormed, htarget, hvalue]
  rfl

theorem readExpressionStatement_wellFormed (node : Node) :
    Promises (fun kind => kind.wellFormed = true) node.readExpressionStatement := by
  rw [readExpressionStatement]
  split
  · exact .error _
  · next only _ =>
      split
      · exact only.val.readAssignment_wellFormed
      · exact only.val.readAugmentedAssignment_wellFormed
      · exact only.val.readExpr_wellFormed.bind fun _ h => .ok (by rwa [StmtKind.wellFormed])
  · refine (Promises.mapM fun item _ => readExpr_wellFormed _).bind fun _ h => .ok ?_
    rwa [StmtKind.wellFormed, Expr.wellFormed, Expr.wellFormedAll_iff]

/-- The annotation and the default of a parameter are well-formed where it has them. -/
theorem readParameter_wellFormed (node : Node) :
    Promises
      (fun own => Expr.wellFormedOptional own.1.hint = true ∧
        Expr.wellFormedOptional own.2 = true)
      node.readParameter := by
  rw [readParameter]
  split
  · exact .ok ⟨rfl, rfl⟩
  · split
    · split
      · exact .next fun type => type.val.readExpr_wellFormed.bind fun _ hhint => .ok ⟨hhint, rfl⟩
      · exact refuse_promises _ _
    · exact refuse_promises _ _
  · refine .next fun name => ?_
    split
    · exact refuse_promises _ _
    · exact .next fun value => value.val.readExpr_wellFormed.bind fun _ h => .ok ⟨rfl, h⟩
  · refine .next fun name => .next fun type => type.val.readExpr_wellFormed.bind fun _ hhint => ?_
    exact .next fun value => value.val.readExpr_wellFormed.bind fun _ h => .ok ⟨hhint, h⟩
  · exact refuse_promises _ _

/-- A parameter comes with one default at most. -/
theorem readParameters_wellFormed (nodes : List Node) :
    Promises
      (fun found => found.2.length ≤ found.1.length ∧
        (∀ param ∈ found.1, Expr.wellFormedOptional param.hint = true) ∧
        ∀ default ∈ found.2, default.wellFormed = true)
      (readParameters nodes) := by
  induction nodes with
  | nil => exact .ok ⟨Nat.le_refl 0, by simp, by simp⟩
  | cons node rest ih =>
      rw [readParameters]
      refine node.readParameter_wellFormed.bind fun own ⟨hhint, hdefault⟩ => ?_
      refine ih.bind fun found ⟨hlength, hhints, hdefaults⟩ => .ok ?_
      obtain ⟨param, default⟩ := own
      refine ⟨?_, List.forall_mem_cons.mpr ⟨hhint, hhints⟩, ?_⟩
      · rw [List.length_append, List.length_cons]
        cases default with
        | none =>
            rw [Option.toList_none, List.length_nil]
            omega
        | some value =>
            rw [Option.toList_some, List.length_singleton]
            omega
      · cases default with
        | none => exact hdefaults
        | some value => exact List.forall_mem_cons.mpr ⟨hdefault, hdefaults⟩

theorem readHeader_wellFormed (node : Node) {decorators : List Expr}
    (hdecorators : ∀ decorator ∈ decorators, decorator.wellFormed = true) :
    Promises (fun header => header.wellFormed = true) (node.readHeader decorators) := by
  rw [readHeader]
  refine .next fun name => (readParameters_wellFormed _).bind fun found hfound => ?_
  obtain ⟨hlength, hhints, hdefaults⟩ := hfound
  refine (node.readOptional_wellFormed _).bind fun _ hreturns => .ok ?_
  rw [FunctionHeader.wellFormed, decide_eq_true hlength, List.all_eq_true.mpr hhints,
    (Expr.wellFormedAll_iff _).mpr hdefaults, hreturns, (Expr.wellFormedAll_iff _).mpr hdecorators]
  rfl

theorem dottedPattern_wellFormed (names : List String) :
    Promises (fun expr => expr.wellFormedPattern = true) (dottedPattern names) := by
  rw [dottedPattern.eq_def]
  split
  · exact .error _
  · exact .ok rfl
  · exact .ok (Expr.foldl_member_wellFormed _ (by rw [Expr.wellFormed]))

theorem readPattern_wellFormed (node : Node) :
    Promises (fun expr => expr.wellFormedPattern = true) node.readPattern := by
  rw [readPattern]
  split
  · exact .ok rfl
  · next inner _ _ =>
      have hinner := inner.val.readExpr_wellFormed
      split
      · exact dottedPattern_wellFormed _
      · refine hinner.bind fun _ h => .ok ?_
        rw [Expr.wellFormedPattern]
        split
        · rwa [Expr.wellFormed]
        · exact h
      · refine hinner.bind fun _ h => .ok ?_
        rw [Expr.wellFormedPattern]
        split
        · rwa [Expr.wellFormed]
        · exact h
      · exact hinner.bind fun _ h => .ok h
      · exact hinner.bind fun _ h => .ok h
      · exact hinner.bind fun _ h => .ok h
      · exact hinner.bind fun _ h => .ok h
      · exact hinner.bind fun _ h => .ok h
      · exact refuse_promises _ _

theorem readImportFrom_wellFormed (node : Node) :
    Promises (fun kind => kind.wellFormed = true) node.readImportFrom := by
  rw [readImportFrom]
  refine .next fun module => ?_
  split
  · exact refuse_promises _ _
  · split
    · exact .ok (by rw [StmtKind.wellFormed])
    · exact .next fun _ => .ok (by rw [StmtKind.wellFormed])

theorem deleted_wellFormed {value : Expr} (h : value.wellFormed = true) :
    Expr.wellFormedAll (deleted value) = true := by
  rw [deleted.eq_def]
  split
  · rwa [Expr.wellFormed] at h
  · rw [Expr.wellFormedAll, h]
    rfl

theorem readDelete_wellFormed (node : Node) :
    Promises (fun kind => kind.wellFormed = true) node.readDelete := by
  rw [readDelete]
  refine .next fun target => target.val.readExpr_wellFormed.bind fun _ h => .ok ?_
  rw [StmtKind.wellFormed, deleted_wellFormed h]

theorem readTypeAlias_wellFormed (node : Node) :
    Promises (fun kind => kind.wellFormed = true) node.readTypeAlias := by
  rw [readTypeAlias]
  refine .next fun parts => parts.1.val.readExpr_wellFormed.bind fun _ hname => ?_
  refine parts.2.val.readExpr_wellFormed.bind fun _ hvalue => .ok ?_
  rw [StmtKind.wellFormed, hname, hvalue]
  rfl

theorem readReturn_wellFormed (node : Node) :
    Promises (fun kind => kind.wellFormed = true) node.readReturn := by
  rw [readReturn]
  split
  · exact .ok (by rw [StmtKind.wellFormed, Expr.wellFormedOptional])
  · refine (readExpr_wellFormed _).bind fun _ h => .ok ?_
    rwa [StmtKind.wellFormed, Expr.wellFormedOptional]

theorem readBases_wellFormed (node : Node) :
    Promises (fun bases => ∀ base ∈ bases, base.wellFormed = true) node.readBases := by
  rw [readBases]
  split
  · refine .mapM fun base _ => ?_
    rw [readBase]
    split
    · exact refuse_promises _ _
    · exact readExpr_wellFormed _
  · exact .ok (by simp)

theorem readDecorators_wellFormed (node : Node) :
    Promises (fun decorators => ∀ decorator ∈ decorators, decorator.wellFormed = true)
      node.readDecorators := by
  rw [readDecorators]
  refine .mapM fun part _ => ?_
  rw [readDecorator]
  exact .next fun inner => readExpr_wellFormed _

/-! ### Statements -/

theorem nested_wellFormed {elifs : List TestedBody} {orelse : List Stmt}
    (helifs : ∀ clause ∈ elifs,
      clause.test.wellFormed = true ∧ ∀ stmt ∈ clause.body, stmt.wellFormed = true)
    (horelse : ∀ stmt ∈ orelse, stmt.wellFormed = true) :
    ∀ stmt ∈ nested elifs orelse, stmt.wellFormed = true := by
  induction elifs with
  | nil => exact horelse
  | cons clause rest ih =>
      obtain ⟨⟨htest, hbody⟩, hrest⟩ := List.forall_mem_cons.mp helifs
      obtain ⟨line, test, body⟩ := clause
      rw [nested, List.forall_mem_singleton, Stmt.wellFormed_branch, htest,
        (Stmt.wellFormedAll_iff _).mpr hbody, (Stmt.wellFormedAll_iff _).mpr (ih hrest)]
      rfl

section Statements

variable {node : Node} {read : node.Inner → Except ReadError Stmt}
  (hread : ∀ inner, Promises (fun stmt => stmt.wellFormed = true) (read inner))

include hread

theorem readBlock_wellFormed (block : node.Inner) :
    Promises (fun body => ∀ stmt ∈ body, stmt.wellFormed = true) (node.readBlock read block) :=
  .mapM fun stmt _ => hread (block.within stmt)

theorem readTested_wellFormed (clause : node.Inner) :
    Promises
      (fun tested => tested.test.wellFormed = true ∧ ∀ stmt ∈ tested.body, stmt.wellFormed = true)
      (node.readTested read clause) := by
  rw [readTested]
  refine .next fun condition => condition.val.readExpr_wellFormed.bind fun _ htest => ?_
  exact .next fun body => (readBlock_wellFormed hread _).bind fun _ hbody => .ok ⟨htest, hbody⟩

theorem readAlternatives_wellFormed (clauses : List node.Inner) :
    Promises
      (fun found => (∀ clause ∈ found.1,
          clause.test.wellFormed = true ∧ ∀ stmt ∈ clause.body, stmt.wellFormed = true) ∧
        ∀ stmt ∈ found.2, stmt.wellFormed = true)
      (node.readAlternatives read clauses) := by
  induction clauses with
  | nil => exact .ok (by simp)
  | cons clause rest ih =>
      rw [readAlternatives]
      split
      · refine (readTested_wellFormed hread clause).bind fun _ htested => ?_
        refine ih.bind fun found ⟨helifs, horelse⟩ => .ok ⟨?_, horelse⟩
        exact List.forall_mem_cons.mpr ⟨htested, helifs⟩
      · refine .next fun body => (readBlock_wellFormed hread _).bind fun _ hbody => .ok ?_
        exact ⟨by simp, hbody⟩
      · exact .error _

theorem readIf_wellFormed : Promises (fun kind => kind.wellFormed = true) (node.readIf read) := by
  rw [readIf]
  refine .next fun condition => condition.val.readExpr_wellFormed.bind fun _ htest => ?_
  refine .next fun body => (readBlock_wellFormed hread _).bind fun _ hbody => ?_
  refine (readAlternatives_wellFormed hread _).bind fun found ⟨helifs, horelse⟩ => .ok ?_
  rw [StmtKind.wellFormed, htest, (Stmt.wellFormedAll_iff _).mpr hbody,
    (Stmt.wellFormedAll_iff _).mpr (nested_wellFormed helifs horelse)]
  rfl

theorem readWhile_wellFormed : Promises (fun kind => kind.wellFormed = true) (node.readWhile read) := by
  rw [readWhile]
  split
  · exact refuse_promises _ _
  · refine .next fun condition => condition.val.readExpr_wellFormed.bind fun _ htest => ?_
    refine .next fun body => (readBlock_wellFormed hread _).bind fun _ hbody => .ok ?_
    rw [StmtKind.wellFormed, htest, (Stmt.wellFormedAll_iff _).mpr hbody]
    rfl

theorem readFor_wellFormed : Promises (fun kind => kind.wellFormed = true) (node.readFor read) := by
  rw [readFor]
  split
  · exact refuse_promises _ _
  · refine .next fun left => left.val.readTarget_wellFormed.bind fun _ hitem => ?_
    refine .next fun right => right.val.readExpr_wellFormed.bind fun _ hiter => ?_
    refine .next fun body => (readBlock_wellFormed hread _).bind fun _ hbody => .ok ?_
    rw [StmtKind.wellFormed, hitem, hiter, (Stmt.wellFormedAll_iff _).mpr hbody]
    rfl

theorem readFunction_wellFormed {decorators : List Expr}
    (hdecorators : ∀ decorator ∈ decorators, decorator.wellFormed = true) :
    Promises (fun kind => kind.wellFormed = true) (node.readFunction read decorators) := by
  rw [readFunction]
  refine (node.readHeader_wellFormed hdecorators).bind fun _ hheader => ?_
  refine .next fun body => (readBlock_wellFormed hread _).bind fun _ hbody => .ok ?_
  rw [StmtKind.wellFormed, hheader, (Stmt.wellFormedAll_iff _).mpr hbody]
  rfl

theorem readClass_wellFormed : Promises (fun kind => kind.wellFormed = true) (node.readClass read) := by
  rw [readClass]
  refine .next fun name => node.readBases_wellFormed.bind fun _ hbases => ?_
  refine .next fun body => (readBlock_wellFormed hread _).bind fun _ hbody => .ok ?_
  rw [StmtKind.wellFormed, (Expr.wellFormedAll_iff _).mpr hbases,
    (Stmt.wellFormedAll_iff _).mpr hbody]
  rfl

theorem readDecorated_wellFormed :
    Promises (fun stmt => stmt.wellFormed = true) (node.readDecorated read) := by
  rw [readDecorated]
  refine .next fun definition => node.readDecorators_wellFormed.bind fun _ hdecorators => ?_
  have hinside : ∀ inner : definition.val.Inner,
      Promises (fun stmt => stmt.wellFormed = true) (read (definition.within inner)) :=
    fun inner => hread _
  split
  · exact (readFunction_wellFormed hinside hdecorators).bind fun _ h => .ok (by rwa [Stmt.wellFormed])
  · exact (readClass_wellFormed hinside).bind fun _ h => .ok (by rwa [Stmt.wellFormed])
  · exact .error _

theorem readArm_wellFormed (clause : node.Inner) :
    Promises (fun arm => arm.wellFormed = true) (node.readArm read clause) := by
  rw [readArm]
  split
  · exact .error _
  · split
    · exact refuse_promises _ _
    · split
      · next pattern _ =>
          refine pattern.val.readPattern_wellFormed.bind fun _ hpattern => ?_
          refine .next fun body => (readBlock_wellFormed hread _).bind fun _ hbody => .ok ?_
          rw [MatchCase.wellFormed, hpattern, (Stmt.wellFormedAll_iff _).mpr hbody]
          rfl
      · exact refuse_promises _ _

theorem readMatch_wellFormed : Promises (fun kind => kind.wellFormed = true) (node.readMatch read) := by
  rw [readMatch]
  refine (readJoined_wellFormed (fun inner => inner.val.readExpr_wellFormed) _ _).bind ?_
  refine fun _ hsubject => .next fun body => ?_
  refine (Promises.mapM fun clause _ => readArm_wellFormed hread _).bind fun _ harms => .ok ?_
  rw [StmtKind.wellFormed, hsubject, (MatchCase.wellFormedAll_iff _).mpr harms]
  rfl

/-- One case for each kind of node; a node of another kind is read as an expression. -/
theorem readKind_wellFormed : Promises (fun kind => kind.wellFormed = true) (node.readKind read) := by
  rw [readKind]
  cases StatementKind.ofName? node.kind with
  | none => exact node.readExpr_wellFormed.bind fun _ h => .ok (by rwa [StmtKind.wellFormed])
  | some kind =>
    cases kind with
    | expressionStatement => exact node.readExpressionStatement_wellFormed
    | assignment => exact node.readAssignment_wellFormed
    | augmentedAssignment => exact node.readAugmentedAssignment_wellFormed
    | ifStatement => exact readIf_wellFormed hread
    | forStatement => exact readFor_wellFormed hread
    | whileStatement => exact readWhile_wellFormed hread
    | returnStatement => exact node.readReturn_wellFormed
    | passStatement | breakStatement | continueStatement =>
      exact .ok (by rw [StmtKind.wellFormed])
    | functionDefinition => exact readFunction_wellFormed hread (by simp)
    | classDefinition => exact readClass_wellFormed hread
    | matchStatement => exact readMatch_wellFormed hread
    | importStatement => exact .next fun _ => .ok (by rw [StmtKind.wellFormed])
    | importFromStatement => exact node.readImportFrom_wellFormed
    | deleteStatement => exact node.readDelete_wellFormed
    | typeAliasStatement => exact node.readTypeAlias_wellFormed
    | withStatement | tryStatement | globalStatement | nonlocalStatement | raiseStatement
    | assertStatement | printStatement | execStatement | futureImportStatement =>
      exact refuse_promises _ _

theorem readStatement_wellFormed :
    Promises (fun stmt => stmt.wellFormed = true) (node.readStatement read) := by
  rw [readStatement]
  split
  · exact readDecorated_wellFormed hread
  · exact (readKind_wellFormed hread).bind fun _ h => .ok (by rwa [Stmt.wellFormed])

end Statements

theorem readStmt_wellFormed (node : Node) :
    Promises (fun stmt => stmt.wellFormed = true) node.readStmt := by
  rw [readStmt]
  exact readStatement_wellFormed fun inner => inner.val.readStmt_wellFormed
termination_by node
decreasing_by exact inner.property

end Source.Node

theorem Source.Tree.read_wellFormed (tree : Source.Tree) :
    Promises (fun program => program.wellFormed = true) tree.read := by
  rw [Source.Tree.read]
  split
  · exact .error _
  · rw [Source.Node.readStmts]
    refine (Promises.mapM fun stmt _ => stmt.val.readStmt_wellFormed).bind fun body hbody => .ok ?_
    exact (Stmt.wellFormedAll_iff body).mpr hbody

end Snippet
