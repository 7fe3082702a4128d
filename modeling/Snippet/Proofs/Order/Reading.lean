import Mathlib.Data.List.Basic
import Snippet.Proofs.Order.Place
import Snippet.Proofs.Order.Walk
import Snippet.Proofs.Refusal.Settled
import Snippet.Proofs.WellFormed

/-!
# The reader's lines along a walk

A statement is on the line of a node: its own, that of the clause for a branch after the first, that
of the definition under decorators. So the stops of what is read follow nodes inside the node it is
read from, in their order: the first statement under an `else` is prepared for twice, a documentation
text is not prepared for, and every other stop has a node of its own.
-/

namespace Snippet

open Source (Node ReadError StatementKind Tree)
open Source.Node (Ordered nested preorderAll)

/-! ### Lines that follow nodes -/

/-- Lines in order, each of them that of a node with a text. -/
structure Follows (lines : List Nat) (nodes : List Node) : Prop where
  taken : ∀ line ∈ lines, ∃ node ∈ nodes, node.isSpan = true ∧ node.line.toNat = line
  ordered : lines.Pairwise (· ≤ ·)

namespace Follows

variable {lines part first second : List Nat} {nodes more before after : List Node} {node : Node}
  {line : Nat}

theorem nil : Follows [] nodes := ⟨by simp, .nil⟩

theorem mono (h : Follows lines nodes) (hmore : nodes ⊆ more) : Follows lines more := by
  refine ⟨fun line hline => ?_, h.ordered⟩
  obtain ⟨node, hnode, hspan, hsame⟩ := h.taken line hline
  exact ⟨node, hmore hnode, hspan, hsame⟩

theorem sublist (h : Follows lines nodes) (hpart : part.Sublist lines) : Follows part nodes :=
  ⟨fun line hline => h.taken line (hpart.subset hline), h.ordered.sublist hpart⟩

theorem append (h₁ : Follows first before) (h₂ : Follows second after)
    (hle : ∀ earlier ∈ before, ∀ later ∈ after, earlier.row ≤ later.row) :
    Follows (first ++ second) (before ++ after) := by
  refine ⟨fun line hline => ?_, List.pairwise_append.mpr ⟨h₁.ordered, h₂.ordered, ?_⟩⟩
  · rcases List.mem_append.mp hline with hfirst | hsecond
    · exact (h₁.mono (List.subset_append_left _ _)).taken line hfirst
    · exact (h₂.mono (List.subset_append_right _ _)).taken line hsecond
  · intro early hearly late hlate
    obtain ⟨earlier, hearlier, -, rfl⟩ := h₁.taken early hearly
    obtain ⟨later, hlater, -, rfl⟩ := h₂.taken late hlate
    have hrows := UInt32.le_iff_toNat_le.mp (hle earlier hearlier later hlater)
    rw [Source.Node.toNat_line, Source.Node.toNat_line]
    omega

/-- The line of a node before lines from inside it. -/
theorem cons (hspan : node.isSpan = true) (hnode : Ordered [node])
    (h : Follows lines (preorderAll node.children)) :
    Follows (node.line.toNat :: lines) node.preorder := by
  have hown : Follows [node.line.toNat] [node] :=
    ⟨by simpa using hspan, List.pairwise_singleton ..⟩
  rw [Source.Node.preorder_eq]
  refine hown.append h fun earlier hearlier => ?_
  obtain rfl := List.mem_singleton.mp hearlier
  exact hnode.row_le

theorem repeats (h : Follows (line :: lines) nodes) : Follows (line :: line :: lines) nodes := by
  refine ⟨fun other hother => ?_, List.pairwise_cons.mpr ⟨fun other hother => ?_, h.ordered⟩⟩
  · rcases List.mem_cons.mp hother with rfl | hrest
    · exact h.taken other List.mem_cons_self
    · exact h.taken other hrest
  · rcases List.mem_cons.mp hother with rfl | hrest
    · exact Nat.le_refl other
    · exact (List.pairwise_cons.mp h.ordered).1 other hrest

end Follows

/-! ### The stops of statements -/

theorem Stmt.stopsAll_eq_flatMap (stmts : List Stmt) :
    Stmt.stopsAll stmts = stmts.flatMap Stmt.stops := by
  induction stmts with
  | nil => rw [Stmt.stopsAll, List.flatMap_nil]
  | cons stmt rest ih => rw [Stmt.stopsAll, ih, List.flatMap_cons]

theorem MatchCase.stopsAll_eq_flatMap (arms : List MatchCase) :
    MatchCase.stopsAll arms = arms.flatMap MatchCase.stops := by
  induction arms with
  | nil => rw [MatchCase.stopsAll, List.flatMap_nil]
  | cons arm rest ih => rw [MatchCase.stopsAll, ih, List.flatMap_cons]

theorem Stmt.stopsUndocumented_sublist (body : List Stmt) :
    (Stmt.stopsUndocumented body).Sublist (Stmt.stopsAll body) := by
  cases body with
  | nil =>
      rw [Stmt.stopsUndocumented]
      exact List.nil_sublist _
  | cons first rest =>
      rw [Stmt.stopsUndocumented, Stmt.stopsAll]
      split
      · exact List.sublist_append_right _ _
      · exact List.Sublist.refl _

theorem Follows.undocumented {body : List Stmt} {nodes : List Node}
    (h : Follows ((Stmt.stopsAll body).map Stop.line) nodes) :
    Follows ((Stmt.stopsUndocumented body).map Stop.line) nodes :=
  h.sublist ((Stmt.stopsUndocumented_sublist body).map Stop.line)

/-- What is under an `else` is prepared for once more, unless it is one `if` alone. -/
theorem Follows.orelse {orelse : List Stmt} {nodes : List Node}
    (h : Follows ((Stmt.stopsAll orelse).map Stop.line) nodes) :
    Follows ((Stmt.stopsOrelse orelse).map Stop.line) nodes := by
  cases orelse with
  | nil =>
      rw [Stmt.stopsOrelse]
      exact .nil
  | cons first rest =>
      obtain ⟨line, kind⟩ := first
      have hothers : Follows (line.toNat :: (Stmt.stopsAll (.mk line kind :: rest)).map Stop.line)
          nodes := by
        rw [Stmt.stopsAll, Stmt.stops] at h ⊢
        exact h.repeats
      cases rest with
      | nil =>
          cases kind with
          | branch test body orelse =>
              rw [Stmt.stopsAll, Stmt.stops, StmtKind.stops, Stmt.stopsAll, List.append_nil] at h
              rwa [Stmt.stopsOrelse]
          | _ =>
              rw [Stmt.stopsOrelse]
              · exact hothers
              · simp
      | cons second more =>
          rw [Stmt.stopsOrelse]
          · exact hothers
          · simp

namespace Source.Node

/-! ### Nodes inside a node -/

theorem map_inner (node : Node) : node.inner.map (·.val) = node.children := by
  rw [inner, List.map_map]
  exact node.children.attach_map_subtype_val

theorem map_parts_sublist (node : Node) : (node.parts.map (·.val)).Sublist node.children := by
  rw [← map_inner]
  exact List.filter_sublist.map _

theorem map_fields_sublist (node : Node) (name : String) :
    ((node.fields name).map (·.val)).Sublist node.children := by
  rw [← map_inner]
  exact List.filter_sublist.map _

theorem role?_of_mem_fields {node : Node} {name : String} {inner : node.Inner}
    (h : inner ∈ node.fields name) : inner.val.role? = some name := by
  rw [fields, List.mem_filter, beq_iff_eq] at h
  exact h.2

theorem mem_children_of_mem_fields {node : Node} {name : String} {inner : node.Inner}
    (h : inner ∈ node.fields name) : inner.val ∈ node.children :=
  (node.map_fields_sublist name).subset (List.mem_map_of_mem h)

theorem field_promises (node : Node) (name : String) :
    Promises (fun inner => inner ∈ node.fields name) (node.field name) := by
  rw [field, field?]
  split
  · next inner hinner => exact .ok (List.mem_of_mem_head? hinner)
  · exact .error _

/-! ### Statements without others inside -/

theorem readAssignment_stops (node : Node) :
    Promises (fun kind => kind.stops = []) node.readAssignment := by
  rw [readAssignment]
  refine .next fun left => .next fun target => ?_
  split
  · exact .next fun value => .next fun hint => .ok rfl
  · refine .next fun right => .next fun targets => ?_
    dsimp only
    split
    · exact refuse_promises _ _
    · exact .next fun value => .ok rfl

theorem readAugmentedAssignment_stops (node : Node) :
    Promises (fun kind => kind.stops = []) node.readAugmentedAssignment :=
  .next fun _ => .next fun _ => .next fun _ => .next fun _ => .next fun _ => .ok rfl

theorem readExpressionStatement_stops (node : Node) :
    Promises (fun kind => kind.stops = []) node.readExpressionStatement := by
  rw [readExpressionStatement]
  split
  · exact .error _
  · split
    · exact readAssignment_stops _
    · exact readAugmentedAssignment_stops _
    · exact .next fun _ => .ok rfl
  · exact .next fun _ => .ok rfl

theorem readReturn_stops (node : Node) : Promises (fun kind => kind.stops = []) node.readReturn := by
  rw [readReturn]
  split
  · exact .ok rfl
  · exact .next fun _ => .ok rfl

theorem readImportFrom_stops (node : Node) :
    Promises (fun kind => kind.stops = []) node.readImportFrom := by
  rw [readImportFrom]
  refine .next fun module => ?_
  split
  · exact refuse_promises _ _
  · split
    · exact .ok rfl
    · exact .next fun _ => .ok rfl

/-! ### Statements inside a node -/

/-- What several nodes are read as, one after another, follows them. -/
theorem mapM_follows {ε α β : Type} {read : α → Except ε β} {place : α → Node}
    (stops : β → List Stop) {items : List α} (hitems : Ordered (items.map place))
    (hread : ∀ item ∈ items, Promises (fun value => Follows ((stops value).map Stop.line)
      (place item).preorder) (read item)) :
    Promises (fun values => Follows ((values.flatMap stops).map Stop.line)
      (preorderAll (items.map place))) (items.mapM read) := by
  induction items with
  | nil => exact .ok .nil
  | cons item rest ih =>
      obtain ⟨hitem, hrest⟩ := List.forall_mem_cons.mp hread
      rw [List.map_cons] at hitems
      rw [List.mapM_cons]
      refine hitem.bind fun value hvalue => ?_
      refine (ih (hitems.sublist (List.sublist_cons_self _ _)) hrest).bind fun values hvalues => .ok ?_
      rw [List.flatMap_cons, List.map_append, List.map_cons, preorderAll]
      have hrows := hitems.rows
      rw [preorderAll] at hrows
      exact hvalue.append hvalues (List.pairwise_append.mp hrows).2.2

theorem follows_of_stops {result : Except ReadError StmtKind} {nodes : List Node}
    (h : Promises (fun kind => kind.stops = []) result) :
    Promises (fun kind => Follows (kind.stops.map Stop.line) nodes) result := by
  intro kind hkind
  rw [h kind hkind]
  exact .nil

section Statements

variable {node : Node} {read : node.Inner → Except ReadError Stmt}
  -- The stops of what is read of a node inside follow the nodes in it.
  (hread : ∀ inner : node.Inner, Ordered [inner.val] →
    Promises (fun stmt => Follows (stmt.stops.map Stop.line) inner.val.preorder) (read inner))

include hread

theorem readBlock_follows {block : node.Inner} (hblock : Ordered [block.val]) :
    Promises (fun body => Follows ((Stmt.stopsAll body).map Stop.line) block.val.preorder)
      (node.readBlock read block) := by
  have hparts : Ordered (block.val.parts.map (·.val)) :=
    hblock.children.sublist block.val.map_parts_sublist
  have hbody := mapM_follows Stmt.stops hparts fun part hpart =>
    hread (block.within part) (hparts.of_mem (List.mem_map_of_mem hpart))
  intro body hbodyRead
  rw [Stmt.stopsAll_eq_flatMap]
  refine (hbody body hbodyRead).mono fun inner hinner => ?_
  exact block.val.preorderAll_children_subset
    ((preorderAll_sublist block.val.map_parts_sublist).subset hinner)

/-- A block that fills a field of the node, or of a clause inside it. -/
theorem readField_follows {outer : Node} {name : String} (within : outer.Inner → node.Inner)
    (hwithin : ∀ inner, (within inner).val = inner.val) (houter : Ordered [outer]) :
    ∀ inner ∈ outer.fields name,
      Promises (fun body => Follows ((Stmt.stopsAll body).map Stop.line) (preorderAll outer.children))
        (node.readBlock read (within inner)) := by
  intro inner hinner body hbody
  have hmem := mem_children_of_mem_fields hinner
  have hblock : Ordered [(within inner).val] := by
    rw [hwithin]
    exact houter.children.of_mem hmem
  have hfollows := readBlock_follows hread hblock body hbody
  rw [hwithin] at hfollows
  exact hfollows.mono (preorder_subset_of_mem hmem)

/-- The branches of a chain follow their clauses, and what is under its `else` comes after them. -/
theorem readAlternatives_follows {clauses : List node.Inner}
    (hclauses : Ordered (clauses.map (·.val))) :
    Promises
      (fun found => Follows ((Stmt.stopsOrelse (nested found.1 found.2)).map Stop.line)
        (preorderAll (clauses.map (·.val))))
      (node.readAlternatives read clauses) := by
  induction clauses with
  | nil =>
      refine .ok ?_
      rw [nested, Stmt.stopsOrelse]
      exact .nil
  | cons clause rest ih =>
      rw [List.map_cons] at hclauses ⊢
      have hclause : Ordered [clause.val] := hclauses.of_mem List.mem_cons_self
      have hrows := hclauses.rows
      rw [preorderAll] at hrows ⊢
      rw [readAlternatives]
      split
      · next hkind =>
          rw [readTested, bind_assoc]
          refine .next fun condition => ?_
          rw [bind_assoc]
          refine .next fun test => ?_
          rw [bind_assoc]
          refine (field_promises _ _).bind fun body hmem => ?_
          rw [bind_assoc]
          refine (readField_follows hread clause.within (fun _ => rfl) hclause body hmem).bind
            fun stmts hbody => ?_
          refine (ih (hclauses.sublist (List.sublist_cons_self _ _))).bind fun found hfound => .ok ?_
          have hspan : clause.val.isSpan = true := by
            rw [isSpan, hkind]
            decide
          rw [nested, Stmt.branch, Stmt.stopsOrelse, List.map_cons, List.map_append,
            ← List.cons_append]
          exact (hbody.cons hspan hclause).append hfound (List.pairwise_append.mp hrows).2.2
      · refine (field_promises _ _).bind fun body hmem => ?_
        refine (readField_follows hread clause.within (fun _ => rfl) hclause body hmem).bind
          fun stmts hbody => .ok ?_
        rw [nested]
        refine hbody.orelse.mono fun inner hinner => ?_
        exact List.mem_append_left _ (clause.val.preorderAll_children_subset hinner)
      · exact .error _

theorem readIf_follows (hnode : Ordered [node]) (hkind : node.kind = "if_statement") :
    Promises (fun kind => Follows (kind.stops.map Stop.line) (preorderAll node.children))
      (node.readIf read) := by
  rw [readIf]
  refine .next fun condition => .next fun test => ?_
  refine (field_promises _ _).bind fun body hbodyMem => ?_
  have hbodyChild := mem_children_of_mem_fields hbodyMem
  have hclauses := node.map_fields_sublist "alternative"
  refine (readBlock_follows hread (hnode.children.of_mem hbodyChild)).bind fun stmts hbody => ?_
  refine (readAlternatives_follows hread (hnode.children.sublist hclauses)).bind fun found hfound => ?_
  refine .ok ?_
  rw [StmtKind.stops, List.map_append]
  refine (hbody.append hfound ?_).mono ?_
  · intro earlier hearlier later hlater
    rw [preorderAll_eq_flatMap] at hlater
    obtain ⟨clause, hclause, hlater⟩ := List.mem_flatMap.mp hlater
    obtain ⟨alternative, halternative, rfl⟩ := List.mem_map.mp hclause
    exact hnode.consequence_le hkind hbodyChild (hclauses.subset hclause)
      (role?_of_mem_fields hbodyMem) (role?_of_mem_fields halternative) earlier hearlier later hlater
  · exact List.append_subset.mpr ⟨preorder_subset_of_mem hbodyChild,
      (preorderAll_sublist hclauses).subset⟩

theorem readWhile_follows (hnode : Ordered [node]) :
    Promises (fun kind => Follows (kind.stops.map Stop.line) (preorderAll node.children))
      (node.readWhile read) := by
  rw [readWhile]
  split
  · exact refuse_promises _ _
  · refine .next fun condition => .next fun test => ?_
    refine (field_promises _ _).bind fun body hmem => ?_
    refine (readField_follows hread id (fun _ => rfl) hnode body hmem).bind fun _ hbody => .ok ?_
    rwa [StmtKind.stops]

theorem readFor_follows (hnode : Ordered [node]) :
    Promises (fun kind => Follows (kind.stops.map Stop.line) (preorderAll node.children))
      (node.readFor read) := by
  rw [readFor]
  split
  · exact refuse_promises _ _
  · refine .next fun left => .next fun item => .next fun right => .next fun iter => ?_
    refine (field_promises _ _).bind fun body hmem => ?_
    refine (readField_follows hread id (fun _ => rfl) hnode body hmem).bind fun _ hbody => .ok ?_
    rwa [StmtKind.stops]

theorem readFunction_follows (hnode : Ordered [node]) (decorators : List Expr) :
    Promises (fun kind => Follows (kind.stops.map Stop.line) (preorderAll node.children))
      (node.readFunction read decorators) := by
  rw [readFunction]
  refine .next fun header => (field_promises _ _).bind fun body hmem => ?_
  refine (readField_follows hread id (fun _ => rfl) hnode body hmem).bind fun _ hbody => .ok ?_
  rw [StmtKind.stops]
  exact hbody.undocumented

theorem readClass_follows (hnode : Ordered [node]) :
    Promises (fun kind => Follows (kind.stops.map Stop.line) (preorderAll node.children))
      (node.readClass read) := by
  rw [readClass]
  refine .next fun name => .next fun bases => (field_promises _ _).bind fun body hmem => ?_
  refine (readField_follows hread id (fun _ => rfl) hnode body hmem).bind fun _ hbody => .ok ?_
  rw [StmtKind.stops]
  exact hbody.undocumented

/-- A definition under decorators is on its own line, not on that of the first decorator. -/
theorem readDecorated_follows (hnode : Ordered [node]) :
    Promises (fun stmt => Follows (stmt.stops.map Stop.line) node.preorder)
      (node.readDecorated read) := by
  rw [readDecorated]
  refine (field_promises _ _).bind fun definition hmem => .next fun decorators => ?_
  have hchild := mem_children_of_mem_fields hmem
  have hdefinition := hnode.children.of_mem hchild
  have hinside : definition.val.preorder ⊆ node.preorder :=
    List.Subset.trans (preorder_subset_of_mem hchild) node.preorderAll_children_subset
  have hreadInside : ∀ inner : definition.val.Inner, Ordered [inner.val] →
      Promises (fun stmt => Follows (stmt.stops.map Stop.line) inner.val.preorder)
        (read (definition.within inner)) :=
    fun inner => hread (definition.within inner)
  dsimp only
  split
  · next hkind =>
      refine (readFunction_follows hreadInside hdefinition decorators).bind fun kind h => .ok ?_
      rw [Stmt.stops]
      exact (h.cons (by rw [isSpan, hkind]; decide) hdefinition).mono hinside
  · next hkind =>
      refine (readClass_follows hreadInside hdefinition).bind fun kind h => .ok ?_
      rw [Stmt.stops]
      exact (h.cons (by rw [isSpan, hkind]; decide) hdefinition).mono hinside
  · exact .error _

theorem readArm_follows {clause : node.Inner} (hclause : Ordered [clause.val]) :
    Promises (fun arm => Follows (arm.stops.map Stop.line) clause.val.preorder)
      (node.readArm read clause) := by
  rw [readArm]
  split
  · exact .error _
  · next hkind =>
      split
      · exact refuse_promises _ _
      · split
        · refine .next fun pattern => (field_promises _ _).bind fun body hmem => ?_
          refine (readField_follows hread clause.within (fun _ => rfl) hclause body hmem).bind
            fun _ hbody => ?_
          refine .ok ?_
          rw [MatchCase.stops]
          exact hbody.cons (by rw [isSpan, Decidable.not_not.mp hkind]; decide) hclause
        · exact refuse_promises _ _

theorem readMatch_follows (hnode : Ordered [node]) :
    Promises (fun kind => Follows (kind.stops.map Stop.line) (preorderAll node.children))
      (node.readMatch read) := by
  rw [readMatch]
  refine .next fun subject => (field_promises _ _).bind fun body hmem => ?_
  have hchild := mem_children_of_mem_fields hmem
  have hparts := body.val.map_parts_sublist
  have hclauses : Ordered (body.val.parts.map (·.val)) :=
    (hnode.children.of_mem hchild).children.sublist hparts
  have harms := mapM_follows MatchCase.stops hclauses fun clause hclause =>
    have hordered : Ordered [(body.within clause).val] :=
      hclauses.of_mem (List.mem_map_of_mem hclause)
    readArm_follows hread hordered
  refine harms.bind fun arms h => .ok ?_
  rw [StmtKind.stops, MatchCase.stopsAll_eq_flatMap]
  refine h.mono fun inner hinner => preorder_subset_of_mem hchild ?_
  exact body.val.preorderAll_children_subset ((preorderAll_sublist hparts).subset hinner)

/-- One case for each kind of node with statements inside; the others have no stops inside. -/
theorem readKind_follows (hnode : Ordered [node]) :
    Promises (fun kind => Follows (kind.stops.map Stop.line) (preorderAll node.children))
      (node.readKind read) := by
  rw [readKind]
  cases hkind : StatementKind.ofName? node.kind with
  | none => exact .next fun _ => .ok .nil
  | some kind =>
    have hname := StatementKind.name_of_ofName? hkind
    cases kind with
    | ifStatement => exact readIf_follows hread hnode hname.symm
    | forStatement => exact readFor_follows hread hnode
    | whileStatement => exact readWhile_follows hread hnode
    | functionDefinition => exact readFunction_follows hread hnode []
    | classDefinition => exact readClass_follows hread hnode
    | matchStatement => exact readMatch_follows hread hnode
    | passStatement | breakStatement | continueStatement => exact .ok .nil
    | importStatement => exact .next fun _ => .ok .nil
    | deleteStatement => exact .next fun _ => .next fun _ => .ok .nil
    | typeAliasStatement => exact .next fun _ => .next fun _ => .next fun _ => .ok .nil
    | expressionStatement => exact follows_of_stops node.readExpressionStatement_stops
    | assignment => exact follows_of_stops node.readAssignment_stops
    | augmentedAssignment => exact follows_of_stops node.readAugmentedAssignment_stops
    | returnStatement => exact follows_of_stops node.readReturn_stops
    | importFromStatement => exact follows_of_stops node.readImportFrom_stops
    | withStatement | tryStatement | globalStatement | nonlocalStatement | raiseStatement
    | assertStatement | printStatement | execStatement | futureImportStatement =>
      exact refuse_promises _ _

omit hread in
/-- A module or a block is no statement. -/
theorem readKind_isSpan : Promises (fun _ => node.isSpan = true) (node.readKind read) := by
  intro kind hkind
  by_contra hspan
  have hname : node.kind = "module" ∨ node.kind = "block" := by
    rw [isSpan, Bool.and_eq_true, bne_iff_ne, bne_iff_ne] at hspan
    tauto
  rw [readKind, readExpr, readForm] at hkind
  rcases hname with hname | hname
  · rw [hname] at hkind
    cases hkind
  · rw [hname] at hkind
    cases hkind

theorem readStatement_follows (hnode : Ordered [node]) :
    Promises (fun stmt => Follows (stmt.stops.map Stop.line) node.preorder)
      (node.readStatement read) := by
  rw [readStatement]
  split
  · exact readDecorated_follows hread hnode
  · intro stmt hstmt
    obtain ⟨kind, hkind, hstmt⟩ := exists_of_bind_eq_ok hstmt
    obtain rfl := Except.ok.inj hstmt
    rw [Stmt.stops]
    exact (readKind_follows hread hnode kind hkind).cons (readKind_isSpan kind hkind) hnode

end Statements

theorem readStmt_follows (node : Node) (hnode : Ordered [node]) :
    Promises (fun stmt => Follows (stmt.stops.map Stop.line) node.preorder) node.readStmt := by
  rw [readStmt]
  exact readStatement_follows (fun inner hinner => inner.val.readStmt_follows hinner) hnode
termination_by node
decreasing_by exact inner.property

end Source.Node

theorem Source.Tree.read_follows {tree : Tree} (h : Ordered [tree.root]) :
    Promises (fun program => Follows (program.stops.map Stop.line) tree.root.preorder) tree.read := by
  rw [Tree.read]
  split
  · exact .error _
  · have hparts := h.children.sublist tree.root.map_parts_sublist
    have hbody := Node.mapM_follows Stmt.stops hparts fun part hpart =>
      part.val.readStmt_follows (hparts.of_mem (List.mem_map_of_mem hpart))
    refine hbody.bind fun body hfollows => .ok ?_
    rw [Program.stops, Stmt.stopsAll_eq_flatMap]
    exact hfollows.mono fun inner hinner => tree.root.preorderAll_children_subset
      ((Node.preorderAll_sublist tree.root.map_parts_sublist).subset hinner)

/-! ### Lines of a source -/

/-- Lines in order, each of them one of the source. -/
structure Ascends (last : Nat) (lines : List Nat) : Prop where
  ordered : lines.Pairwise (· ≤ ·)
  within : ∀ line ∈ lines, 1 ≤ line ∧ line ≤ last

theorem Ascends.sublist {last : Nat} {lines part : List Nat} (h : Ascends last lines)
    (hpart : part.Sublist lines) : Ascends last part :=
  ⟨h.ordered.sublist hpart, fun line hline => h.within line (hpart.subset hline)⟩

theorem Follows.ascends {source : List Char} {tree : Tree} {lines : List Nat}
    (h : Follows lines tree.root.preorder) (htree : tree.Spans source) :
    Ascends (Text.lineCount source) lines := by
  refine ⟨h.ordered, fun line hline => ?_⟩
  obtain ⟨node, hnode, hspan, rfl⟩ := h.taken line hline
  have htext : node.text.toList ≠ [] := by
    rw [ne_eq, String.toList_eq_nil_iff]
    exact htree.spans node hnode hspan
  refine ⟨?_, (htree.stands node hnode).line_le htext⟩
  rw [Node.toNat_line]
  exact Nat.le_add_left 1 _

/-- The lines that a walk over a program prepares for, one after another. -/
def Program.preparedLines (target : Target) (program : Program) : List Nat :=
  Layout.preparedLines (program.script target .outermost).steps

/-- **A walk never goes back to an earlier line.** It prepares for the lines of the stops or, where it
is rejected, for the first of them. The stops of a tree that lists its nodes in the order of their rows
are in order, and if the nodes stand in a source, each line is one of the source. -/
theorem preparedLines_ascend (target : Target) :
    (∀ program : Program, program.preparedLines target <+: program.stops.map Stop.line ∧
      ((program.script target .outermost).result = .ok () →
        program.preparedLines target = program.stops.map Stop.line)) ∧
    (∀ (tree : Tree) program, Ordered [tree.root] → tree.read = .ok program →
      (program.stops.map Stop.line).Pairwise (· ≤ ·) ∧
        (program.preparedLines target).Pairwise (· ≤ ·)) ∧
    ∀ (parser : Source.Parser) source tree program, parser.tree? source = some tree →
      tree.Spans source.toList → Program.ofSource parser source = .ok program →
        Ascends (Text.physicalLines source.toList).length (program.stops.map Stop.line) ∧
          Ascends (Text.physicalLines source.toList).length (program.preparedLines target) := by
  have hscript (program : Program) :
      program.preparedLines target <+: program.stops.map Stop.line :=
    (program.script_prepares target).first .outermost
  refine ⟨fun program => ⟨hscript program, (program.script_prepares target).all⟩, ?_, ?_⟩
  · intro tree program hordered hread
    have hstops := (Tree.read_follows hordered program hread).ordered
    exact ⟨hstops, hstops.sublist (hscript program).sublist⟩
  · intro parser source tree program htree hspans hprogram
    have hread : tree.read = .ok program := by
      rw [Program.ofSource] at hprogram
      split at hprogram
      · cases hprogram
      · rwa [htree] at hprogram
    have hstops := (Tree.read_follows hspans.ordered program hread).ascends hspans
    exact ⟨hstops, hstops.sublist (hscript program).sublist⟩

/-- A chain of branches, with a comment between two of them. -/
def elifSource : String := "if a:\n  pass\n# c\nelif b:\n  pass\nelse:\n  x = y\n"

def elifTree : Tree := ⟨root, false⟩
where
  name (row : UInt32) (text : String) : Node := .construct "identifier" row text []
  passBlock (row : UInt32) : Node :=
    .construct "block" row "pass" [.construct "pass_statement" row "pass" [.token row "pass"]]
  assignment : Node :=
    .construct "assignment" 6 "x = y"
      [(name 6 "x").filling "left", .token 6 "=", (name 6 "y").filling "right"]
  root : Node :=
    .construct "module" 0 elifSource
      [.construct "if_statement" 0 "if a:\n  pass\n# c\nelif b:\n  pass\nelse:\n  x = y"
        [.token 0 "if", (name 0 "a").filling "condition", .token 0 ":",
          (passBlock 1).filling "consequence", .construct "comment" 2 "# c" [],
          (Node.construct "elif_clause" 3 "elif b:\n  pass"
            [.token 3 "elif", (name 3 "b").filling "condition", .token 3 ":",
              (passBlock 4).filling "consequence"]).filling "alternative",
          (Node.construct "else_clause" 5 "else:\n  x = y"
            [.token 5 "else", .token 5 ":",
              (Node.construct "block" 6 "x = y" [assignment]).filling "body"]).filling
            "alternative"]]

/-- The first statement under the `else` is prepared for twice. -/
theorem preparedLines_ascend_chain :
    let parser := Source.Parser.of elifSource elifTree
    ∃ program, Program.ofSource parser elifSource = .ok program ∧
      program.preparedLines .cpp = [1, 2, 4, 5, 7, 7] ∧
      Ascends 7 (program.preparedLines .cpp) := by
  intro parser
  have htree : parser.tree? elifSource = some elifTree := Source.Parser.of_tree? _ _
  have hspans : elifTree.Spans elifSource.toList :=
    ⟨⟨by decide +kernel, by decide +kernel⟩, by decide +kernel, by decide +kernel⟩
  have hprogram : Program.ofSource parser elifSource = .ok
      ⟨[.mk 1 (.branch (.name "a") [.mk 2 .pass] [.mk 4 (.branch (.name "b") [.mk 5 .pass]
        [.mk 7 (.assign [.name "x"] (.name "y"))])])]⟩ := by
    rw [Program.ofSource_of]
    cbv
  exact ⟨_, hprogram, rfl, ((preparedLines_ascend .cpp).2.2 _ _ _ _ htree hspans hprogram).2⟩

end Snippet
