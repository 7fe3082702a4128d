import Mathlib.Data.List.Flatten
import Mathlib.Data.List.Pairwise
import Snippet.Source.Statement
import Snippet.Text.Lines

/-!
# Where the nodes of a tree stand

A parser gives the nodes of a tree in the order of the source, each with the text that it spans and
the row that it starts on. These are promises about the tree and its source alone. The reader is not in
them, and neither are the lines of what is read.
-/

namespace Snippet

/-! ### Counting lines -/

namespace Text

def lineCount (text : List Char) : Nat := (physicalLines text).length

theorem lineCount_newline (rest : List Char) : lineCount ('\n' :: rest) = lineCount rest + 1 := by
  rw [lineCount, physicalLines, splitLines, lineCount, physicalLines]
  cases h : splitLines rest with
  | nil => exact absurd h (splitLines_ne_nil rest)
  | cons line lines => simp [closeLines]

theorem lineCount_cons {c : Char} (h : c ≠ '\n') (rest : List Char) :
    lineCount (c :: rest) = max 1 (lineCount rest) := by
  rw [lineCount, physicalLines, splitLines, lineCount, physicalLines]
  · cases hlines : splitLines rest with
    | nil => exact absurd hlines (splitLines_ne_nil rest)
    | cons line lines =>
        cases lines with
        | nil => cases line <;> simp [closeLines]
        | cons second more =>
            simp only [closeLines, List.length_cons]
            omega
  · exact h

theorem lineCount_pos {text : List Char} (h : text ≠ []) : 1 ≤ lineCount text := by
  cases text with
  | nil => exact absurd rfl h
  | cons c rest =>
      by_cases hc : c = '\n'
      · rw [hc, lineCount_newline]
        omega
      · rw [lineCount_cons hc]
        omega

theorem count_newline_add_lineCount_le (piece rest : List Char) :
    piece.count '\n' + lineCount rest ≤ lineCount (piece ++ rest) := by
  induction piece with
  | nil => simp
  | cons c piece ih =>
      rw [List.cons_append]
      by_cases hc : c = '\n'
      · rw [hc, List.count_cons_self, lineCount_newline]
        omega
      · rw [List.count_cons_of_ne hc, lineCount_cons hc]
        omega

end Text

namespace Source.Node

variable {node : Node} {nodes part : List Node}

/-! ### Nodes in the order of the source -/

mutual

/-- A node, and what is inside it from left to right. -/
def preorder : Node → List Node
  | .mk kind named role? row text children =>
    .mk kind named role? row text children :: preorderAll children

def preorderAll : List Node → List Node
  | [] => []
  | node :: rest => preorder node ++ preorderAll rest

end

theorem preorder_eq (node : Node) : node.preorder = node :: preorderAll node.children := by
  cases node
  rw [preorder]

theorem preorderAll_eq_flatMap (nodes : List Node) : preorderAll nodes = nodes.flatMap preorder := by
  induction nodes with
  | nil => rfl
  | cons node rest ih => rw [preorderAll, ih, List.flatMap_cons]

theorem mem_preorder_self (node : Node) : node ∈ node.preorder := by
  rw [preorder_eq]
  exact List.mem_cons_self

theorem preorderAll_children_subset (node : Node) : preorderAll node.children ⊆ node.preorder := by
  rw [preorder_eq]
  exact List.subset_cons_self ..

theorem preorder_subset_of_mem (h : node ∈ nodes) : node.preorder ⊆ preorderAll nodes := by
  rw [preorderAll_eq_flatMap]
  exact fun inner hinner => List.mem_flatMap.mpr ⟨node, h, hinner⟩

theorem preorderAll_sublist (h : part.Sublist nodes) :
    (preorderAll part).Sublist (preorderAll nodes) := by
  rw [preorderAll_eq_flatMap, preorderAll_eq_flatMap]
  exact h.flatMap _

theorem preorder_row_le_of_pairwise {first second : Node}
    (h : (preorderAll [first, second]).Pairwise fun before after => before.row ≤ after.row) :
    ∀ before ∈ first.preorder, ∀ after ∈ second.preorder, before.row ≤ after.row := by
  rw [preorderAll, preorderAll, preorderAll, List.append_nil] at h
  exact (List.pairwise_append.mp h).2.2

/-- Rows do not go up from one node to the next, and the statements of an `if` come before the clauses
of its chain. -/
structure Ordered (nodes : List Node) : Prop where
  rows : (preorderAll nodes).Pairwise fun first second => first.row ≤ second.row
  branches : ∀ node ∈ preorderAll nodes, node.kind = "if_statement" →
    node.children.Pairwise fun first second =>
      second.role? = some "consequence" → first.role? ≠ some "alternative"

namespace Ordered

theorem sublist (h : Ordered nodes) (hpart : part.Sublist nodes) : Ordered part where
  rows := h.rows.sublist (preorderAll_sublist hpart)
  branches := fun node hnode => h.branches node ((preorderAll_sublist hpart).subset hnode)

theorem of_mem (h : Ordered nodes) (hnode : node ∈ nodes) : Ordered [node] :=
  h.sublist (List.singleton_sublist.mpr hnode)

theorem children (h : Ordered [node]) : Ordered node.children := by
  have hrows := h.rows
  have hbranches := h.branches
  rw [preorderAll, preorderAll, List.append_nil, preorder_eq] at hrows hbranches
  exact ⟨(List.pairwise_cons.mp hrows).2, fun inner hinner =>
    hbranches inner (List.mem_cons_of_mem _ hinner)⟩

theorem row_le (h : Ordered [node]) : ∀ inner ∈ preorderAll node.children, node.row ≤ inner.row := by
  have hrows := h.rows
  rw [preorderAll, preorderAll, List.append_nil, preorder_eq] at hrows
  exact (List.pairwise_cons.mp hrows).1

/-- Where one node stands before another, all of it does. -/
theorem pairwise (h : Ordered nodes) :
    nodes.Pairwise fun first second =>
      ∀ before ∈ first.preorder, ∀ after ∈ second.preorder, before.row ≤ after.row := by
  rw [List.pairwise_iff_forall_sublist]
  intro first second hpair
  exact preorder_row_le_of_pairwise (h.sublist hpair).rows

theorem rel_or_rel_of_pairwise {α : Type} {R : α → α → Prop} {items : List α}
    (h : items.Pairwise R) {a b : α} (ha : a ∈ items) (hb : b ∈ items) (hne : a ≠ b) :
    R a b ∨ R b a := by
  have : Std.Symm fun x y => R x y ∨ R y x := ⟨fun _ _ => Or.symm⟩
  exact (h.imp fun {_ _} hab => Or.inl hab : items.Pairwise fun x y => R x y ∨ R y x).forall ha hb hne

/-- The statements of an `if` stand before each clause of its chain. -/
theorem consequence_le (h : Ordered [node]) (hkind : node.kind = "if_statement")
    {body clause : Node} (hbody : body ∈ node.children) (hclause : clause ∈ node.children)
    (hbodyRole : body.role? = some "consequence")
    (hclauseRole : clause.role? = some "alternative") :
    ∀ before ∈ body.preorder, ∀ after ∈ clause.preorder, before.row ≤ after.row := by
  have hne : body ≠ clause := by
    rintro rfl
    rw [hbodyRole] at hclauseRole
    exact absurd hclauseRole (by decide)
  have hnode : node ∈ preorderAll [node] :=
    preorder_subset_of_mem List.mem_cons_self node.mem_preorder_self
  have hboth := h.children.pairwise.and (h.branches node hnode hkind)
  -- Of the two orders that they can stand in, the roles rule out the one with the clause in front.
  rcases rel_or_rel_of_pairwise hboth hbody hclause hne with h | h
  · exact h.1
  · exact absurd hclauseRole (h.2 hbodyRole)

end Ordered

/-! ### Nodes in the text of the source -/

/-- The text of a node stands in a source on the row of the node. -/
def StandsIn (source : List Char) (node : Node) : Prop :=
  ∃ start ≤ source.length, node.text.toList <+: source.drop start ∧
    (source.take start).count '\n' = node.row.toNat

instance (source : List Char) (node : Node) : Decidable (node.StandsIn source) :=
  inferInstanceAs (Decidable (∃ start ≤ source.length, _ ∧ _))

theorem StandsIn.exists_append {source : List Char} (h : node.StandsIn source) :
    ∃ before after, source = before ++ (node.text.toList ++ after) ∧
      before.count '\n' = node.row.toNat := by
  obtain ⟨start, -, ⟨after, hafter⟩, hrow⟩ := h
  exact ⟨source.take start, after, by rw [hafter, List.take_append_drop], hrow⟩

/-- Only a module and a block can be without a text. -/
def isSpan (node : Node) : Bool := node.kind != "module" && node.kind != "block"

theorem toNat_line (node : Node) : node.line.toNat = node.row.toNat + 1 := by
  have hrow := node.row.toNat_lt
  rw [line, UInt64.toNat_add, UInt32.toNat_toUInt64]
  exact Nat.mod_eq_of_lt (by
    change node.row.toNat + 1 < 2 ^ 64
    omega)

/-- A text that stands in a source starts on one of its lines. -/
theorem StandsIn.line_le {source : List Char} (h : node.StandsIn source)
    (htext : node.text.toList ≠ []) : node.line.toNat ≤ Text.lineCount source := by
  obtain ⟨before, after, rfl, hrow⟩ := h.exists_append
  have hpos : 1 ≤ Text.lineCount (node.text.toList ++ after) :=
    Text.lineCount_pos (by simp [htext])
  have hle := Text.count_newline_add_lineCount_le before (node.text.toList ++ after)
  rw [toNat_line, ← hrow]
  omega

end Source.Node

/-- A tree as a parser makes it of a source: its nodes stand in the order of the source, each with a
text of the source. -/
structure Source.Tree.Spans (source : List Char) (tree : Source.Tree) : Prop where
  ordered : Source.Node.Ordered [tree.root]
  stands : ∀ node ∈ tree.root.preorder, node.StandsIn source
  spans : ∀ node ∈ tree.root.preorder, node.isSpan = true → node.text ≠ ""

/-- The parser of one source. -/
def Source.Parser.of (source : String) (tree : Source.Tree) : Source.Parser where
  fault? := none
  tree? := fun other => if other = source then some tree else none

theorem Source.Parser.of_tree? (source : String) (tree : Source.Tree) :
    (Source.Parser.of source tree).tree? source = some tree :=
  if_pos rfl

theorem Program.ofSource_of (source : String) (tree : Source.Tree) :
    Program.ofSource (.of source tree) source = tree.read := by
  rw [Program.ofSource, Source.Parser.of_tree?]
  rfl

end Snippet
