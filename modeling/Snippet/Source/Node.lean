import Snippet.Source.Error

namespace Snippet.Source

/-- A node of a parse tree. A named node is a construct of the grammar, another one a token. It starts
on a row of the source, counted from zero, and spans a text of it. -/
structure Node where
  kind : String
  named : Bool
  /-- The field of the parent that the node fills. -/
  role? : Option String
  row : UInt32
  text : String
  children : List Node
deriving Repr

structure Tree where
  root : Node
  /-- Whether the source breaks the grammar anywhere. -/
  hasError : Bool
deriving Repr

/-- A parser of sources. The reader takes whatever tree it gives. -/
structure Parser where
  /-- Why it cannot be set up, if it cannot. -/
  fault? : Option String
  tree? : String → Option Tree

namespace Node

variable {node : Node}

/-! ### Nodes from their parts -/

def construct (kind : String) (row : UInt32) (text : String) (children : List Node) : Node :=
  ⟨kind, true, none, row, text, children⟩

/-- A token on its own, whose kind is its text. -/
def token (row : UInt32) (text : String) : Node := ⟨text, false, none, row, text, []⟩

/-- The node as what fills a field of its parent. -/
def filling (role : String) (node : Node) : Node := { node with role? := some role }

/-! ### Nodes inside a node -/

/-- A node somewhere inside another one. -/
abbrev Inner (node : Node) := { inner : Node // sizeOf inner < sizeOf node }

theorem sizeOf_lt_of_mem_children {child : Node} (h : child ∈ node.children) :
    sizeOf child < sizeOf node := by
  obtain ⟨kind, named, role?, row, text, children⟩ := node
  have hlt : sizeOf child < sizeOf children := List.sizeOf_lt_of_mem h
  rw [mk.sizeOf_spec]
  omega

/-- A node inside an inner node. -/
def Inner.within (outer : node.Inner) (inner : outer.val.Inner) : node.Inner :=
  ⟨inner.val, Nat.lt_trans inner.property outer.property⟩

def inner (node : Node) : List node.Inner :=
  node.children.attach.map fun child => ⟨child.val, sizeOf_lt_of_mem_children child.property⟩

/-- Whether a child is a part of its parent: comments stand anywhere between the parts. -/
def isPart (node : Node) : Bool := node.named && node.kind != "comment"

def parts (node : Node) : List node.Inner := node.inner.filter (·.val.isPart)

def fields (node : Node) (name : String) : List node.Inner :=
  node.inner.filter (·.val.role? == some name)

def field? (node : Node) (name : String) : Option node.Inner := (node.fields name).head?

def field (node : Node) (name : String) : Except ReadError node.Inner :=
  match node.field? name with
  | some inner => .ok inner
  | none => .error (.missing node.kind name)

/-- The first part. -/
def part (node : Node) (gap : Gap) : Except ReadError node.Inner :=
  match node.parts with
  | first :: _ => .ok first
  | [] => .error (.incomplete gap)

def line (node : Node) : UInt64 := node.row.toUInt64 + 1

def refuse {α : Type} (node : Node) (refusal : Refusal) : Except ReadError α :=
  .error (.refused refusal node.line node.kind)

end Node

end Snippet.Source
