namespace Snippet.Render

/-- Nested scopes of declared names with the text of their types, the innermost first, each with its
latest declaration first. The outermost scope is always there. -/
structure ScopeStack where
  inner : List (List (String × String))
  outermost : List (String × String)
deriving DecidableEq, Repr

namespace ScopeStack

def empty : ScopeStack := ⟨[], []⟩

def depth (scopes : ScopeStack) : Nat := scopes.inner.length + 1

def push (scopes : ScopeStack) : ScopeStack := { scopes with inner := [] :: scopes.inner }

/-- Leaves the innermost scope; the outermost one stays. -/
def pop (scopes : ScopeStack) : ScopeStack := { scopes with inner := scopes.inner.tail }

def declare (scopes : ScopeStack) (name type : String) : ScopeStack :=
  match scopes.inner with
  | [] => { scopes with outermost := (name, type) :: scopes.outermost }
  | scope :: rest => { scopes with inner := ((name, type) :: scope) :: rest }

def lookup? (scopes : ScopeStack) (name : String) : Option String :=
  (scopes.inner ++ [scopes.outermost]).findSome? (·.lookup name)

/-- The type of the nearest declaration of a name, empty when there is none. -/
def lookup (scopes : ScopeStack) (name : String) : String := (scopes.lookup? name).getD ""

end ScopeStack

/-- What surrounds the node that is rendered: the declarations in sight, the class whose body it
stands in directly, and whether it stands anywhere inside a class. `refusedPops` counts how often a
scope was to be left when only the outermost one was there. -/
structure Surroundings where
  scopes : ScopeStack
  className : Option String
  inClass : Bool
  refusedPops : Nat
deriving DecidableEq, Repr

namespace Surroundings

def outermost : Surroundings := ⟨.empty, none, false, 0⟩

def pushScope (around : Surroundings) : Surroundings := { around with scopes := around.scopes.push }

def popScope (around : Surroundings) : Surroundings :=
  { around with
    scopes := around.scopes.pop
    refusedPops := if around.scopes.depth = 1 then around.refusedPops + 1 else around.refusedPops }

def declare (around : Surroundings) (name type : String) : Surroundings :=
  { around with scopes := around.scopes.declare name type }

/-- Goes into a block, which is a class body when a class name is given. -/
def enter (around : Surroundings) (className : Option String) : Surroundings :=
  { around with className, inClass := around.inClass || className.isSome }

/-- Comes out of a block into what surrounded it; declarations stay. -/
def leave (around before : Surroundings) : Surroundings :=
  { around with className := before.className, inClass := before.inClass }

end Surroundings

end Snippet.Render
