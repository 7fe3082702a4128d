import Snippet.Layout.Step
import Snippet.Render.Rejection
import Snippet.Render.Scope

namespace Snippet.Render

open Layout (Step)

/-- What came of rendering a node: its value or its rejection, what surrounds the next node, and the
script written so far, also when the node was rejected. -/
structure Outcome (α : Type) where
  result : Except Rejection α
  around : Surroundings
  steps : List Step

/-- A computation that writes a script. -/
def Script (α : Type) : Type := Surroundings → Outcome α

namespace Script

protected def pure (a : α) : Script α := fun around => ⟨.ok a, around, []⟩

protected def bind (first : Script α) (next : α → Script β) : Script β := fun around =>
  match first around with
  | ⟨.ok a, between, steps⟩ =>
    let last := next a between
    ⟨last.result, last.around, steps ++ last.steps⟩
  | ⟨.error rejection, between, steps⟩ => ⟨.error rejection, between, steps⟩

instance : Monad Script where
  pure := Script.pure
  bind := Script.bind

def surroundings : Script Surroundings := fun around => ⟨.ok around, around, []⟩

def emit (steps : List Step) : Script Unit := fun around => ⟨.ok (), around, steps⟩

def declare (name type : String) : Script Unit := fun around =>
  ⟨.ok (), around.declare name type, []⟩

def text (render : Surroundings → Except Rejection α) : Script α := fun around =>
  ⟨render around, around, []⟩

/-- What a target makes of a node of a script, or the node's rejection. -/
def emit? (target : Target) (node : RejectedNode) : Option (List Step) → Script Unit
  | some steps => emit steps
  | none => fun around => ⟨.error ⟨target, node⟩, around, []⟩

/-- As `emit?`, for what also changes the surroundings. -/
def begin? (target : Target) (node : RejectedNode)
    (form : Surroundings → Option (Surroundings × List Step)) : Script Unit := fun around =>
  match form around with
  | some (inside, steps) => ⟨.ok (), inside, steps⟩
  | none => ⟨.error ⟨target, node⟩, around, []⟩

/-- Runs inside a scope of its own, which is left also after a rejection. -/
def inScope (body : Script α) : Script α := fun around =>
  let outcome := body around.pushScope
  { outcome with around := outcome.around.popScope }

/-- Runs one level deeper, in the body of a class when one is named. The level and the class are
left also after a rejection. -/
def indented (className : Option String) (body : Script α) : Script α := fun around =>
  let outcome := body (around.enter className)
  ⟨outcome.result, outcome.around.leave around, .indent :: (outcome.steps ++ [.dedent])⟩

def block (className : Option String) (body : Script α) : Script α :=
  indented className (inScope body)

end Script

end Snippet.Render
