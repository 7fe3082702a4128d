import Snippet.Comment.Scan
import Snippet.Render.Rendering
import Snippet.Settings.Basic
import Snippet.Source.Statement

namespace Snippet

open Comment (Record)
open Layout (IndentUnit)
open Render (Rejection)

/-- A snippet and its text in each target that it was rendered in, by the target's name. -/
structure Samples where
  source : String
  rendered : List (String × String)
deriving DecidableEq, Repr

inductive SampleError where
  | settings (fault : SettingsError)
  | read (fault : Source.ReadError)
  | rejected (rejection : Rejection)

/-- A program in each of some targets, or the first rejection. -/
def Program.renderAll (targets : List Target) (unit : IndentUnit) (records : List Record)
    (program : Program) : Except Rejection (List (String × String)) :=
  targets.mapM fun target => do
    let rendering ← program.render target unit records
    return (target.name, rendering.text)

namespace Samples

/-- A source in some targets, by the tree that a parser makes of it. -/
def ofSource (parser : Source.Parser) (targets : List Target) (unit : IndentUnit)
    (source : String) : Except SampleError Samples := do
  let program ← (Program.ofSource parser source).mapError .read
  let rendered ← (program.renderAll targets unit (Comment.scan source)).mapError .rejected
  return ⟨source, rendered⟩

/-- A source in the targets that settings choose. -/
def ofSettings (parser : Source.Parser) (settings : Settings) (source : String) :
    Except SampleError Samples := do
  let targets ← settings.chosenTargets.mapError .settings
  ofSource parser targets settings.indent source

/-- The text in a target, or in the language of the source itself. -/
def get? (samples : Samples) (name : String) : Option String :=
  if name = sourceName then some samples.source else samples.rendered.lookup name

end Samples

end Snippet
