import Snippet.Number.Single

namespace Snippet.Layout

open Number (Single)

/-- One level of indentation: `width` copies of a character. -/
structure IndentUnit where
  width : Nat
  character : Char
deriving DecidableEq, Repr

namespace IndentUnit

def standard : IndentUnit := ⟨4, ' '⟩

/-- The number of characters that indent a level, which may lie between two whole levels. The
product is a binary32 one and is cut to a whole number, zero when it is negative. -/
def count (unit : IndentUnit) (level : Single) : Nat := (level.mul (.ofNat unit.width)).toNat

/-- The number of characters that indent a whole level moved by an offset. -/
def countAt (unit : IndentUnit) (level : Nat) (offset : Single) : Nat :=
  unit.count ((Single.ofNat level).add offset)

def indentation (unit : IndentUnit) (count : Nat) : String :=
  String.ofList (List.replicate count unit.character)

end IndentUnit

/-- A line of output. Comments keep the text they have in the snippet; the target spells them. -/
inductive Line where
  | blank
  | comment (indent : Nat) (text : String)
  | code (indent : Nat) (text : String) (tail : Option String)
deriving DecidableEq, Repr

namespace Line

/-- Indentation goes before a text that is not empty. -/
def indented (unit : IndentUnit) (indent : Nat) (text : String) : String :=
  if text = "" then "" else unit.indentation indent ++ text

/-- The text of a line with its newline; `spell` is the target's form of a comment. -/
def text (unit : IndentUnit) (spell : String → String) : Line → String
  | blank => "\n"
  | comment indent text => indented unit indent (spell text) ++ "\n"
  | code indent text none => indented unit indent text ++ "\n"
  | code indent text (some tail) => indented unit indent text ++ (" " ++ spell tail) ++ "\n"

end Line

def textOf (unit : IndentUnit) (spell : String → String) (lines : List Line) : String :=
  String.join (lines.map (Line.text unit spell))

end Snippet.Layout
