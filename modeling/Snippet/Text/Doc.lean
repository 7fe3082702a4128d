import Snippet.Text.Blank
import Snippet.Text.Lines

namespace Snippet.Text

def indentation (line : List Char) : Nat := (line.takeWhile isBlank).length

/-- The least indentation of the lines that are not blank, zero when all are. -/
def commonIndentation (lines : List (List Char)) : Nat :=
  (((lines.filter fun line => !isBlankLine line).map indentation).min?).getD 0

/-- Drops the empty lines at the start and at the end. -/
def dropOuterEmpty (lines : List (List Char)) : List (List Char) :=
  ((lines.dropWhile List.isEmpty).reverse.dropWhile List.isEmpty).reverse

/-- The lines of a documentation text: the first loses its indentation, the others the indentation
they share. -/
def docLines (text : List Char) : List (List Char) :=
  match splitLines text with
  | [] => []
  | first :: rest =>
    dropOuterEmpty (dropBlanks first :: rest.map (·.drop (commonIndentation rest)))

def cleanDoc (text : String) : List String := (docLines text.toList).map String.ofList

end Snippet.Text
