import Snippet.Layout.Step

namespace Snippet.Layout

open Number (Single)

/-- Where the braces of a block stand. -/
inductive BraceStyle where
  | kAndR
  | allman
  | whitesmiths
  | gnu
deriving DecidableEq, Repr

namespace BraceStyle

def name : BraceStyle → String
  | kAndR => "k&r"
  | allman => "allman"
  | whitesmiths => "whitesmiths"
  | gnu => "gnu"

def ofName? : String → Option BraceStyle
  | "k&r" | "kr" | "knr" => some kAndR
  | "allman" => some allman
  | "whitesmiths" => some whitesmiths
  | "gnu" => some gnu
  | _ => none

/-- How many levels a brace on a line of its own stands in from the header; no offset when the
brace ends the header's line. -/
def ownLineOffset : BraceStyle → Option Single
  | kAndR => none
  | allman => some .zero
  | whitesmiths => some .one
  | gnu => some .half

def opening (style : BraceStyle) (header : String) : List Step :=
  match style.ownLineOffset with
  | none => [.line (header ++ " \x7b")]
  | some offset => [.line header, .code "\x7b" false offset, .skipBlank]

/-- Closes a block and opens the next of its chain. -/
def middle (style : BraceStyle) (header : String) : List Step :=
  match style.ownLineOffset with
  | none => [.line ("\x7d " ++ header ++ " \x7b")]
  | some offset =>
    [.skipBlank, .code "\x7d" true offset, .code header false .zero, .code "\x7b" false offset,
      .skipBlank]

def closing (style : BraceStyle) (closer : String) : List Step :=
  match style.ownLineOffset with
  | none => [.line closer]
  | some offset => [.code closer true offset]

def ending (style : BraceStyle) : List Step := style.closing "\x7d"

end BraceStyle

end Snippet.Layout
