import Snippet.Python.Token

namespace Snippet.Python

/-- The indentation of a line after one more blank at its front. -/
def indentAfter (indent : Nat) (c : Char) : Nat :=
  match c with
  | ' ' => indent + 1
  | '\t' => indent + 8
  | '\r' | '\x0c' => 0
  | _ => indent

/-- The number of open brackets after one more lexeme. -/
def depthAfter (depth : Nat) : Lexeme → Nat
  | .mark "(" | .mark "[" | .mark "\x7b" => depth + 1
  | .mark ")" | .mark "]" | .mark "\x7d" => depth - 1
  | _ => depth

/-- Whether the expression of an interpolated part ends at the front of a text. -/
def endsInterpolation : List Char → Bool
  | '\x7d' :: _ | ':' :: _ => true
  | '!' :: rest => rest.head? != some '='
  | _ => false

/-- The text after a conversion such as `!r`. -/
def dropConversion : List Char → List Char
  | '!' :: c :: rest => if 'a' ≤ c ∧ c ≤ 'z' then rest else '!' :: c :: rest
  | text => text

/-- A token, after the start of its line when it is the first of one. -/
def tokensAt (indent : Option Nat) (row : Nat) (rest : List Char) (lexeme : Lexeme) : List Token :=
  match indent with
  | some indent => [.mk row rest (.lineStart indent), .mk row rest lexeme]
  | none => [.mk row rest lexeme]

/-! The functions below give the tokens they find, and the row and the text after them. -/

mutual

/-- The tokens of a text through its end or, in a string, through the expression of an interpolated
part. The indentation is known only from the start of a line to its first token. -/
def scan : Nat → Bool → Nat → Option Nat → Nat → List Char →
    Option (List Token × Nat × List Char)
  | 0, _, _, _, _, _ => none
  | fuel + 1, inString, depth, indent, row, text =>
    match text with
    | [] => if inString then none else some ([], row, [])
    | '\n' :: rest =>
      scan fuel inString depth (if depth = 0 && !inString then some 0 else indent) (row + 1) rest
    | '\\' :: '\n' :: rest => scan fuel inString depth indent (row + 1) rest
    | '\\' :: '\r' :: '\n' :: rest => scan fuel inString depth indent (row + 1) rest
    | '#' :: rest => scan fuel inString depth indent row (rest.dropWhile (· != '\n'))
    | c :: rest =>
      if isSpace c then scan fuel inString depth (indent.map (indentAfter · c)) row rest
      else if inString && depth == 0 && endsInterpolation text then some ([], row, text)
      else
        match Opening.ofText? text with
        | some (opening, rest) => do
          let (interpolations, next, rest) ← scanString fuel opening row rest
          let written := String.ofList (text.take (text.length - rest.length))
          let (tokens, next, rest) ← scan fuel inString depth none next rest
          return (tokensAt indent row text (.string written interpolations) ++ tokens, next, rest)
        | none => do
          let (lexeme, rest) ← plainLexeme? text
          let (tokens, next, rest) ← scan fuel inString (depthAfter depth lexeme) none row rest
          return (tokensAt indent row text lexeme ++ tokens, next, rest)
termination_by structural fuel => fuel

/-- The interpolated parts of a string whose opening comes before the text. -/
def scanString : Nat → Opening → Nat → List Char → Option (List (List Token) × Nat × List Char)
  | 0, _, _, _ => none
  | fuel + 1, opening, row, text =>
    match Text.rest? opening.delimiter text with
    | some rest => some ([], row, rest)
    | none =>
      match opening.piece? text with
      | some (piece, rest) => scanString fuel opening (row + piece.count '\n') rest
      | none =>
        match text with
        | '\x7b' :: rest => do
          let (first, row, rest) ← scanInterpolation fuel row rest
          let (more, row, rest) ← scanString fuel opening row rest
          return (first ++ more, row, rest)
        | _ => none

/-- The tokens of an interpolated part whose opening brace comes before the text, and of those in
its format. -/
def scanInterpolation : Nat → Nat → List Char → Option (List (List Token) × Nat × List Char)
  | 0, _, _ => none
  | fuel + 1, row, text => do
    let (tokens, row, rest) ← scan fuel true 0 none row text
    match dropConversion rest with
    | '\x7d' :: rest => return ([tokens], row, rest)
    | ':' :: rest =>
      let (nested, row, rest) ← scanFormat fuel row rest
      return (tokens :: nested, row, rest)
    | _ => failure

/-- The interpolated parts of a format whose colon comes before the text. -/
def scanFormat : Nat → Nat → List Char → Option (List (List Token) × Nat × List Char)
  | 0, _, _ => none
  | fuel + 1, row, text =>
    match text with
    | '\x7d' :: rest => some ([], row, rest)
    | '\x7b' :: rest => do
      let (first, row, rest) ← scanInterpolation fuel row rest
      let (more, row, rest) ← scanFormat fuel row rest
      return (first ++ more, row, rest)
    | c :: rest => if c = '\n' then none else scanFormat fuel row rest
    | [] => none

end

/-- The tokens of a source, unless it holds something that is none. -/
def tokens? (source : List Char) : Option (List Token) :=
  (scan (2 * source.length + 2) false 0 (some 0) 0 source).map (·.1)

end Snippet.Python
