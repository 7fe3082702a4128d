import Snippet.Proofs.Brackets
import Snippet.Proofs.Formula.Token
import Snippet.Proofs.Lexing

/-!
# The header of a counting loop as C-family languages read it

A reader takes the code of a header, without comments, and cuts what stands between its parentheses
into three parts and each part at its loosest operator. Only what stands outside all brackets and
strings is cut. The operators that bind more tightly than the shifts are not told apart, since no
part is cut at one of them.
-/

namespace Snippet.Loop

open Formula (longestSign?)
open Text (dropBlanks isBlank)

/-! ### Levels -/

/-! The levels at which the operators of C bind, the loosest first. -/

namespace Level

def separation : Nat := 0

def assignment : Nat := 1

def conditional : Nat := 2

def disjunction : Nat := 3

def conjunction : Nat := 4

def bitOr : Nat := 5

def bitXor : Nat := 6

def bitAnd : Nat := 7

def equality : Nat := 8

def relation : Nat := 9

def shift : Nat := 10

/-- The level of everything from sums to signs before an operand. -/
def arithmetic : Nat := 11

def access : Nat := 12

/-- The level of what is no operator. -/
def primary : Nat := 13

end Level

def signLevels : List (String × Nat) :=
  [(";", Level.separation), (",", Level.separation), ("=", Level.assignment),
    ("+=", Level.assignment), ("-=", Level.assignment), ("*=", Level.assignment),
    ("/=", Level.assignment), ("%=", Level.assignment), ("<<=", Level.assignment),
    (">>=", Level.assignment), ("&=", Level.assignment), ("^=", Level.assignment),
    ("|=", Level.assignment), ("?", Level.conditional), (":", Level.conditional),
    ("||", Level.disjunction), ("&&", Level.conjunction), ("|", Level.bitOr),
    ("^", Level.bitXor), ("&", Level.bitAnd), ("==", Level.equality), ("!=", Level.equality),
    ("===", Level.equality), ("!==", Level.equality), ("<", Level.relation), (">", Level.relation),
    ("<=", Level.relation), (">=", Level.relation), ("<<", Level.shift), (">>", Level.shift),
    ("->", Level.access), ("::", Level.access)]

def signs : List String := signLevels.map Prod.fst

/-- Characters that are operators on their own, of a level that no part is cut at. -/
def isArithmetic (c : Char) : Bool := ['+', '-', '*', '/', '%', '!', '~'].contains c

/-! ### What stands outside brackets and strings -/

inductive Quote where
  | outside
  | inside
  | escaped
deriving DecidableEq

/-- Where a character stands: the brackets open there and whether it is in a string. -/
structure Place where
  stack : List Char
  quote : Quote
deriving DecidableEq

def Place.top : Place := ⟨[], .outside⟩

/-- Reads a character; it is exposed if no bracket and no string is open before or after it. -/
def Place.read? (place : Place) (c : Char) : Option (Place × Bool) :=
  match place.quote with
  | .escaped => some (⟨place.stack, .inside⟩, false)
  | .inside =>
    if c = '"' then some (⟨place.stack, .outside⟩, false)
    else if c = '\\' then some (⟨place.stack, .escaped⟩, false)
    else some (place, false)
  | .outside =>
    if c = '"' then some (⟨place.stack, .inside⟩, false)
    else
      (bracket? place.stack c).map fun stack =>
        (⟨stack, .outside⟩, place.stack.isEmpty && stack.isEmpty)

/-- The characters of a text, each with whether it is exposed. -/
def Place.readAll? : Place → List Char → Option (Place × List (Char × Bool))
  | place, [] => some (place, [])
  | place, c :: rest => do
    let (next, exposed) ← place.read? c
    let (last, marks) ← next.readAll? rest
    return (last, (c, exposed) :: marks)

/-! ### Lexemes -/

inductive Lexeme where
  | sign (symbol : String)
  | char (c : Char) (exposed : Bool)
deriving DecidableEq

namespace Lexeme

def text : Lexeme → List Char
  | sign symbol => symbol.toList
  | char c _ => [c]

def level : Lexeme → Nat
  | sign symbol => (signLevels.lookup symbol).getD Level.primary
  | char c exposed => if exposed && isArithmetic c then Level.arithmetic else Level.primary

def isBlank : Lexeme → Bool
  | sign _ => false
  | char c _ => Text.isBlank c

end Lexeme

/-- The exposed characters at the front. -/
def exposedFront (marks : List (Char × Bool)) : List Char := (marks.takeWhile Prod.snd).map Prod.fst

/-- Takes the longest sign of a table at every place where one is exposed; `skip` characters are
part of the sign before them. -/
def lexemesFrom (table : List String) : (skip : Nat) → List (Char × Bool) → List Lexeme
  | _, [] => []
  | skip + 1, _ :: rest => lexemesFrom table skip rest
  | 0, (c, exposed) :: rest =>
    match longestSign? table (exposedFront ((c, exposed) :: rest)) with
    | some symbol => .sign symbol :: lexemesFrom table (symbol.toList.length - 1) rest
    | none => .char c exposed :: lexemesFrom table 0 rest

def lexemes (marks : List (Char × Bool)) : List Lexeme := lexemesFrom signs 0 marks

def lexemes? (text : List Char) : Option (List Lexeme) :=
  match Place.top.readAll? text with
  | some (last, marks) => if last = Place.top then some (lexemes marks) else none
  | none => none

/-- What lexemes write, without the blanks around it. -/
def written (items : List Lexeme) : String :=
  String.ofList (dropBlanks (dropBlanks (items.flatMap Lexeme.text)).reverse).reverse

/-! ### Parts -/

/-- What stands before and after the first item of a kind. -/
def splitFirst (p : α → Bool) : List α → Option (List α × α × List α)
  | [] => none
  | a :: rest =>
    if p a then some ([], a, rest)
    else (splitFirst p rest).map fun (before, found, after) => (a :: before, found, after)

def splitLast (p : α → Bool) (items : List α) : Option (List α × α × List α) :=
  (splitFirst p items.reverse).map fun (after, found, before) =>
    (before.reverse, found, after.reverse)

/-- An operator with the lexemes of its operands. -/
structure Cut where
  left : List Lexeme
  symbol : String
  right : List Lexeme
deriving DecidableEq

def leastLevel (items : List Lexeme) : Nat :=
  items.foldr (fun item least => min item.level least) Level.primary

/-- Cuts an expression at its loosest operator: at the first of several where they group to the
right, else at the last. -/
def cut? (items : List Lexeme) : Option Cut :=
  let least := leastLevel items
  if least ≤ Level.shift then
    let split := if least ≤ Level.conditional then splitFirst else splitLast
    (split (fun item => item.level == least) items).map fun (left, item, right) =>
      ⟨left, String.ofList item.text, right⟩
  else none

/-- The place that is incremented, of an expression that is nothing else. -/
def incremented? (items : List Lexeme) : Option (List Lexeme) :=
  match items.reverse.dropWhile Lexeme.isBlank with
  | .char '+' true :: .char '+' true :: place =>
    if place.all fun item => Level.access ≤ item.level then some place.reverse else none
  | _ => none

/-! ### Headers -/

inductive Update where
  | increment (place : String)
  | assign (place symbol amount : String)
deriving DecidableEq

/-- `for ( type target = start; left symbol right; update )`. -/
structure Header where
  type : String
  target : String
  start : String
  left : String
  symbol : String
  right : String
  update : Update
deriving DecidableEq

/-- What stands between the parentheses of a loop. -/
def betweenParentheses? : List Char → Option (List Char)
  | 'f' :: 'o' :: 'r' :: rest =>
    match dropBlanks rest with
    | '(' :: inner => if inner.getLast? = some ')' then some inner.dropLast else none
    | _ => none
  | _ => none

def isSemicolon (item : Lexeme) : Bool := item == .sign ";"

/-- A declaration with its value; the type is a word. -/
def declaration? (items : List Lexeme) : Option (String × String × String) := do
  let cut ← cut? items
  let declarator := (written cut.left).toList
  let type := declarator.takeWhile fun c => !isBlank c
  let target := dropBlanks (declarator.drop type.length)
  if cut.symbol = "=" ∧ target ≠ [] then
    some (String.ofList type, String.ofList target, written cut.right)
  else none

def update? (items : List Lexeme) : Option Update :=
  match incremented? items with
  | some place => some (.increment (written place))
  | none => (cut? items).map fun cut => .assign (written cut.left) cut.symbol (written cut.right)

def header? (text : List Char) : Option Header := do
  let inner ← betweenParentheses? text
  let items ← lexemes? inner
  let (declaring, _, others) ← splitFirst isSemicolon items
  let (comparing, _, updating) ← splitFirst isSemicolon others
  let (type, target, start) ← declaration? declaring
  let condition ← cut? comparing
  let update ← update? updating
  return ⟨type, target, start, written condition.left, condition.symbol, written condition.right,
    update⟩

/-- The code of a text, without its comments. -/
def code (dialect : Dialect) (text : String) : List Char :=
  ((dialect.lexed text).filter fun mark => !mark.2).map Prod.fst

/-- The header of a loop that a text is in a language. -/
def readHeader? (dialect : Dialect) (text : String) : Option Header := header? (code dialect text)

end Snippet.Loop
