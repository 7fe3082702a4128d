import Snippet.Python.Token
import Snippet.Source.Node

namespace Snippet.Python

open Source (Node)
open Source.Node (filling)

/-- A reader of the tokens at the front of a source. -/
abbrev Parse := StateT (List Token) Option

/-- The words that are no names. -/
def reservedWords : List String :=
  ["False", "None", "True", "and", "as", "assert", "async", "await", "break", "class", "continue",
   "def", "del", "elif", "else", "except", "finally", "for", "from", "global", "if", "import", "in",
   "is", "lambda", "nonlocal", "not", "or", "pass", "raise", "return", "try", "while", "with",
   "yield"]

def isName (word : String) : Bool := !reservedWords.contains word

/-- The text from the first of some tokens through the last. -/
def spanned (tokens : List Token) : String :=
  match tokens.head?, tokens.getLast? with
  | some first, some last =>
    let behind := last.rest.drop last.lexeme.text.length
    String.ofList (first.rest.take (first.rest.length - behind.length))
  | _, _ => ""

/-- A node over the tokens that lie before a place and not before another. -/
def nodeOver (kind : String) (start stop : List Token) (children : List Node) : Node :=
  let tokens := (start.take (start.length - stop.length)).filter (!·.isLineStart)
  let first := tokens.head?.orElse fun _ => start.head?
  .construct kind (.ofNat ((first.map Token.row).getD 0)) (spanned tokens) children

namespace Parse

def peek? : Parse (Option Lexeme) := do return (← get).head?.map Token.lexeme

def peekSecond? : Parse (Option Lexeme) := do return (← get).tail.head?.map Token.lexeme

def skip : Parse Unit := modify List.tail

/-- A node from a place up to here. -/
def close (kind : String) (start : List Token) (children : List Node) : Parse Node := do
  return nodeOver kind start (← get) children

/-- A node over what a parser takes, with the children it gives. -/
def node (kind : String) (children : Parse (List Node)) : Parse Node := do
  let start ← get
  close kind start (← children)

/-- A node without children over what a parser takes. -/
def bare (kind : String) (inside : Parse α) : Parse Node :=
  node kind do
    let _ ← inside
    return []

def leaf (kind : String) : Parse Node := bare kind skip

/-- What a parser takes as one token that is no construct. -/
def token (inside : Parse Unit) : Parse Node := do
  let found ← bare "" inside
  return .token found.row found.text

def atMark (text : String) : Parse Bool := do
  match ← peek? with
  | some (.mark found) => return found == text
  | _ => return false

def atWord (text : String) : Parse Bool := do
  match ← peek? with
  | some (.word found) => return found == text
  | _ => return false

def atLineEnd : Parse Bool := do
  match ← peek? with
  | none | some (.lineStart _) => return true
  | _ => return false

def mark? (text : String) : Parse Bool := do
  let found ← atMark text
  if found then skip
  return found

/-- Skips a mark if it may stand here and comes next. -/
def markIf (allowed : Bool) (text : String) : Parse Bool :=
  if allowed then mark? text else pure false

def mark (text : String) : Parse Unit := do
  if !(← mark? text) then failure

def word? (text : String) : Parse Bool := do
  let found ← atWord text
  if found then skip
  return found

def word (text : String) : Parse Unit := do
  if !(← word? text) then failure

/-- A word as an operator, if it comes next. -/
def wordToken? (text : String) : Parse (Option Node) := do
  if ← atWord text then some <$> token skip else return none

def name : Parse Node := do
  match ← peek? with
  | some (.word text) => if isName text then leaf "identifier" else failure
  | _ => failure

/-- Items separated by commas after a first one, and whether a last comma follows them. -/
def moreItems (item : Parse α) : Nat → Parse (List α × Bool)
  | 0 => failure
  | fuel + 1 => do
    if ← mark? "," then
      match ← optional item with
      | some found =>
        let (more, trailing) ← moreItems item fuel
        return (found :: more, trailing)
      | none => return ([], true)
    else return ([], false)

/-- Items each of which a separator comes before. -/
def manyAfter (separator : Parse Bool) (item : Parse α) : Nat → Parse (List α)
  | 0 => failure
  | fuel + 1 => do
    if ← separator then
      let found ← item
      return found :: (← manyAfter separator item fuel)
    else return []

/-- Operators and the operands right of them, one after another. -/
def linked (operator? : Parse (Option Node)) (operand : Parse Node) : Nat → Parse (List Node)
  | 0 => failure
  | fuel + 1 => do
    match ← operator? with
    | some operator =>
      let right ← operand
      return operator :: right :: (← linked operator? operand fuel)
    | none => return []

/-- The same with each operator taking all that is left of it. -/
def leftward (kind : String) (operator? : Parse (Option Node)) (operand : Parse Node)
    (start : List Token) : Nat → Node → Parse Node
  | 0, _ => failure
  | fuel + 1, left => do
    match ← operator? with
    | some operator =>
      let right ← operand
      let whole ← close kind start
        [filling "left" left, filling "operator" operator, filling "right" right]
      leftward kind operator? operand start fuel whole
    | none => return left

/-- At least one item, separated by commas of which a last one may follow. -/
def items (item : Parse α) (fuel : Nat) : Parse (List α) := do
  let first ← item
  let (more, _) ← moreItems item fuel
  return first :: more

/-- Items up to a closing mark, separated by commas of which a last one may follow. -/
def itemsUntil (item : Parse α) (close : String) (fuel : Nat) : Parse (List α) := do
  if ← mark? close then return []
  let found ← items item fuel
  mark close
  return found

def dottedName (fuel : Nat) : Parse Node :=
  node "dotted_name" do
    let first ← name
    return first :: (← manyAfter (mark? ".") name fuel)

end Parse

end Snippet.Python
