import Snippet.Proofs.Formula.Token
import Snippet.Tree.Basic

/-!
# Reading expressions by levels of operators

A grammar of expressions is a list of levels, the loosest first. A level says how operands of the
next tighter level are put together; below the last one stand names and parentheses with members,
calls and indices after them. Parentheses leave no trace in the tree. No part of the reader gives back
more tokens than it was given, and between two visits of a level a token is taken, so that the
reading ends.
-/

namespace Snippet.Formula

/-- How the operands of one level are put together. -/
inductive Level where
  /-- `test ? body : orelse`, whose last part may be of the same level. -/
  | choice
  /-- Any number of operands with one sign between neighbours, which make one node. -/
  | run (sign : String) (op : BoolOp)
  /-- Signs before an operand, which may be of the same level. -/
  | before (ops : List (String × UnaryOp))
  /-- Any number of operands with comparisons between neighbours, which make one node. -/
  | chain (ops : List (String × CompareOp))
  /-- Binary signs that group to the left, with the trees they make. -/
  | left (ops : List (String × (Expr → Expr → Expr)))
  /-- A power, which groups to the right and takes signs before its exponent. -/
  | power (signs : List (String × UnaryOp)) (sign : String)

/-- What is read off the front of some tokens, and the tokens after it. -/
structure Taken (α : Type) (tokens : List Token) where
  value : α
  rest : List Token
  fits : rest.length ≤ tokens.length

def take? {α : Type} (ops : List (String × α)) :
    (tokens : List Token) → Option (α × { rest : List Token // rest.length < tokens.length })
  | .sign sign :: rest => (ops.lookup sign).map (·, ⟨rest, Nat.lt_succ_self _⟩)
  | _ => none

def after? (sign : String) :
    (tokens : List Token) → Option { rest : List Token // rest.length < tokens.length }
  | .sign found :: rest => if found = sign then some ⟨rest, Nat.lt_succ_self _⟩ else none
  | _ => none

/-- Operands of a run; one alone is itself. -/
def joined (op : BoolOp) (first : Expr) : List Expr → Expr
  | [] => first
  | more => .bool op (first :: more)

def chained (first : Expr) : List (CompareOp × Expr) → Expr
  | [] => first
  | links => .compare first (links.map Prod.fst) (links.map Prod.snd)

mutual

/-- Reads an expression at the first of the levels; parentheses go back to `all` of them. -/
def read (all : List Level) :
    (levels : List Level) → (tokens : List Token) → Option (Taken Expr tokens)
  | [], .word ident :: rest => do
    let ⟨expr, rest, _⟩ ← readSuffixes all (.name ident) rest
    some ⟨expr, rest, by grind⟩
  | [], tokens => do
    let ⟨rest, _⟩ ← after? "(" tokens
    let ⟨inner, rest, _⟩ ← read all all rest
    let ⟨rest, _⟩ ← after? ")" rest
    let ⟨expr, rest, _⟩ ← readSuffixes all inner rest
    some ⟨expr, rest, by omega⟩
  | .choice :: tighter, tokens => do
    let ⟨test, rest, _⟩ ← read all tighter tokens
    match after? "?" rest with
    | none => some ⟨test, rest, by omega⟩
    | some ⟨rest, _⟩ => do
      let ⟨body, rest, _⟩ ← read all tighter rest
      let ⟨rest, _⟩ ← after? ":" rest
      let ⟨orelse, rest, _⟩ ← read all (.choice :: tighter) rest
      some ⟨.conditional test body orelse, rest, by omega⟩
  | .run sign op :: tighter, tokens => do
    let ⟨first, rest, _⟩ ← read all tighter tokens
    let ⟨more, rest, _⟩ ← readRun all sign tighter rest
    some ⟨joined op first more, rest, by omega⟩
  | .before ops :: tighter, tokens =>
    match take? ops tokens with
    | none => read all tighter tokens
    | some (op, ⟨rest, _⟩) => do
      let ⟨operand, rest, _⟩ ← read all (.before ops :: tighter) rest
      some ⟨.unary op operand, rest, by omega⟩
  | .chain ops :: tighter, tokens => do
    let ⟨first, rest, _⟩ ← read all tighter tokens
    let ⟨links, rest, _⟩ ← readLinks all ops tighter rest
    some ⟨chained first links, rest, by omega⟩
  | .left ops :: tighter, tokens => do
    let ⟨first, rest, _⟩ ← read all tighter tokens
    let ⟨expr, rest, _⟩ ← readLeft all ops tighter first rest
    some ⟨expr, rest, by omega⟩
  | .power signs sign :: tighter, tokens => do
    let ⟨base, rest, _⟩ ← read all tighter tokens
    match after? sign rest with
    | none => some ⟨base, rest, by omega⟩
    | some ⟨rest, _⟩ => do
      let ⟨exponent, rest, _⟩ ← read all (.before signs :: .power signs sign :: tighter) rest
      some ⟨.binary base .pow exponent, rest, by omega⟩
termination_by levels tokens => (tokens.length, levels.length)
decreasing_by all_goals first | decreasing_tactic | exact Prod.Lex.right' _ ‹_› (Nat.succ_pos _)

/-- The members, calls and indices after a value. -/
def readSuffixes (all : List Level) (value : Expr) :
    (tokens : List Token) → Option (Taken Expr tokens)
  | .sign "." :: .word attr :: rest => do
    let ⟨expr, rest, _⟩ ← readSuffixes all (.member value attr) rest
    some ⟨expr, rest, by grind⟩
  | .sign "(" :: rest => do
    let ⟨args, rest, _⟩ ← readArguments all rest
    let ⟨expr, rest, _⟩ ← readSuffixes all (.call value args) rest
    some ⟨expr, rest, by grind⟩
  | .sign "[" :: rest => do
    let ⟨index, rest, _⟩ ← read all all rest
    let ⟨rest, _⟩ ← after? "]" rest
    let ⟨expr, rest, _⟩ ← readSuffixes all (.subscript value index) rest
    some ⟨expr, rest, by grind⟩
  | tokens => some ⟨value, tokens, Nat.le_refl _⟩
termination_by tokens => (tokens.length, 0)

def readArguments (all : List Level) (tokens : List Token) : Option (Taken (List Expr) tokens) :=
  match after? ")" tokens with
  | some ⟨rest, _⟩ => some ⟨[], rest, by omega⟩
  | none => do
    let ⟨first, rest, _⟩ ← read all all tokens
    let ⟨more, rest, _⟩ ← readRun all "," all rest
    let ⟨rest, _⟩ ← after? ")" rest
    some ⟨first :: more, rest, by omega⟩
termination_by (tokens.length, all.length + 1)
decreasing_by all_goals first | decreasing_tactic | exact Prod.Lex.right' _ ‹_› (Nat.succ_pos _)

/-- Further operands, each after a sign. -/
def readRun (all : List Level) (sign : String) (tighter : List Level) (tokens : List Token) :
    Option (Taken (List Expr) tokens) :=
  match after? sign tokens with
  | none => some ⟨[], tokens, Nat.le_refl _⟩
  | some ⟨rest, _⟩ => do
    let ⟨next, rest, _⟩ ← read all tighter rest
    let ⟨more, rest, _⟩ ← readRun all sign tighter rest
    some ⟨next :: more, rest, by omega⟩
termination_by (tokens.length, 0)

def readLinks (all : List Level) (ops : List (String × CompareOp)) (tighter : List Level)
    (tokens : List Token) : Option (Taken (List (CompareOp × Expr)) tokens) :=
  match take? ops tokens with
  | none => some ⟨[], tokens, Nat.le_refl _⟩
  | some (op, ⟨rest, _⟩) => do
    let ⟨next, rest, _⟩ ← read all tighter rest
    let ⟨more, rest, _⟩ ← readLinks all ops tighter rest
    some ⟨(op, next) :: more, rest, by omega⟩
termination_by (tokens.length, 0)

/-- Further operands of binary signs, put together with what is read already. -/
def readLeft (all : List Level) (ops : List (String × (Expr → Expr → Expr)))
    (tighter : List Level) (first : Expr) (tokens : List Token) : Option (Taken Expr tokens) :=
  match take? ops tokens with
  | none => some ⟨first, tokens, Nat.le_refl _⟩
  | some (join, ⟨rest, _⟩) => do
    let ⟨second, rest, _⟩ ← read all tighter rest
    let ⟨expr, rest, _⟩ ← readLeft all ops tighter (join first second) rest
    some ⟨expr, rest, by omega⟩
termination_by (tokens.length, 0)

end

end Snippet.Formula
