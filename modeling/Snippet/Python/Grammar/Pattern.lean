import Snippet.Python.Grammar.Expression

namespace Snippet.Python

open Source (Node)
open Python.Parse

def unsignedNumber : Parse Node := do
  match ← peek? with
  | some (.integer _) => leaf "integer"
  | some (.float _) => leaf "float"
  | _ => failure

/-- A number with at most one sign, or a sum of two numbers. -/
def numberPattern : Parse Node := do
  let start ← get
  let _ ← mark? "-"
  let value ← unsignedNumber
  match ← peek? with
  | some (.mark "+") | some (.mark "-") =>
    skip
    let second ← unsignedNumber
    close "complex_pattern" start [value, second]
  | _ => return value

mutual

def pattern : Nat → Parse Node
  | 0 => failure
  | fuel + 1 => do
    let start ← get
    let found ← alternatives fuel
    if ← word? "as" then
      let other ← name
      close "as_pattern" start [found, other]
    else return found

def alternatives : Nat → Parse Node
  | 0 => failure
  | fuel + 1 => do
    let start ← get
    let first ← closedPattern fuel
    match ← manyAfter (mark? "|") (closedPattern fuel) fuel with
    | [] => return first
    | more => close "union_pattern" start (first :: more)

/-- A pattern without alternatives of its own outside brackets. -/
def closedPattern : Nat → Parse Node
  | 0 => failure
  | fuel + 1 => do
    let start ← get
    match ← peek? with
    | some (.mark "*") | some (.mark "**") =>
      skip
      let found ← name
      close "splat_pattern" start [found]
    | some (.mark "(") =>
      skip
      let parts ← itemsUntil (pattern fuel) ")" fuel
      close "tuple_pattern" start parts
    | some (.mark "[") =>
      skip
      let parts ← itemsUntil (pattern fuel) "]" fuel
      close "list_pattern" start parts
    | some (.mark "\x7b") =>
      skip
      let _ ← itemsUntil (entryPattern fuel) "\x7d" fuel
      close "dict_pattern" start []
    | some (.string ..) | some (.word "True") | some (.word "False") | some (.word "None") =>
      atom fuel
    | some (.word _) =>
      let found ← dottedName fuel
      if ← mark? "(" then
        let _ ← itemsUntil (argumentPattern fuel) ")" fuel
        close "class_pattern" start [found]
      else return found
    | _ => numberPattern

/-- A pattern in the parentheses of a class pattern, which a name may come before. -/
def argumentPattern : Nat → Parse Unit
  | 0 => failure
  | fuel + 1 => do
    match ← peek?, ← peekSecond? with
    | some (.word _), some (.mark "=") =>
      let _ ← name
      skip
      let _ ← pattern fuel
    | _, _ =>
      let _ ← pattern fuel

def entryPattern : Nat → Parse Unit
  | 0 => failure
  | fuel + 1 => do
    if ← mark? "**" then
      let _ ← name
    else
      let _ ← closedPattern fuel
      mark ":"
      let _ ← pattern fuel

end

end Snippet.Python
