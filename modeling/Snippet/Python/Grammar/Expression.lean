import Snippet.Python.Parse
import Snippet.Tree.Operator

namespace Snippet.Python

open Source (Node)
open Source.Node (filling)
open Python.Parse

/-! Every function of the grammar takes a bound on its depth of recursion first. -/

/-- The level on which a left-associative operator stands; a tighter operator has a higher level. -/
def levelOf? : BinaryOp → Option Nat
  | .bitOr => some 0
  | .bitAnd => some 1
  | .bitXor => some 2
  | .leftShift | .rightShift => some 3
  | .add | .sub => some 4
  | .mult | .div | .floorDiv | .mod | .matMult => some 5
  | .pow => none

def tightest : Nat := 6

def binaryOp? (level : Nat) : Parse (Option Node) := do
  match ← peek? with
  | some (.mark symbol) =>
    if (BinaryOp.ofSymbol? symbol).bind levelOf? = some level then some <$> token skip
    else return none
  | _ => return none

def atSign : Parse Bool := do
  match ← peek? with
  | some (.mark text) => return ["-", "+", "~"].contains text
  | _ => return false

def compareOp? : Parse (Option Node) := do
  match ← peek?, ← peekSecond? with
  | some (.word "not"), some (.word "in") | some (.word "is"), some (.word "not") =>
    some <$> token do
      skip
      skip
  | some (.word "is"), _ | some (.word "in"), _ => some <$> token skip
  | some (.mark symbol), _ =>
    if (CompareOp.ofSymbol? symbol).isSome then some <$> token skip else return none
  | _, _ => return none

def atComprehension : Parse Bool := do
  match ← peek?, ← peekSecond? with
  | some (.word "for"), _ | some (.word "async"), some (.word "for") => return true
  | _, _ => return false

def atHintEnd : Parse Bool := do
  match ← peek? with
  | some (.mark text) => return ["=", ",", ")", "]", ":", ";"].contains text
  | _ => atLineEnd

/-- Whether a node can stand where no keyword, star or double star is allowed. -/
def isPlain (node : Node) : Bool :=
  node.kind ∉ ["list_splat", "keyword_argument", "dictionary_splat"]

/-- Whether a node can be assigned to as it is. -/
def isPlace (node : Node) : Bool := ["identifier", "attribute", "subscript"].contains node.kind

mutual

/-- A node as the target of an assignment. Parentheses around one target make a tuple of it. -/
def target? : Node → Option Node
  | ⟨kind, named, role?, row, text, children⟩ =>
    let pattern := fun (kind : String) (children : List Node) =>
      (⟨kind, named, role?, row, text, children⟩ : Node)
    if isPlace (pattern kind children) then some (pattern kind children)
    else
      match kind with
      | "parenthesized_expression" | "tuple" => (targets? children).map (pattern "tuple_pattern")
      | "expression_list" => (targets? children).map (pattern "pattern_list")
      | "list" => (targets? children).map (pattern "list_pattern")
      | "list_splat" =>
        if children.all isPlace then some (pattern "list_splat_pattern" children) else none
      | _ => none

def targets? : List Node → Option (List Node)
  | [] => some []
  | first :: more => do return (← target? first) :: (← targets? more)

end

/-- The node as a target, or failure. -/
def targetOf (node : Node) : Parse Node := fun tokens => (target? node).map (·, tokens)

/-- One node alone or, with a comma, a row of them. -/
def rowOf (start : List Token) (first : Node) (more : List Node) (trailing : Bool) : Parse Node :=
  if more.isEmpty && !trailing then pure first else close "expression_list" start (first :: more)

mutual

def expression : Nat → Parse Node
  | 0 => failure
  | fuel + 1 => do
    let start ← get
    match ← peek?, ← peekSecond? with
    | some (.word "lambda"), _ =>
      bare "lambda" do
        skip
        if !(← atMark ":") then
          let _ ← items (parameter fuel false) fuel
        mark ":"
        expression fuel
    | some (.word _), some (.mark ":=") =>
      bare "named_expression" do
        let _ ← name
        skip
        expression fuel
    | _, _ =>
      let body ← disjunction fuel
      if ← word? "if" then
        let test ← disjunction fuel
        word "else"
        let orelse ← expression fuel
        close "conditional_expression" start [body, test, orelse]
      else return body

def disjunction : Nat → Parse Node
  | 0 => failure
  | fuel + 1 => do
    let start ← get
    let first ← conjunction fuel
    leftward "boolean_operator" (wordToken? "or") (conjunction fuel) start fuel first

def conjunction : Nat → Parse Node
  | 0 => failure
  | fuel + 1 => do
    let start ← get
    let first ← negation fuel
    leftward "boolean_operator" (wordToken? "and") (negation fuel) start fuel first

def negation : Nat → Parse Node
  | 0 => failure
  | fuel + 1 => do
    let start ← get
    if ← word? "not" then
      let argument ← negation fuel
      close "not_operator" start [filling "argument" argument]
    else
      let first ← operand fuel 0
      match ← linked compareOp? (operand fuel 0) fuel with
      | [] => return first
      | links => close "comparison_operator" start (first :: links)

/-- An operand of the operators below a level. -/
def operand : Nat → Nat → Parse Node
  | 0, _ => failure
  | fuel + 1, level => do
    if level = tightest then signed fuel
    else
      let start ← get
      let first ← operand fuel (level + 1)
      leftward "binary_operator" (binaryOp? level) (operand fuel (level + 1)) start fuel first

/-- A power binds tighter than a sign on its left and looser than one on its right. -/
def signed : Nat → Parse Node
  | 0 => failure
  | fuel + 1 => do
    let start ← get
    if ← atSign then
      let sign ← token skip
      let argument ← signed fuel
      close "unary_operator" start [filling "operator" sign, filling "argument" argument]
    else
      let base ← awaited fuel
      if ← atMark "**" then
        let power ← token skip
        let exponent ← signed fuel
        close "binary_operator" start
          [filling "left" base, filling "operator" power, filling "right" exponent]
      else return base

def awaited : Nat → Parse Node
  | 0 => failure
  | fuel + 1 => do
    if ← atWord "await" then
      bare "await" do
        skip
        primary fuel
    else primary fuel

def primary : Nat → Parse Node
  | 0 => failure
  | fuel + 1 => do
    let start ← get
    let value ← atom fuel
    trailers fuel start value

/-- A node with the members, calls and subscripts after it. -/
def trailers : Nat → List Token → Node → Parse Node
  | 0, _, _ => failure
  | fuel + 1, start, value => do
    match ← peek? with
    | some (.mark ".") =>
      skip
      let member ← name
      let whole ← close "attribute" start [filling "object" value, filling "attribute" member]
      trailers fuel start whole
    | some (.mark "(") =>
      let found ← arguments fuel
      let whole ← close "call" start [filling "function" value, filling "arguments" found]
      trailers fuel start whole
    | some (.mark "[") =>
      skip
      let found ← items (index fuel) fuel
      mark "]"
      let whole ← close "subscript" start (filling "value" value :: found.map (filling "subscript"))
      trailers fuel start whole
    | _ => return value

def arguments : Nat → Parse Node
  | 0 => failure
  | fuel + 1 => do
    let start ← get
    mark "("
    if ← mark? ")" then return (← close "argument_list" start [])
    let first ← argument fuel
    if isPlain first && (← atComprehension) then
      comprehension fuel
      mark ")"
      close "generator_expression" start [first]
    else
      let (more, _) ← moreItems (argument fuel) fuel
      mark ")"
      close "argument_list" start (first :: more)

def argument : Nat → Parse Node
  | 0 => failure
  | fuel + 1 => do
    match ← peek?, ← peekSecond? with
    | some (.mark "*"), _ =>
      node "list_splat" do
        skip
        return [← expression fuel]
    | some (.mark "**"), _ =>
      bare "dictionary_splat" do
        skip
        expression fuel
    | some (.word _), some (.mark "=") =>
      bare "keyword_argument" do
        let _ ← name
        skip
        expression fuel
    | _, _ => expression fuel

def index : Nat → Parse Node
  | 0 => failure
  | fuel + 1 => do
    let start ← get
    if ← mark? "*" then
      let value ← expression fuel
      close "list_splat" start [value]
    else
      let lower ← optional (expression fuel)
      if ← atMark ":" then
        let colon ← token skip
        let upper ← optional (expression fuel)
        let last ←
          if ← atMark ":" then do
            let colon ← token skip
            let step ← optional (expression fuel)
            pure (colon :: step.toList)
          else pure []
        close "slice" start (lower.toList ++ colon :: upper.toList ++ last)
      else
        match lower with
        | some value => return value
        | none => failure

def atom : Nat → Parse Node
  | 0 => failure
  | fuel + 1 => do
    match ← peek? with
    | some (.word "True") => leaf "true"
    | some (.word "False") => leaf "false"
    | some (.word "None") => leaf "none"
    | some (.word _) => name
    | some (.integer _) => leaf "integer"
    | some (.float _) => leaf "float"
    | some (.string ..) => text fuel
    | some (.mark "...") => leaf "ellipsis"
    | some (.mark "(") => group fuel
    | some (.mark "[") => listing fuel
    | some (.mark "\x7b") => braces fuel
    | _ => failure

/-- Adjacent strings, of which every interpolated part is an expression. -/
def literals : Nat → Parse (List Node)
  | 0 => failure
  | fuel + 1 => do
    match ← peek? with
    | some (.string _ interpolations) =>
      let inside ← interpolations.mapM fun tokens =>
        StateT.lift (((interpolation fuel).run tokens).map (·.1))
      let found ← node "string" do
        skip
        return inside
      return found :: (← literals fuel)
    | _ => return []

def text : Nat → Parse Node
  | 0 => failure
  | fuel + 1 => do
    let start ← get
    match ← literals fuel with
    | [] => failure
    | [only] => return only
    | parts => close "concatenated_string" start parts

/-- The expression of an interpolated part, which an equals sign may follow. -/
def interpolation : Nat → Parse Node
  | 0 => failure
  | fuel + 1 =>
    bare "interpolation" do
      if ← atWord "yield" then
        let _ ← yielded fuel
      else
        let _ ← items (element fuel) fuel
      let _ ← mark? "="
      if !(← get).isEmpty then failure

def yielded : Nat → Parse Node
  | 0 => failure
  | fuel + 1 =>
    bare "yield" do
      word "yield"
      if ← word? "from" then
        let _ ← expression fuel
      else
        let _ ← optional (items (element fuel) fuel)

def element : Nat → Parse Node
  | 0 => failure
  | fuel + 1 => do
    if ← atMark "*" then
      node "list_splat" do
        skip
        return [← operand fuel 0]
    else expression fuel

def group : Nat → Parse Node
  | 0 => failure
  | fuel + 1 => do
    let start ← get
    mark "("
    if ← mark? ")" then return (← close "tuple" start [])
    if ← atWord "yield" then
      let value ← yielded fuel
      mark ")"
      return (← close "parenthesized_expression" start [value])
    let first ← element fuel
    if isPlain first && (← atComprehension) then
      comprehension fuel
      mark ")"
      return (← close "generator_expression" start [first])
    let (more, trailing) ← moreItems (element fuel) fuel
    mark ")"
    if more.isEmpty && !trailing then close "parenthesized_expression" start [first]
    else close "tuple" start (first :: more)

def listing : Nat → Parse Node
  | 0 => failure
  | fuel + 1 => do
    let start ← get
    mark "["
    if ← mark? "]" then return (← close "list" start [])
    let first ← element fuel
    if isPlain first && (← atComprehension) then
      comprehension fuel
      mark "]"
      return (← close "list_comprehension" start [first])
    let (more, _) ← moreItems (element fuel) fuel
    mark "]"
    close "list" start (first :: more)

def braces : Nat → Parse Node
  | 0 => failure
  | fuel + 1 => do
    let start ← get
    mark "\x7b"
    if ← mark? "\x7d" then return (← close "dictionary" start [])
    if ← atMark "**" then
      let entries ← items (entry fuel) fuel
      mark "\x7d"
      return (← close "dictionary" start entries)
    let inside ← get
    let first ← element fuel
    if ← markIf (isPlain first) ":" then
      let value ← expression fuel
      let pair ← close "pair" inside [filling "key" first, filling "value" value]
      if ← atComprehension then
        comprehension fuel
        mark "\x7d"
        return (← close "dictionary_comprehension" start [pair])
      let (more, _) ← moreItems (entry fuel) fuel
      mark "\x7d"
      return (← close "dictionary" start (pair :: more))
    if isPlain first && (← atComprehension) then
      comprehension fuel
      mark "\x7d"
      return (← close "set_comprehension" start [first])
    let (more, _) ← moreItems (element fuel) fuel
    mark "\x7d"
    close "set" start (first :: more)

def entry : Nat → Parse Node
  | 0 => failure
  | fuel + 1 => do
    if ← atMark "**" then
      bare "dictionary_splat" do
        skip
        operand fuel 0
    else
      node "pair" do
        let key ← expression fuel
        mark ":"
        let value ← expression fuel
        return [filling "key" key, filling "value" value]

def comprehension : Nat → Parse Unit
  | 0 => failure
  | fuel + 1 => do
    let _ ← word? "async"
    word "for"
    let _ ← targetRow fuel
    word "in"
    let _ ← disjunction fuel
    let _ ← manyAfter (word? "if") (disjunction fuel) fuel
    if ← atComprehension then comprehension fuel

def targetItem : Nat → Parse Node
  | 0 => failure
  | fuel + 1 => do
    if ← atMark "*" then
      node "list_splat" do
        skip
        return [← primary fuel]
    else primary fuel

def targetRow : Nat → Parse Node
  | 0 => failure
  | fuel + 1 => do
    let start ← get
    let first ← targetItem fuel
    let (more, trailing) ← moreItems (targetItem fuel) fuel
    targetOf (← rowOf start first more trailing)

/-- A parameter, with its annotation where one may stand. -/
def parameter : Nat → Bool → Parse Node
  | 0, _ => failure
  | fuel + 1, hinted => do
    let start ← get
    match ← peek? with
    | some (.mark "*") =>
      skip
      match ← optional name with
      | none => close "keyword_separator" start []
      | some found =>
        let splat ← close "list_splat_pattern" start [found]
        if ← markIf hinted ":" then
          let type ← hint fuel false
          close "typed_parameter" start [splat, filling "type" type]
        else return splat
    | some (.mark "**") =>
      skip
      let found ← name
      let splat ← close "dictionary_splat_pattern" start [found]
      if ← markIf hinted ":" then
        let type ← hint fuel false
        close "typed_parameter" start [splat, filling "type" type]
      else return splat
    | some (.mark "/") => leaf "positional_separator"
    | some (.mark "(") =>
      let pattern ← targetOf (← group fuel)
      if ← mark? "=" then
        let value ← expression fuel
        close "default_parameter" start [filling "name" pattern, filling "value" value]
      else return pattern
    | _ =>
      let found ← name
      let type ← if ← markIf hinted ":" then some <$> hint fuel false else pure none
      let default ← if ← mark? "=" then some <$> expression fuel else pure none
      match type, default with
      | none, none => return found
      | some type, none => close "typed_parameter" start [found, filling "type" type]
      | none, some value =>
        close "default_parameter" start [filling "name" found, filling "value" value]
      | some type, some value =>
        close "typed_default_parameter" start
          [filling "name" found, filling "type" type, filling "value" value]

/-- An annotation. In brackets a bound may follow it. -/
def hint : Nat → Bool → Parse Node
  | 0, _ => failure
  | fuel + 1, bracketed => do
    let start ← get
    let found ←
      if (← atMark "*") || (← atMark "**") then
        bare "splat_type" do
          skip
          name
      else genericUnion fuel <|> expression fuel
    let type ← close "type" start [found]
    if ← markIf bracketed ":" then
      let bound ← hint fuel bracketed
      let constrained ← close "constrained_type" start [type, bound]
      close "type" start [constrained]
    else return type

/-- A union whose first part is a generic type, up to the end of the annotation. -/
def genericUnion : Nat → Parse Node
  | 0 => failure
  | fuel + 1 => do
    let start ← get
    let first ← generic fuel
    let bar? := do if ← atMark "|" then some <$> token skip else return none
    let whole ← leftward "union_type" bar? (generic fuel <|> operand fuel 1) start fuel first
    if !(← atHintEnd) then failure
    return whole

/-- A name with annotations in brackets, and the members taken from it. -/
def generic : Nat → Parse Node
  | 0 => failure
  | fuel + 1 => do
    let start ← get
    let base ← name
    let params ← node "type_parameter" do
      mark "["
      let found ← items (hint fuel true) fuel
      mark "]"
      return found
    let first ← close "generic_type" start [base, params]
    let dot? := do if ← atMark "." then some <$> token skip else return none
    let whole ← leftward "member_type" dot? name start fuel first
    if !((← atMark "|") || (← atHintEnd)) then failure
    return whole

end

/-- Expressions of which several make a row, and whether they do. -/
def row (fuel : Nat) : Parse (Node × Bool) := do
  let start ← get
  let first ← element fuel
  let (more, trailing) ← moreItems (element fuel) fuel
  return (← rowOf start first more trailing, trailing || !more.isEmpty)

end Snippet.Python
