import Snippet.Python.Grammar.Pattern
import Snippet.Python.Lexer

namespace Snippet.Python

open Source (Node)
open Source.Node (filling)
open Python.Parse

def isAugmentation (symbol : String) : Bool := BinaryOp.all.any fun op => op.symbol ++ "=" == symbol

def augmentation? : Parse (Option Node) := do
  match ← peek? with
  | some (.mark symbol) => if isAugmentation symbol then some <$> token skip else return none
  | _ => return none

mutual

/-- What stands right of an equals sign: a value, or one more assignment. -/
def rightSide : Nat → Parse Node
  | 0 => failure
  | fuel + 1 => do
    let start ← get
    if ← atWord "yield" then yielded fuel
    else
      let (value, _) ← row fuel
      return (← assignment? fuel start value).getD value

/-- The assignment to what stands left of here, if there is one. -/
def assignment? : Nat → List Token → Node → Parse (Option Node)
  | 0, _, _ => failure
  | fuel + 1, start, left => do
    if ← mark? "=" then
      let target ← targetOf left
      let right ← rightSide fuel
      some <$> close "assignment" start [filling "left" target, filling "right" right]
    else if ← mark? ":" then
      let target ← targetOf left
      let type ← hint fuel false
      let right ← if ← mark? "=" then some <$> rightSide fuel else pure none
      some <$> close "assignment" start
        (filling "left" target :: filling "type" type :: (right.map (filling "right")).toList)
    else
      match ← augmentation? with
      | some operator =>
        let target ← targetOf left
        let right ← rightSide fuel
        some <$> close "augmented_assignment" start
          [filling "left" target, filling "operator" operator, filling "right" right]
      | none => return none

end

def expressionStatement (fuel : Nat) : Parse Node := do
  let start ← get
  if ← atWord "yield" then yielded fuel
  else
    let (value, isRow) ← row fuel
    match ← assignment? fuel start value with
    | some found => return found
    | none => return if isRow then { value with kind := "tuple_expression" } else value

def importedName (fuel : Nat) : Parse Node := do
  let start ← get
  let found ← dottedName fuel
  if ← word? "as" then
    let other ← name
    close "aliased_import" start [filling "name" found, filling "alias" other]
  else return found

def relativePoints : Nat → Parse Bool
  | 0 => failure
  | fuel + 1 => do
    match ← peek? with
    | some (.mark ".") | some (.mark "...") =>
      skip
      let _ ← relativePoints fuel
      return true
    | _ => return false

def importedNames (fuel : Nat) : Parse (List Node) := do
  if ← atMark "*" then return [← leaf "wildcard_import"]
  let names ←
    if ← mark? "(" then do
      let names ← items (importedName fuel) fuel
      mark ")"
      pure names
    else items (importedName fuel) fuel
  return names.map (filling "name")

/-- An import from a module, after its first word. -/
def importFrom (fuel : Nat) (start : List Token) : Parse Node := do
  let inside ← get
  if ← relativePoints fuel then
    let _ ← optional (dottedName fuel)
    let module ← close "relative_import" inside []
    word "import"
    let names ← importedNames fuel
    close "import_from_statement" start (filling "module_name" module :: names)
  else
    let module ← dottedName fuel
    word "import"
    let names ← importedNames fuel
    if module.text = "__future__" then close "future_import_statement" start names
    else close "import_from_statement" start (filling "module_name" module :: names)

/-- Whether the next word is `print` as a statement: what follows can only be an operand. -/
def atPrint : Parse Bool := do
  match (← get).map Token.lexeme with
  | .word "print" :: next :: rest =>
    match next with
    | .integer _ | .float _ | .string .. => return true
    | .mark text => return [">>", "~", "\x7b", "..."].contains text
    | .word "not" => return !(rest.head? matches some (.word "in"))
    | .word text => return isName text || ["lambda", "await", "None", "True", "False"].contains text
    | .lineStart _ => return false
  | _ => return false

def atExec : Parse Bool := do
  match ← peek?, ← peekSecond? with
  | some (.word "exec"), some (.string ..) => return true
  | some (.word "exec"), some (.word text) => return isName text
  | _, _ => return false

def atTypeAlias : Parse Bool := do
  match ← peek?, ← peekSecond? with
  | some (.word "type"), some (.word text) => return isName text
  | _, _ => return false

def atSimpleEnd : Parse Bool := do return (← atLineEnd) || (← atMark ";")

def simpleStatement (fuel : Nat) : Parse Node := do
  let start ← get
  if ← atPrint then
    skip
    let _ ← mark? ">>"
    let found ← items (expression fuel) fuel
    return (← close "print_statement" start found)
  if ← atExec then
    skip
    let _ ← atom fuel
    if ← word? "in" then
      let _ ← items (expression fuel) fuel
    return (← close "exec_statement" start [])
  if ← atTypeAlias then
    skip
    let left ← hint fuel false
    mark "="
    let right ← hint fuel false
    return (← close "type_alias_statement" start [filling "left" left, filling "right" right])
  match ← peek? with
  | some (.word "pass") => leaf "pass_statement"
  | some (.word "break") => leaf "break_statement"
  | some (.word "continue") => leaf "continue_statement"
  | some (.word "return") =>
    skip
    if ← atSimpleEnd then close "return_statement" start []
    else
      let (value, _) ← row fuel
      close "return_statement" start [value]
  | some (.word "del") =>
    skip
    let (target, _) ← row fuel
    close "delete_statement" start [target]
  | some (.word "raise") =>
    bare "raise_statement" do
      skip
      if !(← atSimpleEnd) then
        let _ ← row fuel
        if ← word? "from" then
          let _ ← expression fuel
  | some (.word "assert") =>
    bare "assert_statement" do
      skip
      let _ ← expression fuel
      manyAfter (mark? ",") (expression fuel) fuel
  | some (.word "global") =>
    bare "global_statement" do
      skip
      let _ ← name
      manyAfter (mark? ",") name fuel
  | some (.word "nonlocal") =>
    bare "nonlocal_statement" do
      skip
      let _ ← name
      manyAfter (mark? ",") name fuel
  | some (.word "import") =>
    skip
    let names ← items (importedName fuel) fuel
    close "import_statement" start (names.map (filling "name"))
  | some (.word "from") =>
    skip
    importFrom fuel start
  | _ => expressionStatement fuel

def simpleStatements : Nat → Parse (List Node)
  | 0 => failure
  | fuel + 1 => do
    let first ← simpleStatement fuel
    if ← mark? ";" then
      if ← atLineEnd then return [first]
      else return first :: (← simpleStatements fuel)
    else if ← atLineEnd then return [first]
    else failure

/-- Whether a word starts a line of at least an indentation. Then the start of the line is skipped. -/
def attached (indent : Nat) (word : String) : Parse Bool := do
  match ← get with
  | start :: first :: rest =>
    match start.lexeme, first.lexeme with
    | .lineStart found, .word text =>
      if indent ≤ found && text == word then
        set (first :: rest)
        return true
      else return false
    | _, _ => return false
  | _ => return false

def typeParameters (fuel : Nat) : Parse Unit := do
  if ← mark? "[" then
    let _ ← items (hint fuel true) fuel
    mark "]"

def withItem (fuel : Nat) : Parse Unit := do
  let _ ← expression fuel
  if ← word? "as" then
    let _ ← targetItem fuel

/-- The items of a `with` statement, in parentheses of their own or without. -/
def withItems (fuel : Nat) : Parse Unit :=
  (do
    mark "("
    let _ ← items (withItem fuel) fuel
    mark ")"
    if !(← atMark ":") then failure) <|>
  discard (items (withItem fuel) fuel)

/-- The subjects of a match statement, up to the end of its line. -/
def matchSubjects (fuel : Nat) : Parse (List Node) := do
  word "match"
  let found ← items (element fuel) fuel
  mark ":"
  if !(← atLineEnd) then failure
  return found

mutual

/-- The statements of a block whose lines have at least an indentation. -/
def block : Nat → Nat → Parse (List Node)
  | 0, _ => failure
  | fuel + 1, indent => do
    match ← peek? with
    | some (.lineStart found) =>
      if found < indent then return []
      else
        skip
        let first ← statements fuel indent
        return first ++ (← block fuel indent)
    | _ => return []
termination_by structural fuel => fuel

/-- The statements that start on one line of a block. -/
def statements : Nat → Nat → Parse (List Node)
  | 0, _ => failure
  | fuel + 1, indent => do
    match ← peek? with
    | some (.word "if") => return [← branch fuel indent]
    | some (.word "while") => return [← whileLoop fuel indent]
    | some (.word "for") | some (.word "with") | some (.word "def") | some (.word "async") =>
      return [← mayBeAsync fuel indent false]
    | some (.word "try") => return [← handled fuel indent]
    | some (.word "class") => return [← classDef fuel indent]
    | some (.mark "@") => return [← decorated fuel indent]
    | _ =>
      let start ← get
      match ← optional (matchSubjects fuel) with
      | some subjects =>
        let body ← node "block" (matchArms fuel indent)
        return [← close "match_statement" start
          (subjects.map (filling "subject") ++ [filling "body" body])]
      | none => simpleStatements fuel
termination_by structural fuel => fuel

/-- A colon and the statements under it: those of its own line, or a deeper block, or none. -/
def suite : Nat → Nat → Parse Node
  | 0, _ => failure
  | fuel + 1, indent => do
    mark ":"
    node "block" do
      match ← peek? with
      | some (.lineStart found) => if indent < found then block fuel found else return []
      | some _ => simpleStatements fuel
      | none => return []
termination_by structural fuel => fuel

/-- The `else` of a statement, or another word with statements of its own. -/
def attachedSuite? : Nat → Nat → String → Parse (Option Node)
  | 0, _, _ => failure
  | fuel + 1, indent, keyword => do
    if ← attached indent keyword then
      some <$> node (keyword ++ "_clause") do
        skip
        let body ← suite fuel indent
        return [filling "body" body]
    else return none
termination_by structural fuel => fuel

def branch : Nat → Nat → Parse Node
  | 0, _ => failure
  | fuel + 1, indent =>
    node "if_statement" do
      word "if"
      let test ← expression fuel
      let body ← suite fuel indent
      let elifs ← elifClauses fuel indent
      let orelse ← attachedSuite? fuel indent "else"
      return filling "condition" test :: filling "consequence" body ::
        (elifs ++ orelse.toList).map (filling "alternative")
termination_by structural fuel => fuel

def elifClauses : Nat → Nat → Parse (List Node)
  | 0, _ => failure
  | fuel + 1, indent => do
    if ← attached indent "elif" then
      let clause ← node "elif_clause" do
        skip
        let test ← expression fuel
        let body ← suite fuel indent
        return [filling "condition" test, filling "consequence" body]
      return clause :: (← elifClauses fuel indent)
    else return []
termination_by structural fuel => fuel

def whileLoop : Nat → Nat → Parse Node
  | 0, _ => failure
  | fuel + 1, indent =>
    node "while_statement" do
      word "while"
      let test ← expression fuel
      let body ← suite fuel indent
      let orelse ← attachedSuite? fuel indent "else"
      return filling "condition" test :: filling "body" body ::
        (orelse.map (filling "alternative")).toList
termination_by structural fuel => fuel

/-- A definition, a loop or a `with` statement, which may be asynchronous. Only a definition may have
decorators. -/
def mayBeAsync : Nat → Nat → Bool → Parse Node
  | 0, _, _ => failure
  | fuel + 1, indent, isDecorated => do
    let start ← get
    let async ← wordToken? "async"
    if ← word? "def" then
      let found ← name
      typeParameters fuel
      let params ← node "parameters" do
        mark "("
        itemsUntil (parameter fuel true) ")" fuel
      let returns ← if ← mark? "->" then some <$> hint fuel false else pure none
      let body ← suite fuel indent
      close "function_definition" start
        (async.toList ++ filling "name" found :: filling "parameters" params ::
          ((returns.map (filling "return_type")).toList ++ [filling "body" body]))
    else if isDecorated then failure
    else if ← word? "for" then
      let target ← targetRow fuel
      word "in"
      let (iter, _) ← row fuel
      let body ← suite fuel indent
      let orelse ← attachedSuite? fuel indent "else"
      close "for_statement" start
        (async.toList ++ filling "left" target :: filling "right" iter :: filling "body" body ::
          (orelse.map (filling "alternative")).toList)
    else
      word "with"
      withItems fuel
      let _ ← suite fuel indent
      close "with_statement" start []
termination_by structural fuel => fuel

def handled : Nat → Nat → Parse Node
  | 0, _ => failure
  | fuel + 1, indent =>
    bare "try_statement" do
      word "try"
      let _ ← suite fuel indent
      if ← handlers fuel indent then
        let _ ← attachedSuite? fuel indent "else"
        let _ ← attachedSuite? fuel indent "finally"
      else if (← attachedSuite? fuel indent "finally").isNone then failure
termination_by structural fuel => fuel

/-- Whether there are `except` clauses, all of which are skipped. -/
def handlers : Nat → Nat → Parse Bool
  | 0, _ => failure
  | fuel + 1, indent => do
    if ← attached indent "except" then
      skip
      let _ ← mark? "*"
      if !(← atMark ":") then
        let _ ← items (expression fuel) fuel
        if ← word? "as" then
          let _ ← targetItem fuel
      let _ ← suite fuel indent
      let _ ← handlers fuel indent
      return true
    else return false
termination_by structural fuel => fuel

def classDef : Nat → Nat → Parse Node
  | 0, _ => failure
  | fuel + 1, indent =>
    node "class_definition" do
      word "class"
      let found ← name
      typeParameters fuel
      let bases ←
        if ← atMark "(" then
          some <$> node "argument_list" do
            skip
            itemsUntil (argument fuel) ")" fuel
        else pure none
      let body ← suite fuel indent
      return filling "name" found ::
        ((bases.map (filling "superclasses")).toList ++ [filling "body" body])
termination_by structural fuel => fuel

/-- Lines with one decorator each. -/
def decorators : Nat → Parse (List Node)
  | 0 => failure
  | fuel + 1 => do
    if ← atMark "@" then
      let first ← node "decorator" do
        skip
        return [← expression fuel]
      if !(← atLineEnd) then failure
      skip
      return first :: (← decorators fuel)
    else return []
termination_by structural fuel => fuel

def decorated : Nat → Nat → Parse Node
  | 0, _ => failure
  | fuel + 1, indent =>
    node "decorated_definition" do
      let found ← decorators fuel
      let definition ←
        if ← atWord "class" then classDef fuel indent else mayBeAsync fuel indent true
      return found ++ [filling "definition" definition]
termination_by structural fuel => fuel

/-- The arms of a match statement with an indentation, which are deeper. -/
def matchArms : Nat → Nat → Parse (List Node)
  | 0, _ => failure
  | fuel + 1, indent => do
    match ← peek? with
    | some (.lineStart found) => if indent < found then arms fuel found else return []
    | _ => return []
termination_by structural fuel => fuel

def arms : Nat → Nat → Parse (List Node)
  | 0, _ => failure
  | fuel + 1, indent => do
    match ← peek? with
    | some (.lineStart found) =>
      if found < indent then return []
      else
        skip
        let clause ← node "case_clause" do
          word "case"
          let patterns ← items (node "case_pattern" do return [← pattern fuel]) fuel
          let guard ←
            if ← atWord "if" then
              some <$> bare "if_clause" do
                skip
                expression fuel
            else pure none
          let body ← suite fuel indent
          return patterns ++ (guard.map (filling "guard")).toList ++ [filling "consequence" body]
        return clause :: (← arms fuel indent)
    | _ => return []
termination_by structural fuel => fuel

end

/-- The tree of a source, with nothing but an error in it where it breaks the grammar. -/
def treeOf (source : String) : Source.Tree :=
  let fuel := 32 * source.length + 64
  let found := do
    let tokens ← tokens? source.toList
    let (root, rest) ← (node "module" (block fuel 0)).run tokens
    if rest.isEmpty then some root else none
  match found with
  | some root => ⟨root, false⟩
  | none => ⟨.construct "ERROR" 0 source [], true⟩

/-- A parser of the language. Nothing in the library depends on it but the programs that are run: what
is read of a source is a matter of the tree that some parser gives. -/
def parser : Source.Parser := ⟨none, fun source => some (treeOf source)⟩

end Snippet.Python
