namespace Snippet.Source

/-- The reasons for which a node is not read though the source is right. -/
inductive Refusal where
  | statement
  | expression
  | complexLiteral
  | interpolation
  | bytesLiteral
  | dictionarySplat
  | keywordArgument
  | keywordSplat
  | generatorArgument
  | classKeyword
  | relativeImport
  | annotatedChain
  | augmentedChain
  | whileElse
  | forElse
  | parameter
  | splatParameter
  | destructuringParameter
  | caseGuard
  | sequencePattern
  | casePattern
deriving DecidableEq, Repr

/-- What a node of a kind is refused as. -/
def Refusal.describe (kind : String) : Refusal → String
  | statement => "statement \x60" ++ kind ++ "\x60"
  | expression => "expression \x60" ++ kind ++ "\x60"
  | complexLiteral => "complex literal"
  | interpolation => "f-string interpolation"
  | bytesLiteral => "bytes literal"
  | dictionarySplat => "dictionary splat"
  | keywordArgument => "keyword argument"
  | keywordSplat => "keyword splat"
  | generatorArgument => "generator argument"
  | classKeyword => "class keyword argument"
  | relativeImport => "relative import"
  | annotatedChain => "annotated chained assignment"
  | augmentedChain => "chained augmented assignment"
  | whileElse => "while/else"
  | forElse => "for/else"
  | parameter => "parameter kind"
  | splatParameter => "splat parameter"
  | destructuringParameter => "destructuring parameter"
  | caseGuard => "case guard"
  | sequencePattern => "sequence pattern"
  | casePattern => "case pattern"

/-- Why a text is not an integer that a tree can hold. -/
inductive IntegerFault where
  | empty
  | strayLetter
  | tooLarge
  | tooSmall
deriving DecidableEq, Repr

def IntegerFault.message : IntegerFault → String
  | empty => "cannot parse integer from empty string"
  | strayLetter => "invalid digit found in string"
  | tooLarge => "number too large to fit in target type"
  | tooSmall => "number too small to fit in target type"

inductive FloatFault where
  | empty
  | invalid
deriving DecidableEq, Repr

def FloatFault.message : FloatFault → String
  | empty => "cannot parse float from empty string"
  | invalid => "invalid float literal"

/-- Nodes without the children that their kind asks for. -/
inductive Gap where
  | statement
  | deletion
  | typeAlias
  | decorator
  | subject
  | dottedName
  | splat
  | hint
  | genericType
  | unionType
  | memberType
  | parentheses
  | conditional
  | comparison
  | leftOperand
  | index
deriving DecidableEq, Repr

def Gap.message : Gap → String
  | statement => "expression_statement has no child"
  | deletion => "del without target"
  | typeAlias => "malformed type alias"
  | decorator => "empty decorator"
  | subject => "match without subject"
  | dottedName => "empty dotted name"
  | splat => "empty splat"
  | hint => "empty type"
  | genericType => "malformed generic type"
  | unionType => "malformed union type"
  | memberType => "malformed member type"
  | parentheses => "parenthesized_expression missing inner"
  | conditional => "conditional_expression needs 3 parts"
  | comparison => "malformed comparison"
  | leftOperand => "comparison missing left operand"
  | index => "subscript missing index"

/-- The operators of a node whose spelling is looked up. -/
inductive OperatorSort where
  | augmented
  | binary
  | unary
  | comparison
  | boolean
deriving DecidableEq, Repr

def OperatorSort.name : OperatorSort → String
  | augmented => "augmented"
  | binary => "binary"
  | unary => "unary"
  | comparison => "comparison"
  | boolean => "boolean"

inductive ReadError where
  /-- The parser cannot be set up. -/
  | noParser (reason : String)
  | noTree
  | invalidSource
  | missing (kind field : String)
  | incomplete (gap : Gap)
  | unknownOperator (sort : OperatorSort) (text : String)
  | badInteger (text : String) (fault : IntegerFault)
  | badFloat (text : String) (fault : FloatFault)
  | malformedString (text : String)
  | unterminatedString (text : String)
  | unexpected (expected got : String)
  | refused (refusal : Refusal) (line : UInt64) (kind : String)
deriving DecidableEq, Repr

/-- What a source is taken for that is not read. -/
inductive ReadError.Sort where
  | parse
  | unsupported
  | unexpected
deriving DecidableEq, Repr

def ReadError.sort : ReadError → ReadError.Sort
  | refused .. => .unsupported
  | unexpected .. => .unexpected
  | _ => .parse

/-- The reason without the sort of the error before it. -/
def ReadError.reason : ReadError → String
  | noParser reason => reason
  | noTree => "failed to parse"
  | invalidSource => "syntax error in source"
  | missing kind field => kind ++ " missing " ++ field
  | incomplete gap => gap.message
  | unknownOperator sort text => "unknown " ++ sort.name ++ " op: " ++ text
  | badInteger text fault => "bad integer " ++ text ++ ": " ++ fault.message
  | badFloat text fault => "bad float " ++ text ++ ": " ++ fault.message
  | malformedString text => "malformed string: " ++ text
  | unterminatedString text => "unterminated string: " ++ text
  | unexpected expected got => "expected " ++ expected ++ ", got " ++ got
  | refused refusal line kind =>
    refusal.describe kind ++ " at line " ++ toString line ++ " (" ++ kind ++ ")"

def ReadError.message (error : ReadError) : String :=
  match error.sort with
  | .parse => "parse error: " ++ error.reason
  | .unsupported => "unsupported syntax: " ++ error.reason
  | .unexpected => error.reason

end Snippet.Source
