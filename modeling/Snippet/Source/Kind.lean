namespace Snippet.Source

/-- The kinds of nodes that are read as expressions. -/
inductive ExprKind where
  | integer
  | float
  | string
  | concatenatedString
  | truth
  | falsity
  | nothing
  | identifier
  | keywordIdentifier
  | type
  | genericType
  | unionType
  | memberType
  | binaryOperator
  | comparisonOperator
  | booleanOperator
  | unaryOperator
  | notOperator
  | call
  | member
  | subscript
  | slice
  | list
  | tuple
  | expressionList
  | patternList
  | set
  | dictionary
  | listSplat
  | listSplatPattern
  | parenthesizedExpression
  | conditionalExpression
deriving DecidableEq, Repr

namespace ExprKind

def all : List ExprKind :=
  [.integer, .float, .string, .concatenatedString, .truth, .falsity, .nothing, .identifier,
   .keywordIdentifier, .type, .genericType, .unionType, .memberType, .binaryOperator,
   .comparisonOperator, .booleanOperator, .unaryOperator, .notOperator, .call, .member,
   .subscript, .slice, .list, .tuple, .expressionList, .patternList, .set, .dictionary,
   .listSplat, .listSplatPattern, .parenthesizedExpression, .conditionalExpression]

/-- The name of the kind in a tree. -/
def name : ExprKind → String
  | integer => "integer"
  | float => "float"
  | string => "string"
  | concatenatedString => "concatenated_string"
  | truth => "true"
  | falsity => "false"
  | nothing => "none"
  | identifier => "identifier"
  | keywordIdentifier => "keyword_identifier"
  | type => "type"
  | genericType => "generic_type"
  | unionType => "union_type"
  | memberType => "member_type"
  | binaryOperator => "binary_operator"
  | comparisonOperator => "comparison_operator"
  | booleanOperator => "boolean_operator"
  | unaryOperator => "unary_operator"
  | notOperator => "not_operator"
  | call => "call"
  | member => "attribute"
  | subscript => "subscript"
  | slice => "slice"
  | list => "list"
  | tuple => "tuple"
  | expressionList => "expression_list"
  | patternList => "pattern_list"
  | set => "set"
  | dictionary => "dictionary"
  | listSplat => "list_splat"
  | listSplatPattern => "list_splat_pattern"
  | parenthesizedExpression => "parenthesized_expression"
  | conditionalExpression => "conditional_expression"

def ofName? (name : String) : Option ExprKind := all.find? (·.name == name)

theorem name_of_ofName? {name : String} {kind : ExprKind} (h : ofName? name = some kind) :
    kind.name = name := by
  simpa using List.find?_some h

end ExprKind

/-- The kinds of nodes that are read as statements or refused as such. A node of any other kind is an
expression where a statement stands. -/
inductive StatementKind where
  | expressionStatement
  | assignment
  | augmentedAssignment
  | ifStatement
  | forStatement
  | whileStatement
  | returnStatement
  | passStatement
  | breakStatement
  | continueStatement
  | functionDefinition
  | classDefinition
  | matchStatement
  | importStatement
  | importFromStatement
  | deleteStatement
  | typeAliasStatement
  | withStatement
  | tryStatement
  | globalStatement
  | nonlocalStatement
  | raiseStatement
  | assertStatement
  | printStatement
  | execStatement
  | futureImportStatement
deriving DecidableEq, Repr

namespace StatementKind

def all : List StatementKind :=
  [.expressionStatement, .assignment, .augmentedAssignment, .ifStatement, .forStatement,
   .whileStatement, .returnStatement, .passStatement, .breakStatement, .continueStatement,
   .functionDefinition, .classDefinition, .matchStatement, .importStatement,
   .importFromStatement, .deleteStatement, .typeAliasStatement, .withStatement, .tryStatement,
   .globalStatement, .nonlocalStatement, .raiseStatement, .assertStatement, .printStatement,
   .execStatement, .futureImportStatement]

/-- The name of the kind in a tree. -/
def name : StatementKind → String
  | expressionStatement => "expression_statement"
  | assignment => "assignment"
  | augmentedAssignment => "augmented_assignment"
  | ifStatement => "if_statement"
  | forStatement => "for_statement"
  | whileStatement => "while_statement"
  | returnStatement => "return_statement"
  | passStatement => "pass_statement"
  | breakStatement => "break_statement"
  | continueStatement => "continue_statement"
  | functionDefinition => "function_definition"
  | classDefinition => "class_definition"
  | matchStatement => "match_statement"
  | importStatement => "import_statement"
  | importFromStatement => "import_from_statement"
  | deleteStatement => "delete_statement"
  | typeAliasStatement => "type_alias_statement"
  | withStatement => "with_statement"
  | tryStatement => "try_statement"
  | globalStatement => "global_statement"
  | nonlocalStatement => "nonlocal_statement"
  | raiseStatement => "raise_statement"
  | assertStatement => "assert_statement"
  | printStatement => "print_statement"
  | execStatement => "exec_statement"
  | futureImportStatement => "future_import_statement"

def ofName? (name : String) : Option StatementKind := all.find? (·.name == name)

theorem name_of_ofName? {name : String} {kind : StatementKind} (h : ofName? name = some kind) :
    kind.name = name := by
  simpa using List.find?_some h

end StatementKind

end Snippet.Source
