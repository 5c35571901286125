/-!
# Kinds of syntax nodes

The kinds of node in a Python syntax tree.  A kind that decides what happens to a node has a
constructor; all others are told apart by their names alone.
-/

namespace InterfaceStub.Syntax

/-- What a syntax node stands for. -/
inductive Kind where
  | block
  | parameters
  | lambdaParameters
  | defaultParameter
  | typedDefaultParameter
  | typedParameter
  | listSplatPattern
  | dictionarySplatPattern
  | listSplat
  | dictionarySplat
  | keywordSeparator
  | positionalSeparator
  | identifier
  | keywordIdentifier
  | tuplePattern
  | listPattern
  | patternList
  | expressionStatement
  | importStatement
  | importFromStatement
  | futureImportStatement
  | functionDefinition
  | decoratedDefinition
  | classDefinition
  | ifStatement
  | tryStatement
  | passStatement
  | elifClause
  | elseClause
  | finallyClause
  | decorator
  | asyncMark
  | assignment
  | augmentedAssignment
  | type
  | parenthesizedExpression
  | attribute
  | subscript
  | genericType
  | memberType
  | typeParameter
  | string
  | concatenatedString
  | stringStart
  | stringEnd
  | interpolation
  | integer
  | float
  | trueLiteral
  | falseLiteral
  | noneLiteral
  | ellipsis
  | list
  | tuple
  | expressionList
  | dictionary
  | set
  | call
  | notOperator
  | unaryOperator
  | keywordArgument
  | relativeImport
  | importPrefix
  | wildcardImport
  | aliasedImport
  | dottedName
  | comment
  /-- Any other kind. -/
  | other (text : String)
  deriving DecidableEq, Repr

namespace Kind

/-- The name that the grammar gives it. -/
def spelling : Kind → String
  | .block => "block"
  | .parameters => "parameters"
  | .lambdaParameters => "lambda_parameters"
  | .defaultParameter => "default_parameter"
  | .typedDefaultParameter => "typed_default_parameter"
  | .typedParameter => "typed_parameter"
  | .listSplatPattern => "list_splat_pattern"
  | .dictionarySplatPattern => "dictionary_splat_pattern"
  | .listSplat => "list_splat"
  | .dictionarySplat => "dictionary_splat"
  | .keywordSeparator => "keyword_separator"
  | .positionalSeparator => "positional_separator"
  | .identifier => "identifier"
  | .keywordIdentifier => "keyword_identifier"
  | .tuplePattern => "tuple_pattern"
  | .listPattern => "list_pattern"
  | .patternList => "pattern_list"
  | .expressionStatement => "expression_statement"
  | .importStatement => "import_statement"
  | .importFromStatement => "import_from_statement"
  | .futureImportStatement => "future_import_statement"
  | .functionDefinition => "function_definition"
  | .decoratedDefinition => "decorated_definition"
  | .classDefinition => "class_definition"
  | .ifStatement => "if_statement"
  | .tryStatement => "try_statement"
  | .passStatement => "pass_statement"
  | .elifClause => "elif_clause"
  | .elseClause => "else_clause"
  | .finallyClause => "finally_clause"
  | .decorator => "decorator"
  | .asyncMark => "async"
  | .assignment => "assignment"
  | .augmentedAssignment => "augmented_assignment"
  | .type => "type"
  | .parenthesizedExpression => "parenthesized_expression"
  | .attribute => "attribute"
  | .subscript => "subscript"
  | .genericType => "generic_type"
  | .memberType => "member_type"
  | .typeParameter => "type_parameter"
  | .string => "string"
  | .concatenatedString => "concatenated_string"
  | .stringStart => "string_start"
  | .stringEnd => "string_end"
  | .interpolation => "interpolation"
  | .integer => "integer"
  | .float => "float"
  | .trueLiteral => "true"
  | .falseLiteral => "false"
  | .noneLiteral => "none"
  | .ellipsis => "ellipsis"
  | .list => "list"
  | .tuple => "tuple"
  | .expressionList => "expression_list"
  | .dictionary => "dictionary"
  | .set => "set"
  | .call => "call"
  | .notOperator => "not_operator"
  | .unaryOperator => "unary_operator"
  | .keywordArgument => "keyword_argument"
  | .relativeImport => "relative_import"
  | .importPrefix => "import_prefix"
  | .wildcardImport => "wildcard_import"
  | .aliasedImport => "aliased_import"
  | .dottedName => "dotted_name"
  | .comment => "comment"
  | .other text => text

/-- Every one that has a constructor of its own. -/
def known : List Kind :=
  [.block, .parameters, .lambdaParameters, .defaultParameter, .typedDefaultParameter,
   .typedParameter, .listSplatPattern, .dictionarySplatPattern, .listSplat, .dictionarySplat,
   .keywordSeparator, .positionalSeparator, .identifier, .keywordIdentifier, .tuplePattern,
   .listPattern, .patternList, .expressionStatement, .importStatement, .importFromStatement,
   .futureImportStatement, .functionDefinition, .decoratedDefinition, .classDefinition,
   .ifStatement, .tryStatement, .passStatement, .elifClause, .elseClause, .finallyClause,
   .decorator, .asyncMark, .assignment, .augmentedAssignment, .type, .parenthesizedExpression,
   .attribute, .subscript, .genericType, .memberType, .typeParameter, .string, .concatenatedString,
   .stringStart, .stringEnd, .interpolation, .integer, .float, .trueLiteral, .falseLiteral,
   .noneLiteral, .ellipsis, .list, .tuple, .expressionList, .dictionary, .set, .call, .notOperator,
   .unaryOperator, .keywordArgument, .relativeImport, .importPrefix, .wildcardImport,
   .aliasedImport, .dottedName, .comment]

/-- The one with this spelling. -/
def ofSpelling (text : String) : Kind :=
  (known.find? (·.spelling == text)).getD (.other text)

end Kind

end InterfaceStub.Syntax
