import JsxLowering.Decimal.Binary64

/-!
# Forms of host syntax

The form of a node says which construct of the host language it is and holds everything about it that is not a
part of its own: names, literal values, operators as they are written, and modifiers. What the parts of a node
are is said beside each form; a part that is not written is a node of the form `absent`.
-/

namespace JsxLowering

/-- Where a function or class stands. -/
inductive Role where
  /-- A statement of its own. -/
  | declaration
  /-- An expression; `kept` says that it was written directly in parentheses, which its printed form keeps. -/
  | expression (kept : Bool)
  /-- The parameters and the body of a method. -/
  | method
  deriving DecidableEq, Repr

/-- What a method is called for. -/
inductive MethodKind where
  | plain
  | getter
  | setter
  deriving DecidableEq, Repr

/-- The constructs of the host language. -/
inductive Form where
  /-- A part that is not written. -/
  | absent
  /-- A run of parts. -/
  | list
  -- names
  /-- A reference to a binding. -/
  | name (text : String)
  /-- A name that is bound here. -/
  | binding (text : String)
  /-- A property name, a label or a name of an export. -/
  | key (text : String)
  | privateName (text : String)
  -- literals
  | this
  | super
  | null
  | boolean (value : Bool)
  /-- A string; `surrogates` says that its value holds halves of surrogate pairs, each kept as the replacement character
  and four digits. -/
  | string (value : String) (surrogates : Bool)
  | number (value : Decimal.Binary64) (raw : String)
  /-- A big integer. -/
  | bigint (value : Nat)
  | regex (pattern flags : String)
  /-- Text of a template between its expressions, as it is written. -/
  | templateText (raw : String)
  -- expressions
  /-- Texts and expressions in turn, a text first and last. -/
  | template
  /-- Tag, template. -/
  | taggedTemplate
  /-- The elements. -/
  | array
  /-- An element that is left out. -/
  | hole
  /-- The properties. -/
  | object
  /-- Key, value. -/
  | property (shorthand computed : Bool)
  /-- Key, function. -/
  | objectMethod (kind : MethodKind) (computed : Bool)
  /-- Argument. -/
  | spread
  /-- Object, key. -/
  | member (optional : Bool)
  /-- Object, index. -/
  | index (optional : Bool)
  /-- Callee, then the arguments. -/
  | call (optional pure : Bool)
  /-- Callee, then the arguments. -/
  | construct (pure : Bool)
  /-- The expression that an optional access ends in. -/
  | chain
  /-- The expression in parentheses. -/
  | paren
  /-- The expressions. -/
  | sequence
  /-- Operand. -/
  | unary (operator : String)
  /-- Operand; `before` says that the operator comes first. -/
  | update (operator : String) (before : Bool)
  /-- Left and right operand. -/
  | binary (operator : String)
  /-- Test and the two branches. -/
  | conditional
  /-- Target, value. -/
  | assignment (operator : String)
  /-- Operand. -/
  | await
  /-- Operand, if any. -/
  | yield (delegate : Bool)
  /-- Type parameters, parameters, return type, body: an expression or a function body. `kept` says that it was written
  directly in parentheses, `effectless` that a comment calls it free of effects. -/
  | arrow (async kept effectless : Bool)
  /-- Name, type parameters, parameters, return type, body. `effectless` says that a comment calls it free of
  effects. -/
  | function (role : Role) (async generator declared effectless : Bool)
  /-- Decorators, name, type parameters, superclass, its type arguments, implemented types, body. -/
  | classDefinition (role : Role) (modifiers : List String)
  /-- Source and, if any, options; `phase` is the word between `import.` and the parentheses, or nothing. -/
  | importCall (phase : String)
  /-- The keyword and its property, as in `import.meta`. -/
  | metaProperty
  -- targets
  /-- The properties. -/
  | objectPattern
  /-- The elements. -/
  | arrayPattern
  /-- Key, target. -/
  | patternProperty (shorthand computed : Bool)
  /-- Target of a binding. -/
  | rest
  /-- Target of a destructuring assignment. -/
  | restTarget
  /-- Target, default value. -/
  | defaulted
  /-- The properties of a destructuring assignment. -/
  | objectTarget
  /-- The elements of a destructuring assignment. -/
  | arrayTarget
  /-- The parameters. -/
  | parameters
  /-- Decorators, target. -/
  | parameter (modifiers : List String)
  /-- Target, type; `mark` is `?` or `!` or nothing. -/
  | typed (mark : String)
  -- statements
  /-- Directives and statements. -/
  | program (hashbang : Option String)
  /-- Directives and statements. -/
  | functionBody
  /-- The text of a directive between its quotes, as it is written. -/
  | directive (raw : String)
  /-- Expression. -/
  | expressionStatement
  /-- The statements. -/
  | block
  | empty
  /-- Test, consequent and, if any, alternate. -/
  | branch
  /-- Initialisation, test, update, body. -/
  | forLoop
  /-- Left, right, body. -/
  | forIn
  /-- Left, right, body. -/
  | forOf (await : Bool)
  /-- Test, body. -/
  | whileLoop
  /-- Body, test. -/
  | doWhile
  /-- Label, if any. -/
  | continueLoop
  /-- Label, if any. -/
  | breakOut
  /-- Value, if any. -/
  | returnValue
  /-- Value. -/
  | throwValue
  /-- Object, body. -/
  | withScope
  /-- Discriminant, then the cases. -/
  | switch
  /-- Test, absent for the default case, then the statements. -/
  | switchCase
  /-- Label, body. -/
  | labeled
  /-- Block, handler, finalizer. -/
  | tryBlock
  /-- Parameter, block. -/
  | catchClause
  | debugger
  /-- The declarators. -/
  | variableDeclaration (keyword : String) (declared : Bool)
  /-- Target and, if any, value. -/
  | declarator
  -- classes
  /-- The members. -/
  | classBody
  /-- The decorators. -/
  | decorators
  /-- Expression. -/
  | decorator
  /-- Decorators, key, function. -/
  | method (modifiers : List String) (kind : MethodKind) (computed optional : Bool)
  /-- Decorators, key, type, value. -/
  | field (modifiers : List String) (computed : Bool) (mark : String)
  /-- The value that a field starts with. -/
  | fieldValue
  /-- The statements. -/
  | staticBlock
  -- modules
  /-- Specifiers, source, attributes. -/
  | importDeclaration (kind : String)
  /-- The specifiers. -/
  | importClause
  /-- Binding. -/
  | importDefault
  /-- Binding. -/
  | importNamespace
  /-- Imported name, binding. -/
  | importNamed (typeOnly : Bool)
  /-- The attributes after the given keyword. -/
  | importAttributes (keyword : String)
  /-- Key, value. -/
  | importAttribute
  /-- List of specifiers, source, attributes. -/
  | exportNamed (typeOnly : Bool)
  /-- Local name, exported name. -/
  | exportSpecifier (typeOnly : Bool)
  /-- Declaration. -/
  | exportDeclaration
  /-- Declaration or expression. -/
  | exportDefault
  /-- Exported name, source, attributes. -/
  | exportAll (typeOnly : Bool)
  /-- Expression. -/
  | exportEquals
  /-- Name. -/
  | exportNamespace
  /-- Binding, module reference. -/
  | importEquals
  /-- Source. -/
  | externalModule
  -- expressions with types
  /-- Expression, type. -/
  | ascription (keyword : String)
  /-- Expression. -/
  | nonNull
  /-- Type, expression. -/
  | assertion
  /-- Expression, type arguments. -/
  | instantiation
  -- types
  | typeKeyword (text : String)
  /-- Name, type arguments. -/
  | typeReference
  /-- Left, right. -/
  | qualified
  /-- The arguments. -/
  | typeArguments
  /-- The parameters. -/
  | typeParameters
  /-- Name, constraint, default. -/
  | typeParameter (modifiers : List String)
  /-- The alternatives. -/
  | unionType
  /-- The components. -/
  | intersectionType
  /-- Element type. -/
  | arrayType
  /-- Type, index. -/
  | indexedType
  /-- The elements. -/
  | tupleType
  /-- Name, type. -/
  | tupleMember (optional : Bool)
  /-- Type. -/
  | optionalType
  /-- Type. -/
  | restType
  /-- Type parameters, parameters, result. -/
  | functionType (lead : String)
  /-- The members. -/
  | typeLiteral
  /-- Name, constraint, renaming, type. -/
  | mappedType (readonlyMark optionalMark : String)
  /-- Checked type, extended type and the two branches. -/
  | conditionalType
  /-- Type parameter. -/
  | inferType
  /-- Type. -/
  | parenType
  /-- Type. -/
  | typeOperator (operator : String)
  /-- Name, type arguments. -/
  | typeQuery
  /-- Source, qualifier, type arguments. -/
  | importType
  /-- Literal. -/
  | literalType
  /-- Texts and types in turn. -/
  | templateType
  /-- Name, type. -/
  | predicate (asserts : Bool)
  /-- Key, type. -/
  | propertySignature (modifiers : List String) (computed optional : Bool)
  /-- Key, type parameters, parameters, result. -/
  | methodSignature (kind : MethodKind) (computed optional : Bool)
  /-- Type parameters, parameters, result. -/
  | callSignature (lead : String)
  /-- Parameter name, its type, type. -/
  | indexSignature (modifiers : List String)
  -- declarations of types
  /-- Name, type parameters, extended types, body. -/
  | interface (declared : Bool)
  /-- The members. -/
  | interfaceBody
  /-- Expression, type arguments. -/
  | heritage
  /-- Name, type parameters, type. -/
  | typeAlias (declared : Bool)
  /-- Name, body. -/
  | enum (modifiers : List String)
  /-- The members. -/
  | enumBody
  /-- Key, value. -/
  | enumMember (computed : Bool)
  /-- Name, body. -/
  | moduleBlock (keyword : String) (declared : Bool)
  /-- Directives and statements. -/
  | moduleBody

end JsxLowering
