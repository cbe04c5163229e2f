/-!
# Faults of a source text

Why a source text does not parse. Some faults end the parse; others are noted and parsing goes on.
-/

namespace JsxLowering

/-- A fault of a source text. -/
inductive Fault where
  /-- A token that cannot stand where it does. -/
  | unexpectedToken
  /-- A fixed token was needed and another found. -/
  | expected (wanted found : String)
  /-- A separator or the end of a list was needed. -/
  | expectedOneOf (separator closing found : String)
  | unexpectedEnd
  /-- A text that is written for another language with types. -/
  | foreignTypes
  -- markup
  /-- A closing tag does not match the opening tag of the given name. -/
  | closingTag (name : String)
  /-- An attribute with nothing between its braces. -/
  | emptyAttribute
  /-- A closing brace in text between tags. -/
  | braceInText
  /-- A closing angle bracket in text between tags. -/
  | angleInText
  /-- A hyphen after a dot in an element name. -/
  | hyphenInMember
  /-- Markup in a source type without markup. -/
  | markupNotAllowed
  -- tokens
  | unterminatedString
  | unterminatedComment
  | unterminatedRegex
  | invalidCharacter (c : Char)
  | invalidNumberEnd
  | invalidEscape
  | invalidUnicodeEscape
  /-- A faulty escape in a template that no function interprets. -/
  | invalidTemplateEscape
  | unknownFlag (c : Char)
  | repeatedFlag (c : Char)
  | escapedKeyword
  -- names
  /-- A reserved word where a name is bound. -/
  | reservedName (text : String)
  | nameExpected
  | functionNameExpected
  /-- A word that is a name elsewhere but an operator in an asynchronous function. -/
  | nameInAsync (text : String)
  /-- A word that is a name elsewhere but an operator in a generator. -/
  | nameInGenerator (text : String)
  -- statements
  | missingSemicolon
  | missingInitializer
  | missingDestructured
  | missingResource
  | returnOutsideFunction
  | newlineAfterThrow
  | missingHandler
  /-- A declaration of a block where a single statement stands. -/
  | declarationAlone
  | classAlone
  | asyncFunctionAlone
  | generatorAlone
  | asyncBeforeOf
  | letBeforeOf
  | awaitWithoutOf
  -- expressions
  | emptyParentheses
  | commaInParentheses
  | invalidAssignment
  /-- A default value in an object that takes nothing apart. -/
  | defaultInObject
  | mixedNullish
  | ambiguousPower
  | awaitOutsideAsync
  | yieldOutsideGenerator
  | superAlone
  | importMeta
  | newTarget
  | newImport
  | importWithoutSource
  | importArguments
  | newOptional
  | optionalTemplate
  | newlineBeforeArrow
  -- targets and parameters
  | spreadNotLast
  | restNotLast
  | restParameterNotLast
  | commaAfterRest
  | invalidRest
  | optionalRest
  | defaultedRest
  | getterParameters
  | setterParameters
  | setterRest
  | arrowReceiver
  | foreignModifier
  -- classes
  | accessorConstructor
  | asyncConstructor
  | generatorConstructor
  | fieldConstructor
  | privateConstructor
  | staticPrototype
  | severalSuperclasses
  | secondExtends
  | lateExtends
  | secondImplements
  -- modules
  | exportedReserved
  | exportedString
  | exportedSurrogate
  | duplicateExport (name : String)
  | exportedResource
  | scatteredDecorators
  deriving DecidableEq, Repr

namespace Fault

/-- The message of a fault. -/
def message : Fault → String
  | unexpectedToken => "Unexpected token"
  | expected wanted found => "Expected `" ++ wanted ++ "` but found `" ++ found ++ "`"
  | expectedOneOf separator closing found =>
    "Expected `" ++ separator ++ "` or `" ++ closing ++ "` but found `" ++ found ++ "`"
  | unexpectedEnd => "Unexpected end of file"
  | foreignTypes => "Flow is not supported"
  | closingTag name => "Expected corresponding JSX closing tag for '" ++ name ++ "'."
  | emptyAttribute => "JSX attributes must only be assigned a non-empty 'expression'."
  | braceInText => "Unexpected token. Did you mean `\x7b'\x7d'\x7d` or `&rbrace;`?"
  | angleInText => "Unexpected token. Did you mean `\x7b'>'\x7d` or `&gt;`?"
  | hyphenInMember => "Identifiers in JSX cannot contain hyphens"
  | markupNotAllowed => "Unexpected JSX expression"
  | unterminatedString => "Unterminated string"
  | unterminatedComment => "Unterminated multiline comment"
  | unterminatedRegex => "Unterminated regular expression"
  | invalidCharacter c => "Invalid Character `" ++ c.toString ++ "`"
  | invalidNumberEnd => "Invalid characters after number"
  | invalidEscape => "Invalid escape sequence"
  | invalidUnicodeEscape => "Invalid Unicode escape sequence"
  | invalidTemplateEscape => "Bad escape sequence in untagged template literal"
  | unknownFlag c => "Unexpected flag " ++ c.toString ++ " in regular expression literal"
  | repeatedFlag c => "Flag " ++ c.toString ++ " is mentioned twice in regular expression literal"
  | escapedKeyword => "Keywords cannot contain escape characters"
  | reservedName text => "Identifier expected. '" ++ text ++ "' is a reserved word that cannot be used here."
  | nameExpected => "Identifier expected."
  | functionNameExpected => "Expected function name"
  | nameInAsync text => "Cannot use `" ++ text ++ "` as an identifier in an async context"
  | nameInGenerator text => "Cannot use `" ++ text ++ "` as an identifier in a generator context"
  | missingSemicolon => "Expected a semicolon or an implicit semicolon after a statement, but found none"
  | missingInitializer => "Missing initializer in const declaration"
  | missingDestructured => "Missing initializer in destructuring declaration"
  | missingResource => "Using declarations must have an initializer."
  | returnOutsideFunction => "A 'return' statement can only be used within a function body."
  | newlineAfterThrow => "Illegal newline after throw"
  | missingHandler => "Missing catch or finally clause"
  | declarationAlone => "Lexical declaration cannot appear in a single-statement context"
  | classAlone => "Invalid class declaration"
  | asyncFunctionAlone => "Async functions can only be declared at the top level or inside a block"
  | generatorAlone => "Generators can only be declared at the top level or inside a block"
  | asyncBeforeOf => "The left-hand side of a `for...of` statement may not be `async`"
  | letBeforeOf => "The left-hand side of a `for...of` statement may not start with `let`"
  | awaitWithoutOf => "await can only be used in conjunction with `for...of` statements"
  | emptyParentheses => "Empty parenthesized expression"
  | commaInParentheses => "Parenthesized expressions may not have a trailing comma."
  | invalidAssignment => "Cannot assign to this expression"
  | defaultInObject => "Invalid assignment in object literal"
  | mixedNullish => "Logical expressions and coalesce expressions cannot be mixed"
  | ambiguousPower => "Unexpected exponentiation expression"
  | awaitOutsideAsync => "`await` is only allowed within async functions and at the top levels of modules"
  | yieldOutsideGenerator => "A 'yield' expression is only allowed in a generator body."
  | superAlone => "'super' can only be used with function calls or in property accesses"
  | importMeta => "The only valid meta property for import is import.meta"
  | newTarget => "The only valid meta property for new is new.target"
  | newImport => "Cannot use new with dynamic import"
  | importWithoutSource => "import() requires a specifier."
  | importArguments =>
    "Dynamic imports can only accept a module specifier and an optional set of attributes as arguments"
  | newOptional => "Invalid optional chain from new expression."
  | optionalTemplate => "Tagged template expressions are not permitted in an optional chain"
  | newlineBeforeArrow => "Line terminator not permitted before arrow"
  | spreadNotLast => "Spread must be last element"
  | restNotLast => "A rest element must be last in a destructuring pattern"
  | restParameterNotLast => "A rest parameter must be last in a parameter list"
  | commaAfterRest => "A rest parameter or binding pattern may not have a trailing comma."
  | invalidRest => "Invalid rest element"
  | optionalRest => "A rest parameter cannot be optional"
  | defaultedRest => "A rest element cannot have an initializer"
  | getterParameters => "A 'get' accessor must not have any formal parameters."
  | setterParameters => "A 'set' accessor must have exactly one parameter."
  | setterRest => "A 'set' accessor cannot have rest parameter."
  | arrowReceiver => "An arrow function cannot have a 'this' parameter."
  | foreignModifier => "Parameter modifiers can only be used in TypeScript files."
  | accessorConstructor => "Constructor can't have get/set modifier"
  | asyncConstructor => "Constructor can't be an async method"
  | generatorConstructor => "Constructor can't be a generator"
  | fieldConstructor => "Classes can't have a field named 'constructor'"
  | privateConstructor => "Classes can't have an element named '#constructor'"
  | staticPrototype => "Classes may not have a static property named 'prototype'"
  | severalSuperclasses => "Classes can only extend a single class."
  | secondExtends => "'extends' clause already seen."
  | lateExtends => "'extends' clause must precede 'implements' clause."
  | secondImplements => "'implements' clause already seen."
  | exportedReserved => "A reserved word cannot be used as an exported binding without `from`"
  | exportedString => "A string literal cannot be used as an exported binding without `from`"
  | exportedSurrogate => "An export name cannot include a unicode lone surrogate"
  | duplicateExport name => "Duplicated export '" ++ name ++ "'"
  | exportedResource => "Using declarations cannot be exported directly."
  | scatteredDecorators =>
    "Decorators may not appear after 'export' or 'export default' if they also appear before 'export'."

end Fault

end JsxLowering
