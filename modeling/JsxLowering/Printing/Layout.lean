import JsxLowering.Printing.Type

/-!
# Layout of every form

`layout` says how a node is printed from its pieces. A node whose parts are not those of its form prints
nothing; the grammar makes no such node.
-/

namespace JsxLowering.Printing

/-- Prints a declaration. If it is a statement, `opening` comes before it and `closing` after it. -/
def declaration (place : Place) (opening closing text : Printer Unit) : Printer Unit := do
  if place.isStatement then opening
  text
  if place.isStatement then closing

/-- Prints a function. The comment that its calls have no effect stands on a line before a declaration. -/
def functionDeclaration (span : Span) (effectless : Bool) (place : Place) (text : Printer Unit) : Printer Unit :=
  declaration place (do
    commentsAt span.start
    if effectless then
      indentation
      put (effectlessComment ++ "\n")
    indentation) newline text

/-- Prints names and literals. -/
def literalLayout (form : Form) (span : Span) : Printer Unit :=
  match form with
  | .name text => name span text
  | .binding text => name span text
  | .key text => name span text
  | .privateName text => do
    put "#"
    noteOrigin (.named span text)
    put text
  | .this => markedWord span "this"
  | .super => markedWord span "super"
  | .null => markedWord span "null"
  | .boolean value => markedWord span (if value then "true" else "false")
  | .string value surrogates => stringLiteral span value surrogates
  | .number value _ => numberLiteral span value
  | .bigint value => markedWord span (toString value ++ "n")
  | .regex pattern flags => regexLiteral span pattern flags
  | _ => return

/-- Prints expressions that have parts. -/
def expressionLayout (form : Form) (span : Span) (pieces : List Piece) (place : Place) : Printer Unit :=
  match form, pieces with
  | .template, pieces => template span pieces
  | .taggedTemplate, [tag, text] => do
    mark span
    tag.operand .after
    text.inline
  | .array, pieces => array span pieces
  | .object, pieces => object span place.limits pieces
  | .property written computed, [k, value] => property span written computed k value
  | .objectMethod kind computed, [k, function] => objectMethod span kind computed place.limits k function
  | .spread, [argument] => spread span argument
  | .member optional, [object, k] => member optional place object k
  | .index optional, [object, i] => index optional place object i
  | .call optional isPure, callee :: pieces => call span optional isPure place callee pieces
  | .construct isPure, callee :: pieces => construct span isPure place callee pieces
  | .chain, [inner] => parensIf (Level.after ≤ place.level) (inner.print place)
  | .paren, [inner] => inner.print place
  | .sequence, pieces => sequence place pieces
  | .unary operator, [operand] => unary span operator place operand
  | .update operator before, [operand] => update span operator before place operand
  | .binary operator, [left, right] => binary operator place left right
  | .conditional, [test, yes, no] => conditional place test yes no
  | .assignment operator, [target, value] => assignment span operator place target value
  | .await, pieces => keywordOperand span "await" .before .power place pieces
  | .yield delegate, pieces =>
    keywordOperand span (if delegate then "yield*" else "yield") .assign .yields place pieces
  | .arrow async kept effectless, [typeParameters, params, result, body] =>
    arrow span async kept effectless place typeParameters params result body
  | .importCall phase, pieces => importCall span phase place pieces
  | .metaProperty, [keyword, k] => do
    keyword.inline
    put "."
    k.inline
  | .ascription keyword, [expression, type] => ascription keyword place expression type
  | .nonNull, [expression] => nonNull place expression
  | .assertion, [type, expression] => assertion place type expression
  | .instantiation, [expression, arguments] => instantiation place expression arguments
  | _, _ => return

/-- Prints targets and parameters. -/
def targetLayout (form : Form) (span : Span) (pieces : List Piece) : Printer Unit :=
  match form, pieces with
  | .objectPattern, pieces => objectPattern span pieces
  | .objectTarget, pieces => objectTarget span pieces
  | .arrayPattern, pieces => arrayPattern span pieces
  | .arrayTarget, pieces => arrayPattern span pieces
  | .patternProperty written computed, [k, target] => patternProperty written computed k target
  | .rest, [target] => do
    mark span
    rest target
  | .restTarget, [target] => rest target
  | .defaulted, [target, value] => defaulted target value
  | .parameters, pieces => parameters pieces
  | .parameter modifiers, [decorated, target] => parameter span modifiers decorated target
  | .typed sign, [target, type] => typed sign target type
  | .decorators, pieces => decorators pieces
  | .decorator, [expression] => decorator span expression
  | _, _ => return

/-- Prints functions and classes with their members. -/
def definitionLayout (form : Form) (span : Span) (pieces : List Piece) (place : Place) : Printer Unit :=
  match form, pieces with
  | .function .method _ _ _ _, [_, typeParameters, params, result, body] =>
    functionTail place.limits typeParameters params result body
  | .function role async generator declared effectless, [identifier, typeParameters, params, result, body] =>
    functionDeclaration span effectless place
      (function span role async generator declared effectless place.limits identifier typeParameters params result body)
  | .functionBody, pieces => functionBody span place.limits pieces
  | .classDefinition role modifiers, [decorated, identifier, typeParameters, superclass, arguments, implemented, body] =>
    declaration place (declarationOpening span) newline
      (classDefinition span role modifiers place.limits decorated identifier typeParameters superclass arguments
        implemented body)
  | .classBody, pieces => classBody span place.limits pieces
  | .method modifiers kind computed optional, [decorated, k, function] =>
    method span modifiers kind computed optional place.limits decorated k function
  | .field modifiers computed sign, [decorated, k, type, value] =>
    field span modifiers computed sign decorated k type value
  | .fieldValue, [value] => value.operand .comma
  | .staticBlock, pieces => staticBlock span place.limits pieces
  | _, _ => return

/-- Prints statements. -/
def statementLayout (form : Form) (span : Span) (pieces : List Piece) (place : Place) : Printer Unit :=
  let limits := place.limits
  match form, pieces with
  | .directive raw, _ => directive span raw
  | .expressionStatement, [expression] => expressionStatement span expression
  | .block, pieces => declaration place (declarationOpening span) newline (block span limits pieces)
  | .empty, _ => simple span (return)
  | .branch, test :: consequent :: other => do
    if place.isStatement then opening span
    branch limits test consequent other.head?
  | .forLoop, [init, test, update, inner] => do
    opening span
    forLoop limits init test update inner
  | .forIn, [left, right, inner] => do
    opening span
    eachLoop "for" "in" .lowest limits left right inner
  | .forOf awaits, [left, right, inner] => do
    opening span
    eachLoop (if awaits then "for await" else "for") "of" .comma limits left right inner
  | .whileLoop, [test, inner] => do
    opening span
    headed "while (" limits test inner
  | .doWhile, [inner, test] => do
    opening span
    doWhile limits inner test
  | .continueLoop, pieces => simple span (keyworded "continue" pieces)
  | .breakOut, pieces => simple span (keyworded "break" pieces)
  | .returnValue, pieces => simple span (keyworded "return" pieces)
  | .throwValue, pieces => simple span (keyworded "throw" pieces)
  | .withScope, [object, inner] => do
    opening span
    headed "with(" limits object inner
  | .switch, discriminant :: cases => do
    opening span
    switch span limits discriminant cases
  | .switchCase, test :: pieces => switchCase span limits test pieces
  | .labeled, [label, inner] => do
    opening span
    labeled limits label inner
  | .tryBlock, [inner, handler, finalizer] => do
    opening span
    tryBlock limits inner handler finalizer
  | .catchClause, [param, inner] => catchClause span limits param inner
  | .debugger, _ => simple span (word "debugger")
  | .variableDeclaration keyword declared, pieces =>
    declaration place (declarationOpening span) endStatement
      (variableDeclaration span keyword declared limits pieces)
  | .declarator, target :: value => declarator limits target value.head?
  | _, _ => return

/-- Prints imports and exports. -/
def moduleLayout (form : Form) (span : Span) (pieces : List Piece) (place : Place) : Printer Unit :=
  match form, pieces with
  | .importDeclaration kind, [specifiers, source, attributes] =>
    simple span (importDeclaration kind specifiers source attributes)
  | .importClause, pieces => importClause pieces
  | .importDefault, [binding] => binding.inline
  | .importNamespace, [binding] => do
    put "* as "
    binding.inline
  | .importNamed typeOnly, [imported, binding] => specifier typeOnly imported binding
  | .importAttributes keyword, pieces => importAttributes span keyword pieces
  | .importAttribute, [k, value] => importAttribute k value
  | .exportNamed typeOnly, [specifiers, source, attributes] =>
    simple span (exportNamed typeOnly specifiers source attributes)
  | .exportSpecifier typeOnly, [own, exported] => specifier typeOnly own exported
  | .exportDeclaration, [exported] => do
    opening span
    exportDeclaration exported
  | .exportDefault, [exported] => do
    opening span
    exportDefault exported
  | .exportAll typeOnly, [exported, source, attributes] => simple span (exportAll typeOnly exported source attributes)
  | .exportEquals, [expression] => simple span (do
    put "export = "
    expression.operand .lowest)
  | .exportNamespace, [identifier] => simple span (do
    put "export as namespace "
    identifier.inline)
  | .importEquals, [binding, reference] =>
    declaration place (typeOpening span) endStatement (importEquals binding reference)
  | .externalModule, [source] => do
    put "require("
    source.inline
    put ")"
  | _, _ => return

/-- Prints types. -/
def typeLayout (form : Form) (span : Span) (pieces : List Piece) : Printer Unit :=
  match form, pieces with
  | .typeKeyword text, _ => put text
  | .typeReference, [identifier, arguments] => do
    identifier.inline
    arguments.inline
  | .qualified, [left, right] => do
    left.inline
    put "."
    right.inline
  | .typeArguments, pieces => typeArguments pieces
  | .typeParameters, pieces => typeParameters pieces
  | .typeParameter modifiers, [identifier, constraint, fallback] =>
    typeParameter modifiers identifier constraint fallback
  | .unionType, pieces => joined " | " pieces
  | .intersectionType, pieces => joined " & " pieces
  | .arrayType, [element] => do
    element.inline
    put "[]"
  | .indexedType, [object, i] => do
    object.inline
    put "["
    i.inline
    put "]"
  | .tupleType, pieces => do
    put "["
    joined ", " pieces
    put "]"
  | .tupleMember optional, [identifier, type] => do
    identifier.inline
    if optional then put "?"
    annotation type
  | .optionalType, [type] => do
    type.inline
    put "?"
  | .restType, [type] => do
    put "..."
    type.inline
  | .functionType lead, [typeParameters, params, result] => functionType lead typeParameters params result
  | .typeLiteral, pieces => signatures span pieces
  | .mappedType readonlyMark optionalMark, [identifier, constraint, rename, type] =>
    mappedType readonlyMark optionalMark identifier constraint rename type
  | .conditionalType, [checked, extended, yes, no] => conditionalType checked extended yes no
  | .inferType, [parameter] => do
    put "infer "
    parameter.inline
  | .parenType, [type] => do
    put "("
    type.inline
    put ")"
  | .typeOperator operator, [type] => do
    put (operator ++ " ")
    type.inline
  | .typeQuery, [identifier, arguments] => do
    put "typeof "
    identifier.inline
    arguments.inline
  | .importType, [source, qualifier, arguments] => do
    put "import("
    source.inline
    put ")"
    if qualifier.isPresent then
      put "."
      qualifier.inline
    arguments.inline
  | .literalType, [literal] => literalType literal
  | .templateType, pieces => do
    put "`"
    templateType pieces
    put "`"
  | .predicate asserts, [subject, type] => predicate asserts subject type
  | .propertySignature modifiers computed optional, [k, type] =>
    propertySignature modifiers computed optional k type
  | .methodSignature kind computed optional, [k, typeParameters, params, result] =>
    methodSignature kind computed optional k typeParameters params result
  | .callSignature lead, [typeParameters, params, result] => callSignature lead typeParameters params result
  | .indexSignature modifiers, [identifier, i, type] => indexSignature modifiers identifier i type
  | _, _ => return

/-- Prints declarations of types. -/
def typeDeclarationLayout (form : Form) (span : Span) (pieces : List Piece) (place : Place) : Printer Unit :=
  match form, pieces with
  | .interface declared, [identifier, typeParameters, extended, body] =>
    declaration place (typeOpening span) newline (interface declared identifier typeParameters extended body)
  | .interfaceBody, pieces => signatures span pieces
  | .heritage, [identifier, arguments] => do
    identifier.inline
    arguments.inline
  | .typeAlias declared, [identifier, typeParameters, type] =>
    declaration place (typeOpening span) endStatement (typeAlias declared identifier typeParameters type)
  | .enum modifiers, [identifier, body] =>
    declaration place (typeOpening span) newline (enumeration modifiers identifier body)
  | .enumBody, members => braces span members.isEmpty (enumMembers members)
  | .enumMember computed, [k, value] => enumMember computed k value
  | .moduleBlock keyword declared, [identifier, body] =>
    declaration place (declarationOpening span) newline (moduleBlock keyword declared place.limits identifier body)
  | .moduleBody, pieces => braces span pieces.isEmpty (statements place.limits pieces)
  | _, _ => return

/-- The families of forms that are printed alike. -/
inductive Family where
  | nothing
  | list
  | literal
  | expression
  | target
  | definition
  | statement
  | module
  | type
  | typeDeclaration
  | program

/-- The family of a form. -/
def familyOf : Form → Family
  | .absent | .hole | .templateText _ => .nothing
  | .list => .list
  | .name _ | .binding _ | .key _ | .privateName _ | .this | .super | .null | .boolean _ | .string _ _ | .number _ _
  | .bigint _ | .regex _ _ => .literal
  | .template | .taggedTemplate | .array | .object | .property _ _ | .objectMethod _ _ | .spread | .member _
  | .index _ | .call _ _ | .construct _ | .chain | .paren | .sequence | .unary _ | .update _ _ | .binary _
  | .conditional | .assignment _ | .await | .yield _ | .arrow _ _ _ | .importCall _ | .metaProperty | .ascription _
  | .nonNull | .assertion | .instantiation => .expression
  | .objectPattern | .arrayPattern | .patternProperty _ _ | .rest | .restTarget | .defaulted | .objectTarget | .arrayTarget
  | .parameters | .parameter _ | .typed _ | .decorators | .decorator => .target
  | .function _ _ _ _ _ | .functionBody | .classDefinition _ _ | .classBody | .method _ _ _ _ | .field _ _ _
  | .fieldValue | .staticBlock => .definition
  | .directive _ | .expressionStatement | .block | .empty | .branch | .forLoop | .forIn | .forOf _ | .whileLoop
  | .doWhile | .continueLoop | .breakOut | .returnValue | .throwValue | .withScope | .switch | .switchCase
  | .labeled | .tryBlock | .catchClause | .debugger | .variableDeclaration _ _ | .declarator => .statement
  | .importDeclaration _ | .importClause | .importDefault | .importNamespace | .importNamed _
  | .importAttributes _ | .importAttribute | .exportNamed _ | .exportSpecifier _ | .exportDeclaration | .exportDefault
  | .exportAll _ | .exportEquals | .exportNamespace | .importEquals | .externalModule => .module
  | .interface _ | .interfaceBody | .heritage | .typeAlias _ | .enum _ | .enumBody | .enumMember _ | .moduleBlock _ _
  | .moduleBody => .typeDeclaration
  | .program _ => .program
  | _ => .type

/-- Prints a program. -/
def program (hashbang : Option String) (span : Span) (pieces : List Piece) : Printer Unit := do
  match hashbang with
  | some text => put ("#!" ++ text ++ "\n")
  | none => pure ()
  statements .none pieces
  commentsAt span.stop

/-- Prints a node from its pieces. -/
def layout (form : Form) (span : Span) (pieces : List Piece) (place : Place) : Printer Unit :=
  match familyOf form with
  | .nothing => return
  | .list => commaSeparated (pieces.map (·.inline))
  | .literal => literalLayout form span
  | .expression => expressionLayout form span pieces place
  | .target => targetLayout form span pieces
  | .definition => definitionLayout form span pieces place
  | .statement => statementLayout form span pieces place
  | .module => moduleLayout form span pieces place
  | .type => typeLayout form span pieces
  | .typeDeclaration => typeDeclarationLayout form span pieces place
  | .program =>
    match form with
    | .program hashbang => program hashbang span pieces
    | _ => return

end JsxLowering.Printing
