import JsxLowering.Tree

/-!
# Syntax of modules

A program with an import, an export or `import.meta` can only be a module.
-/

namespace JsxLowering

/-- Whether a statement is an import or an export of a module. -/
def Form.isModuleStatement : Form → Bool
  | importDeclaration _ => true
  | exportNamed _ | exportDeclaration | exportDefault | exportAll _ | exportEquals | exportNamespace => true
  | _ => false

/-- Whether a node is `import.meta`. -/
def isImportMeta : Form → List Tree → Bool
  | .metaProperty, .node (.key keyword) _ _ :: _ => keyword == "import"
  | _, _ => false

mutual

/-- Whether `import.meta` stands in a piece of host syntax. -/
def Tree.hasImportMeta : Tree → Bool
  | .node form _ parts => isImportMeta form parts || importMetaInParts parts
  | .markup m => m.hasImportMeta

/-- Whether `import.meta` stands in one of some parts. -/
def importMetaInParts : List Tree → Bool
  | [] => false
  | part :: rest => part.hasImportMeta || importMetaInParts rest

/-- Whether `import.meta` stands in an element or a fragment. -/
def Markup.hasImportMeta : Markup → Bool
  | .element _ _ attributes children => importMetaInAttributes attributes || importMetaInChildren children
  | .fragment _ children => importMetaInChildren children

/-- Whether `import.meta` stands in one of some attributes. -/
def importMetaInAttributes : List Attribute → Bool
  | [] => false
  | head :: rest => head.hasImportMeta || importMetaInAttributes rest

/-- Whether `import.meta` stands in an attribute. -/
def Attribute.hasImportMeta : Attribute → Bool
  | .named _ _ value => value.hasImportMeta
  | .spread _ argument => argument.hasImportMeta

/-- Whether `import.meta` stands in the value of an attribute. -/
def AttributeValue.hasImportMeta : AttributeValue → Bool
  | .expression content => content.hasImportMeta
  | .markup m => m.hasImportMeta
  | .missing | .text _ _ | .empty => false

/-- Whether `import.meta` stands in one of some children. -/
def importMetaInChildren : List Child → Bool
  | [] => false
  | child :: rest => child.hasImportMeta || importMetaInChildren rest

/-- Whether `import.meta` stands in a child. -/
def Child.hasImportMeta : Child → Bool
  | .expression content => content.hasImportMeta
  | .spread _ argument => argument.hasImportMeta
  | .markup m => m.hasImportMeta
  | .text _ _ | .empty => false

end

/-- Whether a program has syntax of modules. -/
def Tree.isModule (program : Tree) : Bool :=
  (program.parts.any fun statement =>
    match statement with
    | .node form _ _ => form.isModuleStatement
    | .markup _ => false) || program.hasImportMeta

end JsxLowering
