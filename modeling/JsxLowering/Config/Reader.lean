import JsxLowering.Config.Number
import JsxLowering.FileName
import JsxLowering.Options

/-!
# Configurations

A configuration is a JSON object with some of five fields, or the array of all five in order. A field that is
missing or null is left to the standard options; the file name also decides the dialect.
-/

namespace JsxLowering

/-- A configuration. -/
structure Config where
  /-- The object whose methods are called. -/
  object : Option String := none
  /-- The method that builds a component. -/
  component : Option String := none
  /-- The method that builds a literal. -/
  literal : Option String := none
  filename : Option String := none
  sourceMap : Option Bool := none
  deriving DecidableEq, Repr

namespace Config

/-- The options that a configuration asks for. -/
def toOptions (config : Config) : Options :=
  let standard := Options.standard
  let filename := config.filename.getD standard.filename
  { names :=
      ⟨config.object.getD standard.names.object, config.component.getD standard.names.component,
        config.literal.getD standard.names.literal⟩
    filename
    dialect := (dialectOfFileName? filename).getD standard.dialect
    sourceMap := config.sourceMap.getD standard.sourceMap }

/-! ### Values -/

/-- Refuses the value at the cursor, which is not of the wanted kind. Everything but a list and an object is passed. -/
def refuseType {α : Type} (wanted : Wanted) : Reading α := do
  match ← peek with
  | some 'n' =>
    pass
    passWord "ull".toList
    refuse (.invalidType .null wanted)
  | some 't' =>
    pass
    passWord "rue".toList
    refuse (.invalidType (.boolean true) wanted)
  | some 'f' =>
    pass
    passWord "alse".toList
    refuse (.invalidType (.boolean false) wanted)
  | some '-' =>
    pass
    let found ← readNumber true
    refuse (.invalidType found wanted)
  | some '"' =>
    let text ← readString
    refuse (.invalidType (.string text) wanted)
  | some '[' => refuse (.invalidType .sequence wanted)
  | some '{' => refuse (.invalidType .map wanted)
  | some c =>
    if c.isDigit then
      let found ← readNumber false
      refuse (.invalidType found wanted)
    else refuseNext .expectedValue
  | none => refuseNext .expectedValue

/-- A value or null. -/
def orNull {α : Type} (value : Reading α) : Reading (Option α) := do
  match ← peekToken with
  | some 'n' =>
    pass
    passWord "ull".toList
    return none
  | some _ => return some (← value)
  | none => refuseNext .endInValue

/-- A string. -/
def stringValue : Reading String := do
  match ← peek with
  | some '"' => readString
  | _ => refuseType .string

/-- A truth value. -/
def booleanValue : Reading Bool := do
  match ← peek with
  | some 't' =>
    pass
    passWord "rue".toList
    return true
  | some 'f' =>
    pass
    passWord "alse".toList
    return false
  | _ => refuseType .boolean

/-! ### Objects -/

/-- The fields of a configuration. -/
inductive Field where
  | object
  | component
  | literal
  | filename
  | sourceMap
  deriving DecidableEq, Repr

/-- The field with a name. -/
def field? : String → Option Field
  | "namespace" => some .object
  | "componentMethod" => some .component
  | "literalMethod" => some .literal
  | "filename" => some .filename
  | "sourceMap" => some .sourceMap
  | _ => none

/-- Reads the value of a field into a configuration. -/
def readField (config : Config) : Field → Reading Config
  | .object => return { config with object := ← orNull stringValue }
  | .component => return { config with component := ← orNull stringValue }
  | .literal => return { config with literal := ← orNull stringValue }
  | .filename => return { config with filename := ← orNull stringValue }
  | .sourceMap => return { config with sourceMap := ← orNull booleanValue }

/-- Whether another key follows; if so it is the next character. -/
def hasKey (first : Bool) : Reading Bool := do
  match ← peekToken with
  | none => refuseNext .endInObject
  | some '}' => return false
  | some c =>
    if first then if c = '"' then return true else refuseNext .keyNotString
    else if c = ',' then
      pass
      match ← peekToken with
      | some '"' => return true
      | some '}' => refuseNext .trailingComma
      | some _ => refuseNext .keyNotString
      | none => refuseNext .endInValue
    else refuseNext .expectedObjectEnd

/-- Moves past the colon after a key. -/
def passColon : Reading Unit := do
  match ← peekToken with
  | some ':' => pass
  | some _ => refuseNext .expectedColon
  | none => refuseNext .endInObject

/-- All fields, in order. -/
def Field.all : List Field := [.object, .component, .literal, .filename, .sourceMap]

/-- Reads the fields of an object, each at most once. A key that cannot stand there ends the reading. -/
def readFields (first : Bool) (remaining : List Field) (config : Config) : Reading (Except Cause Config) := do
  if ← hasKey first then
    let name ← readString
    match field? name with
    | none => return .error (.unknownField name)
    | some field =>
      if _h : field ∈ remaining then
        passColon
        let config ← readField config field
        readFields false (remaining.erase field) config
      else return .error (.duplicateField name)
  else return .ok config
termination_by remaining.length
decreasing_by
  rw [List.length_erase_of_mem _h]
  have := List.length_pos_of_mem _h
  omega

/-- Moves past the closing brace of an object. -/
def closeObject : Reading Unit := do
  match ← peekToken with
  | some '}' => pass
  | some ',' => refuseNext .trailingComma
  | some _ => refuseNext .trailingCharacters
  | none => refuseNext .endInObject

/-! ### Lists -/

/-- Whether another element follows; if so it is the next character. -/
def hasElement (first : Bool) : Reading Bool := do
  match ← peekToken with
  | none => refuseNext .endInList
  | some ']' => return false
  | some c =>
    if first then return true
    else if c = ',' then
      pass
      match ← peekToken with
      | some ']' => refuseNext .trailingComma
      | some _ => return true
      | none => refuseNext .endInValue
    else refuseNext .expectedListEnd

/-- Reads the fields of a list, of which `index` have been read. A list that ends too early is refused. -/
def readElements (index : Nat) : List Field → Config → Reading (Except Cause Config)
  | [], config => return .ok config
  | field :: rest, config => do
    if ← hasElement (index == 0) then
      let config ← readField config field
      readElements (index + 1) rest config
    else return .error (.invalidLength index)

/-- Moves past the closing bracket of a list. -/
def closeList : Reading Unit := do
  match ← peekToken with
  | some ']' => pass
  | some ',' =>
    pass
    match ← peekToken with
    | some ']' => refuseNext .trailingComma
    | _ => refuseNext .trailingCharacters
  | some _ => refuseNext .trailingCharacters
  | none => refuseNext .endInList

/-! ### Whole texts -/

/-- Ends the reading of a bracketed value: a refusal counts as standing after the closing bracket if that comes next, a
value needs the bracket. -/
def finish (closing : Char) (close : Reading Unit) : Except Cause Config → Reading Config
  | .ok config => do
    close
    return config
  | .error cause => do
    if (← peekToken) = some closing then pass
    refuse cause

/-- A configuration, with white space before it. -/
def readConfig : Reading Config := do
  match ← peekToken with
  | none => refuseNext .endInValue
  | some '[' =>
    pass
    finish ']' closeList (← readElements 0 Field.all {})
  | some '{' =>
    pass
    finish '}' closeObject (← readFields true Field.all {})
  | some _ => refuseType .config

/-- A whole text that is a configuration. -/
def readText : Reading Config := do
  let config ← readConfig
  match ← peekToken with
  | none => return config
  | some _ => refuseNext .trailingCharacters

/-- The configuration that a text is. -/
def ofJson (text : String) : Except Error Config :=
  match readText ⟨text.toList, 0⟩ with
  | .ok (config, _) => .ok config
  | .error error => .error error

end Config

end JsxLowering
