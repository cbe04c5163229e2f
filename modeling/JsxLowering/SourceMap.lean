import JsxLowering.Printing.Sheet

/-!
# Source maps

A source map says for places of a printed program where in the source text they come from. Its places are the
events of the printed sheet; one is left out if its span is empty or if it comes from the same offset as the
place before it. The mappings are written as differences, each a variable-length number in base 64.
-/

namespace JsxLowering

/-- A place of the printed program with the place of the source text it comes from. -/
structure Mapping where
  line : Nat
  column : Nat
  sourceLine : Nat
  sourceColumn : Nat
  /-- The text at the source, where it is not what is printed. -/
  name : Option String
  deriving DecidableEq, Repr

/-- A source map. -/
structure SourceMap where
  names : List String
  source : String
  content : String
  mappings : String
  deriving DecidableEq, Repr

namespace SourceMap

/-! ### Variable-length numbers -/

/-- The digits of base 64. -/
def digits : List Char :=
  "ABCDEFGHIJKLMNOPQRSTUVWXYZabcdefghijklmnopqrstuvwxyz0123456789+/".toList

/-- A digit of base 64. -/
def digit (n : Nat) : Char := digits.getD n 'A'

/-- A number in groups of five bits, the lowest first; all groups but the last have the sixth bit set. -/
def groups (n : Nat) : List Char :=
  if _h : n < 32 then [digit n] else digit (n % 32 + 32) :: groups (n / 32)
termination_by n

/-- A number with its sign in the lowest bit. -/
def signed (n : Int) : Nat := if n < 0 then 2 * n.natAbs + 1 else 2 * n.natAbs

/-- A signed number in base 64. -/
def vlq (n : Int) : List Char := groups (signed n)

/-! ### Places in the source text -/

/-- The line and the column in UTF-16 units of a byte offset of a source text. -/
def placeOf (offset : Nat) : Nat → Nat → List Char → Nat × Nat
  | line, column, [] => (line, column)
  | line, column, c :: rest =>
    if offset = 0 then (line, column)
    else if c = '\r' ∧ rest.head? = some '\n' then placeOf (offset - 1) line (column + 1) rest
    else if Text.endsLine c then placeOf (offset - c.utf8Size) (line + 1) 0 rest
    else placeOf (offset - c.utf8Size) line (column + Text.unitWidth c) rest
termination_by _ _ text => text.length

/-- The text of a span of a source text. -/
def slice (span : Span) (text : List Char) : String :=
  String.ofList (Text.takeBytes (span.stop - span.start) (Text.dropBytes span.start text))

/-- The offset that an origin names in a source text of the given size, and the name that it carries. -/
def offset? (text : List Char) (size : Nat) : Printing.Origin → Option (Nat × Option String)
  | .start span => if span.isEmpty then none else some (span.start, none)
  | .named span name =>
    if span.isEmpty then none
    else some (span.start, if slice span text = name then none else some (slice span text))
  | .stop span => if span.isEmpty ∨ size ≤ span.stop then none else some (span.stop, none)

/-- The mappings of a list of events; `last` is the offset of the mapping before. -/
def mappingsFrom (text : List Char) (size : Nat) : Option Nat → List Printing.Event → List Mapping
  | _, [] => []
  | last, event :: rest =>
    match offset? text size event.origin with
    | none => mappingsFrom text size last rest
    | some (offset, name) =>
      if last = some offset then mappingsFrom text size last rest
      else
        let (line, column) := placeOf offset 0 0 text
        ⟨event.line, event.column, line, column, name⟩ :: mappingsFrom text size (some offset) rest

/-! ### Writing -/

/-- The names that mappings carry, in the order of their first use. -/
def namesOf (mappings : List Mapping) : List String :=
  (mappings.filterMap (·.name)).foldl (fun names name => if names.contains name then names else names ++ [name]) []

/-- What the next mapping is written against. -/
structure Previous where
  line : Nat
  column : Nat
  sourceLine : Nat
  sourceColumn : Nat
  name : Nat

/-- The text of the mappings after the first; `first` says that none is written yet. -/
def write (names : List String) : Bool → Previous → List Mapping → List Char
  | _, _, [] => []
  | first, previous, m :: rest =>
    let newLines := m.line - previous.line
    let separator := if newLines > 0 then List.replicate newLines ';' else if first then [] else [',']
    let column := if newLines > 0 then 0 else previous.column
    let name : Nat := match m.name with
      | some name => names.findIdx (· == name)
      | none => previous.name
    let nameField := if m.name.isSome then vlq ((name : Int) - previous.name) else []
    separator ++ vlq ((m.column : Int) - column) ++ vlq 0 ++ vlq ((m.sourceLine : Int) - previous.sourceLine) ++
      vlq ((m.sourceColumn : Int) - previous.sourceColumn) ++ nameField ++
      write names false ⟨m.line, m.column, m.sourceLine, m.sourceColumn, name⟩ rest

/-- The source map of a printed sheet. -/
def ofSheet (filename source : String) (sheet : Printing.Sheet) : SourceMap :=
  let text := source.toList
  let mappings := mappingsFrom text (Text.byteWidth text) none sheet.events.reverse
  let names := namesOf mappings
  ⟨names, filename, source, String.ofList (write names true ⟨0, 0, 0, 0, 0⟩ mappings)⟩

end SourceMap

end JsxLowering
