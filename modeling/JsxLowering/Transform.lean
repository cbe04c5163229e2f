import JsxLowering.Config.Reader
import JsxLowering.Grammar.Program
import JsxLowering.Printing.Tree
import JsxLowering.SourceMap
import JsxLowering.Walk

/-!
# Transformation of source texts

A source text is read, its markup is lowered, and the result is printed, with a source map if one is asked for.
-/

namespace JsxLowering

/-- Why a transformation fails. -/
inductive TransformError where
  | options (error : OptionsError)
  /-- The source text does not parse. -/
  | parse (filename : String) (faults : List Fault)
  /-- The configuration is refused; `text` is the whole of it. -/
  | config (text : String) (error : Config.Error)
  deriving DecidableEq, Repr

/-- The messages of faults, joined. -/
def faultMessages (faults : List Fault) : String :=
  String.intercalate "; " (faults.map Fault.message)

/-- The message of a failed transformation. -/
def TransformError.message : TransformError → String
  | options error => error.message
  | parse filename faults => "Failed to parse " ++ filename ++ ": " ++ faultMessages faults
  | config text error => "Invalid transform config: " ++ error.message text

/-- What a transformation gives. -/
structure Output where
  code : String
  map : Option SourceMap
  /-- The spans of the component calls with children, in the order of the walk. -/
  hints : List Span
  /-- What was done, step by step. -/
  records : List Record

/-- Lowers all markup of a program. -/
def lowerProgram (options : Options) (program : Tree) : Logged Tree :=
  program.lowerMarkup ⟨options.names, options.dialect.loading == .script, []⟩

/-- Reads a source text that has no faults. -/
def parseClean (options : Options) (source : String) : Except TransformError Parsed :=
  match parse options.dialect source with
  | .error faults => .error (.parse options.filename faults)
  | .ok parsed => if parsed.faults.isEmpty then .ok parsed else .error (.parse options.filename parsed.faults)

/-- Lowers and prints a program that has been read. -/
def transformParsed (options : Options) (source : String) (parsed : Parsed) : Output :=
  let lowered := lowerProgram options parsed.tree
  let sheet := lowered.value.sheet options.dialect.markup parsed.comments
  { code := sheet.text
    map := if options.sourceMap then some (.ofSheet options.filename source sheet) else none
    hints := lowered.hints
    records := .transforming options.filename source.utf8ByteSize :: lowered.records }

/-- Transforms a source text. -/
def transform (options : Options) (source : String) : Except TransformError Output :=
  match options.validate with
  | .error error => .error (.options error)
  | .ok () =>
    match parseClean options source with
    | .error error => .error error
    | .ok parsed => .ok (transformParsed options source parsed)

/-- The configuration that a text is. -/
def readConfig (text : String) : Except TransformError Config :=
  match Config.ofJson text with
  | .ok config => .ok config
  | .error error => .error (.config text error)

/-- Transforms a source text as a configuration asks. -/
def transformWithConfig (config source : String) : Except TransformError Output :=
  match readConfig config with
  | .ok config => transform config.toOptions source
  | .error error => .error error

/-! ### Records as text -/

/-- How much a record matters. -/
inductive Severity where
  | debug
  | trace
  deriving DecidableEq, Repr

namespace Record

/-- How much a record matters. -/
def severity : Record → Severity
  | transforming _ _ => .debug
  | element _ _ _ => .debug
  | fragment _ => .debug
  | droppedText _ => .trace
  | replaced _ => .trace

/-- The text of a record. -/
def text : Record → String
  | transforming filename bytes => "transforming " ++ filename ++ " (" ++ toString bytes ++ " bytes)"
  | element name span bound =>
    "rewriting <" ++ name.text ++ "> at " ++ span.describe ++ " (this_bound=" ++ toString bound ++ ")"
  | fragment span => "rewriting fragment at " ++ span.describe
  | droppedText span => "dropping blank text at " ++ span.describe
  | replaced result => "rewrote into " ++ result.code

end Record

end JsxLowering
