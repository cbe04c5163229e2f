import JsxLowering.Dialect
import JsxLowering.Grammar.Markup
import JsxLowering.Grammar.ModuleSyntax
import JsxLowering.Grammar.Statement

/-!
# Programs

Here the recursion of the grammar is closed: `rulesWithin n` reads constructs that are nested at most `n` deep,
and a source text is read with a depth that no construct of it can exceed.
-/

namespace JsxLowering

namespace Grammar

/-- How to read each construct, given how to read the constructs inside it. -/
def step (rules : Rules) : Rules
  | .expression => parseExpression rules
  | .assignment => parseAssignment rules
  | .operand level => parseOperand rules level
  | .unary => parseUnary rules
  | .leftHandSide => parseLeftHandSide rules
  | .construction => parseNew rules
  | .statement alone => parseStatement rules alone
  | .target => parseTarget rules
  | .markup nested => parseMarkup rules nested
  | .type => parseType rules
  | .typeMember => parseTypeMember rules

/-- How to read each construct that is nested at most so deep. -/
def rulesWithin : Nat → Rules
  | 0 => fun _ => unexpected
  | depth + 1 => step (rulesWithin depth)

/-- The conditions at the start of a program; `awaiting` says whether `await` is an operator outside functions. -/
def Conditions.initial (dialect : Dialect) (awaiting : Bool) (budget : Nat) : Conditions where
  budget := budget
  markup := dialect.markup
  types := dialect.language != .plain
  inOperator := true
  yieldOperator := false
  awaitOperator := awaiting
  inFunction := dialect.loading == .commonjs
  arrowResult := true
  ambient := dialect.language == .declarations
  decorating := false
  conditionalTypes := true

/-- The statements of a program. -/
def parseProgram (rules : Rules) : Parser (List Tree) :=
  parseStatements rules (do return (← kind) == .eof)

end Grammar

/-- A source text that has been read. -/
structure Parsed where
  /-- The program. -/
  tree : Tree
  /-- The comments that belong to what starts at an offset. -/
  comments : List (Nat × List Comment)
  /-- The faults that were noted. -/
  faults : List Fault

/-- The first line of a text, if it says how to run it. -/
def hashbang? : List Char → Option (List Char)
  | '#' :: '!' :: rest => some (rest.takeWhile fun c => !Text.endsLine c)
  | _ => none

/-- Everything that is wrong with a text, given what is wrong with its parts. A plain text whose first comment says that
it is written in another language with types is only told so. -/
def reportedFaults (dialect : Dialect) (opening : Option Comment) (faults : List Fault) : List Fault :=
  let foreign := match opening with
    | some comment => dialect.language == .plain && Comment.occursIn "@flow".toList comment.text
    | none => false
  if foreign && !faults.isEmpty then [.foreignTypes] else faults

/-- Reads a source text; `awaiting` says whether `await` is an operator outside functions. Faults that end the parse
leave no program. -/
def parseAs (awaiting : Bool) (dialect : Dialect) (source : String) : Except (List Fault) Parsed :=
  let text := source.toList
  let hashbang := hashbang? text
  let opening := match hashbang with
    | some line => '#' :: '!' :: line
    | none => []
  let reader := Reader.start (dialect.loading == .script) (Text.byteWidth opening) (text.drop opening.length)
  let size := text.length + 4
  match Grammar.parseProgram (Grammar.rulesWithin (16 * size)) (.initial dialect awaiting size) reader with
  | .error failure => .error (reportedFaults dialect failure.opening failure.faults)
  | .ok (statements, reader) =>
    let exports := if dialect.language == .plain then Grammar.exportFaults statements else []
    .ok {
      tree := .node (.program (hashbang.map String.ofList)) ⟨0, Text.byteWidth text⟩ statements
      comments := reader.comments.reverse
      faults := reportedFaults dialect reader.opening (reader.allFaults [] ++ exports) }

/-- Reads a source text. In modules `await` is an operator; that a text which leaves its loading open is one shows when
it has been read, and then it is read once more. -/
def parse (dialect : Dialect) (source : String) : Except (List Fault) Parsed := do
  let parsed ← parseAs (dialect.loading == .module) dialect source
  if dialect.loading == .unambiguous && parsed.tree.isModule then parseAs true dialect source else return parsed

end JsxLowering
