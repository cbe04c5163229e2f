import JsxLowering.Dialect

/-!
# Dialects of file names

The dialect of a source text follows from the extension of its file name. Names that end in none of the extensions
have no dialect of their own.
-/

namespace JsxLowering

/-- The pieces of a text between occurrences of a character. -/
def splitAt (separator : Char) : List Char → List (List Char)
  | [] => [[]]
  | c :: rest =>
    match splitAt separator rest with
    | [] => [[]]
    | piece :: more => if c = separator then [] :: piece :: more else (c :: piece) :: more

/-- The last component of a path, unless it leads upwards. -/
def fileName? (path : String) : Option (List Char) :=
  let components := (splitAt '/' path.toList).filter fun part => part ≠ [] ∧ part ≠ ['.']
  match components.getLast? with
  | some name => if name = ['.', '.'] then none else some name
  | none => none

/-- The pieces of a file name before its extension, and the extension. -/
def extension? (name : List Char) : Option (List (List Char) × String) :=
  match (splitAt '.' name).reverse with
  | last :: before@(_ :: _) => if before = [[]] then none else some (before.reverse, String.ofList last)
  | _ => none

/-- Whether one of the last two pieces before `.ts` says that a file holds declarations only. -/
def declaresTypes (before : List (List Char)) : Bool :=
  (before.reverse.take 2).contains ['d']

/-- Whether the pieces before an extension end in `.d`. -/
def endsInDeclarations (before : List (List Char)) : Bool :=
  1 < before.length && before.getLast? == some ['d']

/-- The language with types, for a file that may hold declarations only. -/
def typedLanguage (declarations : Bool) : Language := if declarations then .declarations else .typed

/-- The dialect of a file name. -/
def dialectOfFileName? (path : String) : Option Dialect := do
  let name ← fileName? path
  let (before, extension) ← extension? name
  match extension with
  | "js" => some ⟨.plain, .unambiguous, false⟩
  | "jsx" => some ⟨.plain, .unambiguous, true⟩
  | "mjs" => some ⟨.plain, .module, false⟩
  | "cjs" => some ⟨.plain, .commonjs, false⟩
  | "ts" => some ⟨typedLanguage (declaresTypes before), .unambiguous, false⟩
  | "tsx" => some ⟨.typed, .unambiguous, true⟩
  | "mts" => some ⟨typedLanguage (endsInDeclarations before), .module, false⟩
  | "cts" => some ⟨typedLanguage (endsInDeclarations before), .commonjs, false⟩
  | _ => none

end JsxLowering
