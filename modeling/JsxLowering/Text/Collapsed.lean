import JsxLowering.Text.Blank

/-!
# Attribute text

An attribute string that was wrapped over several lines is put back on one: a line feed and the blanks after it
become one space. A line feed with no blank after it stays.
-/

namespace JsxLowering.Text

/-- Collapses the text after `skip` characters of it have been passed over. -/
def collapseAfter : Nat → List Char → List Char
  | _, [] => []
  | skip + 1, _ :: rest => collapseAfter skip rest
  | 0, c :: rest =>
    let run := (rest.takeWhile isBlank).length
    if c = '\n' ∧ 0 < run then ' ' :: collapseAfter run rest
    else c :: collapseAfter 0 rest

/-- Replaces every line feed that blanks follow, and these blanks, by one space. -/
def collapseChars (text : List Char) : List Char :=
  collapseAfter 0 text

/-- Puts a wrapped attribute string back on one line. -/
def collapse (text : String) : String :=
  String.ofList (collapseChars text.toList)

end JsxLowering.Text
