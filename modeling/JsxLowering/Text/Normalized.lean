import JsxLowering.Text.Lines

/-!
# Text between tags

Text between tags is joined to one line. Tabs count as spaces, the first line loses its leading spaces and the
last one its trailing spaces, and one space closes the last line that holds anything but blanks. An empty result
says that the text carries nothing.
-/

namespace JsxLowering.Text

/-- Whether a line holds a character other than a space or a tab. -/
def hasContent (line : List Char) : Bool :=
  line.any fun c => c != ' ' && c != '\t'

/-- The index of the last line with content; the first line when there is none. -/
def lastContentLine (ls : List (List Char)) : Nat :=
  (ls.zipIdx.filter fun (line, _) => hasContent line).foldl (fun _ (_, i) => i) 0

/-- A line with its tabs turned into spaces. -/
def spaced (line : List Char) : List Char :=
  line.map fun c => if c = '\t' then ' ' else c

/-- A line without its leading spaces. -/
def trimLeft (line : List Char) : List Char :=
  line.dropWhile (· = ' ')

/-- A line without its trailing spaces. -/
def trimRight (line : List Char) : List Char :=
  (line.reverse.dropWhile (· = ' ')).reverse

/-- The line with index `i` of `count` lines: spaced, and trimmed where it opens or closes the text. -/
def trimmedLine (count i : Nat) (line : List Char) : List Char :=
  let line := spaced line
  let line := if i = 0 then trimLeft line else line
  if i + 1 = count then trimRight line else line

/-- What the line with index `i` contributes: nothing when it is empty after trimming, and a closing space when it is
the last line with content. -/
def lineContribution (count last i : Nat) (line : List Char) : List Char :=
  match trimmedLine count i line with
  | [] => []
  | c :: rest => if i = last then c :: rest ++ [' '] else c :: rest

/-- The lines of a text joined to one. -/
def joinLines (ls : List (List Char)) : List Char :=
  let last := lastContentLine ls
  (ls.zipIdx.map fun (line, i) => lineContribution ls.length last i line).flatten

/-- Joins text between tags to one line, which its literal call carries. -/
def normalize (text : String) : String :=
  String.ofList (joinLines ((splitLines text).map String.toList))

end JsxLowering.Text
