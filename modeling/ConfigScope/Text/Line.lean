import ConfigScope.Text.Blank

/-!
# Lines

A text falls into lines, each with the characters that end it: a carriage
return and a line feed after it count as one ending. A text ends with its last
character, so an ending there opens no further line; the empty text has one
empty line.
-/

namespace ConfigScope.Text

/-- A line, and how many characters come before it. -/
structure Line where
  offset : Nat
  text : List Char
  deriving DecidableEq

namespace Line

def stop (line : Line) : Nat := line.offset + line.text.length

/-- The characters of the line without the white space at its end. -/
def shown (line : Line) : List Char :=
  (line.text.reverse.dropWhile isBlank).reverse

end Line

/-- The lines of a text of which `current`, last character first, is the line that is open. -/
def breakLines (current : List Char) : List Char → List (List Char)
  | [] => if current.isEmpty then [] else [current.reverse]
  | '\r' :: '\n' :: rest => ('\n' :: '\r' :: current).reverse :: breakLines [] rest
  | c :: rest =>
    if endsLine c then (c :: current).reverse :: breakLines [] rest
    else breakLines (c :: current) rest

def withOffsets (offset : Nat) : List (List Char) → List Line
  | [] => []
  | text :: rest => ⟨offset, text⟩ :: withOffsets (offset + text.length) rest

def linesOf (text : List Char) : List Line :=
  match breakLines [] text with
  | [] => [⟨0, []⟩]
  | lines => withOffsets 0 lines

/-- The number of the last line that starts at or before an offset. -/
def lineAt (lines : List Line) (offset : Nat) : Nat :=
  (lines.takeWhile (·.offset ≤ offset)).length - 1

/-- The parts of a text between line feeds. A carriage return before a line feed belongs to it. -/
def paragraphs (current : List Char) : List Char → List (List Char)
  | [] => if current.isEmpty then [] else [current.reverse]
  | '\r' :: '\n' :: rest => current.reverse :: paragraphs [] rest
  | '\n' :: rest => current.reverse :: paragraphs [] rest
  | c :: rest => paragraphs (c :: current) rest

end ConfigScope.Text
