import ConfigScope.Diagnostic.Basic
import ConfigScope.Text.Column
import ConfigScope.Text.Line

/-!
# Excerpts

A diagnostic is drawn with the lines of source text that its site covers. A
site within one line is underlined, and its label hangs from the middle of the
line below it. A site over several lines is bracketed at the left; lines between
its first and its last are left out, but for a dotted row.

The ends of a site count bytes, while places in an excerpt count characters: a
site after a character of several bytes is drawn further to the right, and
nothing is drawn if its first or its last place is then behind the end of the
text.
-/

namespace ConfigScope

open Text

/-- The lines of a text that a site covers: from line `first` to line `last`, both counted from 0.
-/
structure Excerpt where
  lines : List Line
  start : Nat
  stop : Nat
  first : Nat
  last : Nat

namespace Excerpt

/-- A row of an excerpt: a line of source text or dots for lines left out, the underline, or the
label. -/
inductive Row where
  | text
  | dots
  | gap
  | arrow
  deriving DecidableEq

/-- The excerpt for a stretch of a text, if neither its first nor its last place is behind the end.
-/
def of? (text : List Char) (start stop : Nat) : Option Excerpt :=
  let size := text.length
  let lines := linesOf text
  let final := if start < stop then stop - 1 else start
  if start ≤ size ∧ final ≤ size then
    some ⟨lines, start, stop, lineAt lines start, lineAt lines final⟩
  else none

variable (x : Excerpt)

def isMultiline : Bool := x.first != x.last

def final : Nat := max (x.stop - 1) x.start

def startsIn (line : Line) : Bool := line.offset ≤ x.start && x.start < line.stop
def endsIn (line : Line) : Bool := line.offset ≤ x.final && x.final < line.stop

def numberWidth : Nat := (toString (x.last + 1)).length

def spaces (n : Nat) : String := String.ofList (List.replicate n ' ')

def alignRight (width : Nat) (text : String) : String := spaces (width - text.length) ++ text

/-- The part of a row left of the vertical rule, and the rule. -/
def gutter (number : Nat) (row : Row) : String :=
  match row with
  | .text => " " ++ alignRight x.numberWidth (toString (number + 1)) ++ " │ "
  | .dots => " " ++ spaces (x.numberWidth + 1) ++ "┆ "
  | .gap | .arrow => " " ++ spaces (x.numberWidth + 1) ++ "│ "

/-- The part of the bracket of a site over several lines that stands in a row. A row is anchored if
it belongs to the first or the last line of the site. -/
def bracket (line : Line) (row : Row) (anchored : Bool) : String :=
  let starts := x.startsIn line
  let ends := x.endsIn line
  if !x.isMultiline then ""
  else if !(x.start ≤ line.stop && line.offset < x.stop) then "    "
  else match row with
    | .text | .dots =>
      if anchored then (if starts then "╭─▶ " else "├─▶ ")
      else if row = .dots then "┆   " else "│   "
    | .gap =>
      if !starts && !ends then "│   "
      else if starts && !anchored then "    "
      else "│   "
    | .arrow =>
      if !starts && !ends then "│   "
      else if starts && anchored then "│   "
      else if starts then "╭───" else "╰───"

def margin (number : Nat) (line : Line) (row : Row) (anchored : Bool) : String :=
  x.gutter number row ++ x.bracket line row anchored

/-- A line as it is shown, with white space made of blanks. -/
def drawText (column : Nat) : List Char → List Char
  | [] => []
  | c :: rest =>
    (if isBlank c then List.replicate (width c column) ' ' else [c]) ++ drawText (column + 1) rest

/-- The widths of the first `count` places of a line; a place behind its characters is one column
wide. -/
def cellWidths (shown : List Char) (count : Nat) : List Nat :=
  let widths := shown.mapIdx fun column c => width c column
  (widths ++ List.replicate (count - shown.length) 1).take count

/-- A row of `count` places, each drawn by its first and its further columns. -/
def drawCells (shown : List Char) (count : Nat) (cell : Nat → Char × Char) : String :=
  String.ofList <| (cellWidths shown count).zipIdx.flatMap fun (size, column) =>
    match size with
    | 0 => []
    | n + 1 => (cell column).1 :: List.replicate n (cell column).2

/-- The underline and the label of a site within a line. -/
def drawInline (number : Nat) (line : Line) (label : String) : String :=
  let shown := line.shown
  let middle := max ((x.start + x.stop) / 2) x.start - line.offset
  let count := x.stop - line.offset + 2
  let underlined (column : Nat) : Bool :=
    x.start ≤ line.offset + column && line.offset + column < x.stop
  let underline (column : Nat) : Char × Char :=
    if column = middle then (if underlined column then ('┬', '─') else ('│', ' '))
    else if underlined column then ('─', '─') else (' ', ' ')
  let arrow (column : Nat) : Char × Char :=
    if column = middle then ('╰', '─') else if middle < column then ('─', '─') else (' ', ' ')
  x.margin number line .gap false ++ drawCells shown count underline ++ "\n"
    ++ x.margin number line .arrow false ++ drawCells shown count arrow ++ " " ++ label ++ "\n"

/-- The end of the bracket and the label of a site over several lines. -/
def drawEnd (number : Nat) (line : Line) (label : String) : String :=
  let count := line.text.length + 2
  x.margin number line .gap true ++ drawCells line.shown count (fun _ => (' ', ' ')) ++ "\n"
    ++ x.margin number line .arrow true ++ drawCells line.shown count (fun _ => ('─', '─'))
    ++ " " ++ label ++ "\n"

/-- The rows of numbered lines. `dotted` says whether the line before was left out. -/
def drawLines (label : String) (dotted : Bool) : List (Line × Nat) → String
  | [] => ""
  | (line, number) :: rest =>
    let starts := x.isMultiline && x.startsIn line
    let ends := x.isMultiline && x.endsIn line
    let inline := !x.isMultiline && line.offset ≤ x.start && x.stop ≤ line.stop
    if starts || ends || inline then
      x.margin number line .text (starts || ends) ++ String.ofList (drawText 0 line.shown) ++ "\n"
        ++ (if inline then x.drawInline number line label
            else if ends then x.drawEnd number line label else "")
        ++ drawLines label false rest
    else if !dotted && x.isMultiline && x.start ≤ line.offset && line.offset < x.stop then
      x.margin number line .dots false ++ "\n" ++ drawLines label true rest
    else
      (if dotted then "" else x.gutter number .gap ++ "\n") ++ drawLines label true rest

def drawHelp (help : String) : String :=
  let top := x.lines.headD ⟨0, []⟩
  let margin := x.margin 0 top .gap false
  let rows := (paragraphs [] help.toList).zipIdx.map fun (text, index) =>
    margin ++ (if index = 0 then "Help: " else "      ") ++ String.ofList text ++ "\n"
  margin ++ "\n" ++ String.join rows

def rule (n : Nat) : String := String.ofList (List.replicate n '─')

def draw (file label : String) (help : Option String) : String :=
  let pad := spaces (x.numberWidth + 2)
  let offset := (x.lines[x.first]?.map (·.offset)).getD 0
  let place := file ++ ":" ++ toString (x.first + 1) ++ ":" ++ toString (x.start - offset + 1)
  let covered := (x.lines.zipIdx.drop x.first).take (x.last + 1 - x.first)
  pad ++ "╭─[ " ++ place ++ " ]\n" ++ pad ++ "│\n"
    ++ x.drawLines label false covered
    ++ (help.map x.drawHelp).getD ""
    ++ rule (x.numberWidth + 2) ++ "╯\n"

end Excerpt

namespace Diagnostic

def render (diagnostic : Diagnostic) (source file : String) : String :=
  let (start, stop) := clamp diagnostic.site source.utf8ByteSize
  let title := "[" ++ diagnostic.code ++ "] Error: " ++ diagnostic.message ++ "\n"
  match Excerpt.of? source.toList start stop with
  | some excerpt => title ++ excerpt.draw file diagnostic.label diagnostic.help
  | none => title

end Diagnostic

end ConfigScope
