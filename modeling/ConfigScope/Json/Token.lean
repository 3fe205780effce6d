/-!
# JSON tokens

A JSON text is scanned one character at a time. Scanning does not refuse a
text: where the text stops being JSON, the last token says how, and what that
means depends on who was reading. A string in particular keeps its escapes
apart, because pairing surrogates is a matter for those who want the text.
-/

namespace ConfigScope.Json

/-- Part of a string: a character, or a UTF-16 unit that a `\u` escape gives. -/
inductive Piece where
  | char (c : Char)
  | unit (n : Nat)
  deriving DecidableEq

/-- How a string ends. Only a closed one is followed by further tokens. -/
inductive StringEnd where
  | closed
  | cutOff
  | controlCharacter
  | badEscape
  | badUnit
  deriving DecidableEq

structure StringToken where
  pieces : List Piece
  ending : StringEnd
  deriving DecidableEq

structure Exponent where
  negative : Bool
  digits : List Nat
  deriving DecidableEq

/-- A number as written, by its decimal digits. -/
structure Numeral where
  negative : Bool
  whole : List Nat
  fraction : List Nat
  exponent : Option Exponent
  deriving DecidableEq

inductive Token where
  | openList
  | closeList
  | openObject
  | closeObject
  | comma
  | colon
  | null
  | bool (value : Bool)
  | number (numeral : Numeral)
  | string (string : StringToken)
  /-- A number that breaks the grammar. -/
  | badNumber
  /-- A number that the end of the text leaves unfinished. -/
  | cutNumber
  /-- A word that is not `null`, `true` or `false`. -/
  | badWord
  /-- A beginning of one of these words at the end of the text. -/
  | cutWord
  /-- A character that begins no token. -/
  | stray
  deriving DecidableEq

/-- How far into a number the scanner is. -/
inductive NumberStage where
  | sign
  | zero
  | whole
  | point
  | fraction
  | mark
  | exponentSign
  | exponent
  deriving DecidableEq

/-- The scanner between two characters. Pieces and digits are kept last first. -/
inductive Scanner where
  | between
  | word (expected : Char) (rest : List Char) (token : Token)
  | number (stage : NumberStage) (numeral : Numeral)
  | string (done : List Piece)
  | escape (done : List Piece)
  | unit (done : List Piece) (bytes : Nat) (value : Option Nat)

namespace Numeral

def empty (negative : Bool) : Numeral :=
  ⟨negative, [], [], none⟩

def inOrder (n : Numeral) : Numeral :=
  ⟨n.negative, n.whole.reverse, n.fraction.reverse,
    n.exponent.map fun e => ⟨e.negative, e.digits.reverse⟩⟩

def pushWhole (n : Numeral) (d : Nat) : Numeral :=
  { n with whole := d :: n.whole }

def pushFraction (n : Numeral) (d : Nat) : Numeral :=
  { n with fraction := d :: n.fraction }

def pushExponent (n : Numeral) (d : Nat) : Numeral :=
  { n with exponent := n.exponent.map fun e => { e with digits := d :: e.digits } }

def beginExponent (n : Numeral) (negative : Bool) : Numeral :=
  { n with exponent := some ⟨negative, []⟩ }

end Numeral

def digit? (c : Char) : Option Nat :=
  if '0' ≤ c ∧ c ≤ '9' then some (c.toNat - '0'.toNat) else none

def hexDigit? (c : Char) : Option Nat :=
  if '0' ≤ c ∧ c ≤ '9' then some (c.toNat - '0'.toNat)
  else if 'a' ≤ c ∧ c ≤ 'f' then some (c.toNat - 'a'.toNat + 10)
  else if 'A' ≤ c ∧ c ≤ 'F' then some (c.toNat - 'A'.toNat + 10)
  else none

/-- The character that a short escape stands for. -/
def shortEscape? (c : Char) : Option Char :=
  match c with
  | '"' => some '"'
  | '\\' => some '\\'
  | '/' => some '/'
  | 'b' => some '\x08'
  | 'f' => some '\x0c'
  | 'n' => some '\n'
  | 'r' => some '\r'
  | 't' => some '\t'
  | _ => none

namespace Scanner

/-- What one character brings: finished tokens, and the scanner after it unless the text ends there.
-/
abbrev Step := List Token × Option Scanner

def stop (token : Token) : Step := ([token], none)
def go (scanner : Scanner) : Step := ([], some scanner)
def emit (token : Token) : Step := ([token], some between)

/-- The first character of a token, or a blank between tokens. -/
def start (c : Char) : Step :=
  match c with
  | ' ' | '\n' | '\t' | '\r' => go between
  | '[' => emit .openList
  | ']' => emit .closeList
  | '\x7b' => emit .openObject
  | '\x7d' => emit .closeObject
  | ',' => emit .comma
  | ':' => emit .colon
  | '"' => go (string [])
  | 'n' => go (word 'u' ['l', 'l'] .null)
  | 't' => go (word 'r' ['u', 'e'] (.bool true))
  | 'f' => go (word 'a' ['l', 's', 'e'] (.bool false))
  | '-' => go (number .sign (.empty true))
  | '0' => go (number .zero ((Numeral.empty false).pushWhole 0))
  | c =>
    match digit? c with
    | some d => go (number .whole ((Numeral.empty false).pushWhole d))
    | none => stop .stray

/-- Ends a number before a character that does not belong to it. -/
def endNumber (numeral : Numeral) (c : Char) : Step :=
  let (tokens, next) := start c
  (.number numeral.inOrder :: tokens, next)

def isMark (c : Char) : Bool := c = 'e' || c = 'E'

def stepNumber (stage : NumberStage) (n : Numeral) (c : Char) : Step :=
  match stage, digit? c with
  | .sign, some 0 => go (number .zero (n.pushWhole 0))
  | .sign, some d => go (number .whole (n.pushWhole d))
  | .sign, none => stop .badNumber
  | .zero, some _ => stop .badNumber
  | .whole, some d => go (number .whole (n.pushWhole d))
  | .zero, none | .whole, none =>
    if c = '.' then go (number .point n)
    else if isMark c then go (number .mark n)
    else endNumber n c
  | .point, some d => go (number .fraction (n.pushFraction d))
  | .point, none => stop .badNumber
  | .fraction, some d => go (number .fraction (n.pushFraction d))
  | .fraction, none => if isMark c then go (number .mark n) else endNumber n c
  | .mark, some d => go (number .exponent ((n.beginExponent false).pushExponent d))
  | .mark, none =>
    if c = '+' then go (number .exponentSign (n.beginExponent false))
    else if c = '-' then go (number .exponentSign (n.beginExponent true))
    else stop .badNumber
  | .exponentSign, some d => go (number .exponent (n.pushExponent d))
  | .exponentSign, none => stop .badNumber
  | .exponent, some d => go (number .exponent (n.pushExponent d))
  | .exponent, none => endNumber n c

def endString (done : List Piece) (ending : StringEnd) : Token :=
  .string ⟨done.reverse, ending⟩

/-- A `\u` escape takes the next four bytes, and only then are they looked at. -/
def stepUnit (done : List Piece) (bytes : Nat) (value : Option Nat) (c : Char) : Step :=
  let bytes := bytes + c.utf8Size
  let value := do return (← value) * 16 + (← hexDigit? c)
  if bytes < 4 then go (unit done bytes value)
  else match value with
    | some n => go (string (.unit n :: done))
    | none => stop (endString done .badUnit)

def step (scanner : Scanner) (c : Char) : Step :=
  match scanner with
  | between => start c
  | word expected rest token =>
    if c = expected then
      match rest with
      | [] => emit token
      | next :: rest => go (word next rest token)
    else stop .badWord
  | number stage numeral => stepNumber stage numeral c
  | string done =>
    if c = '"' then emit (endString done .closed)
    else if c = '\\' then go (escape done)
    else if c.toNat < 0x20 then stop (endString done .controlCharacter)
    else go (string (.char c :: done))
  | escape done =>
    match shortEscape? c with
    | some e => go (string (.char e :: done))
    | none => if c = 'u' then go (unit done 0 (some 0)) else stop (endString done .badEscape)
  | unit done bytes value => stepUnit done bytes value c

def finish : Scanner → List Token
  | between => []
  | word _ _ _ => [.cutWord]
  | number stage numeral =>
    match stage with
    | .zero | .whole | .fraction | .exponent => [.number numeral.inOrder]
    | .sign | .point | .mark | .exponentSign => [.cutNumber]
  | string done | escape done | unit done _ _ => [endString done .cutOff]

def run (scanner : Scanner) : List Char → List Token
  | [] => scanner.finish
  | c :: rest =>
    match scanner.step c with
    | (tokens, some next) => tokens ++ next.run rest
    | (tokens, none) => tokens

end Scanner

/-- The tokens of a text, up to the one where it stops being JSON. -/
def tokens (text : String) : List Token :=
  Scanner.between.run text.toList

end ConfigScope.Json
