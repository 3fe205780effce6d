import ConfigScope.Json.Break
import ConfigScope.Json.Number
import ConfigScope.Json.Tree

/-!
# Strict and loose reading

A value that someone wants is read strictly: surrogates have to be paired,
numbers to be in range, and lists and objects may not be nested too deep. A
value that nobody wants is skipped, and only its grammar is checked. The two
also differ in what they call some of the breaks.
-/

namespace ConfigScope.Json

inductive Mode where
  | strict
  | loose
  deriving DecidableEq

namespace Mode

def valueBreak (mode : Mode) : NoValue → Break
  | .cutOff | .cutWord => .endInValue
  | .stray => .expectedValue
  | .badWord => .expectedWord
  | .badNumber => .badNumber
  | .cutNumber =>
    match mode with
    | strict => .endInValue
    | loose => .badNumber
  | .noColon => .expectedColon
  | .cutBeforeColon => .endInObject

def listBreak (mode : Mode) : ListBreak → Break
  | .cutOff => .endInList
  | .noComma => .expectedListSeparator
  | .commaThenEnd => .endInValue
  | .commaThenClose =>
    match mode with
    | strict => .trailingComma
    | loose => .expectedValue

def objectBreak (mode : Mode) : ObjectBreak → Break
  | .cutOff => .endInObject
  | .noComma => .expectedObjectSeparator
  | .noKey => .keyNotString
  | .commaThenClose =>
    match mode with
    | strict => .trailingComma
    | loose => .keyNotString
  | .commaThenEnd =>
    match mode with
    | strict => .endInValue
    | loose => .endInObject

end Mode

namespace StringToken

def unclosed : StringEnd → Except Break Unit
  | .closed => .ok ()
  | .cutOff => .error .endInString
  | .controlCharacter => .error .controlCharacter
  | .badEscape | .badUnit => .error .badEscape

/-- What follows a leading surrogate at the end of a string: only a damaged `\u` escape, or the end
of the text, hides that its partner is missing. -/
def unpaired : StringEnd → Break
  | .closed | .controlCharacter | .badEscape => .unpairedSurrogate
  | .cutOff => .endInString
  | .badUnit => .badEscape

def isLeading (n : Nat) : Bool := 0xd800 ≤ n && n ≤ 0xdbff
def isTrailing (n : Nat) : Bool := 0xdc00 ≤ n && n ≤ 0xdfff

def pair (leading trailing : Nat) : Char :=
  Char.ofNat (0x10000 + (leading - 0xd800) * 0x400 + (trailing - 0xdc00))

/-- The characters of a string, with surrogates put together. -/
def decode (ending : StringEnd) : List Piece → Except Break (List Char)
  | [] => do unclosed ending; return []
  | .char c :: rest => do return c :: (← decode ending rest)
  | .unit n :: rest =>
    if isTrailing n then .error .loneSurrogate
    else if !isLeading n then do return Char.ofNat n :: (← decode ending rest)
    else match rest with
      | [] => .error (unpaired ending)
      | .char _ :: _ => .error .unpairedSurrogate
      | .unit m :: rest =>
        if isTrailing m then do return pair n m :: (← decode ending rest)
        else .error .loneSurrogate

def text (s : StringToken) : Except Break String := do
  return String.ofList (← decode s.ending s.pieces)

end StringToken

/-- How many lists and objects may be open at once. -/
def maxDepth : Nat := 127

/-- Opens a list or object inside `depth` others. -/
def descend (depth : Nat) : Except Break Unit :=
  if depth < maxDepth then .ok () else .error .tooDeep

mutual

/-- Checks the grammar of a value, and nothing else. -/
def Value.skip : Value → Except Break Unit
  | .null | .bool _ | .number _ => .ok ()
  | .string s => StringToken.unclosed s.ending
  | .list items => items.skip
  | .object members => members.skip
  | .broken cause => .error (Mode.loose.valueBreak cause)

def Items.skip : Items → Except Break Unit
  | .closed => .ok ()
  | .item value rest => do value.skip; rest.skip
  | .broken cause => .error (Mode.loose.listBreak cause)

def Members.skip : Members → Except Break Unit
  | .closed => .ok ()
  | .member key value rest => do StringToken.unclosed key.ending; value.skip; rest.skip
  | .broken cause => .error (Mode.loose.objectBreak cause)

end

mutual

/-- Checks all that reading a value strictly could stumble over, inside `depth` lists and objects.
-/
def Value.check (depth : Nat) : Value → Except Break Unit
  | .null | .bool _ => .ok ()
  | .number n => if n.value?.isSome then .ok () else .error .numberTooLarge
  | .string s => do discard s.text
  | .list items => do descend depth; items.check (depth + 1)
  | .object members => do descend depth; members.check (depth + 1)
  | .broken cause => .error (Mode.strict.valueBreak cause)

def Items.check (depth : Nat) : Items → Except Break Unit
  | .closed => .ok ()
  | .item value rest => do value.check depth; rest.check depth
  | .broken cause => .error (Mode.strict.listBreak cause)

def Members.check (depth : Nat) : Members → Except Break Unit
  | .closed => .ok ()
  | .member key value rest => do discard key.text; value.check depth; rest.check depth
  | .broken cause => .error (Mode.strict.objectBreak cause)

end

end ConfigScope.Json
