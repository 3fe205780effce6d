import ConfigScope.Json.Reading
import ConfigScope.Schema.ReadError

/-!
# Reading records

A record of the schema format is an object with known keys, or a list of its
fields in order. It is read in one pass, in the order of the text: a field is
read when its key is met, a key that is met again is refused at once, and
fields that are missing are noticed at the end. Unknown keys are skipped.

A record is collected in a draft, in which every field is still optional.
-/

namespace ConfigScope.Schema.Reader

open Json

abbrev Read (α : Type) := Except ReadError α

def unbroken {α : Type} : Except Break α → Read α
  | .ok a => .ok a
  | .error cause => .error (.broken cause)

/-- What a value is called in a message, if it can be read as far as that. -/
def found : Value → Read Found
  | .null => .ok .null
  | .bool value => .ok (.boolean value)
  | .number n =>
    match n.value? with
    | some value => .ok (.number value)
    | none => .error (.broken .numberTooLarge)
  | .string s => return .text (← unbroken s.text)
  | .list _ => .ok .sequence
  | .object _ => .ok .map
  | .broken cause => .error (.broken (Mode.strict.valueBreak cause))

def mistyped {α : Type} (expected : Expected) (value : Value) : Read α := do
  throw (.wrongType (← found value) expected)

def readText : Value → Read String
  | .string s => unbroken s.text
  | value => mistyped .text value

def readBoolean : Value → Read Bool
  | .bool value => .ok value
  | value => mistyped .boolean value

/-- A text, or null for none. -/
def readOptionalText : Value → Read (Option String)
  | .null => .ok none
  | value => return some (← readText value)

def readItems {α : Type} (read : Value → Read α) : Items → Read (List α)
  | .closed => .ok []
  | .item value rest => return (← read value) :: (← readItems read rest)
  | .broken cause => .error (.broken (Mode.strict.listBreak cause))

/-- A list inside `depth` lists and objects. -/
def readList {α : Type} (read : Nat → Value → Read α) (depth : Nat) : Value → Read (List α)
  | .list items => do
    unbroken (descend depth)
    readItems (read (depth + 1)) items
  | value => mistyped .sequence value

/-- One field of a record: its key, whether it may be left out, whether a draft has it, and how a
value at some depth is put into a draft. -/
structure Field (δ : Type) where
  key : String
  optional : Bool
  filled : δ → Bool
  fill : Nat → Value → δ → Read δ

/-- A kind of record: how messages call it, and its fields in the order of a list. -/
structure Layout (δ : Type) where
  label : String
  fields : List (Field δ)

/-- Whether a record is read from the text itself, or from a value that has already been checked. -/
inductive Source where
  | text
  | checked
  deriving DecidableEq

def readMembers {δ : Type} (fields : List (Field δ)) (depth : Nat) (draft : δ) :
    Members → Read δ
  | .closed => .ok draft
  | .broken cause => .error (.broken (Mode.strict.objectBreak cause))
  | .member key value rest => do
    let key ← unbroken key.text
    match fields.find? (·.key == key) with
    | some field =>
      if field.filled draft then throw (.duplicateField key)
      let draft ← field.fill depth value draft
      readMembers fields depth draft rest
    | none =>
      unbroken value.skip
      readMembers fields depth draft rest

def countItems : Items → Nat
  | .item _ rest => countItems rest + 1
  | .closed | .broken _ => 0

/-- Nothing may follow the last field. -/
def endOfRecord (source : Source) (size : Nat) : Items → Read Unit
  | .closed => .ok ()
  | .item value rest =>
    match source with
    | .text => .error (.broken .trailingText)
    | .checked => .error (.tooLong (size + countItems (.item value rest)) size)
  | .broken .cutOff => .error (.broken .endInList)
  | .broken .commaThenClose => .error (.broken .trailingComma)
  | .broken .noComma | .broken .commaThenEnd => .error (.broken .trailingText)

/-- The fields from number `index` on, taken from what is left of a list. -/
def readPositions {δ : Type} (layout : Layout δ) (source : Source) (depth : Nat) (draft : δ)
    (index : Nat) : List (Field δ) → Items → Read δ
  | [], items => do endOfRecord source layout.fields.length items; return draft
  | field :: fields, .closed =>
    if field.optional then readPositions layout source depth draft (index + 1) fields .closed
    else .error (.tooShort index layout.label layout.fields.length)
  | field :: fields, .item value rest => do
    let draft ← field.fill depth value draft
    readPositions layout source depth draft (index + 1) fields rest
  | _ :: _, .broken cause => .error (.broken (Mode.strict.listBreak cause))

def readRecord {δ : Type} (layout : Layout δ) (source : Source) (empty : δ) (depth : Nat) :
    Value → Read δ
  | .object members => do
    unbroken (descend depth)
    readMembers layout.fields (depth + 1) empty members
  | .list items => do
    unbroken (descend depth)
    readPositions layout source (depth + 1) empty 0 layout.fields items
  | value => mistyped (.record layout.label) value

/-- A field that has no default. -/
def required {α : Type} (key : String) : Option α → Read α
  | some a => .ok a
  | none => .error (.missingField key)

end ConfigScope.Schema.Reader
