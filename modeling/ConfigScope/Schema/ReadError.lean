import ConfigScope.Json.Break
import ConfigScope.Json.Number
import ConfigScope.Text.Quoted

/-!
# Errors of reading a schema text

Either the text breaks off as JSON, or a value in it is not what the schema
format asks for at its place.
-/

namespace ConfigScope.Schema

/-- A value as it is named in a message. -/
inductive Found where
  | null
  | boolean (value : Bool)
  | number (value : Json.Number)
  | text (value : String)
  | sequence
  | map
  deriving DecidableEq

/-- What the schema format asks for at a place. -/
inductive Expected where
  | text
  | boolean
  | sequence
  | record (label : String)
  | semantics
  | kind
  deriving DecidableEq

inductive ReadError where
  | broken (cause : Json.Break)
  | wrongType (found : Found) (expected : Expected)
  | missingField (key : String)
  | duplicateField (key : String)
  | unknownKind (kind : String)
  /-- A record written as a list has only so many of its fields. -/
  | tooShort (count : Nat) (label : String) (size : Nat)
  /-- A record written as a list has more elements than fields. -/
  | tooLong (count : Nat) (size : Nat)
  deriving DecidableEq

namespace Found

def render : Found → String
  | null => "null"
  | boolean value => if value then "boolean `true`" else "boolean `false`"
  | number (.integer value) => "integer `" ++ toString value ++ "`"
  | number value => "floating point `" ++ value.render ++ "`"
  | text value => "string " ++ Text.quote value
  | sequence => "sequence"
  | map => "map"

end Found

namespace Expected

def render : Expected → String
  | text => "a string"
  | boolean => "a boolean"
  | sequence => "a sequence"
  | record label => label
  | semantics => "internally tagged enum FunctionSemantics"
  | kind => "variant identifier"

end Expected

def countElements (n : Nat) : String :=
  if n = 1 then "1 element" else toString n ++ " elements"

/-- Whether the error lies in the values, in the text, or in its end. -/
inductive Category where
  | data
  | text
  | ending

namespace ReadError

def message : ReadError → String
  | broken cause => cause.message
  | wrongType found expected =>
    "invalid type: " ++ found.render ++ ", expected " ++ expected.render
  | missingField key => "missing field `" ++ key ++ "`"
  | duplicateField key => "duplicate field `" ++ key ++ "`"
  | unknownKind kind =>
    "unknown variant `" ++ kind ++ "`, expected one of "
      ++ "`builder`, `access_and_configure`, `add_and_configure`, `pure`"
  | tooShort count label size =>
    "invalid length " ++ toString count ++ ", expected " ++ label ++ " with " ++ countElements size
  | tooLong count size =>
    "invalid length " ++ toString count ++ ", expected " ++ countElements size ++ " in sequence"

def category : ReadError → Category
  | broken cause => if cause.isCutOff then .ending else .text
  | _ => .data

end ReadError

end ConfigScope.Schema
