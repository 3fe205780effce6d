import ConfigScope.QualifiedName
import ConfigScope.Schema.ReadError

/-!
# Schema errors

Why declarations, or a text that should hold them, do not make a schema.
-/

namespace ConfigScope

inductive SchemaError where
  | unreadable (cause : Schema.ReadError)
  | unknownTopLevel (name : QualifiedName)
  | duplicateClass (name : QualifiedName)
  /-- A reference to a class that is not declared, and the member that holds it. -/
  | undeclaredType (name : QualifiedName) (holder : String)
  deriving DecidableEq

namespace SchemaError

def message : SchemaError → String
  | unreadable cause => "invalid schema document: " ++ cause.message
  | unknownTopLevel name => "top-level receiver type `" ++ name.render ++ "` is not declared"
  | duplicateClass name => "data class `" ++ name.render ++ "` is declared more than once"
  | undeclaredType name holder =>
    "`" ++ holder ++ "` refers to undeclared type `" ++ name.render ++ "`"

end SchemaError

end ConfigScope
