import ConfigScope.Span
import ConfigScope.Ty.Equality

/-!
# Issues

A mistake in a document: where it is, and what is wrong there. Finding one
never ends the analysis.
-/

namespace ConfigScope

inductive Reason where
  /-- A restricted member was asked of something other than the innermost receiver. -/
  | notCurrentReceiver
  | unresolvedName (name : String)
  | unresolvedCall (name : String) (argumentCount : Nat)
  | typeMismatch (expected actual : Ty)
  | readOnlyProperty (property : String)
  | duplicateLocal (name : String)
  | missingBlock (function : String)
  | unexpectedBlock (function : String)
  /-- A member was asked of a value that has none. -/
  | notAnObject (type : Ty)
  deriving DecidableEq

structure Issue where
  site : Span
  reason : Reason
  deriving DecidableEq

namespace Reason

def message : Reason → String
  | notCurrentReceiver => "member can only be accessed on the current receiver"
  | unresolvedName name => "unresolved reference `" ++ name ++ "`"
  | unresolvedCall name argumentCount =>
    "no function `" ++ name ++ "` accepts " ++ toString argumentCount
      ++ " argument(s) of these types"
  | typeMismatch expected actual =>
    "type mismatch: expected `" ++ expected.render ++ "`, found `" ++ actual.render ++ "`"
  | readOnlyProperty property => "property `" ++ property ++ "` is read-only"
  | duplicateLocal name => "value `" ++ name ++ "` is already declared in this block"
  | missingBlock function => "`" ++ function ++ "` must be followed by a configure block"
  | unexpectedBlock function => "`" ++ function ++ "` does not accept a configure block"
  | notAnObject type => "`" ++ type.render ++ "` has no members"

end Reason

end ConfigScope
