import ConfigScope.QualifiedName

/-!
# Faults

A fault is a broken promise of whoever drives an analysis, unlike an issue,
which is a mistake in the analysed document. It ends the analysis, or at
least the part of it that is run under a guard.
-/

namespace ConfigScope

inductive Fault where
  /-- A type reference to a class that the schema does not declare was followed. -/
  | undeclaredType (name : QualifiedName)
  /-- The current scope was asked for while no scope was open. -/
  | noOpenScope
  /-- A scope was left that was not the innermost: how many scopes there should have been, and how
  many there were. -/
  | notInnermost (expected actual : Nat)
  /-- A span was built whose end lies before its start. -/
  | reversedSpan
  /-- A failure with a text of its own. -/
  | raised (message : String)
  deriving DecidableEq

namespace Fault

def message : Fault → String
  | undeclaredType name =>
    "type reference `" ++ name.render ++ "` does not name a schema class"
  | noOpenScope => "no analysis scope is open"
  | notInnermost expected actual =>
    "assertion `left == right` failed: left a scope that is not the innermost one\n  left: "
      ++ toString expected ++ "\n right: " ++ toString actual
  | reversedSpan => "assertion failed: start.raw <= end.raw"
  | raised message => message

end Fault

end ConfigScope
