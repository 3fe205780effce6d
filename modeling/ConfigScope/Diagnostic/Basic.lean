import ConfigScope.Issue

/-!
# Diagnostics

How an issue is told to the author of a document: a code, what is wrong, a
label for the place, and sometimes a suggestion.
-/

namespace ConfigScope

structure Diagnostic where
  code : String
  message : String
  label : String
  help : Option String
  site : Span

namespace Reason

def code : Reason → String
  | notCurrentReceiver => "E0101"
  | unresolvedName _ => "E0102"
  | unresolvedCall _ _ => "E0103"
  | typeMismatch _ _ => "E0104"
  | readOnlyProperty _ => "E0105"
  | duplicateLocal _ => "E0106"
  | missingBlock _ => "E0107"
  | unexpectedBlock _ => "E0108"
  | notAnObject _ => "E0109"

def label : Reason → String
  | notCurrentReceiver => "not accessed on the current receiver"
  | unresolvedName _ => "not found in any enclosing scope"
  | unresolvedCall _ argumentCount =>
    "no matching overload for " ++ toString argumentCount ++ " argument(s)"
  | typeMismatch expected actual => "expected " ++ expected.render ++ ", found " ++ actual.render
  | readOnlyProperty _ => "cannot be assigned"
  | duplicateLocal _ => "declared again here"
  | missingBlock _ => "block expected after this call"
  | unexpectedBlock _ => "unexpected block"
  | notAnObject type => "this is a " ++ type.render

def help : Reason → Option String
  | notCurrentReceiver =>
    some "move this into the block that configures its owner and use it without a receiver"
  | typeMismatch (.scalar .long) (.scalar .int) => some "use a Long literal such as `1L`"
  | typeMismatch _ .null => some "null values are not supported here"
  | readOnlyProperty property => some ("configure `" ++ property ++ "` with a block instead")
  | _ => none

end Reason

namespace Issue

def diagnostic (issue : Issue) : Diagnostic :=
  ⟨issue.reason.code, issue.reason.message, issue.reason.label, issue.reason.help, issue.site⟩

end Issue

namespace Diagnostic

/-- The part of a site that lies in a text of `size` bytes, at least one position of it if there is
one. -/
def clamp (site : Span) (size : Nat) : Nat × Nat :=
  let start := min site.start size
  let stop := max (min site.stop size) start
  if start = stop then (start, min (stop + 1) size) else (start, stop)

end Diagnostic

end ConfigScope
