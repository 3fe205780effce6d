import ConfigScope.Literal
import ConfigScope.Span

/-!
# Documents

A document is a block of statements. A statement assigns a property, binds a
local value with `val`, or is an expression; a call may carry a configure
block, which is a document of its own inside the larger one. Every node
knows the span of source text it was written at.

An access or a call is unqualified when its receiver is left out.
-/

namespace ConfigScope

mutual

/-- A property name, read or assigned, on a receiver or unqualified. -/
structure Access where
  receiver : Option Expr
  name : String
  span : Span

structure Call where
  receiver : Option Expr
  name : String
  arguments : List Expr
  block : Option Block
  span : Span

inductive Expr where
  | literal (value : Literal) (span : Span)
  | null (span : Span)
  | this (span : Span)
  | access (access : Access)
  | call (call : Call)

inductive Statement where
  | assign (target : Access) (value : Expr) (span : Span)
  | val (name : String) (value : Expr) (span : Span)
  | expr (expr : Expr)

structure Block where
  statements : List Statement
  span : Span

end

namespace Expr

def span : Expr → Span
  | literal _ span | null span | this span => span
  | access a => a.span
  | call c => c.span

end Expr

namespace Statement

def span : Statement → Span
  | assign _ _ span | val _ _ span => span
  | expr e => e.span

/-- The expression whose value the statement assigns, binds or drops. -/
def value : Statement → Expr
  | assign _ value _ | val _ value _ => value
  | expr e => e

end Statement

end ConfigScope
