import ConfigScope.Literal
import ConfigScope.Schema.Basic
import ConfigScope.Span

/-!
# Origins

The origin of a value says how the value came to be: every expression of a
document that makes sense has one. An origin holds the origins it was made
from, and the span it was made at. The results of two calls differ by their
invocation ids even if the calls are written alike.
-/

namespace ConfigScope

inductive Origin where
  | constant (value : Literal) (span : Span)
  | external (external : External) (span : Span)
  /-- The result of a member function. -/
  | memberCall (receiver : Origin) (function : MemberFunction) (arguments : List Origin)
      (id : Nat) (span : Span)
  | topLevelCall (function : TopLevelFunction) (arguments : List Origin) (id : Nat) (span : Span)
  /-- A property that was read. -/
  | property (receiver : Origin) (property : Property) (span : Span)
  /-- The default of a property that nothing was assigned to. -/
  | defaultValue (receiver : Origin) (property : Property) (span : Span)
  /-- The receiver of a whole document. -/
  | top (type : Ty) (span : Span)
  /-- A local name for another value. -/
  | binding (name : String) (value : Origin) (span : Span)
  | null (span : Span)
  /-- The object that a configure block is about, reached through an accessor. -/
  | configured (receiver : Origin) (function : MemberFunction) (id : Nat) (accessor : Accessor)
      (span : Span)
  /-- What a builder function hands back, which is the receiver it was called on. -/
  | built (receiver : Origin) (function : MemberFunction) (arguments : List Origin)
      (id : Nat) (span : Span)

namespace Origin

instance : Inhabited Origin := ⟨.null default⟩

def span : Origin → Span
  | constant _ span | external _ span | memberCall _ _ _ _ span | topLevelCall _ _ _ span
  | property _ _ span | defaultValue _ _ span | top _ span | binding _ _ span | null span
  | configured _ _ _ _ span | built _ _ _ _ span => span

/-- The origin through which this one was reached. A binding was not reached through what it names.
-/
def receiver? : Origin → Option Origin
  | memberCall receiver _ _ _ _ | property receiver _ _ | defaultValue receiver _ _
  | configured receiver _ _ _ _ | built receiver _ _ _ _ => some receiver
  | constant _ _ | external _ _ | topLevelCall _ _ _ _ | top _ _ | binding _ _ _ | null _ => none

/-- The object that an origin stands for, whatever bindings and builder calls are in between. -/
def subject : Origin → Origin
  | binding _ value _ => value.subject
  | built receiver _ _ _ _ => receiver.subject
  | origin => origin

end Origin

namespace Literal

def scalar : Literal → Scalar
  | int _ => .int
  | long _ => .long
  | string _ => .string
  | boolean _ => .boolean

end Literal

namespace Origin

/-- The static type of an origin. Bindings have the type of what they name, and builder calls that
of their receiver, whatever their declared result. -/
def type (typeOf : TypeContext) : Origin → Except Fault Ty
  | constant value _ => .ok (.scalar value.scalar)
  | external key _ => typeOf key.type
  | memberCall _ function _ _ _ => typeOf function.semantics.result
  | topLevelCall function _ _ _ => typeOf function.semantics.result
  | property _ decl _ | defaultValue _ decl _ => typeOf decl.type
  | top type _ => .ok type
  | binding _ value _ => value.type typeOf
  | null _ => .ok .null
  | configured _ _ _ accessor _ => typeOf accessor.object
  | built receiver _ _ _ _ => receiver.type typeOf

end Origin

end ConfigScope
