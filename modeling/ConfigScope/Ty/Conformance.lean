import ConfigScope.Sharing
import ConfigScope.Ty.Equality

/-!
# Conformance

When a value of one type may be put where another type is expected. Scalars
never widen, a class conforms to itself and to its supertypes, nothing
conforms to null, and only unit conforms to unit.
-/

namespace ConfigScope.Ty

def conformsTo (value target : Ty) : Bool :=
  match target, value with
  | scalar s, scalar t => s == t
  | object target, object value =>
    sharedEq value target || value.supertypes.contains target.name
  | unit, unit => true
  | _, _ => false

end ConfigScope.Ty
