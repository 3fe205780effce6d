import ConfigScope.Resolution.Basic
import ConfigScope.Ty.Conformance

/-!
# Looking names up

Unqualified names are looked up from the innermost scope outward. At each scope
its local values come first, then the members of its receiver. External objects
and top-level functions come last.

The types of scopes are only derived as far as the search gets.
-/

namespace ConfigScope

/-- The function that a call is a call of. -/
inductive Callee where
  | member (receiver : Origin) (function : MemberFunction)
  | topLevel (function : TopLevelFunction)

namespace Schema

variable (schema : Schema)

/-- The local value or external object of a name. A property of a receiver further in hides it. -/
def lookupValue (name : String) (span : Span) : List Scope → Except Fault (Option Origin)
  | [] => return (schema.external? name).map (.external · span)
  | scope :: outer =>
    match scope.local? name with
    | some value => return some value
    | none => do
      let type ← scope.receiver.type schema.typeOf
      if (type.property? name).isSome then return none
      lookupValue name span outer

/-- The innermost receiver with a property of that name. -/
def lookupProperty (name : String) : List Scope → Except Fault (Option Target)
  | [] => return none
  | scope :: outer => do
    let type ← scope.receiver.type schema.typeOf
    match type.property? name with
    | some property => return some ⟨scope.receiver, property⟩
    | none => lookupProperty name outer

/-- The types of arguments; an argument that could not be resolved has none. -/
def argumentTypes : List (Option Origin) → Except Fault (List (Option Ty))
  | [] => return []
  | none :: rest => return none :: (← argumentTypes rest)
  | some origin :: rest => do
    let type ← origin.type schema.typeOf
    return some type :: (← argumentTypes rest)

/-- Whether each argument conforms to its parameter. One without a type conforms to any, and the
search ends at the first that does not conform. -/
def acceptsEach : List Parameter → List (Option Ty) → Except Fault Bool
  | parameter :: parameters, argument :: arguments =>
    match argument with
    | none => acceptsEach parameters arguments
    | some type => do
      if type.conformsTo (← schema.typeOf parameter.type) then acceptsEach parameters arguments
      else return false
  | _, _ => return true

def accepts (parameters : List Parameter) (arguments : List (Option Ty)) : Except Fault Bool :=
  if parameters.length = arguments.length then schema.acceptsEach parameters arguments
  else return false

/-- The first overload of a class that accepts the arguments. -/
def memberOverload (decl : ClassDecl) (name : String) (arguments : List (Option Ty)) :
    Except Fault (Option MemberFunction) :=
  (decl.overloads name).findM? fun function => schema.accepts function.parameters arguments

def topLevelOverload (name : String) (arguments : List (Option Ty)) :
    Except Fault (Option TopLevelFunction) :=
  (schema.overloads name).findM? fun function => schema.accepts function.parameters arguments

/-- The innermost receiver with a function that accepts the arguments, else a top-level function
that does. -/
def lookupFunction (name : String) (arguments : List (Option Ty)) :
    List Scope → Except Fault (Option Callee)
  | [] => return (← schema.topLevelOverload name arguments).map .topLevel
  | scope :: outer => do
    let type ← scope.receiver.type schema.typeOf
    match type.class? with
    | none => lookupFunction name arguments outer
    | some decl =>
      match ← schema.memberOverload decl name arguments with
      | some function => return some (.member scope.receiver function)
      | none => lookupFunction name arguments outer

end Schema

end ConfigScope
