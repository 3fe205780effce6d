import ConfigScope.Context.Basic

/-!
# Resolutions

What the analysis of a document finds: the assignments it accepts, the objects
that calls add to other objects, and the issues, each in the order in which
the document is evaluated.
-/

namespace ConfigScope

/-- A property as reached on some object. -/
structure Target where
  receiver : Origin
  property : Property
  deriving DecidableEq

structure Assignment where
  target : Target
  value : Origin
  span : Span
  deriving DecidableEq

structure Addition where
  container : Origin
  object : Origin
  deriving DecidableEq

structure Findings where
  assignments : Array Assignment
  additions : Array Addition

structure Resolution where
  top : Origin
  assignments : List Assignment
  additions : List Addition
  issues : List Issue
  deriving DecidableEq

namespace Target

def read (target : Target) (span : Span) : Origin :=
  .property target.receiver target.property span

/-- Whether an object is meant, whatever names it goes by, and which of its properties. -/
def isAbout (target : Target) (object : Origin) (name : String) : Bool :=
  target.property.name == name && target.receiver.subject == object

end Target

namespace Ty

/-- The property of a name, if the type is a class that has one. -/
def property? (type : Ty) (name : String) : Option Property :=
  type.class?.bind (·.property? name)

end Ty

namespace Resolution

def lastAssigned? (resolution : Resolution) (object : Origin) (name : String) : Option Origin :=
  (resolution.assignments.reverse.find? (·.target.isAbout object name)).map (·.value)

/-- The default of a property, as a value of its own at the span of its receiver. -/
def default? (receiver : Origin) (type : Ty) (name : String) : Option Origin :=
  match type.property? name with
  | some property =>
    if property.hasDefault then some (.defaultValue receiver property receiver.span) else none
  | none => none

/-- The value of a property after a document: what was last assigned to it, else its default. -/
def value (resolution : Resolution) (typeOf : TypeContext) (receiver : Origin) (name : String) :
    Except Fault (Option Origin) := do
  match resolution.lastAssigned? receiver.subject name with
  | some value => return some value
  | none => return default? receiver (← receiver.type typeOf) name

end Resolution

end ConfigScope
