import ConfigScope.NameSet

/-!
# Static types and class declarations

A type is a scalar, a class, null or unit. Declarations refer to types either
by holding one inline or by the name of a class that the schema declares, so
types, references, classes and their members are defined together.

A function's semantics says what a call of it does: hand back its receiver
(`builder`), open a configure block on an object that an accessor reaches
(`configure`), add a new object to its receiver (`add`), or only compute a
value (`pure`).
-/

namespace ConfigScope

inductive Scalar where
  | int
  | long
  | string
  | boolean
  deriving DecidableEq

mutual

inductive Ty where
  | scalar (scalar : Scalar)
  | object (decl : ClassDecl)
  | null
  | unit

inductive TypeRef where
  | inline (type : Ty)
  | named (name : QualifiedName)

/-- The supertypes are all of them, direct or not. Functions may be overloaded. -/
structure ClassDecl where
  name : QualifiedName
  supertypes : NameSet
  properties : List Property
  functions : List MemberFunction

structure Property where
  name : String
  type : TypeRef
  readOnly : Bool
  hasDefault : Bool
  /-- Whether only the receiver of the innermost block may be asked for it. -/
  currentOnly : Bool

structure Parameter where
  name : Option String
  type : TypeRef

/-- How a configure block reaches its object: through a property of the receiver. -/
structure Accessor where
  property : String
  object : TypeRef

inductive Semantics where
  | builder (result : TypeRef)
  | configure (accessor : Accessor)
  | add (object : TypeRef) (acceptsBlock : Bool)
  | pure (result : TypeRef)

structure MemberFunction where
  name : String
  parameters : List Parameter
  semantics : Semantics
  /-- Whether only the receiver of the innermost block may be asked for it. -/
  currentOnly : Bool

end

instance : Inhabited Ty := ⟨.unit⟩
instance : Inhabited TypeRef := ⟨.inline .unit⟩

namespace Scalar

def render : Scalar → String
  | int => "Int"
  | long => "Long"
  | string => "String"
  | boolean => "Boolean"

end Scalar

namespace Ty

def render : Ty → String
  | scalar s => s.render
  | object decl => decl.name.render
  | null => "Null"
  | unit => "Unit"

def class? : Ty → Option ClassDecl
  | object decl => some decl
  | scalar _ | null | unit => none

/-- The types that every schema knows by name. -/
def builtin? (name : String) : Option Ty :=
  match name with
  | "Int" => some (scalar .int)
  | "Long" => some (scalar .long)
  | "String" => some (scalar .string)
  | "Boolean" => some (scalar .boolean)
  | "Unit" => some unit
  | "Null" => some null
  | _ => none

end Ty

namespace TypeRef

/-- A built-in name stands for its type, any other text names a class. -/
def parse (text : String) : TypeRef :=
  match Ty.builtin? text with
  | some type => inline type
  | none => named (QualifiedName.parse text)

def render : TypeRef → String
  | inline type => type.render
  | named name => name.render

end TypeRef

namespace ClassDecl

/-- The first property declared under a name. -/
def property? (decl : ClassDecl) (name : String) : Option Property :=
  decl.properties.find? (·.name == name)

/-- All overloads of a name, in order of declaration. -/
def overloads (decl : ClassDecl) (name : String) : List MemberFunction :=
  decl.functions.filter (·.name == name)

end ClassDecl

/-- Whether a call carries a configure block. -/
inductive BlockRule where
  | forbidden
  | optional
  | required
  deriving DecidableEq

namespace Semantics

/-- The declared type of a call; opening a block on an accessed object has no value of its own. -/
def result : Semantics → TypeRef
  | builder result => result
  | configure _ => .inline .unit
  | add object _ => object
  | pure result => result

def blockRule : Semantics → BlockRule
  | configure _ => .required
  | add _ acceptsBlock => if acceptsBlock then .optional else .forbidden
  | builder _ | pure _ => .forbidden

end Semantics

end ConfigScope
