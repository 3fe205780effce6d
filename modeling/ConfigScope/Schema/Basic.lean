import ConfigScope.Fault
import ConfigScope.Schema.Declarations
import ConfigScope.Schema.Error

/-!
# Schemas

A schema is a checked set of declarations. Its classes are kept in the order
of their names, so the order in which they were declared leaves no trace.

Checking looks at the types of properties and external objects, at the
parameters and results of functions, and at the objects that member functions
configure. It does not look into types that are held inline.
-/

namespace ConfigScope

structure Schema where
  topLevel : ClassDecl
  /-- In the order of their names, which are all different. -/
  classes : List ClassDecl
  functions : List TopLevelFunction
  /-- One for each name. -/
  externals : List External
  deriving DecidableEq

/-- A way to follow type references. -/
abbrev TypeContext := TypeRef → Except Fault Ty

namespace Schema

def findClass? (classes : List ClassDecl) (name : QualifiedName) : Option ClassDecl :=
  classes.find? (·.name == name)

def class? (schema : Schema) (name : QualifiedName) : Option ClassDecl :=
  findClass? schema.classes name

def external? (schema : Schema) (name : String) : Option External :=
  schema.externals.find? (·.name == name)

/-- All top-level functions of a name, in order of declaration. -/
def overloads (schema : Schema) (name : String) : List TopLevelFunction :=
  schema.functions.filter (·.name == name)

def typeOf (schema : Schema) : TypeContext
  | .inline type => .ok type
  | .named name =>
    match schema.class? name with
    | some decl => .ok (.object decl)
    | none => .error (.undeclaredType name)

/-- Puts a class before the first one whose name comes after its own. -/
def insertClass (decl : ClassDecl) : List ClassDecl → List ClassDecl
  | [] => [decl]
  | head :: rest =>
    if decl.name.before head.name then decl :: head :: rest
    else head :: insertClass decl rest

/-- Adds classes one by one; a name that is already taken is an error. -/
def collectClasses (sorted : List ClassDecl) :
    List ClassDecl → Except SchemaError (List ClassDecl)
  | [] => .ok sorted
  | decl :: rest =>
    if (findClass? sorted decl.name).isSome then .error (.duplicateClass decl.name)
    else collectClasses (insertClass decl sorted) rest

/-- Later external objects replace earlier ones of the same name. -/
def collectExternals : List External → List External
  | [] => []
  | external :: rest =>
    if rest.any (·.name == external.name) then collectExternals rest
    else external :: collectExternals rest

/-- A type reference together with the member that holds it. -/
structure Mention where
  holder : String
  type : TypeRef

namespace Mention

def ofParameters (holder : String) (parameters : List Parameter) : List Mention :=
  parameters.map fun parameter => ⟨holder, parameter.type⟩

def ofSemantics (holder : String) : Semantics → List Mention
  | .configure accessor => [⟨holder, accessor.object⟩]
  | semantics => [⟨holder, semantics.result⟩]

def ofMemberFunction (decl : ClassDecl) (function : MemberFunction) : List Mention :=
  let holder := decl.name.render ++ "." ++ function.name
  ofParameters holder function.parameters ++ ofSemantics holder function.semantics

def ofProperty (decl : ClassDecl) (property : Property) : Mention :=
  ⟨decl.name.render ++ "." ++ property.name, property.type⟩

def ofClass (decl : ClassDecl) : List Mention :=
  decl.properties.map (ofProperty decl) ++ decl.functions.flatMap (ofMemberFunction decl)

/-- The object that a top-level function configures is not among them. -/
def ofTopLevelFunction (function : TopLevelFunction) : List Mention :=
  let holder := QualifiedName.render ⟨function.package, function.name⟩
  ofParameters holder function.parameters ++ [⟨holder, function.semantics.result⟩]

def ofExternal (external : External) : Mention :=
  ⟨external.name, external.type⟩

end Mention

/-- The references that are checked, in the order in which they are. -/
def mentions (schema : Schema) : List Mention :=
  schema.classes.flatMap Mention.ofClass
    ++ schema.functions.flatMap Mention.ofTopLevelFunction
    ++ schema.externals.map Mention.ofExternal

/-- The error of a reference to a class that is not declared. -/
def undeclared? (schema : Schema) (mention : Mention) : Option SchemaError :=
  match mention.type with
  | .inline _ => none
  | .named name =>
    if (schema.class? name).isSome then none else some (.undeclaredType name mention.holder)

/-- The schema of some declarations. A repeated class is reported before an unknown top-level class,
and that before an undeclared type. -/
def ofDeclarations (decls : Declarations) : Except SchemaError Schema := do
  let classes ← collectClasses [] decls.classes
  let some topLevel := findClass? classes decls.topLevel
    | .error (.unknownTopLevel decls.topLevel)
  let schema : Schema := ⟨topLevel, classes, decls.functions, collectExternals decls.externals⟩
  match schema.mentions.findSome? schema.undeclared? with
  | some error => .error error
  | none => .ok schema

end Schema

end ConfigScope
