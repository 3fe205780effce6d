import ConfigScope.Schema.Basic
import ConfigScope.Schema.Record

/-!
# Reading a schema text

The JSON form of declarations. Names of classes and types are dotted texts;
lists and flags may be left out. What a function does is an object, or a list,
that names its kind: since the kind may come last, all of it is checked first
and its other fields are read afterwards.
-/

namespace ConfigScope

namespace Schema

namespace Reader

open Json

def readName (value : Value) : Read QualifiedName :=
  return QualifiedName.parse (← readText value)

def readType (value : Value) : Read TypeRef :=
  return TypeRef.parse (← readText value)

/-! ## Properties, parameters, external objects -/

structure PropertyDraft where
  name : Option String := none
  type : Option TypeRef := none
  readOnly : Option Bool := none
  hasDefault : Option Bool := none
  currentOnly : Option Bool := none

def propertyLayout : Layout PropertyDraft where
  label := "struct DataProperty"
  fields := [
    ⟨"name", false, (·.name.isSome), fun _ value draft =>
      return { draft with name := some (← readText value) }⟩,
    ⟨"type", false, (·.type.isSome), fun _ value draft =>
      return { draft with type := some (← readType value) }⟩,
    ⟨"is_read_only", true, (·.readOnly.isSome), fun _ value draft =>
      return { draft with readOnly := some (← readBoolean value) }⟩,
    ⟨"has_default_value", true, (·.hasDefault.isSome), fun _ value draft =>
      return { draft with hasDefault := some (← readBoolean value) }⟩,
    ⟨"access_from_current_receiver_only", true, (·.currentOnly.isSome), fun _ value draft =>
      return { draft with currentOnly := some (← readBoolean value) }⟩]

def readProperty (depth : Nat) (value : Value) : Read Property := do
  let draft ← readRecord propertyLayout .text {} depth value
  return ⟨← required "name" draft.name, ← required "type" draft.type,
    draft.readOnly.getD false, draft.hasDefault.getD false, draft.currentOnly.getD false⟩

structure ParameterDraft where
  name : Option (Option String) := none
  type : Option TypeRef := none

def parameterLayout : Layout ParameterDraft where
  label := "struct DataParameter"
  fields := [
    ⟨"name", true, (·.name.isSome), fun _ value draft =>
      return { draft with name := some (← readOptionalText value) }⟩,
    ⟨"type", false, (·.type.isSome), fun _ value draft =>
      return { draft with type := some (← readType value) }⟩]

def readParameter (depth : Nat) (value : Value) : Read Parameter := do
  let draft ← readRecord parameterLayout .text {} depth value
  return ⟨draft.name.getD none, ← required "type" draft.type⟩

structure ExternalDraft where
  name : Option String := none
  type : Option TypeRef := none

def externalLayout : Layout ExternalDraft where
  label := "struct ExternalObjectKey"
  fields := [
    ⟨"name", false, (·.name.isSome), fun _ value draft =>
      return { draft with name := some (← readText value) }⟩,
    ⟨"type", false, (·.type.isSome), fun _ value draft =>
      return { draft with type := some (← readType value) }⟩]

def readExternal (depth : Nat) (value : Value) : Read External := do
  let draft ← readRecord externalLayout .text {} depth value
  return ⟨← required "name" draft.name, ← required "type" draft.type⟩

/-! ## Semantics -/

inductive Kind where
  | builder
  | configure
  | add
  | pure
  deriving DecidableEq

def readKind : Value → Read Kind
  | .string s => do
    match ← unbroken s.text with
    | "builder" => return .builder
    | "access_and_configure" => return .configure
    | "add_and_configure" => return .add
    | "pure" => return .pure
    | text => throw (.unknownKind text)
  | value => mistyped .kind value

/-- Reads the kind out of an object and checks its other members, which are kept, last first. -/
def splitKind (depth : Nat) (kind : Option Kind) (others : List (StringToken × Value)) :
    Members → Read (Kind × Value)
  | .closed => return (← required "kind" kind, .object (.ofDone others .closed))
  | .broken cause => .error (.broken (Mode.strict.objectBreak cause))
  | .member key value rest => do
    if (← unbroken key.text) = "kind" then
      if kind.isSome then throw (.duplicateField "kind")
      let kind ← readKind value
      splitKind depth (some kind) others rest
    else
      unbroken (value.check depth)
      splitKind depth kind ((key, value) :: others) rest

/-- The kind of a function's semantics, and the object or list of what else belongs to it. -/
def readTagged (depth : Nat) : Value → Read (Kind × Value)
  | .object members => do
    unbroken (descend depth)
    splitKind (depth + 1) none [] members
  | .list items => do
    unbroken (descend depth)
    match items with
    | .closed => throw (.missingField "kind")
    | .broken cause => throw (.broken (Mode.strict.listBreak cause))
    | .item value rest =>
      let kind ← readKind value
      unbroken (rest.check (depth + 1))
      return (kind, .list rest)
  | value => mistyped .semantics value

structure AccessorDraft where
  property : Option String := none
  object : Option TypeRef := none

def accessorLayout : Layout AccessorDraft where
  label := "struct ConfigureAccessor"
  fields := [
    ⟨"property", false, (·.property.isSome), fun _ value draft =>
      return { draft with property := some (← readText value) }⟩,
    ⟨"object_type", false, (·.object.isSome), fun _ value draft =>
      return { draft with object := some (← readType value) }⟩]

def readAccessor (value : Value) : Read Accessor := do
  let draft ← readRecord accessorLayout .checked {} 0 value
  return ⟨← required "property" draft.property, ← required "object_type" draft.object⟩

/-- A record with one field that must be there. -/
def singleLayout {α : Type} (label key : String) (read : Value → Read α) :
    Layout (Option α) where
  label := label
  fields := [⟨key, false, (·.isSome), fun _ value _ => return some (← read value)⟩]

def readSingle {α : Type} (label key : String) (read : Value → Read α) (value : Value) :
    Read α := do
  required key (← readRecord (singleLayout label key read) .checked none 0 value)

structure AddDraft where
  object : Option TypeRef := none
  acceptsBlock : Option Bool := none

def addLayout : Layout AddDraft where
  label := "struct variant FunctionSemantics::AddAndConfigure"
  fields := [
    ⟨"object_type", false, (·.object.isSome), fun _ value draft =>
      return { draft with object := some (← readType value) }⟩,
    ⟨"accepts_configure_block", true, (·.acceptsBlock.isSome), fun _ value draft =>
      return { draft with acceptsBlock := some (← readBoolean value) }⟩]

def readKindFields (kind : Kind) (fields : Value) : Read Semantics :=
  match kind with
  | .builder => return .builder (← readSingle "struct variant FunctionSemantics::Builder"
      "return_value_type" readType fields)
  | .configure => return .configure (← readSingle
      "struct variant FunctionSemantics::AccessAndConfigure" "accessor" readAccessor fields)
  | .add => do
    let draft ← readRecord addLayout .checked {} 0 fields
    return .add (← required "object_type" draft.object) (draft.acceptsBlock.getD false)
  | .pure => return .pure (← readSingle "struct variant FunctionSemantics::Pure"
      "return_value_type" readType fields)

def readSemantics (depth : Nat) (value : Value) : Read Semantics := do
  let (kind, fields) ← readTagged depth value
  readKindFields kind fields

/-! ## Functions and classes -/

structure FunctionDraft where
  name : Option String := none
  parameters : Option (List Parameter) := none
  semantics : Option Semantics := none
  currentOnly : Option Bool := none

def functionLayout : Layout FunctionDraft where
  label := "struct SchemaMemberFunction"
  fields := [
    ⟨"name", false, (·.name.isSome), fun _ value draft =>
      return { draft with name := some (← readText value) }⟩,
    ⟨"parameters", true, (·.parameters.isSome), fun depth value draft =>
      return { draft with parameters := some (← readList readParameter depth value) }⟩,
    ⟨"semantics", false, (·.semantics.isSome), fun depth value draft =>
      return { draft with semantics := some (← readSemantics depth value) }⟩,
    ⟨"access_from_current_receiver_only", true, (·.currentOnly.isSome), fun _ value draft =>
      return { draft with currentOnly := some (← readBoolean value) }⟩]

def readMemberFunction (depth : Nat) (value : Value) : Read MemberFunction := do
  let draft ← readRecord functionLayout .text {} depth value
  return ⟨← required "name" draft.name, draft.parameters.getD [],
    ← required "semantics" draft.semantics, draft.currentOnly.getD false⟩

structure TopLevelFunctionDraft where
  package : Option String := none
  name : Option String := none
  parameters : Option (List Parameter) := none
  semantics : Option Semantics := none

def topLevelFunctionLayout : Layout TopLevelFunctionDraft where
  label := "struct DataTopLevelFunction"
  fields := [
    ⟨"package_name", true, (·.package.isSome), fun _ value draft =>
      return { draft with package := some (← readText value) }⟩,
    ⟨"name", false, (·.name.isSome), fun _ value draft =>
      return { draft with name := some (← readText value) }⟩,
    ⟨"parameters", true, (·.parameters.isSome), fun depth value draft =>
      return { draft with parameters := some (← readList readParameter depth value) }⟩,
    ⟨"semantics", false, (·.semantics.isSome), fun depth value draft =>
      return { draft with semantics := some (← readSemantics depth value) }⟩]

def readTopLevelFunction (depth : Nat) (value : Value) : Read TopLevelFunction := do
  let draft ← readRecord topLevelFunctionLayout .text {} depth value
  return ⟨draft.package.getD "", ← required "name" draft.name, draft.parameters.getD [],
    ← required "semantics" draft.semantics⟩

structure ClassDraft where
  name : Option QualifiedName := none
  supertypes : Option (List QualifiedName) := none
  properties : Option (List Property) := none
  functions : Option (List MemberFunction) := none

def classLayout : Layout ClassDraft where
  label := "struct DataClass"
  fields := [
    ⟨"name", false, (·.name.isSome), fun _ value draft =>
      return { draft with name := some (← readName value) }⟩,
    ⟨"supertypes", true, (·.supertypes.isSome), fun depth value draft =>
      return { draft with supertypes := some (← readList (fun _ => readName) depth value) }⟩,
    ⟨"properties", true, (·.properties.isSome), fun depth value draft =>
      return { draft with properties := some (← readList readProperty depth value) }⟩,
    ⟨"member_functions", true, (·.functions.isSome), fun depth value draft =>
      return { draft with functions := some (← readList readMemberFunction depth value) }⟩]

def readClass (depth : Nat) (value : Value) : Read ClassDecl := do
  let draft ← readRecord classLayout .text {} depth value
  return ⟨← required "name" draft.name, .ofList (draft.supertypes.getD []),
    draft.properties.getD [], draft.functions.getD []⟩

/-! ## The whole text -/

structure DeclarationsDraft where
  topLevel : Option QualifiedName := none
  classes : Option (List ClassDecl) := none
  functions : Option (List TopLevelFunction) := none
  externals : Option (List External) := none

def declarationsLayout : Layout DeclarationsDraft where
  label := "struct SchemaDocument"
  fields := [
    ⟨"top_level_receiver_type", false, (·.topLevel.isSome), fun _ value draft =>
      return { draft with topLevel := some (← readName value) }⟩,
    ⟨"data_classes", true, (·.classes.isSome), fun depth value draft =>
      return { draft with classes := some (← readList readClass depth value) }⟩,
    ⟨"top_level_functions", true, (·.functions.isSome), fun depth value draft =>
      return { draft with functions := some (← readList readTopLevelFunction depth value) }⟩,
    ⟨"external_objects", true, (·.externals.isSome), fun depth value draft =>
      return { draft with externals := some (← readList readExternal depth value) }⟩]

def readDeclarations (value : Value) : Read Declarations := do
  let draft ← readRecord declarationsLayout .text {} 0 value
  return ⟨← required "top_level_receiver_type" draft.topLevel, draft.classes.getD [],
    draft.functions.getD [], draft.externals.getD []⟩

end Reader

/-- The declarations that a text holds; nothing but blanks may follow them. -/
def declarationsOfText (text : String) : Except ReadError Declarations := do
  let (value, more) := Json.parse text
  let decls ← Reader.readDeclarations value
  if more then throw (.broken .trailingText)
  return decls

def ofText (text : String) : Except SchemaError Schema :=
  match declarationsOfText text with
  | .ok decls => ofDeclarations decls
  | .error cause => .error (.unreadable cause)

end Schema

end ConfigScope
