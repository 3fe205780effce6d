import ConfigScope.Proofs.DanglingNames
import ConfigScope.Proofs.JsonText
import ConfigScope.Proofs.NameText
import ConfigScope.Proofs.WrittenRecords
import Mathlib.Data.List.Perm.Basic

/-!
# Declarations as they are written

Which trees stand for declarations, part by part: what each record is called in a
text, which of its fields have a default, how a function's semantics names its kind,
and in which order a set may be listed.

Each part is read back, if names and references can be told from their texts, and so
are the declarations as a whole (`declarationsOfText_written`).
-/

namespace ConfigScope

/-! ## Sets of names -/

namespace NameSet

theorem mem_ofList {name : QualifiedName} {names : List QualifiedName} :
    name ∈ (ofList names).toList ↔ name ∈ names := by
  have hfold : ∀ (names : List QualifiedName) (set : NameSet),
      name ∈ (names.foldl insert set).toList ↔ name ∈ names ∨ name ∈ set.toList := by
    intro names
    induction names with
    | nil => simp
    | cons head rest ih =>
      intro set
      rw [List.foldl_cons, ih, insert, mem_insertInto, List.mem_cons]
      tauto
  rw [ofList, hfold]
  simp [empty]

theorem nodup_toList (set : NameSet) : set.toList.Nodup := by
  refine set.sorted.imp ?_
  rintro a b hbefore rfl
  rw [QualifiedName.before_irrefl] at hbefore
  cases hbefore

theorem eq_of_mem_iff {a b : NameSet} (h : ∀ name, name ∈ a.toList ↔ name ∈ b.toList) : a = b := by
  have hperm : a.toList.Perm b.toList :=
    (List.perm_ext_iff_of_nodup a.nodup_toList b.nodup_toList).mpr h
  have hlists : a.toList = b.toList := by
    refine hperm.eq_of_pairwise ?_ a.sorted b.sorted
    intro first second _ _ hbefore hafter
    exact (QualifiedName.before_asymm hbefore hafter).elim
  cases a
  cases b
  simpa using hlists

end NameSet

namespace Schema.Reader

open Json

/-! ## What stands for what -/

def WrittenName (name : QualifiedName) : Value → Prop := WrittenText name.render

def WrittenType (ref : TypeRef) : Value → Prop := WrittenText ref.render

def propertyFields (property : Property) : List WrittenField := [
  .required "name" (WrittenText property.name),
  .required "type" (WrittenType property.type),
  .defaulted "is_read_only" WrittenFlag false property.readOnly,
  .defaulted "has_default_value" WrittenFlag false property.hasDefault,
  .defaulted "access_from_current_receiver_only" WrittenFlag false property.currentOnly]

def parameterFields (parameter : Parameter) : List WrittenField := [
  .defaulted "name" WrittenOptionalText none parameter.name,
  .required "type" (WrittenType parameter.type)]

def externalFields (external : External) : List WrittenField := [
  .required "name" (WrittenText external.name),
  .required "type" (WrittenType external.type)]

def accessorFields (accessor : Accessor) : List WrittenField := [
  .required "property" (WrittenText accessor.property),
  .required "object_type" (WrittenType accessor.object)]

def Kind.ofSemantics : Semantics → Kind
  | .builder _ => .builder
  | .configure _ => .configure
  | .add _ _ => .add
  | .pure _ => .pure

def Kind.text : Kind → String
  | .builder => "builder"
  | .configure => "access_and_configure"
  | .add => "add_and_configure"
  | .pure => "pure"

def kindFields : Semantics → List WrittenField
  | .builder result => [.required "return_value_type" (WrittenType result)]
  | .configure accessor => [.required "accessor" (WrittenRecord (accessorFields accessor))]
  | .add object acceptsBlock => [
    .required "object_type" (WrittenType object),
    .defaulted "accepts_configure_block" WrittenFlag false acceptsBlock]
  | .pure result => [.required "return_value_type" (WrittenType result)]

def semanticsFields (semantics : Semantics) : List WrittenField :=
  .required "kind" (WrittenText (Kind.ofSemantics semantics).text) :: kindFields semantics

def WrittenParameters : List Parameter → Value → Prop :=
  WrittenList fun parameter => WrittenRecord (parameterFields parameter)

def functionFields (function : MemberFunction) : List WrittenField := [
  .required "name" (WrittenText function.name),
  .defaulted "parameters" WrittenParameters [] function.parameters,
  .required "semantics" (WrittenRecord (semanticsFields function.semantics)),
  .defaulted "access_from_current_receiver_only" WrittenFlag false function.currentOnly]

def topLevelFunctionFields (function : TopLevelFunction) : List WrittenField := [
  .defaulted "package_name" WrittenText "" function.package,
  .required "name" (WrittenText function.name),
  .defaulted "parameters" WrittenParameters [] function.parameters,
  .required "semantics" (WrittenRecord (semanticsFields function.semantics))]

def classFields (decl : ClassDecl) (supertypes : List QualifiedName) : List WrittenField := [
  .required "name" (WrittenName decl.name),
  .defaulted "supertypes" (WrittenList WrittenName) [] supertypes,
  .defaulted "properties" (WrittenList fun property => WrittenRecord (propertyFields property)) []
    decl.properties,
  .defaulted "member_functions"
    (WrittenList fun function => WrittenRecord (functionFields function)) [] decl.functions]

/-- The supertypes may be listed in any order, and more than once. -/
def WrittenClass (decl : ClassDecl) (value : Value) : Prop :=
  ∃ supertypes, (∀ name, name ∈ supertypes ↔ name ∈ decl.supertypes.toList) ∧
    WrittenRecord (classFields decl supertypes) value

def declarationsFields (decls : Declarations) : List WrittenField := [
  .required "top_level_receiver_type" (WrittenName decls.topLevel),
  .defaulted "data_classes" (WrittenList WrittenClass) [] decls.classes,
  .defaulted "top_level_functions"
    (WrittenList fun function => WrittenRecord (topLevelFunctionFields function)) []
    decls.functions,
  .defaulted "external_objects"
    (WrittenList fun external => WrittenRecord (externalFields external)) [] decls.externals]

/-! ## Names, properties, parameters, external objects -/

theorem readName_written {name : QualifiedName} (hname : name.DotFree) {value : Value}
    (h : WrittenName name value) : readName value = .ok name := by
  rw [readName, h.readText]
  exact congrArg Except.ok (QualifiedName.parse_render hname)

theorem readType_written {ref : TypeRef} (href : ref.Writable) {value : Value}
    (h : WrittenType ref value) : readType value = .ok ref := by
  rw [readType, h.readText]
  exact congrArg Except.ok (TypeRef.parse_render href)

/-- What is known of a property when some keys of its record have been read. The drafts of the other
records are alike. -/
def propertyDraft (property : Property) (read : String → Bool) : PropertyDraft where
  name := given read "name" property.name
  type := given read "type" property.type
  readOnly := given read "is_read_only" property.readOnly
  hasDefault := given read "has_default_value" property.hasDefault
  currentOnly := given read "access_from_current_receiver_only" property.currentOnly

theorem readProperty_written {property : Property} (htype : property.type.Writable) {depth : Nat}
    (hdepth : depth < maxDepth) {value : Value}
    (h : WrittenRecord (propertyFields property) value) :
    readProperty depth value = .ok property := by
  have hfills : List.Forall₂ (·.Fills (propertyDraft property) (depth + 1))
      (propertyFields property) propertyLayout.fields := by
    refine .cons (fills_put (fun _ => WrittenText.readText) ?_ ?_) <|
      .cons (fills_put (fun _ => readType_written htype) ?_ ?_) <|
      .cons (fills_put (fun _ => WrittenFlag.readBoolean) ?_ ?_) <|
      .cons (fills_put (fun _ => WrittenFlag.readBoolean) ?_ ?_) <|
      .cons (fills_put (fun _ => WrittenFlag.readBoolean) ?_ ?_) .nil
    all_goals
      intro read
      simp [propertyDraft]
  obtain ⟨read, hread, hgiven⟩ := readRecord_written h hfills (by decide) hdepth .text
  simp only [propertyFields, WrittenField.required, WrittenField.defaulted,
    List.forall_mem_cons] at hgiven
  obtain ⟨hname, htype, hreadOnly, hdefault, hcurrent, -⟩ := hgiven
  refine except_bind_ok.mpr ⟨_, hread, ?_⟩
  simp only [propertyDraft, required_given hname, required_given htype, getD_given hreadOnly,
    getD_given hdefault, getD_given hcurrent]
  cases property
  rfl

def parameterDraft (parameter : Parameter) (read : String → Bool) : ParameterDraft where
  name := given read "name" parameter.name
  type := given read "type" parameter.type

theorem readParameter_written {parameter : Parameter} (htype : parameter.type.Writable)
    {depth : Nat} (hdepth : depth < maxDepth) {value : Value}
    (h : WrittenRecord (parameterFields parameter) value) :
    readParameter depth value = .ok parameter := by
  have hfills : List.Forall₂ (·.Fills (parameterDraft parameter) (depth + 1))
      (parameterFields parameter) parameterLayout.fields := by
    refine .cons (fills_put (fun _ => WrittenOptionalText.readOptionalText) ?_ ?_) <|
      .cons (fills_put (fun _ => readType_written htype) ?_ ?_) .nil
    all_goals
      intro read
      simp [parameterDraft]
  obtain ⟨read, hread, hgiven⟩ := readRecord_written h hfills (by decide) hdepth .text
  simp only [parameterFields, WrittenField.required, WrittenField.defaulted,
    List.forall_mem_cons] at hgiven
  obtain ⟨hname, htype, -⟩ := hgiven
  refine except_bind_ok.mpr ⟨_, hread, ?_⟩
  simp only [parameterDraft, getD_given hname, required_given htype]
  cases parameter
  rfl

def externalDraft (external : External) (read : String → Bool) : ExternalDraft where
  name := given read "name" external.name
  type := given read "type" external.type

theorem readExternal_written {external : External} (htype : external.type.Writable) {depth : Nat}
    (hdepth : depth < maxDepth) {value : Value}
    (h : WrittenRecord (externalFields external) value) :
    readExternal depth value = .ok external := by
  have hfills : List.Forall₂ (·.Fills (externalDraft external) (depth + 1))
      (externalFields external) externalLayout.fields := by
    refine .cons (fills_put (fun _ => WrittenText.readText) ?_ ?_) <|
      .cons (fills_put (fun _ => readType_written htype) ?_ ?_) .nil
    all_goals
      intro read
      simp [externalDraft]
  obtain ⟨read, hread, hgiven⟩ := readRecord_written h hfills (by decide) hdepth .text
  simp only [externalFields, WrittenField.required, List.forall_mem_cons] at hgiven
  obtain ⟨hname, htype, -⟩ := hgiven
  refine except_bind_ok.mpr ⟨_, hread, ?_⟩
  simp only [externalDraft, required_given hname, required_given htype]
  rfl

/-! ## Semantics -/

def accessorDraft (accessor : Accessor) (read : String → Bool) : AccessorDraft where
  property := given read "property" accessor.property
  object := given read "object_type" accessor.object

theorem readAccessor_written {accessor : Accessor} (hobject : accessor.object.Writable)
    {value : Value} (h : WrittenRecord (accessorFields accessor) value) :
    readAccessor value = .ok accessor := by
  have hfills : List.Forall₂ (·.Fills (accessorDraft accessor) 1)
      (accessorFields accessor) accessorLayout.fields := by
    refine .cons (fills_put (fun _ => WrittenText.readText) ?_ ?_) <|
      .cons (fills_put (fun _ => readType_written hobject) ?_ ?_) .nil
    all_goals
      intro read
      simp [accessorDraft]
  obtain ⟨read, hread, hgiven⟩ := readRecord_written h hfills (by decide) (by decide) .checked
  simp only [accessorFields, WrittenField.required, List.forall_mem_cons] at hgiven
  obtain ⟨hproperty, hobject, -⟩ := hgiven
  refine except_bind_ok.mpr ⟨_, hread, ?_⟩
  simp only [accessorDraft, required_given hproperty, required_given hobject]
  cases accessor
  rfl

theorem readSingle_written {α : Type} (label : String) {key : String} {get : Value → Read α}
    {writes : Value → Prop} {a : α} {known : List String} {members : Members}
    (h : WrittenMembers known [.required key writes] members) (hknown : key ∈ known)
    (hget : ∀ value, writes value → get value = .ok a) :
    readSingle label key get (.object members) = .ok a := by
  let written := WrittenField.required key writes
  have hfills : List.Forall₂ (·.Fills (fun read => given read key a) 1) [written]
      (singleLayout label key get).fields :=
    .cons ⟨rfl, fun _ => isSome_given, fun read value hvalue =>
      except_bind_ok.mpr ⟨a, hget value hvalue, except_pure_ok.mpr given_mark_self⟩⟩ .nil
  obtain ⟨read, hread, hgiven⟩ := readRecord_object h hfills (by simp [singleLayout])
    (by simpa [singleLayout] using hknown) (by decide) .checked
  exact except_bind_ok.mpr ⟨_, hread, required_given (hgiven _ List.mem_cons_self)⟩

def addDraft (object : TypeRef) (acceptsBlock : Bool) (read : String → Bool) : AddDraft where
  object := given read "object_type" object
  acceptsBlock := given read "accepts_configure_block" acceptsBlock

theorem readAdd_written {object : TypeRef} (hobject : object.Writable) {acceptsBlock : Bool}
    {known : List String} {members : Members}
    (h : WrittenMembers known (kindFields (.add object acceptsBlock)) members)
    (hknown : ∀ key ∈ addLayout.fields.map (·.key), key ∈ known) :
    readKindFields .add (.object members) = .ok (.add object acceptsBlock) := by
  have hfills : List.Forall₂ (·.Fills (addDraft object acceptsBlock) 1)
      (kindFields (.add object acceptsBlock)) addLayout.fields := by
    refine .cons (fills_put (fun _ => readType_written hobject) ?_ ?_) <|
      .cons (fills_put (fun _ => WrittenFlag.readBoolean) ?_ ?_) .nil
    all_goals
      intro read
      simp [addDraft]
  obtain ⟨read, hread, hgiven⟩ := readRecord_object h hfills (by decide) hknown (by decide) .checked
  simp only [kindFields, WrittenField.required, WrittenField.defaulted,
    List.forall_mem_cons] at hgiven
  obtain ⟨hobject, hblock, -⟩ := hgiven
  refine except_bind_ok.mpr ⟨_, hread, ?_⟩
  simp only [addDraft, required_given hobject, getD_given hblock]
  rfl

theorem readKindFields_written {semantics : Semantics}
    (hrefs : ∀ ref ∈ semantics.references, ref.Writable) {known : List String} {members : Members}
    (h : WrittenMembers known (kindFields semantics) members)
    (hknown : ∀ key ∈ (kindFields semantics).map (·.key), key ∈ known) :
    readKindFields (Kind.ofSemantics semantics) (.object members) = .ok semantics := by
  cases semantics with
  | builder result | pure result =>
    have htype : ∀ value, WrittenType result value → readType value = .ok result :=
      fun _ => readType_written (hrefs result List.mem_cons_self)
    exact except_bind_ok.mpr
      ⟨result, readSingle_written _ h (hknown _ List.mem_cons_self) htype, rfl⟩
  | configure accessor =>
    have haccessor : ∀ value, WrittenRecord (accessorFields accessor) value →
        readAccessor value = .ok accessor :=
      fun _ => readAccessor_written (hrefs accessor.object List.mem_cons_self)
    exact except_bind_ok.mpr
      ⟨accessor, readSingle_written _ h (hknown _ List.mem_cons_self) haccessor, rfl⟩
  | add object acceptsBlock => exact readAdd_written (hrefs object List.mem_cons_self) h hknown

theorem readKind_written {kind : Kind} {value : Value} (h : WrittenText kind.text value) :
    readKind value = .ok kind := by
  obtain ⟨token, rfl, htext⟩ := h
  rw [readKind, htext]
  cases kind <;> rfl

theorem check_accessorFields {accessor : Accessor} {depth : Nat} (hdepth : depth < maxDepth)
    {value : Value} (h : WrittenRecord (accessorFields accessor) value) :
    value.check depth = .ok () := by
  obtain ⟨members, rfl, hmembers⟩ := h
  have hcheck : members.check (depth + 1) = .ok () := by
    refine hmembers.check ?_
    simp only [accessorFields, List.forall_mem_cons]
    exact ⟨fun _ h => WrittenText.check h _, fun _ h => WrittenText.check h _,
      List.forall_mem_nil _⟩
  rw [Value.check, descend, if_pos hdepth]
  exact hcheck

theorem check_kindFields {semantics : Semantics} {depth : Nat} (hdepth : depth < maxDepth) :
    ∀ w ∈ kindFields semantics, ∀ value, w.writes value → value.check depth = .ok () := by
  cases semantics <;> simp only [kindFields, List.forall_mem_cons]
  case builder | pure => exact ⟨fun _ h => WrittenText.check h depth, List.forall_mem_nil _⟩
  case configure => exact ⟨fun _ => check_accessorFields hdepth, List.forall_mem_nil _⟩
  case add =>
    refine ⟨fun _ h => WrittenText.check h depth, ?_, List.forall_mem_nil _⟩
    rintro _ rfl
    rfl

theorem key_kindFields_ne {semantics : Semantics} :
    ∀ w ∈ kindFields semantics, w.key ≠ "kind" := by
  cases semantics <;> simp [kindFields]

theorem nodup_semanticsFields (semantics : Semantics) :
    ((semanticsFields semantics).map (·.key)).Nodup := by
  cases semantics <;> simp [semanticsFields, kindFields]

theorem readSemantics_written {semantics : Semantics}
    (hrefs : ∀ ref ∈ semantics.references, ref.Writable) {depth : Nat}
    (hdepth : depth + 1 < maxDepth) {value : Value}
    (h : WrittenRecord (semanticsFields semantics) value) :
    readSemantics depth value = .ok semantics := by
  obtain ⟨members, rfl, hmembers⟩ := h
  have hkind : ∀ w ∈ semanticsFields semantics, w.key = "kind" → ¬ w.optional ∧
      ∀ value, w.writes value → readKind value = .ok (Kind.ofSemantics semantics) := by
    intro w hw hkey
    rcases List.mem_cons.mp hw with rfl | hfield
    · exact ⟨id, fun _ => readKind_written⟩
    · exact (key_kindFields_ne w hfield hkey).elim
  have hcheck : ∀ w ∈ semanticsFields semantics, w.key ≠ "kind" →
      ∀ value, w.writes value → value.check (depth + 1) = .ok () := by
    intro w hw hkey
    rcases List.mem_cons.mp hw with rfl | hfield
    · exact (hkey rfl).elim
    · exact check_kindFields hdepth w hfield
  have hhere : "kind" ∈ (semanticsFields semantics).map (·.key) := List.mem_cons_self
  obtain ⟨kept, hsplit, hkept⟩ := splitKind_written hmembers hhere
    (nodup_semanticsFields semantics) hkind hcheck []
  have hfilter : (semanticsFields semantics).filter (·.key != "kind") = kindFields semantics := by
    rw [semanticsFields, List.filter_cons_of_neg (by simp), List.filter_eq_self]
    intro w hw
    simpa using key_kindFields_ne w hw
  -- no kind has been read when the object is opened, and what is kept is read as a record
  rw [hfilter] at hkept
  rw [if_pos hhere] at hsplit
  have htagged : readTagged depth (.object members) =
      .ok (Kind.ofSemantics semantics, .object kept) := by
    rw [readTagged, descend_of_lt (Nat.lt_of_succ_lt hdepth)]
    exact hsplit
  refine except_bind_ok.mpr ⟨_, htagged, ?_⟩
  exact readKindFields_written hrefs hkept fun key hkey => List.mem_cons_of_mem _ hkey

/-! ## Functions and classes -/

theorem readParameters_written {parameters : List Parameter}
    (htypes : ∀ parameter ∈ parameters, parameter.type.Writable) {depth : Nat}
    (hdepth : depth + 1 < maxDepth) {value : Value} (h : WrittenParameters parameters value) :
    readList readParameter depth value = .ok parameters :=
  h.readList (Nat.lt_of_succ_lt hdepth) fun parameter hparameter _ =>
    readParameter_written (htypes parameter hparameter) hdepth

def functionDraft (function : MemberFunction) (read : String → Bool) : FunctionDraft where
  name := given read "name" function.name
  parameters := given read "parameters" function.parameters
  semantics := given read "semantics" function.semantics
  currentOnly := given read "access_from_current_receiver_only" function.currentOnly

theorem readMemberFunction_written {function : MemberFunction}
    (hrefs : ∀ ref ∈ signatureReferences function.parameters function.semantics, ref.Writable)
    {depth : Nat} (hdepth : depth + 2 < maxDepth) {value : Value}
    (h : WrittenRecord (functionFields function) value) :
    readMemberFunction depth value = .ok function := by
  rw [signatureReferences, List.forall_mem_append, List.forall_mem_map] at hrefs
  have hfills : List.Forall₂ (·.Fills (functionDraft function) (depth + 1))
      (functionFields function) functionLayout.fields := by
    refine .cons (fills_put (fun _ => WrittenText.readText) ?_ ?_) <|
      .cons (fills_put (fun _ => readParameters_written hrefs.1 hdepth) ?_ ?_) <|
      .cons (fills_put (fun _ => readSemantics_written hrefs.2 hdepth) ?_ ?_) <|
      .cons (fills_put (fun _ => WrittenFlag.readBoolean) ?_ ?_) .nil
    all_goals
      intro read
      simp [functionDraft]
  obtain ⟨read, hread, hgiven⟩ := readRecord_written h hfills (by decide) (by omega) .text
  simp only [functionFields, WrittenField.required, WrittenField.defaulted,
    List.forall_mem_cons] at hgiven
  obtain ⟨hname, hparameters, hsemantics, hcurrent, -⟩ := hgiven
  refine except_bind_ok.mpr ⟨_, hread, ?_⟩
  simp only [functionDraft, required_given hname, getD_given hparameters,
    required_given hsemantics, getD_given hcurrent]
  cases function
  rfl

def topLevelFunctionDraft (function : TopLevelFunction) (read : String → Bool) :
    TopLevelFunctionDraft where
  package := given read "package_name" function.package
  name := given read "name" function.name
  parameters := given read "parameters" function.parameters
  semantics := given read "semantics" function.semantics

theorem readTopLevelFunction_written {function : TopLevelFunction}
    (hrefs : ∀ ref ∈ signatureReferences function.parameters function.semantics, ref.Writable)
    {depth : Nat} (hdepth : depth + 2 < maxDepth) {value : Value}
    (h : WrittenRecord (topLevelFunctionFields function) value) :
    readTopLevelFunction depth value = .ok function := by
  rw [signatureReferences, List.forall_mem_append, List.forall_mem_map] at hrefs
  have hfills : List.Forall₂ (·.Fills (topLevelFunctionDraft function) (depth + 1))
      (topLevelFunctionFields function) topLevelFunctionLayout.fields := by
    refine .cons (fills_put (fun _ => WrittenText.readText) ?_ ?_) <|
      .cons (fills_put (fun _ => WrittenText.readText) ?_ ?_) <|
      .cons (fills_put (fun _ => readParameters_written hrefs.1 hdepth) ?_ ?_) <|
      .cons (fills_put (fun _ => readSemantics_written hrefs.2 hdepth) ?_ ?_) .nil
    all_goals
      intro read
      simp [topLevelFunctionDraft]
  obtain ⟨read, hread, hgiven⟩ := readRecord_written h hfills (by decide) (by omega) .text
  simp only [topLevelFunctionFields, WrittenField.required, WrittenField.defaulted,
    List.forall_mem_cons] at hgiven
  obtain ⟨hpackage, hname, hparameters, hsemantics, -⟩ := hgiven
  refine except_bind_ok.mpr ⟨_, hread, ?_⟩
  simp only [topLevelFunctionDraft, getD_given hpackage, required_given hname,
    getD_given hparameters, required_given hsemantics]
  rfl

def classDraft (decl : ClassDecl) (supertypes : List QualifiedName) (read : String → Bool) :
    ClassDraft where
  name := given read "name" decl.name
  supertypes := given read "supertypes" supertypes
  properties := given read "properties" decl.properties
  functions := given read "member_functions" decl.functions

theorem readClass_written {decl : ClassDecl} (hname : decl.name.DotFree)
    (hsupertypes : ∀ name ∈ decl.supertypes.toList, name.DotFree)
    (hrefs : ∀ ref ∈ decl.references, ref.Writable) {depth : Nat} (hdepth : depth + 4 < maxDepth)
    {value : Value} (h : WrittenClass decl value) : readClass depth value = .ok decl := by
  obtain ⟨supertypes, hsame, h⟩ := h
  rw [ClassDecl.references, List.forall_mem_append, List.forall_mem_map,
    List.forall_mem_flatMap] at hrefs
  have hfills : List.Forall₂ (·.Fills (classDraft decl supertypes) (depth + 1))
      (classFields decl supertypes) classLayout.fields := by
    refine .cons (fills_put (fun _ => readName_written hname) ?_ ?_) <|
      .cons (fills_put (fun _ h => WrittenList.readList h ?supertypes ?supertype) ?_ ?_) <|
      .cons (fills_put (fun _ h => WrittenList.readList h ?properties ?property) ?_ ?_) <|
      .cons (fills_put (fun _ h => WrittenList.readList h ?functions ?function) ?_ ?_) .nil
    case supertype =>
      exact fun name hmem _ => readName_written (hsupertypes name ((hsame name).mp hmem))
    case property =>
      exact fun property hmem _ => readProperty_written (hrefs.1 property hmem) (by omega)
    case function =>
      exact fun function hmem _ => readMemberFunction_written (hrefs.2 function hmem) (by omega)
    case supertypes | properties | functions => omega
    all_goals
      intro read
      simp [classDraft]
  obtain ⟨read, hread, hgiven⟩ := readRecord_written h hfills (by decide) (by omega) .text
  simp only [classFields, WrittenField.required, WrittenField.defaulted,
    List.forall_mem_cons] at hgiven
  obtain ⟨hname, hsupertypes, hproperties, hfunctions, -⟩ := hgiven
  have hset : NameSet.ofList supertypes = decl.supertypes :=
    NameSet.eq_of_mem_iff fun name => NameSet.mem_ofList.trans (hsame name)
  refine except_bind_ok.mpr ⟨_, hread, ?_⟩
  simp only [classDraft, required_given hname, getD_given hsupertypes, getD_given hproperties,
    getD_given hfunctions, hset]
  cases decl
  rfl

end Schema.Reader

/-! ## The whole text -/

namespace Declarations

def names (decls : Declarations) : List QualifiedName :=
  decls.topLevel :: decls.classes.flatMap fun decl => decl.name :: decl.supertypes.toList

def references (decls : Declarations) : List TypeRef :=
  decls.classes.flatMap (·.references) ++
    decls.functions.flatMap (fun function =>
      signatureReferences function.parameters function.semantics) ++
    decls.externals.map (·.type)

/-- All names and references can be told from their texts. -/
structure Writable (decls : Declarations) : Prop where
  names : ∀ name ∈ decls.names, name.DotFree
  references : ∀ ref ∈ decls.references, ref.Writable

/-- A text holds declarations, and nothing else but unknown keys. -/
def Written (decls : Declarations) (text : String) : Prop :=
  ∃ value, Json.Spells text value ∧
    Schema.Reader.WrittenRecord (Schema.Reader.declarationsFields decls) value

end Declarations

namespace Schema

namespace Reader

open Json

def declarationsDraft (decls : Declarations) (read : String → Bool) : DeclarationsDraft where
  topLevel := given read "top_level_receiver_type" decls.topLevel
  classes := given read "data_classes" decls.classes
  functions := given read "top_level_functions" decls.functions
  externals := given read "external_objects" decls.externals

theorem readDeclarations_written {decls : Declarations} (hdecls : decls.Writable) {value : Value}
    (h : WrittenRecord (declarationsFields decls) value) : readDeclarations value = .ok decls := by
  obtain ⟨hnames, hrefs⟩ := hdecls
  simp only [Declarations.names, List.forall_mem_cons, List.forall_mem_flatMap] at hnames
  simp only [Declarations.references, List.forall_mem_append, List.forall_mem_flatMap,
    List.forall_mem_map] at hrefs
  obtain ⟨⟨hclasses, hfunctions⟩, hexternals⟩ := hrefs
  have hfills : List.Forall₂ (·.Fills (declarationsDraft decls) 1)
      (declarationsFields decls) declarationsLayout.fields := by
    refine .cons (fills_put (fun _ => readName_written hnames.1) ?_ ?_) <|
      .cons (fills_put (fun _ h => WrittenList.readList h (by decide) ?decl) ?_ ?_) <|
      .cons (fills_put (fun _ h => WrittenList.readList h (by decide) ?function) ?_ ?_) <|
      .cons (fills_put (fun _ h => WrittenList.readList h (by decide) ?external) ?_ ?_) .nil
    case decl =>
      intro decl hmem _
      obtain ⟨hname, hsupertypes⟩ := hnames.2 decl hmem
      exact readClass_written hname hsupertypes (hclasses decl hmem) (by decide)
    case function =>
      intro function hmem _
      exact readTopLevelFunction_written (hfunctions function hmem) (by decide)
    case external =>
      intro external hmem _
      exact readExternal_written (hexternals external hmem) (by decide)
    all_goals
      intro read
      simp [declarationsDraft]
  obtain ⟨read, hread, hgiven⟩ := readRecord_written h hfills (by decide) (by decide) .text
  simp only [declarationsFields, WrittenField.required, WrittenField.defaulted,
    List.forall_mem_cons] at hgiven
  obtain ⟨htopLevel, hclasses, hfunctions, hexternals, -⟩ := hgiven
  refine except_bind_ok.mpr ⟨_, hread, ?_⟩
  simp only [declarationsDraft, required_given htopLevel, getD_given hclasses,
    getD_given hfunctions, getD_given hexternals]
  rfl

end Reader

theorem declarationsOfText_written {decls : Declarations} (hdecls : decls.Writable) {text : String}
    (h : decls.Written text) : declarationsOfText text = .ok decls := by
  obtain ⟨value, hspells, hvalue⟩ := h
  rw [declarationsOfText, Json.parse_of_spells hspells]
  exact except_bind_ok.mpr ⟨decls, Reader.readDeclarations_written hdecls hvalue, rfl⟩

end Schema

end ConfigScope
