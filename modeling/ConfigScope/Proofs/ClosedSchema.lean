import ConfigScope.Proofs.Run
import ConfigScope.Schema.Reader

/-!
# Closed schemas

A schema is closed if every type reference that resolution can follow leads to a
type that the schema knows: a built-in one, or one of its own classes. Checking
declarations is not enough for that, because it does not look into types that are
held inline. A text cannot hold such a type, since a reference is only ever read
from a name (`plain_readType`), and every record of a text is plain in this sense.
So every schema that is read from a text is closed (`closed_of_text`).
-/

namespace ConfigScope

/-! ## Plain declarations -/

/-- No class is held inline. -/
def TypeRef.Plain : TypeRef → Prop
  | .inline type => type.class? = none
  | .named _ => True

def Semantics.Plain : Semantics → Prop
  | .configure accessor => accessor.object.Plain
  | semantics => semantics.result.Plain

structure PlainSignature (parameters : List Parameter) (semantics : Semantics) : Prop where
  parameters : ∀ parameter ∈ parameters, parameter.type.Plain
  semantics : semantics.Plain

structure ClassDecl.Plain (decl : ClassDecl) : Prop where
  properties : ∀ property ∈ decl.properties, property.type.Plain
  functions : ∀ function ∈ decl.functions, PlainSignature function.parameters function.semantics

structure Declarations.Plain (decls : Declarations) : Prop where
  classes : ∀ decl ∈ decls.classes, decl.Plain
  functions : ∀ function ∈ decls.functions, PlainSignature function.parameters function.semantics
  externals : ∀ external ∈ decls.externals, external.type.Plain

theorem Semantics.Plain.result {semantics : Semantics} (h : semantics.Plain) :
    semantics.result.Plain := by
  cases semantics with
  | configure accessor => rfl
  | _ => exact h

theorem Ty.class?_of_builtin {name : String} {type : Ty} (h : Ty.builtin? name = some type) :
    type.class? = none := by
  unfold Ty.builtin? at h
  split at h <;> cases h <;> rfl

theorem TypeRef.plain_parse (text : String) : (TypeRef.parse text).Plain := by
  unfold TypeRef.parse
  cases h : Ty.builtin? text with
  | some type => exact Ty.class?_of_builtin h
  | none => trivial

theorem forall_mem_some {α : Type} {P : α → Prop} {a : α} (h : P a) : ∀ b ∈ some a, P b := by
  rintro _ ⟨⟩
  exact h

namespace Schema.Reader

open Json

variable {α δ : Type}

/-! ## Records and lists

A property of a draft that every field keeps when it is filled is a property of the record. -/

/-- Filling the field keeps a property of the draft. -/
def Field.Keeps (field : Field δ) (P : δ → Prop) : Prop :=
  ∀ ⦃depth value draft filled⦄, P draft → field.fill depth value draft = .ok filled → P filled

def Layout.Keeps (layout : Layout δ) (P : δ → Prop) : Prop :=
  ∀ field ∈ layout.fields, field.Keeps P

theorem keeps_put {P : δ → Prop} {key : String} {optional : Bool} {filled : δ → Bool}
    {read : Nat → Value → Read α} {put : δ → α → δ}
    (h : ∀ depth value a draft, read depth value = .ok a → P draft → P (put draft a)) :
    Field.Keeps ⟨key, optional, filled, fun depth value draft =>
      return put draft (← read depth value)⟩ P := by
  intro depth value draft filled hdraft hfill
  obtain ⟨a, hread, hfilled⟩ := except_bind_ok.mp hfill
  rw [except_pure_ok.mp hfilled]
  exact h depth value a draft hread hdraft

section
variable {P : δ → Prop} {fields : List (Field δ)} {layout : Layout δ} {source : Source}
  {depth : Nat}

theorem readMembers_keeps (hfields : ∀ field ∈ fields, field.Keeps P) :
    (members : Members) → {draft filled : δ} → P draft →
    readMembers fields depth draft members = .ok filled → P filled
  | .closed, _, _, hdraft, h => Except.ok.inj h ▸ hdraft
  | .broken _, _, _, _, h => by cases h
  | .member key value rest, draft, filled, hdraft, h => by
    obtain ⟨key, -, h⟩ := except_bind_ok.mp h
    cases hfind : fields.find? (·.key == key) with
    | none =>
      simp only [hfind, except_bind_ok] at h
      obtain ⟨_, -, h⟩ := h
      exact readMembers_keeps hfields rest hdraft h
    | some field =>
      simp only [hfind] at h
      split at h
      · cases h
      -- the draft that goes on to the other members is the filled one
      · obtain ⟨next, hfill, h⟩ := except_bind_ok.mp h
        have hnext := hfields field (List.mem_of_find?_eq_some hfind) hdraft hfill
        exact readMembers_keeps hfields rest hnext h

theorem readPositions_keeps {index : Nat} : (fields : List (Field δ)) →
    (∀ field ∈ fields, field.Keeps P) → (items : Items) → {draft filled : δ} → P draft →
    readPositions layout source depth draft index fields items = .ok filled → P filled
  | [], _, _, _, _, hdraft, h => by
    obtain ⟨_, -, h⟩ := except_bind_ok.mp h
    exact except_pure_ok.mp h ▸ hdraft
  | field :: fields, hfields, .closed, _, _, hdraft, h => by
    unfold readPositions at h
    split at h
    · exact readPositions_keeps fields (List.forall_mem_cons.mp hfields).2 .closed hdraft h
    · cases h
  | field :: fields, hfields, .item value rest, _, _, hdraft, h => by
    obtain ⟨hfield, hfields⟩ := List.forall_mem_cons.mp hfields
    obtain ⟨next, hfill, h⟩ := except_bind_ok.mp h
    exact readPositions_keeps fields hfields rest (hfield hdraft hfill) h
  | _ :: _, _, .broken _, _, _, _, h => by cases h

theorem readRecord_keeps (hfields : layout.Keeps P) {empty filled : δ} {value : Value}
    (hempty : P empty) (h : readRecord layout source empty depth value = .ok filled) :
    P filled := by
  cases value with
  | object members =>
    obtain ⟨_, -, h⟩ := except_bind_ok.mp h
    exact readMembers_keeps hfields members hempty h
  | list items =>
    obtain ⟨_, -, h⟩ := except_bind_ok.mp h
    exact readPositions_keeps layout.fields hfields items hempty h
  | _ =>
    obtain ⟨_, -, h⟩ := except_bind_ok.mp h
    cases h

end

section
variable {P : α → Prop}

theorem readItems_forall {read : Value → Read α} (hread : ∀ value a, read value = .ok a → P a) :
    (items : Items) → {as : List α} → readItems read items = .ok as → ∀ a ∈ as, P a
  | .closed, _, h => by
    cases h
    exact List.forall_mem_nil P
  | .item value rest, _, h => by
    obtain ⟨a, ha, h⟩ := except_bind_ok.mp h
    obtain ⟨as, has, h⟩ := except_bind_ok.mp h
    rw [except_pure_ok.mp h]
    exact List.forall_mem_cons.mpr ⟨hread value a ha, readItems_forall hread rest has⟩
  | .broken _, _, h => by cases h

theorem readList_forall {read : Nat → Value → Read α}
    (hread : ∀ depth value a, read depth value = .ok a → P a) {depth : Nat} {value : Value}
    {as : List α} (h : readList read depth value = .ok as) : ∀ a ∈ as, P a := by
  cases value with
  | list items =>
    obtain ⟨_, -, h⟩ := except_bind_ok.mp h
    exact readItems_forall (hread (depth + 1)) items h
  | _ =>
    obtain ⟨_, -, h⟩ := except_bind_ok.mp h
    cases h

end

/-! ## Every record of a text is plain

Of each kind of record, first what filling a draft of it keeps, then what it is in the end. -/

theorem forall_mem_getD {P : α → Prop} {as : Option (List α)} (h : ∀ bs ∈ as, ∀ b ∈ bs, P b) :
    ∀ a ∈ as.getD [], P a := by
  cases as with
  | none => exact List.forall_mem_nil P
  | some bs => exact h bs rfl

theorem required_ok {key : String} {field : Option α} {a : α} :
    required key field = .ok a ↔ field = some a := by
  cases field <;> simp [required]

theorem plain_readType {value : Value} {type : TypeRef} (h : readType value = .ok type) :
    type.Plain := by
  obtain ⟨text, -, h⟩ := except_bind_ok.mp h
  exact except_pure_ok.mp h ▸ TypeRef.plain_parse text

theorem propertyLayout_keeps :
    propertyLayout.Keeps fun draft => ∀ type ∈ draft.type, type.Plain := by
  simp only [Layout.Keeps, propertyLayout, List.forall_mem_cons]
  refine ⟨?name, ?type, ?readOnly, ?hasDefault, ?currentOnly, List.forall_mem_nil _⟩
  case type => exact keeps_put fun _ _ _ _ hread _ => forall_mem_some (plain_readType hread)
  all_goals exact keeps_put fun _ _ _ _ _ hdraft => hdraft

theorem plain_readProperty {depth : Nat} {value : Value} {property : Property}
    (h : readProperty depth value = .ok property) : property.type.Plain := by
  obtain ⟨draft, hdraft, h⟩ := except_bind_ok.mp h
  obtain ⟨name, -, h⟩ := except_bind_ok.mp h
  obtain ⟨type, htype, h⟩ := except_bind_ok.mp h
  rw [except_pure_ok.mp h]
  exact readRecord_keeps propertyLayout_keeps (by simp) hdraft type (required_ok.mp htype)

theorem parameterLayout_keeps :
    parameterLayout.Keeps fun draft => ∀ type ∈ draft.type, type.Plain := by
  simp only [Layout.Keeps, parameterLayout, List.forall_mem_cons]
  refine ⟨?name, ?type, List.forall_mem_nil _⟩
  case type => exact keeps_put fun _ _ _ _ hread _ => forall_mem_some (plain_readType hread)
  case name => exact keeps_put fun _ _ _ _ _ hdraft => hdraft

theorem plain_readParameter {depth : Nat} {value : Value} {parameter : Parameter}
    (h : readParameter depth value = .ok parameter) : parameter.type.Plain := by
  obtain ⟨draft, hdraft, h⟩ := except_bind_ok.mp h
  obtain ⟨type, htype, h⟩ := except_bind_ok.mp h
  rw [except_pure_ok.mp h]
  exact readRecord_keeps parameterLayout_keeps (by simp) hdraft type (required_ok.mp htype)

theorem externalLayout_keeps :
    externalLayout.Keeps fun draft => ∀ type ∈ draft.type, type.Plain := by
  simp only [Layout.Keeps, externalLayout, List.forall_mem_cons]
  refine ⟨?name, ?type, List.forall_mem_nil _⟩
  case type => exact keeps_put fun _ _ _ _ hread _ => forall_mem_some (plain_readType hread)
  case name => exact keeps_put fun _ _ _ _ _ hdraft => hdraft

theorem plain_readExternal {depth : Nat} {value : Value} {external : External}
    (h : readExternal depth value = .ok external) : external.type.Plain := by
  obtain ⟨draft, hdraft, h⟩ := except_bind_ok.mp h
  obtain ⟨name, -, h⟩ := except_bind_ok.mp h
  obtain ⟨type, htype, h⟩ := except_bind_ok.mp h
  rw [except_pure_ok.mp h]
  exact readRecord_keeps externalLayout_keeps (by simp) hdraft type (required_ok.mp htype)

theorem accessorLayout_keeps :
    accessorLayout.Keeps fun draft => ∀ type ∈ draft.object, type.Plain := by
  simp only [Layout.Keeps, accessorLayout, List.forall_mem_cons]
  refine ⟨?property, ?object, List.forall_mem_nil _⟩
  case object => exact keeps_put fun _ _ _ _ hread _ => forall_mem_some (plain_readType hread)
  case property => exact keeps_put fun _ _ _ _ _ hdraft => hdraft

theorem plain_readAccessor {value : Value} {accessor : Accessor}
    (h : readAccessor value = .ok accessor) : accessor.object.Plain := by
  obtain ⟨draft, hdraft, h⟩ := except_bind_ok.mp h
  obtain ⟨property, -, h⟩ := except_bind_ok.mp h
  obtain ⟨type, htype, h⟩ := except_bind_ok.mp h
  rw [except_pure_ok.mp h]
  exact readRecord_keeps accessorLayout_keeps (by simp) hdraft type (required_ok.mp htype)

theorem readSingle_of_read {P : α → Prop} {label key : String} {read : Value → Read α}
    (hread : ∀ value a, read value = .ok a → P a) {value : Value} {a : α}
    (h : readSingle label key read value = .ok a) : P a := by
  obtain ⟨draft, hdraft, h⟩ := except_bind_ok.mp h
  have hfields : (singleLayout label key read).Keeps fun draft => ∀ a ∈ draft, P a := by
    simp only [Layout.Keeps, singleLayout, List.forall_mem_cons]
    exact ⟨keeps_put fun _ _ _ _ h _ => forall_mem_some (hread _ _ h), List.forall_mem_nil _⟩
  exact readRecord_keeps hfields (by simp) hdraft a (required_ok.mp h)

theorem addLayout_keeps :
    addLayout.Keeps fun draft => ∀ type ∈ draft.object, type.Plain := by
  simp only [Layout.Keeps, addLayout, List.forall_mem_cons]
  refine ⟨?object, ?acceptsBlock, List.forall_mem_nil _⟩
  case object => exact keeps_put fun _ _ _ _ hread _ => forall_mem_some (plain_readType hread)
  case acceptsBlock => exact keeps_put fun _ _ _ _ _ hdraft => hdraft

theorem plain_readKindFields {kind : Kind} {fields : Value} {semantics : Semantics}
    (h : readKindFields kind fields = .ok semantics) : semantics.Plain := by
  cases kind with
  | builder =>
    obtain ⟨result, hresult, h⟩ := except_bind_ok.mp h
    rw [except_pure_ok.mp h]
    exact readSingle_of_read (fun _ _ => plain_readType) hresult
  | configure =>
    obtain ⟨accessor, haccessor, h⟩ := except_bind_ok.mp h
    rw [except_pure_ok.mp h]
    exact readSingle_of_read (P := fun accessor => accessor.object.Plain)
      (fun _ _ => plain_readAccessor) haccessor
  | add =>
    obtain ⟨draft, hdraft, h⟩ := except_bind_ok.mp h
    obtain ⟨object, hobject, h⟩ := except_bind_ok.mp h
    rw [except_pure_ok.mp h]
    exact readRecord_keeps addLayout_keeps (by simp) hdraft object (required_ok.mp hobject)
  | pure =>
    obtain ⟨result, hresult, h⟩ := except_bind_ok.mp h
    rw [except_pure_ok.mp h]
    exact readSingle_of_read (fun _ _ => plain_readType) hresult

theorem plain_readSemantics {depth : Nat} {value : Value} {semantics : Semantics}
    (h : readSemantics depth value = .ok semantics) : semantics.Plain := by
  obtain ⟨⟨kind, fields⟩, -, h⟩ := except_bind_ok.mp h
  exact plain_readKindFields h

theorem plain_readParameters {depth : Nat} {value : Value} {parameters : List Parameter}
    (h : readList readParameter depth value = .ok parameters) :
    ∀ parameter ∈ parameters, parameter.type.Plain :=
  readList_forall (fun _ _ _ => plain_readParameter) h

theorem functionLayout_keeps :
    functionLayout.Keeps fun draft =>
      (∀ parameters ∈ draft.parameters, ∀ parameter ∈ parameters, parameter.type.Plain) ∧
        ∀ semantics ∈ draft.semantics, semantics.Plain := by
  simp only [Layout.Keeps, functionLayout, List.forall_mem_cons]
  refine ⟨?name, ?parameters, ?semantics, ?currentOnly, List.forall_mem_nil _⟩
  case parameters =>
    exact keeps_put fun _ _ _ _ hread hdraft =>
      ⟨forall_mem_some (plain_readParameters hread), hdraft.2⟩
  case semantics =>
    exact keeps_put fun _ _ _ _ hread hdraft =>
      ⟨hdraft.1, forall_mem_some (plain_readSemantics hread)⟩
  all_goals exact keeps_put fun _ _ _ _ _ hdraft => hdraft

theorem plain_readMemberFunction {depth : Nat} {value : Value} {function : MemberFunction}
    (h : readMemberFunction depth value = .ok function) :
    PlainSignature function.parameters function.semantics := by
  obtain ⟨draft, hdraft, h⟩ := except_bind_ok.mp h
  obtain ⟨name, -, h⟩ := except_bind_ok.mp h
  obtain ⟨semantics, hsemantics, h⟩ := except_bind_ok.mp h
  rw [except_pure_ok.mp h]
  have hplain := readRecord_keeps functionLayout_keeps (by simp) hdraft
  exact ⟨forall_mem_getD hplain.1, hplain.2 semantics (required_ok.mp hsemantics)⟩

theorem topLevelFunctionLayout_keeps :
    topLevelFunctionLayout.Keeps fun draft =>
      (∀ parameters ∈ draft.parameters, ∀ parameter ∈ parameters, parameter.type.Plain) ∧
        ∀ semantics ∈ draft.semantics, semantics.Plain := by
  simp only [Layout.Keeps, topLevelFunctionLayout, List.forall_mem_cons]
  refine ⟨?package, ?name, ?parameters, ?semantics, List.forall_mem_nil _⟩
  case parameters =>
    exact keeps_put fun _ _ _ _ hread hdraft =>
      ⟨forall_mem_some (plain_readParameters hread), hdraft.2⟩
  case semantics =>
    exact keeps_put fun _ _ _ _ hread hdraft =>
      ⟨hdraft.1, forall_mem_some (plain_readSemantics hread)⟩
  all_goals exact keeps_put fun _ _ _ _ _ hdraft => hdraft

theorem plain_readTopLevelFunction {depth : Nat} {value : Value} {function : TopLevelFunction}
    (h : readTopLevelFunction depth value = .ok function) :
    PlainSignature function.parameters function.semantics := by
  obtain ⟨draft, hdraft, h⟩ := except_bind_ok.mp h
  obtain ⟨name, -, h⟩ := except_bind_ok.mp h
  obtain ⟨semantics, hsemantics, h⟩ := except_bind_ok.mp h
  rw [except_pure_ok.mp h]
  have hplain := readRecord_keeps topLevelFunctionLayout_keeps (by simp) hdraft
  exact ⟨forall_mem_getD hplain.1, hplain.2 semantics (required_ok.mp hsemantics)⟩

theorem classLayout_keeps :
    classLayout.Keeps fun draft =>
      (∀ properties ∈ draft.properties, ∀ property ∈ properties, property.type.Plain) ∧
        ∀ functions ∈ draft.functions, ∀ function ∈ functions,
          PlainSignature function.parameters function.semantics := by
  simp only [Layout.Keeps, classLayout, List.forall_mem_cons]
  refine ⟨?name, ?supertypes, ?properties, ?functions, List.forall_mem_nil _⟩
  case properties =>
    exact keeps_put fun _ _ _ _ hread hdraft =>
      ⟨forall_mem_some (readList_forall (fun _ _ _ => plain_readProperty) hread), hdraft.2⟩
  case functions =>
    exact keeps_put fun _ _ _ _ hread hdraft =>
      ⟨hdraft.1, forall_mem_some (readList_forall (fun _ _ _ => plain_readMemberFunction) hread)⟩
  all_goals exact keeps_put fun _ _ _ _ _ hdraft => hdraft

theorem plain_readClass {depth : Nat} {value : Value} {decl : ClassDecl}
    (h : readClass depth value = .ok decl) : decl.Plain := by
  obtain ⟨draft, hdraft, h⟩ := except_bind_ok.mp h
  obtain ⟨name, -, h⟩ := except_bind_ok.mp h
  rw [except_pure_ok.mp h]
  have hplain := readRecord_keeps classLayout_keeps (by simp) hdraft
  exact ⟨forall_mem_getD hplain.1, forall_mem_getD hplain.2⟩

theorem declarationsLayout_keeps :
    declarationsLayout.Keeps fun draft =>
      (∀ classes ∈ draft.classes, ∀ decl ∈ classes, decl.Plain) ∧
      (∀ functions ∈ draft.functions, ∀ function ∈ functions,
        PlainSignature function.parameters function.semantics) ∧
      ∀ externals ∈ draft.externals, ∀ external ∈ externals, external.type.Plain := by
  simp only [Layout.Keeps, declarationsLayout, List.forall_mem_cons]
  refine ⟨?topLevel, ?classes, ?functions, ?externals, List.forall_mem_nil _⟩
  case topLevel => exact keeps_put fun _ _ _ _ _ hdraft => hdraft
  case classes =>
    exact keeps_put fun _ _ _ _ hread hdraft =>
      ⟨forall_mem_some (readList_forall (fun _ _ _ => plain_readClass) hread), hdraft.2⟩
  case functions =>
    exact keeps_put fun _ _ _ _ hread hdraft =>
      ⟨hdraft.1, forall_mem_some (readList_forall (fun _ _ _ => plain_readTopLevelFunction) hread),
        hdraft.2.2⟩
  case externals =>
    exact keeps_put fun _ _ _ _ hread hdraft =>
      ⟨hdraft.1, hdraft.2.1,
        forall_mem_some (readList_forall (fun _ _ _ => plain_readExternal) hread)⟩

theorem plain_readDeclarations {value : Value} {decls : Declarations}
    (h : readDeclarations value = .ok decls) : decls.Plain := by
  obtain ⟨draft, hdraft, h⟩ := except_bind_ok.mp h
  obtain ⟨topLevel, -, h⟩ := except_bind_ok.mp h
  rw [except_pure_ok.mp h]
  have hplain := readRecord_keeps declarationsLayout_keeps (by simp) hdraft
  exact ⟨forall_mem_getD hplain.1, forall_mem_getD hplain.2.1, forall_mem_getD hplain.2.2⟩

end Schema.Reader

namespace Schema

/-! ## Checked declarations -/

theorem mem_insertClass {decl inserted : ClassDecl} {sorted : List ClassDecl}
    (h : decl ∈ insertClass inserted sorted) : decl = inserted ∨ decl ∈ sorted := by
  induction sorted with
  | nil => exact .inl (List.mem_singleton.mp h)
  | cons head rest ih =>
    unfold insertClass at h
    split at h
    · exact List.mem_cons.mp h
    · rcases List.mem_cons.mp h with rfl | h
      · exact .inr List.mem_cons_self
      · exact (ih h).imp_right (List.mem_cons_of_mem head)

theorem mem_collectClasses {decl : ClassDecl} {sorted decls classes : List ClassDecl}
    (h : collectClasses sorted decls = .ok classes) (hdecl : decl ∈ classes) :
    decl ∈ sorted ∨ decl ∈ decls := by
  induction decls generalizing sorted with
  | nil =>
    cases h
    exact .inl hdecl
  | cons head rest ih =>
    unfold collectClasses at h
    split at h
    · cases h
    · rcases ih h with hsorted | hrest
      · rcases mem_insertClass hsorted with rfl | hsorted
        · exact .inr List.mem_cons_self
        · exact .inl hsorted
      · exact .inr (List.mem_cons_of_mem head hrest)

/-- In the order of their names, which are all different. -/
def InNameOrder (classes : List ClassDecl) : Prop :=
  classes.Pairwise fun a b => a.name.before b.name = true

theorem inNameOrder_insertClass {decl : ClassDecl} {sorted : List ClassDecl}
    (h : InNameOrder sorted) (hnew : ∀ other ∈ sorted, other.name ≠ decl.name) :
    InNameOrder (insertClass decl sorted) := by
  induction sorted with
  | nil => exact List.pairwise_singleton _ decl
  | cons head rest ih =>
    obtain ⟨hhead, hrest⟩ := List.pairwise_cons.mp h
    obtain ⟨hne, hnew⟩ := List.forall_mem_cons.mp hnew
    unfold insertClass
    split
    · next hbefore =>
      refine List.pairwise_cons.mpr ⟨?_, h⟩
      intro other hother
      rcases List.mem_cons.mp hother with rfl | hother
      · exact hbefore
      · exact QualifiedName.before_trans hbefore (hhead other hother)
    · next hbefore =>
      refine List.pairwise_cons.mpr ⟨?_, ih hrest hnew⟩
      intro other hother
      rcases mem_insertClass hother with rfl | hother
      · -- the names differ and the new one does not come first, so it comes second
        rcases head.name.eq_or_before_or_before other.name with heq | hbefore' | hbefore'
        · exact absurd heq hne
        · exact hbefore'
        · exact absurd hbefore' hbefore
      · exact hhead other hother

theorem inNameOrder_collectClasses {sorted decls classes : List ClassDecl}
    (h : collectClasses sorted decls = .ok classes) (hsorted : InNameOrder sorted) :
    InNameOrder classes := by
  induction decls generalizing sorted with
  | nil =>
    cases h
    exact hsorted
  | cons head rest ih =>
    unfold collectClasses at h
    split at h
    · cases h
    · next htaken =>
      refine ih h (inNameOrder_insertClass hsorted ?_)
      simpa [findClass?] using htaken

theorem InNameOrder.eq_of_name_eq {classes : List ClassDecl} (h : InNameOrder classes)
    {a b : ClassDecl} (ha : a ∈ classes) (hb : b ∈ classes) (heq : a.name = b.name) : a = b := by
  have hirrefl {a b : ClassDecl} (hbefore : a.name.before b.name = true) : a.name ≠ b.name := by
    intro heq
    rw [heq, QualifiedName.before_irrefl] at hbefore
    cases hbefore
  induction h with
  | nil => cases ha
  | cons hhead _ ih =>
    rcases List.mem_cons.mp ha with rfl | harest
    · rcases List.mem_cons.mp hb with rfl | hbrest
      · rfl
      · exact absurd heq (hirrefl (hhead b hbrest))
    · rcases List.mem_cons.mp hb with rfl | hbrest
      · exact absurd heq.symm (hirrefl (hhead a harest))
      · exact ih harest hbrest

theorem mem_collectExternals {external : External} {externals : List External}
    (h : external ∈ collectExternals externals) : external ∈ externals := by
  induction externals with
  | nil => exact h
  | cons head rest ih =>
    unfold collectExternals at h
    split at h
    · exact List.mem_cons_of_mem head (ih h)
    · rcases List.mem_cons.mp h with rfl | h
      · exact List.mem_cons_self
      · exact List.mem_cons_of_mem head (ih h)

theorem ofDeclarations_ok {decls : Declarations} {schema : Schema} :
    ofDeclarations decls = .ok schema ↔
      collectClasses [] decls.classes = .ok schema.classes ∧
      findClass? schema.classes decls.topLevel = some schema.topLevel ∧
      schema.functions = decls.functions ∧ schema.externals = collectExternals decls.externals ∧
      ∀ mention ∈ schema.mentions, schema.undeclared? mention = none := by
  unfold ofDeclarations
  constructor
  · intro h
    obtain ⟨classes, hclasses, h⟩ := except_bind_ok.mp h
    cases htop : findClass? classes decls.topLevel with
    | none => simp [htop] at h
    | some topLevel =>
      simp only [htop] at h
      split at h
      · cases h
      · next hmentions =>
        cases h
        exact ⟨hclasses, htop, rfl, rfl, List.findSome?_eq_none_iff.mp hmentions⟩
  · obtain ⟨topLevel, classes, functions, externals⟩ := schema
    rintro ⟨hclasses, htop, rfl, rfl, hmentions⟩
    refine except_bind_ok.mpr ⟨classes, hclasses, ?_⟩
    simp only [htop, List.findSome?_eq_none_iff.mpr hmentions]

/-- Where the checked references of a schema stand. What a member function that configures an object
refers to is the type of that object. -/
inductive Refers (schema : Schema) : TypeRef → Prop
  | property {decl property} : decl ∈ schema.classes → property ∈ decl.properties →
      Refers schema property.type
  | parameter {decl function parameter} : decl ∈ schema.classes → function ∈ decl.functions →
      parameter ∈ function.parameters → Refers schema parameter.type
  | accessor {decl function accessor} : decl ∈ schema.classes → function ∈ decl.functions →
      function.semantics = .configure accessor → Refers schema accessor.object
  | result {decl function} : decl ∈ schema.classes → function ∈ decl.functions →
      (∀ accessor, function.semantics ≠ .configure accessor) →
      Refers schema function.semantics.result
  | topLevelParameter {function parameter} : function ∈ schema.functions →
      parameter ∈ function.parameters → Refers schema parameter.type
  | topLevelResult {function} : function ∈ schema.functions →
      Refers schema function.semantics.result
  | external {external} : external ∈ schema.externals → Refers schema external.type

variable {schema : Schema}

theorem mem_ofSemantics {holder : String} {semantics : Semantics} {mention : Mention} :
    mention ∈ Mention.ofSemantics holder semantics ↔ mention.holder = holder ∧
      ((∃ accessor, semantics = .configure accessor ∧ mention.type = accessor.object) ∨
        (∀ accessor, semantics ≠ .configure accessor) ∧ mention.type = semantics.result) := by
  obtain ⟨_, type⟩ := mention
  cases semantics <;> simp [Mention.ofSemantics]

theorem refers_iff {ref : TypeRef} :
    schema.Refers ref ↔ ∃ mention ∈ schema.mentions, mention.type = ref := by
  simp only [mentions, Mention.ofClass, Mention.ofMemberFunction, Mention.ofTopLevelFunction,
    Mention.ofParameters, List.mem_append, List.mem_flatMap, List.mem_map, List.mem_singleton]
  -- one case for each place that `mentions` looks at
  constructor
  · intro h
    cases h with
    | @property decl property hdecl hproperty =>
      exact ⟨_, .inl (.inl ⟨decl, hdecl, .inl ⟨property, hproperty, rfl⟩⟩), rfl⟩
    | @parameter decl function parameter hdecl hfunction hparameter =>
      exact ⟨_, .inl (.inl ⟨decl, hdecl, .inr ⟨function, hfunction,
        .inl ⟨parameter, hparameter, rfl⟩⟩⟩), rfl⟩
    | @accessor decl function accessor hdecl hfunction hsemantics =>
      exact ⟨⟨_, accessor.object⟩, .inl (.inl ⟨decl, hdecl, .inr ⟨function, hfunction,
        .inr (mem_ofSemantics.mpr ⟨rfl, .inl ⟨accessor, hsemantics, rfl⟩⟩)⟩⟩), rfl⟩
    | @result decl function hdecl hfunction hsemantics =>
      exact ⟨⟨_, function.semantics.result⟩, .inl (.inl ⟨decl, hdecl, .inr ⟨function, hfunction,
        .inr (mem_ofSemantics.mpr ⟨rfl, .inr ⟨hsemantics, rfl⟩⟩)⟩⟩), rfl⟩
    | @topLevelParameter function parameter hfunction hparameter =>
      exact ⟨_, .inl (.inr ⟨function, hfunction, .inl ⟨parameter, hparameter, rfl⟩⟩), rfl⟩
    | @topLevelResult function hfunction =>
      exact ⟨_, .inl (.inr ⟨function, hfunction, .inr rfl⟩), rfl⟩
    | @external external hexternal => exact ⟨_, .inr ⟨external, hexternal, rfl⟩, rfl⟩
  · rintro ⟨mention, (⟨decl, hdecl, ⟨property, hproperty, rfl⟩ | ⟨function, hfunction, h⟩⟩ |
      ⟨function, hfunction, ⟨parameter, hparameter, rfl⟩ | rfl⟩) | ⟨external, hexternal, rfl⟩, rfl⟩
    · exact .property hdecl hproperty
    · rcases h with ⟨parameter, hparameter, rfl⟩ | h
      · exact .parameter hdecl hfunction hparameter
      · obtain ⟨-, ⟨accessor, hsemantics, htype⟩ | ⟨hsemantics, htype⟩⟩ := mem_ofSemantics.mp h
        · exact htype ▸ .accessor hdecl hfunction hsemantics
        · exact htype ▸ .result hdecl hfunction hsemantics
    · exact .topLevelParameter hfunction hparameter
    · exact .topLevelResult hfunction
    · exact .external hexternal

/-! ## Closed schemas -/

/-- A type that is a class is one of the schema's own. -/
def Knows (schema : Schema) (type : Ty) : Prop :=
  ∀ decl, type = .object decl → decl ∈ schema.classes

def Resolves (schema : Schema) (ref : TypeRef) : Prop :=
  ∃ type, schema.typeOf ref = .ok type ∧ schema.Knows type

structure Closed (schema : Schema) : Prop where
  topLevel : schema.topLevel ∈ schema.classes
  resolves : ∀ ref, schema.Refers ref → schema.Resolves ref

theorem knows_of_class?_eq_none {type : Ty} (h : type.class? = none) : schema.Knows type := by
  rintro decl rfl
  cases h

theorem knows_of_typeOf {ref : TypeRef} (hplain : ref.Plain) {type : Ty}
    (h : schema.typeOf ref = .ok type) : schema.Knows type := by
  cases ref with
  | inline held =>
    cases h
    exact knows_of_class?_eq_none hplain
  | named name =>
    cases hclass : schema.class? name with
    | none => simp [typeOf, hclass] at h
    | some decl =>
      simp only [typeOf, hclass, Except.ok.injEq] at h
      rintro _ rfl
      cases h
      exact List.mem_of_find?_eq_some hclass

theorem resolves_of_undeclared? {mention : Mention} (hplain : mention.type.Plain)
    (hdeclared : schema.undeclared? mention = none) : schema.Resolves mention.type := by
  obtain ⟨holder, type | name⟩ := mention
  · exact ⟨type, rfl, knows_of_class?_eq_none hplain⟩
  · cases hclass : schema.class? name with
    | none => simp [undeclared?, hclass] at hdeclared
    | some decl =>
      have htype : schema.typeOf (.named name) = .ok (.object decl) := by simp [typeOf, hclass]
      exact ⟨.object decl, htype, knows_of_typeOf hplain htype⟩

theorem plain_of_refers {decls : Declarations} (hplain : decls.Plain)
    (h : ofDeclarations decls = .ok schema) {ref : TypeRef} (href : schema.Refers ref) :
    ref.Plain := by
  obtain ⟨hclasses, -, hfunctions, hexternals, -⟩ := ofDeclarations_ok.mp h
  -- the classes are the declared ones, in another order
  have hclass {decl : ClassDecl} (hdecl : decl ∈ schema.classes) : decl.Plain := by
    rcases mem_collectClasses hclasses hdecl with hnone | hdecl
    · cases hnone
    · exact hplain.classes decl hdecl
  cases href with
  | property hdecl hproperty => exact (hclass hdecl).properties _ hproperty
  | parameter hdecl hfunction hparameter =>
    exact ((hclass hdecl).functions _ hfunction).parameters _ hparameter
  | accessor hdecl hfunction hsemantics =>
    have := ((hclass hdecl).functions _ hfunction).semantics
    rw [hsemantics] at this
    exact this
  | result hdecl hfunction => exact ((hclass hdecl).functions _ hfunction).semantics.result
  | topLevelParameter hfunction hparameter =>
    exact (hplain.functions _ (hfunctions ▸ hfunction)).parameters _ hparameter
  | topLevelResult hfunction =>
    exact (hplain.functions _ (hfunctions ▸ hfunction)).semantics.result
  | external hexternal => exact hplain.externals _ (mem_collectExternals (hexternals ▸ hexternal))

/-- What is only checked one level deep is enough if nothing goes deeper. -/
theorem closed_of_plain {decls : Declarations} (hplain : decls.Plain)
    (h : ofDeclarations decls = .ok schema) : schema.Closed := by
  obtain ⟨-, htop, -, -, hdeclared⟩ := ofDeclarations_ok.mp h
  refine ⟨List.mem_of_find?_eq_some htop, fun ref href => ?_⟩
  -- a plain reference is a name or no class at all, and the names were looked up by the check
  have hrefplain := plain_of_refers hplain h href
  obtain ⟨mention, hmention, rfl⟩ := refers_iff.mp href
  exact resolves_of_undeclared? hrefplain (hdeclared mention hmention)

theorem plain_declarationsOfText {text : String} {decls : Declarations}
    (h : declarationsOfText text = .ok decls) : decls.Plain := by
  unfold declarationsOfText at h
  obtain ⟨read, hread, h⟩ := except_bind_ok.mp h
  split at h
  · cases h
  · exact except_pure_ok.mp h ▸ Reader.plain_readDeclarations hread

theorem inNameOrder_of_text {text : String} (h : ofText text = .ok schema) :
    InNameOrder schema.classes := by
  unfold ofText at h
  split at h
  · exact inNameOrder_collectClasses (ofDeclarations_ok.mp h).1 .nil
  · cases h

theorem closed_of_text {text : String} (h : ofText text = .ok schema) : schema.Closed := by
  unfold ofText at h
  split at h
  · next decls hdecls => exact closed_of_plain (plain_declarationsOfText hdecls) h
  · cases h

theorem Closed.result (closed : schema.Closed) {decl : ClassDecl} {function : MemberFunction}
    (hdecl : decl ∈ schema.classes) (hfunction : function ∈ decl.functions) :
    schema.Resolves function.semantics.result := by
  cases hsemantics : function.semantics with
  | configure accessor => exact ⟨.unit, rfl, knows_of_class?_eq_none rfl⟩
  | _ => exact hsemantics ▸ closed.resolves _ (.result hdecl hfunction (by simp [hsemantics]))

end Schema

end ConfigScope
