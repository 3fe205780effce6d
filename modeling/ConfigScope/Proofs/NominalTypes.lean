import ConfigScope.Proofs.DanglingNames
import ConfigScope.Proofs.Progress

/-!
# Classes are told apart by their names

Conformance compares classes member by member. In a schema that is read from a text
it could as well compare their names: whatever class comes up, as the type of an
origin or of a reference, is the one that the schema declares under its name, and
no two classes are declared under one name. So a class conforms to another one
exactly if the names agree or its supertypes list the other one.

Supertypes are listed as they are written. If they are flattened, so that the
supertypes of a listed class are listed as well, conformance is transitive
(`conformsTo_nominal`).
-/

namespace ConfigScope

namespace Schema

/-- A type comes up in a schema: an origin in the resolution of some document has it, or a reference
that the schema holds leads to it. -/
inductive Meets (schema : Schema) (type : Ty) : Prop
  | origin {document result origin} : Resolution.ofDocument schema document = .ok result →
      result.Holds origin → origin.type schema.typeOf = .ok type → Meets schema type
  | reference {ref} : schema.Contains ref → schema.typeOf ref = .ok type → Meets schema type

/-- Whatever class is listed among the supertypes of another one, its own supertypes are too. -/
def Flattened (schema : Schema) : Prop :=
  ∀ decl ∈ schema.classes, ∀ base ∈ schema.classes, decl.supertypes.contains base.name = true →
    ∀ name ∈ base.supertypes.toList, decl.supertypes.contains name = true

instance (schema : Schema) : Decidable schema.Flattened := by
  unfold Flattened
  infer_instance

variable {schema : Schema}

/-! ## Declared classes -/

theorem class?_of_mem (hnames : InNameOrder schema.classes) {decl : ClassDecl}
    (h : decl ∈ schema.classes) : schema.class? decl.name = some decl := by
  have hsome : (schema.class? decl.name).isSome = true := by
    simp only [class?, findClass?, List.find?_isSome, beq_iff_eq]
    exact ⟨decl, h, rfl⟩
  obtain ⟨found, hfound⟩ := Option.isSome_iff_exists.mp hsome
  have hname : found.name = decl.name := by simpa using List.find?_some hfound
  rw [hfound, hnames.eq_of_name_eq (List.mem_of_find?_eq_some hfound) h hname]

theorem knows_of_meets {text : String} (h : ofText text = .ok schema) {type : Ty}
    (hmeets : schema.Meets type) : schema.Knows type := by
  cases hmeets with
  | @origin document result origin hresult hholds htype =>
    obtain ⟨other, hother, htyped⟩ :=
      Resolver.exists_resolution_of_closed (closed_of_text h) document
    rw [hresult] at hother
    cases hother
    obtain ⟨whole, hwhole, hoccurs⟩ := hholds
    exact (htyped whole hwhole hoccurs).knows htype
  | reference hcontains htype =>
    unfold ofText at h
    split at h
    · next decls hdecls =>
      exact knows_of_typeOf (plain_of_contains (plain_declarationsOfText hdecls) h hcontains) htype
    · cases h

end Schema

/-! ## Conformance -/

namespace Ty

theorem eq_of_conformsTo {value target : Ty} (hclass : target.class? = none)
    (h : value.conformsTo target = true) : value = target := by
  cases target with
  | object decl => cases hclass
  | scalar s =>
    cases value with
    | scalar t => rw [beq_iff_eq.mp h]
    | _ => cases h
  | null => cases value <;> cases h
  | unit =>
    cases value with
    | unit => rfl
    | _ => cases h

theorem exists_object_of_conformsTo {value : Ty} {target : ClassDecl}
    (h : value.conformsTo (.object target) = true) : ∃ decl, value = .object decl := by
  cases value with
  | object decl => exact ⟨decl, rfl⟩
  | _ => cases h

theorem conformsTo_self_iff (type : Ty) : type.conformsTo type = true ↔ type ≠ .null := by
  cases type <;> simp [conformsTo]

end Ty

namespace Schema

variable {schema : Schema}

theorem conformsTo_iff_of_mem (hnames : InNameOrder schema.classes) {value target : ClassDecl}
    (hvalue : value ∈ schema.classes) (htarget : target ∈ schema.classes) :
    (Ty.object value).conformsTo (.object target) = true ↔
      value.name = target.name ∨ value.supertypes.contains target.name = true := by
  have heq : value = target ↔ value.name = target.name :=
    ⟨congrArg ClassDecl.name, hnames.eq_of_name_eq hvalue htarget⟩
  simp only [Ty.conformsTo, sharedEq_eq_beq, Bool.or_eq_true, beq_iff_eq, heq]

theorem Flattened.conformsTo_trans (hflat : schema.Flattened)
    (hnames : InNameOrder schema.classes) {a b c : Ty} (ha : schema.Knows a)
    (hb : schema.Knows b) (hc : schema.Knows c) (hab : a.conformsTo b = true)
    (hbc : b.conformsTo c = true) : a.conformsTo c = true := by
  cases hclass : c.class? with
  | none => rwa [← Ty.eq_of_conformsTo hclass hbc]
  | some last =>
    obtain rfl := Resolver.class?_eq_some.mp hclass
    obtain ⟨middle, rfl⟩ := Ty.exists_object_of_conformsTo hbc
    obtain ⟨first, rfl⟩ := Ty.exists_object_of_conformsTo hab
    have hfirst := ha first rfl
    have hmiddle := hb middle rfl
    rw [conformsTo_iff_of_mem hnames hfirst (hc last rfl)]
    -- a conforming class is the class itself or lists it, and flattened lists are closed
    rcases (conformsTo_iff_of_mem hnames hfirst hmiddle).mp hab with hname | hlisted
    · rw [hnames.eq_of_name_eq hfirst hmiddle hname]
      exact (conformsTo_iff_of_mem hnames hmiddle (hc last rfl)).mp hbc
    · right
      rcases (conformsTo_iff_of_mem hnames hmiddle (hc last rfl)).mp hbc with hname | hbase
      · exact hname ▸ hlisted
      · exact hflat first hfirst middle hmiddle hlisted last.name (List.contains_iff_mem.mp hbase)

/-- A class that comes up in a schema is the declared one of its name, and conforms to another one
exactly if it has its name or lists it. If supertypes are flattened, conformance is transitive on
all types that come up, and reflexive on all but null. -/
theorem conformsTo_nominal {text : String} (h : ofText text = .ok schema) :
    (∀ decl, schema.Meets (.object decl) → schema.class? decl.name = some decl) ∧
    (∀ value target, schema.Meets (.object value) → schema.Meets (.object target) →
      ((Ty.object value).conformsTo (.object target) = true ↔
        value.name = target.name ∨ value.supertypes.contains target.name = true)) ∧
    (schema.Flattened →
      (∀ a b c, schema.Meets a → schema.Meets b → schema.Meets c → a.conformsTo b = true →
        b.conformsTo c = true → a.conformsTo c = true) ∧
      ∀ type, schema.Meets type → (type.conformsTo type = true ↔ type ≠ .null)) := by
  have hnames := inNameOrder_of_text h
  refine ⟨?_, ?_, fun hflat => ⟨?_, fun type _ => type.conformsTo_self_iff⟩⟩
  · intro decl hdecl
    exact class?_of_mem hnames (knows_of_meets h hdecl decl rfl)
  · intro value target hvalue htarget
    exact conformsTo_iff_of_mem hnames (knows_of_meets h hvalue value rfl)
      (knows_of_meets h htarget target rfl)
  · intro a b c ha hb hc
    exact hflat.conformsTo_trans hnames (knows_of_meets h ha) (knows_of_meets h hb)
      (knows_of_meets h hc)

end Schema

namespace Sample

def petsText : String :=
  r#"["Thing",[["Thing",[],[["pet","Pet"],["cat","Cat"]]],
["Pet",["Thing"]],["Cat",["Pet","Thing"]]]]"#

def thing : ClassDecl :=
  ⟨⟨"", "Thing"⟩, .empty, [⟨"pet", .named ⟨"", "Pet"⟩, false, false, false⟩,
    ⟨"cat", .named ⟨"", "Cat"⟩, false, false, false⟩], []⟩

def pet : ClassDecl := ⟨⟨"", "Pet"⟩, .ofList [⟨"", "Thing"⟩], [], []⟩

def cat : ClassDecl := ⟨⟨"", "Cat"⟩, .ofList [⟨"", "Pet"⟩, ⟨"", "Thing"⟩], [], []⟩

def pets : Schema := ⟨thing, [cat, pet, thing], [], []⟩

end Sample

theorem Schema.sample_conformsTo_nominal :
    Schema.ofText Sample.petsText = .ok Sample.pets ∧ Sample.pets.Flattened ∧
    Sample.pets.Meets (.object Sample.thing) ∧ Sample.pets.Meets (.object Sample.pet) ∧
    Sample.pets.Meets (.object Sample.cat) ∧
    Sample.pets.class? Sample.cat.name = some Sample.cat ∧
    ((Ty.object Sample.cat).conformsTo (.object Sample.pet) = true ↔
      Sample.cat.name = Sample.pet.name ∨
        Sample.cat.supertypes.contains Sample.pet.name = true) ∧
    (Ty.object Sample.cat).conformsTo (.object Sample.thing) = true ∧
    ((Ty.object Sample.cat).conformsTo (.object Sample.cat) = true ↔
      Ty.object Sample.cat ≠ .null) := by
  have htext : Schema.ofText Sample.petsText = .ok Sample.pets := by cbv
  have hflat : Sample.pets.Flattened := by decide +kernel
  have hthing : Sample.pets.Meets (.object Sample.thing) :=
    .origin (rfl : Resolution.ofDocument Sample.pets ⟨[], Sample.place 0⟩ = .ok _)
      ⟨_, List.mem_cons_self, .here⟩ rfl
  have hpet : Sample.pets.Meets (.object Sample.pet) :=
    .reference ⟨.named ⟨"", "Pet"⟩, List.mem_of_getElem? (i := 0) rfl, .here⟩ rfl
  have hcat : Sample.pets.Meets (.object Sample.cat) :=
    .reference ⟨.named ⟨"", "Cat"⟩, List.mem_of_getElem? (i := 1) rfl, .here⟩ rfl
  obtain ⟨hdeclared, hiff, hlaws⟩ := conformsTo_nominal htext
  obtain ⟨htrans, hself⟩ := hlaws hflat
  exact ⟨htext, hflat, hthing, hpet, hcat, hdeclared _ hcat, hiff _ _ hcat hpet,
    htrans _ _ _ hcat hpet hthing (by decide +kernel) (by decide +kernel), hself _ hcat⟩

end ConfigScope
