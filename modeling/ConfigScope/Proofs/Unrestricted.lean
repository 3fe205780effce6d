import ConfigScope.Proofs.Progress
import ConfigScope.Proofs.TranslatedWalk

/-!
# Restrictions only add violations

A schema can be freed of its restrictions: no member of a class is restricted any
more, however deep in a type the class is held. Every document then resolves as
before, apart from the violations, which are gone (`ofDocument_unrestricted`).

Restrictions are part of the classes, and classes are compared as a whole. That
this tells the same classes apart afterwards is due to their names: a schema that is
read from a text only ever compares classes that it declares, and declares no
name twice (`compares_unrestriction`).
-/

namespace ConfigScope

/-! ## Declarations without restrictions -/

mutual

def Ty.unrestricted : Ty → Ty
  | .scalar s => .scalar s
  | .object decl => .object decl.unrestricted
  | .null => .null
  | .unit => .unit

def TypeRef.unrestricted : TypeRef → TypeRef
  | .inline type => .inline type.unrestricted
  | .named name => .named name

def ClassDecl.unrestricted : ClassDecl → ClassDecl
  | ⟨name, supertypes, properties, functions⟩ =>
    ⟨name, supertypes, unrestrictedProperties properties, unrestrictedFunctions functions⟩

def Property.unrestricted : Property → Property
  | ⟨name, type, readOnly, hasDefault, _⟩ => ⟨name, type.unrestricted, readOnly, hasDefault, false⟩

def unrestrictedProperties : List Property → List Property
  | [] => []
  | property :: rest => property.unrestricted :: unrestrictedProperties rest

def Parameter.unrestricted : Parameter → Parameter
  | ⟨name, type⟩ => ⟨name, type.unrestricted⟩

def unrestrictedParameters : List Parameter → List Parameter
  | [] => []
  | parameter :: rest => parameter.unrestricted :: unrestrictedParameters rest

def Accessor.unrestricted : Accessor → Accessor
  | ⟨property, object⟩ => ⟨property, object.unrestricted⟩

def Semantics.unrestricted : Semantics → Semantics
  | .builder result => .builder result.unrestricted
  | .configure accessor => .configure accessor.unrestricted
  | .add object acceptsBlock => .add object.unrestricted acceptsBlock
  | .pure result => .pure result.unrestricted

def MemberFunction.unrestricted : MemberFunction → MemberFunction
  | ⟨name, parameters, semantics, _⟩ =>
    ⟨name, unrestrictedParameters parameters, semantics.unrestricted, false⟩

def unrestrictedFunctions : List MemberFunction → List MemberFunction
  | [] => []
  | function :: rest => function.unrestricted :: unrestrictedFunctions rest

end

def TopLevelFunction.unrestricted (function : TopLevelFunction) : TopLevelFunction :=
  ⟨function.package, function.name, function.parameters.map (·.unrestricted),
    function.semantics.unrestricted⟩

def External.unrestricted (external : External) : External :=
  ⟨external.name, external.type.unrestricted⟩

def Schema.unrestricted (schema : Schema) : Schema :=
  ⟨schema.topLevel.unrestricted, schema.classes.map (·.unrestricted),
    schema.functions.map (·.unrestricted), schema.externals.map (·.unrestricted)⟩

/-! ## Freeing as a translation -/

theorem Ty.unrestricted_eq_map (type : Ty) : type.unrestricted = type.map (·.unrestricted) := by
  cases type <;> rfl

theorem Property.unrestricted_eq_map (property : Property) :
    property.unrestricted = property.map (·.unrestricted) false := by
  cases property
  rfl

theorem Parameter.unrestricted_eq_map (parameter : Parameter) :
    parameter.unrestricted = parameter.map (·.unrestricted) := by
  cases parameter
  rfl

theorem Accessor.unrestricted_eq_map (accessor : Accessor) :
    accessor.unrestricted = accessor.map (·.unrestricted) := by
  cases accessor
  rfl

theorem Semantics.unrestricted_eq_map (semantics : Semantics) :
    semantics.unrestricted = semantics.map (·.unrestricted) := by
  cases semantics with
  | configure accessor => exact congrArg Semantics.configure accessor.unrestricted_eq_map
  | _ => rfl

theorem unrestrictedProperties_eq_map (properties : List Property) :
    unrestrictedProperties properties = properties.map (·.unrestricted) := by
  induction properties with
  | nil => rfl
  | cons property rest ih => rw [unrestrictedProperties, ih, List.map_cons]

theorem unrestrictedParameters_eq_map (parameters : List Parameter) :
    unrestrictedParameters parameters = parameters.map (·.unrestricted) := by
  induction parameters with
  | nil => rfl
  | cons parameter rest ih => rw [unrestrictedParameters, ih, List.map_cons]

theorem unrestrictedFunctions_eq_map (functions : List MemberFunction) :
    unrestrictedFunctions functions = functions.map (·.unrestricted) := by
  induction functions with
  | nil => rfl
  | cons function rest ih => rw [unrestrictedFunctions, ih, List.map_cons]

/-- The translation that moves nothing and drops all restrictions. -/
def unrestriction : Translation where
  span := id
  restricts := false
  ref := TypeRef.unrestricted
  decl := ClassDecl.unrestricted
  function := MemberFunction.unrestricted
  topLevel := TopLevelFunction.unrestricted
  ref_inline type := by rw [TypeRef.unrestricted, type.unrestricted_eq_map]
  ref_named name := rfl
  decl_eq decl := by
    obtain ⟨name, supertypes, properties, functions⟩ := decl
    simp only [ClassDecl.unrestricted, unrestrictedProperties_eq_map, unrestrictedFunctions_eq_map,
      Property.unrestricted_eq_map]
  function_eq function := by
    obtain ⟨name, parameters, semantics, currentOnly⟩ := function
    simp only [MemberFunction.unrestricted, unrestrictedParameters_eq_map,
      Parameter.unrestricted_eq_map, Semantics.unrestricted_eq_map, Bool.false_and]
  topLevel_eq function := by
    simp only [TopLevelFunction.unrestricted, Parameter.unrestricted_eq_map,
      Semantics.unrestricted_eq_map]

def Origin.unrestricted : Origin → Origin := unrestriction.origin

def Reason.unrestricted : Reason → Reason := unrestriction.reason

/-- A resolution without violations, and without restrictions in what it holds. -/
def Resolution.unrestricted (resolution : Resolution) : Resolution where
  top := resolution.top.unrestricted
  assignments := resolution.assignments.map fun assignment =>
    ⟨⟨assignment.target.receiver.unrestricted, assignment.target.property.unrestricted⟩,
      assignment.value.unrestricted, assignment.span⟩
  additions := resolution.additions.map fun addition =>
    ⟨addition.container.unrestricted, addition.object.unrestricted⟩
  issues := (resolution.issues.filter (·.reason ≠ .notCurrentReceiver)).map fun issue =>
    ⟨issue.site, issue.reason.unrestricted⟩

theorem property_unrestriction (property : Property) :
    unrestriction.property property = property.unrestricted :=
  property.unrestricted_eq_map.symm

theorem schema_unrestriction (schema : Schema) :
    unrestriction.schema schema = schema.unrestricted := rfl

theorem assignment_unrestriction (assignment : Assignment) :
    unrestriction.assignment assignment =
      ⟨⟨assignment.target.receiver.unrestricted, assignment.target.property.unrestricted⟩,
        assignment.value.unrestricted, assignment.span⟩ := by
  rw [Translation.assignment, Translation.target, property_unrestriction]
  rfl

theorem resolution_unrestriction (resolution : Resolution) :
    unrestriction.resolution resolution = resolution.unrestricted := by
  rw [Translation.resolution, Resolution.unrestricted, funext assignment_unrestriction]
  rfl

/-! ## Which classes are told apart -/

namespace Schema

variable {schema : Schema}

theorem unrestricted_inj (h : InNameOrder schema.classes) {a b : ClassDecl}
    (ha : a ∈ schema.classes) (hb : b ∈ schema.classes) :
    a.unrestricted = b.unrestricted ↔ a = b := by
  constructor
  · intro heq
    -- restrictions are dropped but not names, and these tell declared classes apart
    have hname : a.name = b.name := by
      rw [← unrestriction.name_decl a, ← unrestriction.name_decl b]
      exact congrArg ClassDecl.name heq
    exact h.eq_of_name_eq ha hb hname
  · exact congrArg ClassDecl.unrestricted

theorem compares_unrestriction (closed : schema.Closed) (h : InNameOrder schema.classes) :
    unrestriction.Compares schema True where
  closed _ := closed
  conformsTo {value target} hknown := by
    obtain ⟨hvalue, htarget⟩ := hknown trivial
    cases target with
    | object target =>
      cases value with
      | object value =>
        -- classes are equal or listed by name, and both survive
        have hsame : (value.unrestricted == target.unrestricted) = (value == target) := by
          rw [Bool.eq_iff_iff, beq_iff_eq, beq_iff_eq]
          exact unrestricted_inj h (hvalue value rfl) (htarget target rfl)
        have hname : target.unrestricted.name = target.name := unrestriction.name_decl target
        have hsupertypes : value.unrestricted.supertypes = value.supertypes :=
          unrestriction.supertypes_decl value
        calc (unrestriction.type (.object value)).conformsTo (unrestriction.type (.object target))
          _ = (value.unrestricted == target.unrestricted ||
                value.unrestricted.supertypes.contains target.unrestricted.name) := rfl
          _ = (value == target || value.supertypes.contains target.name) := by
            rw [hsame, hname, hsupertypes]
      | _ => rfl
    | _ => cases value <;> rfl

end Schema

namespace Resolver

/-- Every document resolves against a schema that is read from a text, and resolves against the
schema without restrictions to the same result, apart from the violations. -/
theorem ofDocument_unrestricted {text : String} {schema : Schema}
    (h : Schema.ofText text = .ok schema) (document : Block) :
    ∃ result, Resolution.ofDocument schema document = .ok result ∧
      Resolution.ofDocument schema.unrestricted document = .ok result.unrestricted := by
  have closed := Schema.closed_of_text h
  obtain ⟨result, hresult, -⟩ := exists_resolution_of_closed closed document
  refine ⟨result, hresult, ?_⟩
  have hfreed := ofDocument_translate
    (Schema.compares_unrestriction closed (Schema.inNameOrder_of_text h)) hresult
  rw [schema_unrestriction, resolution_unrestriction] at hfreed
  exact document.relocate_id ▸ hfreed

end Resolver

namespace Sample

def restrictedText : String :=
  r#"["Node", [["Node", [], [["next", "Node", false, false, true]],
    [["more", [], ["add_and_configure", "Node", true], true]]]]]"#

def restrictedNode : ClassDecl :=
  ⟨⟨"", "Node"⟩, .empty, [⟨"next", .named ⟨"", "Node"⟩, false, false, true⟩],
    [⟨"more", [], .add (.named ⟨"", "Node"⟩) true, true⟩]⟩

def restrictedNodes : Schema := ⟨restrictedNode, [restrictedNode], [], []⟩

def link : Block :=
  ⟨[configure "more" [.assign ⟨some (.access ⟨none, "next", place 1⟩), "next", place 2⟩
    (.this (place 3)) (place 4)] 5], place 0⟩

end Sample

theorem Resolver.sample_ofDocument_unrestricted :
    Schema.ofText Sample.restrictedText = .ok Sample.restrictedNodes ∧
    ∃ result, Resolution.ofDocument Sample.restrictedNodes Sample.link = .ok result ∧
      result.issues = [⟨Sample.place 2, .notCurrentReceiver⟩] ∧
      Resolution.ofDocument Sample.restrictedNodes.unrestricted Sample.link =
        .ok result.unrestricted := by
  have htext : Schema.ofText Sample.restrictedText = .ok Sample.restrictedNodes := by cbv
  obtain ⟨result, hresult, hfreed⟩ := ofDocument_unrestricted htext Sample.link
  have hissues : (Resolution.ofDocument Sample.restrictedNodes Sample.link).map (·.issues) =
      .ok [⟨Sample.place 2, .notCurrentReceiver⟩] := rfl
  rw [hresult] at hissues
  exact ⟨htext, result, hresult, Except.ok.inj hissues, hfreed⟩

end ConfigScope
