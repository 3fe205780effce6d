import ConfigScope.Proofs.ClosedSchema

/-!
# Which names of a schema can dangle

A schema refers to types in the members of its classes, in its top-level
functions and in its external objects, and further in the members of every class
that it holds inline, to any depth. A name among all these dangles if no class is
declared under it.

The check of declarations looks at most of these places, but not at all of them:
it passes over the objects that top-level functions configure, and over whatever
stands in a class that is held inline. So the names that dangle in a schema are
exactly those that are overlooked and not declared (`dangling_iff_overlooked`), and
there are schemas that have some (`exists_dangling`).
-/

namespace ConfigScope

/-! ## Where references stand -/

def Semantics.references : Semantics → List TypeRef
  | .builder result => [result]
  | .configure accessor => [accessor.object]
  | .add object _ => [object]
  | .pure result => [result]

def signatureReferences (parameters : List Parameter) (semantics : Semantics) : List TypeRef :=
  parameters.map (·.type) ++ semantics.references

def ClassDecl.references (decl : ClassDecl) : List TypeRef :=
  decl.properties.map (·.type) ++
    decl.functions.flatMap fun function =>
      signatureReferences function.parameters function.semantics

def Schema.references (schema : Schema) : List TypeRef :=
  schema.classes.flatMap (·.references) ++
    schema.functions.flatMap (fun function =>
      signatureReferences function.parameters function.semantics) ++
    schema.externals.map (·.type)

/-- A reference is another one, or stands in a member of the class that the other one holds. -/
inductive TypeRef.StandsIn (ref : TypeRef) : TypeRef → Prop
  | here : StandsIn ref ref
  | member {decl outer} : outer ∈ decl.references → StandsIn ref outer →
      StandsIn ref (.inline (.object decl))

namespace Schema

def Contains (schema : Schema) (ref : TypeRef) : Prop :=
  ∃ outer ∈ schema.references, ref.StandsIn outer

/-- A name stands somewhere in a schema, and no class is declared under it. -/
def Dangling (schema : Schema) (name : QualifiedName) : Prop :=
  schema.Contains (.named name) ∧ schema.class? name = none

/-- A name is the object that a top-level function configures. -/
def Configures (schema : Schema) (name : QualifiedName) : Prop :=
  ∃ function ∈ schema.functions, ∃ accessor,
    function.semantics = .configure accessor ∧ accessor.object = .named name

/-- A name stands in a member of a class that is held inline. -/
def Hides (schema : Schema) (name : QualifiedName) : Prop :=
  ∃ decl, schema.Contains (.inline (.object decl)) ∧ .named name ∈ decl.references

end Schema

theorem Semantics.mem_references {semantics : Semantics} {ref : TypeRef} :
    ref ∈ semantics.references ↔
      (∃ accessor, semantics = .configure accessor ∧ ref = accessor.object) ∨
        (∀ accessor, semantics ≠ .configure accessor) ∧ ref = semantics.result := by
  cases semantics <;> simp [references, result]

theorem mem_signatureReferences {parameters : List Parameter} {semantics : Semantics}
    {ref : TypeRef} :
    ref ∈ signatureReferences parameters semantics ↔
      (∃ parameter ∈ parameters, parameter.type = ref) ∨ ref ∈ semantics.references := by
  simp [signatureReferences]

namespace TypeRef.StandsIn

theorem trans {a b c : TypeRef} (hab : a.StandsIn b) (hbc : b.StandsIn c) : a.StandsIn c := by
  induction hbc with
  | here => exact hab
  | member hmem _ ih => exact .member hmem ih

theorem eq_or_hidden {name : QualifiedName} {outer : TypeRef}
    (h : (TypeRef.named name).StandsIn outer) :
    outer = .named name ∨
      ∃ decl, (TypeRef.inline (.object decl)).StandsIn outer ∧ .named name ∈ decl.references := by
  induction h with
  | here => exact .inl rfl
  | @member decl outer hmem _ ih =>
    right
    rcases ih with rfl | ⟨inner, hinner, hname⟩
    · exact ⟨decl, .here, hmem⟩
    · exact ⟨inner, .member hmem hinner, hname⟩

theorem eq_of_plain {ref outer : TypeRef} (h : ref.StandsIn outer) (hplain : outer.Plain) :
    outer = ref := by
  cases h with
  | here => rfl
  | member => cases hplain

end TypeRef.StandsIn

namespace Schema

variable {schema : Schema} {name : QualifiedName} {ref : TypeRef}

theorem refers_or_configured (h : ref ∈ schema.references) :
    schema.Refers ref ∨ ∃ function ∈ schema.functions, ∃ accessor,
      function.semantics = .configure accessor ∧ accessor.object = ref := by
  simp only [references, ClassDecl.references, List.mem_append, List.mem_flatMap, List.mem_map,
    mem_signatureReferences, Semantics.mem_references] at h
  rcases h with (⟨decl, hdecl, ⟨property, hproperty, rfl⟩ | ⟨function, hfunction, h⟩⟩ |
    ⟨function, hfunction, h⟩) | ⟨external, hexternal, rfl⟩
  · exact .inl (.property hdecl hproperty)
  · left
    rcases h with ⟨parameter, hparameter, rfl⟩ | ⟨accessor, hsemantics, rfl⟩ | ⟨hsemantics, rfl⟩
    · exact .parameter hdecl hfunction hparameter
    · exact .accessor hdecl hfunction hsemantics
    · exact .result hdecl hfunction hsemantics
  -- the accessor of a top-level function is the one place that `Refers` leaves out
  · rcases h with ⟨parameter, hparameter, rfl⟩ | ⟨accessor, hsemantics, rfl⟩ | ⟨-, rfl⟩
    · exact .inl (.topLevelParameter hfunction hparameter)
    · exact .inr ⟨function, hfunction, accessor, hsemantics, rfl⟩
    · exact .inl (.topLevelResult hfunction)
  · exact .inl (.external hexternal)

theorem mem_references_of_configures (h : schema.Configures name) :
    .named name ∈ schema.references := by
  obtain ⟨function, hfunction, accessor, hsemantics, hname⟩ := h
  simp only [references, List.mem_append, List.mem_flatMap, mem_signatureReferences]
  refine .inl (.inr ⟨function, hfunction, .inr ?_⟩)
  exact Semantics.mem_references.mpr (.inl ⟨accessor, hsemantics, hname.symm⟩)

theorem contains_of_configures (h : schema.Configures name) : schema.Contains (.named name) :=
  ⟨_, mem_references_of_configures h, .here⟩

theorem contains_of_hides (h : schema.Hides name) : schema.Contains (.named name) := by
  obtain ⟨decl, ⟨outer, houter, hdecl⟩, hname⟩ := h
  exact ⟨outer, houter, (TypeRef.StandsIn.member hname .here).trans hdecl⟩

theorem class?_ne_none_of_refers {decls : Declarations} (h : ofDeclarations decls = .ok schema)
    (href : schema.Refers (.named name)) : schema.class? name ≠ none := by
  obtain ⟨-, -, -, -, hdeclared⟩ := ofDeclarations_ok.mp h
  obtain ⟨⟨holder, type⟩, hmention, rfl⟩ := refers_iff.mp href
  intro hnone
  have := hdeclared _ hmention
  simp [undeclared?, hnone] at this

theorem plain_of_contains {decls : Declarations} (hplain : decls.Plain)
    (h : ofDeclarations decls = .ok schema) (href : schema.Contains ref) : ref.Plain := by
  obtain ⟨outer, houter, hstands⟩ := href
  have houterplain : outer.Plain := by
    rcases refers_or_configured houter with href | ⟨function, hfunction, accessor, hsemantics, rfl⟩
    · exact plain_of_refers hplain h href
    · obtain ⟨-, -, hfunctions, -, -⟩ := ofDeclarations_ok.mp h
      have hplain := (hplain.functions function (hfunctions ▸ hfunction)).semantics
      rw [hsemantics] at hplain
      exact hplain
  exact hstands.eq_of_plain houterplain ▸ houterplain

theorem not_hides_of_plain {decls : Declarations} (hplain : decls.Plain)
    (h : ofDeclarations decls = .ok schema) : ¬schema.Hides name := by
  rintro ⟨decl, hdecl, -⟩
  cases plain_of_contains hplain h hdecl

/-- The names that dangle in accepted declarations are exactly the undeclared ones that the check
overlooks: objects that top-level functions configure, and names in classes that are held inline. In
plain declarations, as a text holds them, only the former are left. -/
theorem dangling_iff_overlooked {decls : Declarations} (h : ofDeclarations decls = .ok schema)
    (name : QualifiedName) :
    (schema.Dangling name ↔
      (schema.Configures name ∨ schema.Hides name) ∧ schema.class? name = none) ∧
    (decls.Plain → (schema.Dangling name ↔
      schema.Configures name ∧ schema.class? name = none)) := by
  have hdangling : schema.Dangling name ↔
      (schema.Configures name ∨ schema.Hides name) ∧ schema.class? name = none := by
    constructor
    · rintro ⟨⟨outer, houter, hname⟩, hnone⟩
      refine ⟨?_, hnone⟩
      -- a reference that is checked is declared, so this one is held where nothing looks
      rcases hname.eq_or_hidden with rfl | ⟨decl, hdecl, hmember⟩
      · rcases refers_or_configured houter with href | hconfigured
        · exact absurd hnone (class?_ne_none_of_refers h href)
        · exact .inl hconfigured
      · exact .inr ⟨decl, ⟨outer, houter, hdecl⟩, hmember⟩
    · rintro ⟨hconfigures | hhides, hnone⟩
      · exact ⟨contains_of_configures hconfigures, hnone⟩
      · exact ⟨contains_of_hides hhides, hnone⟩
  refine ⟨hdangling, fun hplain => ?_⟩
  rw [hdangling, or_iff_left (not_hides_of_plain hplain h)]

end Schema

namespace Sample

def houseText : String :=
  r#"["House", [["House"]], [["", "open", [], ["access_and_configure", ["hall", "Hall"]]]]]"#

def house : ClassDecl := ⟨⟨"", "House"⟩, .empty, [], []⟩

def houseDecls : Declarations :=
  ⟨⟨"", "House"⟩, [house],
    [⟨"", "open", [], .configure ⟨"hall", .named ⟨"", "Hall"⟩⟩⟩], []⟩

def houses : Schema := ⟨house, [house], houseDecls.functions, []⟩

def hut : ClassDecl :=
  ⟨⟨"", "Hut"⟩, .empty, [⟨"door", .inline (.object ⟨⟨"", "Door"⟩, .empty,
    [⟨"handle", .named ⟨"", "Handle"⟩, false, false, false⟩], []⟩), false, false, false⟩], []⟩

def hutDecls : Declarations := ⟨⟨"", "Hut"⟩, [hut], [], []⟩

def huts : Schema := ⟨hut, [hut], [], []⟩

end Sample

theorem Schema.sample_dangling_iff_overlooked :
    Schema.ofDeclarations Sample.houseDecls = .ok Sample.houses ∧ Sample.houseDecls.Plain ∧
    (Sample.houses.Dangling ⟨"", "Hall"⟩ ↔
      (Sample.houses.Configures ⟨"", "Hall"⟩ ∨ Sample.houses.Hides ⟨"", "Hall"⟩) ∧
        Sample.houses.class? ⟨"", "Hall"⟩ = none) ∧
    (Sample.houses.Dangling ⟨"", "Hall"⟩ ↔
      Sample.houses.Configures ⟨"", "Hall"⟩ ∧ Sample.houses.class? ⟨"", "Hall"⟩ = none) := by
  have h : Schema.ofDeclarations Sample.houseDecls = .ok Sample.houses := by cbv
  have htext : Schema.declarationsOfText Sample.houseText = .ok Sample.houseDecls := by cbv
  have hplain := plain_declarationsOfText htext
  obtain ⟨hany, hread⟩ := dangling_iff_overlooked h ⟨"", "Hall"⟩
  exact ⟨h, hplain, hany, hread hplain⟩

/-- Names dangle in schemas that are accepted, be they read from a text or given as declarations. -/
theorem Schema.exists_dangling :
    (Schema.ofText Sample.houseText = .ok Sample.houses ∧
      Sample.houses.Dangling ⟨"", "Hall"⟩) ∧
    (Schema.ofDeclarations Sample.hutDecls = .ok Sample.huts ∧
      Sample.huts.Dangling ⟨"", "Handle"⟩) := by
  have hhall : Sample.houses.Configures ⟨"", "Hall"⟩ :=
    ⟨_, List.mem_singleton_self _, _, rfl, rfl⟩
  have hdoor : Sample.huts.Contains (.named ⟨"", "Handle"⟩) :=
    ⟨_, List.mem_singleton_self _, .member (List.mem_singleton_self _) .here⟩
  exact ⟨⟨by cbv, contains_of_configures hhall, by cbv⟩, ⟨by cbv, hdoor, by cbv⟩⟩

end ConfigScope
