import ConfigScope.Proofs.TranslatedWalk

/-!
# Where a document is written

A span says where something stands and nothing else. If the nodes of a document are
put at other places, the document resolves as before, and what is found has moved
along (`ofDocument_relocate`). The new places need not differ from each other, though
origins hold spans and origins are compared: even a document whose nodes all stand
at one place resolves like the original.
-/

namespace ConfigScope

@[simp] theorem Ty.map_id (type : Ty) : type.map id = type := by
  cases type <;> rfl

@[simp] theorem Parameter.map_id (parameter : Parameter) : parameter.map id = parameter := by
  cases parameter
  rfl

@[simp] theorem Accessor.map_id (accessor : Accessor) : accessor.map id = accessor := by
  cases accessor
  rfl

@[simp] theorem Semantics.map_id (semantics : Semantics) : semantics.map id = semantics := by
  cases semantics with
  | configure accessor => exact congrArg Semantics.configure accessor.map_id
  | _ => rfl

@[simp] theorem Property.map_id (property : Property) : property.map id true = property := by
  cases property
  rfl

/-- The translation that moves spans and rewrites nothing. -/
def relocation (f : Span → Span) : Translation where
  span := f
  restricts := true
  ref := id
  decl := id
  function := id
  topLevel := id
  ref_inline type := by simp
  ref_named name := rfl
  decl_eq decl := by
    cases decl
    simp
  function_eq function := by
    cases function
    simp
  topLevel_eq function := by simp

def Origin.relocate (f : Span → Span) : Origin → Origin := (relocation f).origin

def Resolution.relocate (f : Span → Span) (resolution : Resolution) : Resolution where
  top := resolution.top.relocate f
  assignments := resolution.assignments.map fun assignment =>
    ⟨⟨assignment.target.receiver.relocate f, assignment.target.property⟩,
      assignment.value.relocate f, f assignment.span⟩
  additions := resolution.additions.map fun addition =>
    ⟨addition.container.relocate f, addition.object.relocate f⟩
  issues := resolution.issues.map fun issue => ⟨f issue.site, issue.reason⟩

variable (f : Span → Span)

@[simp] theorem span_relocation (span : Span) : (relocation f).span span = f span := rfl

@[simp] theorem type_relocation (type : Ty) : (relocation f).type type = type := type.map_id

@[simp] theorem property_relocation (property : Property) :
    (relocation f).property property = property := property.map_id

theorem schema_relocation (schema : Schema) : (relocation f).schema schema = schema := by
  have hexternal : (relocation f).external = id := rfl
  simp only [Translation.schema, hexternal, List.map_id]
  simp [relocation]

theorem issue_relocation (issue : Issue) :
    (relocation f).issue issue = ⟨f issue.site, issue.reason⟩ := by
  obtain ⟨site, reason⟩ := issue
  cases reason <;> simp [Translation.issue, Translation.reason]

theorem resolution_relocation (resolution : Resolution) :
    (relocation f).resolution resolution = resolution.relocate f := by
  have hissues : resolution.issues.filter (relocation f).reports = resolution.issues :=
    List.filter_eq_self.mpr fun _ _ => rfl
  simp only [Translation.resolution, Resolution.relocate, hissues]
  simp [Translation.assignment, Translation.target, Translation.addition, Origin.relocate,
    issue_relocation]

theorem compares_relocation (schema : Schema) : (relocation f).Compares schema False where
  closed := False.elim
  conformsTo _ := by rw [type_relocation, type_relocation]

namespace Resolver

/-- If a document resolves, it resolves at any other places too, to the same result with all spans
moved along. -/
theorem ofDocument_relocate (f : Span → Span) {schema : Schema} {document : Block}
    {result : Resolution} (h : Resolution.ofDocument schema document = .ok result) :
    Resolution.ofDocument schema (document.relocate f) = .ok (result.relocate f) := by
  have htranslated := ofDocument_translate (compares_relocation f schema) h
  rwa [schema_relocation, resolution_relocation] at htranslated

theorem sample_ofDocument_relocate :
    ∃ result, Resolution.ofDocument Sample.schema Sample.document = .ok result ∧
      (result.relocate fun _ => Sample.place 0).issues =
        [⟨Sample.place 0, .notCurrentReceiver⟩, ⟨Sample.place 0, .notCurrentReceiver⟩] ∧
      Resolution.ofDocument Sample.schema (Sample.document.relocate fun _ => Sample.place 0) =
        .ok (result.relocate fun _ => Sample.place 0) :=
  ⟨_, rfl, rfl, ofDocument_relocate _ rfl⟩

end Resolver

end ConfigScope
