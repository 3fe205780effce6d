import ConfigScope.Proofs.AcceptedAssignments
import ConfigScope.Proofs.OriginChains

/-!
# What a property comes to

The value of a property is what was last assigned to the object that a receiver
stands for, or else the default. An assignment was checked on a receiver of its
own, which may be another name for the object or a builder call on it. But a
receiver has the type of the object it stands for (`Origin.type_subject`), so two
receivers of one object have the same properties, and what was sound on one of
them is sound on the other (`value_justified`).
-/

namespace ConfigScope

theorem Target.isAbout_iff {target : Target} {object : Origin} {name : String} :
    target.isAbout object name = true ↔
      target.property.name = name ∧ target.receiver.subject = object := by
  simp [isAbout]

namespace Resolution

variable {result : Resolution} {typeOf : TypeContext} {receiver value : Origin} {type : Ty}
  {name : String}

theorem mem_of_lastAssigned? {object : Origin} (h : result.lastAssigned? object name = some value) :
    ∃ assignment ∈ result.assignments, assignment.target.property.name = name ∧
      assignment.target.receiver.subject = object ∧ assignment.value = value := by
  obtain ⟨assignment, hfound, hvalue⟩ := Option.map_eq_some_iff.mp h
  have hmem := List.mem_reverse.mp (List.mem_of_find?_eq_some hfound)
  have habout : assignment.target.isAbout object name = true := by
    simpa using List.find?_some hfound
  obtain ⟨hname, hsubject⟩ := Target.isAbout_iff.mp habout
  exact ⟨assignment, hmem, hname, hsubject, hvalue⟩

theorem lastAssigned?_eq_none_iff {object : Origin} :
    result.lastAssigned? object name = none ↔
      ∀ assignment ∈ result.assignments,
        ¬(assignment.target.property.name = name ∧
          assignment.target.receiver.subject = object) := by
  simp [lastAssigned?, ← Target.isAbout_iff]

theorem default?_eq_some_iff :
    default? receiver type name = some value ↔
      ∃ decl property, type = .object decl ∧ decl.property? name = some property ∧
        property.hasDefault = true ∧ value = .defaultValue receiver property receiver.span := by
  constructor
  · intro h
    unfold default? at h
    split at h
    · next property hproperty =>
      obtain ⟨decl, hclass, hproperty⟩ := Option.bind_eq_some_iff.mp hproperty
      simp only [Option.ite_none_right_eq_some, Option.some.injEq] at h
      exact ⟨decl, property, Resolver.class?_eq_some.mp hclass, hproperty, h.1, h.2.symm⟩
    · cases h
  · rintro ⟨decl, property, rfl, hproperty, hdefault, rfl⟩
    have hproperty : (Ty.object decl).property? name = some property := hproperty
    simp [default?, hproperty, hdefault]

theorem value_eq_some_iff (htype : receiver.type typeOf = .ok type) :
    result.value typeOf receiver name = .ok (some value) ↔
      result.lastAssigned? receiver.subject name = some value ∨
        result.lastAssigned? receiver.subject name = none ∧
          default? receiver type name = some value := by
  unfold Resolution.value
  cases result.lastAssigned? receiver.subject name with
  | some assigned => simp [pure, Except.pure]
  | none => simp [htype, pure, Except.pure, bind, Except.bind]

/-- How a property of a receiver can have come to a value: it was assigned under some name of the
receiver's object, or nothing was assigned to it under any, and it has a default. -/
inductive Justifies (result : Resolution) (schema : Schema) (receiver : Origin)
    (property : Property) : Origin → Prop
  | assigned {assignment expected actual} : assignment ∈ result.assignments →
      assignment.target.receiver.subject = receiver.subject →
      assignment.target.property = property → property.readOnly = false →
      schema.typeOf property.type = .ok expected →
      assignment.value.type schema.typeOf = .ok actual → actual.conformsTo expected = true →
      Justifies result schema receiver property assignment.value
  | default : property.hasDefault = true →
      (∀ assignment ∈ result.assignments, assignment.target.receiver.subject = receiver.subject →
        assignment.target.property.name ≠ property.name) →
      Justifies result schema receiver property (.defaultValue receiver property receiver.span)

theorem Justifies.eq_default {schema : Schema} {property : Property}
    (h : result.Justifies schema receiver property value) (hreadOnly : property.readOnly = true) :
    value = .defaultValue receiver property receiver.span := by
  cases h with
  | assigned _ _ _ hwritable =>
    rw [hreadOnly] at hwritable
    cases hwritable
  | default => rfl

end Resolution

namespace Resolver

variable {schema : Schema} {document : Block} {result : Resolution} {receiver value : Origin}
  {type : Ty} {name : String}

theorem justifies_of_lastAssigned? (h : Resolution.ofDocument schema document = .ok result)
    (htype : receiver.type schema.typeOf = .ok type)
    (hvalue : result.lastAssigned? receiver.subject name = some value) :
    ∃ decl property, type = .object decl ∧ decl.property? name = some property ∧
      result.Justifies schema receiver property value := by
  obtain ⟨assignment, hmem, rfl, hsubject, rfl⟩ := Resolution.mem_of_lastAssigned? hvalue
  obtain ⟨visits, c, hw, rfl⟩ := ofDocument_ok.mp h
  obtain ⟨⟨decl, hreceiver, hproperty⟩, hwritable, expected, actual, hexpected, hactual,
    hconforms⟩ :=
    hw.sound (by simp [Context.new]) assignment (Array.mem_toList_iff.mp hmem)
  -- the receiver that is asked has the class that the assignment was checked against
  rw [Origin.type_eq_of_subject_eq hsubject, htype] at hreceiver
  exact ⟨decl, _, Except.ok.inj hreceiver, hproperty,
    .assigned hmem hsubject rfl hwritable hexpected hactual hconforms⟩

/-- A value that a receiver has for a name is one of a property that the receiver's class declares.
It was assigned, and then the property may be written and the value conforms to its type; or nothing
was assigned, and it is the default. So a read-only property never has another value. -/
theorem value_justified (h : Resolution.ofDocument schema document = .ok result)
    (htype : receiver.type schema.typeOf = .ok type)
    (hvalue : result.value schema.typeOf receiver name = .ok (some value)) :
    ∃ decl property, type = .object decl ∧ decl.property? name = some property ∧
      result.Justifies schema receiver property value ∧
      (property.readOnly = true → value = .defaultValue receiver property receiver.span) := by
  rcases (Resolution.value_eq_some_iff htype).mp hvalue with hassigned | ⟨hnone, hdefault⟩
  · obtain ⟨decl, property, hdecl, hproperty, hjustified⟩ :=
      justifies_of_lastAssigned? h htype hassigned
    exact ⟨decl, property, hdecl, hproperty, hjustified, hjustified.eq_default⟩
  · obtain ⟨decl, property, hdecl, hproperty, hhas, rfl⟩ :=
      Resolution.default?_eq_some_iff.mp hdefault
    refine ⟨decl, property, hdecl, hproperty, .default hhas ?_, fun _ => rfl⟩
    intro assignment hmem hsubject hname
    rw [decl.name_of_property? hproperty] at hname
    exact Resolution.lastAssigned?_eq_none_iff.mp hnone assignment hmem ⟨hname, hsubject⟩

end Resolver

namespace Sample

def dial : ClassDecl :=
  ⟨⟨"app", "Dial"⟩, .empty,
    [⟨"size", int, false, false, false⟩, ⟨"serial", int, true, true, false⟩],
    [⟨"turn", [], .builder (.named ⟨"app", "Dial"⟩), false⟩]⟩

def dials : Schema := ⟨dial, [dial], [], []⟩

def turned : Block :=
  ⟨[.val "same" (.this (place 1)) (place 2),
    assign (some (.call ⟨some (.access ⟨none, "same", place 3⟩), "turn", [], none, place 4⟩))
      "size" 7 10,
    assign none "serial" 8 20], place 0⟩

end Sample

theorem Resolver.sample_value_justified :
    ∃ result, Resolution.ofDocument Sample.dials Sample.turned = .ok result ∧
      result.top.type Sample.dials.typeOf = .ok (.object Sample.dial) ∧
      result.issues.map (·.reason) = [.readOnlyProperty "serial"] ∧
      ∀ name ∈ ["size", "serial"], ∃ value,
        result.value Sample.dials.typeOf result.top name = .ok (some value) ∧
        ∃ decl property, .object Sample.dial = Ty.object decl ∧
          decl.property? name = some property ∧
          result.Justifies Sample.dials result.top property value ∧
          (property.readOnly = true →
            value = .defaultValue result.top property result.top.span) := by
  refine ⟨_, rfl, rfl, rfl, ?_⟩
  simp only [List.forall_mem_cons]
  refine ⟨⟨_, rfl, ?_⟩, ⟨_, rfl, ?_⟩, List.forall_mem_nil _⟩
  · exact value_justified (rfl : Resolution.ofDocument Sample.dials Sample.turned = .ok _) rfl rfl
  · exact value_justified (rfl : Resolution.ofDocument Sample.dials Sample.turned = .ok _) rfl rfl

end ConfigScope
