import ConfigScope.Proofs.Frame
import ConfigScope.Proofs.Lookup

/-!
# What assignments are accepted

An assignment is sound if its property is the one that the class of its receiver
declares under that name, is not read-only, and has a type that the value conforms
to. Assignments are recorded at one place, but it is reached from blocks inside
receivers, arguments and values, with other issues around it. Each step only ever
records a sound one, so every assignment of a resolution is sound
(`assignment_sound`).
-/

namespace ConfigScope

def Target.Declared (schema : Schema) (target : Target) : Prop :=
  ∃ decl, target.receiver.type schema.typeOf = .ok (.object decl) ∧
    decl.property? target.property.name = some target.property

/-- The property is declared and may be written, and the value conforms to its type. -/
structure Assignment.Sound (schema : Schema) (assignment : Assignment) : Prop where
  declared : assignment.target.Declared schema
  writable : assignment.target.property.readOnly = false
  conforms : ∃ expected actual, schema.typeOf assignment.target.property.type = .ok expected ∧
    assignment.value.type schema.typeOf = .ok actual ∧ actual.conformsTo expected = true

theorem ClassDecl.name_of_property? {decl : ClassDecl} {name : String} {property : Property}
    (h : decl.property? name = some property) : property.name = name := by
  simpa using List.find?_some h

namespace Resolver

variable {schema : Schema} {c c' : Context Findings} {visits : List Visit}

theorem declared_of_lookupProperty {name : String} {scopes : List Scope} {target : Target}
    (h : schema.lookupProperty name scopes = .ok (some target)) : target.Declared schema := by
  obtain ⟨scope, type, -, hreceiver, htype, hproperty⟩ := Schema.lookupProperty_ok h
  obtain ⟨decl, hclass, hproperty⟩ := Option.bind_eq_some_iff.mp hproperty
  obtain rfl := class?_eq_some.mp hclass
  exact ⟨decl, hreceiver ▸ htype, by rwa [decl.name_of_property? hproperty]⟩

theorem MemberTarget.declared {object : Origin} {site span : Span} {name : String}
    {found : Option Target} {target : Target}
    (h : MemberTarget schema object site name span c found c') (hfound : found = some target) :
    target.Declared schema := by
  cases h with
  | notAnObject => cases hfound
  | @member decl _ htype _ =>
    obtain ⟨property, hproperty, rfl⟩ := Option.map_eq_some_iff.mp hfound
    exact ⟨decl, htype, by rwa [decl.name_of_property? hproperty]⟩

theorem Walk.declared {access : Access} {target : Target}
    (h : Walk schema (.target access) c (some target) c' visits) : target.Declared schema := by
  cases h with
  | implicitTarget hl _ => exact declared_of_lookupProperty hl
  | memberTarget _ hm => exact hm.declared rfl

theorem Assigned.sound {target : Target} {targetSpan valueSpan span : Span} {value : Origin}
    (h : Assigned schema target targetSpan value valueSpan span c c')
    (htarget : target.Declared schema) (hc : ∀ a ∈ c.record.assignments, a.Sound schema) :
    ∀ a ∈ c'.record.assignments, a.Sound schema := by
  cases h with
  | readOnly => exact hc
  | mismatch => exact hc
  | accepted hwritable hexpected hactual hconforms =>
    intro a ha
    rcases Array.mem_push.mp ha with ha | rfl
    · exact hc a ha
    · exact ⟨htarget, hwritable, _, _, hexpected, hactual, hconforms⟩

theorem Walk.sound {task : Task} {result : task.Result} (h : Walk schema task c result c' visits)
    (hc : ∀ a ∈ c.record.assignments, a.Sound schema) :
    ∀ a ∈ c'.record.assignments, a.Sound schema := by
  induction h with
  | implicitTarget _ ht => rwa [ht.noted.record]
  | noTarget _ ih => exact ih hc
  | memberTarget _ hm ih => exact hm.noted.record ▸ ih hc
  | literal => exact hc
  | null => exact hc
  | this => exact hc
  | value => exact hc
  | implicitRead _ _ ih => exact ih hc
  | memberRead _ ih => exact ih hc
  | callExpr _ ih => exact ih hc
  | uncalled _ _ hf ihr iha => exact hf.noted.record ▸ iha (ihr hc)
  | called _ _ hf hi _ ihr iha ihb =>
    refine ihb ?_
    rw [hi.assignments, hf.noted.record]
    exact iha (ihr hc)
  | unqualified => exact hc
  | unresolved _ ih => exact ih hc
  | object _ ih => exact ih hc
  | noArguments => exact hc
  | argument _ _ ih ihs => exact ihs (ih hc)
  | noBlock => exact hc
  | skipped => exact hc
  | opened _ _ _ ih => exact ih hc
  -- the only step that accepts an assignment
  | assign ht _ ha iht ihv => exact ha.sound ht.declared (ihv (iht hc))
  | unassigned _ _ _ iht ihv => exact ihv (iht hc)
  | val _ hb ih => exact hb.record ▸ ih hc
  | unbound _ ih => exact ih hc
  | exprStatement _ ih => exact ih hc
  | noStatements => exact hc
  | statements _ _ ih ihs => exact ihs (ih hc)
  | block _ ih => exact ih hc

/-- Every accepted assignment is sound, whatever else is wrong with the document. -/
theorem assignment_sound {document : Block} {result : Resolution}
    (h : Resolution.ofDocument schema document = .ok result) :
    ∀ assignment ∈ result.assignments, assignment.Sound schema := by
  obtain ⟨visits, c, hw, rfl⟩ := ofDocument_ok.mp h
  intro assignment hmem
  exact hw.sound (by simp [Context.new]) assignment (Array.mem_toList_iff.mp hmem)

theorem sample_assignment_sound :
    ∃ result, Resolution.ofDocument Sample.schema Sample.document = .ok result ∧
      result.assignments.map (·.span.start) = [12, 23, 33, 42, 52] ∧
      ∀ assignment ∈ result.assignments, assignment.Sound Sample.schema :=
  ⟨_, rfl, rfl,
    assignment_sound (rfl : Resolution.ofDocument Sample.schema Sample.document = .ok _)⟩

end Resolver

end ConfigScope
