import ConfigScope.Proofs.PropertyValues

/-!
# The last write wins

A property of an object may be written through any receiver that stands for the
object: another name of it, a builder call on it, or a chain of both. All of these
are writes to the one object, and the last of them decides what the property comes
to, whichever receiver is asked (`values_coincide`). Only a default shows which one
was: it is a value of its own, and keeps the receiver that it was asked of.

None of this needs a document. The assignments may be any list, and types may be
followed in any way.
-/

namespace ConfigScope

/-- An assignment to a property of an object, whatever name the object goes by in it. -/
def Assignment.Writes (assignment : Assignment) (object : Origin) (name : String) : Prop :=
  assignment.target.property.name = name ∧ assignment.target.receiver.subject = object

def LastWrite (assignments : List Assignment) (object : Origin) (name : String)
    (assignment : Assignment) : Prop :=
  ∃ before after, assignments = before ++ assignment :: after ∧
    assignment.Writes object name ∧ ∀ later ∈ after, ¬later.Writes object name

namespace Resolution

variable {result : Resolution} {typeOf : TypeContext} {object receiver a b value : Origin}
  {type : Ty} {name : String}

theorem lastAssigned?_eq_some_iff :
    result.lastAssigned? object name = some value ↔
      ∃ assignment, LastWrite result.assignments object name assignment ∧
        assignment.value = value := by
  rw [lastAssigned?, Option.map_eq_some_iff]
  refine exists_congr fun assignment => and_congr_left fun _ => ?_
  rw [List.find?_eq_some_iff_append]
  constructor
  · rintro ⟨hwrites, after, before, hreverse, hafter⟩
    -- the search goes from the back, so what it passed by comes after what it found
    refine ⟨before.reverse, after.reverse, ?_, Target.isAbout_iff.mp hwrites, ?_⟩
    · simpa using congrArg List.reverse hreverse
    · intro later hlater hwrites
      have hnot := hafter later (List.mem_reverse.mp hlater)
      rw [Target.isAbout_iff.mpr hwrites] at hnot
      cases hnot
  · rintro ⟨before, after, hassignments, hwrites, hafter⟩
    refine ⟨Target.isAbout_iff.mpr hwrites, after.reverse, before.reverse, ?_, ?_⟩
    · simp [hassignments]
    intro later hlater
    rw [Bool.not_eq_true', Bool.eq_false_iff]
    intro habout
    exact hafter later (List.mem_reverse.mp hlater) (Target.isAbout_iff.mp habout)

theorem value_of_lastWrite {assignment : Assignment}
    (h : LastWrite result.assignments receiver.subject name assignment) :
    result.value typeOf receiver name = .ok (some assignment.value) := by
  have hlast := lastAssigned?_eq_some_iff.mpr ⟨assignment, h, rfl⟩
  rw [Resolution.value, hlast]
  rfl

theorem value_of_unwritten
    (h : ∀ assignment ∈ result.assignments, ¬assignment.Writes receiver.subject name)
    (htype : receiver.type typeOf = .ok type) :
    result.value typeOf receiver name = .ok (default? receiver type name) := by
  rw [Resolution.value, lastAssigned?_eq_none_iff.mpr h, htype]
  rfl

def HasDefault (type : Ty) (name : String) (property : Property) : Prop :=
  ∃ decl, type = .object decl ∧ decl.property? name = some property ∧ property.hasDefault = true

theorem default?_eq_of_hasDefault {property : Property} (h : HasDefault type name property) :
    default? receiver type name = some (.defaultValue receiver property receiver.span) := by
  obtain ⟨decl, htype, hproperty, hhas⟩ := h
  exact default?_eq_some_iff.mpr ⟨decl, property, htype, hproperty, hhas, rfl⟩

theorem default?_eq_none_of_not_hasDefault (h : ∀ property, ¬HasDefault type name property) :
    default? receiver type name = none := by
  rw [Option.eq_none_iff_forall_ne_some]
  intro value hvalue
  obtain ⟨decl, property, htype, hproperty, hhas, -⟩ := default?_eq_some_iff.mp hvalue
  exact h property ⟨decl, htype, hproperty, hhas⟩

/-- The values that two receivers have for a name, given the object they stand for and its type. The
values are the last write to the object, or there was none and they are defaults of one property,
each on its own receiver, or there is no default either and no value. -/
inductive Coincide (result : Resolution) (typeOf : TypeContext) (object : Origin) (type : Ty)
    (name : String) (a b : Origin) : Prop
  | written {assignment} : LastWrite result.assignments object name assignment →
      result.value typeOf a name = .ok (some assignment.value) →
      result.value typeOf b name = .ok (some assignment.value) →
      Coincide result typeOf object type name a b
  | default {property} :
      (∀ assignment ∈ result.assignments, ¬assignment.Writes object name) →
      HasDefault type name property →
      result.value typeOf a name = .ok (some (.defaultValue a property a.span)) →
      result.value typeOf b name = .ok (some (.defaultValue b property b.span)) →
      Coincide result typeOf object type name a b
  | none : (∀ assignment ∈ result.assignments, ¬assignment.Writes object name) →
      (∀ property, ¬HasDefault type name property) →
      result.value typeOf a name = .ok none → result.value typeOf b name = .ok none →
      Coincide result typeOf object type name a b

/-- Two receivers that stand for one object have the same value for every name, up to the receiver
that a default keeps. -/
theorem values_coincide (result : Resolution) (hsubject : a.subject = b.subject)
    (htype : a.type typeOf = .ok type) (name : String) :
    result.Coincide typeOf a.subject type name a b := by
  -- the default is looked up on the type of a receiver, and both have that of the object
  have htype' : b.type typeOf = .ok type := by rw [← Origin.type_eq_of_subject_eq hsubject, htype]
  cases hlast : result.lastAssigned? a.subject name with
  | some value =>
    obtain ⟨assignment, hwrite, -⟩ := lastAssigned?_eq_some_iff.mp hlast
    exact .written hwrite (value_of_lastWrite hwrite) (value_of_lastWrite (hsubject ▸ hwrite))
  | none =>
    have hunwritten := lastAssigned?_eq_none_iff.mp hlast
    have hvalue := value_of_unwritten hunwritten htype
    have hvalue' := value_of_unwritten (hsubject ▸ hunwritten) htype'
    by_cases hdefault : ∃ property, HasDefault type name property
    · obtain ⟨property, hdefault⟩ := hdefault
      rw [default?_eq_of_hasDefault hdefault] at hvalue hvalue'
      exact .default hunwritten hdefault hvalue hvalue'
    · have hdefault := not_exists.mp hdefault
      rw [default?_eq_none_of_not_hasDefault hdefault] at hvalue hvalue'
      exact .none hunwritten hdefault hvalue hvalue'

end Resolution

namespace Sample

def firstDial : Origin := .top (.object dial) (place 0)

def turnedDial : Origin :=
  .binding "again" (.built (.binding "same" firstDial (place 1))
    ⟨"turn", [], .builder (.named ⟨"app", "Dial"⟩), false⟩ [] 0 (place 2)) (place 3)

def sizes : Resolution :=
  ⟨firstDial,
    [⟨⟨turnedDial, ⟨"size", int, false, false, false⟩⟩, .constant (.int 1) (place 4), place 5⟩,
      ⟨⟨firstDial, ⟨"size", int, false, false, false⟩⟩, .constant (.int 2) (place 6), place 7⟩],
    [], []⟩

end Sample

theorem Resolution.sample_values_coincide :
    Sample.turnedDial.subject = Sample.firstDial.subject ∧
    Sample.turnedDial.type Sample.dials.typeOf = .ok (.object Sample.dial) ∧
    (∀ name ∈ ["size", "serial", "colour"],
      Sample.sizes.Coincide Sample.dials.typeOf Sample.turnedDial.subject (.object Sample.dial) name
        Sample.turnedDial Sample.firstDial) ∧
    ["size", "serial", "colour"].map (Sample.sizes.value Sample.dials.typeOf Sample.turnedDial) =
      [.ok (some (.constant (.int 2) (Sample.place 6))),
        .ok (some (.defaultValue Sample.turnedDial ⟨"serial", Sample.int, true, true, false⟩
          (Sample.place 3))), .ok none] := by
  have hsubject : Sample.turnedDial.subject = Sample.firstDial.subject := rfl
  have htype : Sample.turnedDial.type Sample.dials.typeOf = .ok (.object Sample.dial) := rfl
  exact ⟨hsubject, htype, fun name _ => values_coincide Sample.sizes hsubject htype name, rfl⟩

end ConfigScope
