import ConfigScope.Proofs.Step

/-!
# Unqualified names are resolved by one walk

To read an unqualified name, the resolver looks for a value first and for a
property after that, each time from the innermost scope outward. Together the two
passes are one walk that asks each scope for a local value and for a property
of its receiver before it goes on to the next one (`unqualified_eq_walk`). The first
pass has to stop at a property although it gives nothing there; the second one then
gets to the same scope, since the scopes before it have no such property.

Assigning to an unqualified name is the same walk without values.
-/

namespace ConfigScope

inductive Meaning where
  | value (origin : Origin)
  | property (target : Target)
  | external (external : External)

namespace Meaning

def value? (span : Span) : Meaning → Option Origin
  | value origin => some origin
  | external object => some (.external object span)
  | property _ => none

def target? : Meaning → Option Target
  | property target => some target
  | value _ | external _ => none

end Meaning

namespace Schema

variable (schema : Schema) (locals : Scope → Option Origin) (external : Option External)
  (name : String)

def meaningIn (scope : Scope) : Except Fault (Option Meaning) :=
  match locals scope with
  -- a local value comes first, and the type of the receiver is not needed then
  | some value => return some (.value value)
  | none => do
    let type ← scope.receiver.type schema.typeOf
    return (type.property? name).map fun property => .property ⟨scope.receiver, property⟩

/-- What a name means where some scopes are open: what it means in the innermost one in which it
means anything, else an external object. -/
def walk : List Scope → Except Fault (Option Meaning)
  | [] => return external.map .external
  | scope :: outer => do
    match ← schema.meaningIn locals name scope with
    | some meaning => return some meaning
    | none => walk outer

variable {schema locals external name}

theorem meaningIn_of_local {scope : Scope} {value : Origin} (h : locals scope = some value) :
    schema.meaningIn locals name scope = .ok (some (.value value)) := by
  rw [meaningIn, h]
  rfl

theorem meaningIn_of_fault {scope : Scope} {fault : Fault} (h : locals scope = none)
    (htype : scope.receiver.type schema.typeOf = .error fault) :
    schema.meaningIn locals name scope = .error fault := by
  rw [meaningIn, h, htype]
  rfl

theorem meaningIn_of_type {scope : Scope} {type : Ty} (h : locals scope = none)
    (htype : scope.receiver.type schema.typeOf = .ok type) :
    schema.meaningIn locals name scope =
      .ok ((type.property? name).map fun property => .property ⟨scope.receiver, property⟩) := by
  rw [meaningIn, h, htype]
  rfl

theorem walk_cons {scope : Scope} {outer : List Scope} :
    schema.walk locals external name (scope :: outer) =
      match schema.meaningIn locals name scope with
      | .ok (some meaning) => .ok (some meaning)
      | .ok none => schema.walk locals external name outer
      | .error fault => .error fault := by
  rw [walk]
  rcases schema.meaningIn locals name scope with _ | _ | _ <;> rfl

theorem lookupValue_eq_walk (span : Span) (scopes : List Scope) :
    schema.lookupValue name span scopes =
      (schema.walk (·.local? name) (schema.external? name) name scopes).map
        (·.bind (Meaning.value? span)) := by
  induction scopes with
  | nil =>
    rw [lookupValue, walk]
    cases schema.external? name <;> rfl
  | cons scope outer ih =>
    rw [walk_cons, lookupValue]
    cases hlocal : scope.local? name with
    | some value =>
      rw [meaningIn_of_local hlocal]
      rfl
    | none =>
      cases htype : scope.receiver.type schema.typeOf with
      | error fault =>
        rw [meaningIn_of_fault hlocal htype]
        rfl
      | ok type =>
        rw [meaningIn_of_type hlocal htype]
        simp only [bind, Except.bind]
        cases type.property? name with
        | some property => rfl
        | none => exact ih

theorem lookupProperty_eq_walk (scopes : List Scope) :
    schema.lookupProperty name scopes =
      (schema.walk (fun _ => none) none name scopes).map (·.bind Meaning.target?) := by
  induction scopes with
  | nil => rfl
  | cons scope outer ih =>
    rw [walk_cons, lookupProperty]
    cases htype : scope.receiver.type schema.typeOf with
    | error fault =>
      rw [meaningIn_of_fault rfl htype]
      rfl
    | ok type =>
      rw [meaningIn_of_type rfl htype]
      simp only [bind, Except.bind]
      cases type.property? name with
      | some property => rfl
      | none => exact ih

theorem walk_without_values (span : Span) {scopes : List Scope} {meaning : Option Meaning}
    (h : schema.walk locals external name scopes = .ok meaning)
    (hvalue : meaning.bind (Meaning.value? span) = none) :
    schema.walk (fun _ => none) none name scopes = .ok meaning := by
  induction scopes with
  | nil =>
    cases h
    cases external with
    | none => rfl
    | some object => cases hvalue
  | cons scope outer ih =>
    rw [walk_cons] at h ⊢
    cases hlocal : locals scope with
    -- a walk that comes to no value has passed none
    | some value =>
      rw [meaningIn_of_local hlocal] at h
      cases h
      cases hvalue
    | none =>
      cases htype : scope.receiver.type schema.typeOf with
      | error fault =>
        rw [meaningIn_of_fault hlocal htype] at h
        cases h
      | ok type =>
        rw [meaningIn_of_type hlocal htype] at h
        rw [meaningIn_of_type rfl htype]
        cases hproperty : type.property? name with
        | some property =>
          rw [hproperty] at h
          exact h
        | none =>
          rw [hproperty] at h
          exact ih h

end Schema

namespace Context

/-- The context after a property was reached: asking for a restricted one of anything but the
innermost receiver is reported. -/
def guarding (c : Context Findings) (target : Target) (span : Span) : Context Findings :=
  if target.property.currentOnly = true ∧
      c.scopes.head?.map (·.receiver) ≠ some target.receiver then
    c.reporting ⟨span, .notCurrentReceiver⟩
  else c

def reading (c : Context Findings) (name : String) (span : Span) :
    Except Fault (Option Meaning) → Except Fault (Option Origin) × Context Findings
  | .ok (some (.value origin)) => (.ok (some origin), c)
  | .ok (some (.property target)) => (.ok (some (target.read span)), c.guarding target span)
  | .ok (some (.external object)) => (.ok (some (.external object span)), c)
  | .ok none => (.ok none, c.reporting ⟨span, .unresolvedName name⟩)
  | .error fault => (.error fault, c)

def targeting (c : Context Findings) (name : String) (span : Span) :
    Except Fault (Option Meaning) → Except Fault (Option Target) × Context Findings
  | .ok (some (.property target)) => (.ok (some target), c.guarding target span)
  | .ok _ => (.ok none, c.reporting ⟨span, .unresolvedName name⟩)
  | .error fault => (.error fault, c)

end Context

namespace Resolver

open Analysis

variable {schema : Schema} {c : Context Findings} {name : String} {span : Span}

theorem run_checkTarget_some {target : Target} (hopen : c.scopes ≠ []) :
    (checkTarget name span (some target)).run c = (.ok (some target), c.guarding target span) := by
  obtain ⟨scope, outer, hscopes⟩ := List.exists_cons_of_ne_nil hopen
  simp only [checkTarget, Context.guarding, hscopes]
  cases hrestricted : target.property.currentOnly with
  | false => rfl
  | true =>
    by_cases hcurrent : scope.receiver = target.receiver
    · simp [run_checkCurrent, hscopes, hcurrent, Except.map]
    · simp [run_checkCurrent, hscopes, hcurrent, Except.map, Context.reporting]

theorem run_implicitTarget :
    (implicitTarget schema name span).run c =
      c.targeting name span (schema.walk (fun _ => none) none name c.scopes) := by
  simp only [implicitTarget, run_bind, run_get, run_follow, Schema.lookupProperty_eq_walk]
  cases hwalk : schema.walk (fun _ => none) none name c.scopes with
  | error fault => rfl
  | ok meaning =>
    match meaning with
    | none | some (.value _) | some (.external _) => rfl
    | some (.property target) =>
      refine run_checkTarget_some fun hscopes => ?_
      rw [hscopes] at hwalk
      cases hwalk

theorem run_resolveTarget_read {access : Access} {meaning : Option Meaning}
    (htarget : (resolveTarget schema access).run c = c.targeting name span (.ok meaning))
    (hvalue : meaning.bind (Meaning.value? span) = none) :
    (do return (← resolveTarget schema access).map (·.read span) : Resolver (Option Origin)).run c =
      c.reading name span (.ok meaning) := by
  rw [run_bind, htarget]
  match meaning with
  | none | some (.property _) => rfl
  | some (.value _) | some (.external _) => cases hvalue

/-- Reading an unqualified name is one walk from the innermost scope outward. In each scope a local
value comes first and then a property of the receiver, and external objects come last; a name that
means nothing is reported once. Assigning to the name is the same walk without local values and
external objects. Both end in a fault if the walk gets to a receiver that has no type. -/
theorem unqualified_eq_walk (schema : Schema) (c : Context Findings) (name : String) (span : Span) :
    (resolveExpr schema (.access ⟨none, name, span⟩)).run c =
      c.reading name span
        (schema.walk (·.local? name) (schema.external? name) name c.scopes) ∧
    (resolveTarget schema ⟨none, name, span⟩).run c =
      c.targeting name span (schema.walk (fun _ => none) none name c.scopes) := by
  have htarget : (resolveTarget schema ⟨none, name, span⟩).run c =
      c.targeting name span (schema.walk (fun _ => none) none name c.scopes) := by
    rw [resolveTarget, run_implicitTarget]
  refine ⟨?_, htarget⟩
  simp only [resolveExpr, implicitValue, run_bind, run_get, run_follow, Schema.lookupValue_eq_walk]
  cases hwalk : schema.walk (·.local? name) (schema.external? name) name c.scopes with
  | error fault => rfl
  | ok meaning =>
    cases hvalue : meaning.bind (Meaning.value? span) with
    | some origin =>
      rcases meaning with _ | value | target | object
      · cases hvalue
      · rfl
      · cases hvalue
      · rfl
    | none =>
      -- the first pass gives nothing, and the second one takes the same walk
      rw [Schema.walk_without_values span hwalk hvalue] at htarget
      simp only [Except.map, hvalue]
      exact run_resolveTarget_read htarget hvalue

end Resolver

end ConfigScope
