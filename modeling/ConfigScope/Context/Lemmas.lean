import ConfigScope.Context.Basic

/-!
# Running the steps of an analysis

What each operation on a context gives and what it leaves behind, one equation
for each. `run_withScope` says how a scope is closed: a body that ends well
passes its value on if it left exactly this scope on top of those that were
open before, and a fault of the body comes before one of leaving.
-/

namespace ConfigScope.Analysis

variable {ρ α β : Type}

@[simp] theorem run_get (c : Context ρ) : (get : Analysis ρ (Context ρ)).run c = (.ok c, c) := rfl

@[simp] theorem run_set (next c : Context ρ) :
    (set next : Analysis ρ PUnit).run c = (.ok ⟨⟩, next) := rfl

@[simp] theorem run_modify (f : Context ρ → Context ρ) (c : Context ρ) :
    (modify f : Analysis ρ PUnit).run c = (.ok ⟨⟩, f c) := rfl

@[simp] theorem run_modifyGet (f : Context ρ → α × Context ρ) (c : Context ρ) :
    (modifyGet f : Analysis ρ α).run c = (.ok (f c).1, (f c).2) := rfl

@[simp] theorem run_map (f : α → β) (x : Analysis ρ α) (c : Context ρ) :
    (f <$> x).run c = ((x.run c).1.map f, (x.run c).2) := by
  rw [map_eq_pure_bind, run_bind]
  rcases x.run c with ⟨_ | _, _⟩ <;> rfl

@[simp] theorem run_discard (x : Analysis ρ α) (c : Context ρ) :
    (discard x).run c = ((x.run c).1.map fun _ => ⟨⟩, (x.run c).2) :=
  run_map (fun _ => PUnit.unit) x c

/-! ## Scopes -/

@[simp] theorem run_enterScope (scope : Scope) (c : Context ρ) :
    (enterScope scope).run c = (.ok ⟨c.depth⟩, { c with scopes := scope :: c.scopes }) := rfl

/-- A scope can be left exactly if it is the innermost one, and failing to leave it changes
nothing. -/
theorem run_leaveScope (id : ScopeId) (c : Context ρ) :
    (leaveScope id).run c =
      match c.scopes with
      | scope :: outer =>
        if id.position = outer.length then (.ok scope, { c with scopes := outer })
        else (.error (.notInnermost (id.position + 1) c.depth), c)
      | [] => (.error (.notInnermost (id.position + 1) c.depth), c) := by
  rcases c with ⟨_ | ⟨scope, outer⟩, issues, nextId, record⟩
  · rfl
  · by_cases h : id.position = outer.length <;> simp [leaveScope, run_bind, h, Except.map]

theorem run_withScope (scope : Scope) (body : Analysis ρ α) (c : Context ρ) :
    (withScope scope body).run c =
      match body.run { c with scopes := scope :: c.scopes } with
      | (.ok a, next) => ((leaveScope ⟨c.depth⟩).run next).map (·.map fun _ => a) id
      | (.error fault, next) => (.error fault, ((leaveScope ⟨c.depth⟩).run next).2) := by
  simp only [withScope, run_bind, run_enterScope, run_attempt]
  rcases body.run { c with scopes := scope :: c.scopes } with ⟨_ | a, next⟩
  · simp [run_bind, Except.map]
  · rcases h : (leaveScope ⟨c.depth⟩).run next with ⟨_ | _, _⟩ <;> simp [h, Except.map]

theorem run_currentScope (c : Context ρ) :
    currentScope.run c =
      match c.scopes with
      | scope :: _ => (.ok scope, c)
      | [] => (.error .noOpenScope, c) := by
  rcases c with ⟨_ | _, _⟩ <;> rfl

theorem run_currentReceiver (c : Context ρ) :
    currentReceiver.run c =
      match c.scopes with
      | scope :: _ => (.ok scope.receiver, c)
      | [] => (.error .noOpenScope, c) := by
  rw [currentReceiver, run_bind, run_currentScope]
  cases c.scopes <;> rfl

theorem run_isCurrentReceiver (origin : Origin) (c : Context ρ) :
    (isCurrentReceiver origin).run c =
      match c.scopes with
      | scope :: _ => (.ok (decide (scope.receiver = origin)), c)
      | [] => (.error .noOpenScope, c) := by
  rw [isCurrentReceiver, run_bind, run_currentReceiver]
  cases c.scopes <;> rfl

theorem run_declare (name : String) (value : Origin) (c : Context ρ) :
    (declare name value).run c =
      match c.scopes with
      | scope :: outer =>
        match scope.declare? name value with
        | some scope => (.ok true, { c with scopes := scope :: outer })
        | none => (.ok false, c)
      | [] => (.error .noOpenScope, c) := by
  rcases c with ⟨_ | ⟨scope, outer⟩, _⟩
  · rfl
  · cases h : scope.declare? name value <;> simp [declare, run_bind, h, Except.map]

/-! ## Issues and ids -/

@[simp] theorem run_report (issue : Issue) (c : Context ρ) :
    (report issue).run c = (.ok (), { c with issues := c.issues.push issue }) := rfl

@[simp] theorem run_freshId (c : Context ρ) :
    freshId.run c = (.ok c.nextId, { c with nextId := c.nextId + 1 }) := rfl

theorem run_checkCurrent (receiver : Origin) (site : Span) (c : Context ρ) :
    (checkCurrent receiver site).run c =
      match c.scopes with
      | scope :: _ =>
        if scope.receiver = receiver then (.ok (), c)
        else (.ok (), { c with issues := c.issues.push ⟨site, .notCurrentReceiver⟩ })
      | [] => (.error .noOpenScope, c) := by
  rw [checkCurrent, run_bind, run_isCurrentReceiver]
  rcases c with ⟨_ | ⟨scope, _⟩, _⟩
  · rfl
  · by_cases h : scope.receiver = receiver <;> simp [h]

end ConfigScope.Analysis
