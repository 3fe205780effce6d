import ConfigScope.Context.Lemmas

/-!
# Runs that end well

Each lemma reads the success of one operation on a context as what it went
through: the value it gave and the context it left behind. A bind succeeds
through the context between its two parts (`bind_ok`), and a scope is closed
only if it is the innermost one left (`withScope_ok`).

`Guarded` says what the check of a restricted member can do.
-/

namespace ConfigScope

theorem except_bind_ok {ε α β : Type} {x : Except ε α} {f : α → Except ε β} {b : β} :
    x >>= f = .ok b ↔ ∃ a, x = .ok a ∧ f a = .ok b := by
  cases x <;> simp [bind, Except.bind]

theorem except_pure_ok {ε α : Type} {a b : α} : (pure a : Except ε α) = .ok b ↔ b = a := by
  simp [pure, Except.pure, eq_comm]

theorem Scope.declare?_eq_some {scope next : Scope} {name : String} {value : Origin} :
    scope.declare? name value = some next ↔
      scope.local? name = none ∧ next = { scope with locals := (name, value) :: scope.locals } := by
  cases h : scope.local? name <;> simp [Scope.declare?, h, eq_comm]

namespace Context

variable {ρ : Type}

def reporting (c : Context ρ) (issue : Issue) : Context ρ :=
  { c with issues := c.issues.push issue }

def counting (c : Context ρ) : Context ρ :=
  { c with nextId := c.nextId + 1 }

def within (c : Context ρ) (scopes : List Scope) : Context ρ :=
  { c with scopes := scopes }

section
variable (c : Context ρ)

@[simp] theorem scopes_reporting (issue : Issue) : (c.reporting issue).scopes = c.scopes := rfl
@[simp] theorem nextId_reporting (issue : Issue) : (c.reporting issue).nextId = c.nextId := rfl
@[simp] theorem record_reporting (issue : Issue) : (c.reporting issue).record = c.record := rfl
@[simp] theorem issues_reporting (issue : Issue) :
    (c.reporting issue).issues = c.issues.push issue := rfl

@[simp] theorem scopes_counting : c.counting.scopes = c.scopes := rfl
@[simp] theorem nextId_counting : c.counting.nextId = c.nextId + 1 := rfl
@[simp] theorem record_counting : c.counting.record = c.record := rfl
@[simp] theorem issues_counting : c.counting.issues = c.issues := rfl

@[simp] theorem scopes_within (scopes : List Scope) : (c.within scopes).scopes = scopes := rfl
@[simp] theorem nextId_within (scopes : List Scope) : (c.within scopes).nextId = c.nextId := rfl
@[simp] theorem record_within (scopes : List Scope) : (c.within scopes).record = c.record := rfl
@[simp] theorem issues_within (scopes : List Scope) : (c.within scopes).issues = c.issues := rfl

end

end Context

namespace Analysis

variable {ρ α β : Type} {c c' : Context ρ}

/-! ## The monad -/

theorem bind_ok {x : Analysis ρ α} {f : α → Analysis ρ β} {b : β} :
    (x >>= f).run c = (.ok b, c') ↔
      ∃ a middle, x.run c = (.ok a, middle) ∧ (f a).run middle = (.ok b, c') := by
  rw [run_bind]
  rcases hx : x.run c with ⟨fault | a, middle⟩
  · simp
  · constructor
    · intro h
      exact ⟨a, middle, rfl, h⟩
    · rintro ⟨_, _, h, hf⟩
      cases h
      exact hf

theorem pure_ok {a b : α} : (pure a : Analysis ρ α).run c = (.ok b, c') ↔ b = a ∧ c' = c := by
  simp [eq_comm]

theorem follow_ok {x : Except Fault α} {a : α} :
    (follow x : Analysis ρ α).run c = (.ok a, c') ↔ x = .ok a ∧ c' = c := by
  simp [eq_comm]

theorem get_ok {a : Context ρ} :
    (get : Analysis ρ (Context ρ)).run c = (.ok a, c') ↔ a = c ∧ c' = c := by
  simp [eq_comm]

theorem modify_ok {f : Context ρ → Context ρ} {u : PUnit} :
    (modify f : Analysis ρ PUnit).run c = (.ok u, c') ↔ c' = f c := by
  simp [eq_comm]

theorem discard_ok {x : Analysis ρ α} {u : PUnit} :
    (discard x).run c = (.ok u, c') ↔ ∃ a, x.run c = (.ok a, c') := by
  rw [run_discard]
  rcases x.run c with ⟨fault | a, middle⟩ <;> simp [Except.map]

/-! ## Operations on a context -/

theorem report_ok {issue : Issue} {u : Unit} :
    (report issue).run c = (.ok u, c') ↔ c' = c.reporting issue := by
  simp [Context.reporting, eq_comm]

theorem freshId_ok {id : Nat} :
    freshId.run c = (.ok id, c') ↔ id = c.nextId ∧ c' = c.counting := by
  simp [Context.counting, eq_comm]

theorem currentReceiver_ok {origin : Origin} :
    currentReceiver.run c = (.ok origin, c') ↔
      (∃ scope outer, c.scopes = scope :: outer ∧ origin = scope.receiver) ∧ c' = c := by
  rw [run_currentReceiver]
  rcases c.scopes with _ | ⟨scope, outer⟩ <;> simp [eq_comm]

theorem declare_ok {name : String} {value : Origin} {free : Bool} :
    (declare name value).run c = (.ok free, c') ↔
      ∃ scope outer, c.scopes = scope :: outer ∧
        ((∃ next, scope.declare? name value = some next ∧ free = true ∧
            c' = c.within (next :: outer)) ∨
          scope.declare? name value = none ∧ free = false ∧ c' = c) := by
  rw [run_declare]
  -- without a scope both sides are false, and otherwise the name decides
  rcases c.scopes with _ | ⟨scope, outer⟩
  · simp
  · simp only [List.cons.injEq]
    cases hd : scope.declare? name value with
    | none =>
      constructor
      · rintro ⟨⟩
        exact ⟨scope, outer, ⟨rfl, rfl⟩, .inr ⟨hd, rfl, rfl⟩⟩
      · rintro ⟨_, _, ⟨rfl, rfl⟩, ⟨next, hn, -, -⟩ | ⟨-, rfl, rfl⟩⟩
        · simp [hd] at hn
        · rfl
    | some next =>
      constructor
      · rintro ⟨⟩
        exact ⟨scope, outer, ⟨rfl, rfl⟩, .inl ⟨next, hd, rfl, rfl⟩⟩
      · rintro ⟨_, _, ⟨rfl, rfl⟩, ⟨_, hn, rfl, rfl⟩ | ⟨hn, -, -⟩⟩
        · rw [hd] at hn
          cases hn
          rfl
        · simp [hd] at hn

/-- A body leaves a scope well if the scopes below its innermost one are as many as before. -/
theorem withScope_ok {scope : Scope} {body : Analysis ρ α} {a : α} :
    (withScope scope body).run c = (.ok a, c') ↔
      ∃ middle inner outer, body.run (c.within (scope :: c.scopes)) = (.ok a, middle) ∧
        middle.scopes = inner :: outer ∧ outer.length = c.depth ∧ c' = middle.within outer := by
  rw [run_withScope, ← Context.within]
  rcases body.run (c.within (scope :: c.scopes)) with ⟨fault | b, middle⟩
  · simp
  · rcases hm : middle.scopes with _ | ⟨inner, outer⟩
    · simp [run_leaveScope, Except.map, hm]
    -- the id of the scope is the depth before it, so leaving compares that with the depth below
    · by_cases hd : c.depth = outer.length
      · simp only [run_leaveScope, hm, hd, ↓reduceIte]
        constructor
        · rintro ⟨⟩
          exact ⟨middle, inner, outer, rfl, hm, rfl, rfl⟩
        · rintro ⟨_, _, _, ⟨⟩, hm', -, rfl⟩
          rw [hm] at hm'
          cases hm'
          rfl
      · constructor
        · intro h
          simp [run_leaveScope, hd, hm, Except.map] at h
        · rintro ⟨_, _, _, ⟨⟩, hm', hlength, -⟩
          rw [hm] at hm'
          cases hm'
          exact absurd hlength.symm hd

end Analysis

/-- The check of a member that may be restricted, as it was found on some receiver. Only the last
case leaves a trace. -/
inductive Guarded {ρ : Type} (restricted : Bool) (receiver : Origin) (site : Span)
    (c : Context ρ) : Context ρ → Prop
  | free : restricted = false → Guarded restricted receiver site c c
  | current {scope outer} : restricted = true → c.scopes = scope :: outer →
      scope.receiver = receiver → Guarded restricted receiver site c c
  | violation {scope outer} : restricted = true → c.scopes = scope :: outer →
      scope.receiver ≠ receiver →
      Guarded restricted receiver site c (c.reporting ⟨site, .notCurrentReceiver⟩)

theorem Guarded.nextId {ρ : Type} {restricted : Bool} {receiver : Origin} {site : Span}
    {c c' : Context ρ} (h : Guarded restricted receiver site c c') : c'.nextId = c.nextId := by
  cases h <;> rfl

theorem checkCurrent_ok {ρ : Type} {c c' : Context ρ} {receiver : Origin} {site : Span} {u : Unit} :
    (Analysis.checkCurrent receiver site).run c = (.ok u, c') ↔
      Guarded true receiver site c c' := by
  rw [Analysis.run_checkCurrent]
  constructor
  · intro h
    split at h
    · next scope outer hs =>
      split at h
      · next heq => cases h; exact .current rfl hs heq
      · next hne => cases h; exact .violation rfl hs hne
    · cases h
  · rintro (h | ⟨-, hs, heq⟩ | ⟨-, hs, hne⟩)
    · cases h
    · simp [hs, heq]
    · simp [hs, hne, Context.reporting]

theorem guarded_false {ρ : Type} {c c' : Context ρ} {receiver : Origin} {site : Span} :
    Guarded false receiver site c c' ↔ c' = c := by
  constructor
  · rintro (- | ⟨h, -⟩ | ⟨h, -⟩)
    · rfl
    · cases h
    · cases h
  · rintro rfl
    exact .free rfl

theorem guard_bind_ok {ρ α : Type} {c c' : Context ρ} {restricted : Bool} {receiver : Origin}
    {site : Span} {next : Unit → Analysis ρ α} {a : α} :
    (if restricted = true then Analysis.checkCurrent receiver site >>= next else next ()).run c =
        (.ok a, c') ↔
      ∃ middle, Guarded restricted receiver site c middle ∧ (next ()).run middle = (.ok a, c') := by
  cases restricted with
  | false => simp [guarded_false]
  | true =>
    simp only [↓reduceIte, Analysis.bind_ok, checkCurrent_ok]
    exact ⟨fun ⟨_, middle, h⟩ => ⟨middle, h⟩, fun ⟨middle, h⟩ => ⟨(), middle, h⟩⟩

end ConfigScope
