import ConfigScope.Proofs.Run

/-!
# How a scope is closed

A scope that is opened for a body is closed when the body ends, well or in a fault. A scope is
known by its place alone, so closing it goes wrong exactly if the body left more or fewer scopes
open than it found.

Bodies are arbitrary programs over the operations of a context (`Body`). One that leaves the
opening and closing of scopes to `within` always ends in the scopes it started in, wherever inside
of it a fault arises and wherever it is caught, and nothing that was reported or counted before
the fault is lost (`withScope_discipline`).
-/

namespace ConfigScope

/-- A program made of the operations of a context. What comes next may depend on what came before.
-/
inductive Body (ρ : Type) : Type → Type 1
  | pure {α : Type} (a : α) : Body ρ α
  | bind {α β : Type} (first : Body ρ α) (rest : α → Body ρ β) : Body ρ β
  /-- Asks the context something, which may be a fault to ask. -/
  | query {α : Type} (answer : Context ρ → Except Fault α) : Body ρ α
  | declare (name : String) (value : Origin) : Body ρ Bool
  | report (issue : Issue) : Body ρ Unit
  | freshId : Body ρ Nat
  /-- Changes what the analysis keeps for itself. -/
  | note (change : ρ → ρ) : Body ρ Unit
  | enter (scope : Scope) : Body ρ ScopeId
  | leave (id : ScopeId) : Body ρ Scope
  | within {α : Type} (scope : Scope) (body : Body ρ α) : Body ρ α
  | fail {α : Type} (fault : Fault) : Body ρ α
  | attempt {α : Type} (body : Body ρ α) : Body ρ (Except Fault α)

namespace Body

/-- Something that a body leaves behind in a context: an issue, or an id that was given out. -/
inductive Event where
  | reported (issue : Issue)
  | counted (id : Nat)

namespace Event

def issue? : Event → Option Issue
  | reported issue => some issue
  | counted _ => none

def id? : Event → Option Nat
  | reported _ => none
  | counted id => some id

end Event

variable {ρ α : Type}

def perform : {α : Type} → Body ρ α → Analysis ρ α
  | _, .pure a => Pure.pure a
  | _, .bind first rest => first.perform >>= fun a => (rest a).perform
  | _, .query answer => do Analysis.follow (answer (← get))
  | _, .declare name value => Analysis.declare name value
  | _, .report issue => Analysis.report issue
  | _, .freshId => Analysis.freshId
  | _, .note change => modify fun c => { c with record := change c.record }
  | _, .enter scope => Analysis.enterScope scope
  | _, .leave id => Analysis.leaveScope id
  | _, .within scope body => Analysis.withScope scope body.perform
  | _, .fail fault => throw fault
  | _, .attempt body => Analysis.attempt body.perform

/-- Scopes are only opened by `within`, which closes them as well. -/
def Nested : {α : Type} → Body ρ α → Prop
  | _, .bind first rest => first.Nested ∧ ∀ a, (rest a).Nested
  | _, .within _ body => body.Nested
  | _, .attempt body => body.Nested
  | _, .enter _ | _, .leave _ => False
  | _, .pure _ | _, .query _ | _, .declare _ _ | _, .report _ | _, .freshId | _, .note _
  | _, .fail _ => True

/-- What happens when a body is performed, in its order, up to the fault that ends it if one does.
-/
def events : {α : Type} → Body ρ α → Context ρ → List Event
  | _, .report issue, _ => [.reported issue]
  | _, .freshId, c => [.counted c.nextId]
  | _, .bind first rest, c =>
    first.events c ++
      match first.perform.run c with
      | (.ok a, next) => (rest a).events next
      | (.error _, _) => []
  | _, .within scope body, c => body.events (c.within (scope :: c.scopes))
  | _, .attempt body, c => body.events c
  | _, .pure _, _ | _, .query _, _ | _, .declare _ _, _ | _, .note _, _ | _, .enter _, _
  | _, .leave _, _ | _, .fail _, _ => []

end Body

/-- The second context holds, after what the first one holds, what the events say. Ids are given
out one after another. -/
structure Context.After {ρ : Type} (c : Context ρ) (events : List Body.Event) (c' : Context ρ) :
    Prop where
  issues : c'.issues.toList = c.issues.toList ++ events.filterMap Body.Event.issue?
  ids : events.filterMap Body.Event.id? =
    List.range' c.nextId (events.filterMap Body.Event.id?).length
  nextId : c'.nextId = c.nextId + (events.filterMap Body.Event.id?).length

/-- As many scopes are open in the second context, and below the innermost one they are the same. -/
structure Context.Balanced {ρ : Type} (c c' : Context ρ) : Prop where
  depth : c'.depth = c.depth
  outer : c'.scopes.tail = c.scopes.tail

namespace Context

variable {ρ : Type} {c c₁ c₂ : Context ρ} {events more : List Body.Event}

theorem after_nil (hissues : c₁.issues = c.issues) (hid : c₁.nextId = c.nextId) : c.After [] c₁ :=
  ⟨by simp [hissues], rfl, hid⟩

theorem After.trans (h₁ : c.After events c₁) (h₂ : c₁.After more c₂) :
    c.After (events ++ more) c₂ := by
  refine ⟨?_, ?_, ?_⟩
  · rw [h₂.issues, h₁.issues, List.filterMap_append, List.append_assoc]
  -- the ids of the second part start where those of the first end
  · have hids : more.filterMap Body.Event.id? =
        List.range' (c.nextId + (events.filterMap Body.Event.id?).length)
          (more.filterMap Body.Event.id?).length :=
      h₁.nextId ▸ h₂.ids
    rw [List.filterMap_append, List.length_append, ← List.range'_append_1, ← h₁.ids, ← hids]
  · rw [h₂.nextId, h₁.nextId, List.filterMap_append, List.length_append, Nat.add_assoc]

theorem After.within (h : c.After events c₁) (scopes scopes' : List Scope) :
    (c.within scopes).After events (c₁.within scopes') :=
  ⟨h.issues, h.ids, h.nextId⟩

theorem after_reporting (c : Context ρ) (issue : Issue) :
    c.After [.reported issue] (c.reporting issue) :=
  ⟨by simp [Body.Event.issue?], rfl, rfl⟩

theorem after_counting (c : Context ρ) : c.After [.counted c.nextId] c.counting :=
  ⟨by simp [Body.Event.issue?], rfl, rfl⟩

theorem Balanced.refl (c : Context ρ) : c.Balanced c :=
  ⟨rfl, rfl⟩

theorem Balanced.trans (h₁ : c.Balanced c₁) (h₂ : c₁.Balanced c₂) : c.Balanced c₂ :=
  ⟨h₂.depth.trans h₁.depth, h₂.outer.trans h₁.outer⟩

theorem balanced_of_scopes_eq (h : c₁.scopes = c.scopes) : c.Balanced c₁ :=
  ⟨congrArg List.length h, congrArg List.tail h⟩

end Context

/-! ## Leaving a scope -/

namespace Analysis

variable {ρ α : Type} {scope : Scope} {c next : Context ρ} {body : Analysis ρ α} {position : Nat}

theorem leaveScope_of_depth_eq (h : next.depth = position + 1) :
    ∃ inner, (leaveScope ⟨position⟩).run next = (.ok inner, next.within next.scopes.tail) := by
  rw [run_leaveScope]
  rcases hs : next.scopes with _ | ⟨inner, outer⟩
  · simp [Context.depth, hs] at h
  · have hposition : position = outer.length := by simpa [Context.depth, hs] using h.symm
    exact ⟨inner, by simp [hposition, Context.within]⟩

theorem leaveScope_of_depth_ne (h : next.depth ≠ position + 1) :
    (leaveScope ⟨position⟩).run next =
      (.error (.notInnermost (position + 1) next.depth), next) := by
  rw [run_leaveScope]
  rcases hs : next.scopes with _ | ⟨inner, outer⟩
  · rfl
  · have hposition : position ≠ outer.length := by
      rintro rfl
      simp [Context.depth, hs] at h
    simp [hposition]

theorem exists_within_leaveScope (id : ScopeId) (c : Context ρ) :
    ∃ scopes, ((leaveScope id).run c).2 = c.within scopes := by
  by_cases h : c.depth = id.position + 1
  · obtain ⟨_, hleft⟩ := leaveScope_of_depth_eq h
    exact ⟨_, congrArg Prod.snd hleft⟩
  · exact ⟨c.scopes, congrArg Prod.snd (leaveScope_of_depth_ne h)⟩

theorem withScope_of_depth_eq {result : Except Fault α}
    (hbody : body.run (c.within (scope :: c.scopes)) = (result, next))
    (h : next.depth = c.depth + 1) :
    (withScope scope body).run c = (result, next.within next.scopes.tail) := by
  obtain ⟨_, hleft⟩ := leaveScope_of_depth_eq h
  rw [run_withScope, ← Context.within, hbody]
  cases result with
  | ok a => simp [hleft, Except.map]
  | error fault => simp [hleft]

theorem withScope_of_depth_ne {a : α}
    (hbody : body.run (c.within (scope :: c.scopes)) = (.ok a, next))
    (h : next.depth ≠ c.depth + 1) :
    (withScope scope body).run c = (.error (.notInnermost (c.depth + 1) next.depth), next) := by
  rw [run_withScope, ← Context.within, hbody]
  simp [leaveScope_of_depth_ne h, Except.map]

theorem withScope_of_balanced {result : Except Fault α}
    (hbody : body.run (c.within (scope :: c.scopes)) = (result, next))
    (h : (c.within (scope :: c.scopes)).Balanced next) :
    (withScope scope body).run c = (result, next.within c.scopes) := by
  rw [withScope_of_depth_eq hbody (by simpa [Context.depth] using h.depth), h.outer]
  rfl

theorem exists_within_withScope (scope : Scope) (body : Analysis ρ α) (c : Context ρ) :
    ∃ scopes, ((withScope scope body).run c).2 =
      (body.run (c.within (scope :: c.scopes))).2.within scopes := by
  rw [run_withScope, ← Context.within]
  rcases body.run (c.within (scope :: c.scopes)) with ⟨fault | a, next⟩
  · exact exists_within_leaveScope _ next
  · exact exists_within_leaveScope _ next

theorem balanced_declare (name : String) (value : Origin) (c : Context ρ) :
    c.Balanced ((declare name value).run c).2 := by
  rw [run_declare]
  rcases hs : c.scopes with _ | ⟨scope, outer⟩
  · exact .refl c
  · cases hd : scope.declare? name value with
    | none => simp only [hd]; exact .refl c
    | some scope => exact ⟨by simp [hd, Context.depth, hs], by simp [hd, hs]⟩

theorem after_declare (name : String) (value : Origin) (c : Context ρ) :
    c.After [] ((declare name value).run c).2 := by
  rw [run_declare]
  split
  · split <;> exact Context.after_nil rfl rfl
  · exact Context.after_nil rfl rfl

end Analysis

/-! ## Bodies -/

namespace Body

variable {ρ α : Type}

theorem Nested.balanced {body : Body ρ α} (h : body.Nested) (c : Context ρ) :
    c.Balanced (body.perform.run c).2 := by
  induction body generalizing c with
  | pure | query | fail => exact .refl c
  | declare name value => exact Analysis.balanced_declare name value c
  | report | freshId | note => exact Context.balanced_of_scopes_eq rfl
  | enter | leave => exact h.elim
  | bind first rest ihFirst ihRest =>
    have hfirst := ihFirst h.1 c
    rw [perform, Analysis.run_bind]
    -- a fault ends the body here, and then the rest has no part in it
    rcases hrun : first.perform.run c with ⟨fault | a, next⟩
    · simpa only [hrun] using hfirst
    · rw [hrun] at hfirst
      exact hfirst.trans (ihRest a (h.2 a) next)
  -- the scope is on top again at the end of the body, and what is below it was not touched
  | within scope body ih =>
    have hinner := ih h (c.within (scope :: c.scopes))
    rcases hrun : body.perform.run (c.within (scope :: c.scopes)) with ⟨result, next⟩
    rw [hrun] at hinner
    rw [perform, Analysis.withScope_of_balanced hrun hinner]
    exact Context.balanced_of_scopes_eq rfl
  | attempt body ih => exact ih h c

theorem after_events (body : Body ρ α) (c : Context ρ) :
    c.After (body.events c) (body.perform.run c).2 := by
  induction body generalizing c with
  -- what a step does to the scopes or to the record is no event
  | pure | query | fail | note | enter => exact Context.after_nil rfl rfl
  | declare name value => exact Analysis.after_declare name value c
  | report issue => exact c.after_reporting issue
  | freshId => exact c.after_counting
  | leave id =>
    obtain ⟨scopes, hleft⟩ := Analysis.exists_within_leaveScope id c
    rw [perform, hleft]
    exact Context.after_nil rfl rfl
  | bind first rest ihFirst ihRest =>
    have hfirst := ihFirst c
    rw [perform, events, Analysis.run_bind]
    rcases hrun : first.perform.run c with ⟨fault | a, next⟩
    · simpa [hrun] using hfirst
    · rw [hrun] at hfirst
      exact hfirst.trans (ihRest a next)
  | within scope body ih =>
    obtain ⟨scopes, hleft⟩ := Analysis.exists_within_withScope scope body.perform c
    rw [perform, hleft]
    exact (ih (c.within (scope :: c.scopes))).within c.scopes scopes
  | attempt body ih => exact ih c

end Body

namespace Analysis

variable {ρ α : Type}

/-- Steps inside a scope that end well close it exactly if it is the only scope they leave open
on top of those before. Steps that open their own scopes by `within` always do, also where a fault
ends them: the scopes afterwards are those before, and all that was reported and counted on the way
is kept. -/
theorem withScope_discipline (scope : Scope) (c : Context ρ) :
    (∀ (steps : Analysis ρ α) a next, steps.run (c.within (scope :: c.scopes)) = (.ok a, next) →
      ((∃ b, ((withScope scope steps).run c).1 = .ok b) ↔ next.depth = c.depth + 1) ∧
      (next.depth = c.depth + 1 →
        (withScope scope steps).run c = (.ok a, next.within next.scopes.tail)) ∧
      (next.depth ≠ c.depth + 1 →
        (withScope scope steps).run c =
          (.error (.notInnermost (c.depth + 1) next.depth), next))) ∧
    ∀ (body : Body ρ α) result next, body.Nested →
      body.perform.run (c.within (scope :: c.scopes)) = (result, next) →
      (withScope scope body.perform).run c = (result, next.within c.scopes) ∧
      c.After (body.events (c.within (scope :: c.scopes))) (next.within c.scopes) := by
  refine ⟨fun steps a next hsteps => ⟨?_, withScope_of_depth_eq hsteps,
    withScope_of_depth_ne hsteps⟩, fun body result next hnested hbody => ⟨?_, ?_⟩⟩
  · by_cases h : next.depth = c.depth + 1
    · simp [withScope_of_depth_eq hsteps h, h]
    · simp [withScope_of_depth_ne hsteps h, h]
  · have hbalanced := hnested.balanced (c.within (scope :: c.scopes))
    rw [hbody] at hbalanced
    exact withScope_of_balanced hbody hbalanced
  · have hafter := body.after_events (c.within (scope :: c.scopes))
    rw [hbody] at hafter
    exact hafter.within c.scopes c.scopes

end Analysis

namespace Sample

def scope : Scope := .new (.null default)

def opened : Context Unit := ⟨[⟨.null default, [("a", .null default)]⟩], #[], 3, ()⟩

def unlucky : Body Unit Nat :=
  .bind (.attempt (.within scope
    (.bind (.report ⟨default, .duplicateLocal "a"⟩) fun _ =>
      .within scope (.bind (.declare "b" (.null default)) fun _ =>
        .bind .freshId fun _ => .fail (.raised "inside")))) : Body Unit (Except Fault Nat)) fun _ =>
  .bind (.declare "c" (.null default)) fun _ => .bind .freshId fun _ => .fail (.raised "outside")

def careful : Body Unit Nat :=
  .bind (.enter scope) fun id => .bind (.leave id) fun _ => .freshId

def careless : Body Unit Nat :=
  .bind (.enter scope) fun _ => .freshId

end Sample

theorem Analysis.sample_withScope_discipline :
    (∃ next, (withScope Sample.scope Sample.careful.perform).run Sample.opened =
      (.ok 3, next) ∧ next.scopes = Sample.opened.scopes) ∧
    (∃ next, (withScope Sample.scope Sample.careless.perform).run Sample.opened =
      (.error (.notInnermost 2 3), next) ∧ next.depth = 3) ∧
    Sample.unlucky.Nested ∧
    ∃ next : Context Unit, (withScope Sample.scope Sample.unlucky.perform).run Sample.opened =
        (.error (.raised "outside"), next.within Sample.opened.scopes) ∧
      Sample.opened.After [.reported ⟨default, .duplicateLocal "a"⟩, .counted 3, .counted 4]
        (next.within Sample.opened.scopes) := by
  obtain ⟨hsteps, hnested⟩ := withScope_discipline (α := Nat) Sample.scope Sample.opened
  have hunlucky : Sample.unlucky.Nested :=
    ⟨⟨trivial, fun _ => ⟨trivial, fun _ => ⟨trivial, fun _ => trivial⟩⟩⟩,
      fun _ => ⟨trivial, fun _ => ⟨trivial, fun _ => trivial⟩⟩⟩
  exact ⟨⟨_, (hsteps Sample.careful.perform _ _ rfl).2.1 rfl, rfl⟩,
    ⟨_, (hsteps Sample.careless.perform _ _ rfl).2.2 (by decide), rfl⟩,
    hunlucky, _, hnested Sample.unlucky _ _ hunlucky rfl⟩

end ConfigScope
