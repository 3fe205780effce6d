import ConfigScope.Proofs.Walk
import Mathlib.Logic.Relation

/-!
# What a walk leaves alone

A walk only adds: what was found before stays a prefix of what is found after,
and ids are never taken back (`Context.Extends`). Scopes are closed in the order
in which they were opened, so a walk ends in the scopes it started in. Only
statements leave a trace in them, and only in the innermost one: the values that
they declare (`Walk.frame`), under names that were free (`Scope.Grows`).
-/

namespace ConfigScope

/-- The second context holds all that the first one has found, and more. -/
structure Context.Extends (c c' : Context Findings) : Prop where
  issues : c.issues.toList <+: c'.issues.toList
  assignments : c.record.assignments.toList <+: c'.record.assignments.toList
  additions : c.record.additions.toList <+: c'.record.additions.toList
  nextId : c.nextId ≤ c'.nextId

def Context.Frame (c c' : Context Findings) : Prop :=
  c'.scopes = c.scopes ∧ c.Extends c'

/-- The second context has more issues than the first one, and nothing else is new. -/
structure Context.Noted (c c' : Context Findings) : Prop where
  issues : c.issues.toList <+: c'.issues.toList
  scopes : c'.scopes = c.scopes
  nextId : c'.nextId = c.nextId
  record : c'.record = c.record

/-- The second scope is the first one, and some names may have been bound that were free. -/
structure Scope.Grows (scope next : Scope) : Prop where
  receiver : next.receiver = scope.receiver
  local? : ∀ ⦃name value⦄, scope.local? name = some value → next.local? name = some value

/-- A value was declared in the innermost scope. -/
inductive DeclaredInnermost : List Scope → List Scope → Prop
  | intro {scope next outer name value span} :
      scope.declare? name (.binding name value span) = some next →
      DeclaredInnermost (scope :: outer) (next :: outer)

namespace Context

variable {c c₁ c₂ c' : Context Findings}

theorem Extends.refl (c : Context Findings) : c.Extends c :=
  ⟨List.prefix_rfl, List.prefix_rfl, List.prefix_rfl, Nat.le_refl _⟩

theorem Extends.trans (h₁ : c.Extends c₁) (h₂ : c₁.Extends c₂) : c.Extends c₂ :=
  ⟨h₁.issues.trans h₂.issues, h₁.assignments.trans h₂.assignments,
    h₁.additions.trans h₂.additions, Nat.le_trans h₁.nextId h₂.nextId⟩

theorem Frame.refl (c : Context Findings) : c.Frame c :=
  ⟨rfl, .refl c⟩

theorem Frame.trans (h₁ : c.Frame c₁) (h₂ : c₁.Frame c₂) : c.Frame c₂ :=
  ⟨h₂.1.trans h₁.1, h₁.2.trans h₂.2⟩

theorem Noted.refl (c : Context Findings) : c.Noted c :=
  ⟨List.prefix_rfl, rfl, rfl, rfl⟩

theorem Noted.trans (h₁ : c.Noted c₁) (h₂ : c₁.Noted c₂) : c.Noted c₂ :=
  ⟨h₁.issues.trans h₂.issues, h₂.scopes.trans h₁.scopes, h₂.nextId.trans h₁.nextId,
    h₂.record.trans h₁.record⟩

theorem Noted.frame (h : c.Noted c') : c.Frame c' :=
  ⟨h.scopes, h.issues, h.record ▸ List.prefix_rfl, h.record ▸ List.prefix_rfl,
    Nat.le_of_eq h.nextId.symm⟩

theorem noted_reporting (c : Context Findings) (issue : Issue) : c.Noted (c.reporting issue) :=
  ⟨by simp, rfl, rfl, rfl⟩

theorem frame_counting (c : Context Findings) : c.Frame c.counting :=
  ⟨rfl, List.prefix_rfl, List.prefix_rfl, List.prefix_rfl, Nat.le_succ _⟩

theorem frame_accepting (c : Context Findings) (assignment : Assignment) :
    c.Frame (c.accepting assignment) :=
  ⟨rfl, List.prefix_rfl, by simp, List.prefix_rfl, Nat.le_refl _⟩

theorem frame_adding (c : Context Findings) (container object : Origin) :
    c.Frame (c.adding container object) :=
  ⟨rfl, List.prefix_rfl, List.prefix_rfl, by simp, Nat.le_refl _⟩

theorem Extends.within (h : c.Extends c') (scopes scopes' : List Scope) :
    (c.within scopes).Extends (c'.within scopes') :=
  ⟨h.issues, h.assignments, h.additions, h.nextId⟩

end Context

namespace Scope

variable {scope next last : Scope}

theorem Grows.refl (scope : Scope) : scope.Grows scope :=
  ⟨rfl, fun _ _ h => h⟩

theorem Grows.trans (h : scope.Grows next) (h' : next.Grows last) : scope.Grows last :=
  ⟨h'.receiver.trans h.receiver, fun _ _ hlocal => h'.local? (h.local? hlocal)⟩

theorem grows_of_declare? {name : String} {value : Origin}
    (h : scope.declare? name value = some next) : scope.Grows next := by
  obtain ⟨hfree, rfl⟩ := declare?_eq_some.mp h
  refine ⟨rfl, fun other bound hlocal => ?_⟩
  -- a name that is bound is not declared again, so the new binding hides none
  have hne : (other == name) = false := by
    rw [beq_eq_false_iff_ne]
    rintro rfl
    rw [hfree] at hlocal
    cases hlocal
  simpa [local?, List.lookup_cons, hne] using hlocal

end Scope

/-! ## Steps -/

section
variable {c c' : Context Findings} {receiver : Origin} {site span : Span} {name : String}

theorem Guarded.noted {restricted : Bool} (h : Guarded restricted receiver site c c') :
    c.Noted c' := by
  cases h with
  | free => exact .refl c
  | current => exact .refl c
  | violation => exact c.noted_reporting _

namespace Resolver

variable {schema : Schema} {arguments : List (Option Origin)} {block : Option Span}

theorem TargetChecked.noted {found : Option Target} (h : TargetChecked name span c found c') :
    c.Noted c' := by
  cases h with
  | missing => exact c.noted_reporting _
  | found hg => exact hg.noted

theorem MemberTarget.noted {found : Option Target}
    (h : MemberTarget schema receiver site name span c found c') : c.Noted c' := by
  cases h with
  | notAnObject => exact c.noted_reporting _
  | member _ ht => exact ht.noted

theorem CalleeChecked.noted {callee : Option Callee}
    (h : CalleeChecked name arguments span c callee c') : c.Noted c' := by
  cases h with
  | found => exact .refl c
  | excused => exact .refl c
  | missing => exact c.noted_reporting _

theorem CalleeFound.noted {on : On} {callee : Option Callee}
    (h : CalleeFound schema name arguments span c on callee c') : c.Noted c' := by
  cases h with
  | unresolved => exact .refl c
  | unqualified _ _ hc => exact hc.noted
  | notAnObject => exact c.noted_reporting _
  | member _ _ _ hc => exact hc.noted

theorem BlockChecked.noted {semantics : Semantics} {opens : Bool}
    (h : BlockChecked name semantics span c block opens c') : c.Noted c' := by
  cases h with
  | missing => exact c.noted_reporting _
  | unexpected => exact c.noted_reporting _
  | opens => exact .refl c
  | absent => exact .refl c

/-- Besides issues, a call takes an id and may add an object. -/
theorem Invoked.noted {callee : Callee} {outcome : Outcome}
    (h : Invoked name arguments block span c callee outcome c') :
    ∃ checked, c.Noted checked ∧ (c' = checked.counting ∨
      ∃ receiver function, callee = .member receiver function ∧ complete arguments = true ∧
        c' = checked.counting.adding receiver
          (.memberCall receiver function (given arguments) c.nextId span)) := by
  cases h with
  | configure _ hg hb => exact ⟨_, hg.noted.trans hb.noted, .inl rfl⟩
  | add _ hall hg hb => exact ⟨_, hg.noted.trans hb.noted, .inr ⟨_, _, rfl, hall, rfl⟩⟩
  | incomplete _ _ hg hb => exact ⟨_, hg.noted.trans hb.noted, .inl rfl⟩
  | builder _ hg hb => exact ⟨_, hg.noted.trans hb.noted, .inl rfl⟩
  | pure _ hg hb => exact ⟨_, hg.noted.trans hb.noted, .inl rfl⟩
  | topLevel hb => exact ⟨_, hb.noted, .inl rfl⟩

theorem Invoked.frame {callee : Callee} {outcome : Outcome}
    (h : Invoked name arguments block span c callee outcome c') : c.Frame c' := by
  obtain ⟨checked, hn, rfl | ⟨receiver, function, -, -, rfl⟩⟩ := h.noted
  · exact hn.frame.trans checked.frame_counting
  · exact (hn.frame.trans checked.frame_counting).trans (Context.frame_adding _ _ _)

theorem Invoked.nextId {callee : Callee} {outcome : Outcome}
    (h : Invoked name arguments block span c callee outcome c') : c'.nextId = c.nextId + 1 := by
  obtain ⟨checked, hn, rfl | ⟨receiver, function, -, -, rfl⟩⟩ := h.noted
  · simp [hn.nextId]
  · simp [hn.nextId]

theorem Invoked.assignments {callee : Callee} {outcome : Outcome}
    (h : Invoked name arguments block span c callee outcome c') :
    c'.record.assignments = c.record.assignments := by
  obtain ⟨checked, hn, rfl | ⟨receiver, function, -, -, rfl⟩⟩ := h.noted
  · simp [hn.record]
  · simp [hn.record]

theorem LocalBound.record {value : Origin} (h : LocalBound name value span c c') :
    c'.record = c.record := by
  cases h with
  | declared => rfl
  | duplicate => rfl

theorem Assigned.frame {target : Target} {targetSpan valueSpan : Span} {value : Origin}
    (h : Assigned schema target targetSpan value valueSpan span c c') : c.Frame c' := by
  cases h with
  | readOnly => exact (c.noted_reporting _).frame
  | accepted => exact c.frame_accepting _
  | mismatch => exact (c.noted_reporting _).frame

/-! ## Walks -/

/-- The scopes in which a task ends. -/
def Task.Keeps : Task → List Scope → List Scope → Prop
  | .statement _ | .statements _ | .block _ => Relation.ReflTransGen DeclaredInnermost
  | _ => fun before after => after = before

theorem LocalBound.frame {value : Origin} (h : LocalBound name value span c c') :
    Relation.ReflTransGen DeclaredInnermost c.scopes c'.scopes ∧ c.Extends c' := by
  cases h with
  | declared hs hd =>
    rw [hs]
    exact ⟨.single (.intro hd), (Context.Extends.refl c).within c.scopes _⟩
  | duplicate => exact ⟨.refl, (c.noted_reporting _).frame.2⟩

theorem exists_grown_of_declared {scope : Scope} {outer after : List Scope}
    (h : Relation.ReflTransGen DeclaredInnermost (scope :: outer) after) :
    ∃ inner, after = inner :: outer ∧ scope.Grows inner := by
  induction h with
  | refl => exact ⟨scope, rfl, .refl scope⟩
  | tail _ hd ih =>
    obtain ⟨inner, rfl, hgrows⟩ := ih
    cases hd with
    | @intro _ next _ _ _ _ hdeclare =>
      exact ⟨next, rfl, hgrows.trans (Scope.grows_of_declare? hdeclare)⟩

theorem exists_inner_of_declared {scope : Scope} {outer after : List Scope}
    (h : Relation.ReflTransGen DeclaredInnermost (scope :: outer) after) :
    ∃ inner, after = inner :: outer := by
  obtain ⟨inner, hafter, -⟩ := exists_grown_of_declared h
  exact ⟨inner, hafter⟩

theorem Task.Keeps.declared {task : Task} {before after : List Scope}
    (h : task.Keeps before after) : Relation.ReflTransGen DeclaredInnermost before after := by
  cases task with
  | statement | statements | block => exact h
  | _ => exact h ▸ .refl

theorem Task.Keeps.ne_nil {task : Task} {before after : List Scope} (h : task.Keeps before after)
    (hbefore : before ≠ []) : after ≠ [] := by
  obtain ⟨scope, outer, rfl⟩ := List.exists_cons_of_ne_nil hbefore
  obtain ⟨inner, rfl⟩ := exists_inner_of_declared h.declared
  exact List.cons_ne_nil inner outer

theorem Walk.frame {task : Task} {result : task.Result} {visits : List Visit}
    (h : Walk schema task c result c' visits) :
    task.Keeps c.scopes c'.scopes ∧ c.Extends c' := by
  induction h with
  | implicitTarget _ ht => exact ht.noted.frame
  | noTarget _ ih => exact ih
  | memberTarget _ hm ih => exact Context.Frame.trans ih hm.noted.frame
  | literal => exact Context.Frame.refl _
  | null => exact Context.Frame.refl _
  | this _ => exact Context.Frame.refl _
  | value _ => exact Context.Frame.refl _
  | implicitRead _ _ ih => exact ih
  | memberRead _ ih => exact ih
  | callExpr _ ih => exact ih
  | uncalled _ _ hf ihr iha => exact (Context.Frame.trans ihr iha).trans hf.noted.frame
  | called _ _ hf hi _ ihr iha ihb =>
    exact (((Context.Frame.trans ihr iha).trans hf.noted.frame).trans hi.frame).trans ihb
  | unqualified => exact Context.Frame.refl _
  | unresolved _ ih => exact ih
  | object _ ih => exact ih
  | noArguments => exact Context.Frame.refl _
  | argument _ _ ih ihs => exact Context.Frame.trans ih ihs
  | noBlock => exact Context.Frame.refl _
  | skipped => exact Context.Frame.refl _
  | opened _ hm _ ih =>
    -- the scope that is left is the one that was opened, whatever was declared in it
    obtain ⟨_, hscopes⟩ := exists_inner_of_declared ih.1
    rw [hm] at hscopes
    exact ⟨(List.cons.inj hscopes).2, ih.2.within _ _⟩
  | assign _ _ ha iht ihv =>
    obtain ⟨hs, he⟩ := (Context.Frame.trans iht ihv).trans ha.frame
    exact ⟨hs ▸ .refl, he⟩
  | unassigned _ _ _ iht ihv =>
    obtain ⟨hs, he⟩ := Context.Frame.trans iht ihv
    exact ⟨hs ▸ .refl, he⟩
  | val _ hb ih =>
    obtain ⟨hs, he⟩ := hb.frame
    exact ⟨ih.1 ▸ hs, ih.2.trans he⟩
  | unbound _ ih => exact ⟨ih.1 ▸ .refl, ih.2⟩
  | exprStatement _ ih => exact ⟨ih.1 ▸ .refl, ih.2⟩
  | noStatements => exact ⟨.refl, .refl _⟩
  | statements _ _ ih ihs => exact ⟨ih.1.trans ihs.1, ih.2.trans ihs.2⟩
  | block _ ih => exact ih

end Resolver

end

end ConfigScope
