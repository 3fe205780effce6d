import ConfigScope.Issue
import ConfigScope.Origin.Equality

/-!
# Analysis contexts

A context holds the scopes that are open, the issues found so far and the next
invocation id. Each configure block contributes one scope: the receiver that
unqualified names are looked up on, and the values declared in the block. The
innermost scope comes first.

What else an analysis keeps is up to it, and is its record.
-/

namespace ConfigScope

structure Scope where
  receiver : Origin
  locals : List (String × Origin)
  deriving DecidableEq

namespace Scope

def new (receiver : Origin) : Scope := ⟨receiver, []⟩

def local? (scope : Scope) (name : String) : Option Origin :=
  scope.locals.lookup name

/-- Declares a value, unless the name is taken: the first declaration stays. -/
def declare? (scope : Scope) (name : String) (value : Origin) : Option Scope :=
  if (scope.local? name).isSome then none
  else some { scope with locals := (name, value) :: scope.locals }

end Scope

/-- A scope is identified by how many scopes were open when it was entered, so an id is used again
once its scope has been left. -/
structure ScopeId where
  position : Nat
  deriving DecidableEq

structure Context (ρ : Type) where
  scopes : List Scope
  issues : Array Issue
  nextId : Nat
  record : ρ

namespace Context

variable {ρ : Type}

def new (record : ρ) : Context ρ := ⟨[], #[], 0, record⟩

def depth (c : Context ρ) : Nat := c.scopes.length

/-- The scope at a position, counted from the outermost. -/
def scopeAt? (c : Context ρ) (position : Nat) : Option Scope :=
  c.scopes.reverse[position]?

end Context

/-- Steps of an analysis. A fault ends the run and keeps what was done before it. -/
abbrev Analysis (ρ : Type) := ExceptT Fault (StateM (Context ρ))

namespace Analysis

variable {ρ α β : Type}

def run (x : Analysis ρ α) (c : Context ρ) : Except Fault α × Context ρ :=
  StateT.run (ExceptT.run x) c

@[simp] theorem run_pure (a : α) (c : Context ρ) : (pure a : Analysis ρ α).run c = (.ok a, c) :=
  rfl

theorem run_bind (x : Analysis ρ α) (f : α → Analysis ρ β) (c : Context ρ) :
    (x >>= f).run c = match x.run c with
      | (.ok a, next) => (f a).run next
      | (.error fault, next) => (.error fault, next) := by
  rw [run, ExceptT.run_bind, StateT.run_bind, ← run]
  rcases x.run c with ⟨_ | _, _⟩ <;> rfl

@[simp] theorem run_throw (fault : Fault) (c : Context ρ) :
    (throw fault : Analysis ρ α).run c = (.error fault, c) := rfl

/-- Uses a computation that does not touch the context. -/
def follow (x : Except Fault α) : Analysis ρ α := ExceptT.mk (pure x)

@[simp] theorem run_follow (x : Except Fault α) (c : Context ρ) :
    (follow x : Analysis ρ α).run c = (x, c) := rfl

/-- Runs a step and keeps its fault as a value. -/
def attempt (x : Analysis ρ α) : Analysis ρ (Except Fault α) :=
  ExceptT.mk (Except.ok <$> ExceptT.run x)

@[simp] theorem run_attempt (x : Analysis ρ α) (c : Context ρ) :
    (attempt x).run c = (.ok (x.run c).1, (x.run c).2) := rfl

/-! ## Scopes -/

def enterScope (scope : Scope) : Analysis ρ ScopeId :=
  modifyGet fun c => (⟨c.depth⟩, { c with scopes := scope :: c.scopes })

/-- Leaves a scope, which has to be the innermost one; otherwise nothing is left. -/
def leaveScope (id : ScopeId) : Analysis ρ Scope := do
  let c ← get
  match c.scopes with
  | scope :: outer =>
    if id.position = outer.length then
      set { c with scopes := outer }
      return scope
    else throw (.notInnermost (id.position + 1) c.depth)
  | [] => throw (.notInnermost (id.position + 1) c.depth)

/-- Runs steps inside a scope, and leaves the scope whether they end well or in a fault. Leaving
fails if they have left other scopes open, or have closed this one. -/
def withScope (scope : Scope) (body : Analysis ρ α) : Analysis ρ α := do
  let id ← enterScope scope
  match ← attempt body with
  | .ok a =>
    discard (leaveScope id)
    return a
  | .error fault =>
    discard (attempt (leaveScope id))
    throw fault

def currentScope : Analysis ρ Scope := do
  match (← get).scopes with
  | scope :: _ => return scope
  | [] => throw .noOpenScope

def currentReceiver : Analysis ρ Origin :=
  return (← currentScope).receiver

def isCurrentReceiver (origin : Origin) : Analysis ρ Bool :=
  return (← currentReceiver) = origin

/-- Declares a value in the innermost scope, and says whether its name was free. -/
def declare (name : String) (value : Origin) : Analysis ρ Bool := do
  let c ← get
  match c.scopes with
  | scope :: outer =>
    match scope.declare? name value with
    | some scope =>
      set { c with scopes := scope :: outer }
      return true
    | none => return false
  | [] => throw .noOpenScope

/-! ## Issues and ids -/

def report (issue : Issue) : Analysis ρ Unit :=
  modify fun c => { c with issues := c.issues.push issue }

/-- An id that no other call has. -/
def freshId : Analysis ρ Nat :=
  modifyGet fun c => (c.nextId, { c with nextId := c.nextId + 1 })

/-- Reports the use of a restricted member on anything but the innermost receiver. -/
def checkCurrent (receiver : Origin) (site : Span) : Analysis ρ Unit := do
  unless ← isCurrentReceiver receiver do
    report ⟨site, .notCurrentReceiver⟩

end Analysis

end ConfigScope
