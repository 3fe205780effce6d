import ConfigScope.Context.Basic

/-!
# Sessions

A session works on one context by commands and keeps a transcript of what they
answered. An action that faults answers with its fault and the session goes
on. The command `fail`, and a `within` whose scope cannot be left, end the
commands around them, up to the next `within` that catches faults.
-/

namespace ConfigScope

inductive Action where
  | enter (receiver : Origin)
  /-- Leaves a scope, given by the number of the `enter` that opened it. -/
  | leave (entry : Nat)
  | receiver
  | isCurrent (origin : Origin)
  | scopes
  | declare (name : String) (value : Origin)
  /-- Looks a value up in the current scope, or in the one at a position. -/
  | lookup (name : String) (position : Option Nat)
  | check (receiver : Origin) (site : Span)
  | report (issue : Issue)
  | issues
  | freshId
  | follow (type : TypeRef)
  | typeOf (origin : Origin)
  /-- An action that cannot be formed, for instance at a reversed span. -/
  | refused (fault : Fault)

inductive Command where
  | act (action : Action)
  /-- Runs commands inside a scope of their own. -/
  | within (receiver : Origin) (body : List Command) (catches : Bool)
  | fail (message : String)

inductive Reply where
  /-- The number of this `enter`, and that of the first one that gave the same id. -/
  | entered (entry first : Nat)
  | left (scope : Scope)
  | origin (origin : Origin)
  | origins (outermostFirst : List Origin)
  | flag (value : Bool)
  | value (origin : Option Origin)
  | noSuchScope
  | issueCount (count : Nat)
  | issues (issues : List Issue)
  | id (id : Nat)
  | type (type : Ty)

/-- What an action answered, and how many scopes were open after it. -/
inductive Step where
  | reply (reply : Except Fault Reply) (depth : Nat)
  /-- For `within`: how many scopes were open at the end of its body, or the fault that ended it. -/
  | within (outcome : Except Fault Nat) (steps : List Step) (depth : Nat)

/-- The ids that `enter` gave so far, and the transcript. -/
structure Transcript where
  ids : Array ScopeId
  steps : Array Step

namespace Session

open Analysis

def depth : Analysis Transcript Nat :=
  return (← get).depth

def addStep (step : Step) : Analysis Transcript Unit :=
  modify fun c => { c with record.steps := c.record.steps.push step }

def enter (receiver : Origin) : Analysis Transcript Reply := do
  let id ← enterScope (.new receiver)
  let ids := (← get).record.ids
  modify fun c => { c with record.ids := ids.push id }
  return .entered ids.size ((ids.push id).idxOf id)

def leave (entry : Nat) : Analysis Transcript Reply := do
  match (← get).record.ids[entry]? with
  | some id => return .left (← leaveScope id)
  | none => return .noSuchScope

def lookup (name : String) : Option Nat → Analysis Transcript Reply
  | none => return .value ((← currentScope).local? name)
  | some position => do
    match (← get).scopeAt? position with
    | some scope => return .value (scope.local? name)
    | none => return .noSuchScope

def issueCount : Analysis Transcript Reply :=
  return .issueCount (← get).issues.size

def answer (schema : Schema) : Action → Analysis Transcript Reply
  | .enter receiver => enter receiver
  | .leave entry => leave entry
  | .receiver => return .origin (← currentReceiver)
  | .isCurrent origin => return .flag (← isCurrentReceiver origin)
  | .scopes => return .origins ((← get).scopes.map (·.receiver)).reverse
  | .declare name value => return .flag (← Analysis.declare name value)
  | .lookup name position => lookup name position
  | .check receiver site => do checkCurrent receiver site; issueCount
  | .report issue => do Analysis.report issue; issueCount
  | .issues => return .issues (← get).issues.toList
  | .freshId => return .id (← Analysis.freshId)
  | .follow type => return .type (← Analysis.follow (schema.typeOf type))
  | .typeOf origin => return .type (← Analysis.follow (origin.type schema.typeOf))
  | .refused fault => throw fault

mutual

def perform (schema : Schema) : Command → Analysis Transcript Unit
  | .within receiver body catches => do
    let outer := (← get).record.steps
    modify fun c => { c with record.steps := #[] }
    let outcome ← attempt (withScope (.new receiver) (do performAll schema body; depth))
    let inner := (← get).record.steps
    modify fun c => { c with record.steps := outer }
    addStep (.within outcome inner.toList (← depth))
    match outcome with
    | .ok _ => return
    | .error fault => unless catches do throw fault
  | .fail message => throw (.raised message)
  | .act action => do
    let reply ← attempt (answer schema action)
    addStep (.reply reply (← depth))

def performAll (schema : Schema) : List Command → Analysis Transcript Unit
  | [] => return
  | command :: rest => do
    perform schema command
    performAll schema rest

end

/-- Runs commands on a new context: the fault that ended them, if one did, and the context after it.
-/
def run (schema : Schema) (commands : List Command) : Except Fault Unit × Context Transcript :=
  (performAll schema commands).run (.new ⟨#[], #[]⟩)

end Session

end ConfigScope
