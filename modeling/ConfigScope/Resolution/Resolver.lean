import ConfigScope.Document.Basic
import ConfigScope.Resolution.Lookup

/-!
# Resolving documents

The resolver walks a document in the order of evaluation and gives every
expression its origin, or none after reporting what is wrong with it. A call's
receiver and arguments are all resolved before anything else is said about the
call, so that their issues are found in any case. A configure block is resolved
in a scope of its own, whose receiver is the object that the call configures.
-/

namespace ConfigScope

open Analysis

abbrev Resolver := Analysis Findings

namespace Resolver

variable (schema : Schema)

/-! ## Properties -/

/-- Reports a property that was not found, and checks one that is restricted. -/
def checkTarget (name : String) (span : Span) : Option Target → Resolver (Option Target)
  | none => do
    report ⟨span, .unresolvedName name⟩
    return none
  | some target => do
    if target.property.currentOnly then checkCurrent target.receiver span
    return some target

def implicitTarget (name : String) (span : Span) : Resolver (Option Target) := do
  checkTarget name span (← follow (schema.lookupProperty name (← get).scopes))

/-- The property of a name on a given object, which was written at `site`. -/
def memberTarget (object : Origin) (site : Span) (name : String) (span : Span) :
    Resolver (Option Target) := do
  let type ← follow (object.type schema.typeOf)
  match type.class? with
  | none =>
    report ⟨site, .notAnObject type⟩
    return none
  | some decl => checkTarget name span ((decl.property? name).map (⟨object, ·⟩))

/-- The local value or external object that an unqualified name stands for. -/
def implicitValue (access : Access) : Resolver (Option Origin) := do
  match access.receiver with
  | some _ => return none
  | none => follow (schema.lookupValue access.name access.span (← get).scopes)

/-! ## Calls -/

/-- What a call is made on: nothing, something that could not be resolved, or an object that was
written at some place. -/
inductive On where
  | nothing
  | unresolved
  | object (origin : Origin) (site : Span)

/-- Reports a call that no function accepts, unless its arguments are to blame. -/
def checkCallee (name : String) (arguments : List (Option Origin)) (span : Span)
    (callee : Option Callee) : Resolver (Option Callee) := do
  if callee.isNone ∧ arguments.all (·.isSome) then
    report ⟨span, .unresolvedCall name arguments.length⟩
  return callee

/-- The function that a call with resolved receiver and arguments is a call of. -/
def findCallee (on : On) (name : String) (arguments : List (Option Origin)) (span : Span) :
    Resolver (Option Callee) := do
  let types ← follow (schema.argumentTypes arguments)
  match on with
  | .unresolved => return none
  | .nothing =>
    let callee ← follow (schema.lookupFunction name types (← get).scopes)
    checkCallee name arguments span callee
  | .object origin site =>
    let type ← follow (origin.type schema.typeOf)
    match type.class? with
    | none =>
      report ⟨site, .notAnObject type⟩
      return none
    | some decl =>
      let function ← follow (schema.memberOverload decl name types)
      checkCallee name arguments span (function.map (.member origin))

/-- Whether the block of a call is resolved; reports a missing or an unexpected one. -/
def checkBlock (name : String) (semantics : Semantics) (block : Option Span) (span : Span) :
    Resolver Bool := do
  match semantics.blockRule, block with
  | .required, none =>
    report ⟨span, .missingBlock name⟩
    return false
  | .forbidden, some site =>
    report ⟨site, .unexpectedBlock name⟩
    return false
  | .required, some _ | .optional, some _ => return true
  | .optional, none | .forbidden, none => return false

/-- What a call leads to: the object that its block configures, if the block is resolved, and its
value, if all its arguments have one. -/
structure Outcome where
  configured : Option Origin
  value : Option Origin

def addition (container object : Origin) : Resolver Unit :=
  modify fun c => { c with record.additions := c.record.additions.push ⟨container, object⟩ }

/-- Calls a member function. An object is added before its block is resolved. -/
def invokeMember (receiver : Origin) (function : MemberFunction) (name : String)
    (arguments : List (Option Origin)) (block : Option Span) (span : Span) : Resolver Outcome := do
  if function.currentOnly then checkCurrent receiver span
  let opens ← checkBlock name function.semantics block span
  let id ← freshId
  let complete := arguments.all (·.isSome)
  let given := arguments.filterMap (·)
  let result := Origin.memberCall receiver function given id span
  match function.semantics with
  | .configure accessor =>
    let configured := Origin.configured receiver function id accessor span
    return ⟨if opens then some configured else none, if complete then some result else none⟩
  | .add .. =>
    if complete then addition receiver result
    return ⟨if opens then some result else none, if complete then some result else none⟩
  | .builder _ =>
    return ⟨none, if complete then some (.built receiver function given id span) else none⟩
  | .pure _ => return ⟨none, if complete then some result else none⟩

def invokeTopLevel (function : TopLevelFunction) (name : String)
    (arguments : List (Option Origin)) (block : Option Span) (span : Span) : Resolver Outcome := do
  let opens ← checkBlock name function.semantics block span
  let id ← freshId
  let result := Origin.topLevelCall function (arguments.filterMap (·)) id span
  return ⟨if opens then some result else none,
    if arguments.all (·.isSome) then some result else none⟩

def invoke (callee : Callee) (name : String) (arguments : List (Option Origin))
    (block : Option Span) (span : Span) : Resolver Outcome :=
  match callee with
  | .member receiver function => invokeMember receiver function name arguments block span
  | .topLevel function => invokeTopLevel function name arguments block span

/-! ## Statements -/

/-- Accepts an assignment of a resolved value, unless the property is read-only or of another type.
-/
def assign (target : Target) (targetSpan : Span) (value : Origin) (valueSpan span : Span) :
    Resolver Unit := do
  if target.property.readOnly then
    report ⟨targetSpan, .readOnlyProperty target.property.name⟩
  else
    let expected ← follow (schema.typeOf target.property.type)
    let actual ← follow (value.type schema.typeOf)
    if actual.conformsTo expected then
      modify fun c =>
        { c with record.assignments := c.record.assignments.push ⟨target, value, span⟩ }
    else
      report ⟨valueSpan, .typeMismatch expected actual⟩

def bindLocal (name : String) (value : Origin) (span : Span) : Resolver Unit := do
  unless ← declare name (.binding name value span) do
    report ⟨span, .duplicateLocal name⟩

/-! ## The walk -/

mutual

def resolveTarget : Access → Resolver (Option Target)
  | ⟨none, name, span⟩ => implicitTarget schema name span
  | ⟨some receiver, name, span⟩ => do
    match ← resolveExpr receiver with
    | none => return none
    | some object => memberTarget schema object receiver.span name span

def resolveExpr : Expr → Resolver (Option Origin)
  | .literal value span => return some (.constant value span)
  | .null span => return some (.null span)
  | .this _ => return some (← currentReceiver)
  | .access access => do
    match ← implicitValue schema access with
    | some value => return some value
    | none => return (← resolveTarget access).map (·.read access.span)
  | .call call => resolveCall call

def resolveCall : Call → Resolver (Option Origin)
  | ⟨receiver, name, arguments, block, span⟩ => do
    let on ← resolveReceiver receiver
    let arguments ← resolveArguments arguments
    match ← findCallee schema on name arguments span with
    | none => return none
    | some callee =>
      let outcome ← invoke callee name arguments (block.map (·.span)) span
      resolveConfigured outcome.configured block
      return outcome.value

def resolveReceiver : Option Expr → Resolver On
  | none => return .nothing
  | some receiver => do
    match ← resolveExpr receiver with
    | none => return .unresolved
    | some object => return .object object receiver.span

def resolveArguments : List Expr → Resolver (List (Option Origin))
  | [] => return []
  | argument :: rest => do
    let origin ← resolveExpr argument
    return origin :: (← resolveArguments rest)

/-- The block of a call, in the scope of the object that it configures. -/
def resolveConfigured (configured : Option Origin) : Option Block → Resolver Unit
  | none => return
  | some block =>
    match configured with
    | none => return
    | some object => withScope (.new object) (resolveBlock block)

def resolveStatement : Statement → Resolver Unit
  | .assign target value span => do
    let found ← resolveTarget target
    let origin ← resolveExpr value
    match found, origin with
    | some found, some origin => assign schema found target.span origin value.span span
    | _, _ => return
  | .val name value span => do
    match ← resolveExpr value with
    | some origin => bindLocal name origin span
    | none => return
  | .expr expr => discard (resolveExpr expr)

def resolveStatements : List Statement → Resolver Unit
  | [] => return
  | statement :: rest => do
    resolveStatement statement
    resolveStatements rest

def resolveBlock : Block → Resolver Unit
  | ⟨statements, _⟩ => resolveStatements statements

end

end Resolver

namespace Resolution

/-- Resolves a document against a schema, starting on the schema's top-level class. -/
def ofDocument (schema : Schema) (document : Block) : Except Fault Resolution :=
  let top := Origin.top (.object schema.topLevel) document.span
  match (withScope (.new top) (Resolver.resolveBlock schema document)).run
      (.new (⟨#[], #[]⟩ : Findings)) with
  | (.ok _, c) =>
    .ok ⟨top, c.record.assignments.toList, c.record.additions.toList, c.issues.toList⟩
  | (.error fault, _) => .error fault

end Resolution

end ConfigScope
