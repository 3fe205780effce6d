import ConfigScope.Proofs.CurrentReceiver
import ConfigScope.Proofs.Typing

/-!
# Translations

A translation moves spans and rewrites declarations, and leaves names, values and
ids alone. It acts on everything that an analysis has to do with: documents,
schemas, origins, contexts and what is found. What it does to a declaration is
what it does to its parts, and each member stays restricted or none does.

Types are derived alike on both sides (`type_origin`), and so whatever is looked up
is found at the same place (`lookupProperty_scopes` and the laws around it). Only the
choice of a function compares types with each other, and `Compares` is what a
translation needs for that.
-/

namespace ConfigScope

/-! ## Documents -/

mutual

def Access.relocate (f : Span → Span) : Access → Access
  | ⟨receiver, name, span⟩ => ⟨relocateReceiver f receiver, name, f span⟩

def Expr.relocate (f : Span → Span) : Expr → Expr
  | .literal value span => .literal value (f span)
  | .null span => .null (f span)
  | .this span => .this (f span)
  | .access access => .access (access.relocate f)
  | .call call => .call (call.relocate f)

def Call.relocate (f : Span → Span) : Call → Call
  | ⟨receiver, name, arguments, block, span⟩ =>
    ⟨relocateReceiver f receiver, name, relocateArguments f arguments, relocateBlock f block,
      f span⟩

def relocateReceiver (f : Span → Span) : Option Expr → Option Expr
  | none => none
  | some receiver => some (receiver.relocate f)

def relocateArguments (f : Span → Span) : List Expr → List Expr
  | [] => []
  | argument :: rest => argument.relocate f :: relocateArguments f rest

def relocateBlock (f : Span → Span) : Option Block → Option Block
  | none => none
  | some block => some (block.relocate f)

def Statement.relocate (f : Span → Span) : Statement → Statement
  | .assign target value span => .assign (target.relocate f) (value.relocate f) (f span)
  | .val name value span => .val name (value.relocate f) (f span)
  | .expr expr => .expr (expr.relocate f)

def relocateStatements (f : Span → Span) : List Statement → List Statement
  | [] => []
  | statement :: rest => statement.relocate f :: relocateStatements f rest

/-- The same block, written at other places. -/
def Block.relocate (f : Span → Span) : Block → Block
  | ⟨statements, span⟩ => ⟨relocateStatements f statements, f span⟩

end

section
variable (f : Span → Span)

@[simp] theorem Access.span_relocate (access : Access) :
    (access.relocate f).span = f access.span := by
  cases access
  rfl

@[simp] theorem Expr.span_relocate (expr : Expr) : (expr.relocate f).span = f expr.span := by
  cases expr with
  | access access => exact access.span_relocate f
  | call call =>
    cases call
    rfl
  | _ => rfl

@[simp] theorem Block.span_relocate (block : Block) : (block.relocate f).span = f block.span := by
  cases block
  rfl

theorem span_relocateBlock (block : Option Block) :
    (relocateBlock f block).map (·.span) = (block.map (·.span)).map f := by
  cases block with
  | none => rfl
  | some block => simp [relocateBlock]

end

mutual

theorem Access.relocate_id : (access : Access) → access.relocate id = access
  | ⟨receiver, name, span⟩ => by rw [Access.relocate, relocateReceiver_id receiver, id]

theorem Expr.relocate_id : (expr : Expr) → expr.relocate id = expr
  | .literal _ _ | .null _ | .this _ => rfl
  | .access access => by rw [Expr.relocate, access.relocate_id]
  | .call call => by rw [Expr.relocate, call.relocate_id]

theorem Call.relocate_id : (call : Call) → call.relocate id = call
  | ⟨receiver, name, arguments, block, span⟩ => by
    rw [Call.relocate, relocateReceiver_id receiver, relocateArguments_id arguments,
      relocateBlock_id block, id]

theorem relocateReceiver_id : (receiver : Option Expr) → relocateReceiver id receiver = receiver
  | none => rfl
  | some receiver => by rw [relocateReceiver, receiver.relocate_id]

theorem relocateArguments_id : (arguments : List Expr) → relocateArguments id arguments = arguments
  | [] => rfl
  | argument :: rest => by
    rw [relocateArguments, argument.relocate_id, relocateArguments_id rest]

theorem relocateBlock_id : (block : Option Block) → relocateBlock id block = block
  | none => rfl
  | some block => by rw [relocateBlock, block.relocate_id]

theorem Statement.relocate_id : (statement : Statement) → statement.relocate id = statement
  | .assign target value span => by
    rw [Statement.relocate, target.relocate_id, value.relocate_id, id]
  | .val name value span => by rw [Statement.relocate, value.relocate_id, id]
  | .expr expr => by rw [Statement.relocate, expr.relocate_id]

theorem relocateStatements_id : (statements : List Statement) →
    relocateStatements id statements = statements
  | [] => rfl
  | statement :: rest => by
    rw [relocateStatements, statement.relocate_id, relocateStatements_id rest]

theorem Block.relocate_id : (block : Block) → block.relocate id = block
  | ⟨statements, span⟩ => by rw [Block.relocate, relocateStatements_id statements, id]

end

/-! ## Declarations -/

def Ty.map (decl : ClassDecl → ClassDecl) : Ty → Ty
  | .object d => .object (decl d)
  | .scalar s => .scalar s
  | .null => .null
  | .unit => .unit

section
variable (ref : TypeRef → TypeRef)

def Parameter.map (parameter : Parameter) : Parameter := ⟨parameter.name, ref parameter.type⟩

def Accessor.map (accessor : Accessor) : Accessor := ⟨accessor.property, ref accessor.object⟩

def External.map (external : External) : External := ⟨external.name, ref external.type⟩

def Semantics.map : Semantics → Semantics
  | .builder result => .builder (ref result)
  | .configure accessor => .configure (accessor.map ref)
  | .add object acceptsBlock => .add (ref object) acceptsBlock
  | .pure result => .pure (ref result)

/-- A property with another type. If restrictions are dropped, it is not restricted any more. -/
def Property.map (restricts : Bool) (property : Property) : Property :=
  ⟨property.name, ref property.type, property.readOnly, property.hasDefault,
    restricts && property.currentOnly⟩

end

structure Translation where
  span : Span → Span
  /-- Whether restricted members stay restricted. -/
  restricts : Bool
  ref : TypeRef → TypeRef
  decl : ClassDecl → ClassDecl
  function : MemberFunction → MemberFunction
  topLevel : TopLevelFunction → TopLevelFunction
  ref_inline : ∀ type, ref (.inline type) = .inline (type.map decl)
  ref_named : ∀ name, ref (.named name) = .named name
  decl_eq : ∀ d, decl d =
    ⟨d.name, d.supertypes, d.properties.map (·.map ref restricts), d.functions.map function⟩
  function_eq : ∀ f, function f =
    ⟨f.name, f.parameters.map (·.map ref), f.semantics.map ref, restricts && f.currentOnly⟩
  topLevel_eq : ∀ f, topLevel f =
    ⟨f.package, f.name, f.parameters.map (·.map ref), f.semantics.map ref⟩

namespace Translation

def type (m : Translation) : Ty → Ty := Ty.map m.decl

def property (m : Translation) : Property → Property := Property.map m.ref m.restricts

def external (m : Translation) : External → External := External.map m.ref

def schema (m : Translation) (schema : Schema) : Schema :=
  ⟨m.decl schema.topLevel, schema.classes.map m.decl, schema.functions.map m.topLevel,
    schema.externals.map m.external⟩

/-! ## Origins and contexts -/

mutual

def origin (m : Translation) : Origin → Origin
  | .constant value span => .constant value (m.span span)
  | .external external span => .external (m.external external) (m.span span)
  | .memberCall receiver function arguments id span =>
    .memberCall (m.origin receiver) (m.function function) (m.origins arguments) id (m.span span)
  | .topLevelCall function arguments id span =>
    .topLevelCall (m.topLevel function) (m.origins arguments) id (m.span span)
  | .property receiver property span =>
    .property (m.origin receiver) (m.property property) (m.span span)
  | .defaultValue receiver property span =>
    .defaultValue (m.origin receiver) (m.property property) (m.span span)
  | .top type span => .top (m.type type) (m.span span)
  | .binding name value span => .binding name (m.origin value) (m.span span)
  | .null span => .null (m.span span)
  | .configured receiver function id accessor span =>
    .configured (m.origin receiver) (m.function function) id (accessor.map m.ref) (m.span span)
  | .built receiver function arguments id span =>
    .built (m.origin receiver) (m.function function) (m.origins arguments) id (m.span span)

def origins (m : Translation) : List Origin → List Origin
  | [] => []
  | first :: rest => m.origin first :: m.origins rest

end

def scope (m : Translation) (scope : Scope) : Scope :=
  ⟨m.origin scope.receiver, scope.locals.map fun (name, value) => (name, m.origin value)⟩

def target (m : Translation) (target : Target) : Target :=
  ⟨m.origin target.receiver, m.property target.property⟩

def callee (m : Translation) : Callee → Callee
  | .member receiver function => .member (m.origin receiver) (m.function function)
  | .topLevel function => .topLevel (m.topLevel function)

def assignment (m : Translation) (assignment : Assignment) : Assignment :=
  ⟨m.target assignment.target, m.origin assignment.value, m.span assignment.span⟩

def addition (m : Translation) (addition : Addition) : Addition :=
  ⟨m.origin addition.container, m.origin addition.object⟩

def reason (m : Translation) : Reason → Reason
  | .typeMismatch expected actual => .typeMismatch (m.type expected) (m.type actual)
  | .notAnObject type => .notAnObject (m.type type)
  | reason => reason

def issue (m : Translation) (issue : Issue) : Issue :=
  ⟨m.span issue.site, m.reason issue.reason⟩

/-- Violations are only reported if there still are restricted members. -/
def reports (m : Translation) (issue : Issue) : Bool :=
  m.restricts || issue.reason ≠ .notCurrentReceiver

def context (m : Translation) (c : Context Findings) : Context Findings where
  scopes := c.scopes.map m.scope
  issues := (c.issues.filter m.reports).map m.issue
  nextId := c.nextId
  record := ⟨c.record.assignments.map m.assignment, c.record.additions.map m.addition⟩

def resolution (m : Translation) (resolution : Resolution) : Resolution where
  top := m.origin resolution.top
  assignments := resolution.assignments.map m.assignment
  additions := resolution.additions.map m.addition
  issues := (resolution.issues.filter m.reports).map m.issue

variable (m : Translation)

theorem origins_eq_map (origins : List Origin) : m.origins origins = origins.map m.origin := by
  induction origins with
  | nil => rfl
  | cons first rest ih => rw [origins, ih, List.map_cons]

/-! ## Types -/

@[simp] theorem name_decl (decl : ClassDecl) : (m.decl decl).name = decl.name := by
  rw [m.decl_eq]

@[simp] theorem supertypes_decl (decl : ClassDecl) :
    (m.decl decl).supertypes = decl.supertypes := by
  rw [m.decl_eq]

@[simp] theorem currentOnly_function (function : MemberFunction) :
    (m.function function).currentOnly = (m.restricts && function.currentOnly) := by
  rw [m.function_eq]

@[simp] theorem semantics_function (function : MemberFunction) :
    (m.function function).semantics = function.semantics.map m.ref := by
  rw [m.function_eq]

@[simp] theorem parameters_function (function : MemberFunction) :
    (m.function function).parameters = function.parameters.map (·.map m.ref) := by
  rw [m.function_eq]

@[simp] theorem semantics_topLevel (function : TopLevelFunction) :
    (m.topLevel function).semantics = function.semantics.map m.ref := by
  rw [m.topLevel_eq]

@[simp] theorem parameters_topLevel (function : TopLevelFunction) :
    (m.topLevel function).parameters = function.parameters.map (·.map m.ref) := by
  rw [m.topLevel_eq]

@[simp] theorem blockRule_semantics (semantics : Semantics) :
    (semantics.map m.ref).blockRule = semantics.blockRule := by
  cases semantics <;> rfl

theorem result_semantics (semantics : Semantics) :
    (semantics.map m.ref).result = m.ref semantics.result := by
  cases semantics with
  | configure accessor => exact (m.ref_inline .unit).symm
  | _ => rfl

@[simp] theorem class?_type (type : Ty) : (m.type type).class? = type.class?.map m.decl := by
  cases type <;> rfl

theorem property?_decl (decl : ClassDecl) (name : String) :
    (m.decl decl).property? name = (decl.property? name).map m.property := by
  rw [m.decl_eq, ClassDecl.property?, List.find?_map]
  rfl

theorem overloads_decl (decl : ClassDecl) (name : String) :
    (m.decl decl).overloads name = (decl.overloads name).map m.function := by
  rw [m.decl_eq, ClassDecl.overloads, List.filter_map]
  congr 2
  funext function
  simp [m.function_eq]

theorem property?_type (type : Ty) (name : String) :
    (m.type type).property? name = (type.property? name).map m.property := by
  cases type with
  | object decl => exact m.property?_decl decl name
  | _ => rfl

variable (source : Schema)

theorem class?_schema (name : QualifiedName) :
    (m.schema source).class? name = (source.class? name).map m.decl := by
  simp only [schema, Schema.class?, Schema.findClass?, List.find?_map]
  congr 2
  funext decl
  simp

theorem external?_schema (name : String) :
    (m.schema source).external? name = (source.external? name).map m.external := by
  simp only [schema, Schema.external?, List.find?_map]
  rfl

theorem overloads_schema (name : String) :
    (m.schema source).overloads name = (source.overloads name).map m.topLevel := by
  simp only [schema, Schema.overloads, List.filter_map]
  congr 2
  funext function
  simp [m.topLevel_eq]

theorem typeOf_ref (ref : TypeRef) :
    (m.schema source).typeOf (m.ref ref) = (source.typeOf ref).map m.type := by
  cases ref with
  | inline type =>
    rw [m.ref_inline]
    rfl
  | named name =>
    rw [m.ref_named]
    simp only [Schema.typeOf, m.class?_schema]
    cases source.class? name <;> rfl

theorem type_origin (origin : Origin) :
    (m.origin origin).type (m.schema source).typeOf =
      (origin.type source.typeOf).map m.type := by
  fun_induction Origin.type source.typeOf origin with
  | case1 => rfl
  | case2 key span => exact m.typeOf_ref source key.type
  | case3 receiver function arguments id span =>
    simp only [Translation.origin, Origin.type, semantics_function, result_semantics, typeOf_ref]
  | case4 function arguments id span =>
    simp only [Translation.origin, Origin.type, semantics_topLevel, result_semantics, typeOf_ref]
  | case5 receiver decl span => exact m.typeOf_ref source decl.type
  | case6 receiver decl span => exact m.typeOf_ref source decl.type
  | case7 => rfl
  | case8 name value span ih => exact ih
  | case9 => rfl
  | case10 receiver function id accessor span => exact m.typeOf_ref source accessor.object
  | case11 receiver function arguments id span ih => exact ih

/-! ## Lookups -/

theorem local?_scope (scope : Scope) (name : String) :
    (m.scope scope).local? name = (scope.local? name).map m.origin := by
  obtain ⟨receiver, locals⟩ := scope
  simp only [Translation.scope, Scope.local?]
  induction locals with
  | nil => rfl
  | cons entry rest ih =>
    obtain ⟨taken, value⟩ := entry
    simp only [List.map_cons, List.lookup_cons]
    split
    · rfl
    · exact ih

theorem declare?_scope (scope : Scope) (name : String) (value : Origin) :
    (m.scope scope).declare? name (m.origin value) = (scope.declare? name value).map m.scope := by
  simp only [Scope.declare?, m.local?_scope, Option.isSome_map]
  split <;> rfl

theorem lookupValue_scopes (name : String) (span : Span) (scopes : List Scope) :
    (m.schema source).lookupValue name (m.span span) (scopes.map m.scope) =
      (source.lookupValue name span scopes).map (Option.map m.origin) := by
  induction scopes with
  | nil =>
    simp only [List.map_nil, Schema.lookupValue, m.external?_schema]
    cases source.external? name <;> rfl
  | cons scope outer ih =>
    have htype := m.type_origin source scope.receiver
    simp only [List.map_cons, Schema.lookupValue, m.local?_scope]
    cases scope.local? name with
    | some value => rfl
    | none =>
      simp only [Option.map_none, Translation.scope, htype]
      cases scope.receiver.type source.typeOf with
      | error fault => rfl
      | ok type =>
        simp only [Except.map, bind, Except.bind, m.property?_type, Option.isSome_map]
        split
        · rfl
        · exact ih

theorem lookupProperty_scopes (name : String) (scopes : List Scope) :
    (m.schema source).lookupProperty name (scopes.map m.scope) =
      (source.lookupProperty name scopes).map (Option.map m.target) := by
  induction scopes with
  | nil => rfl
  | cons scope outer ih =>
    have htype := m.type_origin source scope.receiver
    simp only [List.map_cons, Schema.lookupProperty, Translation.scope, htype]
    cases scope.receiver.type source.typeOf with
    | error fault => rfl
    | ok type =>
      simp only [Except.map, bind, Except.bind, m.property?_type]
      cases type.property? name with
      | some property => rfl
      | none => exact ih

theorem argumentTypes_map (arguments : List (Option Origin)) :
    (m.schema source).argumentTypes (arguments.map (Option.map m.origin)) =
      (source.argumentTypes arguments).map (List.map (Option.map m.type)) := by
  induction arguments with
  | nil => rfl
  | cons argument rest ih =>
    cases argument with
    | none =>
      simp only [List.map_cons, Option.map_none, Schema.argumentTypes, ih]
      cases source.argumentTypes rest <;> rfl
    | some origin =>
      simp only [List.map_cons, Option.map_some, Schema.argumentTypes, m.type_origin, ih]
      cases origin.type source.typeOf with
      | error fault => rfl
      | ok type => cases source.argumentTypes rest <;> rfl

/-- Types conform to each other after the translation as they did before. If the comparison is
`nominal`, this is only said of types that a closed schema knows. -/
structure Compares (m : Translation) (source : Schema) (nominal : Prop) : Prop where
  closed : nominal → source.Closed
  conformsTo : ∀ {value target}, (nominal → source.Knows value ∧ source.Knows target) →
    (m.type value).conformsTo (m.type target) = value.conformsTo target

end Translation

theorem Schema.Resolves.knows {schema : Schema} {ref : TypeRef} {type : Ty}
    (h : schema.Resolves ref) (htype : schema.typeOf ref = .ok type) : schema.Knows type := by
  obtain ⟨known, hknown, hknows⟩ := h
  rw [htype] at hknown
  cases hknown
  exact hknows

theorem findM?_map {ε α β : Type} {f : α → β} {p : β → Except ε Bool} {q : α → Except ε Bool}
    {as : List α} (h : ∀ a ∈ as, p (f a) = q a) :
    (as.map f).findM? p = (as.findM? q).map (Option.map f) := by
  induction as with
  | nil => rfl
  | cons head rest ih =>
    obtain ⟨hhead, hrest⟩ := List.forall_mem_cons.mp h
    simp only [List.map_cons, List.findM?, hhead]
    cases q head with
    | error fault => rfl
    | ok found =>
      cases found with
      | true => rfl
      | false => exact ih hrest

namespace Translation.Compares

variable {m : Translation} {source : Schema} {nominal : Prop} {name : String}
  {types : List (Option Ty)}

theorem acceptsEach (h : m.Compares source nominal) {parameters : List Parameter}
    (hparameters : nominal → ∀ parameter ∈ parameters, source.Resolves parameter.type)
    (htypes : nominal → ∀ type, some type ∈ types → source.Knows type) :
    (m.schema source).acceptsEach (parameters.map (·.map m.ref)) (types.map (Option.map m.type)) =
      source.acceptsEach parameters types := by
  induction parameters generalizing types with
  | nil => cases types <;> rfl
  | cons parameter parameters ih =>
    cases types with
    | nil => rfl
    | cons argument types =>
      have ih := ih (fun hn => (List.forall_mem_cons.mp (hparameters hn)).2)
        (fun hn type hmem => htypes hn type (List.mem_cons_of_mem _ hmem))
      cases argument with
      -- an argument without a type fits every parameter, translated or not
      | none => exact ih
      | some type =>
        simp only [List.map_cons, Option.map_some, Schema.acceptsEach, Parameter.map,
          m.typeOf_ref source]
        cases hexpected : source.typeOf parameter.type with
        | error fault => rfl
        | ok expected =>
          have hknown (hn : nominal) : source.Knows type ∧ source.Knows expected :=
            ⟨htypes hn type List.mem_cons_self,
              (hparameters hn parameter List.mem_cons_self).knows hexpected⟩
          simp only [Except.map, bind, Except.bind, h.conformsTo hknown]
          split
          · exact ih
          · rfl

theorem accepts (h : m.Compares source nominal) {parameters : List Parameter}
    (hparameters : nominal → ∀ parameter ∈ parameters, source.Resolves parameter.type)
    (htypes : nominal → ∀ type, some type ∈ types → source.Knows type) :
    (m.schema source).accepts (parameters.map (·.map m.ref)) (types.map (Option.map m.type)) =
      source.accepts parameters types := by
  simp only [Schema.accepts, List.length_map, h.acceptsEach hparameters htypes]

theorem memberOverload (h : m.Compares source nominal) {decl : ClassDecl}
    (hdecl : nominal → decl ∈ source.classes)
    (htypes : nominal → ∀ type, some type ∈ types → source.Knows type) :
    (m.schema source).memberOverload (m.decl decl) name (types.map (Option.map m.type)) =
      (source.memberOverload decl name types).map (Option.map m.function) := by
  simp only [Schema.memberOverload, m.overloads_decl]
  refine findM?_map fun function hfunction => ?_
  rw [m.parameters_function]
  refine h.accepts (fun hn parameter hparameter => ?_) htypes
  exact (h.closed hn).resolves _
    (.parameter (hdecl hn) (List.mem_filter.mp hfunction).1 hparameter)

theorem topLevelOverload (h : m.Compares source nominal)
    (htypes : nominal → ∀ type, some type ∈ types → source.Knows type) :
    (m.schema source).topLevelOverload name (types.map (Option.map m.type)) =
      (source.topLevelOverload name types).map (Option.map m.topLevel) := by
  simp only [Schema.topLevelOverload, m.overloads_schema]
  refine findM?_map fun function hfunction => ?_
  rw [m.parameters_topLevel]
  refine h.accepts (fun hn parameter hparameter => ?_) htypes
  exact (h.closed hn).resolves _
    (.topLevelParameter (List.mem_filter.mp hfunction).1 hparameter)

theorem lookupFunction (h : m.Compares source nominal) {scopes : List Scope}
    (hscopes : nominal → ∀ scope ∈ scopes, scope.Typed source)
    (htypes : nominal → ∀ type, some type ∈ types → source.Knows type) :
    (m.schema source).lookupFunction name (types.map (Option.map m.type)) (scopes.map m.scope) =
      (source.lookupFunction name types scopes).map (Option.map m.callee) := by
  induction scopes with
  | nil =>
    simp only [List.map_nil, Schema.lookupFunction, h.topLevelOverload htypes]
    cases source.topLevelOverload name types with
    | error fault => rfl
    | ok function => cases function <;> rfl
  | cons scope outer ih =>
    have ih := ih fun hn => (List.forall_mem_cons.mp (hscopes hn)).2
    have htype := m.type_origin source scope.receiver
    simp only [List.map_cons, Schema.lookupFunction, Translation.scope, htype]
    cases hreceiver : scope.receiver.type source.typeOf with
    | error fault => rfl
    | ok type =>
      simp only [Except.map, bind, Except.bind, m.class?_type]
      cases hclass : type.class? with
      | none => exact ih
      | some decl =>
        have hdecl (hn : nominal) : decl ∈ source.classes :=
          ((hscopes hn scope List.mem_cons_self).1.hasType.knows hreceiver) decl
            (Resolver.class?_eq_some.mp hclass)
        simp only [Option.map_some, h.memberOverload hdecl htypes]
        cases source.memberOverload decl name types with
        | error fault => rfl
        | ok function =>
          cases function with
          | some function => rfl
          | none => exact ih

end Translation.Compares

end ConfigScope
