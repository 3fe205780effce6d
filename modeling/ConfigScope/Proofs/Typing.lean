import ConfigScope.Proofs.ClosedSchema
import ConfigScope.Proofs.Frame
import ConfigScope.Proofs.Lookup

/-!
# Walks keep every origin typed

An origin is typed if it and all the origins it was made from have a type that
the schema knows. In a closed schema a walk only makes such origins out of such
origins: what it comes to, what it leaves in the scopes and what it records is
typed if the context it starts from is (`Walk.typed`).
-/

namespace ConfigScope

namespace Origin

/-- The origins that an origin was made from. -/
def parts : Origin → List Origin
  | memberCall receiver _ arguments _ _ | built receiver _ arguments _ _ => receiver :: arguments
  | topLevelCall _ arguments _ _ => arguments
  | property receiver _ _ | defaultValue receiver _ _ | configured receiver _ _ _ _ => [receiver]
  | binding _ value _ => [value]
  | constant _ _ | external _ _ | top _ _ | null _ => []

/-- An origin stands somewhere inside another one, or is that one. -/
inductive Occurs (origin : Origin) : Origin → Prop
  | here : Occurs origin origin
  | inside {part whole} : part ∈ whole.parts → Occurs origin part → Occurs origin whole

def HasType (schema : Schema) (origin : Origin) : Prop :=
  ∃ type, origin.type schema.typeOf = .ok type ∧ schema.Knows type

/-- Whatever stands inside an origin has a type. -/
def Typed (schema : Schema) (origin : Origin) : Prop :=
  ∀ ⦃part⦄, Occurs part origin → part.HasType schema

variable {schema : Schema} {origin : Origin}

theorem Typed.hasType (h : origin.Typed schema) : origin.HasType schema := h .here

theorem HasType.knows (h : origin.HasType schema) {type : Ty}
    (htype : origin.type schema.typeOf = .ok type) : schema.Knows type := by
  obtain ⟨known, hknown, hknows⟩ := h
  rw [htype] at hknown
  cases hknown
  exact hknows

theorem typed_of_parts (htype : origin.HasType schema)
    (hparts : ∀ part ∈ origin.parts, part.Typed schema) : origin.Typed schema := by
  intro part hpart
  cases hpart with
  | here => exact htype
  | inside hmem hpart => exact hparts _ hmem hpart

theorem typed_of_scalar {type : Ty} (htype : origin.type schema.typeOf = .ok type)
    (hclass : type.class? = none) (hparts : origin.parts = []) : origin.Typed schema :=
  typed_of_parts ⟨type, htype, Schema.knows_of_class?_eq_none hclass⟩
    (hparts ▸ List.forall_mem_nil _)

end Origin

/-! ## Contexts -/

def Scope.Typed (schema : Schema) (scope : Scope) : Prop :=
  scope.receiver.Typed schema ∧ ∀ binding ∈ scope.locals, binding.2.Typed schema

def Target.Typed (schema : Schema) (target : Target) : Prop :=
  target.receiver.Typed schema ∧ schema.Resolves target.property.type

def Callee.Typed (schema : Schema) : Callee → Prop
  | .member receiver function =>
    receiver.Typed schema ∧ ∃ decl ∈ schema.classes, function ∈ decl.functions
  | .topLevel function => function ∈ schema.functions

structure Findings.Typed (schema : Schema) (findings : Findings) : Prop where
  assignments : ∀ assignment ∈ findings.assignments,
    assignment.target.receiver.Typed schema ∧ assignment.value.Typed schema
  additions : ∀ addition ∈ findings.additions,
    addition.container.Typed schema ∧ addition.object.Typed schema

structure Context.Typed (schema : Schema) (c : Context Findings) : Prop where
  scopes : ∀ scope ∈ c.scopes, scope.Typed schema
  record : c.record.Typed schema

namespace Context

variable {schema : Schema} {c c' : Context Findings}

theorem Typed.noted (hc : c.Typed schema) (h : c.Noted c') : c'.Typed schema :=
  ⟨h.scopes ▸ hc.scopes, h.record ▸ hc.record⟩

theorem Typed.counting (hc : c.Typed schema) : c.counting.Typed schema :=
  ⟨hc.scopes, hc.record⟩

theorem Typed.accepting (hc : c.Typed schema) {assignment : Assignment}
    (hreceiver : assignment.target.receiver.Typed schema)
    (hvalue : assignment.value.Typed schema) : (c.accepting assignment).Typed schema := by
  refine ⟨hc.scopes, fun a ha => ?_, hc.record.additions⟩
  rcases Array.mem_push.mp ha with ha | rfl
  · exact hc.record.assignments a ha
  · exact ⟨hreceiver, hvalue⟩

theorem Typed.adding (hc : c.Typed schema) {container object : Origin}
    (hcontainer : container.Typed schema) (hobject : object.Typed schema) :
    (c.adding container object).Typed schema := by
  refine ⟨hc.scopes, hc.record.assignments, fun a ha => ?_⟩
  rcases Array.mem_push.mp ha with ha | rfl
  · exact hc.record.additions a ha
  · exact ⟨hcontainer, hobject⟩

theorem Typed.within (hc : c.Typed schema) {scopes : List Scope}
    (hscopes : ∀ scope ∈ scopes, scope.Typed schema) : (c.within scopes).Typed schema :=
  ⟨hscopes, hc.record⟩

end Context

/-! ## Lookups -/

namespace Schema

variable {schema : Schema} {name : String} {scopes : List Scope}

theorem Closed.property? (closed : schema.Closed) {type : Ty} {property : Property}
    (hknows : schema.Knows type) (h : type.property? name = some property) :
    schema.Resolves property.type := by
  obtain ⟨decl, hclass, hproperty⟩ := Option.bind_eq_some_iff.mp h
  have hdecl := hknows decl (Resolver.class?_eq_some.mp hclass)
  exact closed.resolves _ (.property hdecl (List.mem_of_find?_eq_some hproperty))

theorem Closed.lookupValue (closed : schema.Closed) {span : Span} {value : Origin}
    (hscopes : ∀ scope ∈ scopes, scope.Typed schema)
    (h : schema.lookupValue name span scopes = .ok (some value)) : value.Typed schema := by
  rcases lookupValue_ok h with ⟨scope, hscope, hlocal⟩ | ⟨external, hexternal, rfl⟩
  · exact (hscopes scope hscope).2 _ hlocal
  · refine Origin.typed_of_parts ?_ (List.forall_mem_nil _)
    exact closed.resolves _ (.external (List.mem_of_find?_eq_some hexternal))

theorem Closed.lookupProperty (closed : schema.Closed) {target : Target}
    (hscopes : ∀ scope ∈ scopes, scope.Typed schema)
    (h : schema.lookupProperty name scopes = .ok (some target)) : target.Typed schema := by
  obtain ⟨scope, type, hscope, hreceiver, htype, hproperty⟩ := lookupProperty_ok h
  have hscope := (hscopes scope (List.mem_of_getElem? hscope)).1
  exact ⟨hreceiver ▸ hscope, closed.property? (hscope.hasType.knows htype) hproperty⟩

theorem memberOverload_typed {origin : Origin} {decl : ClassDecl} {types : List (Option Ty)}
    {function : MemberFunction} (horigin : origin.Typed schema)
    (htype : origin.type schema.typeOf = .ok (.object decl))
    (h : schema.memberOverload decl name types = .ok (some function)) :
    (Callee.member origin function).Typed schema :=
  ⟨horigin, decl, horigin.hasType.knows htype decl rfl, (memberOverload_ok h).1⟩

theorem lookupFunction_typed {arguments : List (Option Origin)} {types : List (Option Ty)}
    {callee : Callee} (hscopes : ∀ scope ∈ scopes, scope.Typed schema)
    (htypes : schema.argumentTypes arguments = .ok types)
    (h : schema.lookupFunction name types scopes = .ok (some callee)) : callee.Typed schema := by
  rcases lookupFunction_ok htypes h with
    ⟨scope, decl, function, hscope, rfl, htype, hfunction⟩ | ⟨function, rfl, hfunction⟩
  · exact memberOverload_typed (hscopes scope (List.mem_of_getElem? hscope)).1 htype hfunction
  · exact (topLevelOverload_ok hfunction).1

end Schema

namespace Resolver

def On.Typed (schema : Schema) (on : On) : Prop :=
  ∀ origin site, on = .object origin site → origin.Typed schema

def ArgumentsTyped (schema : Schema) (arguments : List (Option Origin)) : Prop :=
  ∀ origin, some origin ∈ arguments → origin.Typed schema

variable {schema : Schema} {c c' : Context Findings} {name : String} {span : Span}

/-! ## Steps -/

theorem MemberTarget.typed (closed : schema.Closed) {object : Origin} {site : Span}
    {found : Option Target} (h : MemberTarget schema object site name span c found c')
    (hobject : object.Typed schema) : ∀ target ∈ found, target.Typed schema := by
  cases h with
  | notAnObject => simp
  | @member decl _ htype _ =>
    intro target htarget
    obtain ⟨property, hproperty, rfl⟩ := Option.map_eq_some_iff.mp htarget
    have hproperty : (Ty.object decl).property? name = some property := hproperty
    exact ⟨hobject, closed.property? (hobject.hasType.knows htype) hproperty⟩

theorem CalleeFound.typed {arguments : List (Option Origin)} {on : On} {callee : Callee}
    (h : CalleeFound schema name arguments span c on (some callee) c') (hc : c.Typed schema)
    (hon : on.Typed schema) :
    callee.Typed schema := by
  obtain ⟨rfl, types, htypes, ⟨rfl, hfunction⟩ |
    ⟨origin, site, decl, function, rfl, rfl, htype, hfunction⟩⟩ := h.found
  · exact Schema.lookupFunction_typed hc.scopes htypes hfunction
  · exact Schema.memberOverload_typed (hon origin site rfl) htype hfunction

section
variable {arguments : List (Option Origin)} {block : Option Span}

theorem ArgumentsTyped.given (h : ArgumentsTyped schema arguments) :
    ∀ origin ∈ given arguments, origin.Typed schema := by
  intro origin horigin
  exact h origin (by simpa using horigin)

theorem forall_mem_ite {P : Origin → Prop} {present : Bool} {origin : Origin} (h : P origin) :
    ∀ a ∈ (if present then some origin else none), P a := by
  cases present with
  | false => simp
  | true => simpa using h

theorem memberCall_typed (closed : schema.Closed) {receiver : Origin} {function : MemberFunction}
    (hcallee : (Callee.member receiver function).Typed schema)
    (harguments : ArgumentsTyped schema arguments) (id : Nat) (span : Span) :
    (Origin.memberCall receiver function (given arguments) id span).Typed schema := by
  obtain ⟨hreceiver, decl, hdecl, hfunction⟩ := hcallee
  exact Origin.typed_of_parts (closed.result hdecl hfunction)
    (List.forall_mem_cons.mpr ⟨hreceiver, harguments.given⟩)

theorem Invoked.typed (closed : schema.Closed) {callee : Callee} {outcome : Outcome}
    (h : Invoked name arguments block span c callee outcome c') (hc : c.Typed schema)
    (hcallee : callee.Typed schema)
    (harguments : ArgumentsTyped schema arguments) : c'.Typed schema := by
  obtain ⟨checked, hn, rfl | ⟨receiver, function, rfl, -, rfl⟩⟩ := h.noted
  · exact (hc.noted hn).counting
  · exact (hc.noted hn).counting.adding hcallee.1
      (memberCall_typed closed hcallee harguments _ span)

theorem Invoked.outcome_typed (closed : schema.Closed) {callee : Callee} {outcome : Outcome}
    (h : Invoked name arguments block span c callee outcome c') (hcallee : callee.Typed schema)
    (harguments : ArgumentsTyped schema arguments) :
    (∀ origin ∈ outcome.configured, origin.Typed schema) ∧
      ∀ origin ∈ outcome.value, origin.Typed schema := by
  cases h with
  | @configure receiver function accessor middle opens _ hsemantics _ _ =>
    have hresult := memberCall_typed closed hcallee harguments c.nextId span
    obtain ⟨hreceiver, decl, hdecl, hfunction⟩ := hcallee
    -- the block is resolved on what is accessed, which need not be what the call gives
    have hobject := closed.resolves _ (.accessor hdecl hfunction hsemantics)
    exact ⟨forall_mem_ite (Origin.typed_of_parts hobject (List.forall_mem_singleton.mpr hreceiver)),
      forall_mem_ite hresult⟩
  | add =>
    have hresult := memberCall_typed closed hcallee harguments c.nextId span
    exact ⟨forall_mem_ite hresult, by simpa using hresult⟩
  | incomplete =>
    have hresult := memberCall_typed closed hcallee harguments c.nextId span
    exact ⟨forall_mem_ite hresult, by simp⟩
  | builder =>
    -- what is handed back has the type of the receiver, not the declared one
    refine ⟨by simp, forall_mem_ite (Origin.typed_of_parts hcallee.1.hasType ?_)⟩
    exact List.forall_mem_cons.mpr ⟨hcallee.1, harguments.given⟩
  | pure => exact ⟨by simp, forall_mem_ite (memberCall_typed closed hcallee harguments _ span)⟩
  | @topLevel function opens =>
    have hresult : (Origin.topLevelCall function (given arguments) c.nextId span).Typed schema :=
      Origin.typed_of_parts (closed.resolves _ (.topLevelResult hcallee))
        (harguments.given)
    exact ⟨forall_mem_ite hresult, forall_mem_ite hresult⟩

end

theorem Assigned.typed {target : Target} {targetSpan valueSpan : Span} {value : Origin}
    (h : Assigned schema target targetSpan value valueSpan span c c') (hc : c.Typed schema)
    (htarget : target.Typed schema) (hvalue : value.Typed schema) : c'.Typed schema := by
  cases h with
  | readOnly => exact hc.noted (c.noted_reporting _)
  | accepted => exact hc.accepting htarget.1 hvalue
  | mismatch => exact hc.noted (c.noted_reporting _)

theorem LocalBound.typed {value : Origin} (h : LocalBound name value span c c')
    (hc : c.Typed schema) (hvalue : value.Typed schema) : c'.Typed schema := by
  cases h with
  | duplicate => exact hc.noted (c.noted_reporting _)
  | @declared scope next outer hs hd =>
    obtain ⟨-, rfl⟩ := Scope.declare?_eq_some.mp hd
    have hbinding : (Origin.binding name value span).Typed schema :=
      Origin.typed_of_parts hvalue.hasType (List.forall_mem_singleton.mpr hvalue)
    have hscopes := hc.scopes
    rw [hs, List.forall_mem_cons] at hscopes
    obtain ⟨⟨hreceiver, hlocals⟩, houter⟩ := hscopes
    refine hc.within (List.forall_mem_cons.mpr ⟨⟨hreceiver, ?_⟩, houter⟩)
    exact List.forall_mem_cons.mpr ⟨hbinding, hlocals⟩

/-! ## Walks -/

def Task.Typed (schema : Schema) : Task → Prop
  | .configured object _ => ∀ origin ∈ object, origin.Typed schema
  | _ => True

/-- What a task comes to is typed. -/
def Task.Delivers (schema : Schema) : (task : Task) → task.Result → Prop
  | .target _, found => ∀ target ∈ found, target.Typed schema
  | .expr _, value | .call _, value => ∀ origin ∈ value, origin.Typed schema
  | .receiver _, on => on.Typed schema
  | .arguments _, origins => ArgumentsTyped schema origins
  | .configured _ _, _ | .statement _, _ | .statements _, _ | .block _, _ => True

theorem read_typed {found : Option Target} (h : ∀ target ∈ found, target.Typed schema) :
    ∀ origin ∈ found.map (·.read span), origin.Typed schema := by
  intro origin horigin
  obtain ⟨target, hfound, rfl⟩ := Option.map_eq_some_iff.mp horigin
  obtain ⟨hreceiver, hresolves⟩ := h target hfound
  exact Origin.typed_of_parts hresolves (List.forall_mem_singleton.mpr hreceiver)

theorem Walk.typed (closed : schema.Closed) {task : Task} {result : task.Result}
    {visits : List Visit} (h : Walk schema task c result c' visits) (htask : task.Typed schema)
    (hc : c.Typed schema) : c'.Typed schema ∧ task.Delivers schema result := by
  induction h with
  | implicitTarget hl ht =>
    refine ⟨hc.noted ht.noted, fun target htarget => ?_⟩
    cases htarget
    exact closed.lookupProperty hc.scopes hl
  | noTarget _ ih => exact ⟨(ih trivial hc).1, by simp [Task.Delivers]⟩
  | memberTarget _ hm ih =>
    obtain ⟨hc, hobject⟩ := ih trivial hc
    exact ⟨hc.noted hm.noted, hm.typed closed (hobject _ rfl)⟩
  | literal => exact ⟨hc, forall_mem_some (Origin.typed_of_scalar rfl rfl rfl)⟩
  | null => exact ⟨hc, forall_mem_some (Origin.typed_of_scalar rfl rfl rfl)⟩
  | @this _ scope outer _ hs =>
    exact ⟨hc, forall_mem_some (hc.scopes scope (hs ▸ List.mem_cons_self)).1⟩
  | value hl => exact ⟨hc, forall_mem_some (closed.lookupValue hc.scopes hl)⟩
  | implicitRead _ _ ih =>
    obtain ⟨hc, hfound⟩ := ih trivial hc
    exact ⟨hc, read_typed hfound⟩
  | memberRead _ ih =>
    obtain ⟨hc, hfound⟩ := ih trivial hc
    exact ⟨hc, read_typed hfound⟩
  | callExpr _ ih => exact ih trivial hc
  | uncalled _ _ hf ihr iha =>
    have hc₂ := (iha trivial (ihr trivial hc).1).1
    exact ⟨hc₂.noted hf.noted, by simp [Task.Delivers]⟩
  | called _ _ hf hi _ ihr iha ihb =>
    obtain ⟨hc₁, hon⟩ := ihr trivial hc
    obtain ⟨hc₂, harguments⟩ := iha trivial hc₁
    have hcallee := hf.typed hc₂ hon
    obtain ⟨hconfigured, hvalue⟩ := hi.outcome_typed closed hcallee harguments
    have hc₄ := hi.typed closed (hc₂.noted hf.noted) hcallee harguments
    exact ⟨(ihb hconfigured hc₄).1, hvalue⟩
  | unqualified => exact ⟨hc, by simp [Task.Delivers, On.Typed]⟩
  | unresolved _ ih => exact ⟨(ih trivial hc).1, by simp [Task.Delivers, On.Typed]⟩
  | object _ ih =>
    obtain ⟨hc, horigin⟩ := ih trivial hc
    refine ⟨hc, ?_⟩
    rintro _ _ ⟨⟩
    exact horigin _ rfl
  | noArguments => exact ⟨hc, by simp [Task.Delivers, ArgumentsTyped]⟩
  | argument _ _ ih ihs =>
    obtain ⟨hc, horigin⟩ := ih trivial hc
    obtain ⟨hc, horigins⟩ := ihs trivial hc
    refine ⟨hc, fun origin hmem => ?_⟩
    rcases List.mem_cons.mp hmem with rfl | hmem
    · exact horigin origin rfl
    · exact horigins origin hmem
  | noBlock => exact ⟨hc, trivial⟩
  | skipped => exact ⟨hc, trivial⟩
  | @opened object block inner outer c middle _ _ hm _ ih =>
    have hobject : (Scope.new object).Typed schema := ⟨htask object rfl, List.forall_mem_nil _⟩
    obtain ⟨hmiddle, -⟩ := ih trivial (hc.within (List.forall_mem_cons.mpr ⟨hobject, hc.scopes⟩))
    -- the scope that is left is the only one that the block can have changed
    refine ⟨hmiddle.within fun scope hscope => hmiddle.scopes scope ?_, trivial⟩
    exact hm ▸ List.mem_cons_of_mem inner hscope
  | assign _ _ ha iht ihv =>
    obtain ⟨hc₁, htarget⟩ := iht trivial hc
    obtain ⟨hc₂, hvalue⟩ := ihv trivial hc₁
    exact ⟨ha.typed hc₂ (htarget _ rfl) (hvalue _ rfl), trivial⟩
  | unassigned _ _ _ iht ihv => exact ⟨(ihv trivial (iht trivial hc).1).1, trivial⟩
  | val _ hb ih =>
    obtain ⟨hc, hvalue⟩ := ih trivial hc
    exact ⟨hb.typed hc (hvalue _ rfl), trivial⟩
  | unbound _ ih => exact ⟨(ih trivial hc).1, trivial⟩
  | exprStatement _ ih => exact ⟨(ih trivial hc).1, trivial⟩
  | noStatements => exact ⟨hc, trivial⟩
  | statements _ _ ih ihs => exact ⟨(ihs trivial (ih trivial hc).1).1, trivial⟩
  | block _ ih => exact ih trivial hc

theorem typed_topReceiver (closed : schema.Closed) (document : Block) :
    (topReceiver schema document).Typed schema := by
  refine Origin.typed_of_parts ⟨.object schema.topLevel, rfl, ?_⟩ (List.forall_mem_nil _)
  rintro _ ⟨⟩
  exact closed.topLevel

theorem typed_new : (Context.new ⟨#[], #[]⟩ : Context Findings).Typed schema :=
  ⟨List.forall_mem_nil _, by simp [Context.new], by simp [Context.new]⟩

end Resolver

end ConfigScope
