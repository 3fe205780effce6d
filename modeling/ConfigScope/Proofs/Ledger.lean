import ConfigScope.Proofs.Coverage
import ConfigScope.Proofs.Progress

/-!
# The calls behind a walk

Every call of a walk takes the next id, also one that comes to nothing. A ledger
lists the calls that were made, each in the place of its id: the function, the
arguments as they were resolved, and where the call stands. In a ledger every
function was found on what it is called on and accepts its arguments, and what a
call is made on and with came from calls before it.

A walk leaves a longer ledger behind (`Walk.explained`), which explains the
context it ends in. Whatever origin the context holds is traced to the ledger:
each call inside it is the one that the ledger lists under its id. The additions
are those of the listed calls that add something, and as long as there is no
issue, no listed call misses an argument.
-/

namespace ConfigScope

/-- A call that was made. An argument that could not be resolved is listed as none. -/
structure Invocation where
  callee : Callee
  arguments : List (Option Origin)
  span : Span

namespace Callee

def parameters : Callee → List Parameter
  | member _ function => function.parameters
  | topLevel function => function.parameters

def receiver? : Callee → Option Origin
  | member receiver _ => some receiver
  | topLevel _ => none

def Declared (schema : Schema) : Callee → Prop
  | member receiver function =>
    ∃ decl, receiver.type schema.typeOf = .ok (.object decl) ∧ function ∈ decl.functions
  | topLevel function => function ∈ schema.functions

end Callee

namespace Origin

def id? : Origin → Option Nat
  | memberCall _ _ _ id _ | topLevelCall _ _ id _ | configured _ _ id _ _ | built _ _ _ id _ =>
    some id
  | constant _ _ | external _ _ | property _ _ _ | defaultValue _ _ _ | top _ _ | binding _ _ _
  | null _ => none

end Origin

namespace Invocation

open Resolver (complete given)

def origins (call : Invocation) : List Origin :=
  call.callee.receiver?.toList ++ given call.arguments

/-- The origins that a call brings about: its result, and the object that its block is about. -/
inductive Yields (id : Nat) : Invocation → Origin → Prop
  | result {receiver function arguments span} :
      (∀ result, function.semantics ≠ .builder result) →
      Yields id ⟨.member receiver function, arguments, span⟩
        (.memberCall receiver function (given arguments) id span)
  | configured {receiver function arguments accessor span} :
      function.semantics = .configure accessor →
      Yields id ⟨.member receiver function, arguments, span⟩
        (.configured receiver function id accessor span)
  | built {receiver function arguments result span} :
      function.semantics = .builder result →
      Yields id ⟨.member receiver function, arguments, span⟩
        (.built receiver function (given arguments) id span)
  | topLevel {function arguments span} :
      Yields id ⟨.topLevel function, arguments, span⟩
        (.topLevelCall function (given arguments) id span)

/-- The function was found where it is declared, and accepts the arguments. -/
structure Lawful (schema : Schema) (call : Invocation) : Prop where
  declared : call.callee.Declared schema
  accepted : ∃ types, schema.argumentTypes call.arguments = .ok types ∧
    schema.accepts call.callee.parameters types = .ok true

/-- What a call adds to its receiver; nothing if an argument is missing. -/
def addition? (id : Nat) (call : Invocation) : Option Addition :=
  match call.callee with
  | .member receiver function =>
    match function.semantics with
    | .add _ _ =>
      if complete call.arguments then
        some ⟨receiver, .memberCall receiver function (given call.arguments) id call.span⟩
      else none
    | .builder _ | .configure _ | .pure _ => none
  | .topLevel _ => none

def additions (calls : List Invocation) : List Addition :=
  calls.zipIdx.filterMap fun entry => entry.1.addition? entry.2

variable {id : Nat} {call : Invocation} {origin : Origin}

theorem Yields.id?_eq (h : call.Yields id origin) : origin.id? = some id := by
  cases h <;> rfl

theorem Yields.parts_subset (h : call.Yields id origin) : origin.parts ⊆ call.origins := by
  cases h with
  | result => exact List.Subset.refl _
  | configured => exact List.cons_subset_cons _ (List.nil_subset _)
  | built => exact List.Subset.refl _
  | topLevel => exact List.Subset.refl _

theorem addition?_eq_some {addition : Addition} :
    call.addition? id = some addition ↔
      ∃ receiver function object acceptsBlock, call.callee = .member receiver function ∧
        function.semantics = .add object acceptsBlock ∧ complete call.arguments = true ∧
        addition =
          ⟨receiver, .memberCall receiver function (given call.arguments) id call.span⟩ := by
  constructor
  · intro h
    unfold addition? at h
    split at h
    · next receiver function hcallee =>
      split at h
      · next object acceptsBlock hs =>
        obtain ⟨hall, h⟩ := Option.ite_none_right_eq_some.mp h
        cases h
        exact ⟨receiver, function, object, acceptsBlock, hcallee, hs, hall, rfl⟩
      all_goals cases h
    · cases h
  · rintro ⟨receiver, function, object, acceptsBlock, hcallee, hs, hall, rfl⟩
    simp [addition?, hcallee, hs, hall]

theorem mem_additions {calls : List Invocation} {addition : Addition} :
    addition ∈ additions calls ↔
      ∃ (id : Nat) (call : Invocation), calls[id]? = some call ∧
        call.addition? id = some addition := by
  simp only [additions, List.mem_filterMap, Prod.exists, List.mk_mem_zipIdx_iff_getElem?]
  exact exists_comm

theorem additions_append (calls : List Invocation) (call : Invocation) :
    additions (calls ++ [call]) = additions calls ++ (call.addition? calls.length).toList := by
  cases h : call.addition? calls.length <;> simp [additions, List.zipIdx_append, h]

end Invocation

namespace Origin

/-- Each call inside an origin is the one that is listed under its id. -/
def Traced (calls : List Invocation) (origin : Origin) : Prop :=
  ∀ ⦃part⦄, Occurs part origin → ∀ ⦃id⦄, part.id? = some id →
    ∃ call, calls[id]? = some call ∧ call.Yields id part

variable {calls calls' : List Invocation} {origin : Origin}

theorem Traced.mono (h : origin.Traced calls) (hle : calls <+: calls') : origin.Traced calls' := by
  obtain ⟨more, rfl⟩ := hle
  intro part hpart id hid
  obtain ⟨call, hcall, hyields⟩ := h hpart hid
  obtain ⟨hlt, -⟩ := List.getElem?_eq_some_iff.mp hcall
  refine ⟨call, ?_, hyields⟩
  rwa [List.getElem?_append_left hlt]

theorem traced_of_parts
    (horigin : ∀ ⦃id⦄, origin.id? = some id →
      ∃ call, calls[id]? = some call ∧ call.Yields id origin)
    (hparts : ∀ part ∈ origin.parts, part.Traced calls) : origin.Traced calls := by
  intro part hpart
  cases hpart with
  | here => exact horigin
  | inside hmem hpart => exact hparts _ hmem hpart

theorem traced_of_id?_eq_none (hid : origin.id? = none)
    (hparts : ∀ part ∈ origin.parts, part.Traced calls) : origin.Traced calls := by
  refine traced_of_parts ?_ hparts
  intro id h
  rw [hid] at h
  cases h

end Origin

/-! ## Ledgers -/

structure Ledger (schema : Schema) where
  calls : List Invocation
  lawful : ∀ call ∈ calls, call.Lawful schema
  /-- What a call is made on and with came from the calls before it. -/
  ordered : ∀ ⦃id : Nat⦄ ⦃call : Invocation⦄, calls[id]? = some call →
    ∀ origin ∈ call.origins, origin.Traced (calls.take id)

namespace Ledger

variable {schema : Schema}

def empty : Ledger schema :=
  ⟨[], List.forall_mem_nil _, by simp⟩

def push (ledger : Ledger schema) (call : Invocation) (lawful : call.Lawful schema)
    (traced : ∀ origin ∈ call.origins, origin.Traced ledger.calls) : Ledger schema where
  calls := ledger.calls ++ [call]
  lawful := by
    rw [List.forall_mem_append, List.forall_mem_singleton]
    exact ⟨ledger.lawful, lawful⟩
  ordered := by
    intro id found hfound
    rcases Nat.lt_trichotomy id ledger.calls.length with hlt | rfl | hgt
    · rw [List.getElem?_append_left hlt] at hfound
      rw [List.take_append_of_le_length (Nat.le_of_lt hlt)]
      exact ledger.ordered hfound
    · rw [List.getElem?_concat_length] at hfound
      cases hfound
      simpa using traced
    · rw [List.getElem?_eq_none (by simpa [Nat.succ_le_iff] using hgt)] at hfound
      cases hfound

theorem getElem?_push (ledger : Ledger schema) {call : Invocation} (lawful : call.Lawful schema)
    (traced : ∀ origin ∈ call.origins, origin.Traced ledger.calls) :
    (ledger.push call lawful traced).calls[ledger.calls.length]? = some call :=
  List.getElem?_concat_length

theorem traced_of_yields (ledger : Ledger schema) {id : Nat} {call : Invocation} {origin : Origin}
    (hcall : ledger.calls[id]? = some call) (hyields : call.Yields id origin) :
    origin.Traced ledger.calls := by
  refine Origin.traced_of_parts ?_ ?_
  · intro id' hid
    rw [hyields.id?_eq] at hid
    cases hid
    exact ⟨call, hcall, hyields⟩
  · intro part hpart
    have hpart := ledger.ordered hcall part (hyields.parts_subset hpart)
    exact hpart.mono (List.take_prefix id ledger.calls)

theorem traced_of_mem_additions (ledger : Ledger schema) {addition : Addition}
    (h : addition ∈ Invocation.additions ledger.calls) :
    addition.container.Traced ledger.calls ∧ addition.object.Traced ledger.calls := by
  obtain ⟨id, ⟨callee, arguments, span⟩, hcall, hadds⟩ := Invocation.mem_additions.mp h
  obtain ⟨receiver, function, object, acceptsBlock, rfl, hs, -, rfl⟩ :=
    Invocation.addition?_eq_some.mp hadds
  constructor
  · have hreceiver := ledger.ordered hcall receiver List.mem_cons_self
    exact hreceiver.mono (List.take_prefix id ledger.calls)
  · exact ledger.traced_of_yields hcall (.result (by simp [hs]))

/-- The ledger lists the calls that led to a context. -/
structure Explains (ledger : Ledger schema) (c : Context Findings) : Prop where
  length : ledger.calls.length = c.nextId
  scopes : ∀ scope ∈ c.scopes, scope.receiver.Traced ledger.calls ∧
    ∀ binding ∈ scope.locals, binding.2.Traced ledger.calls
  assignments : ∀ assignment ∈ c.record.assignments,
    assignment.target.receiver.Traced ledger.calls ∧ assignment.value.Traced ledger.calls
  additions : c.record.additions.toList = Invocation.additions ledger.calls
  complete : c.issues = #[] → ∀ call ∈ ledger.calls, Resolver.complete call.arguments = true

namespace Explains

variable {ledger : Ledger schema} {c c' : Context Findings}

theorem noted (h : ledger.Explains c) (hn : c.Noted c') : ledger.Explains c' := by
  refine ⟨h.length.trans hn.nextId.symm, hn.scopes ▸ h.scopes, hn.record ▸ h.assignments,
    hn.record ▸ h.additions, ?_⟩
  intro hissues
  refine h.complete ?_
  simpa [hissues] using hn.issues

theorem accepting (h : ledger.Explains c) {assignment : Assignment}
    (hreceiver : assignment.target.receiver.Traced ledger.calls)
    (hvalue : assignment.value.Traced ledger.calls) : ledger.Explains (c.accepting assignment) := by
  refine ⟨h.length, h.scopes, ?_, h.additions, h.complete⟩
  intro a ha
  rcases Array.mem_push.mp ha with ha | rfl
  · exact h.assignments a ha
  · exact ⟨hreceiver, hvalue⟩

theorem within (h : ledger.Explains c) {scopes : List Scope}
    (hscopes : ∀ scope ∈ scopes, scope.receiver.Traced ledger.calls ∧
      ∀ binding ∈ scope.locals, binding.2.Traced ledger.calls) :
    ledger.Explains (c.within scopes) :=
  ⟨h.length, hscopes, h.assignments, h.additions, h.complete⟩

theorem lookupValue (h : ledger.Explains c) {name : String} {span : Span} {value : Origin}
    (hl : schema.lookupValue name span c.scopes = .ok (some value)) :
    value.Traced ledger.calls := by
  rcases Schema.lookupValue_ok hl with ⟨scope, hscope, hlocal⟩ | ⟨external, -, rfl⟩
  · exact (h.scopes scope hscope).2 _ hlocal
  · exact Origin.traced_of_id?_eq_none rfl (List.forall_mem_nil _)

theorem lookupProperty (h : ledger.Explains c) {name : String} {target : Target}
    (hl : schema.lookupProperty name c.scopes = .ok (some target)) :
    target.receiver.Traced ledger.calls := by
  obtain ⟨scope, type, hscope, hreceiver, -⟩ := Schema.lookupProperty_ok hl
  rw [hreceiver]
  exact (h.scopes scope (List.mem_of_getElem? hscope)).1

end Explains

end Ledger

namespace Resolver

variable {schema : Schema} {c c' : Context Findings} {name : String} {span : Span}

/-! ## Steps -/

def On.origins : On → List Origin
  | .object origin _ => [origin]
  | .nothing | .unresolved => []

theorem MemberTarget.traced {calls : List Invocation} {object : Origin} {site : Span}
    {found : Option Target} (h : MemberTarget schema object site name span c found c')
    (hobject : object.Traced calls) :
    ∀ origin ∈ (found.map (·.receiver)).toList, origin.Traced calls := by
  cases h with
  | notAnObject => exact List.forall_mem_nil _
  | @member decl =>
    cases decl.property? name with
    | none => exact List.forall_mem_nil _
    | some property => exact List.forall_mem_singleton.mpr hobject

section
variable {arguments : List (Option Origin)} {block : Option Span} {callee : Callee}

theorem CalleeFound.lawful {on : On}
    (h : CalleeFound schema name arguments span c on (some callee) c') :
    Invocation.Lawful schema ⟨callee, arguments, span⟩ := by
  obtain ⟨-, types, htypes, ⟨-, hl⟩ | ⟨origin, site, decl, function, -, rfl, htype, hf⟩⟩ := h.found
  · rcases Schema.lookupFunction_ok htypes hl with
      ⟨scope, decl, function, -, rfl, htype, hf⟩ | ⟨function, rfl, hf⟩
    · obtain ⟨hmem, haccepts⟩ := Schema.memberOverload_ok hf
      exact ⟨⟨decl, htype, hmem⟩, types, htypes, haccepts⟩
    · obtain ⟨hmem, haccepts⟩ := Schema.topLevelOverload_ok hf
      exact ⟨hmem, types, htypes, haccepts⟩
  · obtain ⟨hmem, haccepts⟩ := Schema.memberOverload_ok hf
    exact ⟨⟨decl, htype, hmem⟩, types, htypes, haccepts⟩

theorem CalleeFound.traced {ledger : Ledger schema} {on : On}
    (h : CalleeFound schema name arguments span c on (some callee) c') (hc : ledger.Explains c)
    (hon : ∀ origin ∈ on.origins, origin.Traced ledger.calls) :
    ∀ origin ∈ callee.receiver?.toList, origin.Traced ledger.calls := by
  obtain ⟨-, types, htypes, ⟨-, hl⟩ | ⟨origin, site, decl, function, rfl, rfl, -, -⟩⟩ := h.found
  · rcases Schema.lookupFunction_ok htypes hl with
      ⟨scope, decl, function, hscope, rfl, -, -⟩ | ⟨function, rfl, -⟩
    · exact List.forall_mem_singleton.mpr (hc.scopes scope (List.mem_of_getElem? hscope)).1
    · exact List.forall_mem_nil _
  · exact hon

variable {outcome : Outcome}

theorem Invoked.yields (h : Invoked name arguments block span c callee outcome c') :
    (∀ origin ∈ outcome.configured,
        Invocation.Yields c.nextId ⟨callee, arguments, span⟩ origin) ∧
      ∀ origin ∈ outcome.value, Invocation.Yields c.nextId ⟨callee, arguments, span⟩ origin := by
  cases h with
  | configure hs =>
    exact ⟨forall_mem_ite (.configured hs), forall_mem_ite (.result (by simp [hs]))⟩
  | add hs =>
    exact ⟨forall_mem_ite (.result (by simp [hs])), forall_mem_some (.result (by simp [hs]))⟩
  | incomplete hs => exact ⟨forall_mem_ite (.result (by simp [hs])), by simp⟩
  | builder hs => exact ⟨by simp, forall_mem_ite (.built hs)⟩
  | pure hs => exact ⟨by simp, forall_mem_ite (.result (by simp [hs]))⟩
  | topLevel => exact ⟨forall_mem_ite .topLevel, forall_mem_ite .topLevel⟩

theorem Invoked.additions_eq (h : Invoked name arguments block span c callee outcome c') :
    c'.record.additions.toList = c.record.additions.toList ++
      (Invocation.addition? c.nextId ⟨callee, arguments, span⟩).toList := by
  cases h with
  | configure hs hg hb => simp [Invocation.addition?, hs, (hg.noted.trans hb.noted).record]
  | add hs hall hg hb => simp [Invocation.addition?, hs, hall, (hg.noted.trans hb.noted).record]
  | incomplete hs hall hg hb =>
    simp [Invocation.addition?, hs, hall, (hg.noted.trans hb.noted).record]
  | builder hs hg hb => simp [Invocation.addition?, hs, (hg.noted.trans hb.noted).record]
  | pure hs hg hb => simp [Invocation.addition?, hs, (hg.noted.trans hb.noted).record]
  | topLevel hb => simp [Invocation.addition?, hb.noted.record]

theorem Invoked.explains_push {ledger : Ledger schema}
    (h : Invoked name arguments block span c callee outcome c') (hc : ledger.Explains c)
    (lawful : Invocation.Lawful schema ⟨callee, arguments, span⟩)
    (traced : ∀ origin ∈ Invocation.origins ⟨callee, arguments, span⟩,
      origin.Traced ledger.calls)
    (hcomplete : c.issues = #[] → complete arguments = true) :
    (ledger.push ⟨callee, arguments, span⟩ lawful traced).Explains c' := by
  have hle : ledger.calls <+: (ledger.push ⟨callee, arguments, span⟩ lawful traced).calls :=
    List.prefix_append _ _
  obtain ⟨hscopes, hextends⟩ := h.frame
  refine ⟨?_, ?_, ?_, ?_, ?_⟩
  · simp [Ledger.push, hc.length, h.nextId]
  · intro scope hscope
    obtain ⟨hreceiver, hlocals⟩ := hc.scopes scope (hscopes ▸ hscope)
    exact ⟨hreceiver.mono hle, fun binding hbinding => (hlocals binding hbinding).mono hle⟩
  · intro assignment hmem
    obtain ⟨hreceiver, hvalue⟩ := hc.assignments assignment (h.assignments ▸ hmem)
    exact ⟨hreceiver.mono hle, hvalue.mono hle⟩
  · rw [h.additions_eq, hc.additions, ← hc.length]
    exact (Invocation.additions_append ledger.calls _).symm
  · intro hissues
    have hissues : c.issues = #[] := by simpa [hissues] using hextends.issues
    exact List.forall_mem_append.mpr
      ⟨hc.complete hissues, List.forall_mem_singleton.mpr (hcomplete hissues)⟩

theorem Invoked.explained {ledger : Ledger schema}
    (h : Invoked name arguments block span c callee outcome c') (hc : ledger.Explains c)
    (lawful : Invocation.Lawful schema ⟨callee, arguments, span⟩)
    (traced : ∀ origin ∈ Invocation.origins ⟨callee, arguments, span⟩,
      origin.Traced ledger.calls)
    (hcomplete : c.issues = #[] → complete arguments = true) :
    ∃ ledger' : Ledger schema, ledger.calls <+: ledger'.calls ∧ ledger'.Explains c' ∧
      (∀ origin ∈ outcome.configured.toList, origin.Traced ledger'.calls) ∧
      ∀ origin ∈ outcome.value.toList, origin.Traced ledger'.calls := by
  have hlisted := ledger.getElem?_push lawful traced
  rw [hc.length] at hlisted
  obtain ⟨hconfigured, hvalue⟩ := h.yields
  refine ⟨_, List.prefix_append _ _, h.explains_push hc lawful traced hcomplete, ?_, ?_⟩
  · intro origin horigin
    exact Ledger.traced_of_yields _ hlisted (hconfigured origin (by simpa using horigin))
  · intro origin horigin
    exact Ledger.traced_of_yields _ hlisted (hvalue origin (by simpa using horigin))

end

theorem Assigned.explained {ledger : Ledger schema} {target : Target} {targetSpan valueSpan : Span}
    {value : Origin} (h : Assigned schema target targetSpan value valueSpan span c c')
    (hc : ledger.Explains c) (htarget : target.receiver.Traced ledger.calls)
    (hvalue : value.Traced ledger.calls) : ledger.Explains c' := by
  cases h with
  | readOnly => exact hc.noted (c.noted_reporting _)
  | accepted => exact hc.accepting htarget hvalue
  | mismatch => exact hc.noted (c.noted_reporting _)

theorem LocalBound.explained {ledger : Ledger schema} {value : Origin}
    (h : LocalBound name value span c c') (hc : ledger.Explains c)
    (hvalue : value.Traced ledger.calls) : ledger.Explains c' := by
  cases h with
  | duplicate => exact hc.noted (c.noted_reporting _)
  | @declared scope next outer hs hd =>
    obtain ⟨-, rfl⟩ := Scope.declare?_eq_some.mp hd
    have hbinding : (Origin.binding name value span).Traced ledger.calls :=
      Origin.traced_of_id?_eq_none rfl (List.forall_mem_singleton.mpr hvalue)
    have hscopes := hc.scopes
    rw [hs, List.forall_mem_cons] at hscopes
    obtain ⟨⟨hreceiver, hlocals⟩, houter⟩ := hscopes
    refine hc.within (List.forall_mem_cons.mpr ⟨⟨hreceiver, ?_⟩, houter⟩)
    exact List.forall_mem_cons.mpr ⟨hbinding, hlocals⟩

/-! ## Walks -/

def Task.inputs : Task → List Origin
  | .configured object _ => object.toList
  | _ => []

def Task.outputs : (task : Task) → task.Result → List Origin
  | .target _, found => (found.map (·.receiver)).toList
  | .expr _, value | .call _, value => value.toList
  | .receiver _, on => on.origins
  | .arguments _, origins => given origins
  | .configured _ _, _ | .statement _, _ | .statements _, _ | .block _, _ => []

theorem read_traced {calls : List Invocation} {found : Option Target}
    (h : ∀ origin ∈ (found.map (·.receiver)).toList, origin.Traced calls) :
    ∀ origin ∈ (found.map (·.read span)).toList, origin.Traced calls := by
  cases found with
  | none => exact List.forall_mem_nil _
  | some target =>
    have hreceiver : target.receiver.Traced calls := List.forall_mem_singleton.mp h
    refine List.forall_mem_singleton.mpr ?_
    exact Origin.traced_of_id?_eq_none rfl (List.forall_mem_singleton.mpr hreceiver)

theorem Walk.complete_of_no_issues {arguments : List Expr} {origins : List (Option Origin)}
    {visits : List Visit} (h : Walk schema (.arguments arguments) c origins c' visits)
    (hissues : c'.issues = #[]) : complete origins = true := by
  rw [← Bool.not_eq_false]
  intro hmissing
  have hlt := h.issues_lt_of_fails hmissing
  simp [hissues] at hlt

theorem Walk.explained {task : Task} {result : task.Result} {visits : List Visit}
    (h : Walk schema task c result c' visits) {ledger : Ledger schema} (hc : ledger.Explains c)
    (hinputs : ∀ origin ∈ task.inputs, origin.Traced ledger.calls) :
    ∃ ledger' : Ledger schema, ledger.calls <+: ledger'.calls ∧ ledger'.Explains c' ∧
      ∀ origin ∈ task.outputs result, origin.Traced ledger'.calls := by
  induction h generalizing ledger with
  | @implicitTarget _ _ _ found _ hl ht =>
    refine ⟨ledger, List.prefix_rfl, hc.noted ht.noted, ?_⟩
    cases found with
    | none => exact List.forall_mem_nil _
    | some target => exact List.forall_mem_singleton.mpr (hc.lookupProperty hl)
  | noTarget _ ih =>
    obtain ⟨ledger', hle, hc', -⟩ := ih hc (List.forall_mem_nil _)
    exact ⟨ledger', hle, hc', List.forall_mem_nil _⟩
  | memberTarget _ hm ih =>
    obtain ⟨ledger', hle, hc', hobject⟩ := ih hc (List.forall_mem_nil _)
    exact ⟨ledger', hle, hc'.noted hm.noted, hm.traced (List.forall_mem_singleton.mp hobject)⟩
  | literal =>
    refine ⟨ledger, List.prefix_rfl, hc, List.forall_mem_singleton.mpr ?_⟩
    exact Origin.traced_of_id?_eq_none rfl (List.forall_mem_nil _)
  | null =>
    refine ⟨ledger, List.prefix_rfl, hc, List.forall_mem_singleton.mpr ?_⟩
    exact Origin.traced_of_id?_eq_none rfl (List.forall_mem_nil _)
  | @this _ scope outer _ hs =>
    refine ⟨ledger, List.prefix_rfl, hc, List.forall_mem_singleton.mpr ?_⟩
    exact (hc.scopes scope (hs ▸ List.mem_cons_self)).1
  | value hl =>
    exact ⟨ledger, List.prefix_rfl, hc, List.forall_mem_singleton.mpr (hc.lookupValue hl)⟩
  | implicitRead _ _ ih =>
    obtain ⟨ledger', hle, hc', hfound⟩ := ih hc (List.forall_mem_nil _)
    exact ⟨ledger', hle, hc', read_traced hfound⟩
  | memberRead _ ih =>
    obtain ⟨ledger', hle, hc', hfound⟩ := ih hc (List.forall_mem_nil _)
    exact ⟨ledger', hle, hc', read_traced hfound⟩
  | callExpr _ ih => exact ih hc (List.forall_mem_nil _)
  | uncalled _ _ hf ihr iha =>
    obtain ⟨ledger₁, hle₁, hc₁, -⟩ := ihr hc (List.forall_mem_nil _)
    obtain ⟨ledger₂, hle₂, hc₂, -⟩ := iha hc₁ (List.forall_mem_nil _)
    exact ⟨ledger₂, hle₁.trans hle₂, hc₂.noted hf.noted, List.forall_mem_nil _⟩
  | called _ ha hf hi _ ihr iha ihb =>
    obtain ⟨ledger₁, hle₁, hc₁, hon⟩ := ihr hc (List.forall_mem_nil _)
    obtain ⟨ledger₂, hle₂, hc₂, harguments⟩ := iha hc₁ (List.forall_mem_nil _)
    have hreceiver := hf.traced hc₂ fun origin horigin => (hon origin horigin).mono hle₂
    obtain ⟨rfl, -⟩ := hf.found
    -- the id is taken once the arguments are resolved and before the block is, so the call is
    -- listed after the calls in its arguments and before those in its block
    obtain ⟨ledger₄, hle₄, hc₄, hconfigured, hvalue⟩ := hi.explained hc₂ hf.lawful
      (List.forall_mem_append.mpr ⟨hreceiver, harguments⟩) ha.complete_of_no_issues
    obtain ⟨ledger', hle', hc', -⟩ := ihb hc₄ hconfigured
    refine ⟨ledger', hle₁.trans (hle₂.trans (hle₄.trans hle')), hc', ?_⟩
    intro origin horigin
    exact (hvalue origin horigin).mono hle'
  | unqualified => exact ⟨ledger, List.prefix_rfl, hc, List.forall_mem_nil _⟩
  | unresolved _ ih =>
    obtain ⟨ledger', hle, hc', -⟩ := ih hc (List.forall_mem_nil _)
    exact ⟨ledger', hle, hc', List.forall_mem_nil _⟩
  | object _ ih => exact ih hc (List.forall_mem_nil _)
  | noArguments => exact ⟨ledger, List.prefix_rfl, hc, List.forall_mem_nil _⟩
  | @argument _ _ origin origins _ _ _ _ _ _ _ ih ihs =>
    obtain ⟨ledger₁, hle₁, hc₁, horigin⟩ := ih hc (List.forall_mem_nil _)
    obtain ⟨ledger₂, hle₂, hc₂, horigins⟩ := ihs hc₁ (List.forall_mem_nil _)
    -- what the first argument came to is traced by the longer list as well
    refine ⟨ledger₂, hle₁.trans hle₂, hc₂, ?_⟩
    cases origin with
    | none => exact horigins
    | some origin =>
      have horigin := (List.forall_mem_singleton.mp horigin).mono hle₂
      exact List.forall_mem_cons.mpr ⟨horigin, horigins⟩
  | noBlock => exact ⟨ledger, List.prefix_rfl, hc, List.forall_mem_nil _⟩
  | skipped => exact ⟨ledger, List.prefix_rfl, hc, List.forall_mem_nil _⟩
  | @opened object block inner outer c middle _ _ hm _ ih =>
    have hobject : object.Traced ledger.calls := List.forall_mem_singleton.mp hinputs
    obtain ⟨ledger', hle, hmiddle, -⟩ := ih
      (hc.within (List.forall_mem_cons.mpr ⟨⟨hobject, List.forall_mem_nil _⟩, hc.scopes⟩))
      (List.forall_mem_nil _)
    -- the block may have bound locals, but only in the scope that is dropped now
    refine ⟨ledger', hle, hmiddle.within ?_, List.forall_mem_nil _⟩
    intro scope hscope
    exact hmiddle.scopes scope (hm ▸ List.mem_cons_of_mem inner hscope)
  | assign _ _ ha iht ihv =>
    obtain ⟨ledger₁, hle₁, hc₁, htarget⟩ := iht hc (List.forall_mem_nil _)
    obtain ⟨ledger₂, hle₂, hc₂, hvalue⟩ := ihv hc₁ (List.forall_mem_nil _)
    refine ⟨ledger₂, hle₁.trans hle₂, ha.explained hc₂ ?_ ?_, List.forall_mem_nil _⟩
    · exact (List.forall_mem_singleton.mp htarget).mono hle₂
    · exact List.forall_mem_singleton.mp hvalue
  | unassigned _ _ _ iht ihv =>
    obtain ⟨ledger₁, hle₁, hc₁, -⟩ := iht hc (List.forall_mem_nil _)
    obtain ⟨ledger₂, hle₂, hc₂, -⟩ := ihv hc₁ (List.forall_mem_nil _)
    exact ⟨ledger₂, hle₁.trans hle₂, hc₂, List.forall_mem_nil _⟩
  | val _ hb ih =>
    obtain ⟨ledger', hle, hc', hvalue⟩ := ih hc (List.forall_mem_nil _)
    exact ⟨ledger', hle, hb.explained hc' (List.forall_mem_singleton.mp hvalue),
      List.forall_mem_nil _⟩
  | unbound _ ih =>
    obtain ⟨ledger', hle, hc', -⟩ := ih hc (List.forall_mem_nil _)
    exact ⟨ledger', hle, hc', List.forall_mem_nil _⟩
  | exprStatement _ ih =>
    obtain ⟨ledger', hle, hc', -⟩ := ih hc (List.forall_mem_nil _)
    exact ⟨ledger', hle, hc', List.forall_mem_nil _⟩
  | noStatements => exact ⟨ledger, List.prefix_rfl, hc, List.forall_mem_nil _⟩
  | statements _ _ ih ihs =>
    obtain ⟨ledger₁, hle₁, hc₁, -⟩ := ih hc (List.forall_mem_nil _)
    obtain ⟨ledger₂, hle₂, hc₂, -⟩ := ihs hc₁ (List.forall_mem_nil _)
    exact ⟨ledger₂, hle₁.trans hle₂, hc₂, List.forall_mem_nil _⟩
  | block _ ih => exact ih hc (List.forall_mem_nil _)

theorem explains_new : (Ledger.empty : Ledger schema).Explains (.new ⟨#[], #[]⟩) :=
  ⟨rfl, List.forall_mem_nil _, by simp [Context.new], rfl, fun _ => List.forall_mem_nil _⟩

/-- A document that is resolved leaves a ledger behind. Whatever origin of the resolution carries an
id came from the call that is listed there, and the ledger says what was added. -/
theorem exists_ledger {document : Block} {result : Resolution}
    (h : Resolution.ofDocument schema document = .ok result) :
    ∃ ledger : Ledger schema,
      (∀ ⦃origin id⦄, result.Holds origin → origin.id? = some id →
        ∃ call, ledger.calls[id]? = some call ∧ call.Yields id origin) ∧
      result.additions = Invocation.additions ledger.calls ∧
      (result.issues = [] → ∀ call ∈ ledger.calls, complete call.arguments = true) := by
  obtain ⟨visits, c, hw, rfl⟩ := ofDocument_ok.mp h
  have htop {calls : List Invocation} : (topReceiver schema document).Traced calls :=
    Origin.traced_of_id?_eq_none rfl (List.forall_mem_nil _)
  obtain ⟨ledger, -, hc, -⟩ := hw.explained explains_new (List.forall_mem_singleton.mpr htop)
  have htraced : ∀ whole ∈ (resolution (topReceiver schema document) c).origins,
      whole.Traced ledger.calls := by
    simp only [Resolution.origins, resolution, List.forall_mem_cons, List.forall_mem_append,
      List.forall_mem_flatMap, List.not_mem_nil, false_implies, implies_true, and_true,
      Array.mem_toList_iff]
    refine ⟨htop, hc.assignments, ?_⟩
    -- an addition is traced because its call is listed, not because it was kept track of
    intro addition hmem
    rw [← Array.mem_toList_iff, hc.additions] at hmem
    exact ledger.traced_of_mem_additions hmem
  refine ⟨ledger, ?_, hc.additions, ?_⟩
  · rintro origin id ⟨whole, hwhole, hoccurs⟩ hid
    exact htraced whole hwhole hoccurs hid
  · intro hissues
    exact hc.complete (Array.toList_eq_nil_iff.mp hissues)

end Resolver

end ConfigScope
