import ConfigScope.Proofs.Translation

/-!
# Translated documents resolve alike

A walk through a document becomes a walk through the translated document, which
comes to the translated result in the translated context (`Walk.translate`). So the
resolution of a translated document is the translated resolution
(`ofDocument_translate`).

A translation may take different spans and different declarations to the same, so
two origins can become equal. What the check of a restricted member compares does
not: receivers of open scopes are told apart by the ids of their calls, which a
translation leaves alone (`recognises_of_reached`).
-/

namespace ConfigScope

open Resolver (On Outcome Task complete given)

namespace Translation

variable (m : Translation)

/-! ## Contexts -/

section
variable (c : Context Findings)

@[simp] theorem context_within (scopes : List Scope) :
    m.context (c.within scopes) = (m.context c).within (scopes.map m.scope) := rfl

@[simp] theorem context_accepting (assignment : Assignment) :
    m.context (c.accepting assignment) = (m.context c).accepting (m.assignment assignment) := by
  simp [context, Context.accepting]

@[simp] theorem context_adding (container object : Origin) :
    m.context (c.adding container object) =
      (m.context c).adding (m.origin container) (m.origin object) := by
  simp [context, Context.adding, addition]

theorem context_reporting {issue : Issue} (h : m.reports issue = true) :
    m.context (c.reporting issue) = (m.context c).reporting (m.issue issue) := by
  simp [context, Context.reporting, h]

theorem context_reporting_dropped {issue : Issue} (h : m.reports issue = false) :
    m.context (c.reporting issue) = m.context c := by
  simp [context, Context.reporting, h]

end

/-! ## Receivers -/

@[simp] theorem opens_origin (origin : Origin) : (m.origin origin).opens = origin.opens := by
  cases origin <;> rfl

@[simp] theorem serial_origin (origin : Origin) : (m.origin origin).serial = origin.serial := by
  cases origin <;> rfl

theorem stacked_scopes {scopes : List Scope} {calls : Nat} (h : Stacked scopes calls) :
    Stacked (scopes.map m.scope) calls := by
  refine ⟨?_, ?_, ?_, ?_⟩
  · simpa [scope] using h.opens
  · simpa [scope] using h.bounded
  · simpa [scope, List.pairwise_map] using h.descending
  · intro moved hmoved entry hentry
    obtain ⟨scope, hscope, rfl⟩ := List.mem_map.mp hmoved
    obtain ⟨⟨name, value⟩, hvalue, rfl⟩ := List.mem_map.mp hentry
    simpa using h.locals scope hscope _ hvalue

/-- After the translation, an origin is the current receiver exactly if it was before. -/
def Recognises (scopes : List Scope) (origin : Origin) : Prop :=
  current? (scopes.map m.scope) = some (m.origin origin) ↔ current? scopes = some origin

end Translation

/-- The origins that a member can be asked of: receivers of open scopes, and others that are later
than all of these if they could be receivers. -/
inductive Reached (c : Context Findings) (origin : Origin) : Prop
  | receiver {scope} : scope ∈ c.scopes → scope.receiver = origin → Reached c origin
  | later : (origin.opens = true → c.nextId < origin.serial) → Reached c origin

theorem Translation.recognises_of_reached (m : Translation) {c : Context Findings}
    {origin : Origin} (hs : Stacked c.scopes c.nextId) (h : Reached c origin) :
    m.Recognises c.scopes origin := by
  have hs' := m.stacked_scopes hs
  cases h with
  | @receiver scope hmem hreceiver =>
    -- a receiver is the current one if it is that of the innermost scope, here and there
    obtain ⟨distance, hscope⟩ := List.mem_iff_getElem?.mp hmem
    have hscope' : (c.scopes.map m.scope)[distance]? = some (m.scope scope) := by simp [hscope]
    subst hreceiver
    exact (hs'.distance_eq_zero_iff hscope').symm.trans (hs.distance_eq_zero_iff hscope)
  | later hlater =>
    have hlater' : (m.origin origin).opens = true → c.nextId < (m.origin origin).serial := by
      simpa using hlater
    exact iff_of_false (hs'.ne_current hlater') (hs.ne_current hlater)

/-! ## Steps -/

section
variable {m : Translation} {c c' : Context Findings} {receiver : Origin} {site span : Span}
  {name : String}

theorem Guarded.translate {restricted : Bool} (h : Guarded restricted receiver site c c')
    (hr : m.Recognises c.scopes receiver) :
    Guarded (m.restricts && restricted) (m.origin receiver) (m.span site) (m.context c)
      (m.context c') := by
  cases hm : m.restricts with
  | false =>
    -- nothing is restricted any more, and a violation is no longer an issue
    have hcontext : m.context c' = m.context c := by
      cases h with
      | free => rfl
      | current => rfl
      | violation => exact m.context_reporting_dropped c (by simp [Translation.reports, hm])
    rw [hcontext]
    exact .free rfl
  | true =>
    cases h with
    | free hr => exact .free hr
    | @current scope outer hr hscopes heq =>
      exact .current hr (congrArg (List.map m.scope) hscopes) (congrArg m.origin heq)
    | @violation scope outer hrestricted hscopes hne =>
      rw [m.context_reporting c (by simp [Translation.reports, hm])]
      refine .violation hrestricted (congrArg (List.map m.scope) hscopes) ?_
      intro heq
      refine hne (Option.some.inj ?_)
      rw [← hr.mp (by simp [current?, hscopes, ← heq, Translation.scope])]
      simp [current?, hscopes]

namespace Resolver

variable {schema : Schema} {nominal : Prop}

theorem TargetChecked.translate {found : Option Target} (h : TargetChecked name span c found c')
    (hr : ∀ target, found = some target → m.Recognises c.scopes target.receiver) :
    TargetChecked name (m.span span) (m.context c) (found.map m.target) (m.context c') := by
  cases h with
  | missing =>
    rw [m.context_reporting c (by simp [Translation.reports])]
    exact .missing
  | @found target _ hg => exact .found (hg.translate (hr target rfl))

theorem MemberTarget.translate {found : Option Target}
    (h : MemberTarget schema receiver site name span c found c')
    (hr : m.Recognises c.scopes receiver) :
    MemberTarget (m.schema schema) (m.origin receiver) (m.span site) name (m.span span)
      (m.context c) (found.map m.target) (m.context c') := by
  cases h with
  | @notAnObject type htype hclass =>
    rw [m.context_reporting c (by simp [Translation.reports])]
    exact .notAnObject (by rw [m.type_origin, htype]; rfl) (by rw [m.class?_type, hclass]; rfl)
  | @member decl _ htype ht =>
    have ht := ht.translate (m := m) fun target htarget => by
      obtain ⟨property, -, rfl⟩ := Option.map_eq_some_iff.mp htarget
      exact hr
    have hfound : ((decl.property? name).map (Target.mk receiver)).map m.target =
        ((m.decl decl).property? name).map (Target.mk (m.origin receiver)) := by
      rw [m.property?_decl, Option.map_map, Option.map_map]
      rfl
    rw [hfound] at ht ⊢
    exact .member (by rw [m.type_origin, htype]; rfl) ht

section
variable {arguments : List (Option Origin)} {block : Option Span}

theorem complete_map (m : Translation) (arguments : List (Option Origin)) :
    complete (arguments.map (Option.map m.origin)) = complete arguments := by
  simp [complete, Function.comp_def]

theorem given_map (m : Translation) (arguments : List (Option Origin)) :
    given (arguments.map (Option.map m.origin)) = m.origins (given arguments) := by
  rw [m.origins_eq_map, given, given, List.filterMap_map, List.map_filterMap]
  rfl

theorem CalleeChecked.translate {callee : Option Callee}
    (h : CalleeChecked name arguments span c callee c') :
    CalleeChecked name (arguments.map (Option.map m.origin)) (m.span span) (m.context c)
      (callee.map m.callee) (m.context c') := by
  cases h with
  | found => exact .found
  | excused hall => exact .excused (by rw [complete_map, hall])
  | missing hall =>
    have hmissing : CalleeChecked name (arguments.map (Option.map m.origin)) (m.span span)
        (m.context c) none ((m.context c).reporting
          ⟨m.span span, .unresolvedCall name (arguments.map (Option.map m.origin)).length⟩) :=
      .missing (by rw [complete_map, hall])
    rw [List.length_map] at hmissing
    rw [m.context_reporting c (by simp [Translation.reports])]
    exact hmissing

theorem knows_of_argumentTypes {types : List (Option Ty)}
    (harguments : ArgumentsTyped schema arguments)
    (h : schema.argumentTypes arguments = .ok types) :
    ∀ type, some type ∈ types → schema.Knows type := by
  induction arguments generalizing types with
  | nil =>
    cases h
    simp
  | cons argument rest ih =>
    have ih {types} := @ih types fun origin hmem => harguments origin (List.mem_cons_of_mem _ hmem)
    cases argument with
    | none =>
      simp only [Schema.argumentTypes, except_bind_ok, except_pure_ok] at h
      obtain ⟨rest, hrest, rfl⟩ := h
      simpa using ih hrest
    | some origin =>
      simp only [Schema.argumentTypes, except_bind_ok, except_pure_ok] at h
      obtain ⟨type, htype, rest, hrest, rfl⟩ := h
      have hknows := (harguments origin List.mem_cons_self).hasType.knows htype
      intro known hmem
      rcases List.mem_cons.mp hmem with heq | hmem
      · cases heq
        exact hknows
      · exact ih hrest known hmem

end

end Resolver

namespace Translation

def on (m : Translation) : On → On
  | .nothing => .nothing
  | .unresolved => .unresolved
  | .object origin site => .object (m.origin origin) (m.span site)

def outcome (m : Translation) (outcome : Outcome) : Outcome :=
  ⟨outcome.configured.map m.origin, outcome.value.map m.origin⟩

end Translation

namespace Resolver

variable {schema : Schema} {nominal : Prop} {arguments : List (Option Origin)}
  {block : Option Span}

theorem CalleeFound.translate {on : On} {callee : Option Callee}
    (h : CalleeFound schema name arguments span c on callee c')
    (hm : m.Compares schema nominal) (hc : nominal → c.Typed schema)
    (hon : nominal → on.Typed schema) (harguments : nominal → ArgumentsTyped schema arguments) :
    CalleeFound (m.schema schema) name (arguments.map (Option.map m.origin)) (m.span span)
      (m.context c) (m.on on) (callee.map m.callee) (m.context c') := by
  have htypes {types : List (Option Ty)} (h : schema.argumentTypes arguments = .ok types) :
      (m.schema schema).argumentTypes (arguments.map (Option.map m.origin)) =
        .ok (types.map (Option.map m.type)) := by
    rw [m.argumentTypes_map, h]
    rfl
  have hknows {types : List (Option Ty)} (h : schema.argumentTypes arguments = .ok types)
      (hn : nominal) : ∀ type, some type ∈ types → schema.Knows type :=
    knows_of_argumentTypes (harguments hn) h
  cases h with
  | unresolved h => exact .unresolved (htypes h)
  | unqualified h hl hchecked =>
    refine .unqualified (htypes h) ?_ hchecked.translate
    rw [Translation.context, hm.lookupFunction (fun hn => (hc hn).scopes) (hknows h), hl]
    rfl
  | @notAnObject types origin site type h htype hclass =>
    rw [m.context_reporting c (by simp [Translation.reports])]
    exact .notAnObject (htypes h) (by rw [m.type_origin, htype]; rfl)
      (by rw [m.class?_type, hclass]; rfl)
  | @member types origin site decl function _ h htype hf hchecked =>
    have hdecl (hn : nominal) : decl ∈ schema.classes :=
      ((hon hn origin site rfl).hasType.knows htype) decl rfl
    have hchecked := hchecked.translate (m := m)
    have hcallee : (function.map (Callee.member origin)).map m.callee =
        (function.map m.function).map (Callee.member (m.origin origin)) := by
      rw [Option.map_map, Option.map_map]
      rfl
    rw [hcallee] at hchecked ⊢
    refine .member (htypes h) (by rw [m.type_origin, htype]; rfl) ?_ hchecked
    rw [hm.memberOverload hdecl (hknows h), hf]
    rfl

theorem BlockChecked.translate {semantics : Semantics} {opens : Bool}
    (h : BlockChecked name semantics span c block opens c') :
    BlockChecked name (semantics.map m.ref) (m.span span) (m.context c) (block.map m.span) opens
      (m.context c') := by
  cases h with
  | missing hrule =>
    rw [m.context_reporting c (by simp [Translation.reports])]
    exact .missing (by rw [m.blockRule_semantics, hrule])
  | unexpected hrule =>
    rw [m.context_reporting c (by simp [Translation.reports])]
    exact .unexpected (by rw [m.blockRule_semantics, hrule])
  | opens hrule => exact .opens (by rwa [m.blockRule_semantics])
  | absent hrule => exact .absent (by rwa [m.blockRule_semantics])

theorem Invoked.translate {callee : Callee} {outcome : Outcome}
    (h : Invoked name arguments block span c callee outcome c')
    (hr : ∀ receiver function, callee = .member receiver function →
      m.Recognises c.scopes receiver) :
    Invoked name (arguments.map (Option.map m.origin)) (block.map m.span) (m.span span)
      (m.context c) (m.callee callee) (m.outcome outcome) (m.context c') := by
  -- both checks of a member function, with what the translation makes of the function
  have member {receiver function middle opens next} (hcallee : callee = .member receiver function)
      (hg : Guarded function.currentOnly receiver span c middle)
      (hb : BlockChecked name function.semantics span middle block opens next) :
      Guarded (m.function function).currentOnly (m.origin receiver) (m.span span) (m.context c)
          (m.context middle) ∧
        BlockChecked name (m.function function).semantics (m.span span) (m.context middle)
          (block.map m.span) opens (m.context next) := by
    rw [m.currentOnly_function, m.semantics_function]
    exact ⟨hg.translate (hr receiver function hcallee), hb.translate⟩
  have semantics {function : MemberFunction} {semantics : Semantics}
      (h : function.semantics = semantics) :
      (m.function function).semantics = semantics.map m.ref := by
    rw [m.semantics_function, h]
  cases h with
  | configure hs hg hb =>
    obtain ⟨hg, hb⟩ := member rfl hg hb
    simp only [Translation.outcome, Option.map_if, Translation.origin, ← given_map,
      ← complete_map m arguments]
    exact .configure (semantics hs) hg hb
  | add hs hall hg hb =>
    obtain ⟨hg, hb⟩ := member rfl hg hb
    simp only [Translation.outcome, Option.map_if, Option.map_some, m.context_adding,
      Translation.origin, ← given_map]
    exact .add (semantics hs) (by rw [complete_map, hall]) hg hb
  | incomplete hs hall hg hb =>
    obtain ⟨hg, hb⟩ := member rfl hg hb
    simp only [Translation.outcome, Option.map_if, Option.map_none, Translation.origin, ← given_map]
    exact .incomplete (semantics hs) (by rw [complete_map, hall]) hg hb
  | builder hs hg hb =>
    obtain ⟨hg, hb⟩ := member rfl hg hb
    simp only [Translation.outcome, Option.map_if, Option.map_none, Translation.origin,
      ← given_map, ← complete_map m arguments]
    exact .builder (semantics hs) hg hb
  | pure hs hg hb =>
    obtain ⟨hg, hb⟩ := member rfl hg hb
    simp only [Translation.outcome, Option.map_if, Option.map_none, Translation.origin,
      ← given_map, ← complete_map m arguments]
    exact .pure (semantics hs) hg hb
  | topLevel hb =>
    have hb := hb.translate (m := m)
    rw [← m.semantics_topLevel] at hb
    simp only [Translation.outcome, Option.map_if, Translation.origin, ← given_map,
      ← complete_map m arguments]
    exact .topLevel hb

theorem Assigned.translate {target : Target} {targetSpan valueSpan : Span} {value : Origin}
    (h : Assigned schema target targetSpan value valueSpan span c c')
    (hm : m.Compares schema nominal) (htarget : nominal → target.Typed schema)
    (hvalue : nominal → value.Typed schema) :
    Assigned (m.schema schema) (m.target target) (m.span targetSpan) (m.origin value)
      (m.span valueSpan) (m.span span) (m.context c) (m.context c') := by
  have typed {expected actual : Ty} (hexpected : schema.typeOf target.property.type = .ok expected)
      (hactual : value.type schema.typeOf = .ok actual) :
      (m.schema schema).typeOf (m.target target).property.type = .ok (m.type expected) ∧
        (m.origin value).type (m.schema schema).typeOf = .ok (m.type actual) ∧
        (m.type actual).conformsTo (m.type expected) = actual.conformsTo expected := by
    refine ⟨?_, ?_, hm.conformsTo fun hn => ⟨?_, ?_⟩⟩
    · exact (m.typeOf_ref schema _).trans (by rw [hexpected]; rfl)
    · rw [m.type_origin, hactual]
      rfl
    · exact (hvalue hn).hasType.knows hactual
    · exact (htarget hn).2.knows hexpected
  cases h with
  | readOnly hreadOnly =>
    rw [m.context_reporting c (by simp [Translation.reports])]
    exact .readOnly hreadOnly
  | accepted hwritable hexpected hactual hconforms =>
    obtain ⟨hexpected, hactual, heq⟩ := typed hexpected hactual
    rw [m.context_accepting]
    exact .accepted hwritable hexpected hactual (heq.trans hconforms)
  | mismatch hwritable hexpected hactual hconforms =>
    obtain ⟨hexpected, hactual, heq⟩ := typed hexpected hactual
    rw [m.context_reporting c (by simp [Translation.reports])]
    exact .mismatch hwritable hexpected hactual (heq.trans hconforms)

theorem LocalBound.translate {value : Origin} (h : LocalBound name value span c c') :
    LocalBound name (m.origin value) (m.span span) (m.context c) (m.context c') := by
  have hdeclare (scope : Scope) := m.declare?_scope scope name (.binding name value span)
  cases h with
  | @declared scope next outer hscopes hd =>
    rw [m.context_within, List.map_cons]
    refine .declared (congrArg (List.map m.scope) hscopes) ?_
    exact (hdeclare scope).trans (by rw [hd]; rfl)
  | @duplicate scope outer hscopes hd =>
    rw [m.context_reporting c (by simp [Translation.reports])]
    refine .duplicate (congrArg (List.map m.scope) hscopes) ?_
    exact (hdeclare scope).trans (by rw [hd]; rfl)

/-! ## Walks -/

theorem Walk.reached {expr : Expr} {value : Option Origin} {visits : List Visit} {origin : Origin}
    (h : Walk schema (.expr expr) c value c' visits) (hs : Stacked c.scopes c.nextId)
    (hv : value = some origin) : Reached c origin := by
  by_cases hthis : ∃ span, expr = .this span
  · obtain ⟨span, rfl⟩ := hthis
    cases h with
    | this hscopes =>
      cases hv
      exact .receiver (hscopes ▸ List.mem_cons_self) rfl
  · exact .later (h.later hs (fun span heq => hthis ⟨span, heq⟩) hv)

theorem Walk.reached_callee {receiver : Option Expr} {on : On} {c₁ c₂ : Context Findings}
    {object : Origin} {function : MemberFunction} {visits : List Visit}
    (hr : Walk schema (.receiver receiver) c on c₁ visits) (hs : Stacked c.scopes c.nextId)
    (hscopes : c₂.scopes = c.scopes)
    (hf : CalleeFound schema name arguments span c₂ on (some (.member object function)) c') :
    Reached c object := by
  obtain ⟨-, types, htypes, ⟨rfl, hl⟩ | ⟨_, _, _, _, rfl, hcallee, -⟩⟩ := hf.found
  · rcases Schema.lookupFunction_ok htypes hl with ⟨scope, _, _, hscope, hcallee, -⟩ | ⟨_, h, -⟩
    · cases hcallee
      exact .receiver (hscopes ▸ List.mem_of_getElem? hscope) rfl
    · cases h
  · cases hcallee
    cases hr with
    | object hr => exact hr.reached hs rfl

end Resolver

namespace Translation

def task (m : Translation) : Task → Task
  | .target access => .target (access.relocate m.span)
  | .expr expr => .expr (expr.relocate m.span)
  | .call call => .call (call.relocate m.span)
  | .receiver receiver => .receiver (relocateReceiver m.span receiver)
  | .arguments arguments => .arguments (relocateArguments m.span arguments)
  | .configured object block => .configured (object.map m.origin) (relocateBlock m.span block)
  | .statement statement => .statement (statement.relocate m.span)
  | .statements statements => .statements (relocateStatements m.span statements)
  | .block block => .block (block.relocate m.span)

def result (m : Translation) : (task : Task) → task.Result → (m.task task).Result
  | .target _, found => found.map m.target
  | .expr _, value | .call _, value => value.map m.origin
  | .receiver _, on => m.on on
  | .arguments _, origins => origins.map (Option.map m.origin)
  | .configured _ _, _ | .statement _, _ | .statements _, _ | .block _, _ => ()

theorem read_target (m : Translation) (found : Option Target) (span : Span) :
    (found.map (·.read span)).map m.origin = (found.map m.target).map (·.read (m.span span)) := by
  rw [Option.map_map, Option.map_map]
  rfl

theorem Compares.typed_walk {schema : Schema} {nominal : Prop} (hm : m.Compares schema nominal)
    {task : Task} {result : task.Result} {visits : List Resolver.Visit}
    (h : Resolver.Walk schema task c result c' visits) (htask : nominal → task.Typed schema)
    (hc : nominal → c.Typed schema) (hn : nominal) :
    c'.Typed schema ∧ task.Delivers schema result :=
  h.typed (hm.closed hn) (htask hn) (hc hn)

end Translation

namespace Resolver

variable {schema : Schema} {nominal : Prop}

theorem Walk.translate (hm : m.Compares schema nominal) {task : Task} {result : task.Result}
    {visits : List Visit} (h : Walk schema task c result c' visits)
    (hs : Stacked c.scopes c.nextId) (hready : task.Ready c)
    (htask : nominal → task.Typed schema) (hc : nominal → c.Typed schema) :
    ∃ visits', Walk (m.schema schema) (m.task task) (m.context c) (m.result task result)
      (m.context c') visits' := by
  -- the parts of a node are walked in translated contexts by induction, and the step of the node
  -- itself is a translated step
  induction h with
  | @implicitTarget name span c found c' hl ht =>
    have hr (target : Target) (hfound : found = some target) :
        m.Recognises c.scopes target.receiver := by
      subst hfound
      obtain ⟨scope, type, hscope, hreceiver, -⟩ := Schema.lookupProperty_ok hl
      exact m.recognises_of_reached hs (.receiver (List.mem_of_getElem? hscope) hreceiver.symm)
    have hl' := m.lookupProperty_scopes schema name c.scopes
    rw [hl] at hl'
    exact ⟨_, .implicitTarget hl' (ht.translate hr)⟩
  | noTarget _ ih =>
    obtain ⟨_, ih⟩ := ih hs trivial (fun _ => trivial) hc
    exact ⟨_, .noTarget ih⟩
  | @memberTarget receiver name span c object middle found c' visits hr ht ih =>
    obtain ⟨_, ih⟩ := ih hs trivial (fun _ => trivial) hc
    -- resolving the receiver leaves the scopes as they were, and with them the current receiver
    have hrecognised : m.Recognises middle.scopes object := by
      rw [hr.frame.1]
      exact m.recognises_of_reached hs (hr.reached hs rfl)
    have ht := ht.translate hrecognised
    rw [← receiver.span_relocate m.span] at ht
    exact ⟨_, .memberTarget ih ht⟩
  | literal => exact ⟨_, .literal⟩
  | null => exact ⟨_, .null⟩
  | @this span scope outer c hscopes =>
    have hscopes : (m.context c).scopes = m.scope scope :: outer.map m.scope :=
      congrArg (List.map m.scope) hscopes
    exact ⟨_, .this hscopes⟩
  | @value name span value c hl =>
    have hl' := m.lookupValue_scopes schema name span c.scopes
    rw [hl] at hl'
    exact ⟨_, .value hl'⟩
  | @implicitRead name span found c c' visits hl _ ih =>
    obtain ⟨_, ih⟩ := ih hs trivial (fun _ => trivial) hc
    have hl' := m.lookupValue_scopes schema name span c.scopes
    rw [hl] at hl'
    have hread := Walk.implicitRead hl' ih
    exact ⟨_, (m.read_target found span).symm ▸ hread⟩
  | @memberRead receiver name span found c c' visits _ ih =>
    obtain ⟨_, ih⟩ := ih hs trivial (fun _ => trivial) hc
    have hread := Walk.memberRead ih
    exact ⟨_, (m.read_target found span).symm ▸ hread⟩
  | callExpr _ ih =>
    obtain ⟨_, ih⟩ := ih hs trivial (fun _ => trivial) hc
    exact ⟨_, .callExpr ih⟩
  | uncalled hr ha hf ihr iha =>
    have h₁ := hm.typed_walk hr (fun _ => trivial) hc
    have h₂ := hm.typed_walk ha (fun _ => trivial) fun hn => (h₁ hn).1
    obtain ⟨_, ihr⟩ := ihr hs trivial (fun _ => trivial) hc
    obtain ⟨_, iha⟩ := iha (hs.walk hr) trivial (fun _ => trivial) fun hn => (h₁ hn).1
    have hf := hf.translate hm (fun hn => (h₂ hn).1) (fun hn => (h₁ hn).2) (fun hn => (h₂ hn).2)
    exact ⟨_, .uncalled ihr iha hf⟩
  | @called receiver name arguments block span on origins callee outcome c c₁ c₂ c₃ c₄ c'
      visits₁ visits₂ visits₃ hr ha hf hi hb ihr iha ihb =>
    have h₁ := hm.typed_walk hr (fun _ => trivial) hc
    have h₂ := hm.typed_walk ha (fun _ => trivial) fun hn => (h₁ hn).1
    have hs₂ := (hs.walk hr).walk ha
    have hscopes : c₂.scopes = c.scopes := ha.frame.1.trans hr.frame.1
    obtain ⟨rfl, -⟩ := hf.found
    have hcallee (hn : nominal) : callee.Typed schema := hf.typed (h₂ hn).1 (h₁ hn).2
    -- the receiver of a member function is compared in the scopes that the call was met in
    have hrecognised : ∀ object function, callee = .member object function →
        m.Recognises c₃.scopes object := by
      rintro object function rfl
      rw [hscopes]
      exact m.recognises_of_reached hs (hr.reached_callee hs hscopes hf)
    have hi' := hi.translate hrecognised
    rw [← span_relocateBlock] at hi'
    obtain ⟨_, ihr⟩ := ihr hs trivial (fun _ => trivial) hc
    obtain ⟨_, iha⟩ := iha (hs.walk hr) trivial (fun _ => trivial) fun hn => (h₁ hn).1
    obtain ⟨_, ihb⟩ := ihb (hi.stacked hs₂) (hi.ready hs₂)
      (fun hn => (hi.outcome_typed (hm.closed hn) (hcallee hn) (h₂ hn).2).1)
      (fun hn => hi.typed (hm.closed hn) (h₂ hn).1 (hcallee hn) (h₂ hn).2)
    have hf := hf.translate hm (fun hn => (h₂ hn).1) (fun hn => (h₁ hn).2) (fun hn => (h₂ hn).2)
    exact ⟨_, .called ihr iha hf hi' ihb⟩
  | unqualified => exact ⟨_, .unqualified⟩
  | unresolved _ ih =>
    obtain ⟨_, ih⟩ := ih hs trivial (fun _ => trivial) hc
    exact ⟨_, .unresolved ih⟩
  | @object receiver origin c c' visits _ ih =>
    obtain ⟨_, ih⟩ := ih hs trivial (fun _ => trivial) hc
    have hobject := Walk.object ih
    rw [receiver.span_relocate] at hobject
    exact ⟨_, hobject⟩
  | noArguments => exact ⟨_, .noArguments⟩
  | argument h _ ih ihs =>
    have h₁ := hm.typed_walk h (fun _ => trivial) hc
    obtain ⟨_, ih⟩ := ih hs trivial (fun _ => trivial) hc
    obtain ⟨_, ihs⟩ := ihs (hs.walk h) trivial (fun _ => trivial) fun hn => (h₁ hn).1
    exact ⟨_, .argument ih ihs⟩
  | noBlock => exact ⟨_, .noBlock⟩
  | skipped => exact ⟨_, .skipped⟩
  | @opened object block inner outer c middle visits _ hmiddle hlength ih =>
    have htyped (hn : nominal) : (c.within (.new object :: c.scopes)).Typed schema := by
      refine (hc hn).within (List.forall_mem_cons.mpr ⟨⟨?_, List.forall_mem_nil _⟩, (hc hn).scopes⟩)
      exact htask hn object rfl
    obtain ⟨_, ih⟩ := ih (hs.enter hready.1 hready.2.1 hready.2.2) trivial (fun _ => trivial) htyped
    have hlength : (outer.map m.scope).length = (m.context c).depth := by
      simpa [Context.depth, Translation.context] using hlength
    exact ⟨_, .opened ih (congrArg (List.map m.scope) hmiddle) hlength⟩
  | @assign target value span found origin c c₁ c₂ c' visits₁ visits₂ ht hv ha iht ihv =>
    have h₁ := hm.typed_walk ht (fun _ => trivial) hc
    have h₂ := hm.typed_walk hv (fun _ => trivial) fun hn => (h₁ hn).1
    obtain ⟨_, iht⟩ := iht hs trivial (fun _ => trivial) hc
    obtain ⟨_, ihv⟩ := ihv (hs.walk ht) trivial (fun _ => trivial) fun hn => (h₁ hn).1
    have ha := ha.translate hm (fun hn => (h₁ hn).2 found rfl) (fun hn => (h₂ hn).2 origin rfl)
    rw [← target.span_relocate m.span, ← value.span_relocate m.span] at ha
    exact ⟨_, .assign iht ihv ha⟩
  | unassigned ht _ hnone iht ihv =>
    have h₁ := hm.typed_walk ht (fun _ => trivial) hc
    obtain ⟨_, iht⟩ := iht hs trivial (fun _ => trivial) hc
    obtain ⟨_, ihv⟩ := ihv (hs.walk ht) trivial (fun _ => trivial) fun hn => (h₁ hn).1
    exact ⟨_, .unassigned iht ihv
      (hnone.imp (congrArg (Option.map m.target)) (congrArg (Option.map m.origin)))⟩
  | val _ hb ih =>
    obtain ⟨_, ih⟩ := ih hs trivial (fun _ => trivial) hc
    exact ⟨_, .val ih hb.translate⟩
  | unbound _ ih =>
    obtain ⟨_, ih⟩ := ih hs trivial (fun _ => trivial) hc
    exact ⟨_, .unbound ih⟩
  | exprStatement _ ih =>
    obtain ⟨_, ih⟩ := ih hs trivial (fun _ => trivial) hc
    exact ⟨_, .exprStatement ih⟩
  | noStatements => exact ⟨_, .noStatements⟩
  | statements h _ ih ihs =>
    have h₁ := hm.typed_walk h (fun _ => trivial) hc
    obtain ⟨_, ih⟩ := ih hs trivial (fun _ => trivial) hc
    obtain ⟨_, ihs⟩ := ihs (hs.walk h) trivial (fun _ => trivial) fun hn => (h₁ hn).1
    exact ⟨_, .statements ih ihs⟩
  | block _ ih =>
    obtain ⟨_, ih⟩ := ih hs trivial (fun _ => trivial) hc
    exact ⟨_, .block ih⟩

theorem topReceiver_translate (m : Translation) (schema : Schema) (document : Block) :
    m.origin (topReceiver schema document) =
      topReceiver (m.schema schema) (document.relocate m.span) := by
  simp only [topReceiver, document.span_relocate]
  rfl

theorem resolution_translate (m : Translation) (top : Origin) (c : Context Findings) :
    m.resolution (resolution top c) = resolution (m.origin top) (m.context c) := by
  simp [resolution, Translation.resolution, Translation.context]

theorem ofDocument_translate (hm : m.Compares schema nominal) {document : Block}
    {result : Resolution} (h : Resolution.ofDocument schema document = .ok result) :
    Resolution.ofDocument (m.schema schema) (document.relocate m.span) =
      .ok (m.resolution result) := by
  obtain ⟨visits, c, hw, rfl⟩ := ofDocument_ok.mp h
  have hs : Stacked [] 0 := ⟨nofun, nofun, .nil, nofun⟩
  have hready : (Task.configured (some (topReceiver schema document)) (some document)).Ready
      (.new ⟨#[], #[]⟩) := ⟨rfl, Nat.le_refl 0, nofun⟩
  obtain ⟨visits, hw⟩ := hw.translate hm hs hready
    (fun hn => forall_mem_some (typed_topReceiver (hm.closed hn) document)) fun _ => typed_new
  rw [ofDocument_ok, resolution_translate, topReceiver_translate]
  have hnew : m.context (.new ⟨#[], #[]⟩) = .new ⟨#[], #[]⟩ := by
    simp [Translation.context, Context.new]
  -- the translated walk is one through the translated document, from a new context too
  have hw : Walk (m.schema schema) (.configured (some (m.origin (topReceiver schema document)))
      (some (document.relocate m.span))) (m.context (.new ⟨#[], #[]⟩)) () (m.context c) visits := hw
  rw [topReceiver_translate, hnew] at hw
  exact ⟨visits, m.context c, hw, rfl⟩

end Resolver

end

end ConfigScope
