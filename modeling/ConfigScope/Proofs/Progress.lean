import ConfigScope.Proofs.Typing

/-!
# Closed schemas do not fault

In a closed schema every step can be taken: a reference that is followed leads to
a type, there is an open scope whenever one is asked for, and a block ends in the
scope it was resolved in. So every document has a resolution, and every origin
that stands anywhere in it has a type (`exists_resolution_of_text`).
-/

namespace ConfigScope

theorem exists_findM? {ε α : Type} {p : α → Except ε Bool} {as : List α}
    (h : ∀ a ∈ as, ∃ b, p a = .ok b) : ∃ found, as.findM? p = .ok found := by
  induction as with
  | nil => exact ⟨none, rfl⟩
  | cons head rest ih =>
    obtain ⟨⟨b, hb⟩, hrest⟩ := List.forall_mem_cons.mp h
    cases b with
    | true => exact ⟨some head, except_bind_ok.mpr ⟨true, hb, rfl⟩⟩
    | false =>
      obtain ⟨found, hfound⟩ := ih hrest
      exact ⟨found, except_bind_ok.mpr ⟨false, hb, hfound⟩⟩

/-! ## Lookups -/

namespace Schema

variable {schema : Schema} {scopes : List Scope}

theorem exists_lookupValue (hscopes : ∀ scope ∈ scopes, scope.Typed schema) (name : String)
    (span : Span) : ∃ value, schema.lookupValue name span scopes = .ok value := by
  induction scopes with
  | nil => exact ⟨_, rfl⟩
  | cons scope outer ih =>
    obtain ⟨hscope, houter⟩ := List.forall_mem_cons.mp hscopes
    obtain ⟨type, htype, -⟩ := hscope.1.hasType
    unfold lookupValue
    cases scope.local? name with
    | some value => exact ⟨some value, rfl⟩
    | none =>
      simp only [htype, except_bind_ok, Except.ok.injEq, exists_eq_left']
      split
      · exact ⟨none, rfl⟩
      · exact ih houter

theorem exists_lookupProperty (hscopes : ∀ scope ∈ scopes, scope.Typed schema) (name : String) :
    ∃ found, schema.lookupProperty name scopes = .ok found := by
  induction scopes with
  | nil => exact ⟨none, rfl⟩
  | cons scope outer ih =>
    obtain ⟨hscope, houter⟩ := List.forall_mem_cons.mp hscopes
    obtain ⟨type, htype, -⟩ := hscope.1.hasType
    simp only [lookupProperty, htype, except_bind_ok, Except.ok.injEq, exists_eq_left']
    cases type.property? name with
    | some property => exact ⟨_, rfl⟩
    | none => exact ih houter

theorem exists_argumentTypes {arguments : List (Option Origin)}
    (h : Resolver.ArgumentsTyped schema arguments) :
    ∃ types, schema.argumentTypes arguments = .ok types := by
  induction arguments with
  | nil => exact ⟨[], rfl⟩
  | cons argument rest ih =>
    obtain ⟨types, htypes⟩ := ih fun origin hmem => h origin (List.mem_cons_of_mem _ hmem)
    cases argument with
    | none => exact ⟨_, except_bind_ok.mpr ⟨types, htypes, rfl⟩⟩
    | some origin =>
      obtain ⟨type, htype, -⟩ := (h origin List.mem_cons_self).hasType
      exact ⟨_, except_bind_ok.mpr ⟨type, htype, except_bind_ok.mpr ⟨types, htypes, rfl⟩⟩⟩

theorem exists_acceptsEach {parameters : List Parameter} {types : List (Option Ty)}
    (h : ∀ parameter ∈ parameters, schema.Resolves parameter.type) :
    ∃ accepted, schema.acceptsEach parameters types = .ok accepted := by
  induction parameters generalizing types with
  | nil => exact ⟨true, by cases types <;> rfl⟩
  | cons parameter parameters ih =>
    obtain ⟨⟨expected, hexpected, -⟩, hrest⟩ := List.forall_mem_cons.mp h
    cases types with
    | nil => exact ⟨true, rfl⟩
    | cons argument types =>
      cases argument with
      | none => exact ih hrest
      | some type =>
        simp only [acceptsEach, hexpected, except_bind_ok, Except.ok.injEq, exists_eq_left']
        split
        · exact ih hrest
        · exact ⟨false, rfl⟩

theorem exists_accepts {parameters : List Parameter} (types : List (Option Ty))
    (h : ∀ parameter ∈ parameters, schema.Resolves parameter.type) :
    ∃ accepted, schema.accepts parameters types = .ok accepted := by
  unfold accepts
  split
  · exact exists_acceptsEach h
  · exact ⟨false, rfl⟩

theorem Closed.exists_memberOverload (closed : schema.Closed) {decl : ClassDecl}
    (hdecl : decl ∈ schema.classes) (name : String) (types : List (Option Ty)) :
    ∃ function, schema.memberOverload decl name types = .ok function := by
  refine exists_findM? fun function hfunction => exists_accepts types ?_
  intro parameter hparameter
  exact closed.resolves _ (.parameter hdecl (List.mem_filter.mp hfunction).1 hparameter)

theorem Closed.exists_lookupFunction (closed : schema.Closed)
    (hscopes : ∀ scope ∈ scopes, scope.Typed schema) (name : String) (types : List (Option Ty)) :
    ∃ callee, schema.lookupFunction name types scopes = .ok callee := by
  induction scopes with
  | nil =>
    have htop : ∃ function, schema.topLevelOverload name types = .ok function := by
      refine exists_findM? fun function hfunction => exists_accepts types ?_
      intro parameter hparameter
      exact closed.resolves _ (.topLevelParameter (List.mem_filter.mp hfunction).1 hparameter)
    obtain ⟨function, hfunction⟩ := htop
    exact ⟨_, except_bind_ok.mpr ⟨function, hfunction, rfl⟩⟩
  | cons scope outer ih =>
    obtain ⟨hscope, houter⟩ := List.forall_mem_cons.mp hscopes
    obtain ⟨type, htype, hknows⟩ := hscope.1.hasType
    simp only [lookupFunction, htype, except_bind_ok, Except.ok.injEq, exists_eq_left']
    cases hclass : type.class? with
    -- neither what is no object nor a class without the function ends the search
    | none => exact ih houter
    | some decl =>
      have hdecl := hknows decl (Resolver.class?_eq_some.mp hclass)
      obtain ⟨function, hfunction⟩ := closed.exists_memberOverload hdecl name types
      simp only [hfunction, except_bind_ok, Except.ok.injEq, exists_eq_left']
      cases function with
      | some function => exact ⟨_, rfl⟩
      | none => exact ih houter

end Schema

/-! ## Steps -/

theorem exists_guarded {c : Context Findings} (hscopes : c.scopes ≠ []) (restricted : Bool)
    (receiver : Origin) (site : Span) : ∃ c', Guarded restricted receiver site c c' := by
  obtain ⟨scope, outer, hs⟩ := List.exists_cons_of_ne_nil hscopes
  cases restricted with
  | false => exact ⟨c, .free rfl⟩
  | true =>
    by_cases h : scope.receiver = receiver
    · exact ⟨c, .current rfl hs h⟩
    · exact ⟨_, .violation rfl hs h⟩

namespace Resolver

variable {schema : Schema} {c : Context Findings}

theorem exists_targetChecked (hscopes : c.scopes ≠ []) (name : String) (span : Span)
    (found : Option Target) : ∃ c', TargetChecked name span c found c' := by
  cases found with
  | none => exact ⟨_, .missing⟩
  | some target =>
    obtain ⟨c', hg⟩ := exists_guarded hscopes target.property.currentOnly target.receiver span
    exact ⟨c', .found hg⟩

theorem exists_memberTarget (hscopes : c.scopes ≠ []) {object : Origin}
    (hobject : object.Typed schema) (site : Span) (name : String) (span : Span) :
    ∃ found c', MemberTarget schema object site name span c found c' := by
  obtain ⟨type, htype, -⟩ := hobject.hasType
  cases hclass : type.class? with
  | none => exact ⟨none, _, .notAnObject htype hclass⟩
  | some decl =>
    obtain rfl := class?_eq_some.mp hclass
    obtain ⟨c', ht⟩ := exists_targetChecked hscopes name span
      ((decl.property? name).map (⟨object, ·⟩))
    exact ⟨_, c', .member htype ht⟩

theorem exists_calleeChecked (name : String) (arguments : List (Option Origin)) (span : Span)
    (callee : Option Callee) : ∃ c', CalleeChecked name arguments span c callee c' := by
  cases callee with
  | some callee => exact ⟨c, .found⟩
  | none =>
    cases hall : complete arguments with
    | false => exact ⟨c, .excused hall⟩
    | true => exact ⟨_, .missing hall⟩

theorem exists_calleeFound (closed : schema.Closed) (hc : c.Typed schema) {on : On}
    (hon : on.Typed schema) {arguments : List (Option Origin)}
    (harguments : ArgumentsTyped schema arguments) (name : String) (span : Span) :
    ∃ callee c', CalleeFound schema name arguments span c on callee c' := by
  obtain ⟨types, htypes⟩ := Schema.exists_argumentTypes harguments
  cases on with
  | unresolved => exact ⟨none, c, .unresolved htypes⟩
  | nothing =>
    obtain ⟨callee, hcallee⟩ := closed.exists_lookupFunction hc.scopes name types
    obtain ⟨c', hchecked⟩ := exists_calleeChecked (c := c) name arguments span callee
    exact ⟨callee, c', .unqualified htypes hcallee hchecked⟩
  | object origin site =>
    obtain ⟨type, htype, hknows⟩ := (hon origin site rfl).hasType
    cases hclass : type.class? with
    | none => exact ⟨none, _, .notAnObject htypes htype hclass⟩
    | some decl =>
      obtain rfl := class?_eq_some.mp hclass
      obtain ⟨function, hfunction⟩ := closed.exists_memberOverload (hknows decl rfl) name types
      obtain ⟨c', hchecked⟩ := exists_calleeChecked (c := c) name arguments span
        (function.map (.member origin))
      exact ⟨_, c', .member htypes htype hfunction hchecked⟩

theorem exists_blockChecked (name : String) (semantics : Semantics) (span : Span)
    (block : Option Span) : ∃ opens c', BlockChecked name semantics span c block opens c' := by
  cases block with
  | none =>
    by_cases hrule : semantics.blockRule = .required
    · exact ⟨false, _, .missing hrule⟩
    · exact ⟨false, c, .absent hrule⟩
  | some site =>
    by_cases hrule : semantics.blockRule = .forbidden
    · exact ⟨false, _, .unexpected hrule⟩
    · exact ⟨true, c, .opens hrule⟩

theorem exists_invoked (hscopes : c.scopes ≠ []) (callee : Callee) (name : String)
    (arguments : List (Option Origin)) (block : Option Span) (span : Span) :
    ∃ outcome c', Invoked name arguments block span c callee outcome c' := by
  cases callee with
  | topLevel function =>
    obtain ⟨opens, c', hb⟩ := exists_blockChecked (c := c) name function.semantics span block
    exact ⟨_, _, .topLevel hb⟩
  | member receiver function =>
    obtain ⟨middle, hg⟩ := exists_guarded hscopes function.currentOnly receiver span
    obtain ⟨opens, c', hb⟩ := exists_blockChecked (c := middle) name function.semantics span block
    cases hsemantics : function.semantics with
    | configure accessor => exact ⟨_, _, .configure hsemantics hg hb⟩
    | builder result => exact ⟨_, _, .builder hsemantics hg hb⟩
    | pure result => exact ⟨_, _, .pure hsemantics hg hb⟩
    | add object acceptsBlock =>
      cases hall : complete arguments with
      | false => exact ⟨_, _, .incomplete hsemantics hall hg hb⟩
      | true => exact ⟨_, _, .add hsemantics hall hg hb⟩

theorem exists_assigned {target : Target} (htarget : target.Typed schema) {value : Origin}
    (hvalue : value.Typed schema) (targetSpan valueSpan span : Span) :
    ∃ c', Assigned schema target targetSpan value valueSpan span c c' := by
  obtain ⟨expected, hexpected, -⟩ := htarget.2
  obtain ⟨actual, hactual, -⟩ := hvalue.hasType
  cases hreadOnly : target.property.readOnly with
  | true => exact ⟨_, .readOnly hreadOnly⟩
  | false =>
    cases hconforms : actual.conformsTo expected with
    | true => exact ⟨_, .accepted hreadOnly hexpected hactual hconforms⟩
    | false => exact ⟨_, .mismatch hreadOnly hexpected hactual hconforms⟩

theorem exists_localBound (hscopes : c.scopes ≠ []) (name : String) (value : Origin)
    (span : Span) : ∃ c', LocalBound name value span c c' := by
  obtain ⟨scope, outer, hs⟩ := List.exists_cons_of_ne_nil hscopes
  cases hd : scope.declare? name (.binding name value span) with
  | some next => exact ⟨_, .declared hs hd⟩
  | none => exact ⟨_, .duplicate hs hd⟩

/-! ## Walks -/

/-- Where a task can be taken up: only a block brings a scope of its own. -/
def Task.Open : Task → Context Findings → Prop
  | .configured _ _, _ => True
  | _, c => c.scopes ≠ []

theorem exists_walk_of_closed (closed : schema.Closed) : (task : Task) → {c : Context Findings} →
    task.Typed schema → c.Typed schema → task.Open c →
    ∃ result c' visits, Walk schema task c result c' visits
  -- each part is walked in the context that the parts before it leave, which is typed again and
  -- has a scope open again
  | .target ⟨none, name, span⟩, c, _, hc, hopen => by
    obtain ⟨found, hfound⟩ := Schema.exists_lookupProperty hc.scopes name
    obtain ⟨c', ht⟩ := exists_targetChecked hopen name span found
    exact ⟨found, c', _, .implicitTarget hfound ht⟩
  | .target ⟨some receiver, name, span⟩, c, _, hc, hopen => by
    obtain ⟨object, c₁, visits, hr⟩ := exists_walk_of_closed closed (.expr receiver) trivial hc
      hopen
    cases object with
    | none => exact ⟨none, c₁, _, .noTarget hr⟩
    | some object =>
      obtain ⟨-, hobject⟩ := hr.typed closed trivial hc
      obtain ⟨found, c', hm⟩ := exists_memberTarget (hr.frame.1.ne_nil hopen) (hobject object rfl)
        receiver.span name span
      exact ⟨found, c', _, .memberTarget hr hm⟩
  | .expr (.literal value span), c, _, _, _ => ⟨_, c, _, .literal⟩
  | .expr (.null span), c, _, _, _ => ⟨_, c, _, .null⟩
  | .expr (.this span), c, _, _, hopen => by
    obtain ⟨scope, outer, hs⟩ := List.exists_cons_of_ne_nil hopen
    exact ⟨_, c, _, .this hs⟩
  | .expr (.access ⟨none, name, span⟩), c, _, hc, hopen => by
    obtain ⟨value, hvalue⟩ := Schema.exists_lookupValue hc.scopes name span
    cases value with
    | some value => exact ⟨some value, c, _, .value hvalue⟩
    | none =>
      obtain ⟨found, c', visits, ht⟩ := exists_walk_of_closed closed (.target ⟨none, name, span⟩)
        trivial hc hopen
      exact ⟨_, c', visits, .implicitRead hvalue ht⟩
  | .expr (.access ⟨some receiver, name, span⟩), c, _, hc, hopen => by
    obtain ⟨found, c', visits, ht⟩ := exists_walk_of_closed closed
      (.target ⟨some receiver, name, span⟩) trivial hc hopen
    exact ⟨_, c', visits, .memberRead ht⟩
  | .expr (.call node), c, _, hc, hopen => by
    obtain ⟨value, c', visits, hcall⟩ := exists_walk_of_closed closed (.call node) trivial hc hopen
    exact ⟨value, c', visits, .callExpr hcall⟩
  | .call ⟨receiver, name, arguments, block, span⟩, c, _, hc, hopen => by
    obtain ⟨on, c₁, _, hr⟩ := exists_walk_of_closed closed (.receiver receiver) trivial hc hopen
    have hopen₁ := hr.frame.1.ne_nil hopen
    obtain ⟨hc₁, hon⟩ := hr.typed closed trivial hc
    obtain ⟨origins, c₂, _, ha⟩ := exists_walk_of_closed closed (.arguments arguments) trivial hc₁
      hopen₁
    have hopen₂ := ha.frame.1.ne_nil hopen₁
    obtain ⟨hc₂, harguments⟩ := ha.typed closed trivial hc₁
    obtain ⟨callee, c₃, hf⟩ := exists_calleeFound closed hc₂ hon harguments name span
    cases callee with
    | none => exact ⟨none, c₃, _, .uncalled hr ha hf⟩
    | some callee =>
      have hcallee := hf.typed hc₂ hon
      have hc₃ := hc₂.noted hf.noted
      obtain ⟨outcome, c₄, hi⟩ := exists_invoked (hf.noted.scopes ▸ hopen₂) callee name origins
        (block.map (·.span)) span
      obtain ⟨_, c', _, hb⟩ := exists_walk_of_closed closed (.configured outcome.configured block)
        (hi.outcome_typed closed hcallee harguments).1 (hi.typed closed hc₃ hcallee harguments)
        trivial
      exact ⟨outcome.value, c', _, .called hr ha hf hi hb⟩
  | .receiver none, c, _, _, _ => ⟨_, c, _, .unqualified⟩
  | .receiver (some receiver), c, _, hc, hopen => by
    obtain ⟨object, c', visits, hr⟩ := exists_walk_of_closed closed (.expr receiver) trivial hc
      hopen
    cases object with
    | none => exact ⟨_, c', visits, .unresolved hr⟩
    | some object => exact ⟨_, c', visits, .object hr⟩
  | .arguments [], c, _, _, _ => ⟨_, c, _, .noArguments⟩
  | .arguments (argument :: rest), c, _, hc, hopen => by
    obtain ⟨origin, c₁, _, h⟩ := exists_walk_of_closed closed (.expr argument) trivial hc hopen
    obtain ⟨origins, c', _, hs⟩ := exists_walk_of_closed closed (.arguments rest) trivial
      (h.typed closed trivial hc).1 (h.frame.1.ne_nil hopen)
    exact ⟨_, c', _, .argument h hs⟩
  | .configured _ none, c, _, _, _ => ⟨(), c, _, .noBlock⟩
  | .configured none (some block), c, _, _, _ => ⟨(), c, _, .skipped⟩
  | .configured (some object) (some block), c, htask, hc, _ => by
    have hscopes : ∀ scope ∈ Scope.new object :: c.scopes, scope.Typed schema :=
      List.forall_mem_cons.mpr ⟨⟨htask object rfl, List.forall_mem_nil _⟩, hc.scopes⟩
    obtain ⟨_, middle, visits, hb⟩ := exists_walk_of_closed closed (.block block) trivial
      (hc.within hscopes) (List.cons_ne_nil _ _)
    -- a block cannot close its own scope, nor leave another one open
    obtain ⟨inner, hm⟩ := exists_inner_of_declared hb.frame.1
    exact ⟨(), _, visits, .opened hb hm rfl⟩
  | .statement (.assign target value span), c, _, hc, hopen => by
    obtain ⟨found, c₁, _, ht⟩ := exists_walk_of_closed closed (.target target) trivial hc hopen
    obtain ⟨hc₁, htarget⟩ := ht.typed closed trivial hc
    obtain ⟨origin, c₂, _, hv⟩ := exists_walk_of_closed closed (.expr value) trivial hc₁
      (ht.frame.1.ne_nil hopen)
    obtain ⟨-, hvalue⟩ := hv.typed closed trivial hc₁
    cases found with
    | none => exact ⟨(), c₂, _, .unassigned ht hv (.inl rfl)⟩
    | some found =>
      cases origin with
      | none => exact ⟨(), c₂, _, .unassigned ht hv (.inr rfl)⟩
      | some origin =>
        obtain ⟨c', ha⟩ := exists_assigned (htarget found rfl) (hvalue origin rfl) target.span
          value.span span
        exact ⟨(), c', _, .assign ht hv ha⟩
  | .statement (.val name value span), c, _, hc, hopen => by
    obtain ⟨origin, c₁, _, hv⟩ := exists_walk_of_closed closed (.expr value) trivial hc hopen
    cases origin with
    | none => exact ⟨(), c₁, _, .unbound hv⟩
    | some origin =>
      obtain ⟨c', hb⟩ := exists_localBound (hv.frame.1.ne_nil hopen) name origin span
      exact ⟨(), c', _, .val hv hb⟩
  | .statement (.expr e), c, _, hc, hopen => by
    obtain ⟨value, c', visits, hv⟩ := exists_walk_of_closed closed (.expr e) trivial hc hopen
    exact ⟨(), c', visits, .exprStatement hv⟩
  | .statements [], c, _, _, _ => ⟨(), c, _, .noStatements⟩
  | .statements (statement :: rest), c, _, hc, hopen => by
    obtain ⟨_, c₁, _, h⟩ := exists_walk_of_closed closed (.statement statement) trivial hc hopen
    obtain ⟨_, c', _, hs⟩ := exists_walk_of_closed closed (.statements rest) trivial
      (h.typed closed trivial hc).1 (h.frame.1.ne_nil hopen)
    exact ⟨(), c', _, .statements h hs⟩
  | .block ⟨statements, span⟩, c, _, hc, hopen => by
    obtain ⟨_, c', visits, hs⟩ := exists_walk_of_closed closed (.statements statements) trivial hc
      hopen
    exact ⟨(), c', visits, .block hs⟩
termination_by task => task.size
decreasing_by all_goals simp [Task.size]; try omega

end Resolver

/-! ## Resolutions -/

namespace Resolution

def origins (resolution : Resolution) : List Origin :=
  resolution.top :: (resolution.assignments.flatMap (fun a => [a.target.receiver, a.value]) ++
    resolution.additions.flatMap (fun a => [a.container, a.object]))

/-- An origin stands somewhere in a resolution, at any depth. -/
def Holds (resolution : Resolution) (origin : Origin) : Prop :=
  ∃ whole ∈ resolution.origins, origin.Occurs whole

theorem exists_value {schema : Schema} {origin : Origin} (h : origin.HasType schema)
    (resolution : Resolution) (name : String) :
    ∃ value, resolution.value schema.typeOf origin name = .ok value := by
  obtain ⟨type, htype, -⟩ := h
  unfold value
  cases resolution.lastAssigned? origin.subject name with
  | some value => exact ⟨some value, rfl⟩
  | none => exact ⟨_, except_bind_ok.mpr ⟨type, htype, rfl⟩⟩

end Resolution

namespace Resolver

variable {schema : Schema}

theorem typed_of_mem_origins {top : Origin} {c : Context Findings} (htop : top.Typed schema)
    (hc : c.Typed schema) : ∀ origin ∈ (resolution top c).origins, origin.Typed schema := by
  simp only [Resolution.origins, resolution, List.forall_mem_cons, List.forall_mem_append,
    List.forall_mem_flatMap, List.not_mem_nil, false_implies, implies_true, and_true,
    Array.mem_toList_iff]
  exact ⟨htop, hc.record.assignments, hc.record.additions⟩

theorem exists_resolution_of_closed (closed : schema.Closed) (document : Block) :
    ∃ resolution, Resolution.ofDocument schema document = .ok resolution ∧
      ∀ origin ∈ resolution.origins, origin.Typed schema := by
  have htop := typed_topReceiver closed document
  obtain ⟨_, c, visits, hw⟩ := exists_walk_of_closed closed
    (.configured (some (topReceiver schema document)) (some document)) (forall_mem_some htop)
    typed_new trivial
  obtain ⟨hc, -⟩ := hw.typed closed (forall_mem_some htop) typed_new
  exact ⟨_, ofDocument_ok.mpr ⟨visits, c, hw, rfl⟩, typed_of_mem_origins htop hc⟩

/-- A schema that is read from a text resolves every document. Whatever origin stands in the
resolution has a type, and all its properties can be asked for. -/
theorem exists_resolution_of_text {text : String} (h : Schema.ofText text = .ok schema)
    (document : Block) :
    ∃ resolution, Resolution.ofDocument schema document = .ok resolution ∧
      ∀ origin, resolution.Holds origin →
        (∃ type, origin.type schema.typeOf = .ok type) ∧
        ∀ name, ∃ value, resolution.value schema.typeOf origin name = .ok value := by
  obtain ⟨resolution, hresolution, htyped⟩ :=
    exists_resolution_of_closed (Schema.closed_of_text h) document
  refine ⟨resolution, hresolution, ?_⟩
  rintro origin ⟨whole, hwhole, hoccurs⟩
  have htype := htyped whole hwhole hoccurs
  exact ⟨htype.imp fun _ h => h.1, Resolution.exists_value htype resolution⟩

end Resolver

namespace Sample

def nodesText : String :=
  r#"["Node", [["Node", [], [["next", "Node"]],
    [["more", [], ["add_and_configure", "Node", true]]]]]]"#

def node : ClassDecl :=
  ⟨⟨"", "Node"⟩, .empty, [⟨"next", .named ⟨"", "Node"⟩, false, false, false⟩],
    [⟨"more", [], .add (.named ⟨"", "Node"⟩) true, false⟩]⟩

def nodes : Schema := ⟨node, [node], [], []⟩

def cycle : Block :=
  ⟨[configure "more" [.assign ⟨none, "next", place 1⟩ (.this (place 2)) (place 3)] 4], place 0⟩

end Sample

theorem Resolver.sample_exists_resolution :
    Schema.ofText Sample.nodesText = .ok Sample.nodes ∧
    ∃ resolution, Resolution.ofDocument Sample.nodes Sample.cycle = .ok resolution ∧
      ∀ origin, resolution.Holds origin →
        (∃ type, origin.type Sample.nodes.typeOf = .ok type) ∧
        ∀ name, ∃ value, resolution.value Sample.nodes.typeOf origin name = .ok value := by
  have htext : Schema.ofText Sample.nodesText = .ok Sample.nodes := by cbv
  exact ⟨htext, exists_resolution_of_text htext Sample.cycle⟩

end ConfigScope
