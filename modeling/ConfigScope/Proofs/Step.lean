import ConfigScope.Proofs.Run
import ConfigScope.Resolution.Resolver

/-!
# The single steps of the resolver

One relation for each step that the resolver takes between two parts of a
document: checking a property that was looked up, finding the function of a
call, checking its block, calling it, assigning, and declaring a local value.
Its rules are the ways in which the step can end well, and an equivalence ties
it to the step. Everything that is later said about a whole walk is said about
these rules first.
-/

namespace ConfigScope

namespace Context

def accepting (c : Context Findings) (assignment : Assignment) : Context Findings :=
  { c with record.assignments := c.record.assignments.push assignment }

def adding (c : Context Findings) (container object : Origin) : Context Findings :=
  { c with record.additions := c.record.additions.push ⟨container, object⟩ }

section
variable (c : Context Findings) (assignment : Assignment) (container object : Origin)

@[simp] theorem scopes_accepting : (c.accepting assignment).scopes = c.scopes := rfl
@[simp] theorem nextId_accepting : (c.accepting assignment).nextId = c.nextId := rfl
@[simp] theorem issues_accepting : (c.accepting assignment).issues = c.issues := rfl
@[simp] theorem additions_accepting :
    (c.accepting assignment).record.additions = c.record.additions := rfl
@[simp] theorem assignments_accepting :
    (c.accepting assignment).record.assignments = c.record.assignments.push assignment := rfl

@[simp] theorem scopes_adding : (c.adding container object).scopes = c.scopes := rfl
@[simp] theorem nextId_adding : (c.adding container object).nextId = c.nextId := rfl
@[simp] theorem issues_adding : (c.adding container object).issues = c.issues := rfl
@[simp] theorem assignments_adding :
    (c.adding container object).record.assignments = c.record.assignments := rfl
@[simp] theorem additions_adding :
    (c.adding container object).record.additions = c.record.additions.push ⟨container, object⟩ :=
  rfl

end

end Context

namespace Resolver

open Analysis

variable {schema : Schema} {c c' : Context Findings} {name : String} {span : Span}

/-! ## Properties -/

/-- A property that was looked up is missing, or is checked if it is restricted. -/
inductive TargetChecked (name : String) (span : Span) (c : Context Findings) :
    Option Target → Context Findings → Prop
  | missing : TargetChecked name span c none (c.reporting ⟨span, .unresolvedName name⟩)
  | found {target c'} : Guarded target.property.currentOnly target.receiver span c c' →
      TargetChecked name span c (some target) c'

theorem checkTarget_ok {found result : Option Target} :
    (checkTarget name span found).run c = (.ok result, c') ↔
      result = found ∧ TargetChecked name span c found c' := by
  cases found with
  | none =>
    simp only [checkTarget, bind_ok, report_ok, pure_ok]
    constructor
    · rintro ⟨_, _, rfl, rfl, rfl⟩
      exact ⟨rfl, .missing⟩
    · rintro ⟨rfl, ⟨⟩⟩
      exact ⟨(), _, rfl, rfl, rfl⟩
  | some target =>
    simp only [checkTarget, guard_bind_ok, pure_ok]
    constructor
    · rintro ⟨_, hg, rfl, rfl⟩
      exact ⟨rfl, .found hg⟩
    · rintro ⟨rfl, h⟩
      cases h with
      | found hg => exact ⟨c', hg, rfl, rfl⟩

theorem implicitTarget_ok {found : Option Target} :
    (implicitTarget schema name span).run c = (.ok found, c') ↔
      schema.lookupProperty name c.scopes = .ok found ∧ TargetChecked name span c found c' := by
  simp only [implicitTarget, bind_ok, get_ok, follow_ok, checkTarget_ok]
  constructor
  · rintro ⟨_, _, ⟨rfl, rfl⟩, _, _, ⟨hl, rfl⟩, rfl, ht⟩
    exact ⟨hl, ht⟩
  · rintro ⟨hl, ht⟩
    exact ⟨c, c, ⟨rfl, rfl⟩, found, c, ⟨hl, rfl⟩, rfl, ht⟩

inductive MemberTarget (schema : Schema) (object : Origin) (site : Span) (name : String)
    (span : Span) (c : Context Findings) : Option Target → Context Findings → Prop
  | notAnObject {type} : object.type schema.typeOf = .ok type → type.class? = none →
      MemberTarget schema object site name span c none (c.reporting ⟨site, .notAnObject type⟩)
  | member {decl c'} : object.type schema.typeOf = .ok (.object decl) →
      TargetChecked name span c ((decl.property? name).map (⟨object, ·⟩)) c' →
      MemberTarget schema object site name span c ((decl.property? name).map (⟨object, ·⟩)) c'

theorem class?_eq_some {type : Ty} {decl : ClassDecl} :
    type.class? = some decl ↔ type = .object decl := by
  cases type <;> simp [Ty.class?]

theorem memberTarget_ok {object : Origin} {site : Span} {found : Option Target} :
    (memberTarget schema object site name span).run c = (.ok found, c') ↔
      MemberTarget schema object site name span c found c' := by
  simp only [memberTarget, bind_ok, follow_ok]
  constructor
  · rintro ⟨type, _, ⟨htype, rfl⟩, h⟩
    cases hclass : type.class? with
    | none =>
      simp only [hclass, bind_ok, report_ok, pure_ok] at h
      obtain ⟨_, _, rfl, rfl, rfl⟩ := h
      exact .notAnObject htype hclass
    | some decl =>
      simp only [hclass, checkTarget_ok] at h
      obtain ⟨rfl, h⟩ := h
      obtain rfl := class?_eq_some.mp hclass
      exact .member htype h
  · intro h
    cases h with
    | @notAnObject type htype hclass =>
      refine ⟨type, c, ⟨htype, rfl⟩, ?_⟩
      simp only [hclass, bind_ok, report_ok, pure_ok]
      exact ⟨(), _, rfl, trivial, rfl⟩
    | @member decl _ htype h =>
      exact ⟨.object decl, c, ⟨htype, rfl⟩, checkTarget_ok.mpr ⟨rfl, h⟩⟩

theorem implicitValue_ok {access : Access} {value : Option Origin} :
    (implicitValue schema access).run c = (.ok value, c') ↔
      (match access.receiver with
        | some _ => value = none
        | none => schema.lookupValue access.name access.span c.scopes = .ok value) ∧ c' = c := by
  cases hr : access.receiver with
  | some receiver => simp only [implicitValue, hr, pure_ok]
  | none =>
    simp only [implicitValue, hr, bind_ok, get_ok, follow_ok]
    constructor
    · rintro ⟨_, _, ⟨rfl, rfl⟩, h⟩
      exact h
    · intro h
      exact ⟨c, c, ⟨rfl, rfl⟩, h⟩

/-! ## Calls -/

section
variable {arguments : List (Option Origin)} {block : Option Span}

abbrev complete (arguments : List (Option Origin)) : Bool := arguments.all (·.isSome)

abbrev given (arguments : List (Option Origin)) : List Origin := arguments.filterMap (·)

/-- A function was looked up, or the call is reported unless its arguments are to blame. -/
inductive CalleeChecked (name : String) (arguments : List (Option Origin)) (span : Span)
    (c : Context Findings) : Option Callee → Context Findings → Prop
  | found {callee} : CalleeChecked name arguments span c (some callee) c
  | excused : complete arguments = false → CalleeChecked name arguments span c none c
  | missing : complete arguments = true →
      CalleeChecked name arguments span c none
        (c.reporting ⟨span, .unresolvedCall name arguments.length⟩)

theorem checkCallee_ok {callee result : Option Callee} :
    (checkCallee name arguments span callee).run c = (.ok result, c') ↔
      result = callee ∧ CalleeChecked name arguments span c callee c' := by
  cases callee with
  | some callee =>
    simp only [checkCallee, Option.isNone_some, Bool.false_eq_true, false_and, ↓reduceIte, pure_ok]
    constructor
    · rintro ⟨rfl, rfl⟩
      exact ⟨rfl, .found⟩
    · rintro ⟨rfl, ⟨⟩⟩
      exact ⟨rfl, rfl⟩
  | none =>
    cases hall : complete arguments with
    -- an argument that came to nothing excuses a call that is not found
    | false =>
      simp only [checkCallee, hall, Bool.false_eq_true, and_false, ↓reduceIte, pure_ok]
      constructor
      · rintro ⟨rfl, rfl⟩
        exact ⟨rfl, .excused hall⟩
      · rintro ⟨rfl, h⟩
        cases h with
        | excused => exact ⟨rfl, rfl⟩
        | missing h => simp [hall] at h
    | true =>
      simp only [checkCallee, hall, Option.isNone_none, and_self, ↓reduceIte, bind_ok, report_ok,
        pure_ok]
      constructor
      · rintro ⟨_, _, rfl, rfl, rfl⟩
        exact ⟨rfl, .missing hall⟩
      · rintro ⟨rfl, h⟩
        cases h with
        | excused h => simp [hall] at h
        | missing => exact ⟨(), _, rfl, rfl, rfl⟩

/-- The function of a call is looked for. The types of the arguments are derived in any case. -/
inductive CalleeFound (schema : Schema) (name : String) (arguments : List (Option Origin))
    (span : Span) (c : Context Findings) : On → Option Callee → Context Findings → Prop
  | unresolved {types} : schema.argumentTypes arguments = .ok types →
      CalleeFound schema name arguments span c .unresolved none c
  | unqualified {types callee c'} : schema.argumentTypes arguments = .ok types →
      schema.lookupFunction name types c.scopes = .ok callee →
      CalleeChecked name arguments span c callee c' →
      CalleeFound schema name arguments span c .nothing callee c'
  | notAnObject {types origin site type} : schema.argumentTypes arguments = .ok types →
      origin.type schema.typeOf = .ok type → type.class? = none →
      CalleeFound schema name arguments span c (.object origin site) none
        (c.reporting ⟨site, .notAnObject type⟩)
  | member {types origin site decl function c'} : schema.argumentTypes arguments = .ok types →
      origin.type schema.typeOf = .ok (.object decl) →
      schema.memberOverload decl name types = .ok function →
      CalleeChecked name arguments span c (function.map (.member origin)) c' →
      CalleeFound schema name arguments span c (.object origin site)
        (function.map (.member origin)) c'

theorem CalleeFound.found {on : On} {callee : Callee}
    (h : CalleeFound schema name arguments span c on (some callee) c') :
    c' = c ∧ ∃ types, schema.argumentTypes arguments = .ok types ∧
      (on = .nothing ∧ schema.lookupFunction name types c.scopes = .ok (some callee) ∨
        ∃ origin site decl function, on = .object origin site ∧ callee = .member origin function ∧
          origin.type schema.typeOf = .ok (.object decl) ∧
          schema.memberOverload decl name types = .ok (some function)) := by
  generalize hresult : some callee = result at h
  cases h with
  | unresolved => cases hresult
  | unqualified htypes hl hc =>
    subst hresult
    cases hc
    exact ⟨rfl, _, htypes, .inl ⟨rfl, hl⟩⟩
  | notAnObject => cases hresult
  | @member types origin site decl function _ htypes htype hf hc =>
    obtain ⟨function, rfl, rfl⟩ := Option.map_eq_some_iff.mp hresult.symm
    cases hc
    exact ⟨rfl, types, htypes, .inr ⟨origin, site, decl, function, rfl, rfl, htype, hf⟩⟩

theorem findCallee_ok {on : On} {callee : Option Callee} :
    (findCallee schema on name arguments span).run c = (.ok callee, c') ↔
      CalleeFound schema name arguments span c on callee c' := by
  simp only [findCallee, bind_ok, follow_ok]
  constructor
  · rintro ⟨types, _, ⟨htypes, rfl⟩, h⟩
    cases on with
    | unresolved =>
      simp only [pure_ok] at h
      obtain ⟨rfl, rfl⟩ := h
      exact .unresolved htypes
    | nothing =>
      simp only [bind_ok, get_ok, follow_ok, checkCallee_ok] at h
      obtain ⟨_, _, ⟨rfl, rfl⟩, _, _, ⟨hl, rfl⟩, rfl, h⟩ := h
      exact .unqualified htypes hl h
    | object origin site =>
      simp only [bind_ok, follow_ok] at h
      obtain ⟨type, _, ⟨htype, rfl⟩, h⟩ := h
      cases hclass : type.class? with
      | none =>
        simp only [hclass, bind_ok, report_ok, pure_ok] at h
        obtain ⟨_, _, rfl, rfl, rfl⟩ := h
        exact .notAnObject htypes htype hclass
      | some decl =>
        simp only [hclass, bind_ok, follow_ok, checkCallee_ok] at h
        obtain ⟨function, _, ⟨hf, rfl⟩, rfl, h⟩ := h
        obtain rfl := class?_eq_some.mp hclass
        exact .member htypes htype hf h
  · intro h
    cases h with
    | unresolved htypes => exact ⟨_, c, ⟨htypes, rfl⟩, rfl⟩
    | unqualified htypes hl h =>
      refine ⟨_, c, ⟨htypes, rfl⟩, ?_⟩
      simp only [bind_ok, get_ok, follow_ok, checkCallee_ok]
      exact ⟨c, c, ⟨rfl, rfl⟩, callee, c, ⟨hl, rfl⟩, rfl, h⟩
    | @notAnObject types origin site type htypes htype hclass =>
      refine ⟨types, c, ⟨htypes, rfl⟩, ?_⟩
      simp only [bind_ok, follow_ok]
      refine ⟨type, c, ⟨htype, rfl⟩, ?_⟩
      simp only [hclass, bind_ok, report_ok, pure_ok]
      exact ⟨(), _, rfl, trivial, rfl⟩
    | @member types origin site decl function _ htypes htype hf h =>
      refine ⟨types, c, ⟨htypes, rfl⟩, ?_⟩
      simp only [bind_ok, follow_ok]
      refine ⟨.object decl, c, ⟨htype, rfl⟩, ?_⟩
      simp only [Ty.class?, bind_ok, follow_ok, checkCallee_ok]
      exact ⟨function, c, ⟨hf, rfl⟩, rfl, h⟩

/-- The block of a call is checked: whether it is to be resolved, and what is reported. -/
inductive BlockChecked (name : String) (semantics : Semantics) (span : Span)
    (c : Context Findings) : Option Span → Bool → Context Findings → Prop
  | missing : semantics.blockRule = .required →
      BlockChecked name semantics span c none false (c.reporting ⟨span, .missingBlock name⟩)
  | unexpected {site} : semantics.blockRule = .forbidden →
      BlockChecked name semantics span c (some site) false
        (c.reporting ⟨site, .unexpectedBlock name⟩)
  | opens {site} : semantics.blockRule ≠ .forbidden →
      BlockChecked name semantics span c (some site) true c
  | absent : semantics.blockRule ≠ .required → BlockChecked name semantics span c none false c

theorem checkBlock_ok {semantics : Semantics} {opens : Bool} :
    (checkBlock name semantics block span).run c = (.ok opens, c') ↔
      BlockChecked name semantics span c block opens c' := by
  constructor
  · intro h
    unfold checkBlock at h
    split at h
    · next hrule =>
      simp only [bind_ok, report_ok, pure_ok] at h
      obtain ⟨_, _, rfl, rfl, rfl⟩ := h
      exact .missing hrule
    · next hrule =>
      simp only [bind_ok, report_ok, pure_ok] at h
      obtain ⟨_, _, rfl, rfl, rfl⟩ := h
      exact .unexpected hrule
    -- what is left reports nothing, and the block is resolved exactly if it is there
    all_goals
      next hrule =>
        obtain ⟨rfl, rfl⟩ := pure_ok.mp h
        first
        | exact .opens (by simp [hrule])
        | exact .absent (by simp [hrule])
  · intro h
    unfold checkBlock
    cases h with
    | missing hrule =>
      simp only [hrule, bind_ok, report_ok, pure_ok]
      exact ⟨(), _, rfl, trivial, rfl⟩
    | unexpected hrule =>
      simp only [hrule, bind_ok, report_ok, pure_ok]
      exact ⟨(), _, rfl, trivial, rfl⟩
    | opens hrule => cases h : semantics.blockRule <;> simp_all
    | absent hrule => cases h : semantics.blockRule <;> simp_all

theorem BlockChecked.nextId {semantics : Semantics} {opens : Bool}
    (h : BlockChecked name semantics span c block opens c') : c'.nextId = c.nextId := by
  cases h <;> rfl

/-- A function is called. The id of the call is the next one, and the object that a call adds is
recorded before the block of the call is resolved. -/
inductive Invoked (name : String) (arguments : List (Option Origin)) (block : Option Span)
    (span : Span) (c : Context Findings) : Callee → Outcome → Context Findings → Prop
  | configure {receiver function accessor middle opens c'} :
      function.semantics = .configure accessor →
      Guarded function.currentOnly receiver span c middle →
      BlockChecked name function.semantics span middle block opens c' →
      Invoked name arguments block span c (.member receiver function)
        ⟨if opens then some (.configured receiver function c.nextId accessor span) else none,
          if complete arguments then
            some (.memberCall receiver function (given arguments) c.nextId span) else none⟩
        c'.counting
  | add {receiver function object acceptsBlock middle opens c'} :
      function.semantics = .add object acceptsBlock → complete arguments = true →
      Guarded function.currentOnly receiver span c middle →
      BlockChecked name function.semantics span middle block opens c' →
      Invoked name arguments block span c (.member receiver function)
        ⟨if opens then some (.memberCall receiver function (given arguments) c.nextId span)
          else none,
          some (.memberCall receiver function (given arguments) c.nextId span)⟩
        (c'.counting.adding receiver
          (.memberCall receiver function (given arguments) c.nextId span))
  | incomplete {receiver function object acceptsBlock middle opens c'} :
      function.semantics = .add object acceptsBlock → complete arguments = false →
      Guarded function.currentOnly receiver span c middle →
      BlockChecked name function.semantics span middle block opens c' →
      Invoked name arguments block span c (.member receiver function)
        ⟨if opens then some (.memberCall receiver function (given arguments) c.nextId span)
          else none, none⟩
        c'.counting
  | builder {receiver function result middle opens c'} :
      function.semantics = .builder result →
      Guarded function.currentOnly receiver span c middle →
      BlockChecked name function.semantics span middle block opens c' →
      Invoked name arguments block span c (.member receiver function)
        ⟨none, if complete arguments then
          some (.built receiver function (given arguments) c.nextId span) else none⟩
        c'.counting
  | pure {receiver function result middle opens c'} :
      function.semantics = .pure result →
      Guarded function.currentOnly receiver span c middle →
      BlockChecked name function.semantics span middle block opens c' →
      Invoked name arguments block span c (.member receiver function)
        ⟨none, if complete arguments then
          some (.memberCall receiver function (given arguments) c.nextId span) else none⟩
        c'.counting
  | topLevel {function opens c'} :
      BlockChecked name function.semantics span c block opens c' →
      Invoked name arguments block span c (.topLevel function)
        ⟨if opens then some (.topLevelCall function (given arguments) c.nextId span) else none,
          if complete arguments then
            some (.topLevelCall function (given arguments) c.nextId span) else none⟩
        c'.counting

theorem addition_ok {container object : Origin} {u : Unit} :
    (addition container object).run c = (.ok u, c') ↔ c' = c.adding container object :=
  modify_ok

theorem invokeMember_ok {receiver : Origin} {function : MemberFunction} {outcome : Outcome} :
    (invokeMember receiver function name arguments block span).run c = (.ok outcome, c') ↔
      Invoked name arguments block span c (.member receiver function) outcome c' := by
  simp only [invokeMember, guard_bind_ok, bind_ok, checkBlock_ok, freshId_ok]
  constructor
  · rintro ⟨middle, hg, opens, checked, hb, _, _, ⟨rfl, rfl⟩, h⟩
    -- the id is taken after the checks, and neither of them takes one
    have hid : checked.nextId = c.nextId := hb.nextId.trans hg.nextId
    cases hs : function.semantics with
    | configure accessor =>
      simp only [hs, pure_ok] at h
      obtain ⟨rfl, rfl⟩ := h
      exact hid ▸ .configure hs hg hb
    | add object acceptsBlock =>
      simp only [hs] at h
      split at h
      · next hall =>
        simp only [bind_ok, addition_ok, pure_ok] at h
        obtain ⟨_, _, rfl, rfl, rfl⟩ := h
        exact hid ▸ .add hs hall hg hb
      · next hall =>
        obtain ⟨rfl, rfl⟩ := pure_ok.mp h
        exact hid ▸ .incomplete hs (Bool.eq_false_iff.mpr hall) hg hb
    | builder result =>
      simp only [hs, pure_ok] at h
      obtain ⟨rfl, rfl⟩ := h
      exact hid ▸ .builder hs hg hb
    | pure result =>
      simp only [hs, pure_ok] at h
      obtain ⟨rfl, rfl⟩ := h
      exact hid ▸ .pure hs hg hb
  · intro h
    cases h with
    | configure hs hg hb =>
      refine ⟨_, hg, _, _, hb, _, _, ⟨rfl, rfl⟩, ?_⟩
      simp [hs, hb.nextId, hg.nextId]
    | add hs hall hg hb =>
      refine ⟨_, hg, _, _, hb, _, _, ⟨rfl, rfl⟩, ?_⟩
      simp only [hs, hall, hb.nextId, hg.nextId, ↓reduceIte, bind_ok, addition_ok, pure_ok]
      exact ⟨(), _, rfl, trivial, rfl⟩
    | incomplete hs hall hg hb =>
      refine ⟨_, hg, _, _, hb, _, _, ⟨rfl, rfl⟩, ?_⟩
      simp [hs, hall, hb.nextId, hg.nextId]
    | builder hs hg hb =>
      refine ⟨_, hg, _, _, hb, _, _, ⟨rfl, rfl⟩, ?_⟩
      simp [hs, hb.nextId, hg.nextId]
    | pure hs hg hb =>
      refine ⟨_, hg, _, _, hb, _, _, ⟨rfl, rfl⟩, ?_⟩
      simp [hs, hb.nextId, hg.nextId]

theorem invoke_ok {callee : Callee} {outcome : Outcome} :
    (invoke callee name arguments block span).run c = (.ok outcome, c') ↔
      Invoked name arguments block span c callee outcome c' := by
  cases callee with
  | member receiver function => exact invokeMember_ok
  | topLevel function =>
    simp only [invoke, invokeTopLevel, bind_ok, checkBlock_ok, freshId_ok, pure_ok]
    constructor
    · rintro ⟨opens, checked, hb, _, _, ⟨rfl, rfl⟩, rfl, rfl⟩
      exact hb.nextId ▸ .topLevel hb
    · intro h
      cases h with
      | topLevel hb => exact ⟨_, _, hb, _, _, ⟨rfl, rfl⟩, by rw [hb.nextId], rfl⟩

end

/-! ## Statements -/

inductive Assigned (schema : Schema) (target : Target) (targetSpan : Span) (value : Origin)
    (valueSpan span : Span) (c : Context Findings) : Context Findings → Prop
  | readOnly : target.property.readOnly = true →
      Assigned schema target targetSpan value valueSpan span c
        (c.reporting ⟨targetSpan, .readOnlyProperty target.property.name⟩)
  | accepted {expected actual} : target.property.readOnly = false →
      schema.typeOf target.property.type = .ok expected →
      value.type schema.typeOf = .ok actual → actual.conformsTo expected = true →
      Assigned schema target targetSpan value valueSpan span c (c.accepting ⟨target, value, span⟩)
  | mismatch {expected actual} : target.property.readOnly = false →
      schema.typeOf target.property.type = .ok expected →
      value.type schema.typeOf = .ok actual → actual.conformsTo expected = false →
      Assigned schema target targetSpan value valueSpan span c
        (c.reporting ⟨valueSpan, .typeMismatch expected actual⟩)

theorem assign_ok {target : Target} {targetSpan valueSpan : Span} {value : Origin} {u : Unit} :
    (assign schema target targetSpan value valueSpan span).run c = (.ok u, c') ↔
      Assigned schema target targetSpan value valueSpan span c c' := by
  cases hr : target.property.readOnly with
  | true =>
    simp only [assign, hr, ↓reduceIte, report_ok]
    constructor
    · rintro rfl
      exact .readOnly hr
    · intro h
      cases h with
      | readOnly => rfl
      | accepted h => simp [hr] at h
      | mismatch h => simp [hr] at h
  | false =>
    simp only [assign, hr, Bool.false_eq_true, ↓reduceIte, bind_ok, follow_ok]
    constructor
    · rintro ⟨expected, _, ⟨hexpected, rfl⟩, actual, _, ⟨hactual, rfl⟩, h⟩
      split at h
      · next hconforms =>
        rw [modify_ok.mp h]
        exact .accepted hr hexpected hactual hconforms
      · next hconforms =>
        rw [report_ok.mp h]
        exact .mismatch hr hexpected hactual (Bool.eq_false_iff.mpr hconforms)
    · intro h
      cases h with
      | readOnly h => simp [hr] at h
      | accepted _ hexpected hactual hconforms =>
        refine ⟨_, c, ⟨hexpected, rfl⟩, _, c, ⟨hactual, rfl⟩, ?_⟩
        rw [if_pos hconforms, modify_ok, Context.accepting]
      | mismatch _ hexpected hactual hconforms =>
        refine ⟨_, c, ⟨hexpected, rfl⟩, _, c, ⟨hactual, rfl⟩, ?_⟩
        rw [if_neg (by simp [hconforms]), report_ok]

inductive LocalBound (name : String) (value : Origin) (span : Span) (c : Context Findings) :
    Context Findings → Prop
  | declared {scope next outer} : c.scopes = scope :: outer →
      scope.declare? name (.binding name value span) = some next →
      LocalBound name value span c (c.within (next :: outer))
  | duplicate {scope outer} : c.scopes = scope :: outer →
      scope.declare? name (.binding name value span) = none →
      LocalBound name value span c (c.reporting ⟨span, .duplicateLocal name⟩)

theorem bindLocal_ok {value : Origin} {u : Unit} :
    (bindLocal name value span).run c = (.ok u, c') ↔ LocalBound name value span c c' := by
  simp only [bindLocal, bind_ok, declare_ok]
  constructor
  · rintro ⟨_, _, ⟨scope, outer, hs, ⟨next, hd, rfl, rfl⟩ | ⟨hd, rfl, rfl⟩⟩, h⟩
    · simp only [↓reduceIte, pure_ok] at h
      obtain ⟨-, rfl⟩ := h
      exact .declared hs hd
    · simp only [Bool.false_eq_true, ↓reduceIte, report_ok] at h
      subst h
      exact .duplicate hs hd
  · intro h
    cases h with
    | declared hs hd =>
      exact ⟨true, _, ⟨_, _, hs, .inl ⟨_, hd, rfl, rfl⟩⟩, rfl⟩
    | duplicate hs hd =>
      exact ⟨false, c, ⟨_, _, hs, .inr ⟨hd, rfl, rfl⟩⟩, rfl⟩

end Resolver

end ConfigScope
