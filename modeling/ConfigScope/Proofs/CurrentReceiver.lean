import ConfigScope.Proofs.Frame
import ConfigScope.Proofs.Lookup

/-!
# Restricted members

A restricted member may only be asked of the current receiver, which is that of
the innermost scope. The check compares origins by value, but what it says can be
read off the document: `this` is the current receiver, no other expression ever
stands for it, and an unqualified name is on it exactly if the innermost scope
supplies the member (`violations_eq_offences`).

The reason is that receivers carry the ids of the calls that opened their
scopes. Along the open scopes these ids descend, and all of them are in the past
(`Stacked`), while a call that is made now gets a new one.
-/

namespace ConfigScope

namespace Origin

def opens : Origin → Bool
  | top _ _ | memberCall _ _ _ _ _ | topLevelCall _ _ _ _ | configured _ _ _ _ _ => true
  | _ => false

/-- The number of calls after which an origin came to be; none for those that are no calls. -/
def serial : Origin → Nat
  | memberCall _ _ _ id _ | topLevelCall _ _ id _ | configured _ _ id _ _
  | built _ _ _ id _ => id + 1
  | _ => 0

end Origin

/-- The receivers of the open scopes when so many calls were made: the further in, the later. -/
structure Stacked (scopes : List Scope) (calls : Nat) : Prop where
  opens : ∀ scope ∈ scopes, scope.receiver.opens = true
  bounded : ∀ scope ∈ scopes, scope.receiver.serial ≤ calls
  descending : scopes.Pairwise fun inner outer => outer.receiver.serial < inner.receiver.serial
  locals : ∀ scope ∈ scopes, ∀ entry ∈ scope.locals, entry.2.opens = false

def current? (scopes : List Scope) : Option Origin :=
  scopes.head?.map (·.receiver)

namespace Stacked

variable {scopes scopes' : List Scope} {calls calls' : Nat}

theorem mono (h : Stacked scopes calls) (hle : calls ≤ calls') : Stacked scopes calls' :=
  ⟨h.opens, fun scope hmem => Nat.le_trans (h.bounded scope hmem) hle, h.descending, h.locals⟩

theorem declared (h : Stacked scopes calls) (hd : DeclaredInnermost scopes scopes') :
    Stacked scopes' calls := by
  obtain @⟨scope, next, outer, name, value, span, hd⟩ := hd
  obtain ⟨-, rfl⟩ := Scope.declare?_eq_some.mp hd
  obtain ⟨hopens, hbounded, hdescending, hlocals⟩ := h
  rw [List.forall_mem_cons] at hopens hbounded hlocals
  rw [List.pairwise_cons] at hdescending
  refine ⟨List.forall_mem_cons.mpr hopens, List.forall_mem_cons.mpr hbounded,
    List.pairwise_cons.mpr hdescending, List.forall_mem_cons.mpr ⟨?_, hlocals.2⟩⟩
  exact List.forall_mem_cons.mpr ⟨rfl, hlocals.1⟩

theorem walk {schema : Schema} {task : Resolver.Task} {c c' : Context Findings}
    {result : task.Result} {visits : List Resolver.Visit} (h : Stacked c.scopes c.nextId)
    (hw : Resolver.Walk schema task c result c' visits) : Stacked c'.scopes c'.nextId := by
  obtain ⟨hkeeps, he⟩ := hw.frame
  have hscopes : ∀ scopes', Relation.ReflTransGen DeclaredInnermost c.scopes scopes' →
      Stacked scopes' c.nextId := by
    intro scopes' hd
    induction hd with
    | refl => exact h
    | tail _ hd ih => exact ih.declared hd
  exact (hscopes _ hkeeps.declared).mono he.nextId

theorem enter (h : Stacked scopes calls) {object : Origin} (hopens : object.opens = true)
    (hbounded : object.serial ≤ calls)
    (hlater : ∀ scope ∈ scopes, scope.receiver.serial < object.serial) :
    Stacked (.new object :: scopes) calls :=
  ⟨List.forall_mem_cons.mpr ⟨hopens, h.opens⟩, List.forall_mem_cons.mpr ⟨hbounded, h.bounded⟩,
    List.pairwise_cons.mpr ⟨hlater, h.descending⟩,
    List.forall_mem_cons.mpr ⟨fun _ hmem => (nomatch hmem), h.locals⟩⟩

theorem distance_eq_zero_iff (h : Stacked scopes calls) {distance : Nat} {scope : Scope}
    (hscope : scopes[distance]? = some scope) :
    distance = 0 ↔ current? scopes = some scope.receiver := by
  have hdescending := h.descending
  cases scopes with
  | nil => simp at hscope
  | cons inner outer =>
    cases distance with
    | zero => simp_all [current?]
    | succ distance =>
      have hmem : scope ∈ outer := List.mem_of_getElem? (by simpa using hscope)
      have hlt := (List.pairwise_cons.mp hdescending).1 scope hmem
      simp only [current?, Nat.add_one_ne_zero, List.head?_cons, Option.map_some, Option.some.injEq,
        false_iff]
      intro heq
      rw [heq] at hlt
      exact Nat.lt_irrefl _ hlt

theorem ne_current (h : Stacked scopes calls) {object : Origin}
    (hlater : object.opens = true → calls < object.serial) : current? scopes ≠ some object := by
  intro hcurrent
  obtain ⟨scope, hhead, rfl⟩ := Option.map_eq_some_iff.mp hcurrent
  have hmem := List.mem_of_head? hhead
  exact absurd (hlater (h.opens scope hmem)) (Nat.not_lt.mpr (h.bounded scope hmem))

end Stacked

namespace Resolver

/-- Whether a way leads to the current receiver, by what is written: on `this`, or on the innermost
scope. -/
def Way.isCurrent : Way → Bool
  | .on (.this _) => true
  | .on _ => false
  | .scope distance => distance == 0

def violations (issues : List Issue) : List Issue :=
  issues.filter (·.reason = .notCurrentReceiver)

namespace Visit

def span : Visit → Span
  | access node _ _ => node.span
  | call node _ _ _ => node.span
  | statement node => node.span

/-- A restricted member was found, and not on the way to the current receiver. -/
def offends : Visit → Bool
  | access _ way (some target) => target.property.currentOnly && !way.isCurrent
  | call _ way (some (.member _ function)) _ => function.currentOnly && !way.isCurrent
  | _ => false

end Visit

/-- The violations of a walk, by what is visited alone: one for each visit that offends. -/
def offences (visits : List Visit) : List Issue :=
  (visits.filter (·.offends)).map fun visit => ⟨visit.span, .notCurrentReceiver⟩

variable {schema : Schema} {c c' : Context Findings} {name : String} {span : Span}

/-! ## Which values are later than a context -/

section
variable {arguments : List (Option Origin)} {block : Option Span} {callee : Callee}
  {outcome : Outcome} {origin : Origin}

theorem Invoked.serial_value (h : Invoked name arguments block span c callee outcome c')
    (hv : outcome.value = some origin) : origin.serial = c.nextId + 1 := by
  cases h <;> simp only [Option.ite_none_right_eq_some, Option.some.injEq, reduceCtorEq] at hv
  case add => exact hv ▸ rfl
  all_goals exact hv.2 ▸ rfl

theorem Invoked.configured_later (h : Invoked name arguments block span c callee outcome c')
    (ho : outcome.configured = some origin) :
    origin.opens = true ∧ origin.serial = c.nextId + 1 := by
  cases h <;> simp only [Option.ite_none_right_eq_some, Option.some.injEq, reduceCtorEq] at ho
  all_goals exact ho.2 ▸ ⟨rfl, rfl⟩

end

/-- A value that could be a receiver, and is not asked for by `this`, is the result of a call that
was made for it. -/
theorem Walk.later {expr : Expr} {value : Option Origin} {visits : List Visit} {origin : Origin}
    (h : Walk schema (.expr expr) c value c' visits) (hs : Stacked c.scopes c.nextId)
    (hthis : ∀ span, expr ≠ .this span) (hv : value = some origin) (hopens : origin.opens = true) :
    c.nextId < origin.serial := by
  cases h with
  | literal => cases hv; cases hopens
  | null => cases hv; cases hopens
  | this => exact absurd rfl (hthis _)
  | value hl =>
    cases hv
    -- locals are bindings, even of receivers, and a binding is not what it names
    rcases Schema.lookupValue_ok hl with ⟨scope, hmem, hlocal⟩ | ⟨external, -, rfl⟩
    · have := hs.locals scope hmem _ hlocal
      simp [hopens] at this
    · cases hopens
  | implicitRead =>
    obtain ⟨target, -, rfl⟩ := Option.map_eq_some_iff.mp hv
    cases hopens
  | memberRead =>
    obtain ⟨target, -, rfl⟩ := Option.map_eq_some_iff.mp hv
    cases hopens
  | callExpr hcall =>
    cases hcall with
    | uncalled => cases hv
    | called hr ha hf hi =>
      -- the id is new when the call is made, and so it is since the expression was met
      have hle := hr.frame.2.trans (ha.frame.2.trans hf.noted.frame.2)
      rw [hi.serial_value hv]
      exact Nat.lt_succ_of_le hle.nextId

theorem Walk.isCurrent_iff {expr : Expr} {value : Option Origin} {visits : List Visit}
    {origin : Origin} (h : Walk schema (.expr expr) c value c' visits)
    (hs : Stacked c.scopes c.nextId) (hv : value = some origin) :
    (Way.on expr).isCurrent = true ↔ current? c.scopes = some origin := by
  by_cases hthis : ∃ span, expr = .this span
  · obtain ⟨span, rfl⟩ := hthis
    cases h with
    | this hscopes =>
      cases hv
      simp [Way.isCurrent, current?, hscopes]
  · have hne := hs.ne_current (h.later hs (fun span heq => hthis ⟨span, heq⟩) hv)
    have hnot : (Way.on expr).isCurrent = false := by
      cases expr with
      | this span => exact absurd ⟨span, rfl⟩ hthis
      | _ => rfl
    simp [hnot, hne]

/-! ## Violations -/

@[simp] theorem offences_nil : offences [] = [] := rfl

@[simp] theorem offences_append (visits₁ visits₂ : List Visit) :
    offences (visits₁ ++ visits₂) = offences visits₁ ++ offences visits₂ := by
  simp [offences]

@[simp] theorem offences_statement (node : Statement) : offences [.statement node] = [] := rfl

theorem offences_cons (visit : Visit) (visits : List Visit) :
    offences (visit :: visits) = offences [visit] ++ offences visits :=
  offences_append [visit] visits

theorem violations_reporting {issue : Issue} (h : issue.reason ≠ .notCurrentReceiver) :
    violations (c.reporting issue).issues.toList = violations c.issues.toList := by
  simp [violations, h]

theorem violations_guarded {restricted current : Bool} {receiver : Origin} {site : Span}
    (h : Guarded restricted receiver site c c')
    (hcurrent : current = true ↔ current? c.scopes = some receiver) :
    violations c'.issues.toList = violations c.issues.toList ++
      if restricted && !current then [⟨site, .notCurrentReceiver⟩] else [] := by
  cases h with
  | free hr => simp [hr]
  | current _ hscopes heq =>
    have : current = true := hcurrent.mpr (by simp [current?, hscopes, heq])
    simp [this]
  | violation hr hscopes hne =>
    have : current = false := by
      rw [Bool.eq_false_iff, Ne, hcurrent]
      simpa [current?, hscopes] using hne
    simp [hr, this, violations]

theorem TargetChecked.violations_eq {found : Option Target} (node : Access) (way : Way)
    (h : TargetChecked name node.span c found c')
    (hway : ∀ target, found = some target →
      (way.isCurrent = true ↔ current? c.scopes = some target.receiver)) :
    violations c'.issues.toList =
      violations c.issues.toList ++ offences [.access node way found] := by
  cases h with
  | missing => simp [violations, offences, Visit.offends]
  | @found target _ hg =>
    rw [violations_guarded hg (hway target rfl)]
    cases h : target.property.currentOnly && !way.isCurrent <;>
      simp [offences, Visit.offends, Visit.span, h]

theorem MemberTarget.violations_eq {object : Origin} {site : Span} {found : Option Target}
    (node : Access) (way : Way) (h : MemberTarget schema object site name node.span c found c')
    (hway : way.isCurrent = true ↔ current? c.scopes = some object) :
    violations c'.issues.toList =
      violations c.issues.toList ++ offences [.access node way found] := by
  cases h with
  | notAnObject => simp [violations, offences, Visit.offends]
  | member _ ht =>
    refine ht.violations_eq node way ?_
    intro target htarget
    obtain ⟨property, -, rfl⟩ := Option.map_eq_some_iff.mp htarget
    exact hway

section
variable {arguments : List (Option Origin)} {block : Option Span}

theorem CalleeChecked.violations_eq {callee : Option Callee}
    (h : CalleeChecked name arguments span c callee c') :
    violations c'.issues.toList = violations c.issues.toList := by
  cases h with
  | found => rfl
  | excused => rfl
  | missing => exact violations_reporting (by simp)

theorem CalleeFound.violations_eq {on : On} {callee : Option Callee}
    (h : CalleeFound schema name arguments span c on callee c') :
    violations c'.issues.toList = violations c.issues.toList := by
  cases h with
  | unresolved => rfl
  | unqualified _ _ hc => exact hc.violations_eq
  | notAnObject => exact violations_reporting (by simp)
  | member _ _ _ hc => exact hc.violations_eq

theorem BlockChecked.violations_eq {semantics : Semantics} {opens : Bool}
    (h : BlockChecked name semantics span c block opens c') :
    violations c'.issues.toList = violations c.issues.toList := by
  cases h with
  | missing => exact violations_reporting (by simp)
  | unexpected => exact violations_reporting (by simp)
  | opens => rfl
  | absent => rfl

theorem Invoked.violations_eq {callee : Callee} {outcome : Outcome} (node : Call) (way : Way)
    (h : Invoked name arguments block node.span c callee outcome c')
    (hway : ∀ receiver function, callee = .member receiver function →
      (way.isCurrent = true ↔ current? c.scopes = some receiver)) :
    violations c'.issues.toList = violations c.issues.toList ++
      offences [.call node way (some callee) outcome.configured] := by
  -- a member function is checked before its block is, and only that check offends
  have member {receiver function middle opens next} (configured : Option Origin)
      (hcallee : callee = .member receiver function)
      (hg : Guarded function.currentOnly receiver node.span c middle)
      (hb : BlockChecked name function.semantics node.span middle block opens next) :
      violations next.issues.toList = violations c.issues.toList ++
        offences [.call node way (some callee) configured] := by
    subst hcallee
    rw [hb.violations_eq, violations_guarded hg (hway receiver function rfl)]
    cases h : function.currentOnly && !way.isCurrent <;>
      simp [offences, Visit.offends, Visit.span, h]
  cases h with
  | configure _ hg hb =>
    rw [Context.issues_counting]
    exact member _ rfl hg hb
  | add _ _ hg hb =>
    rw [Context.issues_adding, Context.issues_counting]
    exact member _ rfl hg hb
  | incomplete _ _ hg hb =>
    rw [Context.issues_counting]
    exact member _ rfl hg hb
  | builder _ hg hb =>
    rw [Context.issues_counting]
    exact member _ rfl hg hb
  | pure _ hg hb =>
    rw [Context.issues_counting]
    exact member _ rfl hg hb
  | topLevel hb => simp [hb.violations_eq, offences, Visit.offends]

end

theorem Assigned.violations_eq {target : Target} {targetSpan valueSpan : Span} {value : Origin}
    (h : Assigned schema target targetSpan value valueSpan span c c') :
    violations c'.issues.toList = violations c.issues.toList := by
  cases h with
  | readOnly => exact violations_reporting (by simp)
  | accepted => rfl
  | mismatch => exact violations_reporting (by simp)

theorem LocalBound.violations_eq {value : Origin} (h : LocalBound name value span c c') :
    violations c'.issues.toList = violations c.issues.toList := by
  cases h with
  | declared => rfl
  | duplicate => exact violations_reporting (by simp)

theorem Walk.toFunction_isCurrent_iff {receiver : Option Expr} {on : On} {c₁ c₂ : Context Findings}
    {arguments : List (Option Origin)} {object : Origin} {function : MemberFunction}
    {visits : List Visit} (hr : Walk schema (.receiver receiver) c on c₁ visits)
    (hs : Stacked c.scopes c.nextId) (hscopes : c₂.scopes = c.scopes)
    (hf : CalleeFound schema name arguments span c₂ on (some (.member object function)) c') :
    (Way.toFunction schema name arguments c₂.scopes receiver).isCurrent = true ↔
      current? c₂.scopes = some object := by
  rw [hscopes]
  obtain ⟨-, types, htypes, ⟨rfl, hl⟩ | ⟨_, _, _, _, rfl, hcallee, -⟩⟩ := hf.found
  · cases hr
    rw [hscopes] at hl
    rcases Schema.lookupFunction_ok htypes hl with ⟨scope, _, _, hscope, hcallee, -⟩ | ⟨_, h, -⟩
    -- no two scopes have the same receiver, so only the innermost one is at distance zero
    · cases hcallee
      simp [Way.toFunction, Way.isCurrent, hs.distance_eq_zero_iff hscope]
    · cases h
  · cases hcallee
    cases hr with
    | object hr => exact hr.isCurrent_iff hs rfl

/-- What has to hold of the object that a block is about: it is later than all receivers. -/
def Task.Ready (c : Context Findings) : Task → Prop
  | .configured (some object) _ => object.opens = true ∧ object.serial ≤ c.nextId ∧
      ∀ scope ∈ c.scopes, scope.receiver.serial < object.serial
  | _ => True

theorem Invoked.stacked {arguments : List (Option Origin)} {block : Option Span} {callee : Callee}
    {outcome : Outcome} (h : Invoked name arguments block span c callee outcome c')
    (hs : Stacked c.scopes c.nextId) : Stacked c'.scopes c'.nextId := by
  rw [h.frame.1]
  exact hs.mono h.frame.2.nextId

theorem Invoked.ready {arguments : List (Option Origin)} {site : Option Span} {callee : Callee}
    {outcome : Outcome} {block : Option Block}
    (h : Invoked name arguments site span c callee outcome c') (hs : Stacked c.scopes c.nextId) :
    (Task.configured outcome.configured block).Ready c' := by
  cases ho : outcome.configured with
  | none => trivial
  | some object =>
    obtain ⟨hopens, hserial⟩ := h.configured_later ho
    refine ⟨hopens, Nat.le_of_eq (hserial.trans h.nextId.symm), ?_⟩
    intro scope hmem
    rw [h.frame.1] at hmem
    exact hserial ▸ Nat.lt_succ_of_le (hs.bounded scope hmem)

theorem Walk.violations_eq {task : Task} {result : task.Result} {visits : List Visit}
    (h : Walk schema task c result c' visits) (hs : Stacked c.scopes c.nextId)
    (hready : task.Ready c) :
    violations c'.issues.toList = violations c.issues.toList ++ offences visits := by
  induction h with
  | @implicitTarget name span c found c' hl ht =>
    -- the way counts scopes and the check compares receivers
    refine ht.violations_eq ⟨none, name, span⟩ _ ?_
    rintro target rfl
    obtain ⟨scope, type, hscope, hreceiver, -⟩ := Schema.lookupProperty_ok hl
    simp [Way.toProperty, Way.isCurrent, hs.distance_eq_zero_iff hscope, hreceiver]
  | noTarget _ ih => simpa [offences, Visit.offends] using ih hs trivial
  | @memberTarget receiver name span c object middle found c' visits hr hm ih =>
    have hway : (Way.on receiver).isCurrent = true ↔ current? middle.scopes = some object := by
      rw [hr.frame.1]
      exact hr.isCurrent_iff hs rfl
    rw [hm.violations_eq ⟨some receiver, name, span⟩ _ hway, ih hs trivial, offences_append,
      List.append_assoc]
  | literal => simp
  | null => simp
  | this => simp
  | value => simp
  | implicitRead _ _ ih => exact ih hs trivial
  | memberRead _ ih => exact ih hs trivial
  | callExpr _ ih => exact ih hs trivial
  | uncalled hr ha hf ihr iha =>
    rw [hf.violations_eq, iha (hs.walk hr) trivial, ihr hs trivial]
    simp [offences, Visit.offends]
  | @called receiver name arguments block span on origins callee outcome c c₁ c₂ c₃ c₄ c'
      visits₁ visits₂ visits₃ hr ha hf hi hb ihr iha ihb =>
    -- the check of the function looks at the scopes that the call was met in
    have hs₂ := (hs.walk hr).walk ha
    have hscopes : c₂.scopes = c.scopes := ha.frame.1.trans hr.frame.1
    obtain ⟨rfl, -⟩ := hf.found
    have hway : ∀ object function, callee = .member object function →
        ((Way.toFunction schema name origins c₃.scopes receiver).isCurrent = true ↔
          current? c₃.scopes = some object) := by
      rintro object function rfl
      exact hr.toFunction_isCurrent_iff hs hscopes hf
    rw [ihb (hi.stacked hs₂) (hi.ready hs₂),
      hi.violations_eq ⟨receiver, name, arguments, block, span⟩ _ hway,
      iha (hs.walk hr) trivial, ihr hs trivial]
    simp only [offences_append, List.append_assoc, ← offences_cons]
  | unqualified => simp
  | unresolved _ ih => exact ih hs trivial
  | object _ ih => exact ih hs trivial
  | noArguments => simp
  | argument h _ ih ihs =>
    rw [ihs (hs.walk h) trivial, ih hs trivial, offences_append, List.append_assoc]
  | noBlock => simp
  | skipped => simp
  | opened _ _ _ ih => exact ih (hs.enter hready.1 hready.2.1 hready.2.2) trivial
  | assign ht _ ha iht ihv =>
    rw [ha.violations_eq, ihv (hs.walk ht) trivial, iht hs trivial]
    simp
  | unassigned ht _ _ iht ihv =>
    rw [ihv (hs.walk ht) trivial, iht hs trivial]
    simp
  | val _ hb ih =>
    rw [hb.violations_eq, ih hs trivial]
    simp
  | unbound _ ih =>
    rw [ih hs trivial]
    simp
  | exprStatement _ ih => exact ih hs trivial
  | noStatements => simp
  | statements h _ ih ihs =>
    rw [ihs (hs.walk h) trivial, ih hs trivial, offences_append, List.append_assoc]
  | block _ ih => exact ih hs trivial

/-- The violations that are reported for a document are exactly those of its offending visits, in
their order: a restricted member on a receiver that is written and is not `this`, or an unqualified
one that a scope further out supplies. -/
theorem violations_eq_offences {document : Block} {result : Resolution}
    (h : Resolution.ofDocument schema document = .ok result) :
    (∃ visits, Traversal schema document visits result) ∧
      ∀ visits, Traversal schema document visits result →
        violations result.issues = offences visits := by
  refine ⟨ofDocument_ok.mp h, ?_⟩
  rintro visits ⟨c, hw, rfl⟩
  have hs : Stacked [] 0 := ⟨nofun, nofun, .nil, nofun⟩
  have hready : (Task.configured (some (topReceiver schema document)) (some document)).Ready
      (.new ⟨#[], #[]⟩) := ⟨rfl, Nat.le_refl 0, nofun⟩
  exact hw.violations_eq hs hready

theorem sample_violations_eq_offences :
    ∃ result, Resolution.ofDocument Sample.schema Sample.document = .ok result ∧
      violations result.issues = [⟨Sample.place 31, .notCurrentReceiver⟩,
        ⟨Sample.place 50, .notCurrentReceiver⟩] ∧
      (∃ visits, Traversal Sample.schema Sample.document visits result) ∧
      ∀ visits, Traversal Sample.schema Sample.document visits result →
        violations result.issues = offences visits :=
  ⟨_, rfl, rfl, violations_eq_offences rfl⟩

end Resolver

end ConfigScope
