import ConfigScope.Proofs.Step

/-!
# The walk through a document

`Walk` is the evaluation relation of documents: what a part of a document, met
in some context, comes to, the context afterwards, and the nodes that are
visited on the way. Its rules follow the parts of a document, and take the
steps between them from the relations of single steps.

The resolver and the relation agree: a run ends well exactly if there is a
walk (`run_iff_walk`). So whatever holds of every walk holds of every run, and
is shown by induction on walks.
-/

namespace ConfigScope

namespace Schema

def declares (schema : Schema) (name : String) (scope : Scope) : Bool :=
  match scope.receiver.type schema.typeOf with
  | .ok type => (type.property? name).isSome
  | .error _ => false

def offers (schema : Schema) (name : String) (arguments : List (Option Origin)) (scope : Scope) :
    Bool :=
  match schema.argumentTypes arguments, scope.receiver.type schema.typeOf with
  | .ok types, .ok (.object decl) =>
    match schema.memberOverload decl name types with
    | .ok function => function.isSome
    | .error _ => false
  | _, _ => false

end Schema

namespace Resolver

/-- How a member is reached: on a receiver that is written out, or on the receiver of an open scope,
which is given by the number of scopes inside it. -/
inductive Way where
  | on (receiver : Expr)
  | scope (distance : Nat)

namespace Way

def toProperty (schema : Schema) (name : String) (scopes : List Scope) : Option Expr → Way
  | some receiver => .on receiver
  | none => .scope (scopes.findIdx (schema.declares name))

def toFunction (schema : Schema) (name : String) (arguments : List (Option Origin))
    (scopes : List Scope) : Option Expr → Way
  | some receiver => .on receiver
  | none => .scope (scopes.findIdx (schema.offers name arguments))

end Way

/-- A node that the walk visits, noted when the step that belongs to it is taken: after the parts it
is made of, and for a call before its block. -/
inductive Visit where
  | access (node : Access) (way : Way) (found : Option Target)
  /-- With the function that is called, and the object that the block of the call is about, if the
  block is resolved. -/
  | call (node : Call) (way : Way) (callee : Option Callee) (configured : Option Origin)
  | statement (node : Statement)

inductive Task where
  | target (access : Access)
  | expr (expr : Expr)
  | call (call : Call)
  | receiver (receiver : Option Expr)
  | arguments (arguments : List Expr)
  | configured (object : Option Origin) (block : Option Block)
  | statement (statement : Statement)
  | statements (statements : List Statement)
  | block (block : Block)

namespace Task

abbrev Result : Task → Type
  | .target _ => Option Target
  | .expr _ | .call _ => Option Origin
  | .receiver _ => On
  | .arguments _ => List (Option Origin)
  | .configured _ _ | .statement _ | .statements _ | .block _ => Unit

def resolve (schema : Schema) : (task : Task) → Resolver task.Result
  | .target access => resolveTarget schema access
  | .expr e => resolveExpr schema e
  | .call node => resolveCall schema node
  | .receiver e => resolveReceiver schema e
  | .arguments es => resolveArguments schema es
  | .configured object b => resolveConfigured schema object b
  | .statement s => resolveStatement schema s
  | .statements ss => resolveStatements schema ss
  | .block b => resolveBlock schema b

noncomputable def size : Task → Nat
  | .target access => sizeOf access
  | .expr e => sizeOf e
  | .call node => sizeOf node
  | .receiver e => sizeOf e
  | .arguments es => sizeOf es
  | .configured _ b => sizeOf b
  | .statement s => sizeOf s
  | .statements ss => sizeOf ss
  | .block b => sizeOf b

end Task

inductive Walk (schema : Schema) : (task : Task) → Context Findings → task.Result →
    Context Findings → List Visit → Prop
  -- targets
  | implicitTarget {name span c found c'} :
      schema.lookupProperty name c.scopes = .ok found → TargetChecked name span c found c' →
      Walk schema (.target ⟨none, name, span⟩) c found c'
        [.access ⟨none, name, span⟩ (.toProperty schema name c.scopes none) found]
  | noTarget {receiver name span c c' visits} :
      Walk schema (.expr receiver) c none c' visits →
      Walk schema (.target ⟨some receiver, name, span⟩) c none c'
        (visits ++ [.access ⟨some receiver, name, span⟩ (.on receiver) none])
  | memberTarget {receiver name span c object middle found c' visits} :
      Walk schema (.expr receiver) c (some object) middle visits →
      MemberTarget schema object receiver.span name span middle found c' →
      Walk schema (.target ⟨some receiver, name, span⟩) c found c'
        (visits ++ [.access ⟨some receiver, name, span⟩ (.on receiver) found])
  -- expressions
  | literal {value span c} :
      Walk schema (.expr (.literal value span)) c (some (.constant value span)) c []
  | null {span c} : Walk schema (.expr (.null span)) c (some (.null span)) c []
  | this {span scope outer c} : c.scopes = scope :: outer →
      Walk schema (.expr (.this span)) c (some scope.receiver) c []
  | value {name span value c} :
      schema.lookupValue name span c.scopes = .ok (some value) →
      Walk schema (.expr (.access ⟨none, name, span⟩)) c (some value) c []
  | implicitRead {name span found c c' visits} :
      schema.lookupValue name span c.scopes = .ok none →
      Walk schema (.target ⟨none, name, span⟩) c found c' visits →
      Walk schema (.expr (.access ⟨none, name, span⟩)) c (found.map (·.read span)) c' visits
  | memberRead {receiver name span found c c' visits} :
      Walk schema (.target ⟨some receiver, name, span⟩) c found c' visits →
      Walk schema (.expr (.access ⟨some receiver, name, span⟩)) c (found.map (·.read span)) c'
        visits
  | callExpr {call value c c' visits} :
      Walk schema (.call call) c value c' visits →
      Walk schema (.expr (.call call)) c value c' visits
  -- calls
  | uncalled {receiver name arguments block span on origins c c₁ c₂ c' visits₁ visits₂} :
      Walk schema (.receiver receiver) c on c₁ visits₁ →
      Walk schema (.arguments arguments) c₁ origins c₂ visits₂ →
      CalleeFound schema name origins span c₂ on none c' →
      Walk schema (.call ⟨receiver, name, arguments, block, span⟩) c none c'
        (visits₁ ++ visits₂ ++ [.call ⟨receiver, name, arguments, block, span⟩
          (.toFunction schema name origins c₂.scopes receiver) none none])
  | called {receiver name arguments block span on origins callee outcome c c₁ c₂ c₃ c₄ c'
        visits₁ visits₂ visits₃} :
      Walk schema (.receiver receiver) c on c₁ visits₁ →
      Walk schema (.arguments arguments) c₁ origins c₂ visits₂ →
      CalleeFound schema name origins span c₂ on (some callee) c₃ →
      Invoked name origins (block.map (·.span)) span c₃ callee outcome c₄ →
      Walk schema (.configured outcome.configured block) c₄ () c' visits₃ →
      Walk schema (.call ⟨receiver, name, arguments, block, span⟩) c outcome.value c'
        (visits₁ ++ visits₂ ++ .call ⟨receiver, name, arguments, block, span⟩
          (.toFunction schema name origins c₂.scopes receiver) (some callee) outcome.configured ::
            visits₃)
  | unqualified {c} : Walk schema (.receiver none) c .nothing c []
  | unresolved {receiver c c' visits} :
      Walk schema (.expr receiver) c none c' visits →
      Walk schema (.receiver (some receiver)) c .unresolved c' visits
  | object {receiver origin c c' visits} :
      Walk schema (.expr receiver) c (some origin) c' visits →
      Walk schema (.receiver (some receiver)) c (.object origin receiver.span) c' visits
  | noArguments {c} : Walk schema (.arguments []) c [] c []
  | argument {argument rest origin origins c middle c' visits₁ visits₂} :
      Walk schema (.expr argument) c origin middle visits₁ →
      Walk schema (.arguments rest) middle origins c' visits₂ →
      Walk schema (.arguments (argument :: rest)) c (origin :: origins) c' (visits₁ ++ visits₂)
  | noBlock {object c} : Walk schema (.configured object none) c () c []
  | skipped {block c} : Walk schema (.configured none (some block)) c () c []
  | opened {object block inner outer c middle visits} :
      Walk schema (.block block) (c.within (.new object :: c.scopes)) () middle visits →
      middle.scopes = inner :: outer → outer.length = c.depth →
      Walk schema (.configured (some object) (some block)) c () (middle.within outer) visits
  -- statements
  | assign {target value span found origin c c₁ c₂ c' visits₁ visits₂} :
      Walk schema (.target target) c (some found) c₁ visits₁ →
      Walk schema (.expr value) c₁ (some origin) c₂ visits₂ →
      Assigned schema found target.span origin value.span span c₂ c' →
      Walk schema (.statement (.assign target value span)) c () c'
        (visits₁ ++ visits₂ ++ [.statement (.assign target value span)])
  | unassigned {target value span found origin c middle c' visits₁ visits₂} :
      Walk schema (.target target) c found middle visits₁ →
      Walk schema (.expr value) middle origin c' visits₂ →
      found = none ∨ origin = none →
      Walk schema (.statement (.assign target value span)) c () c'
        (visits₁ ++ visits₂ ++ [.statement (.assign target value span)])
  | val {name value span origin c middle c' visits} :
      Walk schema (.expr value) c (some origin) middle visits →
      LocalBound name origin span middle c' →
      Walk schema (.statement (.val name value span)) c () c'
        (visits ++ [.statement (.val name value span)])
  | unbound {name value span c c' visits} :
      Walk schema (.expr value) c none c' visits →
      Walk schema (.statement (.val name value span)) c () c'
        (visits ++ [.statement (.val name value span)])
  | exprStatement {expr value c c' visits} :
      Walk schema (.expr expr) c value c' visits →
      Walk schema (.statement (.expr expr)) c () c' visits
  | noStatements {c} : Walk schema (.statements []) c () c []
  | statements {statement rest c middle c' visits₁ visits₂} :
      Walk schema (.statement statement) c () middle visits₁ →
      Walk schema (.statements rest) middle () c' visits₂ →
      Walk schema (.statements (statement :: rest)) c () c' (visits₁ ++ visits₂)
  | block {statements span c c' visits} :
      Walk schema (.statements statements) c () c' visits →
      Walk schema (.block ⟨statements, span⟩) c () c' visits

open Analysis

variable {schema : Schema} {task : Task} {c c' : Context Findings} {visits : List Visit}

theorem Walk.run {result : task.Result} (h : Walk schema task c result c' visits) :
    (task.resolve schema).run c = (.ok result, c') := by
  induction h with
  | implicitTarget hl ht => exact implicitTarget_ok.mpr ⟨hl, ht⟩
  | noTarget _ ih =>
    simp only [Task.resolve, resolveTarget, bind_ok]
    exact ⟨none, _, ih, rfl⟩
  | memberTarget _ hm ih =>
    simp only [Task.resolve, resolveTarget, bind_ok]
    exact ⟨some _, _, ih, memberTarget_ok.mpr hm⟩
  | literal => rfl
  | null => rfl
  | this hs =>
    simp only [Task.resolve, resolveExpr, bind_ok, currentReceiver_ok]
    exact ⟨_, _, ⟨⟨_, _, hs, rfl⟩, rfl⟩, rfl⟩
  | value hl =>
    simp only [Task.resolve, resolveExpr, bind_ok, implicitValue_ok]
    exact ⟨some _, _, ⟨hl, rfl⟩, rfl⟩
  | implicitRead hl _ ih =>
    simp only [Task.resolve, resolveExpr, bind_ok, implicitValue_ok]
    exact ⟨none, _, ⟨hl, rfl⟩, bind_ok.mpr ⟨_, _, ih, rfl⟩⟩
  | memberRead _ ih =>
    simp only [Task.resolve, resolveExpr, bind_ok, implicitValue_ok]
    exact ⟨none, _, ⟨rfl, rfl⟩, bind_ok.mpr ⟨_, _, ih, rfl⟩⟩
  | callExpr _ ih => simpa only [Task.resolve, resolveExpr] using ih
  | uncalled _ _ hf ihr iha =>
    simp only [Task.resolve, resolveCall, bind_ok]
    exact ⟨_, _, ihr, _, _, iha, none, _, findCallee_ok.mpr hf, rfl⟩
  | called _ _ hf hi _ ihr iha ihb =>
    simp only [Task.resolve, resolveCall, bind_ok]
    refine ⟨_, _, ihr, _, _, iha, some _, _, findCallee_ok.mpr hf, ?_⟩
    simp only [bind_ok]
    exact ⟨_, _, invoke_ok.mpr hi, (), _, ihb, rfl⟩
  | unqualified => rfl
  | unresolved _ ih =>
    simp only [Task.resolve, resolveReceiver, bind_ok]
    exact ⟨none, _, ih, rfl⟩
  | object _ ih =>
    simp only [Task.resolve, resolveReceiver, bind_ok]
    exact ⟨some _, _, ih, rfl⟩
  | noArguments => rfl
  | argument _ _ ih ihs =>
    simp only [Task.resolve, resolveArguments, bind_ok]
    exact ⟨_, _, ih, _, _, ihs, rfl⟩
  | noBlock => rfl
  | skipped => rfl
  | opened _ hm hl ih =>
    simp only [Task.resolve, resolveConfigured]
    exact withScope_ok.mpr ⟨_, _, _, ih, hm, hl, rfl⟩
  | assign _ _ ha iht ihv =>
    simp only [Task.resolve, resolveStatement, bind_ok]
    exact ⟨some _, _, iht, some _, _, ihv, assign_ok.mpr ha⟩
  | @unassigned _ _ _ found origin _ _ _ _ _ _ _ hnone iht ihv =>
    simp only [Task.resolve, resolveStatement, bind_ok]
    refine ⟨_, _, iht, _, _, ihv, ?_⟩
    rcases hnone with rfl | rfl
    · rfl
    · cases found <;> rfl
  | val _ hb ih =>
    simp only [Task.resolve, resolveStatement, bind_ok]
    exact ⟨some _, _, ih, bindLocal_ok.mpr hb⟩
  | unbound _ ih =>
    simp only [Task.resolve, resolveStatement, bind_ok]
    exact ⟨none, _, ih, rfl⟩
  | exprStatement _ ih =>
    simp only [Task.resolve, resolveStatement, discard_ok]
    exact ⟨_, ih⟩
  | noStatements => rfl
  | statements _ _ ih ihs =>
    simp only [Task.resolve, resolveStatements, bind_ok]
    exact ⟨(), _, ih, ihs⟩
  | block _ ih => simpa only [Task.resolve, resolveBlock] using ih

theorem exists_walk : (task : Task) → {c : Context Findings} → {result : task.Result} →
    {c' : Context Findings} → (task.resolve schema).run c = (.ok result, c') →
    ∃ visits, Walk schema task c result c' visits
  | .target ⟨none, name, span⟩, c, found, c', h => by
    obtain ⟨hl, ht⟩ := implicitTarget_ok.mp h
    exact ⟨_, .implicitTarget hl ht⟩
  | .target ⟨some receiver, name, span⟩, c, found, c', h => by
    simp only [Task.resolve, resolveTarget, bind_ok] at h
    obtain ⟨object, middle, hr, h⟩ := h
    obtain ⟨visits, hr⟩ := exists_walk (.expr receiver) hr
    cases object with
    | none =>
      obtain ⟨rfl, rfl⟩ := pure_ok.mp h
      exact ⟨_, .noTarget hr⟩
    | some object => exact ⟨_, .memberTarget hr (memberTarget_ok.mp h)⟩
  | .expr (.literal value span), c, result, c', h => by
    obtain ⟨rfl, rfl⟩ := pure_ok.mp h
    exact ⟨_, .literal⟩
  | .expr (.null span), c, result, c', h => by
    obtain ⟨rfl, rfl⟩ := pure_ok.mp h
    exact ⟨_, .null⟩
  | .expr (.this span), c, result, c', h => by
    simp only [Task.resolve, resolveExpr, bind_ok, currentReceiver_ok, pure_ok] at h
    obtain ⟨_, _, ⟨⟨scope, outer, hs, rfl⟩, rfl⟩, rfl, rfl⟩ := h
    exact ⟨_, .this hs⟩
  | .expr (.access ⟨none, name, span⟩), c, result, c', h => by
    simp only [Task.resolve, resolveExpr, bind_ok, implicitValue_ok] at h
    obtain ⟨value, _, ⟨hl, rfl⟩, h⟩ := h
    cases value with
    | some value =>
      obtain ⟨rfl, rfl⟩ := pure_ok.mp h
      exact ⟨_, .value hl⟩
    | none =>
      simp only [bind_ok, pure_ok] at h
      obtain ⟨found, _, ht, rfl, rfl⟩ := h
      obtain ⟨visits, ht⟩ := exists_walk (.target ⟨none, name, span⟩) ht
      exact ⟨_, .implicitRead hl ht⟩
  | .expr (.access ⟨some receiver, name, span⟩), c, result, c', h => by
    simp only [Task.resolve, resolveExpr, bind_ok, implicitValue_ok] at h
    obtain ⟨_, _, ⟨rfl, rfl⟩, h⟩ := h
    simp only [bind_ok, pure_ok] at h
    obtain ⟨found, _, ht, rfl, rfl⟩ := h
    obtain ⟨visits, ht⟩ := exists_walk (.target ⟨some receiver, name, span⟩) ht
    exact ⟨_, .memberRead ht⟩
  | .expr (.call call), c, result, c', h => by
    simp only [Task.resolve, resolveExpr] at h
    obtain ⟨visits, h⟩ := exists_walk (.call call) h
    exact ⟨_, .callExpr h⟩
  | .call ⟨receiver, name, arguments, block, span⟩, c, result, c', h => by
    simp only [Task.resolve, resolveCall, bind_ok] at h
    obtain ⟨on, c₁, hr, origins, c₂, ha, callee, c₃, hf, h⟩ := h
    obtain ⟨visits₁, hr⟩ := exists_walk (.receiver receiver) hr
    obtain ⟨visits₂, ha⟩ := exists_walk (.arguments arguments) ha
    cases callee with
    | none =>
      obtain ⟨rfl, rfl⟩ := pure_ok.mp h
      exact ⟨_, .uncalled hr ha (findCallee_ok.mp hf)⟩
    | some callee =>
      simp only [bind_ok, invoke_ok, pure_ok] at h
      obtain ⟨outcome, c₄, hi, _, _, hb, rfl, rfl⟩ := h
      obtain ⟨visits₃, hb⟩ := exists_walk (.configured outcome.configured block) hb
      exact ⟨_, .called hr ha (findCallee_ok.mp hf) hi hb⟩
  | .receiver none, c, result, c', h => by
    obtain ⟨rfl, rfl⟩ := pure_ok.mp h
    exact ⟨_, .unqualified⟩
  | .receiver (some receiver), c, result, c', h => by
    simp only [Task.resolve, resolveReceiver, bind_ok] at h
    obtain ⟨origin, _, hr, h⟩ := h
    obtain ⟨visits, hr⟩ := exists_walk (.expr receiver) hr
    cases origin with
    | none =>
      obtain ⟨rfl, rfl⟩ := pure_ok.mp h
      exact ⟨_, .unresolved hr⟩
    | some origin =>
      obtain ⟨rfl, rfl⟩ := pure_ok.mp h
      exact ⟨_, .object hr⟩
  | .arguments [], c, result, c', h => by
    obtain ⟨rfl, rfl⟩ := pure_ok.mp h
    exact ⟨_, .noArguments⟩
  | .arguments (argument :: rest), c, result, c', h => by
    simp only [Task.resolve, resolveArguments, bind_ok, pure_ok] at h
    obtain ⟨origin, middle, h, origins, _, hs, rfl, rfl⟩ := h
    obtain ⟨visits₁, h⟩ := exists_walk (.expr argument) h
    obtain ⟨visits₂, hs⟩ := exists_walk (.arguments rest) hs
    exact ⟨_, .argument h hs⟩
  | .configured object none, c, result, c', h => by
    obtain ⟨rfl, rfl⟩ := pure_ok.mp h
    exact ⟨_, .noBlock⟩
  | .configured none (some block), c, result, c', h => by
    obtain ⟨rfl, rfl⟩ := pure_ok.mp h
    exact ⟨_, .skipped⟩
  | .configured (some object) (some block), c, result, c', h => by
    simp only [Task.resolve, resolveConfigured, withScope_ok] at h
    obtain ⟨middle, inner, outer, h, hm, hl, rfl⟩ := h
    obtain ⟨visits, h⟩ := exists_walk (.block block) h
    exact ⟨_, .opened h hm hl⟩
  | .statement (.assign target value span), c, result, c', h => by
    simp only [Task.resolve, resolveStatement, bind_ok] at h
    obtain ⟨found, c₁, ht, origin, c₂, hv, h⟩ := h
    obtain ⟨visits₁, ht⟩ := exists_walk (.target target) ht
    obtain ⟨visits₂, hv⟩ := exists_walk (.expr value) hv
    cases found with
    | none =>
      obtain ⟨-, rfl⟩ := pure_ok.mp h
      exact ⟨_, .unassigned ht hv (.inl rfl)⟩
    | some found =>
      cases origin with
      | none =>
        obtain ⟨-, rfl⟩ := pure_ok.mp h
        exact ⟨_, .unassigned ht hv (.inr rfl)⟩
      | some origin => exact ⟨_, .assign ht hv (assign_ok.mp h)⟩
  | .statement (.val name value span), c, result, c', h => by
    simp only [Task.resolve, resolveStatement, bind_ok] at h
    obtain ⟨origin, middle, hv, h⟩ := h
    obtain ⟨visits, hv⟩ := exists_walk (.expr value) hv
    cases origin with
    | none =>
      obtain ⟨-, rfl⟩ := pure_ok.mp h
      exact ⟨_, .unbound hv⟩
    | some origin => exact ⟨_, .val hv (bindLocal_ok.mp h)⟩
  | .statement (.expr expr), c, result, c', h => by
    simp only [Task.resolve, resolveStatement, discard_ok] at h
    obtain ⟨value, h⟩ := h
    obtain ⟨visits, h⟩ := exists_walk (.expr expr) h
    exact ⟨_, .exprStatement h⟩
  | .statements [], c, result, c', h => by
    obtain ⟨-, rfl⟩ := pure_ok.mp h
    exact ⟨_, .noStatements⟩
  | .statements (statement :: rest), c, result, c', h => by
    simp only [Task.resolve, resolveStatements, bind_ok] at h
    obtain ⟨_, middle, h, hs⟩ := h
    obtain ⟨visits₁, h⟩ := exists_walk (.statement statement) h
    obtain ⟨visits₂, hs⟩ := exists_walk (.statements rest) hs
    exact ⟨_, .statements h hs⟩
  | .block ⟨statements, span⟩, c, result, c', h => by
    simp only [Task.resolve, resolveBlock] at h
    obtain ⟨visits, h⟩ := exists_walk (.statements statements) h
    exact ⟨_, .block h⟩
-- the object that a block configures comes out of the walk, so it does not count
termination_by task => task.size
decreasing_by all_goals simp [Task.size]; try omega

/-- A run ends well exactly if there is a walk. -/
theorem run_iff_walk {result : task.Result} :
    (task.resolve schema).run c = (.ok result, c') ↔
      ∃ visits, Walk schema task c result c' visits :=
  ⟨exists_walk task, fun ⟨_, h⟩ => h.run⟩

/-! ## Documents -/

def topReceiver (schema : Schema) (document : Block) : Origin :=
  .top (.object schema.topLevel) document.span

def resolution (top : Origin) (c : Context Findings) : Resolution :=
  ⟨top, c.record.assignments.toList, c.record.additions.toList, c.issues.toList⟩

/-- A document is walked through like the block of a call: which nodes are visited, and the
resolution it ends in. -/
def Traversal (schema : Schema) (document : Block) (visits : List Visit) (result : Resolution) :
    Prop :=
  ∃ c, Walk schema (.configured (some (topReceiver schema document)) (some document))
      (.new ⟨#[], #[]⟩) () c visits ∧
    result = resolution (topReceiver schema document) c

theorem ofDocument_ok {document : Block} {result : Resolution} :
    Resolution.ofDocument schema document = .ok result ↔
      ∃ visits, Traversal schema document visits result := by
  have hrun : (withScope (.new (topReceiver schema document)) (resolveBlock schema document)) =
      (Task.configured (some (topReceiver schema document)) (some document)).resolve schema := by
    simp only [Task.resolve, resolveConfigured]
  unfold topReceiver at hrun
  -- only the findings of the last context are kept
  simp only [Resolution.ofDocument, hrun]
  constructor
  · intro h
    split at h
    · next u c hw =>
      cases h
      obtain ⟨visits, hw⟩ := run_iff_walk.mp hw
      exact ⟨visits, c, hw, rfl⟩
    · cases h
  · rintro ⟨visits, c, hw, rfl⟩
    have hw := hw.run
    unfold topReceiver at hw
    rw [hw]
    rfl

end Resolver

/-! ## A small document -/

namespace Sample

def place (start : Nat) : Span := ⟨start, start + 1, Nat.le_succ start⟩

def int : TypeRef := .inline (.scalar .int)

def monitor : ClassDecl := ⟨⟨"app", "Monitor"⟩, .empty, [⟨"level", int, false, false, false⟩], []⟩

def server : ClassDecl :=
  ⟨⟨"app", "Server"⟩, .empty,
    [⟨"port", int, false, false, true⟩, ⟨"replica", .named ⟨"app", "Server"⟩, false, false, false⟩],
    [⟨"monitor", [], .add (.named ⟨"app", "Monitor"⟩) true, false⟩]⟩

def app : ClassDecl :=
  ⟨⟨"app", "App"⟩, .empty, [],
    [⟨"server", [], .configure ⟨"server", .named ⟨"app", "Server"⟩⟩, false⟩]⟩

def schema : Schema := ⟨app, [app, monitor, server], [], []⟩

def assign (receiver : Option Expr) (name : String) (value : Int32) (start : Nat) : Statement :=
  .assign ⟨receiver, name, place start⟩ (.literal (.int value) (place (start + 1)))
    (place (start + 2))

def configure (name : String) (statements : List Statement) (start : Nat) : Statement :=
  .expr (.call ⟨none, name, [], some ⟨statements, place start⟩, place (start + 1)⟩)

/-- Five assignments to a server and its monitor. The third and the last ask for the port of
something other than the innermost receiver. -/
def document : Block :=
  ⟨[configure "server" [
      assign none "port" 1 10,
      assign (some (.this (place 20))) "port" 2 21,
      assign (some (.access ⟨none, "replica", place 30⟩)) "port" 3 31,
      configure "monitor" [assign none "level" 4 40, assign none "port" 5 50] 60] 70], place 0⟩

end Sample

end ConfigScope
