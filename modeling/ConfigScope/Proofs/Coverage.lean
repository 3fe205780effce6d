import ConfigScope.Proofs.Frame

/-!
# Every assignment is accepted or reported

The places of a document are the spans of its assignment statements, in the order
of evaluation. Whatever is not resolved is reported: a walk that comes to nothing
leaves an issue behind (`Walk.issues_lt_of_fails`). From that it follows that a
walk accepts assignments at some of the places it passes, in their order, and at
all of them if it finds no issue (`Walk.covers`).
-/

namespace ConfigScope

/-! ## Places -/

mutual

def Access.places : Access → List Span
  | ⟨receiver, _, _⟩ => receiverPlaces receiver

def Expr.places : Expr → List Span
  | .literal _ _ | .null _ | .this _ => []
  | .access access => access.places
  | .call call => call.places

/-- The block of a call is resolved after its receiver and its arguments. -/
def Call.places : Call → List Span
  | ⟨receiver, _, arguments, block, _⟩ =>
    receiverPlaces receiver ++ argumentPlaces arguments ++ blockPlaces block

def receiverPlaces : Option Expr → List Span
  | none => []
  | some receiver => receiver.places

def argumentPlaces : List Expr → List Span
  | [] => []
  | argument :: rest => argument.places ++ argumentPlaces rest

def blockPlaces : Option Block → List Span
  | none => []
  | some block => block.places

/-- A statement comes after all that stands inside it. -/
def Statement.places : Statement → List Span
  | .assign target value span => target.places ++ value.places ++ [span]
  | .val _ value _ => value.places
  | .expr expr => expr.places

def statementPlaces : List Statement → List Span
  | [] => []
  | statement :: rest => statement.places ++ statementPlaces rest

def Block.places : Block → List Span
  | ⟨statements, _⟩ => statementPlaces statements

end

namespace Resolver

variable {schema : Schema} {c c₁ c₂ c' : Context Findings} {name : String} {span : Span}

/-! ## Failures leave issues -/

def Task.Fails : (task : Task) → task.Result → Prop
  | .target _, found => found = none
  | .expr _, value | .call _, value => value = none
  | .receiver _, on => on = .unresolved
  | .arguments _, origins => complete origins = false
  | .configured _ _, _ | .statement _, _ | .statements _, _ | .block _, _ => False

theorem issues_le_of_extends (h : c.Extends c') : c.issues.size ≤ c'.issues.size := by
  simpa using h.issues.length_le

theorem issues_lt_reporting (c : Context Findings) (issue : Issue) :
    c.issues.size < (c.reporting issue).issues.size := by
  simp

theorem TargetChecked.issues_lt (h : TargetChecked name span c none c') :
    c.issues.size < c'.issues.size := by
  cases h with
  | missing => exact issues_lt_reporting c _

theorem MemberTarget.issues_lt {object : Origin} {site : Span} {found : Option Target}
    (h : MemberTarget schema object site name span c found c') (hfound : found = none) :
    c.issues.size < c'.issues.size := by
  cases h with
  | notAnObject => exact issues_lt_reporting c _
  | member _ ht =>
    rw [hfound] at ht
    exact ht.issues_lt

theorem CalleeFound.issues_lt {arguments : List (Option Origin)} {on : On} {callee : Option Callee}
    (h : CalleeFound schema name arguments span c on callee c') (hcallee : callee = none) :
    on = .unresolved ∨ complete arguments = false ∨ c.issues.size < c'.issues.size := by
  have checked {callee : Option Callee} (h : CalleeChecked name arguments span c callee c')
      (hcallee : callee = none) :
      complete arguments = false ∨ c.issues.size < c'.issues.size := by
    cases h with
    | found => cases hcallee
    | excused hall => exact .inl hall
    | missing => exact .inr (issues_lt_reporting c _)
  cases h with
  | unresolved => exact .inl rfl
  | unqualified _ _ hc => exact .inr (checked hc hcallee)
  | notAnObject => exact .inr (.inr (issues_lt_reporting c _))
  | member _ _ _ hc => exact .inr (checked hc hcallee)

theorem Invoked.complete_eq_false {arguments : List (Option Origin)} {block : Option Span}
    {callee : Callee} {outcome : Outcome}
    (h : Invoked name arguments block span c callee outcome c') (hvalue : outcome.value = none) :
    complete arguments = false := by
  cases h with
  | add => cases hvalue
  | incomplete _ hall => exact hall
  | _ =>
    cases hall : complete arguments with
    | false => rfl
    | true => simp [hall] at hvalue

theorem Walk.issues_lt_of_fails {task : Task} {result : task.Result} {visits : List Visit}
    (h : Walk schema task c result c' visits) (hfails : task.Fails result) :
    c.issues.size < c'.issues.size := by
  induction h with
  | implicitTarget _ ht =>
    cases hfails
    exact ht.issues_lt
  | noTarget _ ih => exact ih rfl
  | memberTarget hr hm _ =>
    exact Nat.lt_of_le_of_lt (issues_le_of_extends hr.frame.2) (hm.issues_lt hfails)
  | literal => cases hfails
  | null => cases hfails
  | this => cases hfails
  | value => cases hfails
  | implicitRead _ _ ih => exact ih (Option.map_eq_none_iff.mp hfails)
  | memberRead _ ih => exact ih (Option.map_eq_none_iff.mp hfails)
  | callExpr _ ih => exact ih hfails
  | uncalled hr ha hf ihr iha =>
    have hle₁ := issues_le_of_extends hr.frame.2
    have hle₂ := issues_le_of_extends ha.frame.2
    have hle₃ := issues_le_of_extends hf.noted.frame.2
    -- a call that is not reported itself has a receiver or an argument that was
    rcases hf.issues_lt rfl with hon | hall | hlt
    · have := ihr hon
      omega
    · have := iha hall
      omega
    · omega
  | called hr ha hf hi hb _ iha _ =>
    have hle₁ := issues_le_of_extends hr.frame.2
    have hlt₂ := iha (hi.complete_eq_false hfails)
    have hle₃ := issues_le_of_extends hf.noted.frame.2
    have hle₄ := issues_le_of_extends hi.frame.2
    have hle₅ := issues_le_of_extends hb.frame.2
    omega
  | unqualified => cases hfails
  | unresolved _ ih => exact ih rfl
  | object => cases hfails
  | noArguments => cases hfails
  | @argument _ _ origin origins _ _ _ _ _ h hs ih ihs =>
    have hle := issues_le_of_extends h.frame.2
    have hles := issues_le_of_extends hs.frame.2
    cases origin with
    | none =>
      have := ih rfl
      omega
    | some origin =>
      have := ihs (by simpa [Task.Fails] using hfails)
      omega
  | _ => cases hfails

/-! ## Covering places -/

def acceptedPlaces (c : Context Findings) : List Span :=
  c.record.assignments.toList.map (·.span)

/-- Between two contexts, assignments were accepted at some of the places, in their order, and at
all of them if no issue was found. -/
structure Covers (places : List Span) (c c' : Context Findings) : Prop where
  issues : c.issues.size ≤ c'.issues.size
  accepts : ∃ new, acceptedPlaces c' = acceptedPlaces c ++ new ∧ new.Sublist places ∧
    (c'.issues.size = c.issues.size → new = places)

theorem Covers.trans {places₁ places₂ : List Span} (h₁ : Covers places₁ c c₁)
    (h₂ : Covers places₂ c₁ c₂) : Covers (places₁ ++ places₂) c c₂ := by
  obtain ⟨hle₁, new₁, haccepted₁, hsub₁, hall₁⟩ := h₁
  obtain ⟨hle₂, new₂, haccepted₂, hsub₂, hall₂⟩ := h₂
  refine ⟨Nat.le_trans hle₁ hle₂, new₁ ++ new₂, ?_, hsub₁.append hsub₂, fun heq => ?_⟩
  · rw [haccepted₂, haccepted₁, List.append_assoc]
  · rw [hall₁ (by omega), hall₂ (by omega)]

theorem Covers.widen {places wider : List Span} (h : Covers places c c')
    (hsub : places.Sublist wider) (hall : c'.issues.size = c.issues.size → places = wider) :
    Covers wider c c' := by
  obtain ⟨hle, new, haccepted, hnew, hnewall⟩ := h
  exact ⟨hle, new, haccepted, hnew.trans hsub, fun heq => (hnewall heq).trans (hall heq)⟩

theorem Covers.of_lt {places wider : List Span} (h : Covers places c c')
    (hsub : places.Sublist wider) (hlt : c.issues.size < c'.issues.size) : Covers wider c c' :=
  h.widen hsub fun heq => absurd heq.symm (Nat.ne_of_lt hlt)

theorem covers_nil (h : c.Extends c') (hrecord : c'.record.assignments = c.record.assignments) :
    Covers [] c c' :=
  ⟨issues_le_of_extends h, [], by simp [acceptedPlaces, hrecord], .slnil, fun _ => rfl⟩

theorem covers_noted (h : c.Noted c') : Covers [] c c' :=
  covers_nil h.frame.2 (by rw [h.record])

theorem Covers.extend {places : List Span} (h : Covers places c c₁) (hnil : Covers [] c₁ c') :
    Covers places c c' := by
  simpa using h.trans hnil

theorem Assigned.covers {target : Target} {targetSpan valueSpan : Span} {value : Origin}
    (h : Assigned schema target targetSpan value valueSpan span c c') : Covers [span] c c' := by
  cases h with
  | accepted => exact ⟨Nat.le_refl _, [span], by simp [acceptedPlaces], .refl _, fun _ => rfl⟩
  | readOnly =>
    exact (covers_noted (c.noted_reporting _)).of_lt (List.nil_sublist _) (issues_lt_reporting c _)
  | mismatch =>
    exact (covers_noted (c.noted_reporting _)).of_lt (List.nil_sublist _) (issues_lt_reporting c _)

theorem LocalBound.covers {value : Origin} (h : LocalBound name value span c c') :
    Covers [] c c' :=
  covers_nil h.frame.2 (by rw [h.record])

theorem BlockChecked.opens_or_issues_lt {semantics : Semantics} {site : Span} {opens : Bool}
    (h : BlockChecked name semantics span c (some site) opens c') :
    (opens = true ∧ semantics.blockRule ≠ .forbidden) ∨ c.issues.size < c'.issues.size := by
  cases h with
  | unexpected => exact .inr (issues_lt_reporting c _)
  | opens hrule => exact .inl ⟨rfl, hrule⟩

theorem Invoked.configured_or_issues_lt {arguments : List (Option Origin)} {site : Span}
    {callee : Callee} {outcome : Outcome}
    (h : Invoked name arguments (some site) span c callee outcome c') :
    outcome.configured.isSome = true ∨ c.issues.size < c'.issues.size := by
  have member {restricted : Bool} {receiver : Origin} {semantics : Semantics} {opens : Bool}
      {middle checked : Context Findings} (hg : Guarded restricted receiver span c middle)
      (hb : BlockChecked name semantics span middle (some site) opens checked) :
      (opens = true ∧ semantics.blockRule ≠ .forbidden) ∨ c.issues.size < checked.issues.size :=
    hb.opens_or_issues_lt.imp_right (Nat.lt_of_le_of_lt (issues_le_of_extends hg.noted.frame.2))
  cases h with
  | configure _ hg hb =>
    rcases member hg hb with ⟨rfl, -⟩ | hlt
    · exact .inl rfl
    · exact .inr hlt
  | add _ _ hg hb =>
    rcases member hg hb with ⟨rfl, -⟩ | hlt
    · exact .inl rfl
    · exact .inr hlt
  | incomplete _ _ hg hb =>
    rcases member hg hb with ⟨rfl, -⟩ | hlt
    · exact .inl rfl
    · exact .inr hlt
  -- these take no block, so the one that is there was reported
  | builder hsemantics hg hb =>
    rcases member hg hb with ⟨-, hrule⟩ | hlt
    · exact absurd (by rw [hsemantics]; rfl) hrule
    · exact .inr hlt
  | pure hsemantics hg hb =>
    rcases member hg hb with ⟨-, hrule⟩ | hlt
    · exact absurd (by rw [hsemantics]; rfl) hrule
    · exact .inr hlt
  | topLevel hb =>
    rcases hb.opens_or_issues_lt with ⟨rfl, -⟩ | hlt
    · exact .inl rfl
    · exact .inr hlt

/-- The places that a task passes. A block that is not to be resolved has none. -/
def Task.places : Task → List Span
  | .target access => access.places
  | .expr e => e.places
  | .call node => node.places
  | .receiver e => receiverPlaces e
  | .arguments es => argumentPlaces es
  | .configured none _ => []
  | .configured (some _) b => blockPlaces b
  | .statement s => s.places
  | .statements ss => statementPlaces ss
  | .block b => b.places

theorem Invoked.covers {arguments : List (Option Origin)} {block : Option Block} {callee : Callee}
    {outcome : Outcome} (h : Invoked name arguments (block.map (·.span)) span c callee outcome c₁)
    (hb : Covers (Task.configured outcome.configured block).places c₁ c') :
    Covers (blockPlaces block) c c' := by
  have hc : Covers (Task.configured outcome.configured block).places c c' :=
    (covers_nil h.frame.2 h.assignments).trans hb
  cases block with
  | none =>
    cases hconfigured : outcome.configured <;>
      simpa [hconfigured, Task.places, blockPlaces] using hc
  | some block =>
    cases hconfigured : outcome.configured with
    | some object => simpa [hconfigured, Task.places] using hc
    | none =>
      -- the places of the block are lost, which only an issue excuses
      rw [hconfigured] at hc
      have hlt : c.issues.size < c₁.issues.size := by
        simpa [hconfigured] using h.configured_or_issues_lt
      exact hc.of_lt (List.nil_sublist _) (Nat.lt_of_lt_of_le hlt hb.issues)

theorem Walk.covers {task : Task} {result : task.Result} {visits : List Visit}
    (h : Walk schema task c result c' visits) : Covers task.places c c' := by
  induction h with
  | implicitTarget _ ht => exact covers_noted ht.noted
  | noTarget _ ih => exact ih
  | memberTarget _ hm ih => exact Covers.extend ih (covers_noted hm.noted)
  | literal => exact covers_noted (.refl _)
  | null => exact covers_noted (.refl _)
  | this => exact covers_noted (.refl _)
  | value => exact covers_noted (.refl _)
  | implicitRead _ _ ih => exact ih
  | memberRead _ ih => exact ih
  | callExpr _ ih => exact ih
  | @uncalled _ _ _ block _ _ _ _ _ _ _ _ _ hr ha hf ihr iha =>
    -- the block is passed over, and that the call was not made is reported
    have hw : Walk schema (.call ⟨_, _, _, block, _⟩) _ none _ _ := .uncalled hr ha hf
    refine ((ihr.trans iha).extend (covers_noted hf.noted)).of_lt (List.sublist_append_left _ _) ?_
    exact hw.issues_lt_of_fails rfl
  | called _ _ hf hi _ ihr iha ihb =>
    exact ((ihr.trans iha).extend (covers_noted hf.noted)).trans (hi.covers ihb)
  | unqualified => exact covers_noted (.refl _)
  | unresolved _ ih => exact ih
  | object _ ih => exact ih
  | noArguments => exact covers_noted (.refl _)
  | argument _ _ ih ihs => exact ih.trans ihs
  | @noBlock object _ => cases object <;> exact covers_noted (.refl _)
  | skipped => exact covers_noted (.refl _)
  | opened _ _ _ ih => exact ⟨ih.issues, ih.accepts⟩
  | assign _ _ ha iht ihv => exact (iht.trans ihv).trans ha.covers
  | unassigned ht hv hnone iht ihv =>
    refine (iht.trans ihv).of_lt (List.sublist_append_left _ _) ?_
    -- one of the sides came to nothing, which was reported
    rcases hnone with rfl | rfl
    · exact Nat.lt_of_lt_of_le (ht.issues_lt_of_fails rfl) ihv.issues
    · exact Nat.lt_of_le_of_lt iht.issues (hv.issues_lt_of_fails rfl)
  | val _ hb ih => exact Covers.extend ih hb.covers
  | unbound _ ih => exact ih
  | exprStatement _ ih => exact ih
  | noStatements => exact covers_noted (.refl _)
  | statements _ _ ih ihs => exact ih.trans ihs
  | block _ ih => exact ih

theorem exists_issue_of_resolveExpr {expr : Expr}
    (h : (resolveExpr schema expr).run c = (.ok none, c')) :
    ∃ issue more, c'.issues.toList = c.issues.toList ++ issue :: more := by
  obtain ⟨visits, hw⟩ := exists_walk (.expr expr) h
  obtain ⟨new, hnew⟩ := hw.frame.2.issues
  have hlt := hw.issues_lt_of_fails rfl
  cases new with
  | nil =>
    have hsize := congrArg List.length hnew
    simp at hsize
    omega
  | cons issue more => exact ⟨issue, more, hnew.symm⟩

/-- Assignments are accepted at places of the document, in its order. Nothing comes to nothing
without an issue, and without issues all assignments are accepted. -/
theorem accepted_sublist_places {document : Block} {result : Resolution}
    (h : Resolution.ofDocument schema document = .ok result) :
    (result.assignments.map (·.span)).Sublist document.places ∧
    (∀ expr c c', (resolveExpr schema expr).run c = (.ok none, c') →
      ∃ issue more, c'.issues.toList = c.issues.toList ++ issue :: more) ∧
    (result.issues = [] → result.assignments.map (·.span) = document.places) := by
  obtain ⟨visits, c, hw, rfl⟩ := ofDocument_ok.mp h
  obtain ⟨-, new, haccepted, hsub, hall⟩ := hw.covers
  have hnew : (resolution (topReceiver schema document) c).assignments.map (·.span) = new :=
    haccepted
  rw [hnew]
  refine ⟨hsub, fun _ _ _ => exists_issue_of_resolveExpr, fun hissues => hall ?_⟩
  have hempty : c.issues = #[] := Array.toList_eq_nil_iff.mp hissues
  rw [hempty]
  rfl

end Resolver

/-- A document without issues. Its second assignment is to a property of the monitor that the first
one is inside of. -/
def Sample.nested : Block :=
  ⟨[configure "server" [
      .assign ⟨some (.call ⟨none, "monitor", [], some ⟨[assign none "level" 1 10], place 20⟩,
        place 21⟩), "level", place 22⟩ (.literal (.int 2) (place 23)) (place 24),
      assign none "port" 3 30] 40], place 0⟩

theorem Resolver.sample_accepted_sublist_places :
    ∃ result, Resolution.ofDocument Sample.schema Sample.nested = .ok result ∧
      result.issues = [] ∧
      Sample.nested.places = [Sample.place 12, Sample.place 24, Sample.place 32] ∧
      (result.assignments.map (·.span)).Sublist Sample.nested.places ∧
      (∀ expr c c', (resolveExpr Sample.schema expr).run c = (.ok none, c') →
        ∃ issue more, c'.issues.toList = c.issues.toList ++ issue :: more) ∧
      (result.issues = [] → result.assignments.map (·.span) = Sample.nested.places) :=
  ⟨_, rfl, rfl, rfl, accepted_sublist_places rfl⟩

end ConfigScope
