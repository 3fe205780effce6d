import ConfigScope.Proofs.AcceptedAssignments
import ConfigScope.Proofs.DocumentNodes
import Mathlib.Data.List.Flatten
import Mathlib.Data.List.Forall2
import Mathlib.Data.List.Nodup

/-!
# Where issues are

Every issue is about one node of the document, which its reason and its site agree with: an
unresolved name is reported at an access of that name, a wrong type at the value that is assigned
(`Pinned`). A walk visits a node at most once, and a visit reports at most one issue of each kind
(`Walk.accounted`). Some issues are reported at the span of a child of their node. Nodes have no
child in common (`Block.rooted`), so issues differ if the spans of the document do
(`issues_pinned_once`).
-/

namespace ConfigScope

/-! ## Kinds and sites -/

/-- What is wrong, without the names and types that it is wrong with. -/
inductive Reason.Kind where
  | notCurrentReceiver
  | unresolvedName
  | unresolvedCall
  | typeMismatch
  | readOnlyProperty
  | duplicateLocal
  | missingBlock
  | unexpectedBlock
  | notAnObject
  deriving DecidableEq

def Reason.kind : Reason → Reason.Kind
  | notCurrentReceiver => .notCurrentReceiver
  | unresolvedName _ => .unresolvedName
  | unresolvedCall _ _ => .unresolvedCall
  | typeMismatch _ _ => .typeMismatch
  | readOnlyProperty _ => .readOnlyProperty
  | duplicateLocal _ => .duplicateLocal
  | missingBlock _ => .missingBlock
  | unexpectedBlock _ => .unexpectedBlock
  | notAnObject _ => .notAnObject

/-- An issue is about a node: it has the site and the names that an issue of its kind has there. -/
inductive Pinned : Node → Issue → Prop
  | accessed {access : Access} :
      Pinned (.expr (.access access)) ⟨access.span, .notCurrentReceiver⟩
  | called {call : Call} : Pinned (.expr (.call call)) ⟨call.span, .notCurrentReceiver⟩
  | unresolvedName {access : Access} :
      Pinned (.expr (.access access)) ⟨access.span, .unresolvedName access.name⟩
  | unresolvedCall {call : Call} :
      Pinned (.expr (.call call)) ⟨call.span, .unresolvedCall call.name call.arguments.length⟩
  | typeMismatch {target value span expected actual} :
      Pinned (.statement (.assign target value span)) ⟨value.span, .typeMismatch expected actual⟩
  | readOnlyProperty {target value span} :
      Pinned (.statement (.assign target value span))
        ⟨target.span, .readOnlyProperty target.name⟩
  | duplicateLocal {name value span} :
      Pinned (.statement (.val name value span)) ⟨span, .duplicateLocal name⟩
  | missingBlock {call : Call} : call.block = none →
      Pinned (.expr (.call call)) ⟨call.span, .missingBlock call.name⟩
  | unexpectedBlock {call : Call} {block} : call.block = some block →
      Pinned (.expr (.call call)) ⟨block.span, .unexpectedBlock call.name⟩
  | readOn {access : Access} {receiver type} : access.receiver = some receiver →
      Pinned (.expr (.access access)) ⟨receiver.span, .notAnObject type⟩
  | calledOn {call : Call} {receiver type} : call.receiver = some receiver →
      Pinned (.expr (.call call)) ⟨receiver.span, .notAnObject type⟩

def Node.site? : Reason.Kind → Node → Option Span
  | .notAnObject, .expr (.access access) => access.receiver.map (·.span)
  | .notAnObject, .expr (.call call) => call.receiver.map (·.span)
  | .typeMismatch, .statement (.assign _ value _) => some value.span
  | .readOnlyProperty, .statement (.assign target _ _) => some target.span
  | .unexpectedBlock, .expr (.call call) => call.block.map (·.span)
  | .notAnObject, _ | .typeMismatch, _ | .readOnlyProperty, _ | .unexpectedBlock, _ => none
  | .notCurrentReceiver, node | .unresolvedName, node | .unresolvedCall, node
  | .duplicateLocal, node | .missingBlock, node => some node.span

theorem Pinned.site? {node : Node} {issue : Issue} (h : Pinned node issue) :
    node.site? issue.reason.kind = some issue.site := by
  cases h with
  | unexpectedBlock hblock => simp [Reason.kind, Node.site?, hblock]
  | readOn hreceiver => simp [Reason.kind, Node.site?, hreceiver]
  | calledOn hreceiver => simp [Reason.kind, Node.site?, hreceiver]
  | _ => rfl

theorem Node.site?_eq_span_or_sublist (kind : Reason.Kind) :
    (∀ node : Node, node.site? kind = some node.span) ∨
      ∀ node : Node, (node.site? kind).toList.Sublist node.children := by
  -- the first kinds are reported at the node itself, each of the others at one of its parts
  cases kind with
  | notCurrentReceiver | unresolvedName | unresolvedCall | duplicateLocal | missingBlock =>
    exact .inl fun _ => rfl
  | notAnObject =>
    right
    rintro (e | _ | _)
    · cases e with
      | access access => cases hr : access.receiver <;> simp [Node.site?, Node.children, hr]
      | call call => cases hr : call.receiver <;> simp [Node.site?, Node.children, hr]
      | _ => exact List.nil_sublist _
    · exact List.nil_sublist _
    · exact List.nil_sublist _
  | typeMismatch =>
    right
    rintro (_ | s | _)
    · exact List.nil_sublist _
    · cases s with
      | assign target value _ => exact List.sublist_append_right [target.span] [value.span]
      | _ => exact List.nil_sublist _
    · exact List.nil_sublist _
  | readOnlyProperty =>
    right
    rintro (_ | s | _)
    · exact List.nil_sublist _
    · cases s with
      | assign target value _ => exact List.sublist_append_left [target.span] [value.span]
      | _ => exact List.nil_sublist _
    · exact List.nil_sublist _
  | unexpectedBlock =>
    right
    rintro (e | _ | _)
    · cases e with
      | call call => cases hb : call.block <;> simp [Node.site?, Node.children, hb]
      | _ => exact List.nil_sublist _
    · exact List.nil_sublist _
    · exact List.nil_sublist _

theorem Rooted.nodup_sites {roots : List Span} {nodes : List Node} (h : Rooted roots nodes)
    (hspans : (nodes.map Node.span).Nodup) (kind : Reason.Kind) :
    (nodes.filterMap (Node.site? kind)).Nodup := by
  rcases Node.site?_eq_span_or_sublist kind with hown | hchild
  · have hsites : Node.site? kind = fun node => some node.span := funext hown
    simpa [hsites] using hspans
  -- the sites are among the children, where no span comes up twice either
  · have hchildren : (nodes.flatMap Node.children).Nodup :=
      (List.nodup_append.mp (h.nodup_iff.mp hspans)).2.1
    rw [List.filterMap_eq_flatMap_toList]
    exact hchildren.sublist (List.Sublist.flatMap_right nodes fun node _ => hchild node)

namespace Resolver

def Visit.node : Visit → Node
  | .access node _ _ => .expr (.access node)
  | .call node _ _ _ => .expr (.call node)
  | .statement node => .statement node

/-- An issue belongs to a pin, which is the number of a visit and a kind. -/
def BelongsTo (visits : List Visit) (issue : Issue) (pin : Nat × Reason.Kind) : Prop :=
  issue.reason.kind = pin.2 ∧ ∃ visit, visits[pin.1]? = some visit ∧ Pinned visit.node issue

/-- Each issue belongs to a pin of its own. -/
def Matched (visits : List Visit) (issues : List Issue) : Prop :=
  ∃ pins : List (Nat × Reason.Kind), pins.Nodup ∧ List.Forall₂ (BelongsTo visits) issues pins

variable {visits visits₁ visits₂ : List Visit} {issues issues₁ issues₂ : List Issue}

theorem BelongsTo.lt {issue : Issue} {pin : Nat × Reason.Kind} (h : BelongsTo visits issue pin) :
    pin.1 < visits.length := by
  obtain ⟨-, visit, hvisit, -⟩ := h
  exact (List.getElem?_eq_some_iff.mp hvisit).1

theorem exists_belongsTo {pins : List (Nat × Reason.Kind)}
    (h : List.Forall₂ (BelongsTo visits) issues pins) {issue : Issue} (hissue : issue ∈ issues) :
    ∃ pin ∈ pins, BelongsTo visits issue pin := by
  induction h with
  | nil => simp at hissue
  | cons hpin _ ih =>
    rcases List.mem_cons.mp hissue with rfl | hissue
    · exact ⟨_, List.mem_cons_self, hpin⟩
    · obtain ⟨pin, hmem, hbelongs⟩ := ih hissue
      exact ⟨pin, List.mem_cons_of_mem _ hmem, hbelongs⟩

theorem lt_of_mem_pins {pins : List (Nat × Reason.Kind)}
    (h : List.Forall₂ (BelongsTo visits) issues pins) : ∀ pin ∈ pins, pin.1 < visits.length := by
  induction h with
  | nil => simp
  | cons hpin _ ih => exact List.forall_mem_cons.mpr ⟨hpin.lt, ih⟩

theorem matched_nil : Matched visits [] :=
  ⟨[], List.nodup_nil, .nil⟩

theorem Matched.append (h₁ : Matched visits₁ issues₁) (h₂ : Matched visits₂ issues₂) :
    Matched (visits₁ ++ visits₂) (issues₁ ++ issues₂) := by
  obtain ⟨pins₁, hnodup₁, hpins₁⟩ := h₁
  obtain ⟨pins₂, hnodup₂, hpins₂⟩ := h₂
  -- the visits of the second list come after all those of the first
  let later (pin : Nat × Reason.Kind) : Nat × Reason.Kind := (visits₁.length + pin.1, pin.2)
  have hlater : Function.Injective later := by
    rintro ⟨n, kind⟩ ⟨n', kind'⟩ heq
    simpa [later] using heq
  refine ⟨pins₁ ++ pins₂.map later, ?_, List.rel_append ?_ ?_⟩
  · refine List.nodup_append.mpr ⟨hnodup₁, hnodup₂.map hlater, ?_⟩
    rintro pin hpin _ hmap rfl
    obtain ⟨pin', -, rfl⟩ := List.mem_map.mp hmap
    have hlt : visits₁.length + pin'.1 < visits₁.length := lt_of_mem_pins hpins₁ _ hpin
    omega
  · refine hpins₁.imp fun issue pin hpin => ?_
    have hlt := hpin.lt
    obtain ⟨hkind, visit, hvisit, hpinned⟩ := hpin
    exact ⟨hkind, visit, by rwa [List.getElem?_append_left hlt], hpinned⟩
  · refine List.forall₂_map_right_iff.mpr (hpins₂.imp ?_)
    rintro issue pin ⟨hkind, visit, hvisit, hpinned⟩
    refine ⟨hkind, visit, ?_, hpinned⟩
    rwa [List.getElem?_append_right (Nat.le_add_right _ _), Nat.add_sub_cancel_left]

theorem matched_visit {visit : Visit} (hkinds : (issues.map (·.reason.kind)).Nodup)
    (hpinned : ∀ issue ∈ issues, Pinned visit.node issue) : Matched [visit] issues := by
  refine ⟨issues.map fun issue => (0, issue.reason.kind), ?_, ?_⟩
  · have hinjective : Function.Injective (Prod.mk 0 : Reason.Kind → Nat × Reason.Kind) :=
      fun _ _ heq => (Prod.mk.inj heq).2
    simpa [Function.comp_def] using hkinds.map hinjective
  · refine List.forall₂_map_right_iff.mpr (List.forall₂_same.mpr fun issue hissue => ?_)
    exact ⟨rfl, visit, rfl, hpinned issue hissue⟩

theorem BelongsTo.unique {issue : Issue} {pin pin' : Nat × Reason.Kind}
    (hsites : ∀ kind, (visits.filterMap (·.node.site? kind)).Nodup)
    (h : BelongsTo visits issue pin) (h' : BelongsTo visits issue pin') : pin = pin' := by
  obtain ⟨n, kind⟩ := pin
  obtain ⟨n', kind'⟩ := pin'
  obtain ⟨rfl, visit, hvisit, hpinned⟩ := h
  obtain ⟨rfl, visit', hvisit', hpinned'⟩ := h'
  obtain ⟨hn, rfl⟩ := List.getElem?_eq_some_iff.mp hvisit
  obtain ⟨hn', rfl⟩ := List.getElem?_eq_some_iff.mp hvisit'
  -- both visits have the site of the issue as their site for its kind
  have hpair := List.pairwise_iff_getElem.mp
    (List.pairwise_filterMap.mp (hsites issue.reason.kind))
  rcases Nat.lt_trichotomy n n' with hlt | rfl | hlt
  · exact absurd rfl (hpair n n' hn hn' hlt _ hpinned.site? _ hpinned'.site?)
  · rfl
  · exact absurd rfl (hpair n' n hn' hn hlt _ hpinned'.site? _ hpinned.site?)

theorem Matched.nodup (h : Matched visits issues)
    (hsites : ∀ kind, (visits.filterMap (·.node.site? kind)).Nodup) : issues.Nodup := by
  obtain ⟨pins, hnodup, hpins⟩ := h
  induction hpins with
  | nil => exact List.nodup_nil
  | @cons issue pin issues pins hpin hpins ih =>
    obtain ⟨hnew, hnodup⟩ := List.nodup_cons.mp hnodup
    refine List.nodup_cons.mpr ⟨fun hissue => hnew ?_, ih hnodup⟩
    obtain ⟨pin', hpin', hbelongs⟩ := exists_belongsTo hpins hissue
    rwa [hpin.unique hsites hbelongs]

/-! ## Steps -/

variable {schema : Schema} {c c₁ c₂ c' : Context Findings} {name : String} {span : Span}

/-- Between two contexts, issues about one node were reported, each of another kind. -/
def Notes (node : Node) (c c' : Context Findings) : Prop :=
  ∃ new, c'.issues.toList = c.issues.toList ++ new ∧ (new.map (·.reason.kind)).Nodup ∧
    ∀ issue ∈ new, Pinned node issue

theorem notes_none {node : Node} (h : c'.issues = c.issues) : Notes node c c' :=
  ⟨[], by simp [h], List.nodup_nil, by simp⟩

theorem notes_reporting {node : Node} {issue : Issue} (h : Pinned node issue) :
    Notes node c (c.reporting issue) :=
  ⟨[issue], by simp, List.nodup_singleton _, by simpa using h⟩

section
variable {receiver : Option Expr} {arguments : List Expr} {block : Option Block}
  {origins : List (Option Origin)}

theorem TargetChecked.notes {found : Option Target} (h : TargetChecked name span c found c') :
    Notes (.expr (.access ⟨receiver, name, span⟩)) c c' := by
  cases h with
  | missing => exact notes_reporting .unresolvedName
  | found hg =>
    cases hg with
    | free => exact notes_none rfl
    | current => exact notes_none rfl
    | violation => exact notes_reporting .accessed

theorem MemberTarget.notes {e : Expr} {object : Origin} {found : Option Target}
    (h : MemberTarget schema object e.span name span c found c') :
    Notes (.expr (.access ⟨some e, name, span⟩)) c c' := by
  cases h with
  | notAnObject => exact notes_reporting (.readOn rfl)
  | member _ ht => exact ht.notes

theorem CalleeChecked.notes {callee : Option Callee} (hlength : origins.length = arguments.length)
    (h : CalleeChecked name origins span c callee c') :
    Notes (.expr (.call ⟨receiver, name, arguments, block, span⟩)) c c' := by
  cases h with
  | found => exact notes_none rfl
  | excused => exact notes_none rfl
  | missing =>
    rw [hlength]
    exact notes_reporting .unresolvedCall

theorem CalleeFound.notes {on : On} {callee : Option Callee}
    (hlength : origins.length = arguments.length)
    (hon : ∀ origin site, on = .object origin site → ∃ e, receiver = some e ∧ site = e.span)
    (h : CalleeFound schema name origins span c on callee c') :
    Notes (.expr (.call ⟨receiver, name, arguments, block, span⟩)) c c' := by
  cases h with
  | unresolved => exact notes_none rfl
  | unqualified _ _ hc => exact hc.notes hlength
  | @notAnObject _ origin site =>
    obtain ⟨e, hreceiver, rfl⟩ := hon origin site rfl
    exact notes_reporting (.calledOn hreceiver)
  | member _ _ _ hc => exact hc.notes hlength

theorem BlockChecked.pinned {semantics : Semantics} {opens : Bool}
    (h : BlockChecked name semantics span c (block.map (·.span)) opens c') :
    c' = c ∨ ∃ issue, c' = c.reporting issue ∧ issue.reason.kind ≠ .notCurrentReceiver ∧
      Pinned (.expr (.call ⟨receiver, name, arguments, block, span⟩)) issue := by
  generalize hsite : block.map (·.span) = site at h
  cases h with
  | missing =>
    have hblock := Option.map_eq_none_iff.mp hsite
    exact .inr ⟨_, rfl, by simp [Reason.kind], .missingBlock hblock⟩
  | unexpected =>
    obtain ⟨body, hblock, rfl⟩ := Option.map_eq_some_iff.mp hsite
    exact .inr ⟨_, rfl, by simp [Reason.kind], .unexpectedBlock hblock⟩
  | opens => exact .inl rfl
  | absent => exact .inl rfl

theorem BlockChecked.notes {restricted : Bool} {object : Origin} {semantics : Semantics}
    {opens : Bool} (hg : Guarded restricted object span c c₁)
    (h : BlockChecked name semantics span c₁ (block.map (·.span)) opens c') :
    Notes (.expr (.call ⟨receiver, name, arguments, block, span⟩)) c c' := by
  cases hg with
  | violation =>
    rcases h.pinned with rfl | ⟨issue, rfl, hkind, hpinned⟩
    · exact notes_reporting .called
    · refine ⟨[⟨span, .notCurrentReceiver⟩, issue], by simp, ?_, ?_⟩
      · simpa [Reason.kind, eq_comm] using hkind
      · simpa using ⟨.called, hpinned⟩
  | _ =>
    rcases h.pinned with rfl | ⟨issue, rfl, -, hpinned⟩
    · exact notes_none rfl
    · exact notes_reporting hpinned

theorem Invoked.notes {callee : Callee} {outcome : Outcome}
    (h : Invoked name origins (block.map (·.span)) span c callee outcome c') :
    Notes (.expr (.call ⟨receiver, name, arguments, block, span⟩)) c c' := by
  cases h with
  | configure _ hg hb => exact (hb.notes hg :)
  | add _ _ hg hb => exact (hb.notes hg :)
  | incomplete _ _ hg hb => exact (hb.notes hg :)
  | builder _ hg hb => exact (hb.notes hg :)
  | pure _ hg hb => exact (hb.notes hg :)
  | topLevel hb => exact (hb.notes (.free rfl : Guarded false default _ _ _) :)

end

theorem Assigned.notes {access : Access} {value : Expr} {target : Target} {origin : Origin}
    (hname : target.property.name = access.name)
    (h : Assigned schema target access.span origin value.span span c c') :
    Notes (.statement (.assign access value span)) c c' := by
  cases h with
  | readOnly =>
    rw [hname]
    exact notes_reporting .readOnlyProperty
  | accepted => exact notes_none rfl
  | mismatch => exact notes_reporting .typeMismatch

theorem LocalBound.notes {value : Expr} {origin : Origin} (h : LocalBound name origin span c c') :
    Notes (.statement (.val name value span)) c c' := by
  cases h with
  | declared => exact notes_none rfl
  | duplicate => exact notes_reporting .duplicateLocal

/-! ## Walks -/

theorem Walk.name_of_target {access : Access} {found : Option Target} {target : Target}
    (h : Walk schema (.target access) c found c' visits) (hfound : found = some target) :
    target.property.name = access.name := by
  cases h with
  | implicitTarget hl _ =>
    obtain ⟨_, type, -, -, -, hproperty⟩ := Schema.lookupProperty_ok (hfound ▸ hl)
    obtain ⟨decl, -, hproperty⟩ := Option.bind_eq_some_iff.mp hproperty
    exact decl.name_of_property? hproperty
  | noTarget => cases hfound
  | memberTarget _ hm =>
    cases hm with
    | notAnObject => cases hfound
    | @member decl =>
      obtain ⟨property, hproperty, rfl⟩ := Option.map_eq_some_iff.mp hfound
      exact decl.name_of_property? hproperty

theorem Walk.length_arguments : {arguments : List Expr} → {c c' : Context Findings} →
    {visits : List Visit} → {origins : List (Option Origin)} →
    Walk schema (.arguments arguments) c origins c' visits → origins.length = arguments.length
  | [], _, _, _, _, .noArguments => rfl
  | _ :: _, _, _, _, _, .argument _ h => congrArg (· + 1) h.length_arguments

theorem Walk.exists_receiver {receiver : Option Expr} {on : On}
    (h : Walk schema (.receiver receiver) c on c' visits) :
    ∀ origin site, on = .object origin site → ∃ e, receiver = some e ∧ site = e.span := by
  rintro origin site rfl
  cases h with
  | object => exact ⟨_, rfl, rfl⟩

def Task.nodes : Task → List Node
  | .target access => access.nodes
  | .expr e => e.nodes
  | .call node => node.nodes
  | .receiver e => receiverNodes e
  | .arguments es => argumentNodes es
  | .configured _ b => blockNodes b
  | .statement s => s.nodes
  | .statements ss => statementNodes ss
  | .block b => b.nodes

theorem Walk.nodes_sublist {task : Task} {result : task.Result}
    (h : Walk schema task c result c' visits) : (visits.map Visit.node).Sublist task.nodes := by
  induction h with
  | implicitTarget => exact .refl _
  | noTarget _ ih =>
    rw [List.map_append]
    exact ih.append (.refl _)
  | memberTarget _ _ ih =>
    rw [List.map_append]
    exact ih.append (.refl _)
  | implicitRead _ _ ih => exact ih
  | memberRead _ ih => exact ih
  | callExpr _ ih => exact ih
  -- the nodes of the block are passed over
  | uncalled _ _ _ ihr iha =>
    rw [List.map_append, List.map_append]
    exact (ihr.append iha).append (.cons_cons _ (List.nil_sublist _))
  | called _ _ _ _ _ ihr iha ihb =>
    rw [List.map_append, List.map_append]
    exact (ihr.append iha).append (ihb.cons_cons _)
  | unresolved _ ih => exact ih
  | object _ ih => exact ih
  | argument _ _ ih ihs =>
    rw [List.map_append]
    exact ih.append ihs
  | opened _ _ _ ih => exact ih
  | assign _ _ _ iht ihv =>
    rw [List.map_append, List.map_append]
    exact (iht.append ihv).append (.refl _)
  | unassigned _ _ _ iht ihv =>
    rw [List.map_append, List.map_append]
    exact (iht.append ihv).append (.refl _)
  | val _ _ ih =>
    rw [List.map_append]
    exact ih.append (.refl _)
  | unbound _ ih =>
    rw [List.map_append]
    exact ih.append (.refl _)
  | exprStatement _ ih => exact ih
  | statements _ _ ih ihs =>
    rw [List.map_append]
    exact ih.append ihs
  | block _ ih => exact ih.cons _
  -- what is left visits nothing
  | _ => exact List.nil_sublist _

def Accounted (visits : List Visit) (c c' : Context Findings) : Prop :=
  ∃ new, c'.issues.toList = c.issues.toList ++ new ∧ Matched visits new

theorem accounted_nil (h : c'.issues = c.issues) : Accounted visits c c' :=
  ⟨[], by simp [h], matched_nil⟩

theorem Notes.accounted {node : Node} {visit : Visit} (h : Notes node c c')
    (hvisit : visit.node = node) : Accounted [visit] c c' := by
  subst hvisit
  obtain ⟨new, hnew, hkinds, hpinned⟩ := h
  exact ⟨new, hnew, matched_visit hkinds hpinned⟩

theorem Accounted.trans (h₁ : Accounted visits₁ c c₁) (h₂ : Accounted visits₂ c₁ c₂) :
    Accounted (visits₁ ++ visits₂) c c₂ := by
  obtain ⟨new₁, hnew₁, hmatched₁⟩ := h₁
  obtain ⟨new₂, hnew₂, hmatched₂⟩ := h₂
  exact ⟨new₁ ++ new₂, by rw [hnew₂, hnew₁, List.append_assoc], hmatched₁.append hmatched₂⟩

theorem Walk.accounted {task : Task} {result : task.Result}
    (h : Walk schema task c result c' visits) : Accounted visits c c' := by
  induction h with
  | implicitTarget _ ht => exact ht.notes.accounted rfl
  | noTarget _ ih => exact ih.trans (accounted_nil rfl)
  | memberTarget _ hm ih => exact ih.trans (hm.notes.accounted rfl)
  | implicitRead _ _ ih => exact ih
  | memberRead _ ih => exact ih
  | callExpr _ ih => exact ih
  | uncalled hr ha hf ihr iha =>
    exact (ihr.trans iha).trans ((hf.notes ha.length_arguments hr.exists_receiver).accounted rfl)
  | called hr ha hf hi _ ihr iha ihb =>
    -- a function that is found is not reported, so all that the visit reports comes from the call
    obtain ⟨rfl, -⟩ := hf.found
    exact (ihr.trans iha).trans ((hi.notes.accounted rfl).trans ihb)
  | unresolved _ ih => exact ih
  | object _ ih => exact ih
  | argument _ _ ih ihs => exact ih.trans ihs
  | opened _ _ _ ih => exact ih
  -- an issue names the property that was found, and it was found under the name in the document
  | assign ht _ ha iht ihv =>
    exact (iht.trans ihv).trans ((ha.notes (ht.name_of_target rfl)).accounted rfl)
  | unassigned _ _ _ iht ihv => exact (iht.trans ihv).trans (accounted_nil rfl)
  | val _ hb ih => exact ih.trans (hb.notes.accounted rfl)
  | unbound _ ih => exact ih.trans (accounted_nil rfl)
  | exprStatement _ ih => exact ih
  | statements _ _ ih ihs => exact ih.trans ihs
  | block _ ih => exact ih
  -- what is left reports nothing
  | _ => exact accounted_nil rfl

/-- Every issue of a resolution is about a node that was visited, at the site and with the names
that its kind has there, and no two issues of one kind are about one visit. No node is visited
twice. So no issue is reported twice if the nodes of the document have spans of their own. -/
theorem issues_pinned_once {document : Block} {result : Resolution}
    (h : Resolution.ofDocument schema document = .ok result) :
    ∃ visits, Traversal schema document visits result ∧
      (visits.map Visit.node).Sublist document.nodes ∧
      Matched visits result.issues ∧
      ((document.nodes.map Node.span).Nodup → result.issues.Nodup) := by
  obtain ⟨visits, c, hw, rfl⟩ := ofDocument_ok.mp h
  have hsublist : (visits.map Visit.node).Sublist document.nodes := hw.nodes_sublist
  obtain ⟨new, hnew, hmatched⟩ := hw.accounted
  have hissues : (resolution (topReceiver schema document) c).issues = new := hnew
  rw [← hissues] at hmatched
  refine ⟨visits, ⟨c, hw, rfl⟩, hsublist, hmatched, fun hspans => hmatched.nodup fun kind => ?_⟩
  have hsites := (document.rooted.nodup_sites hspans kind).sublist (hsublist.filterMap _)
  rwa [List.filterMap_map] at hsites

end Resolver

/-- Five nodes with something wrong about them, in a document where no two nodes share a span. -/
def Sample.faulty : Block :=
  ⟨[configure "server" [
      .assign ⟨none, "port", place 1⟩ (.null (place 2)) (place 3),
      assign (some (.access ⟨none, "replica", place 4⟩)) "port" 80 5,
      .expr (.access ⟨some (.literal (.int 1) (place 8)), "port", place 9⟩)] 10,
    .expr (.call ⟨none, "server", [], none, place 12⟩),
    .expr (.access ⟨none, "port", place 13⟩)], place 0⟩

theorem Resolver.sample_issues_pinned_once :
    (Sample.faulty.nodes.map Node.span).Nodup ∧
    ∃ result, Resolution.ofDocument Sample.schema Sample.faulty = .ok result ∧
      result.issues.map (fun issue => (issue.site, issue.reason.kind)) =
        [(Sample.place 2, .typeMismatch), (Sample.place 5, .notCurrentReceiver),
          (Sample.place 8, .notAnObject), (Sample.place 12, .missingBlock),
          (Sample.place 13, .unresolvedName)] ∧
      result.issues.Nodup ∧
      ∃ visits, Traversal Sample.schema Sample.faulty visits result ∧
        (visits.map Visit.node).Sublist Sample.faulty.nodes ∧ Matched visits result.issues := by
  have hspans : (Sample.faulty.nodes.map Node.span).Nodup := by decide
  obtain ⟨result, hresult⟩ :
      ∃ result, Resolution.ofDocument Sample.schema Sample.faulty = .ok result := ⟨_, rfl⟩
  obtain ⟨visits, htraversal, hnodes, hmatched, hissues⟩ := issues_pinned_once hresult
  refine ⟨hspans, result, hresult, ?_, hissues hspans, visits, htraversal, hnodes, hmatched⟩
  cases hresult
  rfl

end ConfigScope
