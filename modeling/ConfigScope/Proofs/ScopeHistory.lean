import ConfigScope.Proofs.ScopeDiscipline

/-!
# Which scope an id stands for

The id of a scope is its place among the open ones, and it is given out again once the
scope has been left. So an id that was kept may come to stand for another scope, which was
entered later at the same place.

A run of calls that enter scopes, leave them and declare values leaves a history
behind: each call with what it gave. Whatever the calls were, the scope at an open place
is the one that was entered by the last call that gave its id, with the values declared
in it since (`ScopeHistory.Explains`). One call keeps this so, and hence a run does
(`explains_makeCalls`). What `leaveScope` gives can then be read off the history
(`scopes_follow_history`).
-/

namespace ConfigScope

inductive ScopeCall where
  | enter (scope : Scope)
  | leave (id : ScopeId)
  | declare (name : String) (value : Origin)

inductive ScopeAnswer where
  | entered (id : ScopeId)
  | left (scope : Scope)
  /-- Whether the name was free. -/
  | declared (free : Bool)

/-- A call that was made, how many scopes were open when it was, and what it gave. -/
structure ScopeEvent where
  call : ScopeCall
  depth : Nat
  answer : Except Fault ScopeAnswer

namespace ScopeCall

variable {ρ : Type}

def perform : ScopeCall → Analysis ρ ScopeAnswer
  | enter scope => .entered <$> Analysis.enterScope scope
  | leave id => .left <$> Analysis.leaveScope id
  | declare name value => .declared <$> Analysis.declare name value

def event (call : ScopeCall) (c : Context ρ) : ScopeEvent :=
  ⟨call, c.depth, (call.perform.run c).1⟩

def makeCalls : List ScopeCall → Analysis ρ (List ScopeEvent)
  | [] => return []
  | call :: rest => do
    let depth := (← get).depth
    let answer ← Analysis.attempt call.perform
    return ⟨call, depth, answer⟩ :: (← makeCalls rest)

end ScopeCall

namespace ScopeEvent

/-- What the event declares in the scope with an id, which it does only while that scope is the
innermost one. -/
def declaration? (id : ScopeId) (event : ScopeEvent) : Option (String × Origin) :=
  match event.call with
  | .declare name value => if event.depth = id.position + 1 then some (name, value) else none
  | .enter _ | .leave _ => none

def Spares (event : ScopeEvent) (id : ScopeId) : Prop :=
  event.answer ≠ .ok (.entered id) ∧ event.declaration? id = none

end ScopeEvent

namespace ScopeHistory

structure LastEntered (history : List ScopeEvent) (id : ScopeId) (scope : Scope)
    (since : List ScopeEvent) : Prop where
  entered : ∃ earlier depth, history = earlier ++ ⟨.enter scope, depth, .ok (.entered id)⟩ :: since
  last : ∀ event ∈ since, event.answer ≠ .ok (.entered id)

/-- The scope is the one that was last entered under the id. On top of what was bound in it then,
which is nothing for a new scope, it binds the names declared since while it was the innermost one,
each to its first value. -/
def StandsFor (history : List ScopeEvent) (id : ScopeId) (scope : Scope) : Prop :=
  ∃ entered since, LastEntered history id entered since ∧ scope.receiver = entered.receiver ∧
    ∀ name, scope.local? name =
      (entered.local? name).or ((since.filterMap (·.declaration? id)).lookup name)

def Explains (history : List ScopeEvent) : List Scope → Prop
  | [] => True
  | scope :: outer => StandsFor history ⟨outer.length⟩ scope ∧ Explains history outer

/-! ## One more event -/

section

variable {history since : List ScopeEvent} {id : ScopeId} {scope : Scope} {event : ScopeEvent}

theorem LastEntered.concat (h : LastEntered history id scope since)
    (hanswer : event.answer ≠ .ok (.entered id)) :
    LastEntered (history ++ [event]) id scope (since ++ [event]) := by
  obtain ⟨earlier, depth, rfl⟩ := h.entered
  refine ⟨⟨earlier, depth, by simp⟩, ?_⟩
  intro later hlater
  rcases List.mem_append.mp hlater with hlater | hlater
  · exact h.last later hlater
  · rw [List.mem_singleton.mp hlater]
    exact hanswer

theorem standsFor_entered (history : List ScopeEvent) (scope : Scope) (id : ScopeId) (depth : Nat) :
    StandsFor (history ++ [⟨.enter scope, depth, .ok (.entered id)⟩]) id scope :=
  ⟨scope, [], ⟨⟨history, depth, rfl⟩, by simp⟩, rfl, by simp⟩

theorem StandsFor.concat (h : StandsFor history id scope) (hspares : event.Spares id) :
    StandsFor (history ++ [event]) id scope := by
  obtain ⟨entered, since, hlast, hreceiver, hlocals⟩ := h
  refine ⟨entered, since ++ [event], hlast.concat hspares.1, hreceiver, ?_⟩
  intro name
  rw [hlocals, List.filterMap_append]
  simp [hspares.2]

theorem Explains.concat {scopes : List Scope} (h : Explains history scopes)
    (hspares : ∀ position < scopes.length, event.Spares ⟨position⟩) :
    Explains (history ++ [event]) scopes := by
  induction scopes with
  | nil => trivial
  | cons scope outer ih =>
    have houter : ∀ position < outer.length, event.Spares ⟨position⟩ := by
      intro position hlt
      exact hspares position (Nat.lt_succ_of_lt hlt)
    exact ⟨h.1.concat (hspares outer.length (Nat.lt_succ_self _)), ih h.2 houter⟩

theorem Explains.standsFor {scopes : List Scope} (h : Explains history scopes) {position : Nat}
    (hat : scopes.reverse[position]? = some scope) : StandsFor history ⟨position⟩ scope := by
  induction scopes with
  | nil => simp at hat
  | cons inner outer ih =>
    rw [List.reverse_cons, List.getElem?_append, List.length_reverse] at hat
    split at hat
    · exact ih h.2 hat
    -- behind the outer scopes there is only the innermost one
    · rw [List.getElem?_singleton] at hat
      split at hat
      · obtain rfl := Option.some.inj hat
        obtain rfl : position = outer.length := by omega
        exact h.1
      · cases hat

end

end ScopeHistory

/-! ## One call -/

section

variable {ρ : Type} {history : List ScopeEvent} {c : Context ρ}

theorem Analysis.scopes_declare {scope : Scope} {outer : List Scope}
    (hscopes : c.scopes = scope :: outer) (name : String) (value : Origin) :
    ((declare name value).run c).2.scopes = (scope.declare? name value).getD scope :: outer := by
  rw [run_declare, hscopes]
  cases hd : scope.declare? name value with
  | some next => simp [hd]
  | none => simp [hd, hscopes]

theorem Scope.receiver_declare (scope : Scope) (name : String) (value : Origin) :
    ((scope.declare? name value).getD scope).receiver = scope.receiver := by
  cases hd : scope.declare? name value with
  | none => rfl
  | some next =>
    obtain ⟨-, rfl⟩ := Scope.declare?_eq_some.mp hd
    rfl

theorem Scope.local?_declare (scope : Scope) (name other : String) (value : Origin) :
    ((scope.declare? name value).getD scope).local? other =
      (scope.local? other).or ([(name, value)].lookup other) := by
  cases hother : other == name with
  | true =>
    obtain rfl := eq_of_beq hother
    cases hbound : scope.local? other with
    | some bound => simp [Scope.declare?, hbound]
    | none =>
      rw [Scope.declare?_eq_some.mpr ⟨hbound, rfl⟩]
      simp [Scope.local?]
  | false =>
    cases hd : scope.declare? name value with
    | none => simp [List.lookup_cons, hother]
    | some next =>
      obtain ⟨-, rfl⟩ := Scope.declare?_eq_some.mp hd
      simp [Scope.local?, List.lookup_cons, hother]

theorem ScopeCall.answer_ne_entered {call : ScopeCall} (h : ∀ scope, call ≠ .enter scope)
    (c : Context ρ) (id : ScopeId) : (call.event c).answer ≠ .ok (.entered id) := by
  cases call with
  | enter scope => exact absurd rfl (h scope)
  | leave left =>
    rw [event, perform, Analysis.run_map]
    cases ((Analysis.leaveScope left).run c).1 <;> simp [Except.map]
  | declare name value =>
    rw [event, perform, Analysis.run_map]
    cases ((Analysis.declare name value).run c).1 <;> simp [Except.map]

namespace ScopeHistory

theorem Explains.enter (h : Explains history c.scopes) (scope : Scope) :
    Explains (history ++ [ScopeCall.event (.enter scope) c]) (scope :: c.scopes) := by
  refine ⟨standsFor_entered history scope ⟨c.depth⟩ c.depth, h.concat ?_⟩
  -- the id is that of the new scope, and of none below it
  intro position hlt
  refine ⟨?_, rfl⟩
  rintro ⟨⟩
  exact Nat.lt_irrefl _ hlt

theorem Explains.leave (h : Explains history c.scopes) (id : ScopeId) :
    Explains (history ++ [ScopeCall.event (.leave id) c])
      ((Analysis.leaveScope id).run c).2.scopes := by
  have hspares : ∀ position, (ScopeCall.event (.leave id) c).Spares ⟨position⟩ := by
    intro position
    exact ⟨ScopeCall.answer_ne_entered (by simp) c ⟨position⟩, rfl⟩
  -- leaving takes the innermost scope or nothing, and the others stay explained
  by_cases hdepth : c.depth = id.position + 1
  · obtain ⟨inner, hleft⟩ := Analysis.leaveScope_of_depth_eq hdepth
    rw [hleft]
    refine Explains.concat ?_ fun position _ => hspares position
    rcases hscopes : c.scopes with _ | ⟨scope, outer⟩
    · trivial
    · rw [hscopes] at h
      exact h.2
  · rw [Analysis.leaveScope_of_depth_ne hdepth]
    exact h.concat fun position _ => hspares position

theorem StandsFor.declare {scope : Scope} {id : ScopeId} {event : ScopeEvent} {name : String}
    {value : Origin} (h : StandsFor history id scope)
    (hanswer : event.answer ≠ .ok (.entered id))
    (hdeclares : event.declaration? id = some (name, value)) :
    StandsFor (history ++ [event]) id ((scope.declare? name value).getD scope) := by
  obtain ⟨entered, since, hlast, hreceiver, hlocals⟩ := h
  refine ⟨entered, since ++ [event], hlast.concat hanswer,
    (scope.receiver_declare name value).trans hreceiver, ?_⟩
  intro other
  rw [Scope.local?_declare, hlocals, List.filterMap_append, List.lookup_append, Option.or_assoc]
  simp [hdeclares]

theorem Explains.declare (h : Explains history c.scopes) (name : String) (value : Origin) :
    Explains (history ++ [ScopeCall.event (.declare name value) c])
      ((Analysis.declare name value).run c).2.scopes := by
  have hanswer : ∀ id, (ScopeCall.event (.declare name value) c).answer ≠ .ok (.entered id) :=
    ScopeCall.answer_ne_entered (by simp) c
  rcases hscopes : c.scopes with _ | ⟨scope, outer⟩
  · simp [Analysis.run_declare, hscopes, Explains]
  · rw [hscopes] at h
    rw [Analysis.scopes_declare hscopes]
    have hdepth : c.depth = outer.length + 1 := congrArg List.length hscopes
    -- the declaration is one for the innermost id and for no other
    refine ⟨h.1.declare (hanswer _) ?_, h.2.concat fun position hlt => ⟨hanswer _, ?_⟩⟩
    · simp [ScopeEvent.declaration?, ScopeCall.event, hdepth]
    · simp [ScopeEvent.declaration?, ScopeCall.event, hdepth, Nat.ne_of_gt hlt]

theorem Explains.step (h : Explains history c.scopes) (call : ScopeCall) :
    Explains (history ++ [call.event c]) (call.perform.run c).2.scopes := by
  cases call with
  | enter scope => exact h.enter scope
  | leave id =>
    rw [ScopeCall.perform, Analysis.run_map]
    exact h.leave id
  | declare name value =>
    rw [ScopeCall.perform, Analysis.run_map]
    exact h.declare name value

end ScopeHistory

end

/-! ## Runs of calls -/

namespace ScopeCall

variable {ρ : Type} {history : List ScopeEvent} {c : Context ρ}

theorem run_makeCalls_cons (call : ScopeCall) (rest : List ScopeCall) (c : Context ρ) :
    (makeCalls (call :: rest)).run c =
      (((makeCalls rest).run (call.perform.run c).2).1.map (call.event c :: ·),
        ((makeCalls rest).run (call.perform.run c).2).2) := by
  simp [makeCalls, Analysis.run_bind, event]

theorem explains_makeCalls (h : ScopeHistory.Explains history c.scopes) (calls : List ScopeCall) :
    ∃ events next, (makeCalls calls).run c = (.ok events, next) ∧
      events.map (·.call) = calls ∧ ScopeHistory.Explains (history ++ events) next.scopes := by
  induction calls generalizing history c with
  | nil => exact ⟨[], c, rfl, rfl, by simpa using h⟩
  | cons call rest ih =>
    obtain ⟨events, next, hrun, hcalls, hnext⟩ := ih (h.step call)
    refine ⟨call.event c :: events, next, ?_, ?_, ?_⟩
    · rw [run_makeCalls_cons, hrun]
      rfl
    · rw [List.map_cons, hcalls]
      rfl
    · simpa using hnext

end ScopeCall

namespace Analysis

variable {ρ : Type}

theorem leaveScope_ok {id : ScopeId} {c next : Context ρ} {scope : Scope}
    (h : (leaveScope id).run c = (.ok scope, next)) :
    id = ⟨next.depth⟩ ∧ c = next.within (scope :: next.scopes) := by
  rw [run_leaveScope] at h
  rcases hscopes : c.scopes with _ | ⟨inner, outer⟩
  · simp [hscopes] at h
  · rw [hscopes] at h
    dsimp only at h
    split at h
    · rename_i hposition
      obtain ⟨⟨⟩, rfl⟩ := Prod.mk.inj h
      exact ⟨congrArg ScopeId.mk hposition, by rw [← hscopes]; rfl⟩
    · simp at h

/-- After any calls on a new context, those that failed included, the scope at each open place is
the one that its id stands for by the history. An id can be left exactly if its place is the
innermost open one; that gives the scope the id stands for and takes it away. If it fails, nothing
changes. -/
theorem scopes_follow_history (calls : List ScopeCall) (record : ρ) :
    ∃ history c, (ScopeCall.makeCalls calls).run (.new record) = (.ok history, c) ∧
      history.map (·.call) = calls ∧
      (∀ position < c.depth, ∃ scope,
        c.scopeAt? position = some scope ∧ ScopeHistory.StandsFor history ⟨position⟩ scope) ∧
      ∀ id : ScopeId,
        ((∃ scope, ((leaveScope id).run c).1 = .ok scope) ↔ c.depth = id.position + 1) ∧
        (∀ scope next, (leaveScope id).run c = (.ok scope, next) →
          ScopeHistory.StandsFor history id scope ∧ c = next.within (scope :: next.scopes)) ∧
        ∀ fault next, (leaveScope id).run c = (.error fault, next) → next = c := by
  have hnew : ScopeHistory.Explains [] (Context.new record).scopes := trivial
  obtain ⟨history, c, hrun, hcalls, hexplains⟩ := ScopeCall.explains_makeCalls hnew calls
  rw [List.nil_append] at hexplains
  refine ⟨history, c, hrun, hcalls, ?_, fun id => ⟨?_, ?_, ?_⟩⟩
  · intro position hlt
    have hopen : (c.scopeAt? position).isSome := by
      simpa [Context.scopeAt?, Context.depth] using hlt
    obtain ⟨scope, hat⟩ := Option.isSome_iff_exists.mp hopen
    exact ⟨scope, hat, hexplains.standsFor hat⟩
  · by_cases hdepth : c.depth = id.position + 1
    · obtain ⟨scope, hleft⟩ := leaveScope_of_depth_eq hdepth
      simp [hleft, hdepth]
    · simp [leaveScope_of_depth_ne hdepth, hdepth]
  · intro scope next hleft
    obtain ⟨rfl, hscopes⟩ := leaveScope_ok hleft
    refine ⟨?_, hscopes⟩
    rw [hscopes] at hexplains
    exact hexplains.1
  · intro fault next hfailed
    by_cases hdepth : c.depth = id.position + 1
    · obtain ⟨scope, hleft⟩ := leaveScope_of_depth_eq hdepth
      cases hleft.symm.trans hfailed
    · exact (Prod.mk.inj ((leaveScope_of_depth_ne hdepth).symm.trans hfailed)).2.symm

end Analysis

namespace Sample

def yes : Origin := .constant (.boolean true) default

/-- Two scopes are entered at the outermost place, one after the other. In the second one `b` is
declared twice, with a call in between that fails to leave it. -/
def reentry : List ScopeCall :=
  [.enter scope, .declare "a" yes, .leave ⟨0⟩, .enter (.new yes), .declare "b" yes, .leave ⟨1⟩,
    .enter scope, .declare "c" yes, .leave ⟨1⟩, .declare "b" (.null default)]

end Sample

theorem Analysis.sample_scopes_follow_history :
    ∃ history c next, (ScopeCall.makeCalls Sample.reentry).run (.new ()) = (.ok history, c) ∧
      (leaveScope ⟨0⟩).run c = (.ok ⟨Sample.yes, [("b", Sample.yes)]⟩, next) ∧
      ScopeHistory.StandsFor history ⟨0⟩ ⟨Sample.yes, [("b", Sample.yes)]⟩ ∧ next.depth = 0 := by
  obtain ⟨history, c, hrun, -, -, hleave⟩ := scopes_follow_history Sample.reentry ()
  have hc : ((ScopeCall.makeCalls Sample.reentry).run (.new ())).2 = c := congrArg Prod.snd hrun
  have hleft : (leaveScope ⟨0⟩).run c =
      (.ok ⟨Sample.yes, [("b", Sample.yes)]⟩, Context.new ()) := by
    rw [← hc]
    rfl
  exact ⟨history, c, _, hrun, hleft, ((hleave ⟨0⟩).2.1 _ _ hleft).1, rfl⟩

end ConfigScope
