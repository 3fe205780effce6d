import ConfigScope.Proofs.Walk

/-!
# What looking a name up finds

Each lemma reads what a lookup gave as where it was found. A property and a
member function come from the innermost scope whose receiver has them, which is
the scope that `Way` counts to; a value is local to an open scope or external; an
overload is a declared function that accepts the arguments.
-/

namespace ConfigScope

theorem findM?_ok {ε α : Type} {p : α → Except ε Bool} {as : List α} {a : α}
    (h : as.findM? p = .ok (some a)) : a ∈ as ∧ p a = .ok true := by
  induction as with
  | nil => cases h
  | cons head rest ih =>
    simp only [List.findM?, except_bind_ok] at h
    obtain ⟨found, hp, h⟩ := h
    cases found with
    | true =>
      cases h
      exact ⟨List.mem_cons_self, hp⟩
    | false =>
      obtain ⟨hmem, hp⟩ := ih h
      exact ⟨List.mem_cons_of_mem _ hmem, hp⟩

theorem Scope.mem_locals {scope : Scope} {name : String} {value : Origin}
    (h : scope.local? name = some value) : (name, value) ∈ scope.locals := by
  obtain ⟨before, after, hlocals, -⟩ := List.lookup_eq_some_iff.mp h
  rw [hlocals]
  exact List.mem_append_right _ List.mem_cons_self

namespace Schema

variable {schema : Schema} {name : String} {types : List (Option Ty)}

theorem memberOverload_ok {decl : ClassDecl} {function : MemberFunction}
    (h : schema.memberOverload decl name types = .ok (some function)) :
    function ∈ decl.functions ∧ schema.accepts function.parameters types = .ok true := by
  obtain ⟨hmem, haccepts⟩ := findM?_ok h
  exact ⟨(List.mem_filter.mp hmem).1, haccepts⟩

theorem topLevelOverload_ok {function : TopLevelFunction}
    (h : schema.topLevelOverload name types = .ok (some function)) :
    function ∈ schema.functions ∧ schema.accepts function.parameters types = .ok true := by
  obtain ⟨hmem, haccepts⟩ := findM?_ok h
  exact ⟨(List.mem_filter.mp hmem).1, haccepts⟩

theorem lookupValue_ok {scopes : List Scope} {span : Span} {value : Origin}
    (h : schema.lookupValue name span scopes = .ok (some value)) :
    (∃ scope ∈ scopes, (name, value) ∈ scope.locals) ∨
      ∃ external, schema.external? name = some external ∧ value = .external external span := by
  induction scopes with
  | nil =>
    simp only [lookupValue, except_pure_ok, eq_comm (a := some value), Option.map_eq_some_iff] at h
    obtain ⟨external, he, rfl⟩ := h
    exact .inr ⟨external, he, rfl⟩
  | cons scope outer ih =>
    unfold lookupValue at h
    cases hlocal : scope.local? name with
    | some found =>
      simp only [hlocal, except_pure_ok] at h
      cases h
      exact .inl ⟨scope, List.mem_cons_self, scope.mem_locals hlocal⟩
    | none =>
      simp only [hlocal, except_bind_ok] at h
      obtain ⟨type, -, h⟩ := h
      split at h
      -- a property of the receiver ends the search for a value
      · cases h
      · rcases ih h with ⟨found, hmem, hfound⟩ | hexternal
        · exact .inl ⟨found, List.mem_cons_of_mem _ hmem, hfound⟩
        · exact .inr hexternal

theorem lookupProperty_ok {scopes : List Scope} {target : Target}
    (h : schema.lookupProperty name scopes = .ok (some target)) :
    ∃ scope type, scopes[scopes.findIdx (schema.declares name)]? = some scope ∧
      target.receiver = scope.receiver ∧ scope.receiver.type schema.typeOf = .ok type ∧
      type.property? name = some target.property := by
  induction scopes with
  | nil => cases h
  | cons scope outer ih =>
    simp only [lookupProperty, except_bind_ok] at h
    obtain ⟨type, htype, h⟩ := h
    cases hproperty : type.property? name with
    | some property =>
      simp only [hproperty, except_pure_ok] at h
      cases h
      have hhere : schema.declares name scope = true := by simp [declares, htype, hproperty]
      refine ⟨scope, type, ?_, rfl, htype, hproperty⟩
      simp [List.findIdx_cons, hhere]
    | none =>
      simp only [hproperty] at h
      obtain ⟨found, foundType, hfound, hreceiver⟩ := ih h
      have hnot : schema.declares name scope = false := by simp [declares, htype, hproperty]
      refine ⟨found, foundType, ?_, hreceiver⟩
      simpa [List.findIdx_cons, hnot] using hfound

/-- A call without a receiver: the innermost scope that offers the function, else the top level. -/
theorem lookupFunction_ok {arguments : List (Option Origin)} {scopes : List Scope}
    {callee : Callee} (htypes : schema.argumentTypes arguments = .ok types)
    (h : schema.lookupFunction name types scopes = .ok (some callee)) :
    (∃ scope decl function, scopes[scopes.findIdx (schema.offers name arguments)]? = some scope ∧
      callee = .member scope.receiver function ∧
      scope.receiver.type schema.typeOf = .ok (.object decl) ∧
      schema.memberOverload decl name types = .ok (some function)) ∨
    ∃ function, callee = .topLevel function ∧
      schema.topLevelOverload name types = .ok (some function) := by
  induction scopes with
  | nil =>
    simp only [lookupFunction, except_bind_ok, except_pure_ok, eq_comm (a := some callee),
      Option.map_eq_some_iff] at h
    obtain ⟨_, hfound, function, rfl, rfl⟩ := h
    exact .inr ⟨function, rfl, hfound⟩
  | cons scope outer ih =>
    simp only [lookupFunction, except_bind_ok] at h
    obtain ⟨type, htype, h⟩ := h
    -- a scope that does not offer the function is passed by, and counted
    have skip (hnot : schema.offers name arguments scope = false) :
        (scope :: outer)[(scope :: outer).findIdx (schema.offers name arguments)]? =
          outer[outer.findIdx (schema.offers name arguments)]? := by
      simp [List.findIdx_cons, hnot]
    cases hclass : type.class? with
    | none =>
      simp only [hclass] at h
      have hnot : schema.offers name arguments scope = false := by
        unfold offers
        rw [htypes, htype]
        cases type with
        | object decl => cases hclass
        | _ => rfl
      rw [skip hnot]
      exact ih h
    | some decl =>
      obtain rfl := Resolver.class?_eq_some.mp hclass
      simp only [Ty.class?, except_bind_ok] at h
      obtain ⟨overload, hoverload, h⟩ := h
      cases overload with
      | none =>
        rw [skip (by simp [offers, htypes, htype, hoverload])]
        exact ih h
      | some function =>
        simp only [except_pure_ok, Option.some.injEq] at h
        have hhere : schema.offers name arguments scope = true := by
          simp [offers, htypes, htype, hoverload]
        refine .inl ⟨scope, decl, function, ?_, h, htype, hoverload⟩
        simp [List.findIdx_cons, hhere]

end Schema

end ConfigScope
