import ConfigScope.Origin.Basic

/-!
# Chains of bindings and builder calls

A binding stands for the value it names, and what a builder call hands back for
the receiver of the call. Such links may follow each other in any number and
mixture. Every origin is the chain of some links around its subject
(`exists_links`), the subject is no link itself (`subject_ne_linked`), and links
put around an origin change neither its subject nor its type
(`subject_chain`, `type_chain`).
-/

namespace ConfigScope

/-! ## Following a chain -/

namespace Origin

theorem type_subject (typeOf : TypeContext) (origin : Origin) :
    origin.subject.type typeOf = origin.type typeOf := by
  fun_induction Origin.subject origin with
  | case1 name value span ih => exact ih
  | case2 receiver function arguments id span ih => exact ih
  | case3 origin => rfl

theorem type_eq_of_subject_eq {typeOf : TypeContext} {a b : Origin}
    (h : a.subject = b.subject) : a.type typeOf = b.type typeOf := by
  rw [← a.type_subject, h, b.type_subject]

end Origin

/-! ## Building a chain -/

/-- What a binding or a builder call adds to the origin that it stands for. -/
inductive Link where
  | binding (name : String) (span : Span)
  | builder (function : MemberFunction) (arguments : List Origin) (id : Nat) (span : Span)

namespace Origin

def linked (origin : Origin) : Link → Origin
  | .binding name span => .binding name origin span
  | .builder function arguments id span => .built origin function arguments id span

def chain (origin : Origin) (links : List Link) : Origin :=
  links.foldr (fun link inner => inner.linked link) origin

theorem subject_linked (origin : Origin) (link : Link) :
    (origin.linked link).subject = origin.subject := by
  cases link <;> rfl

theorem subject_chain (origin : Origin) (links : List Link) :
    (origin.chain links).subject = origin.subject := by
  induction links with
  | nil => rfl
  | cons link links ih =>
    calc ((origin.chain links).linked link).subject
      _ = (origin.chain links).subject := subject_linked _ link
      _ = origin.subject := ih

theorem type_chain (typeOf : TypeContext) (origin : Origin) (links : List Link) :
    (origin.chain links).type typeOf = origin.type typeOf :=
  type_eq_of_subject_eq (subject_chain origin links)

theorem subject_ne_linked (origin : Origin) (link : Link) (inner : Origin) :
    origin.subject ≠ inner.linked link := by
  fun_induction subject origin with
  | case1 name value span ih => exact ih
  | case2 receiver function arguments id span ih => exact ih
  | case3 origin hbinding hbuilt =>
    -- the walk stops only at what is neither of the two
    rintro rfl
    cases link with
    | binding name span => exact hbinding name inner span rfl
    | builder function arguments id span => exact hbuilt inner function arguments id span rfl

theorem exists_links (origin : Origin) : ∃ links, origin = origin.subject.chain links := by
  fun_induction subject origin with
  | case1 name value span ih =>
    obtain ⟨links, hvalue⟩ := ih
    exact ⟨.binding name span :: links, congrArg (linked · (.binding name span)) hvalue⟩
  | case2 receiver function arguments id span ih =>
    obtain ⟨links, hreceiver⟩ := ih
    exact ⟨.builder function arguments id span :: links,
      congrArg (linked · (.builder function arguments id span)) hreceiver⟩
  | case3 origin => exact ⟨[], rfl⟩

theorem subject_subject (origin : Origin) : origin.subject.subject = origin.subject := by
  obtain ⟨links, horigin⟩ := exists_links origin
  calc origin.subject.subject
    _ = (origin.subject.chain links).subject := (subject_chain _ links).symm
    _ = origin.subject := by rw [← horigin]

/-- An origin and its subject have the same type in every context, or the same fault. The subject
stands for itself and is neither a binding nor a builder call, the origin is a chain of those around
it, and any further chain around the origin has the same subject and the same type. -/
theorem chains_followed_alike (origin : Origin) :
    (∀ typeOf : TypeContext, origin.type typeOf = origin.subject.type typeOf) ∧
    origin.subject.subject = origin.subject ∧
    (∀ name value span, origin.subject ≠ .binding name value span) ∧
    (∀ receiver function arguments id span,
      origin.subject ≠ .built receiver function arguments id span) ∧
    (∃ links, origin = origin.subject.chain links) ∧
    ∀ links : List Link, (origin.chain links).subject = origin.subject ∧
      ∀ typeOf : TypeContext, (origin.chain links).type typeOf = origin.type typeOf := by
  refine ⟨?_, subject_subject origin, ?_, ?_, exists_links origin, ?_⟩
  · intro typeOf
    exact (type_subject typeOf origin).symm
  · intro name value span
    exact subject_ne_linked origin (.binding name span) value
  · intro receiver function arguments id span
    exact subject_ne_linked origin (.builder function arguments id span) receiver
  · intro links
    exact ⟨subject_chain origin links, fun typeOf => type_chain typeOf origin links⟩

end Origin

end ConfigScope
