import ConfigScope.QualifiedName

/-!
# Sets of qualified names

A set lists its names in order, each once, so two sets with the same members
are equal.
-/

namespace ConfigScope

structure NameSet where
  toList : List QualifiedName
  sorted : toList.Pairwise (fun a b => a.before b = true)
  deriving DecidableEq

namespace NameSet

def empty : NameSet := ⟨[], .nil⟩

instance : Inhabited NameSet := ⟨empty⟩

def contains (set : NameSet) (name : QualifiedName) : Bool :=
  set.toList.contains name

/-- Puts a name at its place in an ordered list, unless the list holds it. -/
def insertInto (name : QualifiedName) : List QualifiedName → List QualifiedName
  | [] => [name]
  | head :: rest =>
    if name = head then head :: rest
    else if name.before head then name :: head :: rest
    else head :: insertInto name rest

theorem mem_insertInto {name other : QualifiedName} {names : List QualifiedName} :
    other ∈ insertInto name names ↔ other = name ∨ other ∈ names := by
  induction names with
  | nil => simp [insertInto]
  | cons head rest ih => grind [insertInto]

theorem sorted_insertInto (name : QualifiedName) {names : List QualifiedName}
    (sorted : names.Pairwise (fun a b => a.before b = true)) :
    (insertInto name names).Pairwise (fun a b => a.before b = true) := by
  induction names with
  | nil => simp [insertInto]
  | cons head rest ih =>
    have htotal := QualifiedName.eq_or_before_or_before name head
    rw [List.pairwise_cons] at sorted
    unfold insertInto
    split
    · exact List.pairwise_cons.mpr sorted
    split
    · next hbefore =>
      refine List.pairwise_cons.mpr ⟨?_, List.pairwise_cons.mpr sorted⟩
      intro other hother
      rcases List.mem_cons.mp hother with rfl | hrest
      · exact hbefore
      · exact QualifiedName.before_trans hbefore (sorted.1 other hrest)
    · refine List.pairwise_cons.mpr ⟨?_, ih sorted.2⟩
      intro other hother
      rcases mem_insertInto.mp hother with rfl | hrest
      · grind
      · exact sorted.1 other hrest

def insert (set : NameSet) (name : QualifiedName) : NameSet :=
  ⟨insertInto name set.toList, sorted_insertInto name set.sorted⟩

def ofList (names : List QualifiedName) : NameSet :=
  names.foldl insert empty

end NameSet

end ConfigScope
