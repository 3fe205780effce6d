import ConfigScope.Proofs.Run
import ConfigScope.Schema.Reader
import Mathlib.Data.List.Forall2
import Mathlib.Data.List.Nodup

/-!
# Records as they are written

Which trees stand for a record: an object that holds the fields in any order, each
at most once, from which fields that hold their default may be missing, and to
which texts under unknown keys may be added.

Whatever the order, reading goes through the drafts of one record, which differ only
in the keys that have been met (`WrittenField.Fills`). So a record that is written is
read (`readRecord_written`), and what is missing in the last draft is a default. Of
a record with a kind, the other members are a written record again
(`splitKind_written`).
-/

namespace ConfigScope.Schema.Reader

open Json

variable {α δ : Type}

/-! ## What stands for what -/

def WrittenText (text : String) (value : Value) : Prop :=
  ∃ token : StringToken, value = .string token ∧ token.text = .ok text

def WrittenFlag (flag : Bool) (value : Value) : Prop := value = .bool flag

inductive WrittenOptionalText : Option String → Value → Prop
  | none : WrittenOptionalText none .null
  | some {text value} : WrittenText text value → WrittenOptionalText (some text) value

inductive WrittenItems (writes : α → Value → Prop) : List α → Items → Prop
  | closed : WrittenItems writes [] .closed
  | item {a as value rest} : writes a value → WrittenItems writes as rest →
      WrittenItems writes (a :: as) (.item value rest)

def WrittenList (writes : α → Value → Prop) (as : List α) (value : Value) : Prop :=
  ∃ items, value = .list items ∧ WrittenItems writes as items

/-- A field of some record: its key, what stands for what it holds, and whether it may be left out.
-/
structure WrittenField where
  key : String
  writes : Value → Prop
  optional : Prop

namespace WrittenField

@[simp] def required (key : String) (writes : Value → Prop) : WrittenField :=
  ⟨key, writes, False⟩

@[simp] def defaulted (key : String) (writes : α → Value → Prop) (default a : α) : WrittenField :=
  ⟨key, writes a, a = default⟩

end WrittenField

/-- The members of an object from some place on, of which some fields have not been written yet. -/
inductive WrittenMembers (known : List String) : List WrittenField → Members → Prop
  | closed {fields} : (∀ field ∈ fields, field.optional) → WrittenMembers known fields .closed
  | field {before after field key value rest} : StringToken.text key = .ok field.key →
      field.writes value → WrittenMembers known (before ++ after) rest →
      WrittenMembers known (before ++ field :: after) (.member key value rest)
  | extra {fields key name text value rest} : StringToken.text key = .ok name → name ∉ known →
      WrittenText text value → WrittenMembers known fields rest →
      WrittenMembers known fields (.member key value rest)

def WrittenRecord (fields : List WrittenField) (value : Value) : Prop :=
  ∃ members, value = .object members ∧ WrittenMembers (fields.map (·.key)) fields members

/-! ## Texts, flags and lists -/

theorem unclosed_of_decode {ending : StringEnd} {pieces : List Piece} {chars : List Char}
    (h : StringToken.decode ending pieces = .ok chars) : StringToken.unclosed ending = .ok () := by
  fun_induction StringToken.decode ending pieces generalizing chars with
  | case1 =>
    obtain ⟨_, hclosed, -⟩ := except_bind_ok.mp h
    exact hclosed
  | case2 | case4 | case7 =>
    rename_i ih
    obtain ⟨_, hrest, -⟩ := except_bind_ok.mp h
    exact ih hrest
  | case3 | case5 | case6 | case8 => cases h

theorem WrittenText.readText {text : String} {value : Value} (h : WrittenText text value) :
    readText value = .ok text := by
  obtain ⟨token, rfl, htext⟩ := h
  rw [Reader.readText, htext]
  rfl

theorem WrittenText.check {text : String} {value : Value} (h : WrittenText text value)
    (depth : Nat) : value.check depth = .ok () := by
  obtain ⟨token, rfl, htext⟩ := h
  rw [Value.check, htext]
  rfl

theorem WrittenText.skip {text : String} {value : Value} (h : WrittenText text value) :
    value.skip = .ok () := by
  obtain ⟨token, rfl, htext⟩ := h
  obtain ⟨chars, hchars, -⟩ := except_bind_ok.mp htext
  exact unclosed_of_decode hchars

theorem WrittenFlag.readBoolean {flag : Bool} {value : Value} (h : WrittenFlag flag value) :
    readBoolean value = .ok flag := by
  rw [h, Reader.readBoolean]

theorem WrittenOptionalText.readOptionalText {text : Option String} {value : Value}
    (h : WrittenOptionalText text value) : readOptionalText value = .ok text := by
  cases h with
  | none => rfl
  | some htext =>
    have hread := htext.readText
    obtain ⟨token, rfl, -⟩ := htext
    rw [Reader.readOptionalText, hread]
    · rfl
    · simp

theorem WrittenItems.readItems {writes : α → Value → Prop} {read : Value → Read α} {as : List α}
    {items : Items} (h : WrittenItems writes as items)
    (hread : ∀ a ∈ as, ∀ value, writes a value → read value = .ok a) :
    readItems read items = .ok as := by
  induction h with
  | closed => rfl
  | @item a as value rest hvalue _ ih =>
    have hrest := ih fun b hb => hread b (List.mem_cons_of_mem a hb)
    rw [Reader.readItems, hread a List.mem_cons_self value hvalue, hrest]
    rfl

theorem descend_of_lt {depth : Nat} (h : depth < maxDepth) :
    unbroken (descend depth) = .ok () := by
  rw [descend, if_pos h]
  rfl

theorem WrittenList.readList {writes : α → Value → Prop} {read : Nat → Value → Read α}
    {as : List α} {value : Value} {depth : Nat} (h : WrittenList writes as value)
    (hdepth : depth < maxDepth)
    (hread : ∀ a ∈ as, ∀ value, writes a value → read (depth + 1) value = .ok a) :
    readList read depth value = .ok as := by
  obtain ⟨items, rfl, hitems⟩ := h
  rw [Reader.readList, descend_of_lt hdepth]
  exact hitems.readItems hread

/-! ## Drafts -/

def given (read : String → Bool) (key : String) (a : α) : Option α :=
  if read key then some a else none

def mark (key : String) (read : String → Bool) : String → Bool :=
  fun other => other == key || read other

section Drafts

variable {read : String → Bool} {key other : String} {a default : α}

@[simp] theorem mark_self : mark key read key = true := by simp [mark]

theorem mark_of_ne (h : other ≠ key) : mark key read other = read other := by simp [mark, h]

theorem mark_mono (h : read other = true) : mark key read other = true := by simp [mark, h]

@[simp] theorem isSome_given : (given read key a).isSome = read key := by
  cases h : read key <;> simp [given, h]

@[simp] theorem given_mark_self : given (mark key read) key a = some a := by simp [given]

@[simp] theorem given_mark_of_ne (h : other ≠ key) :
    given (mark key read) other a = given read other a := by
  rw [given, given, mark_of_ne h]

theorem required_given (h : read key = true ∨ False) : required key (given read key a) = .ok a := by
  rw [given, if_pos (h.resolve_right id), required]

theorem getD_given (h : read key = true ∨ a = default) : (given read key a).getD default = a := by
  cases hread : read key with
  | true => simp [given, hread]
  | false =>
    rw [hread] at h
    simp [given, hread, h.resolve_left Bool.false_ne_true]

end Drafts

/-- How a field of a layout goes from one draft of a record to another: reading what is written
under its key marks that key, and nothing else. -/
structure WrittenField.Fills (draft : (String → Bool) → δ) (depth : Nat) (written : WrittenField)
    (field : Field δ) : Prop where
  key : field.key = written.key
  filled : ∀ read, field.filled (draft read) = read written.key
  fill : ∀ read value, written.writes value →
    field.fill depth value (draft read) = .ok (draft (mark written.key read))

theorem fills_put {draft : (String → Bool) → δ} {depth : Nat} {written : WrittenField}
    {optional : Bool} {filled : δ → Bool} {get : Nat → Value → Read α} {put : δ → α → δ} {a : α}
    (hget : ∀ value, written.writes value → get depth value = .ok a)
    (hfilled : ∀ read, filled (draft read) = read written.key)
    (hput : ∀ read, put (draft read) a = draft (mark written.key read)) :
    written.Fills draft depth ⟨written.key, optional, filled, fun depth value draft =>
      return put draft (← get depth value)⟩ where
  key := rfl
  filled := hfilled
  fill := by
    intro read value hvalue
    exact except_bind_ok.mpr ⟨a, hget value hvalue, except_pure_ok.mpr (hput read).symm⟩

section Step

variable {fields : List (Field δ)} {field : Field δ} {depth : Nat} {draft next : δ}
  {key : StringToken} {name : String} {value : Value} (rest : Members)

theorem readMembers_known (hkey : key.text = .ok name)
    (hfind : fields.find? (·.key == name) = some field) (hfilled : field.filled draft = false)
    (hfill : field.fill depth value draft = .ok next) :
    readMembers fields depth draft (.member key value rest) =
      readMembers fields depth next rest := by
  rw [readMembers, hkey]
  simp only [unbroken, bind, Except.bind, hfind, hfilled, Bool.false_eq_true, if_false, hfill]

theorem readMembers_unknown (hkey : key.text = .ok name)
    (hfind : fields.find? (·.key == name) = none) (hskip : value.skip = .ok ()) :
    readMembers fields depth draft (.member key value rest) =
      readMembers fields depth draft rest := by
  rw [readMembers, hkey]
  simp only [unbroken, bind, Except.bind, hfind, hskip]

end Step

theorem readMembers_written {draft : (String → Bool) → δ} {fields : List (Field δ)} {depth : Nat}
    {known : List String} {written : List WrittenField} {members : Members}
    (hmembers : WrittenMembers known written members)
    (hknown : ∀ field ∈ fields, field.key ∈ known)
    (hfills : ∀ w ∈ written, ∃ field, fields.find? (·.key == w.key) = some field ∧
      w.Fills draft depth field)
    (hnodup : (written.map (·.key)).Nodup) (read : String → Bool)
    (hunread : ∀ w ∈ written, read w.key = false) :
    ∃ final, readMembers fields depth (draft read) members = .ok (draft final) ∧
      (∀ key, read key = true → final key = true) ∧
      ∀ w ∈ written, final w.key = true ∨ w.optional := by
  induction hmembers generalizing read with
  | closed hoptional => exact ⟨read, rfl, fun _ h => h, fun w hw => .inr (hoptional w hw)⟩
  | @field before after w key value rest hkey hvalue _ ih =>
    obtain ⟨field, hfind, hfield⟩ := hfills w (by simp)
    have hsub : ∀ w' ∈ before ++ after, w' ∈ before ++ w :: after := by grind
    simp only [List.map_append, List.map_cons, List.nodup_middle, List.nodup_cons] at hnodup
    -- the fields that are left have other keys, so the mark is not on them
    have hleft : ∀ w' ∈ before ++ after, mark w.key read w'.key = false := by
      intro w' hw'
      have hne : w'.key ≠ w.key := by grind
      rw [mark_of_ne hne, hunread w' (hsub w' hw')]
    obtain ⟨final, hread, hmono, hfinal⟩ := ih (fun w' hw' => hfills w' (hsub w' hw'))
      (by simpa using hnodup.2) (mark w.key read) hleft
    refine ⟨final, ?_, fun other hother => hmono other (mark_mono hother), ?_⟩
    · rw [readMembers_known rest hkey hfind ?_ (hfield.fill read value hvalue), hread]
      rw [hfield.filled, hunread w (by simp)]
    · intro w' hw'
      by_cases hsame : w' = w
      · exact .inl (hsame ▸ hmono w.key mark_self)
      · exact hfinal w' (by grind)
  | @extra written key name text value rest hkey hname hvalue _ ih =>
    obtain ⟨final, hread, hmono, hfinal⟩ := ih hfills hnodup read hunread
    refine ⟨final, ?_, hmono, hfinal⟩
    have hfind : fields.find? (·.key == name) = none := by
      rw [List.find?_eq_none]
      grind
    rw [readMembers_unknown rest hkey hfind hvalue.skip, hread]

/-! ## Records -/

section Records

variable {draft : (String → Bool) → δ} {depth : Nat} {written : List WrittenField}
  {fields : List (Field δ)}

theorem map_key_of_fills (h : List.Forall₂ (·.Fills draft depth) written fields) :
    written.map (·.key) = fields.map (·.key) := by
  induction h with
  | nil => rfl
  | cons hhead _ ih => rw [List.map_cons, List.map_cons, ih, hhead.key]

theorem exists_find?_of_fills (h : List.Forall₂ (·.Fills draft depth) written fields)
    (hnodup : (fields.map (·.key)).Nodup) {w : WrittenField} (hw : w ∈ written) :
    ∃ field, fields.find? (·.key == w.key) = some field ∧ w.Fills draft depth field := by
  induction h with
  | nil => cases hw
  | @cons head field written fields hhead htail ih =>
    rw [List.map_cons, List.nodup_cons] at hnodup
    rcases List.mem_cons.mp hw with rfl | hrest
    · exact ⟨field, by simp [hhead.key], hhead⟩
    · obtain ⟨found, hfind, hfound⟩ := ih hnodup.2 hrest
      have hne : field.key ≠ w.key := by
        intro heq
        apply hnodup.1
        rw [heq, ← map_key_of_fills htail]
        exact List.mem_map_of_mem hrest
      exact ⟨found, by simp [hne, hfind], hfound⟩

/-- Reading a written record ends in a draft of it, where only what may be left out is missing. -/
theorem readRecord_object {layout : Layout δ} {known : List String} {members : Members}
    (hmembers : WrittenMembers known written members)
    (hfills : List.Forall₂ (·.Fills draft (depth + 1)) written layout.fields)
    (hnodup : (layout.fields.map (·.key)).Nodup)
    (hknown : ∀ key ∈ layout.fields.map (·.key), key ∈ known)
    (hdepth : depth < maxDepth) (source : Source) :
    ∃ read, readRecord layout source (draft fun _ => false) depth (.object members) =
        .ok (draft read) ∧
      ∀ w ∈ written, read w.key = true ∨ w.optional := by
  obtain ⟨read, hread, -, hgiven⟩ := readMembers_written hmembers
    (fun field hfield => hknown field.key (List.mem_map_of_mem hfield))
    (fun w hw => exists_find?_of_fills hfills hnodup hw) (map_key_of_fills hfills ▸ hnodup)
    (fun _ => false) (fun _ _ => rfl)
  refine ⟨read, ?_, hgiven⟩
  rw [readRecord, descend_of_lt hdepth]
  exact hread

theorem readRecord_written {layout : Layout δ} {value : Value}
    (hvalue : WrittenRecord written value)
    (hfills : List.Forall₂ (·.Fills draft (depth + 1)) written layout.fields)
    (hnodup : (layout.fields.map (·.key)).Nodup) (hdepth : depth < maxDepth) (source : Source) :
    ∃ read, readRecord layout source (draft fun _ => false) depth value = .ok (draft read) ∧
      ∀ w ∈ written, read w.key = true ∨ w.optional := by
  obtain ⟨members, rfl, hmembers⟩ := hvalue
  refine readRecord_object hmembers hfills hnodup ?_ hdepth source
  rw [map_key_of_fills hfills]
  exact fun _ h => h

theorem WrittenMembers.check {known : List String} {members : Members}
    (h : WrittenMembers known written members)
    (hcheck : ∀ w ∈ written, ∀ value, w.writes value → value.check depth = .ok ()) :
    members.check depth = .ok () := by
  induction h with
  | closed => rfl
  | @field before after w key value rest hkey hvalue _ ih =>
    have hrest := ih fun w' hw' => hcheck w' (by grind)
    rw [Members.check, hkey, hcheck w (by simp) value hvalue]
    exact hrest
  | extra hkey _ hvalue _ ih =>
    rw [Members.check, hkey, hvalue.check]
    exact ih hcheck

end Records

/-! ## Records with a kind -/

section Kinds

variable {depth : Nat} {kind : Kind} {found : Option Kind} {others : List (StringToken × Value)}
  {key : StringToken} {name : String} {value : Value} (rest : Members)

theorem splitKind_kind (hkey : key.text = .ok "kind") (hkind : readKind value = .ok kind) :
    splitKind depth none others (.member key value rest) =
      splitKind depth (some kind) others rest := by
  rw [splitKind, hkey]
  simp only [unbroken, bind, Except.bind, if_true, hkind]
  rfl

theorem splitKind_other (hkey : key.text = .ok name) (hname : name ≠ "kind")
    (hvalue : value.check depth = .ok ()) :
    splitKind depth found others (.member key value rest) =
      splitKind depth found ((key, value) :: others) rest := by
  rw [splitKind, hkey]
  simp only [unbroken, bind, Except.bind, hname, if_false, hvalue]

end Kinds

theorem splitKind_written {depth : Nat} {kind : Kind} {known : List String}
    {written : List WrittenField} {members : Members}
    (hmembers : WrittenMembers known written members) (hknown : "kind" ∈ known)
    (hnodup : (written.map (·.key)).Nodup)
    (hkind : ∀ w ∈ written, w.key = "kind" →
      ¬ w.optional ∧ ∀ value, w.writes value → readKind value = .ok kind)
    (hcheck : ∀ w ∈ written, w.key ≠ "kind" →
      ∀ value, w.writes value → value.check depth = .ok ())
    (others : List (StringToken × Value)) :
    ∃ kept, splitKind depth (if "kind" ∈ written.map (·.key) then none else some kind) others
        members = .ok (kind, .object (.ofDone others kept)) ∧
      WrittenMembers known (written.filter (·.key != "kind")) kept := by
  induction hmembers generalizing others with
  | @closed written hoptional =>
    have habsent : "kind" ∉ written.map (·.key) := by
      intro hmem
      obtain ⟨w, hw, hkey⟩ := List.mem_map.mp hmem
      exact (hkind w hw hkey).1 (hoptional w hw)
    rw [if_neg habsent]
    exact ⟨.closed, rfl, .closed fun w hw => hoptional w (List.mem_of_mem_filter hw)⟩
  | @field before after w key value rest hkey hvalue _ ih =>
    have hsub : ∀ w' ∈ before ++ after, w' ∈ before ++ w :: after := by grind
    have hkeys : ((before ++ w :: after).map (·.key)).Perm
        (w.key :: (before ++ after).map (·.key)) := List.perm_middle.map _
    rw [hkeys.nodup_iff, List.nodup_cons] at hnodup
    have hrest := ih hnodup.2 (fun w' hw' => hkind w' (hsub w' hw'))
      (fun w' hw' => hcheck w' (hsub w' hw'))
    rw [List.filter_append, List.filter_cons]
    by_cases hname : w.key = "kind"
    · -- the one kind of the record: none has been found, and none is left
      have hhere : "kind" ∈ (before ++ w :: after).map (·.key) := by simp [hname]
      obtain ⟨kept, hsplit, hkept⟩ := hrest others
      rw [if_neg (hname ▸ hnodup.1)] at hsplit
      refine ⟨kept, ?_, ?_⟩
      · have hread := (hkind w (by simp) hname).2 value hvalue
        rw [if_pos hhere, splitKind_kind rest (hname ▸ hkey) hread, hsplit]
      · simpa [hname] using hkept
    · -- any other field is kept, and whether the kind is still to come does not change
      obtain ⟨kept, hsplit, hkept⟩ := hrest ((key, value) :: others)
      have hsame : "kind" ∈ (before ++ w :: after).map (·.key) ↔
          "kind" ∈ (before ++ after).map (·.key) := by
        rw [hkeys.mem_iff, List.mem_cons, or_iff_right (Ne.symm hname)]
      refine ⟨.member key value kept, ?_, ?_⟩
      · rw [splitKind_other rest hkey hname (hcheck w (by simp) hname value hvalue)]
        simp only [hsame]
        exact hsplit
      · rw [if_pos (by simpa using hname)]
        exact .field hkey hvalue (by simpa using hkept)
  | @extra written key name text value rest hkey hname hvalue _ ih =>
    obtain ⟨kept, hsplit, hkept⟩ := ih hnodup hkind hcheck ((key, value) :: others)
    have hne : name ≠ "kind" := fun heq => hname (heq ▸ hknown)
    refine ⟨.member key value kept, ?_, .extra hkey hname hvalue hkept⟩
    rw [splitKind_other rest hkey hne (hvalue.check depth)]
    exact hsplit

end ConfigScope.Schema.Reader
