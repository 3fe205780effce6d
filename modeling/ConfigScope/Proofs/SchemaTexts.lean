import ConfigScope.Proofs.WrittenDeclarations

/-!
# The schema of a text

Declarations can always be written in a text, whatever characters their names hold,
since each of these can be spelled. And all texts in which they are written have the
schema of the declarations themselves, or their error (`ofText_eq_ofDeclarations`).
-/

namespace ConfigScope

namespace Json

/-! ## Printing -/

/-- Control characters can only be written by their number. -/
def Piece.ofChar (c : Char) : Piece :=
  if c.toNat < 0x20 then .unit c.toNat else .char c

def StringToken.ofText (text : String) : StringToken :=
  ⟨text.toList.map Piece.ofChar, .closed⟩

def hexDigit (value : Nat) : Char := "0123456789abcdef".toList.getD value '0'

def Piece.print : Piece → List Char
  | .char c => if c = '"' ∨ c = '\\' then ['\\', c] else [c]
  | .unit n => ['\\', 'u', hexDigit (n / 4096 % 16), hexDigit (n / 256 % 16),
    hexDigit (n / 16 % 16), hexDigit (n % 16)]

def Token.print : Token → List Char
  | .openList => ['[']
  | .closeList => [']']
  | .openObject => ['\x7b']
  | .closeObject => ['\x7d']
  | .comma => [',']
  | .colon => [':']
  | .null => ['n', 'u', 'l', 'l']
  | .bool true => ['t', 'r', 'u', 'e']
  | .bool false => ['f', 'a', 'l', 's', 'e']
  | .string s => '"' :: s.pieces.flatMap Piece.print ++ ['"']
  | .number _ | .badNumber | .cutNumber | .badWord | .cutWord | .stray => []

def print (value : Value) : String := String.ofList (value.tokens.flatMap Token.print)

theorem StringToken.decode_ofChar (chars : List Char) :
    decode .closed (chars.map Piece.ofChar) = .ok chars := by
  induction chars with
  | nil => rfl
  | cons c rest ih =>
    rw [List.map_cons, Piece.ofChar]
    split
    · next hcontrol =>
      -- a control character is no half of a pair
      have hsurrogate : isTrailing c.toNat = false ∧ isLeading c.toNat = false := by
        simp only [isTrailing, isLeading, Bool.and_eq_false_imp, decide_eq_true_eq]
        omega
      rw [decode.eq_def]
      simp [hsurrogate, ih, bind, Except.bind, pure, Except.pure]
    · rw [decode, ih]
      rfl

theorem StringToken.text_ofText (text : String) : (ofText text).text = .ok text := by
  rw [StringToken.text, ofText, decode_ofChar]
  exact congrArg Except.ok String.ofList_toList

theorem hexDigit_spells {value : Nat} (h : value < 16) : HexDigit (hexDigit value) value := by
  refine .inl ?_
  rw [hexDigit, List.getD_eq_getElem?_getD, List.getElem?_eq_getElem h]
  rfl

theorem Piece.print_spells (c : Char) : (ofChar c).Spells (ofChar c).print := by
  rw [ofChar]
  split
  -- a control character can only be escaped, here as a unit of four digits
  · next hcontrol =>
    have hdigit (n : Nat) : HexDigit (hexDigit (n % 16)) (n % 16) :=
      hexDigit_spells (Nat.mod_lt n (by decide))
    have hspells := Piece.Spells.unit (hdigit (c.toNat / 4096)) (hdigit (c.toNat / 256))
      (hdigit (c.toNat / 16)) (hdigit c.toNat)
    have hvalue : ((c.toNat / 4096 % 16 * 16 + c.toNat / 256 % 16) * 16 + c.toNat / 16 % 16) * 16 +
        c.toNat % 16 = c.toNat := by omega
    rwa [hvalue] at hspells
  · next hcontrol =>
    rw [Piece.print]
    split
    · next hmark =>
      have hescape : (c, c) ∈ shortEscapes := by
        rcases hmark with rfl | rfl <;> simp [shortEscapes]
      exact .short hescape
    · next hmark =>
      rw [not_or] at hmark
      exact .plain hmark.1 hmark.2 (Nat.le_of_not_lt hcontrol)

def Token.Printable (token : Token) : Prop := token.Spells token.print

def Value.Printable (value : Value) : Prop := ∀ token ∈ value.tokens, token.Printable

@[simp] theorem Token.printable_string (text : String) :
    (Token.string (.ofText text)).Printable := by
  have hpieces : ∀ chars : List Char,
      SpellsPieces (chars.map Piece.ofChar) ((chars.map Piece.ofChar).flatMap Piece.print) := by
    intro chars
    induction chars with
    | nil => exact .nil
    | cons c rest ih => exact .cons (Piece.print_spells c) ih
  exact .string (hpieces text.toList)

theorem Token.printable_of_mem {token : Token} (h : token ∈ [.openList, .closeList, .openObject,
    .closeObject, .comma, .colon, .null, .bool true, .bool false]) : token.Printable := by
  simp only [List.mem_cons, List.not_mem_nil, or_false] at h
  rcases h with rfl | rfl | rfl | rfl | rfl | rfl | rfl | rfl | rfl <;> constructor

theorem printable_separator (first : Bool) : ∀ token ∈ separator first, token.Printable := by
  cases first with
  | true => exact List.forall_mem_nil _
  | false => exact List.forall_mem_singleton.mpr (Token.printable_of_mem (by decide))

theorem spellsAll_flatMap_print {tokens : List Token} (h : ∀ token ∈ tokens, token.Printable) :
    SpellsAll tokens (tokens.flatMap Token.print) := by
  induction tokens with
  | nil => exact .nil
  | cons token rest ih =>
    rw [List.forall_mem_cons] at h
    exact .token h.1 (ih h.2)

theorem spells_print {value : Value} (h : value.Printable) : Spells (print value) value := by
  rw [Spells, print, String.toList_ofList]
  exact spellsAll_flatMap_print h

end Json

namespace Schema.Reader

open Json

/-! ## What can be written -/

/-- Some tree stands for it that can be printed. -/
def Expressible (writes : Value → Prop) : Prop := ∃ value, writes value ∧ value.Printable

@[simp] theorem expressible_text (text : String) : Expressible (WrittenText text) :=
  ⟨.string (.ofText text), ⟨_, rfl, StringToken.text_ofText text⟩,
    List.forall_mem_singleton.mpr (Token.printable_string text)⟩

@[simp] theorem expressible_flag (flag : Bool) : Expressible (WrittenFlag flag) := by
  refine ⟨.bool flag, rfl, List.forall_mem_singleton.mpr (Token.printable_of_mem ?_)⟩
  cases flag <;> decide

@[simp] theorem expressible_optionalText (text : Option String) :
    Expressible (WrittenOptionalText text) := by
  cases text with
  | none =>
    exact ⟨.null, .none, List.forall_mem_singleton.mpr (Token.printable_of_mem (by decide))⟩
  | some text =>
    obtain ⟨value, hvalue, hprintable⟩ := expressible_text text
    exact ⟨value, .some hvalue, hprintable⟩

theorem exists_writtenItems {α : Type} {writes : α → Value → Prop} {as : List α}
    (h : ∀ a ∈ as, Expressible (writes a)) (first : Bool) :
    ∃ items, WrittenItems writes as items ∧ ∀ token ∈ items.tokens first, token.Printable := by
  induction as generalizing first with
  | nil =>
    exact ⟨.closed, .closed, List.forall_mem_singleton.mpr (Token.printable_of_mem (by decide))⟩
  | cons a rest ih =>
    rw [List.forall_mem_cons] at h
    obtain ⟨value, hvalue, hprintable⟩ := h.1
    obtain ⟨items, hitems, hrest⟩ := ih h.2 false
    refine ⟨.item value items, .item hvalue hitems, ?_⟩
    rw [Items.tokens, List.forall_mem_append, List.forall_mem_append]
    exact ⟨printable_separator first, hprintable, hrest⟩

theorem expressible_list {α : Type} {writes : α → Value → Prop} {as : List α}
    (h : ∀ a ∈ as, Expressible (writes a)) : Expressible (WrittenList writes as) := by
  obtain ⟨items, hitems, hprintable⟩ := exists_writtenItems h true
  exact ⟨.list items, ⟨items, rfl, hitems⟩,
    List.forall_mem_cons.mpr ⟨Token.printable_of_mem (by decide), hprintable⟩⟩

theorem exists_writtenMembers {fields : List WrittenField}
    (h : ∀ field ∈ fields, Expressible field.writes) (known : List String) (first : Bool) :
    ∃ members, WrittenMembers known fields members ∧
      ∀ token ∈ members.tokens first, token.Printable := by
  induction fields generalizing first with
  | nil =>
    exact ⟨.closed, .closed (List.forall_mem_nil _),
      List.forall_mem_singleton.mpr (Token.printable_of_mem (by decide))⟩
  | cons field rest ih =>
    rw [List.forall_mem_cons] at h
    obtain ⟨value, hvalue, hprintable⟩ := h.1
    obtain ⟨members, hmembers, hrest⟩ := ih h.2 false
    have hfield : WrittenMembers known ([] ++ field :: rest)
        (.member (.ofText field.key) value members) :=
      .field (StringToken.text_ofText field.key) hvalue hmembers
    refine ⟨_, hfield, ?_⟩
    simp only [Members.tokens, List.forall_mem_append, List.forall_mem_cons]
    exact ⟨printable_separator first, Token.printable_string field.key,
      Token.printable_of_mem (by decide), hprintable, hrest⟩

theorem expressible_record {fields : List WrittenField}
    (h : ∀ field ∈ fields, Expressible field.writes) : Expressible (WrittenRecord fields) := by
  obtain ⟨members, hmembers, hprintable⟩ := exists_writtenMembers h _ true
  exact ⟨.object members, ⟨members, rfl, hmembers⟩,
    List.forall_mem_cons.mpr ⟨Token.printable_of_mem (by decide), hprintable⟩⟩

theorem expressible_parameters (parameters : List Parameter) :
    Expressible (WrittenParameters parameters) := by
  refine expressible_list fun parameter _ => expressible_record ?_
  simp [parameterFields, WrittenType]

theorem expressible_semantics (semantics : Semantics) :
    Expressible (WrittenRecord (semanticsFields semantics)) := by
  refine expressible_record ?_
  have haccessor : ∀ accessor, Expressible (WrittenRecord (accessorFields accessor)) := by
    intro accessor
    refine expressible_record ?_
    simp [accessorFields, WrittenType]
  cases semantics <;>
    simp [semanticsFields, kindFields, WrittenType, haccessor]

theorem expressible_class (decl : ClassDecl) : Expressible (WrittenClass decl) := by
  have hproperty : ∀ property, Expressible (WrittenRecord (propertyFields property)) := by
    intro property
    refine expressible_record ?_
    simp [propertyFields, WrittenType]
  have hfunction : ∀ function, Expressible (WrittenRecord (functionFields function)) := by
    intro function
    refine expressible_record ?_
    simp [functionFields, expressible_parameters, expressible_semantics]
  have hrecord : Expressible (WrittenRecord (classFields decl decl.supertypes.toList)) := by
    refine expressible_record ?_
    simp only [classFields, WrittenField.required, WrittenField.defaulted, List.forall_mem_cons]
    exact ⟨expressible_text _, expressible_list fun _ _ => expressible_text _,
      expressible_list fun _ _ => hproperty _, expressible_list fun _ _ => hfunction _,
      List.forall_mem_nil _⟩
  obtain ⟨value, hvalue, hprintable⟩ := hrecord
  exact ⟨value, ⟨_, fun _ => Iff.rfl, hvalue⟩, hprintable⟩

theorem expressible_declarations (decls : Declarations) :
    Expressible (WrittenRecord (declarationsFields decls)) := by
  refine expressible_record ?_
  simp only [declarationsFields, WrittenField.required, WrittenField.defaulted,
    List.forall_mem_cons]
  refine ⟨expressible_text _, expressible_list fun decl _ => expressible_class decl,
    expressible_list fun function _ => expressible_record ?_,
    expressible_list fun external _ => expressible_record ?_, List.forall_mem_nil _⟩
  · simp [topLevelFunctionFields, expressible_parameters, expressible_semantics]
  · simp [externalFields, WrittenType]

end Schema.Reader

theorem Declarations.exists_written (decls : Declarations) : ∃ text, decls.Written text := by
  obtain ⟨value, hvalue, hprintable⟩ := Schema.Reader.expressible_declarations decls
  exact ⟨Json.print value, value, Json.spells_print hprintable, hvalue⟩

/-- Declarations can be written in some text, and all texts in which they are written have their
schema, or their error. -/
theorem Schema.ofText_eq_ofDeclarations {decls : Declarations} (hdecls : decls.Writable) :
    (∃ text, decls.Written text) ∧
      ∀ text, decls.Written text → ofText text = ofDeclarations decls := by
  refine ⟨decls.exists_written, ?_⟩
  intro text htext
  rw [ofText, declarationsOfText_written hdecls htext]

namespace Sample

def paneRef : TypeRef := .named ⟨"ui", "Pane"⟩

def paneOf : MemberFunction := ⟨"of", [], .builder paneRef, false⟩

def pane : ClassDecl := ⟨⟨"ui", "Pane"⟩, .empty, [], [paneOf]⟩

def panes : Declarations := ⟨⟨"ui", "Pane"⟩, [pane], [], []⟩

/-- The classes come before the class of the top level and their members before their names; a kind
comes last, one list is written although it is empty, and nobody knows a color. -/
def panesText : String :=
  "\x7b\"data_classes\":[\x7b\"color\":\"red\"," ++
  "\"member_functions\":[\x7b\"semantics\":\x7b" ++
  "\"return_value_type\":\"ui.Pane\",\"kind\":\"builder\"\x7d," ++
  "\"name\":\"of\"\x7d],\"name\":\"ui.Pane\"\x7d]," ++
  "\"external_objects\":[],\"top_level_receiver_type\":\"ui.Pane\"\x7d"

section Values

open Json

def builderValue : Value :=
  .object <| .member (.ofText "return_value_type") (.string (.ofText "ui.Pane")) <|
    .member (.ofText "kind") (.string (.ofText "builder")) .closed

def paneOfValue : Value :=
  .object <| .member (.ofText "semantics") builderValue <|
    .member (.ofText "name") (.string (.ofText "of")) .closed

def paneValue : Value :=
  .object <| .member (.ofText "color") (.string (.ofText "red")) <|
    .member (.ofText "member_functions") (.list (.item paneOfValue .closed)) <|
    .member (.ofText "name") (.string (.ofText "ui.Pane")) .closed

def panesValue : Value :=
  .object <| .member (.ofText "data_classes") (.list (.item paneValue .closed)) <|
    .member (.ofText "external_objects") (.list .closed) <|
    .member (.ofText "top_level_receiver_type") (.string (.ofText "ui.Pane")) .closed

theorem spells_panesText : Spells panesText panesValue := by
  have hprintable : panesValue.Printable := by
    simp [Value.Printable, panesValue, paneValue, paneOfValue, builderValue, Value.tokens,
      Items.tokens, Members.tokens, separator, Token.printable_of_mem]
  have htext : panesText = print panesValue := by decide +kernel
  rw [htext]
  exact spells_print hprintable

end Values

open Json Schema.Reader StringToken in
theorem written_panesValue : WrittenRecord (declarationsFields panes) panesValue := by
  have htext (text : String) : WrittenText text (.string (.ofText text)) :=
    ⟨_, rfl, text_ofText text⟩
  have hsemantics : WrittenRecord (semanticsFields (.builder paneRef)) builderValue := by
    refine ⟨_, rfl, @WrittenMembers.field _ [_] [] _ _ _ _ (text_ofText _) (htext "ui.Pane") ?_⟩
    refine @WrittenMembers.field _ [] [] _ _ _ _ (text_ofText _) (htext "builder") ?_
    exact .closed (List.forall_mem_nil _)
  have hfunction : WrittenRecord (functionFields paneOf) paneOfValue := by
    refine ⟨_, rfl, @WrittenMembers.field _ [_, _] [_] _ _ _ _ (text_ofText _) hsemantics ?_⟩
    refine @WrittenMembers.field _ [] [_, _] _ _ _ _ (text_ofText _) (htext "of") ?_
    exact .closed (by simp [paneOf])
  have hclass : WrittenClass pane paneValue := by
    refine ⟨[], by simp [pane, NameSet.empty], _, rfl, ?_⟩
    refine .extra (text_ofText "color") (by decide) (htext "red") ?_
    refine @WrittenMembers.field _ [_, _, _] [] _ _ _ _ (text_ofText _)
      ⟨_, rfl, .item hfunction .closed⟩ ?_
    refine @WrittenMembers.field _ [] [_, _] _ _ _ _ (text_ofText _) (htext "ui.Pane") ?_
    exact .closed (by simp [pane])
  refine ⟨_, rfl, @WrittenMembers.field _ [_] [_, _] _ _ _ _ (text_ofText _)
    ⟨_, rfl, .item hclass .closed⟩ ?_⟩
  refine @WrittenMembers.field _ [_, _] [] _ _ _ _ (text_ofText _) ⟨_, rfl, .closed⟩ ?_
  refine @WrittenMembers.field _ [] [_] _ _ _ _ (text_ofText _) (htext "ui.Pane") ?_
  exact .closed (by simp [panes])

end Sample

theorem Schema.sample_ofText_eq_ofDeclarations :
    Sample.panes.Writable ∧ Sample.panes.Written Sample.panesText ∧
      ofText Sample.panesText = ofDeclarations Sample.panes := by
  have hdecls : Sample.panes.Writable := by
    refine ⟨?_, ?_⟩
    · simp [Declarations.names, Sample.panes, Sample.pane, NameSet.empty, QualifiedName.DotFree]
    · simp [Declarations.references, Sample.panes, Sample.pane, Sample.paneOf, Sample.paneRef,
        ClassDecl.references, signatureReferences, Semantics.references, TypeRef.Writable,
        QualifiedName.DotFree, QualifiedName.render, builtinTexts]
  have htext : Sample.panes.Written Sample.panesText :=
    ⟨_, Sample.spells_panesText, Sample.written_panesValue⟩
  exact ⟨hdecls, htext, (ofText_eq_ofDeclarations hdecls).2 _ htext⟩

end ConfigScope
