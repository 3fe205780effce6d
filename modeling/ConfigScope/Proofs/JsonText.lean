import ConfigScope.Json.Tree

/-!
# Texts and the trees they spell

Which texts spell a tree: those that hold its tokens one after another, with blanks
and escapes wherever they may stand. The scanner finds the tokens of such a text
again (`SpellsAll.run`), and they are put together to the same tree
(`Value.treeOf_tokens`). Hence the tree of a text is the one that the text spells
(`parse_of_spells`).

Numbers have no spelling here. Where one ends is only known from what follows it.
-/

namespace ConfigScope.Json

/-! ## Spellings -/

def shortEscapes : List (Char × Char) :=
  [('"', '"'), ('\\', '\\'), ('/', '/'), ('b', '\x08'), ('f', '\x0c'), ('n', '\n'), ('r', '\r'),
    ('t', '\t')]

/-- A hexadecimal digit of some value, in either case. -/
def HexDigit (c : Char) (value : Nat) : Prop :=
  "0123456789abcdef".toList[value]? = some c ∨ "0123456789ABCDEF".toList[value]? = some c

inductive Piece.Spells : Piece → List Char → Prop
  | plain {c} : c ≠ '"' → c ≠ '\\' → 0x20 ≤ c.toNat → Spells (.char c) [c]
  | short {mark c} : (mark, c) ∈ shortEscapes → Spells (.char c) ['\\', mark]
  | unit {a b c d w x y z} : HexDigit a w → HexDigit b x → HexDigit c y → HexDigit d z →
      Spells (.unit (((w * 16 + x) * 16 + y) * 16 + z)) ['\\', 'u', a, b, c, d]

inductive SpellsPieces : List Piece → List Char → Prop
  | nil : SpellsPieces [] []
  | cons {piece pieces chars rest} : piece.Spells chars → SpellsPieces pieces rest →
      SpellsPieces (piece :: pieces) (chars ++ rest)

inductive Token.Spells : Token → List Char → Prop
  | openList : Spells .openList ['[']
  | closeList : Spells .closeList [']']
  | openObject : Spells .openObject ['\x7b']
  | closeObject : Spells .closeObject ['\x7d']
  | comma : Spells .comma [',']
  | colon : Spells .colon [':']
  | null : Spells .null ['n', 'u', 'l', 'l']
  | true : Spells (.bool true) ['t', 'r', 'u', 'e']
  | false : Spells (.bool false) ['f', 'a', 'l', 's', 'e']
  | string {pieces chars} : SpellsPieces pieces chars →
      Spells (.string ⟨pieces, .closed⟩) ('"' :: chars ++ ['"'])

/-- Tokens one after another, with blanks around them. -/
inductive SpellsAll : List Token → List Char → Prop
  | nil : SpellsAll [] []
  | blank {c tokens rest} : c ∈ [' ', '\n', '\t', '\r'] → SpellsAll tokens rest →
      SpellsAll tokens (c :: rest)
  | token {token tokens chars rest} : token.Spells chars → SpellsAll tokens rest →
      SpellsAll (token :: tokens) (chars ++ rest)

def Token.Spellable (token : Token) : Prop := ∃ chars, token.Spells chars

theorem SpellsAll.spellable {tokens : List Token} {chars : List Char} (h : SpellsAll tokens chars) :
    ∀ token ∈ tokens, token.Spellable := by
  induction h with
  | nil => exact List.forall_mem_nil _
  | blank _ _ ih => exact ih
  | token htoken _ ih => exact List.forall_mem_cons.mpr ⟨⟨_, htoken⟩, ih⟩

def separator (first : Bool) : List Token := if first then [] else [.comma]

mutual

/-- The tokens of a tree in the order of its text. A break has one that nothing spells. -/
def Value.tokens : Value → List Token
  | .null => [.null]
  | .bool b => [.bool b]
  | .number n => [.number n]
  | .string s => [.string s]
  | .list items => .openList :: items.tokens true
  | .object members => .openObject :: members.tokens true
  | .broken _ => [.stray]

def Items.tokens (first : Bool) : Items → List Token
  | .closed => [.closeList]
  | .item value rest => separator first ++ (value.tokens ++ rest.tokens false)
  | .broken _ => [.stray]

def Members.tokens (first : Bool) : Members → List Token
  | .closed => [.closeObject]
  | .member key value rest =>
    separator first ++ (.string key :: .colon :: (value.tokens ++ rest.tokens false))
  | .broken _ => [.stray]

end

/-- A text spells a value and nothing else. -/
def Spells (text : String) (value : Value) : Prop :=
  SpellsAll value.tokens text.toList

/-! ## Scanning -/

namespace Scanner

variable {scanner next : Scanner} {c : Char} {token : Token} {rest : List Char}

theorem run_go (h : scanner.step c = go next) : scanner.run (c :: rest) = next.run rest := by
  rw [run, h]
  rfl

theorem run_emit (h : scanner.step c = emit token) :
    scanner.run (c :: rest) = token :: between.run rest := by
  rw [run, h]
  rfl

end Scanner

open Scanner

theorem shortEscape?_of_mem {mark c : Char} (h : (mark, c) ∈ shortEscapes) :
    shortEscape? mark = some c := by
  simp only [shortEscapes, List.mem_cons, List.not_mem_nil, or_false, Prod.mk.injEq] at h
  rcases h with ⟨rfl, rfl⟩ | ⟨rfl, rfl⟩ | ⟨rfl, rfl⟩ | ⟨rfl, rfl⟩ | ⟨rfl, rfl⟩ | ⟨rfl, rfl⟩ |
    ⟨rfl, rfl⟩ | ⟨rfl, rfl⟩ <;> rfl

theorem HexDigit.value {c : Char} {value : Nat} (h : HexDigit c value) :
    hexDigit? c = some value ∧ c.utf8Size = 1 := by
  have hlower : ∀ i, hexDigit? ("0123456789abcdef".toList.get i) = some i.val ∧
      ("0123456789abcdef".toList.get i).utf8Size = 1 := by decide
  have hupper : ∀ i, hexDigit? ("0123456789ABCDEF".toList.get i) = some i.val ∧
      ("0123456789ABCDEF".toList.get i).utf8Size = 1 := by decide
  rcases h with h | h
  · obtain ⟨hlt, rfl⟩ := List.getElem?_eq_some_iff.mp h
    exact hlower ⟨value, hlt⟩
  · obtain ⟨hlt, rfl⟩ := List.getElem?_eq_some_iff.mp h
    exact hupper ⟨value, hlt⟩

theorem run_unit {c : Char} {digit bytes value : Nat} (h : HexDigit c digit) (hbytes : bytes < 3)
    (done : List Piece) (rest : List Char) :
    (unit done bytes (some value)).run (c :: rest) =
      (unit done (bytes + 1) (some (value * 16 + digit))).run rest := by
  obtain ⟨hvalue, hsize⟩ := h.value
  refine run_go ?_
  simp [step, stepUnit, hvalue, hsize, Nat.succ_lt_succ hbytes]

theorem Piece.Spells.run {piece : Piece} {chars : List Char} (h : piece.Spells chars)
    (done : List Piece) (rest : List Char) :
    (string done).run (chars ++ rest) = (string (piece :: done)).run rest := by
  cases h with
  | @plain c hquote hslash hcontrol =>
    refine run_go ?_
    simp [step, hquote, hslash, Nat.not_lt.mpr hcontrol]
  | @short mark c hescape =>
    have hstep : (escape done).step mark = go (string (.char c :: done)) := by
      simp [step, shortEscape?_of_mem hescape]
    exact (run_go rfl).trans (run_go hstep)
  | @unit a b c d w x y z ha hb hc hd =>
    obtain ⟨hvalue, hsize⟩ := hd.value
    have hlast : (Scanner.unit done 3 (some ((w * 16 + x) * 16 + y))).step d =
        go (string (.unit (((w * 16 + x) * 16 + y) * 16 + z) :: done)) := by
      simp [step, stepUnit, hvalue, hsize]
    -- one step for each of the digits, with the value of those read so far
    calc (string done).run ('\\' :: 'u' :: a :: b :: c :: d :: rest)
      _ = (Scanner.unit done 0 (some 0)).run (a :: b :: c :: d :: rest) := rfl
      _ = (Scanner.unit done 1 (some w)).run (b :: c :: d :: rest) := by
        rw [run_unit ha (by decide)]
        simp only [Nat.zero_mul, Nat.zero_add]
      _ = (Scanner.unit done 2 (some (w * 16 + x))).run (c :: d :: rest) :=
        run_unit hb (by decide) ..
      _ = (Scanner.unit done 3 (some ((w * 16 + x) * 16 + y))).run (d :: rest) :=
        run_unit hc (by decide) ..
      _ = (string (.unit (((w * 16 + x) * 16 + y) * 16 + z) :: done)).run rest := run_go hlast

theorem SpellsPieces.run {pieces : List Piece} {chars : List Char} (h : SpellsPieces pieces chars)
    (done : List Piece) (rest : List Char) :
    (string done).run (chars ++ '"' :: rest) =
      .string ⟨done.reverse ++ pieces, .closed⟩ :: between.run rest := by
  induction h generalizing done with
  | nil =>
    rw [List.append_nil]
    exact run_emit rfl
  | cons hpiece _ ih =>
    rw [List.append_assoc, hpiece.run, ih]
    simp

theorem Token.Spells.run {token : Token} {chars : List Char} (h : token.Spells chars)
    (rest : List Char) : between.run (chars ++ rest) = token :: between.run rest := by
  cases h with
  | @string pieces chars hpieces =>
    have hquoted : '"' :: chars ++ ['"'] ++ rest = '"' :: (chars ++ '"' :: rest) := by simp
    rw [hquoted]
    exact (run_go rfl).trans (hpieces.run [] rest)
  | _ => rfl

theorem SpellsAll.run {tokens : List Token} {chars : List Char} (h : SpellsAll tokens chars) :
    between.run chars = tokens := by
  induction h with
  | nil => rfl
  | @blank c tokens rest hblank _ ih =>
    have hstart : between.step c = go between := by
      simp only [List.mem_cons, List.not_mem_nil, or_false] at hblank
      rcases hblank with rfl | rfl | rfl | rfl <;> rfl
    rw [run_go hstart, ih]
  | token htoken _ ih => rw [htoken.run, ih]

/-! ## Building the tree -/

/-- Goes on from where reading stands. -/
def Progress.resume (rest : List Token) : Progress → Value × Bool
  | .more frames stage => treeOf frames stage rest
  | .whole value => (value, !rest.isEmpty)
  | .stop value => (value, false)

theorem treeOf_cons (frames : List Frame) (stage : Stage) (token : Token) (rest : List Token) :
    treeOf frames stage (token :: rest) = (readToken frames stage token).resume rest := by
  rw [treeOf]
  cases readToken frames stage token <;> rfl

def Stage.TakesValue (stage : Stage) : Prop := stage = .value ∨ stage = .itemOrClose

theorem readToken_of_takesValue {stage : Stage} (hstage : stage.TakesValue) {token : Token}
    (htoken : token ≠ .closeList) (frames : List Frame) :
    readToken frames stage token = readValue frames token := by
  rcases hstage with rfl | rfl <;> rcases frames with _ | ⟨_ | _ | _, _⟩ <;>
    cases token <;> first | rfl | contradiction

theorem treeOf_value {stage : Stage} (hstage : stage.TakesValue) {token : Token}
    (htoken : token ≠ .closeList) (frames : List Frame) (rest : List Token) :
    treeOf frames stage (token :: rest) = (readValue frames token).resume rest := by
  rw [treeOf_cons, readToken_of_takesValue hstage htoken]

theorem Token.Spellable.ending {s : StringToken} (h : (Token.string s).Spellable) :
    s.ending = .closed := by
  obtain ⟨_, hspells⟩ := h
  cases hspells
  rfl

theorem treeOf_key {stage : Stage} (hstage : stage = .keyOrClose ∨ stage = .key)
    {key : StringToken} (hkey : key.ending = .closed) (done : List (StringToken × Value))
    (frames : List Frame) (rest : List Token) :
    treeOf (.object done :: frames) stage (.string key :: .colon :: rest) =
      treeOf (.member done key :: frames) .value rest := by
  have hread : readToken (.object done :: frames) stage (.string key) =
      .more (.member done key :: frames) .colon := by
    rcases hstage with rfl | rfl <;> exact if_pos hkey
  rw [treeOf_cons, hread]
  exact treeOf_cons _ .colon .colon rest

-- Numbers and breaks are ruled out in each of the three, as nothing spells their tokens.

mutual

theorem Value.treeOf_tokens (value : Value) (h : ∀ token ∈ value.tokens, token.Spellable)
    {stage : Stage} (hstage : stage.TakesValue) (frames : List Frame) (rest : List Token) :
    treeOf frames stage (value.tokens ++ rest) = (place value frames).resume rest := by
  match value with
  | .null => exact treeOf_value hstage (by decide) frames rest
  | .bool b => exact treeOf_value hstage (by simp) frames rest
  | .number n =>
    obtain ⟨_, hspells⟩ := h (.number n) List.mem_cons_self
    cases hspells
  | .string s =>
    have hclosed := (h (.string s) List.mem_cons_self).ending
    refine (treeOf_value hstage (by simp) frames rest).trans ?_
    rw [readValue, if_pos hclosed]
  | .list items =>
    rw [Value.tokens, List.forall_mem_cons] at h
    refine (treeOf_value hstage (by decide) frames _).trans ?_
    exact items.treeOf_tokens true h.2 [] frames rest
  | .object members =>
    rw [Value.tokens, List.forall_mem_cons] at h
    refine (treeOf_value hstage (by decide) frames _).trans ?_
    exact members.treeOf_tokens true h.2 [] frames rest
  | .broken _ =>
    obtain ⟨_, hspells⟩ := h .stray List.mem_cons_self
    cases hspells

theorem Items.treeOf_tokens (items : Items) (first : Bool)
    (h : ∀ token ∈ items.tokens first, token.Spellable) (done : List Value) (frames : List Frame)
    (rest : List Token) :
    treeOf (.list done :: frames) (if first then .itemOrClose else .separator)
        (items.tokens first ++ rest) =
      (place (.list (.ofDone done items)) frames).resume rest := by
  match items with
  | .closed => cases first <;> exact treeOf_cons ..
  | .item value items =>
    rw [Items.tokens, List.forall_mem_append, List.forall_mem_append] at h
    have hitem {stage : Stage} (hstage : stage.TakesValue) :=
      (value.treeOf_tokens h.2.1 hstage (.list done :: frames) (items.tokens false ++ rest)).trans
        (items.treeOf_tokens false h.2.2 (value :: done) frames rest)
    rw [Items.tokens, List.append_assoc, List.append_assoc]
    cases first with
    | true => exact hitem (.inr rfl)
    | false => exact (treeOf_cons ..).trans (hitem (.inl rfl))
  | .broken _ =>
    obtain ⟨_, hspells⟩ := h .stray List.mem_cons_self
    cases hspells

theorem Members.treeOf_tokens (members : Members) (first : Bool)
    (h : ∀ token ∈ members.tokens first, token.Spellable) (done : List (StringToken × Value))
    (frames : List Frame) (rest : List Token) :
    treeOf (.object done :: frames) (if first then .keyOrClose else .separator)
        (members.tokens first ++ rest) =
      (place (.object (.ofDone done members)) frames).resume rest := by
  match members with
  | .closed => cases first <;> exact treeOf_cons ..
  | .member key value members =>
    rw [Members.tokens, List.forall_mem_append, List.forall_mem_cons, List.forall_mem_cons,
      List.forall_mem_append] at h
    obtain ⟨-, hkey, -, hvalue, hmembers⟩ := h
    have hmember {stage : Stage} (hstage : stage = .keyOrClose ∨ stage = .key) :=
      (treeOf_key hstage hkey.ending done frames _).trans
        ((value.treeOf_tokens hvalue (.inl rfl) _ (members.tokens false ++ rest)).trans
          (members.treeOf_tokens false hmembers ((key, value) :: done) frames rest))
    rw [Members.tokens, List.append_assoc, List.cons_append, List.cons_append, List.append_assoc]
    cases first with
    | true => exact hmember (.inl rfl)
    | false => exact (treeOf_cons ..).trans (hmember (.inr rfl))
  | .broken _ =>
    obtain ⟨_, hspells⟩ := h .stray List.mem_cons_self
    cases hspells

end

theorem parse_of_spells {text : String} {value : Value} (h : Spells text value) :
    parse text = (value, false) := by
  rw [parse, tokens, SpellsAll.run h, ← List.append_nil value.tokens]
  exact value.treeOf_tokens h.spellable (.inl rfl) [] []

end ConfigScope.Json
