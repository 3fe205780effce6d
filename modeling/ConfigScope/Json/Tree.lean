import ConfigScope.Json.Token

/-!
# JSON text as a tree

The tree of a text has a place for every way in which the text may break off:
instead of a value, instead of a list separator, instead of a key or an object
separator. A reader that walks the tree in the order of the text therefore
meets the same things, in the same order, as one that reads the text itself.

After a break nothing follows; the lists around it are taken as closed.
-/

namespace ConfigScope.Json

/-- What stands where a value should stand. -/
inductive NoValue where
  | cutOff
  | stray
  | badWord
  | cutWord
  | badNumber
  | cutNumber
  | noColon
  | cutBeforeColon
  deriving DecidableEq

/-- What stands where a list should go on or end. -/
inductive ListBreak where
  | cutOff
  | noComma
  | commaThenClose
  | commaThenEnd
  deriving DecidableEq

/-- What stands where an object should go on or end. -/
inductive ObjectBreak where
  | cutOff
  | noComma
  | noKey
  | commaThenClose
  | commaThenEnd
  deriving DecidableEq

mutual

inductive Value where
  | null
  | bool (value : Bool)
  | number (numeral : Numeral)
  | string (string : StringToken)
  | list (items : Items)
  | object (members : Members)
  | broken (cause : NoValue)

inductive Items where
  | closed
  | item (value : Value) (rest : Items)
  | broken (cause : ListBreak)

inductive Members where
  | closed
  | member (key : StringToken) (value : Value) (rest : Members)
  | broken (cause : ObjectBreak)

end

/-- A list or object of which the beginning has been read. -/
inductive Frame where
  | list (done : List Value)
  | object (done : List (StringToken × Value))
  | member (done : List (StringToken × Value)) (key : StringToken)

/-- What the text has to bring next. -/
inductive Stage where
  | value
  | itemOrClose
  | keyOrClose
  | key
  | colon
  | separator

def Items.ofDone (done : List Value) (last : Items) : Items :=
  done.foldl (fun rest value => .item value rest) last

def Members.ofDone (done : List (StringToken × Value)) (last : Members) : Members :=
  done.foldl (fun rest (key, value) => .member key value rest) last

/-- The whole tree around a value after which nothing is read. -/
def enclose (value : Value) : List Frame → Value
  | [] => value
  | .list done :: frames => enclose (.list (.ofDone (value :: done) .closed)) frames
  | .object done :: frames => enclose (.object (.ofDone done .closed)) frames
  | .member done key :: frames =>
    enclose (.object (.ofDone ((key, value) :: done) .closed)) frames

def breakList (cause : ListBreak) (done : List Value) (frames : List Frame) : Value :=
  enclose (.list (.ofDone done (.broken cause))) frames

def breakObject (cause : ObjectBreak) (done : List (StringToken × Value))
    (frames : List Frame) : Value :=
  enclose (.object (.ofDone done (.broken cause))) frames

/-- Where reading stands after a token. -/
inductive Progress where
  | more (frames : List Frame) (stage : Stage)
  | whole (value : Value)
  | stop (value : Value)

/-- Puts a finished value into the frame that waits for it. -/
def place (value : Value) : List Frame → Progress
  | [] => .whole value
  | .list done :: frames => .more (.list (value :: done) :: frames) .separator
  | .object done :: frames => .more (.object done :: frames) .separator
  | .member done key :: frames => .more (.object ((key, value) :: done) :: frames) .separator

def readValue (frames : List Frame) : Token → Progress
  | .null => place .null frames
  | .bool b => place (.bool b) frames
  | .number n => place (.number n) frames
  | .string s =>
    if s.ending = .closed then place (.string s) frames
    else .stop (enclose (.string s) frames)
  | .openList => .more (.list [] :: frames) .itemOrClose
  | .openObject => .more (.object [] :: frames) .keyOrClose
  | .badNumber => .stop (enclose (.broken .badNumber) frames)
  | .cutNumber => .stop (enclose (.broken .cutNumber) frames)
  | .badWord => .stop (enclose (.broken .badWord) frames)
  | .cutWord => .stop (enclose (.broken .cutWord) frames)
  | .closeList | .closeObject | .comma | .colon | .stray =>
    .stop (enclose (.broken .stray) frames)

def readKey (done : List (StringToken × Value)) (frames : List Frame) : Token → Progress
  | .string s =>
    if s.ending = .closed then .more (.member done s :: frames) .colon
    else .stop (enclose (.broken .noColon) (.member done s :: frames))
  | _ => .stop (breakObject .noKey done frames)

def readToken (frames : List Frame) (stage : Stage) (token : Token) : Progress :=
  match stage, frames, token with
  | .value, .list done :: frames, .closeList => .stop (breakList .commaThenClose done frames)
  | .value, frames, token => readValue frames token
  | .itemOrClose, .list done :: frames, .closeList => place (.list (.ofDone done .closed)) frames
  | .itemOrClose, frames, token => readValue frames token
  | .keyOrClose, .object done :: frames, .closeObject =>
    place (.object (.ofDone done .closed)) frames
  | .keyOrClose, .object done :: frames, token => readKey done frames token
  | .key, .object done :: frames, .closeObject => .stop (breakObject .commaThenClose done frames)
  | .key, .object done :: frames, token => readKey done frames token
  | .colon, frames, .colon => .more frames .value
  | .colon, frames, _ => .stop (enclose (.broken .noColon) frames)
  | .separator, .list done :: frames, .closeList => place (.list (.ofDone done .closed)) frames
  | .separator, .list done :: frames, .comma => .more (.list done :: frames) .value
  | .separator, .list done :: frames, _ => .stop (breakList .noComma done frames)
  | .separator, .object done :: frames, .closeObject =>
    place (.object (.ofDone done .closed)) frames
  | .separator, .object done :: frames, .comma => .more (.object done :: frames) .key
  | .separator, .object done :: frames, _ => .stop (breakObject .noComma done frames)
  | _, frames, _ => .stop (enclose (.broken .stray) frames)

def atEnd (frames : List Frame) (stage : Stage) : Value :=
  match stage, frames with
  | .value, .list done :: frames => breakList .commaThenEnd done frames
  | .itemOrClose, .list done :: frames | .separator, .list done :: frames =>
    breakList .cutOff done frames
  | .keyOrClose, .object done :: frames | .separator, .object done :: frames =>
    breakObject .cutOff done frames
  | .key, .object done :: frames => breakObject .commaThenEnd done frames
  | .colon, frames => enclose (.broken .cutBeforeColon) frames
  | _, frames => enclose (.broken .cutOff) frames

/-- The tree of a list of tokens, and whether more tokens follow it. -/
def treeOf (frames : List Frame) (stage : Stage) : List Token → Value × Bool
  | [] => (atEnd frames stage, false)
  | token :: rest =>
    match readToken frames stage token with
    | .more frames stage => treeOf frames stage rest
    | .whole value => (value, !rest.isEmpty)
    | .stop value => (value, false)

/-- The first value of a text, and whether anything but blanks follows it. -/
def parse (text : String) : Value × Bool :=
  treeOf [] .value (tokens text)

end ConfigScope.Json
