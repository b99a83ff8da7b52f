import DbSchema.Json.Lexer

/-!
# JSON texts as trees

The tree of a text as far as it can be told from its tokens. A list or object remembers how it
ended, so that a reader which comes to the end can say what is wrong there. Once something is wrong
nothing behind it is in the tree, because every reader stops at the first fault it comes to.
-/

namespace DbSchema.Json

/-- How a list ended: at its bracket, at a bracket behind a comma, with the input, or at something
else than a comma. -/
inductive ListEnd where
  | closed
  | closedAfterComma
  | cutOff
  | noComma
  deriving DecidableEq, Repr

/-- How an object ended: at its brace, at a brace behind a comma, with the input before or behind a
comma, at a token in place of a key, or at something else than a comma. -/
inductive ObjectEnd where
  | closed
  | closedAfterComma
  | cutOff
  | cutOffAfterComma
  | noKey (token : Token)
  | noComma
  deriving Repr

/-- A value of the tree: a leaf holds one token, and where there is no value at all its place tells
why. -/
inductive Node where
  | leaf (token : Token)
  | missing (fault : Fault)
  | list (items : List Node) (ending : ListEnd)
  | object (members : List (Quoted × Node)) (ending : ObjectEnd)
  deriving Repr

/-- A list or object around the place that is being read, its items or members latest first. The
place in an object stands behind a key. -/
inductive Frame where
  | list (items : List Node)
  | object (members : List (Quoted × Node)) (key : Quoted)

/-- The list or object of a frame, ended because of a fault in its latest value. -/
def Frame.around (latest : Node) : Frame → Node
  | list items => .list (items.reverse ++ [latest]) .cutOff
  | object members key => .object (members.reverse ++ [(key, latest)]) .cutOff

/-- The whole tree when nothing can be read behind a value, which stands in the given frames, the
nearest first. -/
def cutAt (latest : Node) (frames : List Frame) : Node :=
  frames.foldl Frame.around latest

/-- What the next token has to be, with what was read so far. `done` has read one whole value,
`trailing` has met more behind it, and `failed` has met a fault. -/
inductive Progress where
  | valueNext (frames : List Frame)
  | itemOrEnd (frames : List Frame)
  | nextItem (items : List Node) (frames : List Frame)
  | afterItem (items : List Node) (frames : List Frame)
  | keyOrEnd (frames : List Frame)
  | nextKey (members : List (Quoted × Node)) (frames : List Frame)
  | colon (members : List (Quoted × Node)) (key : Quoted) (frames : List Frame)
  | afterMember (members : List (Quoted × Node)) (frames : List Frame)
  | done (root : Node)
  | trailing (root : Node)
  | failed (root : Node)

namespace Progress

/-- Puts a complete value into the nearest frame. -/
def place (value : Node) : List Frame → Progress
  | [] => .done value
  | .list items :: frames => .afterItem (value :: items) frames
  | .object members key :: frames => .afterMember ((key, value) :: members) frames

/-- Takes a token as the start of a value. -/
def startValue (frames : List Frame) : Token → Progress
  | .mark .openList => .itemOrEnd frames
  | .mark .openObject => .keyOrEnd frames
  | .null => place (.leaf .null) frames
  | .boolean value => place (.leaf (.boolean value)) frames
  | .number value => place (.leaf (.number value)) frames
  | .text quoted => place (.leaf (.text quoted)) frames
  | token => .failed (cutAt (.leaf token) frames)

/-- Takes the next token. -/
def next (progress : Progress) (token : Token) : Progress :=
  match progress, token with
  | .valueNext frames, token => startValue frames token
  | .itemOrEnd frames, .mark .closeList => place (.list [] .closed) frames
  | .itemOrEnd frames, token => startValue (.list [] :: frames) token
  | .nextItem items frames, .mark .closeList =>
    .failed (cutAt (.list items.reverse .closedAfterComma) frames)
  | .nextItem items frames, token => startValue (.list items :: frames) token
  | .afterItem items frames, .mark .comma => .nextItem items frames
  | .afterItem items frames, .mark .closeList => place (.list items.reverse .closed) frames
  | .afterItem items frames, _ => .failed (cutAt (.list items.reverse .noComma) frames)
  | .keyOrEnd frames, .mark .closeObject => place (.object [] .closed) frames
  | .keyOrEnd frames, .text key => .colon [] key frames
  | .keyOrEnd frames, token => .failed (cutAt (.object [] (.noKey token)) frames)
  | .nextKey members frames, .mark .closeObject =>
    .failed (cutAt (.object members.reverse .closedAfterComma) frames)
  | .nextKey members frames, .text key => .colon members key frames
  | .nextKey members frames, token =>
    .failed (cutAt (.object members.reverse (.noKey token)) frames)
  | .colon members key frames, .mark .colon => .valueNext (.object members key :: frames)
  | .colon members key frames, _ =>
    .failed (cutAt (.missing .expectedColon) (.object members key :: frames))
  | .afterMember members frames, .mark .comma => .nextKey members frames
  | .afterMember members frames, .mark .closeObject =>
    place (.object members.reverse .closed) frames
  | .afterMember members frames, _ => .failed (cutAt (.object members.reverse .noComma) frames)
  | .done root, _ => .trailing root
  | .trailing root, _ => .trailing root
  | .failed root, _ => .failed root

/-- The tree when there are no more tokens. -/
def root : Progress → Node
  | valueNext frames => cutAt (.missing .endOfValue) frames
  | itemOrEnd frames => cutAt (.list [] .cutOff) frames
  | nextItem items frames => cutAt (.missing .endOfValue) (.list items :: frames)
  | afterItem items frames => cutAt (.list items.reverse .cutOff) frames
  | keyOrEnd frames => cutAt (.object [] .cutOff) frames
  | nextKey members frames => cutAt (.object members.reverse .cutOffAfterComma) frames
  | colon members key frames => cutAt (.missing .endOfObject) (.object members key :: frames)
  | afterMember members frames => cutAt (.object members.reverse .cutOff) frames
  | done root | trailing root | failed root => root

/-- Whether more tokens came behind a whole value. -/
def hasTrailing : Progress → Bool
  | trailing _ => true
  | _ => false

end Progress

/-- What a text holds: its tree, and whether more follows the value. -/
structure Document where
  root : Node
  hasTrailing : Bool

/-- The document with the given tokens. -/
def Document.ofTokens (tokens : List Token) : Document :=
  let progress := tokens.foldl Progress.next (.valueNext [])
  ⟨progress.root, progress.hasTrailing⟩

/-- The document that a text spells. -/
def Document.ofText (text : String) : Document :=
  ofTokens (tokens text.toList)

end DbSchema.Json
