import LispDatum.Json.Token

/-!
# JSON documents

A document is one JSON value.  Its tokens are taken one by one; what has been
taken so far is a stage: the enclosing arrays and objects that are still open,
and what may come next.
-/

namespace LispDatum.Json

/-- An array or object that waits for a value, with what it has already, last
part first. -/
inductive Frame where
  | array (items : List Json)
  | member (members : List (String × Json)) (key : String)

/-- What has been taken from a document; the open arrays and objects are listed
from the inside out. -/
inductive Stage where
  | valueDue (frames : List Frame)
  /-- An array was just opened. -/
  | itemOrEnd (frames : List Frame)
  /-- An array has an item more. -/
  | afterItem (items : List Json) (frames : List Frame)
  /-- An object was just opened. -/
  | keyOrEnd (frames : List Frame)
  /-- The key of a further member is due. -/
  | keyDue (members : List (String × Json)) (frames : List Frame)
  /-- The colon after a key is due. -/
  | colonDue (members : List (String × Json)) (key : String)
      (frames : List Frame)
  /-- An object has a member more. -/
  | afterMember (members : List (String × Json)) (frames : List Frame)
  | complete (value : Json)

namespace Stage

/-- A value ends inside the given open arrays and objects. -/
def close (value : Json) : List Frame → Stage
  | [] => .complete value
  | .array items :: frames => .afterItem (value :: items) frames
  | .member members key :: frames =>
    .afterMember ((key, value) :: members) frames

def takeValue (frames : List Frame) : Token → Option Stage
  | .scalar value => some (close value frames)
  | .string contents => some (close (.string contents) frames)
  | .openArray => some (.itemOrEnd frames)
  | .openObject => some (.keyOrEnd frames)
  | _ => none

/-- Take the first part of an array or object, which is then one level deeper
than the given open ones. -/
def descend (limits : Limits) (frames : List Frame) (stage : Option Stage) :
    Option Stage :=
  if limits.allowsDepth (frames.length + 1) then stage else none

def take (limits : Limits) : Stage → Token → Option Stage
  | .valueDue frames, token => takeValue frames token
  | .itemOrEnd frames, .closeArray => some (close (.array []) frames)
  | .itemOrEnd frames, token =>
    descend limits frames (takeValue (.array [] :: frames) token)
  | .afterItem items frames, .comma => some (.valueDue (.array items :: frames))
  | .afterItem items frames, .closeArray =>
    some (close (.array items.reverse) frames)
  | .keyOrEnd frames, .closeObject => some (close (.object []) frames)
  | .keyOrEnd frames, .string key =>
    descend limits frames (some (.colonDue [] key frames))
  | .keyDue members frames, .string key => some (.colonDue members key frames)
  | .colonDue members key frames, .colon =>
    some (.valueDue (.member members key :: frames))
  | .afterMember members frames, .comma => some (.keyDue members frames)
  | .afterMember members frames, .closeObject =>
    some (close (.object members.reverse) frames)
  | _, _ => none

end Stage

/-- The value of a sequence of tokens, if they form one document. -/
def ofTokens? (limits : Limits) (tokens : List Token) : Option Json :=
  match tokens.foldlM (Stage.take limits) (.valueDue []) with
  | some (.complete value) => some value
  | _ => none

/-- The value of a text, if the text is one document within the limits. -/
def parse? (limits : Limits) (text : String) : Option Json := do
  ofTokens? limits (← tokens? limits text.toList)

end LispDatum.Json
