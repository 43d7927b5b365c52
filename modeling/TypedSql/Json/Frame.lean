import TypedSql.Json.Draft
import TypedSql.Json.Token

/-!
# Drafts from tokens

Tokens are read one at a time. The arrays and objects that are still open lie in
a stack of frames, and a stage says what may come next. A token that may not
come, or the end of the text, breaks every open frame off.
-/

namespace TypedSql.Draft

/-- An array or object that is still open: what was read of it, last first, and
the key of the member that is being read. -/
inductive Frame where
  | array (before : List Draft)
  | object (before : List (Option String × Draft)) (key : Option String)

/-- Closes a frame behind its last value. -/
def Frame.close (last : Draft) : Frame → Draft
  | array before => .array (before.reverse ++ [last])
  | object before key => .object (before.reverse ++ [(key, last)])

/-- What may come next within the innermost frame. -/
inductive Stage where
  /-- A value. -/
  | value
  /-- The first item or the end of an array. -/
  | firstItem
  /-- The first key or the end of an object. -/
  | firstKey
  /-- A further key of an object. -/
  | key (before : List (Option String × Draft))
  /-- The colon behind a key. -/
  | colon (before : List (Option String × Draft)) (key : Option String)
  /-- What follows a value within the innermost frame. -/
  | done (value : Draft)

namespace Stage

def start (frames : List Frame) : JsonToken → Option (Stage × List Frame)
  | .null => some (done .null, frames)
  | .bool flag => some (done (.bool flag), frames)
  | .number finite => some (done (.number finite), frames)
  | .text content => some (done (.text content), frames)
  | .openArray => some (firstItem, frames)
  | .openObject => some (firstKey, frames)
  | _ => none

/-- The stage and the frames after a token, if the token may come. -/
def next (frames : List Frame) (token : JsonToken) : Stage → Option (Stage × List Frame)
  | value => start frames token
  | firstItem =>
      match token with
      | .closeArray => some (done (.array []), frames)
      | _ => start (.array [] :: frames) token
  | firstKey =>
      match token with
      | .closeObject => some (done (.object []), frames)
      | .text name => some (colon [] name, frames)
      | _ => none
  | key before =>
      match token with
      | .text name => some (colon before name, frames)
      | _ => none
  | colon before name =>
      match token with
      | .colon => some (value, .object before name :: frames)
      | _ => none
  | done last =>
      match frames, token with
      | .array before :: outer, .comma => some (value, .array (last :: before) :: outer)
      | .object before name :: outer, .comma => some (key ((name, last) :: before), outer)
      | frame@(.array _) :: outer, .closeArray => some (done (frame.close last), outer)
      | frame@(.object _ _) :: outer, .closeObject => some (done (frame.close last), outer)
      | _, _ => none

/-- The draft of the innermost value where the text breaks off, and the frames
around it. -/
def breakOff (frames : List Frame) : Stage → Draft × List Frame
  | value => (.broken, frames)
  | firstItem => (.array [.broken], frames)
  | firstKey => (.object [(none, .broken)], frames)
  | key before => (.object (before.reverse ++ [(none, .broken)]), frames)
  | colon before name => (.object (before.reverse ++ [(name, .broken)]), frames)
  | done last =>
      match frames with
      | [] => (last, [])
      | .array before :: outer => (.array ((last :: before).reverse ++ [.broken]), outer)
      | .object before name :: outer =>
          (.object (((name, last) :: before).reverse ++ [(none, .broken)]), outer)

/-- The draft of the whole value where the text breaks off. -/
def cut (frames : List Frame) (stage : Stage) : Draft :=
  let (innermost, outer) := stage.breakOff frames
  outer.foldl Frame.close innermost

def finished? (frames : List Frame) : Stage → Option Draft
  | done last => if frames.isEmpty then some last else none
  | _ => none

/-- Reads tokens to the end of a value. Returns its draft and the tokens behind
it. -/
def run (stage : Stage) (frames : List Frame) (tokens : List JsonToken) :
    Draft × List JsonToken :=
  match stage.finished? frames with
  | some draft => (draft, tokens)
  | none =>
      match tokens with
      | [] => (stage.cut frames, [])
      | token :: rest =>
          match stage.next frames token with
          | some (following, remaining) => following.run remaining rest
          | none => (stage.cut frames, [])

end Stage

/-- The draft of the first value among tokens, and the tokens behind it. -/
def ofTokens (tokens : List JsonToken) : Draft × List JsonToken :=
  Stage.run .value [] tokens

/-- The draft of the first value of a text, and whether the text ends with
it. -/
def ofText (source : String) : Draft × Bool :=
  let (draft, rest) := ofTokens (JsonToken.tokens source.toList)
  (draft, rest.isEmpty)

end TypedSql.Draft
