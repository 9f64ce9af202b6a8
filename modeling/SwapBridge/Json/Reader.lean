/-
  SwapBridge.Json.Reader
  ──────────────────────
  **READING A JSON VALUE.**

  The words of a text drive a machine with a stack: a frame for every array or
  object that is still open.  It has no bound on depth.  A text is one value
  with nothing but blanks around it.
-/
import SwapBridge.Json.Token

namespace SwapBridge.Json

/-- An array or object that is still open; what it holds is kept backwards. -/
inductive Frame where
  | array (items : List Json)
  | object (members : List (JsonText × Json)) (key : JsonText)

/-- What may come next. -/
inductive Expect where
  | value
  /-- A value, or the end of an array that holds nothing. -/
  | valueOrEnd
  | key (members : List (JsonText × Json))
  /-- A key, or the end of an object that holds nothing. -/
  | keyOrEnd
  | colon (members : List (JsonText × Json)) (key : JsonText)
  /-- A comma or the end of the innermost frame, after this item. -/
  | next (item : Json)

structure Machine where
  frames : List Frame
  expect : Expect

namespace Machine

def start : Machine := ⟨[], .value⟩

/-- A word where a value may stand. -/
def openValue (frames : List Frame) : Token → Option Machine
  | .beginArray => some ⟨.array [] :: frames, .valueOrEnd⟩
  | .beginObject => some ⟨frames, .keyOrEnd⟩
  | .null => some ⟨frames, .next .null⟩
  | .bool b => some ⟨frames, .next (.bool b)⟩
  | .number ds => some ⟨frames, .next (.number ds)⟩
  | .string text => some ⟨frames, .next (.string text)⟩
  | _ => none

def step (m : Machine) (t : Token) : Option Machine :=
  match m.expect with
  | .value => openValue m.frames t
  | .valueOrEnd =>
    match t, m.frames with
    | .endArray, .array items :: frames => some ⟨frames, .next (.array items.reverse)⟩
    | t, frames => openValue frames t
  | .key members =>
    match t with
    | .string key => some ⟨m.frames, .colon members key⟩
    | _ => none
  | .keyOrEnd =>
    match t with
    | .string key => some ⟨m.frames, .colon [] key⟩
    | .endObject => some ⟨m.frames, .next (.object [])⟩
    | _ => none
  | .colon members key =>
    match t with
    | .colon => some ⟨.object members key :: m.frames, .value⟩
    | _ => none
  | .next item =>
    match t, m.frames with
    -- a comma asks for one more, so neither frame may end behind it
    | .comma, .array items :: frames => some ⟨.array (item :: items) :: frames, .value⟩
    | .comma, .object members key :: frames => some ⟨frames, .key ((key, item) :: members)⟩
    | .endArray, .array items :: frames => some ⟨frames, .next (.array (item :: items).reverse)⟩
    | .endObject, .object members key :: frames =>
      some ⟨frames, .next (.object ((key, item) :: members).reverse)⟩
    | _, _ => none

/-- The value, once nothing is open any more. -/
def result? (m : Machine) : Option Json :=
  match m.frames, m.expect with
  | [], .next item => some item
  | _, _ => none

end Machine

/-- Reads the one value of a text. -/
def readChars (cs : List Char) : Option Json :=
  (Token.read cs).bind fun ts => (ts.foldlM Machine.step Machine.start).bind Machine.result?

def read (s : String) : Option Json := readChars s.toList

end SwapBridge.Json
