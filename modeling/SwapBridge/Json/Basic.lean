/-
  SwapBridge.Json.Basic
  ─────────────────────
  **JSON VALUES AS WRITTEN.**

  A value keeps what a reader of the text can see: a number keeps its digits,
  an object keeps its members in order and with repetitions, and a string that
  escapes half of a surrogate pair is kept as one that has no text.
-/

namespace SwapBridge

/-- The text of a string, absent where an escape names an unpaired surrogate. -/
abbrev JsonText := Option String

inductive Json where
  | null
  | bool (b : Bool)
  | number (digits : List Char)
  | string (text : JsonText)
  | array (items : List Json)
  | object (members : List (JsonText × Json))

namespace Json

/-- A string with the given text. -/
def ofString (s : String) : Json := .string (some s)

/-- An object with the given members. -/
def record (members : List (String × Json)) : Json :=
  .object (members.map fun (k, v) => (some k, v))

end Json

end SwapBridge
