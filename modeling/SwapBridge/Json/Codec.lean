/-
  SwapBridge.Json.Codec
  ─────────────────────
  **VALUES OF THE PROGRAM AS JSON.**

  A record is an object with its fields.  When read, its fields may come in
  any order and unknown members are skipped, but a field must not be given
  twice.  An array of exactly the fields, in the order of the declaration, is
  read as well.  A choice without data is the string of its name, or an object
  whose only member has that name and the value null.
-/
import SwapBridge.Json.Reader
import SwapBridge.Json.Writer
import SwapBridge.Text.Decimal

namespace SwapBridge

/-- A type with a JSON form. -/
class JsonCodec (α : Type) where
  encode : α → Json
  decode : Json → Option α

namespace Json

/-! ## §1. Leaves. -/

def decodeString : Json → Option String
  | .string text => text
  | _ => none

def decodeBool : Json → Option Bool
  | .bool b => some b
  | _ => none

/-- A number that is written as a natural number and fits 64 bits. -/
def decodeUInt64 : Json → Option UInt64
  | .number ds => (Decimal.readBelow? UInt64.size ds).map UInt64.ofNat
  | _ => none

/-- Null stands for nothing. -/
def decodeOption {α : Type} (decode : Json → Option α) : Json → Option (Option α)
  | .null => some none
  | v => (decode v).map some

def ofUInt64 (n : UInt64) : Json := .number (Decimal.digits n.toNat)

def ofOption {α : Type} (encode : α → Json) : Option α → Json
  | none => .null
  | some a => encode a

instance : JsonCodec String := ⟨ofString, decodeString⟩
instance : JsonCodec Bool := ⟨.bool, decodeBool⟩
instance : JsonCodec UInt64 := ⟨ofUInt64, decodeUInt64⟩
instance {α : Type} [JsonCodec α] : JsonCodec (Option α) :=
  ⟨ofOption JsonCodec.encode, decodeOption JsonCodec.decode⟩

/-! ## §2. Records. -/

/-- The values given for the known names, which must be given once at most.
The names of all members must have a text. -/
def collect (names : List String) :
    List (JsonText × Json) → List (String × Json) → Option (List (String × Json))
  | [], found => some found
  -- a name is decoded before it is known whether anyone asks for it
  | (none, _) :: _, _ => none
  | (some k, v) :: rest, found =>
    if names.contains k then
      if (found.lookup k).isSome then none else collect names rest ((k, v) :: found)
    else collect names rest found

/-- The fields of a record by name, from an object or from an array. -/
def fields (names : List String) : Json → Option (List (String × Json))
  | .object members => collect names members []
  | .array items => if items.length = names.length then some (names.zip items) else none
  | _ => none

def required {α : Type} [JsonCodec α] (fs : List (String × Json)) (name : String) : Option α :=
  (fs.lookup name).bind JsonCodec.decode

/-- A field that may be missing. -/
def optional {α : Type} [JsonCodec α] (fs : List (String × Json)) (name : String) :
    Option (Option α) :=
  match fs.lookup name with
  | none => some none
  | some v => JsonCodec.decode v

/-! ## §3. Choices. -/

/-- The name of a choice without data. -/
def choiceName : Json → Option String
  | .string text => text
  | .object [(some k, .null)] => some k
  | _ => none

/-- The choice with a name, of those listed. -/
def decodeChoice {α : Type} (names : List (String × α)) (v : Json) : Option α :=
  (choiceName v).bind fun name => List.lookup name names

end Json

/-- The JSON text of a value. -/
def JsonCodec.write {α : Type} [JsonCodec α] (a : α) : String := (encode a).write

/-- The value in a JSON text. -/
def JsonCodec.read {α : Type} [JsonCodec α] (s : String) : Option α := (Json.read s).bind decode

end SwapBridge
