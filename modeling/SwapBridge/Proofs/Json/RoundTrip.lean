/-
  SwapBridge.Proofs.Json.RoundTrip
  ────────────────────────────────
  **WHAT IS WRITTEN IS READ BACK.**

  What the writer makes of a value is one of the texts of that value: its
  escapes spell their characters, and it puts no blanks between words.

    • `spellsString_quoted` — a string, whatever its characters are,
    • `spells_chars` — a whole value, by induction on it,
    • `read_write` — every value with well-formed numbers is read back.
-/
import Mathlib.Tactic.SplitIfs
import SwapBridge.Json.Codec
import SwapBridge.Proofs.Json.Grammar

namespace SwapBridge.Json

variable {units : List Nat} {cs : List Char} {v : Json}

/-! ## §1. Strings. -/

/-- A digit that is written is the digit that is read. -/
theorem hexValue?_digitChar : ∀ n < 16, Scan.hexValue? (Nat.digitChar n) = some n := by decide

/-- A small number in four digits. -/
theorem spellsUnits_unicode {n : Nat} (hn : n < 256) (h : SpellsUnits units cs) :
    SpellsUnits (n :: units)
      ('\\' :: 'u' :: '0' :: '0' :: Nat.digitChar (n / 16) :: Nat.digitChar (n % 16) :: cs) := by
  have hvalue : ((0 * 16 + 0) * 16 + n / 16) * 16 + n % 16 = n := by omega
  have hdigits : SpellsUnits ((((0 * 16 + 0) * 16 + n / 16) * 16 + n % 16) :: units)
      ('\\' :: 'u' :: '0' :: '0' :: Nat.digitChar (n / 16) :: Nat.digitChar (n % 16) :: cs) :=
    .unicode rfl rfl (hexValue?_digitChar _ (by omega)) (hexValue?_digitChar _ (by omega)) h
  rwa [hvalue] at hdigits

/-- **A character of a string spells itself**, escaped or not. -/
theorem spellsUnits_escape (c : Char) (h : SpellsUnits units cs) :
    SpellsUnits (c.toNat :: units) (escape c ++ cs) := by
  unfold escape
  split_ifs with hquote hslash hb hf hn hr ht hcontrol
  · subst hquote
    exact .short rfl h
  · subst hslash
    exact .short rfl h
  · rw [hb]
    exact .short rfl h
  · rw [hf]
    exact .short rfl h
  · subst hn
    exact .short rfl h
  · subst hr
    exact .short rfl h
  · subst ht
    exact .short rfl h
  · exact spellsUnits_unicode (by omega) h
  · -- any other character stands for itself
    exact .plain hquote hslash (by omega) h

/-- What `escape` writes, character by character, spells the text. -/
theorem spellsUnits_escapes (cs : List Char) :
    SpellsUnits (cs.map Char.toNat) (cs.flatMap escape) := by
  induction cs with
  | nil => exact .nil
  | cons c cs ih =>
    rw [List.map_cons, List.flatMap_cons]
    exact spellsUnits_escape c ih

/-- The numbers of characters have no surrogates among them. -/
theorem stands_toNat (cs : List Char) : Stands (cs.map Char.toNat) cs := by
  induction cs with
  | nil => exact .nil
  | cons c cs ih =>
    have hvalid : c.toNat < 0xD800 ∨ 0xDFFF < c.toNat ∧ c.toNat < 0x110000 := c.valid
    have hsingle := Stands.single (n := c.toNat)
      (by unfold isHighSurrogate; simp only [Bool.and_eq_false_iff, decide_eq_false_iff_not]; omega)
      (by unfold isLowSurrogate; simp only [Bool.and_eq_false_iff, decide_eq_false_iff_not]; omega)
      ih
    rwa [Char.ofNat_toNat] at hsingle

/-- Units stand for one text at most: surrogates are joined wherever they can be. -/
theorem Stands.unique {cs' : List Char} (h : Stands units cs) (h' : Stands units cs') :
    cs = cs' := by
  rw [← joinSurrogates_eq_some_iff] at h h'
  exact Option.some.inj (h.symm.trans h')

/-- Half of a pair stands for nothing. -/
theorem not_stands_alone {n : Nat} (h : isHighSurrogate n = true) (cs : List Char) :
    ¬ Stands [n] cs := by
  rintro (_ | ⟨hhigh, _, _⟩)
  rw [h] at hhigh
  cases hhigh

/-- **A quoted string spells its text**; without a text it spells none. -/
theorem spellsString_quoted (text : JsonText) : SpellsString text (quoted text) := by
  cases text with
  | none =>
    have hlone : SpellsUnits [((0xD * 16 + 8) * 16 + 0) * 16 + 0] ['\\', 'u', 'd', '8', '0', '0'] :=
      .unicode rfl rfl rfl rfl .nil
    exact ⟨_, _, hlone, fun s => iff_of_false (by simp) (not_stands_alone rfl _), rfl⟩
  | some s =>
    refine ⟨_, _, spellsUnits_escapes s.toList, fun s' => ?_, rfl⟩
    constructor
    · rintro h
      cases h
      exact stands_toNat _
    · intro h
      rw [String.toList_inj.1 ((stands_toNat s.toList).unique h)]

/-! ## §2. Values. -/

/-- A value whose numbers are numerals. -/
inductive Valid : Json → Prop where
  | null : Valid .null
  | bool (b : Bool) : Valid (.bool b)
  | number {ds : List Char} : IsNumeral ds → Valid (.number ds)
  | string (text : JsonText) : Valid (.string text)
  | array {items : List Json} : (∀ v ∈ items, Valid v) → Valid (.array items)
  | object {members : List (JsonText × Json)} : (∀ e ∈ members, Valid e.2) →
      Valid (.object members)

/-- An item as it is written, without blanks. -/
def written (v : Json) : Spaced := ⟨[], v, v.chars, []⟩

def writtenMember (e : JsonText × Json) : SpelledMember := ⟨[], e.1, quoted e.1, [], written e.2⟩

theorem allSpace_nil : AllSpace [] := fun _ hc => nomatch hc

theorem isSpaced_written (v : Json) : (written v).IsSpaced := ⟨allSpace_nil, allSpace_nil⟩

theorem isSpaced_writtenMember (e : JsonText × Json) : (writtenMember e).IsSpaced :=
  ⟨allSpace_nil, allSpace_nil, isSpaced_written e.2, spellsString_quoted e.1⟩

/-- The text of a `written` value is what the writer makes of it. -/
theorem text_written (v : Json) : (written v).text = v.chars := by
  simp [Spaced.text, written]

/-- The same of a member: its name in quotes, a colon, and its value. -/
theorem text_writtenMember (e : JsonText × Json) :
    (writtenMember e).text = quoted e.1 ++ ':' :: e.2.chars := by
  unfold SpelledMember.text
  rw [show (writtenMember e).spelled = written e.2 from rfl, text_written]
  simp [writtenMember]

/-- Items are written with commas between them. -/
theorem itemChars_eq : ∀ items : List Json,
    itemChars items = [','].intercalate ((items.map written).map (·.text))
  | [] => by rw [itemChars]; rfl
  | [v] => by
    rw [itemChars, List.map_singleton, List.map_singleton, List.intercalate_singleton, text_written]
  | v :: w :: items => by
    rw [itemChars, itemChars_eq (w :: items)]
    simp only [List.map_cons, List.intercalate_cons_cons, text_written]
    simp

/-- Members are written with commas between them. -/
theorem memberChars_eq : ∀ members : List (JsonText × Json),
    memberChars members = [','].intercalate ((members.map writtenMember).map (·.text))
  | [] => by rw [memberChars]; rfl
  | [(k, v)] => by
    rw [memberChars, List.map_singleton, List.map_singleton, List.intercalate_singleton,
      text_writtenMember]
  | (k, v) :: e :: members => by
    rw [memberChars, memberChars_eq (e :: members)]
    simp only [List.map_cons, List.intercalate_cons_cons, text_writtenMember]
    simp

/-- **What is written of a valid value spells it.** -/
theorem spells_chars (h : v.Valid) : Spells v v.chars := by
  induction h with
  | null => rw [chars]; exact .null
  | bool b =>
    cases b with
    | false => rw [chars]; exact .no
    | true => rw [chars]; exact .yes
  | number hds => rw [chars]; exact .number hds
  | string text => rw [chars]; exact .string (spellsString_quoted text)
  | @array items _ ih =>
    rw [chars, itemChars_eq]
    cases items with
    | nil => exact .emptyArray allSpace_nil
    | cons v items =>
      have hvalues : ((v :: items).map written).map (·.value) = v :: items := by
        simp [written, Function.comp_def]
      rw [← congrArg Json.array hvalues]
      exact .array (by simp) (List.forall_mem_map.2 fun u _ => isSpaced_written u)
        (List.forall_mem_map.2 ih)
  | @object members _ ih =>
    rw [chars, memberChars_eq]
    cases members with
    | nil => exact .emptyObject allSpace_nil
    | cons e members =>
      have hmembers : ((e :: members).map writtenMember).map (·.member) = e :: members := by
        simp [writtenMember, written, SpelledMember.member, Function.comp_def]
      rw [← congrArg Json.object hmembers]
      exact .object (by simp) (List.forall_mem_map.2 fun d _ => isSpaced_writtenMember d)
        (List.forall_mem_map.2 ih)

/-- **WHAT IS WRITTEN IS READ BACK**: the text of a value whose numbers are
numerals is read as that value.  Its strings may hold any characters, or have
no text at all, and its arrays and objects may be as deep as they like. -/
theorem read_write (h : v.Valid) : read v.write = some v := by
  unfold read write
  rw [String.toList_ofList]
  exact readChars_of_texts
    ⟨written v, rfl, isSpaced_written v, spells_chars h, (text_written v).symm⟩

end SwapBridge.Json
