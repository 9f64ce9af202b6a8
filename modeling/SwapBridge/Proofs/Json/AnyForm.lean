/-
  SwapBridge.Proofs.Json.AnyForm
  ──────────────────────────────
  **RECORDS ARE READ IN ANY FORM.**

  The text of a record may have its fields in any order, unknown members with
  any values between them, blanks between any words and any escapes in its
  strings, and so may the records inside of it; the array of its fields in
  order will do as well.  A field that is missing without leave, one that is
  there twice, and anything behind the value are refused, however deep.

    • `IsObjectForm.loosen` — order and unknown members do not matter,
    • `ReadsForms` — what is read of a record's texts, and what is not,
    • `records_read_in_any_form` — for every record of the program.
-/
import SwapBridge.Proofs.Json.Forms

namespace SwapBridge.Json

variable {α : Type} {fs : List (Field α)} {a : α} {ms ms' extra : List (JsonText × Json)}
  {v : Json} {s s' : String} {name : String}

/-! ## §1. Order and unknown members. -/

/-- A member whose name is a text, but not that of a field. -/
def IsUnknown (fs : List (Field α)) (e : JsonText × Json) : Prop :=
  ∃ k, e.1 = some k ∧ ∀ f ∈ fs, f.name ≠ k

/-- Members that are no field's give no field a value. -/
theorem given_of_unknown (h : ∀ e ∈ extra, IsUnknown fs e) {f : Field α} (hf : f ∈ fs) :
    given f.name extra = [] := by
  rw [List.eq_nil_iff_forall_not_mem]
  intro v hv
  obtain ⟨k, hk, hne⟩ := h _ (mem_given.1 hv)
  exact hne f hf (Option.some.inj hk)

/-- What is given at most once is given alike in any order. -/
theorem given_perm {o : Option Json} (h : ms'.Perm (ms ++ extra)) (hextra : given name extra = []) :
    given name ms' = o.toList ↔ given name ms = o.toList := by
  have hgiven : (given name ms').Perm (given name ms) := by
    have hperm := (h.filter (·.1 == some name)).map Prod.snd
    rw [List.filter_append, List.map_append] at hperm
    rwa [← List.append_nil (given name ms), ← hextra]
  cases o with
  | none =>
    exact ⟨fun heq => (hgiven.symm.trans (.of_eq heq)).eq_nil,
      fun heq => (hgiven.trans (.of_eq heq)).eq_nil⟩
  | some v =>
    exact ⟨fun heq => (hgiven.symm.trans (.of_eq heq)).eq_singleton,
      fun heq => (hgiven.trans (.of_eq heq)).eq_singleton⟩

/-- **Neither the order of the members nor unknown ones among them matter.** -/
theorem IsObjectForm.loosen (hperm : ms'.Perm (ms ++ extra))
    (hextra : ∀ e ∈ extra, IsUnknown fs e) :
    IsObjectForm fs a ms' ↔ IsObjectForm fs a ms := by
  have hfits : ∀ f ∈ fs, ∀ o : Option Json, given f.name ms' = o.toList
      ↔ given f.name ms = o.toList := fun f hf o =>
    given_perm hperm (given_of_unknown hextra hf)
  constructor
  · rintro ⟨hnamed, h⟩
    refine ⟨fun e he => hnamed e (hperm.mem_iff.2 (List.mem_append_left _ he)), fun f hf => ?_⟩
    obtain ⟨o, ho, hfit⟩ := h f hf
    exact ⟨o, (hfits f hf o).1 ho, hfit⟩
  · rintro ⟨hnamed, h⟩
    refine ⟨fun e he => ?_, fun f hf => ?_⟩
    · rcases List.mem_append.1 (hperm.mem_iff.1 he) with he | he
      · exact hnamed e he
      · obtain ⟨k, hk, _⟩ := hextra e he
        exact hk ▸ Option.some_ne_none k
    · obtain ⟨o, ho, hfit⟩ := h f hf
      exact ⟨o, (hfits f hf o).2 ho, hfit⟩

/-! ## §2. Texts. -/

/-- **How the texts of a record are read.** -/
structure ReadsForms (α : Type) [JsonCodec α] [JsonRecord α] : Prop where
  /-- A text of a form is read as the value, and no other text of a value is. -/
  read_eq_some_iff : ∀ {v : Json} {s : String} {a : α}, Texts v s.toList →
    (JsonCodec.read s = some a ↔ IsRecordForm JsonRecord.fields a v)
  /-- Other orders and unknown members are read alike. -/
  read_loosened : ∀ {ms ms' extra : List (JsonText × Json)} {s s' : String},
    Texts (.object ms) s.toList → Texts (.object ms') s'.toList → ms'.Perm (ms ++ extra) →
    (∀ e ∈ extra, IsUnknown (JsonRecord.fields : List (Field α)) e) →
    (JsonCodec.read s' : Option α) = JsonCodec.read s
  /-- A text with a missing or repeated field is refused. -/
  read_of_flaw : ∀ {v : Json} {s : String}, Texts v s.toList →
    HasRecordFlaw (JsonRecord.fields : List (Field α)) v → (JsonCodec.read s : Option α) = none
  /-- A text that goes on behind its value is refused. -/
  read_of_trailing : ∀ {v : Json} {s rest : String}, Texts v s.toList → IsEnclosed v →
    ¬ AllSpace rest.toList → (JsonCodec.read (s ++ rest) : Option α) = none

variable [JsonCodec α]

/-- A text in any form is read as the value that it spells. -/
theorem read_of_texts (h : Texts v s.toList) :
    (JsonCodec.read s : Option α) = JsonCodec.decode v := by
  unfold JsonCodec.read read
  rw [readChars_of_texts h]
  rfl

variable (α) in
/-- **A type whose decoding goes by its fields is read in any form.** -/
theorem readsForms [JsonRecord α] : ReadsForms α where
  read_eq_some_iff h := by
    rw [read_of_texts h]
    exact JsonRecord.decode_eq_some_iff
  read_loosened {ms ms' extra s s'} h h' hperm hextra := by
    rw [read_of_texts h, read_of_texts h']
    ext a
    rw [JsonRecord.decode_eq_some_iff, JsonRecord.decode_eq_some_iff]
    have hloosen := IsObjectForm.loosen (a := a) hperm hextra
    constructor
    · rintro (hform | _)
      exact .object (hloosen.1 hform)
    · rintro (hform | _)
      exact .object (hloosen.2 hform)
  read_of_flaw h hflaw := by
    rw [read_of_texts h, Option.eq_none_iff_forall_ne_some]
    intro a ha
    exact hflaw.not_isRecordForm a (JsonRecord.decode_eq_some_iff.1 ha)
  read_of_trailing h hv hrest := by
    unfold JsonCodec.read read
    rw [String.toList_append, readChars_of_trailing h hv hrest]
    rfl

/-- **EVERY RECORD IS READ IN ANY FORM**: whatever order its fields have, whatever stands
between them, and however its values and those of the records in it are spelled.  Where a
field is left out or given twice, in it or in a record in it, nothing is read. -/
theorem records_read_in_any_form : ReadsForms Settings ∧ ReadsForms Credential ∧
    ReadsForms Scope ∧ ReadsForms WalletRef ∧ ReadsForms Payment.Details :=
  ⟨readsForms _, readsForms _, readsForms _, readsForms _, readsForms _⟩

example : JsonCodec.read
      " \x7b\"transaction_id\":\"t\",\"x\":[null,\x7b\"swap_id\":1e9\x7d],\n\"swap\\u005fid\":\"s\"\x7d"
    = some (⟨"s", "t", none, none⟩ : Payment.Details) := rfl

end SwapBridge.Json
