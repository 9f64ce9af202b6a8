/-
  SwapBridge.Proofs.Json.Record
  ─────────────────────────────
  **WHICH VALUES ARE FORMS OF A RECORD.**

  A type says which JSON values are forms of each of its values, and its
  decoding is exact: it takes every form and nothing else.  For a record this
  is said of its fields one by one.  As an object it has them in any order and
  with other members between them; as an array it has all of them in order.

    • `JsonForms` — the forms of a type, and the flaws no form has,
    • `IsRecordForm`, `HasRecordFlaw` — the forms and the flaws of records,
    • `collect_gives` — what is found by name is what was given,
    • `isRecordForm_iff` — a form is what fields can be found in that fit,
    • `JsonRecord` — a type whose decoding goes by its fields.
-/
import Mathlib.Data.List.Forall2
import SwapBridge.Json.Codec

namespace SwapBridge

/-- A type whose decoding takes exactly the forms of its values. -/
class JsonForms (α : Type) [JsonCodec α] where
  IsForm : α → Json → Prop
  /-- A record in it, however deep, is not given as its type asks for. -/
  HasFlaw : Json → Prop
  decode_eq_some_iff {v : Json} {a : α} : JsonCodec.decode v = some a ↔ IsForm a v
  not_isForm {v : Json} (h : HasFlaw v) (a : α) : ¬ IsForm a v

namespace Json

/-! ## §1. Leaves. -/

section Leaves

variable {v : Json} {s name : String} {b : Bool} {n : UInt64}

/-- A text is read from a string whose units made sense as text, and from nothing else. -/
theorem decodeString_eq_some_iff : decodeString v = some s ↔ v = .string (some s) := by
  unfold decodeString
  split <;> simp_all

theorem decodeBool_eq_some_iff : decodeBool v = some b ↔ v = .bool b := by
  cases v with
  | bool c => exact Option.some_inj.trans (by simp)
  | _ => exact iff_of_false (by simp [decodeBool]) (by simp)

/-- A word is read from digits alone, without sign, point or exponent, if their value fits.
-/
theorem decodeUInt64_eq_some_iff : decodeUInt64 v = some n ↔
    ∃ ds, v = .number ds ∧ Decimal.isNumeral ds = true ∧ Decimal.value ds = n.toNat := by
  unfold decodeUInt64
  split
  · rename_i ds
    constructor
    · intro h
      obtain ⟨k, hk, rfl⟩ := Option.map_eq_some_iff.1 h
      unfold Decimal.readBelow? at hk
      split at hk
      · rename_i hds
        cases hk
        obtain ⟨hnumeral, hlt⟩ := Bool.and_eq_true_iff.1 hds
        refine ⟨ds, rfl, hnumeral, ?_⟩
        rw [UInt64.toNat_ofNat_of_lt' (of_decide_eq_true hlt)]
      · cases hk
    · rintro ⟨ds', heq, hnumeral, hvalue⟩
      cases heq
      unfold Decimal.readBelow?
      rw [hnumeral, hvalue, decide_eq_true n.toNat_lt_size]
      simp
  · rename_i hnumber
    exact iff_of_false (by simp) fun ⟨ds, h, _⟩ => hnumber ds h

/-- A choice is its name, or an object with its name as the only member, which holds null.
-/
theorem choiceName_eq_some_iff : choiceName v = some name ↔
    v = .string (some name) ∨ v = .object [(some name, .null)] := by
  unfold choiceName
  split <;> simp_all

end Leaves

instance : JsonForms String where
  IsForm s v := v = .string (some s)
  HasFlaw _ := False
  decode_eq_some_iff := decodeString_eq_some_iff
  not_isForm h := h.elim

instance : JsonForms Bool where
  IsForm b v := v = .bool b
  HasFlaw _ := False
  decode_eq_some_iff := decodeBool_eq_some_iff
  not_isForm h := h.elim

instance : JsonForms UInt64 where
  IsForm n v := ∃ ds, v = .number ds ∧ Decimal.isNumeral ds = true ∧ Decimal.value ds = n.toNat
  HasFlaw _ := False
  decode_eq_some_iff := decodeUInt64_eq_some_iff
  not_isForm h := h.elim

/-- Null is the form of nothing, and of nothing else. -/
def IsOptionForm {α : Type} [JsonCodec α] [JsonForms α] : Option α → Json → Prop
  | none, v => v = .null
  | some a, v => v ≠ .null ∧ JsonForms.IsForm a v

instance {α : Type} [JsonCodec α] [JsonForms α] : JsonForms (Option α) where
  IsForm := IsOptionForm
  HasFlaw v := v ≠ .null ∧ JsonForms.HasFlaw α v
  decode_eq_some_iff {v o} := by
    show decodeOption JsonCodec.decode v = some o ↔ IsOptionForm o v
    cases o with
    | none =>
      show _ ↔ v = .null
      unfold decodeOption
      split <;> simp_all
    | some a =>
      show _ ↔ v ≠ .null ∧ JsonForms.IsForm a v
      unfold decodeOption
      rw [← JsonForms.decode_eq_some_iff]
      split <;> simp_all
  not_isForm := by
    rintro v ⟨hnull, hflaw⟩ (_ | a)
    · exact hnull
    · exact fun h => JsonForms.not_isForm hflaw a h.2

/-! ## §2. Forms of records. -/

/-- A field of a record: its name, what it may be given as, and whether it may be missing. -/
structure Field (α : Type) where
  name : String
  IsValue : α → Json → Prop
  MayMiss : α → Prop
  HasFlaw : Json → Prop
  not_isValue {v : Json} (h : HasFlaw v) (a : α) : ¬ IsValue a v

namespace Field

variable {α β : Type} [JsonCodec β] [JsonForms β]

/-- A field that must be given. -/
def required (name : String) (get : α → β) : Field α where
  name := name
  IsValue a := JsonForms.IsForm (get a)
  MayMiss _ := False
  HasFlaw := JsonForms.HasFlaw β
  not_isValue h a := JsonForms.not_isForm h (get a)

/-- A field that is missing where there is nothing, or given as null. -/
def optional (name : String) (get : α → Option β) : Field α where
  name := name
  IsValue a := JsonForms.IsForm (get a)
  MayMiss a := get a = none
  HasFlaw := JsonForms.HasFlaw (Option β)
  not_isValue h a := JsonForms.not_isForm h (get a)

def IsRequired (f : Field α) : Prop := ∀ a, ¬ f.MayMiss a

/-- What is there of the field, if anything, is as the record has it. -/
def Fits (f : Field α) (a : α) : Option Json → Prop
  | some v => f.IsValue a v
  | none => f.MayMiss a

end Field

/-- All that is given under a name. -/
def given (name : String) (ms : List (JsonText × Json)) : List Json :=
  (ms.filter (·.1 == some name)).map (·.2)

section Records

variable {α : Type} {fs : List (Field α)} {f : Field α} {a : α} {ms : List (JsonText × Json)}
  {items : List Json} {v : Json} {names : List String} {name : String}
  {found found₀ : List (String × Json)}

/-- **Members that give a record**: every field once, or not at all where it may be missing.
Their order is free, and others may be among them, as long as they have names. -/
structure IsObjectForm (fs : List (Field α)) (a : α) (ms : List (JsonText × Json)) : Prop where
  named : ∀ e ∈ ms, e.1 ≠ none
  fits : ∀ f ∈ fs, ∃ o : Option Json, given f.name ms = o.toList ∧ f.Fits a o

/-- **The forms of a record**: an object with its fields, or an array of them in order. -/
inductive IsRecordForm (fs : List (Field α)) (a : α) : Json → Prop
  | object {ms : List (JsonText × Json)} (h : IsObjectForm fs a ms) : IsRecordForm fs a (.object ms)
  | array {items : List Json} (h : List.Forall₂ (fun f v => f.IsValue a v) fs items) :
      IsRecordForm fs a (.array items)

/-- **The flaws of a record**, or of one inside of it. -/
inductive HasRecordFlaw (fs : List (Field α)) : Json → Prop
  | missing {f : Field α} {ms : List (JsonText × Json)} (hf : f ∈ fs) (hrequired : f.IsRequired)
      (h : given f.name ms = []) : HasRecordFlaw fs (.object ms)
  | repeated {f : Field α} {ms : List (JsonText × Json)} (hf : f ∈ fs)
      (h : 2 ≤ (given f.name ms).length) : HasRecordFlaw fs (.object ms)
  | unnamed {v : Json} {ms : List (JsonText × Json)} (h : (none, v) ∈ ms) :
      HasRecordFlaw fs (.object ms)
  | member {f : Field α} {v : Json} {ms : List (JsonText × Json)} (hf : f ∈ fs)
      (hv : (some f.name, v) ∈ ms) (h : f.HasFlaw v) : HasRecordFlaw fs (.object ms)
  | length {items : List Json} (h : items.length ≠ fs.length) : HasRecordFlaw fs (.array items)
  | item {f : Field α} {v : Json} {items : List Json} (hv : (f, v) ∈ fs.zip items)
      (h : f.HasFlaw v) : HasRecordFlaw fs (.array items)

/-- `given` lists the values of all members with a name, also where there are several. -/
theorem mem_given : v ∈ given name ms ↔ (some name, v) ∈ ms := by
  unfold given
  simp only [List.mem_map, List.mem_filter, beq_iff_eq]
  constructor
  · rintro ⟨⟨k, w⟩, ⟨hmem, rfl⟩, rfl⟩
    exact hmem
  · exact fun h => ⟨_, ⟨h, rfl⟩, rfl⟩

theorem given_cons_of_eq : given name ((some name, v) :: ms) = v :: given name ms := by
  simp [given]

theorem given_cons_of_ne {k : JsonText} (h : k ≠ some name) :
    given name ((k, v) :: ms) = given name ms := by
  simp [given, h]

/-- **A record with a flaw is a form of nothing.** -/
theorem HasRecordFlaw.not_isRecordForm (h : HasRecordFlaw fs v) (a : α) :
    ¬ IsRecordForm fs a v := by
  -- the flaws of an object first, each against the fields' fit; then those of an array
  cases h with
  | missing hf hrequired hgiven =>
    rintro (⟨_, hfits⟩ | _)
    obtain ⟨o, ho, hfit⟩ := hfits _ hf
    rw [hgiven] at ho
    cases o with
    | none => exact hrequired a hfit
    | some v => cases ho
  | repeated hf hlength =>
    rintro (⟨_, hfits⟩ | _)
    obtain ⟨o, ho, _⟩ := hfits _ hf
    rw [ho] at hlength
    cases o <;> simp at hlength
  | unnamed hv =>
    rintro (⟨hnamed, _⟩ | _)
    exact hnamed _ hv rfl
  | @member f v ms hf hv hflaw =>
    rintro (⟨_, hfits⟩ | _)
    obtain ⟨o, ho, hfit⟩ := hfits f hf
    have hv := mem_given.2 hv
    rw [ho] at hv
    cases Option.mem_toList.1 hv
    exact f.not_isValue hflaw a hfit
  | length hlength =>
    rintro (_ | h)
    exact hlength h.length_eq.symm
  | @item f v items hv hflaw =>
    rintro (_ | h)
    exact f.not_isValue hflaw a ((List.forall₂_iff_zip.1 h).2 hv)

/-! ## §3. Fields are found. -/

/-- **What is found under a known name is what was given under it.** -/
theorem collect_gives (h : collect names ms found₀ = some found) :
    (∀ e ∈ ms, e.1 ≠ none) ∧ ∀ name ∈ names,
      (found.lookup name).toList = (found₀.lookup name).toList ++ given name ms := by
  -- what is found grows by the values given for a name, in their order
  induction ms generalizing found₀ with
  | nil =>
    cases h
    exact ⟨fun _ he => (nomatch he), fun _ _ => (List.append_nil _).symm⟩
  | cons e ms ih =>
    obtain ⟨k, v⟩ := e
    cases k with
    | none => cases h
    | some k =>
      rw [collect] at h
      split at h
      · rename_i hknown
        split at h
        · cases h
        · rename_i hfresh
          obtain ⟨hnamed, hgives⟩ := ih h
          refine ⟨List.forall_mem_cons.2 ⟨by simp, hnamed⟩, fun name hname => ?_⟩
          rw [hgives name hname]
          by_cases hk : name = k
          · subst hk
            rw [given_cons_of_eq, Option.not_isSome_iff_eq_none.1 hfresh]
            simp
          · rw [given_cons_of_ne (by simpa using Ne.symm hk), List.lookup_cons,
              beq_eq_false_iff_ne.2 hk]
      · rename_i hunknown
        obtain ⟨hnamed, hgives⟩ := ih h
        refine ⟨List.forall_mem_cons.2 ⟨by simp, hnamed⟩, fun name hname => ?_⟩
        have hk : k ≠ name := by
          rintro rfl
          exact hunknown (by simpa using hname)
        rw [hgives name hname, given_cons_of_ne (by simpa using hk)]

/-- Members with names, of which no known one is there twice, are all collected. -/
theorem exists_collect (hnamed : ∀ e ∈ ms, e.1 ≠ none)
    (honce : ∀ name ∈ names, ((found₀.lookup name).toList ++ given name ms).length ≤ 1) :
    ∃ found, collect names ms found₀ = some found := by
  -- one more value for a name uses up what `honce` leaves to it
  induction ms generalizing found₀ with
  | nil => exact ⟨_, rfl⟩
  | cons e ms ih =>
    obtain ⟨k, v⟩ := e
    obtain ⟨k, rfl⟩ := Option.ne_none_iff_exists'.1 (hnamed _ List.mem_cons_self)
    have hnamed' := (List.forall_mem_cons.1 hnamed).2
    rw [collect]
    split
    · rename_i hknown
      have hk := honce k (by simpa using hknown)
      rw [given_cons_of_eq] at hk
      have hfresh : found₀.lookup k = none := by
        cases hlookup : found₀.lookup k with
        | none => rfl
        | some w => simp [hlookup] at hk
      rw [hfresh]
      refine ih hnamed' fun name hname => ?_
      have h := honce name hname
      by_cases hne : name = k
      · subst hne
        rw [given_cons_of_eq, hfresh] at h
        simpa using h
      · rw [given_cons_of_ne (by simpa using Ne.symm hne)] at h
        rwa [List.lookup_cons, beq_eq_false_iff_ne.2 hne]
    · rename_i hunknown
      refine ih hnamed' fun name hname => ?_
      have hne : k ≠ name := by
        rintro rfl
        exact hunknown (by simpa using hname)
      have h := honce name hname
      rwa [given_cons_of_ne (by simpa using hne)] at h

/-- The fields of an object fit exactly if it is a form of the record. -/
theorem isObjectForm_iff : IsObjectForm fs a ms ↔
    ∃ found, collect (fs.map Field.name) ms [] = some found
      ∧ ∀ f ∈ fs, f.Fits a (found.lookup f.name) := by
  constructor
  · rintro ⟨hnamed, hfits⟩
    have honce : ∀ name ∈ fs.map Field.name, ([] ++ given name ms).length ≤ 1 :=
      List.forall_mem_map.2 fun f hf => by
        obtain ⟨o, ho, _⟩ := hfits f hf
        rw [ho]
        cases o <;> simp
    obtain ⟨found, hfound⟩ : ∃ found, collect (fs.map Field.name) ms [] = some found :=
      exists_collect hnamed honce
    refine ⟨found, hfound, fun f hf => ?_⟩
    obtain ⟨o, ho, hfit⟩ := hfits f hf
    have hgives := (collect_gives hfound).2 f.name (List.mem_map_of_mem hf)
    have hfound : found.lookup f.name = o := Option.ext fun v => by
      rw [← Option.mem_toList, hgives, ho]
      exact Option.mem_toList
    rwa [hfound]
  · rintro ⟨found, hfound, hfits⟩
    obtain ⟨hnamed, hgives⟩ := collect_gives hfound
    exact ⟨hnamed, fun f hf => ⟨_, (hgives f.name (List.mem_map_of_mem hf)).symm, hfits f hf⟩⟩

/-- The fields of an array of the right length fit exactly if each item does. -/
theorem forall_fits_zip_iff (hnodup : (fs.map Field.name).Nodup)
    (hlength : items.length = fs.length) :
    (∀ f ∈ fs, f.Fits a (((fs.map Field.name).zip items).lookup f.name))
      ↔ List.Forall₂ (fun f v => f.IsValue a v) fs items := by
  induction fs generalizing items with
  | nil =>
    cases List.length_eq_zero_iff.1 hlength
    simp
  | cons f fs ih =>
    obtain ⟨v, items, rfl⟩ := List.exists_cons_of_length_eq_add_one hlength
    obtain ⟨hfresh, hnodup⟩ := List.nodup_cons.1 hnodup
    -- the names behind the first are different ones
    have htail : (∀ g ∈ fs, g.Fits a (((f.name, v) :: (fs.map Field.name).zip items).lookup g.name))
        ↔ ∀ g ∈ fs, g.Fits a (((fs.map Field.name).zip items).lookup g.name) := by
      refine forall₂_congr fun g hg => ?_
      have hne : g.name ≠ f.name := fun h => hfresh (h ▸ List.mem_map_of_mem hg)
      rw [List.lookup_cons, beq_eq_false_iff_ne.2 hne]
    rw [List.map_cons, List.zip_cons_cons, List.forall_mem_cons, htail,
      ih hnodup (by simpa using hlength), List.forall₂_cons, List.lookup_cons_self]
    rfl

/-- **A form of a record is a value whose fields fit.** -/
theorem isRecordForm_iff (hnodup : (fs.map Field.name).Nodup) : IsRecordForm fs a v ↔
    ∃ found, fields (fs.map Field.name) v = some found
      ∧ ∀ f ∈ fs, f.Fits a (found.lookup f.name) := by
  cases v with
  | object ms =>
    rw [show fields (fs.map Field.name) (.object ms) = collect _ ms [] from rfl,
      ← isObjectForm_iff]
    exact ⟨fun h => by cases h; assumption, .object⟩
  | array items =>
    show _ ↔ ∃ found, (if items.length = (fs.map Field.name).length then _ else _) = _ ∧ _
    rw [List.length_map]
    constructor
    · rintro (_ | h)
      have hlength := h.length_eq.symm
      exact ⟨_, if_pos hlength, (forall_fits_zip_iff hnodup hlength).2 h⟩
    · rintro ⟨found, hfound, hfits⟩
      split at hfound
      · rename_i hlength
        cases hfound
        exact .array ((forall_fits_zip_iff hnodup hlength).1 hfits)
      · cases hfound
  | _ =>
    refine iff_of_false (fun h => nomatch h) ?_
    rintro ⟨_, h, _⟩
    cases h

end Records

end Json

/-! ## §4. Records. -/

/-- A type whose decoding goes by its fields. -/
class JsonRecord (α : Type) [JsonCodec α] where
  fields : List (Json.Field α)
  nodup : (fields.map Json.Field.name).Nodup
  decode_eq_some_iff {v : Json} {a : α} :
    JsonCodec.decode v = some a ↔ Json.IsRecordForm fields a v

instance {α : Type} [JsonCodec α] [JsonRecord α] : JsonForms α where
  IsForm := Json.IsRecordForm JsonRecord.fields
  HasFlaw := Json.HasRecordFlaw (JsonRecord.fields : List (Json.Field α))
  decode_eq_some_iff := JsonRecord.decode_eq_some_iff
  not_isForm h a := h.not_isRecordForm a

namespace Json

variable {α β : Type} [JsonCodec β] [JsonForms β] {found : List (String × Json)} {name : String}
  {a : α}

/-- A required field fits what `required` reads. -/
theorem fits_required (get : α → β) :
    (Field.required name get).Fits a (found.lookup (Field.required name get).name)
      ↔ required found name = some (get a) := by
  show (Field.required name get).Fits a (found.lookup name) ↔ _
  unfold required
  cases found.lookup name with
  | none => exact iff_of_false id (by simp)
  | some v => exact JsonForms.decode_eq_some_iff.symm

/-- An optional field fits what `optional` reads: absent and null are the same to it. -/
theorem fits_optional (get : α → Option β) :
    (Field.optional name get).Fits a (found.lookup (Field.optional name get).name)
      ↔ optional found name = some (get a) := by
  show (Field.optional name get).Fits a (found.lookup name) ↔ _
  unfold optional
  cases found.lookup name with
  | none => exact eq_comm.trans Option.some_inj.symm
  | some v => exact JsonForms.decode_eq_some_iff.symm

/-- **A decoding that goes by the fields takes exactly the forms of the record.** -/
theorem bind_fields_eq_some_iff {fs : List (Field α)} {names : List String} {v : Json}
    {build : List (String × Json) → Option α} (hnames : names = fs.map Field.name)
    (hnodup : names.Nodup)
    (hbuild : ∀ found, build found = some a ↔ ∀ f ∈ fs, f.Fits a (found.lookup f.name)) :
    (fields names v).bind build = some a ↔ IsRecordForm fs a v := by
  subst hnames
  rw [isRecordForm_iff hnodup, Option.bind_eq_some_iff]
  simp only [hbuild]

end Json

end SwapBridge
