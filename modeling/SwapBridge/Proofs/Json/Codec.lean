/-
  SwapBridge.Proofs.Json.Codec
  ────────────────────────────
  **FORMS THAT ARE READ BACK.**

  A form is lawful if decoding undoes encoding.  Texts, numbers and truth
  values have lawful forms, and so does a record of lawful fields: what is
  written of it is one of its forms.

    • `LawfulJsonCodec` — the law, with what the text of a form needs,
    • `JsonCodec.read_write` — a value is read back from its text,
    • `JsonRecord.decode_record` — a record is read back from its fields,
    • the forms of settings.
-/
import SwapBridge.Proofs.Json.Record
import SwapBridge.Proofs.Json.RoundTrip
import SwapBridge.Proofs.Table
import SwapBridge.Settings

namespace SwapBridge

/-- A form that is undone by decoding. -/
class LawfulJsonCodec (α : Type) [JsonCodec α] : Prop where
  valid : ∀ a : α, (JsonCodec.encode a).Valid
  decode_encode : ∀ a : α, JsonCodec.decode (JsonCodec.encode a) = some a

/-- A form that is not mistaken for one of nothing. -/
class NotNull (α : Type) [JsonCodec α] : Prop where
  encode_ne_null : ∀ a : α, JsonCodec.encode a ≠ .null

/-- **A value is read back from its text.** -/
theorem JsonCodec.read_write {α : Type} [JsonCodec α] [LawfulJsonCodec α] (a : α) :
    (JsonCodec.read (JsonCodec.write a) : Option α) = some a := by
  unfold JsonCodec.read JsonCodec.write
  rw [Json.read_write (LawfulJsonCodec.valid a)]
  exact LawfulJsonCodec.decode_encode a

/-- **Different values have different texts.** -/
theorem JsonCodec.write_inj {α : Type} [JsonCodec α] [LawfulJsonCodec α] {a b : α} :
    JsonCodec.write a = JsonCodec.write b ↔ a = b := by
  refine ⟨fun h => ?_, fun h => h ▸ rfl⟩
  apply Option.some.inj
  rw [← read_write a, ← read_write b, h]

namespace Json

/-! ## §1. Leaves. -/

/-- **The digits of a number are a numeral.** -/
theorem isNumeral_digits (n : Nat) : IsNumeral (Decimal.digits n) := by
  have hwhole : IsWhole (Decimal.digits n) := by
    rcases Nat.eq_zero_or_pos n with rfl | hn
    · exact .zero
    · obtain ⟨c, cs, hdigits, hc⟩ := Decimal.digits_of_pos hn
      rw [hdigits]
      exact .positive hc fun d hd => Decimal.isDigit_of_mem_digits (hdigits ▸ hd)
  exact ⟨[], _, [], [], (List.append_nil _).symm, .inl rfl, hwhole, .inl rfl, .inl rfl⟩

instance : LawfulJsonCodec String where
  valid s := .string (some s)
  decode_encode _ := rfl

instance : LawfulJsonCodec Bool where
  valid b := .bool b
  decode_encode _ := rfl

instance : LawfulJsonCodec UInt64 where
  valid n := .number (isNumeral_digits n.toNat)
  decode_encode n := by
    show (Decimal.readBelow? UInt64.size (Decimal.digits n.toNat)).map UInt64.ofNat = some n
    rw [Decimal.readBelow?_digits n.toNat_lt_size]
    simp

instance {α : Type} [JsonCodec α] [LawfulJsonCodec α] [NotNull α] : LawfulJsonCodec (Option α) where
  valid a := by
    cases a with
    | none => exact .null
    | some a => exact LawfulJsonCodec.valid a
  decode_encode a := by
    cases a with
    | none => rfl
    | some a =>
      show decodeOption JsonCodec.decode (JsonCodec.encode a) = _
      have hdecode := LawfulJsonCodec.decode_encode a
      have hnull := NotNull.encode_ne_null a
      unfold decodeOption
      split
      · rename_i h
        exact absurd h hnull
      · rw [hdecode]
        rfl

/-! ## §2. Records. -/

section Records

variable {ms : List (String × Json)} {names : List String}

theorem valid_record_nil : (record []).Valid := .object fun _ h => by cases h

/-- Members are valid one by one. -/
theorem valid_record_cons {α : Type} [JsonCodec α] [LawfulJsonCodec α] (name : String) (a : α)
    (h : (record ms).Valid) : (record ((name, JsonCodec.encode a) :: ms)).Valid := by
  cases h with
  | object h =>
    refine .object fun e he => ?_
    rcases List.mem_cons.1 he with rfl | he
    · exact LawfulJsonCodec.valid a
    · exact h e he

/-- A member of a record is all that is given under its name. -/
theorem given_record {e : String × Json} (hnodup : (ms.map Prod.fst).Nodup) (he : e ∈ ms) :
    given e.1 (ms.map fun e => (some e.1, e.2)) = [e.2] := by
  induction ms with
  | nil => cases he
  | cons d ms ih =>
    obtain ⟨hfresh, hnodup⟩ := List.nodup_cons.1 hnodup
    rw [List.map_cons]
    rcases List.mem_cons.1 he with rfl | he
    · rw [given_cons_of_eq, List.cons_inj_right, List.eq_nil_iff_forall_not_mem]
      intro v hv
      obtain ⟨d, hd, heq⟩ := List.mem_map.1 (mem_given.1 hv)
      have hname : d.1 = e.1 := Option.some.inj (congrArg Prod.fst heq)
      exact hfresh (hname ▸ List.mem_map_of_mem hd)
    · have hne : d.1 ≠ e.1 := fun h => hfresh (h ▸ List.mem_map_of_mem he)
      rw [given_cons_of_ne (by simpa using hne), ih hnodup he]

/-- Each field of a record is among its members. -/
theorem exists_member {α : Type} {fs : List (Field α)} {R : Field α → String × Json → Prop}
    (h : List.Forall₂ R fs ms) {f : Field α} (hf : f ∈ fs) : ∃ e ∈ ms, R f e := by
  induction h with
  | nil => cases hf
  | @cons g e fs ms hge _ ih =>
    rcases List.mem_cons.1 hf with rfl | hf
    · exact ⟨e, List.mem_cons_self, hge⟩
    · obtain ⟨e', he', hfe⟩ := ih hf
      exact ⟨e', List.mem_cons_of_mem _ he', hfe⟩

/-- **A record is read back from its fields.** -/
theorem decode_record {α : Type} [JsonCodec α] [JsonRecord α] {a : α}
    (h : List.Forall₂ (fun (f : Field α) e => f.name = e.1 ∧ f.IsValue a e.2)
      JsonRecord.fields ms) : JsonCodec.decode (record ms) = some a := by
  have hnames : (JsonRecord.fields : List (Field α)).map Field.name = ms.map Prod.fst := by
    rw [← List.forall₂_eq_eq_eq, List.forall₂_map_left_iff, List.forall₂_map_right_iff]
    exact h.imp fun _ _ => And.left
  have hnodup : (ms.map Prod.fst).Nodup := hnames ▸ JsonRecord.nodup
  refine JsonRecord.decode_eq_some_iff.2 (.object ⟨?_, fun f hf => ?_⟩)
  · exact List.forall_mem_map.2 fun e _ => Option.some_ne_none e.1
  · obtain ⟨e, he, hname, hvalue⟩ := exists_member h hf
    exact ⟨some e.2, hname ▸ given_record hnodup he, hvalue⟩

/-- What is written is one of the forms that are read. -/
theorem isForm_encode {α : Type} [JsonCodec α] [LawfulJsonCodec α] [JsonForms α] (a : α) :
    JsonForms.IsForm a (JsonCodec.encode a) :=
  JsonForms.decode_eq_some_iff.1 (LawfulJsonCodec.decode_encode a)

end Records

/-! ## §3. Settings. -/

instance : JsonRecord Scope where
  fields := [.required "read" Scope.read, .required "write" Scope.write]
  nodup := by decide
  decode_eq_some_iff {v a} := by
    refine bind_fields_eq_some_iff rfl (by decide) fun found => ?_
    obtain ⟨read, write⟩ := a
    simp [Option.bind_eq_some_iff, fits_required]

instance : LawfulJsonCodec Scope where
  valid s :=
    valid_record_cons "read" s.read <| valid_record_cons "write" s.write valid_record_nil
  decode_encode s := decode_record <|
    .cons ⟨rfl, isForm_encode s.read⟩ <| .cons ⟨rfl, isForm_encode s.write⟩ .nil

instance : JsonRecord Credential where
  fields := [.required "tenant_id" Credential.tenantId, .required "token" Credential.token,
    .required "scope" Credential.scope]
  nodup := by decide
  decode_eq_some_iff {v a} := by
    refine bind_fields_eq_some_iff rfl (by decide) fun found => ?_
    obtain ⟨tenantId, token, scope⟩ := a
    simp [Option.bind_eq_some_iff, fits_required]

instance : LawfulJsonCodec Credential where
  valid c :=
    valid_record_cons "tenant_id" c.tenantId <| valid_record_cons "token" c.token <|
      valid_record_cons "scope" c.scope valid_record_nil
  decode_encode c := decode_record <|
    .cons ⟨rfl, isForm_encode c.tenantId⟩ <| .cons ⟨rfl, isForm_encode c.token⟩ <|
      .cons ⟨rfl, isForm_encode c.scope⟩ .nil

instance : JsonRecord WalletRef where
  fields := [.required "id" WalletRef.id, .required "name" WalletRef.name]
  nodup := by decide
  decode_eq_some_iff {v a} := by
    refine bind_fields_eq_some_iff rfl (by decide) fun found => ?_
    obtain ⟨id, name⟩ := a
    simp [Option.bind_eq_some_iff, fits_required]

instance : LawfulJsonCodec WalletRef where
  valid w := valid_record_cons "id" w.id <| valid_record_cons "name" w.name valid_record_nil
  decode_encode w := decode_record <|
    .cons ⟨rfl, isForm_encode w.id⟩ <| .cons ⟨rfl, isForm_encode w.name⟩ .nil

instance : NotNull WalletRef := ⟨fun _ => by simp [JsonCodec.encode, record]⟩

/-- A mode is given by its name, alone or as the one member of an object. -/
instance : JsonForms Mode where
  IsForm m v := v = .string (some m.name) ∨ v = .object [(some m.name, .null)]
  HasFlaw _ := False
  decode_eq_some_iff {v m} := by
    show (choiceName v).bind _ = some m ↔ _
    rw [← choiceName_eq_some_iff, Option.bind_eq_some_iff]
    constructor
    · rintro ⟨name, hname, hlookup⟩
      have hlisted := Table.mem_of_lookup hlookup
      simp only [List.mem_cons, Prod.mk.injEq, List.not_mem_nil, or_false] at hlisted
      rcases hlisted with ⟨rfl, rfl⟩ | ⟨rfl, rfl⟩ <;> exact hname
    · exact fun h => ⟨m.name, h, by cases m <;> rfl⟩
  not_isForm h := h.elim

instance : LawfulJsonCodec Mode where
  valid m := .string (some m.name)
  decode_encode m := by cases m <;> decide

instance : JsonRecord Settings where
  fields := [.required "mode" Settings.mode, .required "grpc_url" Settings.address,
    .required "credential" Settings.credential, .optional "standalone_wallet" Settings.wallet]
  nodup := by decide
  decode_eq_some_iff {v a} := by
    refine bind_fields_eq_some_iff rfl (by decide) fun found => ?_
    obtain ⟨mode, address, credential, wallet⟩ := a
    simp [Option.bind_eq_some_iff, fits_required, fits_optional]

instance : LawfulJsonCodec Settings where
  valid s :=
    valid_record_cons "mode" s.mode <| valid_record_cons "grpc_url" s.address <|
      valid_record_cons "credential" s.credential <|
        valid_record_cons "standalone_wallet" s.wallet valid_record_nil
  decode_encode s := decode_record <|
    .cons ⟨rfl, isForm_encode s.mode⟩ <| .cons ⟨rfl, isForm_encode s.address⟩ <|
      .cons ⟨rfl, isForm_encode s.credential⟩ <| .cons ⟨rfl, isForm_encode s.wallet⟩ .nil

end Json

end SwapBridge
