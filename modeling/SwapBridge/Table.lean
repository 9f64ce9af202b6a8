/-
  SwapBridge.Table
  ────────────────
  **TABLES BY TEXT KEY.**

  A table holds at most one value per key, and its entries stand in ascending
  order of the keys, character by character.  The order is part of the type.

    • `get?_insert`, `get?_erase` — what a write does to a look-up,
    • `Table.ascending` — no key stands twice, and entries come in order.
-/

namespace SwapBridge

structure Table (α : Type) where
  entries : List (String × α)
  ascending : entries.Pairwise (fun a b => a.1 < b.1)
  deriving DecidableEq, Repr

namespace Table

variable {α β : Type}

/-! ## §1. Operations on entries. -/

/-- Puts a value in its place; it takes the place of one with the same key. -/
def insertEntry (k : String) (v : α) : List (String × α) → List (String × α)
  | [] => [(k, v)]
  | e :: es =>
    if k < e.1 then (k, v) :: e :: es
    else if e.1 < k then e :: insertEntry k v es
    else (k, v) :: es

theorem mem_insertEntry {k : String} {v : α} {e : String × α} {es : List (String × α)}
    (h : e ∈ insertEntry k v es) : e = (k, v) ∨ e ∈ es := by
  induction es with
  | nil => simpa [insertEntry] using h
  | cons d ds ih =>
    rw [insertEntry] at h
    split at h
    · simpa using h
    · split at h
      · rcases List.mem_cons.1 h with h | h
        · exact .inr (by simp [h])
        · exact (ih h).imp id fun h => by simp [h]
      · rcases List.mem_cons.1 h with h | h
        · exact .inl h
        · exact .inr (by simp [h])

theorem eq_of_not_lt {a b : String} (h : ¬ a < b) (h' : ¬ b < a) : a = b :=
  String.le_antisymm h' h

theorem ascending_insertEntry (k : String) (v : α) {es : List (String × α)}
    (h : es.Pairwise fun a b => a.1 < b.1) :
    (insertEntry k v es).Pairwise fun a b => a.1 < b.1 := by
  induction es with
  | nil => simp [insertEntry]
  | cons d ds ih =>
    have hd := List.pairwise_cons.1 h
    rw [insertEntry]
    split
    · rename_i hlt
      refine List.pairwise_cons.2 ⟨fun e he => ?_, h⟩
      rcases List.mem_cons.1 he with rfl | he
      · exact hlt
      · exact String.lt_trans hlt (hd.1 e he)
    · rename_i hnlt
      split
      · rename_i hgt
        refine List.pairwise_cons.2 ⟨fun e he => ?_, ih hd.2⟩
        rcases mem_insertEntry he with rfl | he
        · exact hgt
        · exact hd.1 e he
      · rename_i hngt
        have hk : k = d.1 := eq_of_not_lt hnlt hngt
        exact List.pairwise_cons.2 ⟨fun e he => hk ▸ hd.1 e he, hd.2⟩

/-! ## §2. Tables. -/

def empty : Table α := ⟨[], .nil⟩

instance : Inhabited (Table α) := ⟨empty⟩

def get? (t : Table α) (k : String) : Option α := t.entries.lookup k

def contains (t : Table α) (k : String) : Bool := (t.get? k).isSome

def insert (t : Table α) (k : String) (v : α) : Table α :=
  ⟨insertEntry k v t.entries, ascending_insertEntry k v t.ascending⟩

def erase (t : Table α) (k : String) : Table α :=
  ⟨t.entries.filter (·.1 != k), t.ascending.filter _⟩

/-- The values in the order of their keys. -/
def values (t : Table α) : List α := t.entries.map (·.2)

def keys (t : Table α) : List String := t.entries.map (·.1)

def size (t : Table α) : Nat := t.entries.length

def ofList (es : List (String × α)) : Table α :=
  es.foldl (fun t e => t.insert e.1 e.2) empty

/-! ## §3. What a look-up finds. -/

@[simp] theorem get?_empty (k : String) : (empty : Table α).get? k = none := rfl

theorem lookup_cons_eq (k l : String) (v : α) (es : List (String × α)) :
    ((k, v) :: es).lookup l = if l = k then some v else es.lookup l := by
  by_cases h : l = k
  · simp [h]
  · rw [List.lookup_cons, beq_eq_false_iff_ne.2 h, if_neg h]

theorem lookup_insertEntry (k l : String) (v : α) (es : List (String × α)) :
    (insertEntry k v es).lookup l = if l = k then some v else es.lookup l := by
  induction es with
  | nil => simp [insertEntry, lookup_cons_eq]
  | cons d ds ih =>
    obtain ⟨a, b⟩ := d
    rw [insertEntry]
    split
    · rw [lookup_cons_eq]
    · split
      · rename_i hgt
        have hne : a ≠ k := fun h => String.lt_irrefl _ (h ▸ hgt)
        rw [lookup_cons_eq, ih, lookup_cons_eq]
        by_cases h : l = a
        · subst h; simp [hne]
        · simp [h]
      · rename_i hnlt hngt
        have hk : k = a := eq_of_not_lt hnlt hngt
        subst hk
        rw [lookup_cons_eq, lookup_cons_eq]
        split <;> rfl

@[simp] theorem get?_insert (t : Table α) (k l : String) (v : α) :
    (t.insert k v).get? l = if l = k then some v else t.get? l :=
  lookup_insertEntry k l v t.entries

theorem lookup_filter_ne (k l : String) (es : List (String × α)) :
    (es.filter (·.1 != k)).lookup l = if l = k then none else es.lookup l := by
  induction es with
  | nil => simp
  | cons d ds ih =>
    obtain ⟨a, b⟩ := d
    by_cases ha : a = k
    · subst ha
      rw [List.filter_cons_of_neg (by simp), ih, lookup_cons_eq]
      split <;> rfl
    · rw [List.filter_cons_of_pos (by simpa using ha), lookup_cons_eq, ih, lookup_cons_eq]
      by_cases hl : l = a
      · subst hl; simp [ha]
      · simp [hl]

@[simp] theorem get?_erase (t : Table α) (k l : String) :
    (t.erase k).get? l = if l = k then none else t.get? l :=
  lookup_filter_ne k l t.entries

end Table

end SwapBridge
