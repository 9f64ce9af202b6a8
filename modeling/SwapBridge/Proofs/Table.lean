/-
  SwapBridge.Proofs.Table
  ───────────────────────
  **TABLES AS FINITE MAPS.**

  The entries of a table stand in ascending order of their keys, so a key
  stands once at most and a look-up finds exactly what is listed.

    • `Table.get?_eq_some_iff` — a look-up and the list of entries agree,
    • `Table.mem_values_iff` — a value stands under some key,
    • `Table.insert_insert` — of two writes under a key the later one counts.
-/
import SwapBridge.Table

namespace SwapBridge.Table

variable {α : Type}

/-- Among entries of different keys a look-up finds each under its own. -/
theorem lookup_of_mem {k : String} {v : α} :
    ∀ {es : List (String × α)}, (es.map Prod.fst).Nodup → (k, v) ∈ es → es.lookup k = some v
  | [], _, h => absurd h List.not_mem_nil
  | (a, b) :: es, hp, h => by
    obtain ⟨hfresh, hp⟩ := List.nodup_cons.1 hp
    rw [lookup_cons_eq]
    rcases List.mem_cons.1 h with heq | hmem
    · injection heq with hk hv
      rw [if_pos hk, hv]
    · have hne : k ≠ a := by
        rintro rfl
        exact hfresh (List.mem_map.2 ⟨(k, v), hmem, rfl⟩)
      rw [if_neg hne]
      exact lookup_of_mem hp hmem

/-- What is looked up is one of the entries. -/
theorem mem_of_lookup {k : String} {v : α} :
    ∀ {es : List (String × α)}, es.lookup k = some v → (k, v) ∈ es
  | [], h => by simp at h
  | (a, b) :: es, h => by
    rw [lookup_cons_eq] at h
    split at h
    · rename_i hk
      injection h with h
      rw [hk, h]
      exact List.mem_cons_self
    · exact List.mem_cons_of_mem _ (mem_of_lookup h)

/-- No key stands twice. -/
theorem nodup_keys (t : Table α) : t.keys.Nodup := by
  unfold keys
  refine List.pairwise_map.2 (t.ascending.imp fun hlt heq => ?_)
  rw [heq] at hlt
  exact String.lt_irrefl _ hlt

/-- **A look-up and the list of entries agree.** -/
theorem get?_eq_some_iff {t : Table α} {k : String} {v : α} :
    t.get? k = some v ↔ (k, v) ∈ t.entries :=
  ⟨mem_of_lookup, lookup_of_mem t.nodup_keys⟩

/-- A value is in the table if some key gets it. -/
theorem mem_values_iff {t : Table α} {v : α} : v ∈ t.values ↔ ∃ k, t.get? k = some v := by
  unfold values
  rw [List.mem_map]
  constructor
  · rintro ⟨⟨k, u⟩, hm, rfl⟩
    exact ⟨k, get?_eq_some_iff.2 hm⟩
  · rintro ⟨k, hk⟩
    exact ⟨(k, v), get?_eq_some_iff.1 hk, rfl⟩

/-- The later of two insertions under one key is the one that counts. -/
theorem insertEntry_insertEntry (k : String) (u v : α) (es : List (String × α)) :
    insertEntry k v (insertEntry k u es) = insertEntry k v es := by
  induction es with
  | nil => simp [insertEntry]
  | cons e es ih =>
    by_cases hlt : k < e.1
    · simp [insertEntry, hlt]
    · by_cases hgt : e.1 < k
      · simp [insertEntry, hlt, hgt, ih]
      · simp [insertEntry, hlt, hgt]

/-- **Of two writes under a key the later one counts.** -/
theorem insert_insert (t : Table α) (k : String) (u v : α) :
    (t.insert k u).insert k v = t.insert k v := by
  unfold insert
  congr 1
  exact insertEntry_insertEntry k u v t.entries

end SwapBridge.Table
