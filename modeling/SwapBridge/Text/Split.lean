/-
  SwapBridge.Text.Split
  ─────────────────────
  **CUTTING A TEXT AT A MARK.**

    • `cut?` — the text before and after the first place where the mark stands,
    • `cutLast?` — the same at the last place of a one-character mark,
    • `occurs`, `occurs_iff` — whether a text stands in another,
    • `pieces` — all texts between the places of a one-character mark.
-/

namespace SwapBridge.Text

/-- What stands before and after the first `mark`. -/
def cut? (mark : List Char) : List Char → Option (List Char × List Char)
  | [] => if mark.isEmpty then some ([], []) else none
  | c :: cs =>
    if mark.isPrefixOf (c :: cs) then some ([], (c :: cs).drop mark.length)
    else (cut? mark cs).map fun (before, after) => (c :: before, after)

/-- What stands before and after the last `mark`. -/
def cutLast? (mark : Char) (cs : List Char) : Option (List Char × List Char) :=
  (cut? [mark] cs.reverse).map fun (before, after) => (after.reverse, before.reverse)

/-- Whether `part` stands anywhere in the text. -/
def occurs (part cs : List Char) : Bool := (cut? part cs).isSome

/-- The texts between the marks; always one more than there are marks. -/
def pieces (mark : Char) (cs : List Char) : List (List Char) := cs.splitOn mark

/-- A cut loses nothing. -/
theorem eq_append_of_cut? {mark cs before after : List Char}
    (h : cut? mark cs = some (before, after)) : cs = before ++ mark ++ after := by
  induction cs generalizing before after with
  | nil =>
    rw [cut?] at h
    split at h <;> simp_all
  | cons c cs ih =>
    rw [cut?] at h
    split at h
    · rename_i hp
      obtain ⟨rest, hrest⟩ := List.isPrefixOf_iff_prefix.1 hp
      simp only [Option.some.injEq, Prod.mk.injEq] at h
      obtain ⟨rfl, rfl⟩ := h
      simp [← hrest]
    · obtain ⟨⟨b, a⟩, hba, heq⟩ := Option.map_eq_some_iff.1 h
      simp only [Prod.mk.injEq] at heq
      obtain ⟨rfl, rfl⟩ := heq
      simp [ih hba]

/-- Before the first place of a one-character mark the mark does not stand. -/
theorem cut?_append {m : Char} {before : List Char} (h : m ∉ before) (after : List Char) :
    cut? [m] (before ++ m :: after) = some (before, after) := by
  induction before with
  | nil => simp [cut?]
  | cons c cs ih =>
    rw [List.mem_cons, not_or] at h
    obtain ⟨hc, hcs⟩ := h
    simp [cut?, hc, ih hcs]

/-- Without the mark there is no cut. -/
theorem cut?_of_not_mem {m : Char} {cs : List Char} (h : m ∉ cs) : cut? [m] cs = none := by
  induction cs with
  | nil => rfl
  | cons c cs ih =>
    rw [List.mem_cons, not_or] at h
    obtain ⟨hc, hcs⟩ := h
    simp [cut?, hc, ih hcs]

/-- There is a cut exactly where the mark stands. -/
theorem cut?_eq_none_iff {mark cs : List Char} (h : mark ≠ []) :
    cut? mark cs = none ↔ ¬ mark <:+: cs := by
  induction cs with
  | nil => simp [cut?, h]
  | cons c cs ih =>
    rw [cut?, List.infix_cons_iff, not_or, ← ih]
    split
    · rename_i hp
      simp [List.isPrefixOf_iff_prefix.1 hp]
    · rename_i hp
      rw [Option.map_eq_none_iff, and_iff_right fun h => hp (List.isPrefixOf_iff_prefix.2 h)]

/-- A part `occurs` in a text that goes on on both sides of it. -/
theorem occurs_iff {part cs : List Char} (h : part ≠ []) :
    occurs part cs = true ↔ part <:+: cs := by
  unfold occurs
  rw [← Option.ne_none_iff_isSome, Ne, cut?_eq_none_iff h, Classical.not_not]

/-- A piece holds characters of the text, and never the mark. -/
theorem of_mem_pieces {m : Char} {cs piece : List Char} (h : piece ∈ pieces m cs) :
    m ∉ piece ∧ ∀ c ∈ piece, c ∈ cs := by
  unfold pieces at h
  by_cases hm : m ∈ cs
  · obtain ⟨before, after, rfl, hbefore⟩ := List.eq_append_cons_of_mem hm
    rw [List.splitOn_append_cons_self_of_not_mem hbefore, List.mem_cons] at h
    rcases h with rfl | h
    · exact ⟨hbefore, fun c hc => List.mem_append_left _ hc⟩
    · obtain ⟨hmark, hchars⟩ := of_mem_pieces h
      exact ⟨hmark, fun c hc => by simp [hchars c hc]⟩
  · rw [List.splitOn_eq_singleton hm, List.mem_singleton] at h
    subst h
    exact ⟨hm, fun _ hc => hc⟩
termination_by cs.length

end SwapBridge.Text
