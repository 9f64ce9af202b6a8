/-
  SwapBridge.Proofs.Text
  ──────────────────────
  **BLANKS AROUND A TEXT AND CUTS IN IT.**

  What is trimmed and where a text is cut is said of the texts that are put
  together: blanks on the outside are lost, a character that is no blank keeps
  two sides apart, and a cut is found where the mark was put first.

    • `trim_around`, `trim_append_cons`, `exists_blanks` — blanks,
    • `trim_lowerAscii`, `mem_of_lowerAscii_eq` — small letters change neither,
    • `cutLast?_append` — the last cut,
    • `cut?_schemeEnd`, `not_isInfix_schemeEnd` — the end of a scheme.
-/
import Mathlib.Data.List.Infix
import Mathlib.Data.List.TakeWhile
import SwapBridge.Text.Blank
import SwapBridge.Text.Split

namespace SwapBridge.Text

variable {p : Char → Bool} {b b' cs : List Char} {m : Char}

/-! ## §1. Blanks. -/

/-- Nothing but blanks. -/
def AllBlank (b : List Char) : Prop := ∀ c ∈ b, isBlank c = true

instance (b : List Char) : Decidable (AllBlank b) :=
  List.decidableBAll (isBlank · = true) b

theorem allBlank_nil : AllBlank [] := fun _ hc => nomatch hc

/-- `dropWhileEnd` drops what is at the end, if it is all of the kind. -/
theorem dropWhileEnd_append_of_all (cs : List Char) (h : ∀ c ∈ b, p c = true) :
    dropWhileEnd p (cs ++ b) = dropWhileEnd p cs := by
  unfold dropWhileEnd
  rw [List.reverse_append, List.dropWhile_append_of_pos (by simpa using h)]

/-- A character that is not of the kind keeps what is in front of it. -/
theorem dropWhileEnd_append_cons (h : p m = false) (xs ys : List Char) :
    dropWhileEnd p (xs ++ m :: ys) = xs ++ m :: dropWhileEnd p ys := by
  unfold dropWhileEnd
  rw [List.reverse_append, List.reverse_cons, List.append_assoc, List.dropWhile_append]
  split
  · rename_i hall
    rw [List.isEmpty_iff.1 hall]
    simp [h]
  · simp

/-- Where none is of the kind, nothing is dropped. -/
theorem dropWhileEnd_of_none (h : ∀ c ∈ cs, p c = false) : dropWhileEnd p cs = cs := by
  cases hcs : cs.reverse with
  | nil => simp [dropWhileEnd, List.reverse_eq_nil_iff.1 hcs]
  | cons c rest =>
    have hc : p c = false := h c (List.mem_reverse.1 (hcs ▸ List.mem_cons_self))
    unfold dropWhileEnd
    rw [hcs, List.dropWhile_cons_of_neg (by simp [hc]), ← hcs, List.reverse_reverse]

/-- A character that is no blank keeps the two ends of a text apart. -/
theorem trim_append_cons (h : isBlank m = false) (xs ys : List Char) :
    trim (xs ++ m :: ys) = xs.dropWhile isBlank ++ m :: dropWhileEnd isBlank ys := by
  unfold trim
  rw [List.dropWhile_append]
  split
  · rename_i hall
    rw [List.isEmpty_iff.1 hall, List.dropWhile_cons_of_neg (by simp [h])]
    exact dropWhileEnd_append_cons h [] ys
  · exact dropWhileEnd_append_cons h _ ys

/-- **Blanks around a text are lost.** -/
theorem trim_around (hb : AllBlank b) (hb' : AllBlank b') (cs : List Char) :
    trim (b ++ cs ++ b') = trim cs := by
  unfold trim
  rw [List.append_assoc, List.dropWhile_append_of_pos hb, List.dropWhile_append]
  split
  · rename_i hall
    rw [List.isEmpty_iff.1 hall, List.dropWhile_eq_nil_iff.2 hb']
  · exact dropWhileEnd_append_of_all _ hb'

/-- Blanks that are dropped in front are lost to `trim` anyway. -/
theorem trim_dropWhile (cs : List Char) : trim (cs.dropWhile isBlank) = trim cs := by
  have hb : AllBlank (cs.takeWhile isBlank) := fun c hc => List.mem_takeWhile_imp hc
  have haround := trim_around hb allBlank_nil (cs.dropWhile isBlank)
  rwa [List.takeWhile_append_dropWhile, List.append_nil, eq_comm] at haround

/-- The same at the end. -/
theorem trim_dropWhileEnd (cs : List Char) : trim (dropWhileEnd isBlank cs) = trim cs := by
  have hb : AllBlank (cs.reverse.takeWhile isBlank).reverse := fun c hc =>
    List.mem_takeWhile_imp (List.mem_reverse.1 hc)
  have haround := trim_around allBlank_nil hb (dropWhileEnd isBlank cs)
  have hwhole : dropWhileEnd isBlank cs ++ (cs.reverse.takeWhile isBlank).reverse = cs := by
    unfold dropWhileEnd
    rw [← List.reverse_append, List.takeWhile_append_dropWhile, List.reverse_reverse]
  rwa [List.nil_append, hwhole, eq_comm] at haround

/-- Of blanks nothing is left. -/
theorem trim_of_allBlank (h : AllBlank b) : trim b = [] := by
  have haround := trim_around h allBlank_nil []
  rw [List.append_nil, List.append_nil] at haround
  rw [haround]
  rfl

/-- **A text is what is left of it**, with blanks around. -/
theorem exists_blanks (cs : List Char) :
    ∃ b b', AllBlank b ∧ AllBlank b' ∧ cs = b ++ trim cs ++ b' := by
  refine ⟨cs.takeWhile isBlank, ((cs.dropWhile isBlank).reverse.takeWhile isBlank).reverse,
    fun c hc => List.mem_takeWhile_imp hc,
    fun c hc => List.mem_takeWhile_imp (List.mem_reverse.1 hc), ?_⟩
  unfold trim dropWhileEnd
  rw [List.append_assoc, ← List.reverse_append, List.takeWhile_append_dropWhile,
    List.reverse_reverse, List.takeWhile_append_dropWhile]

/-- `trim` adds no character. -/
theorem mem_of_mem_trim {c : Char} (h : c ∈ trim cs) : c ∈ cs := by
  obtain ⟨b, b', _, _, heq⟩ := exists_blanks cs
  rw [heq]
  simp [h]

/-- A text that nothing is trimmed from does not begin with a blank. -/
theorem dropWhile_of_trim_eq (h : trim cs = cs) : cs.dropWhile isBlank = cs := by
  refine (List.dropWhile_suffix isBlank).eq_of_length_le ?_
  calc cs.length = (trim cs).length := by rw [h]
    _ = ((cs.dropWhile isBlank).reverse.dropWhile isBlank).length := List.length_reverse
    _ ≤ (cs.dropWhile isBlank).reverse.length := (List.dropWhile_suffix isBlank).length_le
    _ = (cs.dropWhile isBlank).length := List.length_reverse

/-! ## §2. Small letters. -/

/-- A character stays as it is, or is a capital letter and becomes a small one. -/
theorem toLower_cases (c : Char) :
    c.toLower = c ∨ 65 ≤ c.toNat ∧ c.toNat ≤ 90 ∧ c.toLower.toNat = c.toNat + 32 := by
  unfold Char.toLower
  split
  · rename_i h
    have hlow : 65 ≤ c.val.toNat := h.1
    have hhigh : c.val.toNat ≤ 90 := h.2
    refine .inr ⟨hlow, hhigh, ?_⟩
    show (c.val + 32).toNat = c.val.toNat + 32
    have hstep : (32 : UInt32).toNat = 32 := rfl
    rw [UInt32.toNat_add]
    omega
  · exact .inl rfl

/-- Small letters are no blanks, and neither are large ones. -/
theorem isBlank_toLower (c : Char) : isBlank c.toLower = isBlank c := by
  rcases toLower_cases c with h | ⟨hlow, hhigh, h⟩
  · rw [h]
  · have hletter : ∀ d : Char, 65 ≤ d.toNat → d.toNat ≤ 122 → isBlank d = false := by
      intro d _ _
      simp only [isBlank, Bool.or_eq_false_iff, Bool.and_eq_false_iff, decide_eq_false_iff_not,
        beq_eq_false_iff_ne]
      omega
    rw [hletter c hlow (by omega), hletter c.toLower (by omega) (by omega)]

/-- Texts that differ in the size of letters only hold the same marks. -/
theorem mem_of_lowerAscii_eq {xs ys : List Char} (h : lowerAscii xs = lowerAscii ys)
    (hsame : m.toLower = m) (hmark : ¬ (97 ≤ m.toNat ∧ m.toNat ≤ 122)) (hm : m ∈ xs) :
    m ∈ ys := by
  have hlower : m ∈ lowerAscii ys := h ▸ List.mem_map.2 ⟨m, hm, hsame⟩
  obtain ⟨c, hc, heq⟩ := List.mem_map.1 hlower
  rcases toLower_cases c with hkept | ⟨hlow, hhigh, hletter⟩
  · rwa [← heq, hkept]
  · rw [heq] at hletter
    omega

/-- Small letters do not change what is trimmed. -/
theorem trim_lowerAscii (cs : List Char) : trim (lowerAscii cs) = lowerAscii (trim cs) := by
  have hblank : isBlank ∘ Char.toLower = isBlank := funext isBlank_toLower
  unfold trim dropWhileEnd lowerAscii
  rw [List.dropWhile_map, ← List.map_reverse, List.dropWhile_map, hblank, List.map_reverse]

/-! ## §3. Cuts. -/

/-- The last place of a mark that does not stand behind it. -/
theorem cutLast?_append {after : List Char} (h : m ∉ after) (before : List Char) :
    cutLast? m (before ++ m :: after) = some (before, after) := by
  unfold cutLast?
  have hreverse : (before ++ m :: after).reverse = after.reverse ++ m :: before.reverse := by simp
  rw [hreverse, cut?_append (by simpa using h)]
  simp

/-- What divides a scheme from what follows it. -/
def schemeEnd : List Char := "://".toList

/-- Where a colon stands no earlier scheme ends behind it. -/
theorem isPrefix_schemeEnd {c : Char} {cs ys : List Char}
    (h : schemeEnd <+: c :: (cs ++ ':' :: ys)) : schemeEnd <+: c :: cs := by
  have hmark : schemeEnd = [':', '/', '/'] := rfl
  rw [hmark] at h ⊢
  obtain ⟨rest, heq⟩ := h
  match cs, heq with
  | [], heq => simp at heq
  | [d], heq => simp at heq
  | d :: d' :: cs, heq =>
    simp only [List.cons_append, List.nil_append, List.cons.injEq] at heq
    obtain ⟨rfl, rfl, rfl, _⟩ := heq
    exact ⟨cs, rfl⟩

/-- The first scheme ends where its end was put. -/
theorem cut?_schemeEnd {scheme : List Char} (h : ¬ schemeEnd <:+: scheme) (rest : List Char) :
    cut? schemeEnd (scheme ++ schemeEnd ++ rest) = some (scheme, rest) := by
  induction scheme with
  | nil => rfl
  | cons c cs ih =>
    rw [List.infix_cons_iff, not_or] at h
    have hfirst : ¬ schemeEnd.isPrefixOf (c :: (cs ++ schemeEnd ++ rest)) = true := by
      intro hp
      rw [List.isPrefixOf_iff_prefix, List.append_assoc] at hp
      exact h.1 (isPrefix_schemeEnd hp)
    rw [List.cons_append, List.cons_append, cut?, if_neg hfirst, ih h.2]
    rfl

/-- A colon with no slash behind it ends no scheme. -/
theorem not_isInfix_schemeEnd {xs ys : List Char} (hxs : ¬ schemeEnd <:+: xs)
    (hys : ys.head? ≠ some '/') (hcolon : ':' ∉ ys) : ¬ schemeEnd <:+: xs ++ ':' :: ys := by
  have hmark : schemeEnd = [':', '/', '/'] := rfl
  -- a mark could only begin in `xs`, where it would need the two slashes behind the colon
  induction xs with
  | nil =>
    rw [List.nil_append, List.infix_cons_iff, not_or]
    constructor
    · rintro ⟨rest, heq⟩
      rw [hmark] at heq
      cases ys with
      | nil => simp at heq
      | cons d ys =>
        simp only [List.cons_append, List.cons.injEq] at heq
        exact hys (by rw [← heq.2.1]; rfl)
    · exact fun hin => hcolon (hin.subset List.mem_cons_self)
  | cons c cs ih =>
    rw [List.infix_cons_iff, not_or] at hxs
    rw [List.cons_append, List.infix_cons_iff, not_or]
    exact ⟨fun hp => hxs.1 (isPrefix_schemeEnd hp), ih hxs.2⟩

end SwapBridge.Text
