/-
  SwapBridge.Proofs.Json.Scanner
  ──────────────────────────────
  **SCANNER AND READER OVER ONE TEXT.**

  The scanner and the reader are followed together, character by character.
  Blanks between words change nothing, marks are words of their own, and a
  word without an end of its own is ended by what may follow it.  Behind a
  whole value no further word is taken.

    • `Machine.feed` — scanner and reader as one machine over characters,
    • `feed_spaces`, `feed_mark` — what stands between words,
    • `feed_pending` — numbers and names are ended by what follows,
    • `readChars_eq` — a text is read by the machine from its start,
    • `nothing_follows` — behind a value anything but blanks is refused.
-/
import Mathlib.Tactic.SplitIfs
import SwapBridge.Json.Reader

namespace SwapBridge.Json

variable {m : Machine} {s z : Scan} {c : Char} {b cs rest : List Char} {t : Token}
  {v : Json}

/-! ## §1. Scanner and reader as one machine. -/

/-- The reader after the rest of a text, in which the scanner is at `s`. -/
def Machine.feed (m : Machine) (s : Scan) (cs : List Char) : Option Machine :=
  (Scan.run [] s cs).bind (·.foldlM Machine.step m)

/-- What was read before comes before what is read now. -/
theorem run_eq (done : List Token) (s : Scan) (cs : List Char) :
    Scan.run done s cs = (Scan.run [] s cs).map (done.reverse ++ ·) := by
  induction cs generalizing done s with
  | nil =>
    unfold Scan.run
    cases s.finish <;> simp
  | cons c cs ih =>
    unfold Scan.run
    cases s.step c with
    | none => rfl
    | some r =>
      obtain ⟨ts, s'⟩ := r
      dsimp only
      rw [ih (ts.reverse ++ done), ih (ts.reverse ++ [])]
      cases Scan.run [] s' cs <;> simp

/-- One character: what it completes goes to the machine, and the rest is read from there.
-/
theorem feed_cons (m : Machine) (s : Scan) (c : Char) (cs : List Char) :
    m.feed s (c :: cs)
      = (s.step c).bind fun r => (r.1.foldlM Machine.step m).bind (·.feed r.2 cs) := by
  unfold Machine.feed
  rw [Scan.run]
  cases s.step c with
  | none => rfl
  | some r =>
    obtain ⟨ts, s'⟩ := r
    show (Scan.run (ts.reverse ++ []) s' cs).bind _ = _
    rw [run_eq, List.append_nil, List.reverse_reverse]
    cases h : Scan.run [] s' cs <;> simp [h, List.foldlM_append]

/-- A character inside a word. -/
theorem feed_inside (h : s.step c = some ([], z)) : m.feed s (c :: cs) = m.feed z cs := by
  rw [feed_cons, h]
  rfl

/-- A character that completes a word. -/
theorem feed_completed (h : s.step c = some ([t], .between)) :
    m.feed s (c :: cs) = (m.step t).bind (·.feed .between cs) := by
  rw [feed_cons, h]
  simp

/-! ## §2. Between words. -/

/-- Blanks only. -/
def AllSpace (b : List Char) : Prop := ∀ c ∈ b, Scan.isSpace c = true

instance (b : List Char) : Decidable (AllSpace b) :=
  List.decidableBAll (Scan.isSpace · = true) b

/-- Spaces between values complete nothing. -/
theorem start_of_isSpace (h : Scan.isSpace c = true) : Scan.start c = some ([], .between) :=
  if_pos h

/-- Blanks between words change nothing. -/
theorem feed_spaces (h : AllSpace b) (m : Machine) (rest : List Char) :
    m.feed .between (b ++ rest) = m.feed .between rest := by
  induction b with
  | nil => rfl
  | cons c b ih =>
    obtain ⟨hc, hb⟩ := List.forall_mem_cons.1 h
    rw [List.cons_append, feed_inside (s := .between) (start_of_isSpace hc), ih hb]

/-- A mark between words. -/
theorem feed_mark (h : Scan.start c = some ([t], .between)) {m' : Machine}
    (hstep : m.step t = some m') (rest : List Char) :
    m.feed .between (c :: rest) = m'.feed .between rest := by
  rw [feed_completed (s := .between) h, hstep]
  rfl

/-- What may follow a value inside of a text. -/
def Delimits (c : Char) : Prop := Scan.isSpace c = true ∨ c = ',' ∨ c = ']' ∨ c = '\x7d'

/-- The end of the text follows, or something that may follow a value. -/
def Follows : List Char → Prop
  | [] => True
  | c :: _ => Delimits c

/-- What may follow a value may do so behind spaces. -/
theorem follows_of_spaces (h : AllSpace b) (hrest : Follows rest) : Follows (b ++ rest) := by
  cases b with
  | nil => exact hrest
  | cons c b => exact .inl (h c List.mem_cons_self)

theorem follows_comma (rest : List Char) : Follows (',' :: rest) := .inr (.inl rfl)

theorem follows_endArray (rest : List Char) : Follows (']' :: rest) := .inr (.inr (.inl rfl))

theorem follows_endObject (rest : List Char) : Follows ('\x7d' :: rest) := .inr (.inr (.inr rfl))

/-- A word that has no end of its own. -/
structure Pending (s : Scan) (t : Token) : Prop where
  finish_eq : s.finish = some [t]
  step_eq : ∀ c, Delimits c → s.step c = Scan.finishThen (some t) c

/-- A pending word is completed by what follows a value. -/
theorem feed_pending (h : Pending s t) (hrest : Follows rest) :
    m.feed s rest = (m.step t).bind (·.feed .between rest) := by
  cases rest with
  | nil =>
    -- the end of the text completes the word as a comma would
    show (s.finish.map ([] ++ ·)).bind (·.foldlM Machine.step m)
      = (m.step t).bind fun m' => (Scan.between.finish.map ([] ++ ·)).bind (·.foldlM _ m')
    rw [h.finish_eq]
    cases hm : m.step t <;> simp [Scan.finish, hm]
  | cons c rest =>
    rw [feed_cons, h.step_eq c hrest]
    have hbetween : ∀ m' : Machine, m'.feed .between (c :: rest)
        = (Scan.start c).bind fun r => (r.1.foldlM Machine.step m').bind (·.feed r.2 rest) :=
      fun m' => feed_cons m' .between c rest
    simp only [hbetween]
    unfold Scan.finishThen
    cases Scan.start c with
    | none => cases m.step t <;> rfl
    | some r => cases hm : m.step t <;> simp [hm]

/-! ## §3. The end of a text. -/

/-- A text is read by the machine from its start. -/
theorem readChars_eq (cs : List Char) :
    readChars cs = (Machine.start.feed .between cs).bind Machine.result? := by
  unfold readChars Token.read Machine.feed
  rw [Option.bind_assoc]

/-- A character that is no blank begins a word, or is one. -/
theorem start_cases {ts : List Token} (h : Scan.start c = some (ts, s))
    (hspace : Scan.isSpace c = false) : ts ≠ [] ∨ s ≠ .between := by
  unfold Scan.start at h
  rw [hspace, if_neg (by simp)] at h
  split_ifs at h
  · cases h
    exact .inr (by simp)
  · cases h
    exact .inr (by simp)
  · cases h
    exact .inr (by simp)
  · cases h
    exact .inr (by simp)
  · cases h
    exact .inr (by simp)
  · obtain ⟨t, _, heq⟩ := Option.map_eq_some_iff.1 h
    cases heq
    exact .inl (by simp)

/-- A word that is ended is there. -/
theorem finishThen_ne (t : Option Token) (c : Char) (z : Scan) :
    Scan.finishThen t c ≠ some ([], z) := by
  intro h
  obtain ⟨t, _, h⟩ := Option.bind_eq_some_iff.1 h
  obtain ⟨_, _, heq⟩ := Option.map_eq_some_iff.1 h
  cases heq

/-- Inside of a word a character completes it, or the scanner stays inside. -/
theorem step_inside (hs : s ≠ .between) (h : s.step c = some ([], z)) : z ≠ .between := by
  unfold Scan.step at h
  split at h
  · exact absurd rfl hs
  · split_ifs at h
    · cases h
      simp
    · exact absurd h (finishThen_ne _ _ _)
  · split at h
    · cases h
      simp
    · exact absurd h (finishThen_ne _ _ _)
  · split_ifs at h
    · cases h
    · cases h
      simp
    · cases h
      simp
  · split_ifs at h
    · cases h
      simp
    · obtain ⟨_, _, heq⟩ := Option.map_eq_some_iff.1 h
      cases heq
      simp
  · obtain ⟨_, _, heq⟩ := Option.map_eq_some_iff.1 h
    split_ifs at heq
    · cases heq
      simp
    · cases heq
      simp

/-- A word that was begun is found, or the text has no words at all. -/
theorem run_inside {ts : List Token} (hs : s ≠ .between) (h : Scan.run [] s cs = some ts) :
    ts ≠ [] := by
  -- a word that has begun gives a token at the latest when the text ends
  induction cs generalizing s ts with
  | nil =>
    cases s with
    | between => exact absurd rfl hs
    | name chars =>
      obtain ⟨_, hfinish, rfl⟩ := Option.map_eq_some_iff.1 h
      obtain ⟨_, _, rfl⟩ := Option.map_eq_some_iff.1 hfinish
      simp
    | number part ds =>
      obtain ⟨_, hfinish, rfl⟩ := Option.map_eq_some_iff.1 h
      have hfinish : (if part.isComplete then some [Token.number ds.reverse] else none)
        = some _ := hfinish
      split_ifs at hfinish
      cases hfinish
      simp
    | string units => cases h
    | escape units => cases h
    | unicode units count value => cases h
  | cons c cs ih =>
    rw [Scan.run] at h
    cases hstep : s.step c with
    | none =>
      rw [hstep] at h
      cases h
    | some r =>
      obtain ⟨ts', s'⟩ := r
      rw [hstep] at h
      dsimp only at h
      rw [run_eq] at h
      obtain ⟨rest, hrest, rfl⟩ := Option.map_eq_some_iff.1 h
      cases ts' with
      | nil =>
        have hne := ih (step_inside hs hstep) hrest
        simpa using hne
      | cons t ts' => simp

/-- A machine that has its value takes no further word. -/
theorem step_of_next (v : Json) (t : Token) : Machine.step ⟨[], .next v⟩ t = none := by
  cases t <;> rfl

/-- Behind a complete value no token is taken. -/
theorem foldlM_of_next (v : Json) {ts : List Token} (h : ts ≠ []) :
    ts.foldlM Machine.step ⟨[], .next v⟩ = none := by
  cases ts with
  | nil => exact absurd rfl h
  | cons t ts =>
    rw [List.foldlM_cons, step_of_next]
    rfl

/-- **Behind a value nothing but blanks may follow.** -/
theorem nothing_follows (v : Json) (h : ¬ AllSpace rest) :
    Machine.feed ⟨[], .next v⟩ .between rest = none := by
  induction rest with
  | nil => exact absurd (fun _ hc => nomatch hc) h
  | cons c rest ih =>
    cases hspace : Scan.isSpace c with
    | true =>
      rw [feed_inside (s := .between) (start_of_isSpace hspace)]
      exact ih fun hrest => h (List.forall_mem_cons.2 ⟨hspace, hrest⟩)
    | false =>
      rw [feed_cons]
      show (Scan.start c).bind _ = none
      cases hstart : Scan.start c with
      | none => rfl
      | some r =>
        obtain ⟨ts, s⟩ := r
        dsimp only [Option.bind_some]
        by_cases hts : ts = []
        · -- the word that begins here is found later
          subst hts
          have hs := (start_cases hstart hspace).resolve_left (by simp)
          show Machine.feed _ s rest = none
          unfold Machine.feed
          cases hrun : Scan.run [] s rest with
          | none => rfl
          | some words => exact foldlM_of_next v (run_inside hs hrun)
        · rw [foldlM_of_next v hts]
          rfl

end SwapBridge.Json
