/-
  SwapBridge.Proofs.Json.Grammar
  ──────────────────────────────
  **EVERY TEXT OF A VALUE IS READ AS THAT VALUE.**

  The grammar of texts is said without the scanner: characters of a string may
  be escaped or not, a number has up to four parts, and blanks may stand
  between any two words.  Along such a text the machine takes in exactly the
  value, by induction on how it is spelled.

    • `SpellsString`, `IsNumeral` — the words that have many spellings,
    • `Spells`, `Texts` — a value, and a value with blanks around,
    • `feed_string`, `feed_numeral`, `feed_name` — one word each,
    • `reads_of_spells` — a whole value, wherever it stands,
    • `readChars_of_texts`, `readChars_of_trailing` — a text, and one that goes on.
-/
import SwapBridge.Proofs.Json.Scanner
import SwapBridge.Text.Decimal

namespace SwapBridge.Json

variable {m : Machine} {frames : List Frame} {c : Char} {b cs rest ds : List Char}
  {units : List Nat} {t : Token} {v : Json}

/-! ## §1. Strings. -/

/-- The characters between the quotes of a string, and the numbers that they spell. -/
inductive SpellsUnits : List Nat → List Char → Prop
  | nil : SpellsUnits [] []
  | plain {c : Char} {units : List Nat} {cs : List Char} (hquote : c ≠ '"') (hslash : c ≠ '\\')
      (hcontrol : 0x20 ≤ c.toNat) (h : SpellsUnits units cs) :
      SpellsUnits (c.toNat :: units) (c :: cs)
  | short {e : Char} {n : Nat} {units : List Nat} {cs : List Char}
      (he : Scan.escaped? e = some n) (h : SpellsUnits units cs) :
      SpellsUnits (n :: units) ('\\' :: e :: cs)
  | unicode {d₁ d₂ d₃ d₄ : Char} {n₁ n₂ n₃ n₄ : Nat} {units : List Nat} {cs : List Char}
      (h₁ : Scan.hexValue? d₁ = some n₁) (h₂ : Scan.hexValue? d₂ = some n₂)
      (h₃ : Scan.hexValue? d₃ = some n₃) (h₄ : Scan.hexValue? d₄ = some n₄)
      (h : SpellsUnits units cs) :
      SpellsUnits ((((n₁ * 16 + n₂) * 16 + n₃) * 16 + n₄) :: units)
        ('\\' :: 'u' :: d₁ :: d₂ :: d₃ :: d₄ :: cs)

/-- Numbers that stand for characters: each for one, or two surrogates for one. -/
inductive Stands : List Nat → List Char → Prop
  | nil : Stands [] []
  | single {n : Nat} {units : List Nat} {cs : List Char} (hhigh : isHighSurrogate n = false)
      (hlow : isLowSurrogate n = false) (h : Stands units cs) :
      Stands (n :: units) (Char.ofNat n :: cs)
  | pair {n m : Nat} {units : List Nat} {cs : List Char} (hhigh : isHighSurrogate n = true)
      (hlow : isLowSurrogate m = true) (h : Stands units cs) :
      Stands (n :: m :: units)
        (Char.ofNat (0x10000 + (n - 0xD800) * 0x400 + (m - 0xDC00)) :: cs)

/-- **Pairs of surrogates are joined as they stand for characters.** -/
theorem joinSurrogates_eq_some_iff : joinSurrogates units = some cs ↔ Stands units cs := by
  constructor
  · intro h
    -- forwards along the function's own cases, backwards along the way the units stand
    fun_induction joinSurrogates units generalizing cs with
    | case1 =>
      cases h
      exact .nil
    | case2 n hsurrogate => cases h
    | case3 n hplain =>
      cases h
      simp only [Bool.or_eq_true, not_or, Bool.not_eq_true] at hplain
      exact .single hplain.1 hplain.2 .nil
    | case4 n m rest hhigh hlow ih =>
      obtain ⟨cs, hcs, rfl⟩ := Option.map_eq_some_iff.1 h
      exact .pair hhigh hlow (ih hcs)
    | case5 => cases h
    | case6 => cases h
    | case7 n m rest hhigh hlow ih =>
      obtain ⟨cs, hcs, rfl⟩ := Option.map_eq_some_iff.1 h
      exact .single (by simpa using hhigh) (by simpa using hlow) (ih hcs)
  · intro h
    induction h with
    | nil => rfl
    | @single n units cs hhigh hlow _ ih =>
      cases units with
      | nil =>
        cases ih
        show (if isHighSurrogate n || isLowSurrogate n then _ else _) = _
        rw [hhigh, hlow]
        rfl
      | cons m rest =>
        rw [joinSurrogates, hhigh, hlow, ih]
        rfl
    | @pair n m units cs hhigh hlow _ ih =>
      rw [joinSurrogates, hhigh, hlow, ih]
      rfl

/-- `textOfUnits` decodes what `Stands` relates: surrogates in pairs, and nothing else that
is one. -/
theorem textOfUnits_eq_some_iff {s : String} :
    textOfUnits units = some s ↔ Stands units s.toList := by
  unfold textOfUnits
  rw [Option.map_eq_some_iff, ← joinSurrogates_eq_some_iff]
  constructor
  · rintro ⟨cs, hcs, rfl⟩
    rw [String.toList_ofList, hcs]
  · exact fun h => ⟨_, h, String.ofList_toList⟩

/-- A string with its quotes, and the text that it has, if it has one. -/
def SpellsString (text : JsonText) (cs : List Char) : Prop :=
  ∃ units inner, SpellsUnits units inner ∧ (∀ s, text = some s ↔ Stands units s.toList)
    ∧ cs = '"' :: (inner ++ ['"'])

/-- Inside a string the machine collects the units that the characters spell. -/
theorem feed_units (h : SpellsUnits units cs) (m : Machine) :
    ∀ (before : List Nat) (rest : List Char), m.feed (.string before) (cs ++ rest)
      = m.feed (.string (units.reverse ++ before)) rest := by
  -- on the spelling; what was read before is general, as each step adds to it
  induction h with
  | nil => exact fun _ _ => rfl
  | @plain c units cs hquote hslash hcontrol _ ih =>
    intro before rest
    have hstep : (Scan.string before).step c = some ([], .string (c.toNat :: before)) := by
      show (if c = '"' then _ else if c = '\\' then _ else if c.toNat < 0x20 then _ else _) = _
      rw [if_neg hquote, if_neg hslash, if_neg (by omega)]
    rw [List.cons_append, feed_inside hstep, ih]
    simp
  | @short e n units cs he _ ih =>
    intro before rest
    have hu : e ≠ 'u' := by
      rintro rfl
      cases he
    have hstep : (Scan.escape before).step e = some ([], .string (n :: before)) := by
      show (if e = 'u' then _ else (Scan.escaped? e).map _) = _
      rw [if_neg hu, he]
      rfl
    rw [List.cons_append, List.cons_append, feed_inside (z := .escape before) rfl,
      feed_inside hstep, ih]
    simp
  | @unicode d₁ d₂ d₃ d₄ n₁ n₂ n₃ n₄ units cs h₁ h₂ h₃ h₄ _ ih =>
    intro before rest
    -- four digits of one escape, of which the last one ends it
    have hstep : ∀ count value d n, Scan.hexValue? d = some n →
        (Scan.unicode before count value).step d
          = some (if count = 3 then ([], .string ((value * 16 + n) :: before))
            else ([], .unicode before (count + 1) (value * 16 + n))) := by
      intro count value d n hd
      show (Scan.hexValue? d).map _ = _
      rw [hd]
      rfl
    simp only [List.cons_append]
    rw [feed_inside (z := .escape before) rfl, feed_inside (z := .unicode before 0 0) rfl,
      feed_inside (hstep 0 0 d₁ n₁ h₁), feed_inside (hstep 1 _ d₂ n₂ h₂),
      feed_inside (hstep 2 _ d₃ n₃ h₃), feed_inside (hstep 3 _ d₄ n₄ h₄), ih]
    simp

/-- **A string is one word**, whatever its characters are and however they are escaped. -/
theorem feed_string {text : JsonText} (h : SpellsString text cs) (m : Machine)
    (rest : List Char) :
    m.feed .between (cs ++ rest) = (m.step (.string text)).bind (·.feed .between rest) := by
  obtain ⟨units, inner, hunits, htext, rfl⟩ := h
  have htext : textOfUnits units = text := Option.ext fun s => by
    rw [textOfUnits_eq_some_iff, htext]
  rw [List.cons_append, List.append_assoc, feed_inside (z := .string []) rfl, feed_units hunits,
    List.append_nil]
  apply feed_completed
  show some ([Token.string (textOfUnits units.reverse.reverse)], _) = _
  rw [List.reverse_reverse, htext]

/-! ## §2. Numbers and names. -/

/-- The whole part of a number has no zero in front. -/
inductive IsWhole : List Char → Prop
  | zero : IsWhole ['0']
  | positive {c : Char} {cs : List Char} (hc : c ≠ '0') (h : ∀ d ∈ c :: cs, d.isDigit = true) :
      IsWhole (c :: cs)

/-- A sign, a whole part, a fraction and an exponent, of which only the second must be there. -/
def IsNumeral (ds : List Char) : Prop :=
  ∃ sign whole fraction exponent, ds = sign ++ (whole ++ (fraction ++ exponent))
    ∧ (sign = [] ∨ sign = ['-'])
    ∧ IsWhole whole
    ∧ (fraction = [] ∨ ∃ f, fraction = '.' :: f ∧ Decimal.isNumeral f = true)
    ∧ (exponent = [] ∨ ∃ mark sign' e, exponent = mark :: (sign' ++ e)
        ∧ (mark = 'e' ∨ mark = 'E') ∧ (sign' = [] ∨ sign' = ['+'] ∨ sign' = ['-'])
        ∧ Decimal.isNumeral e = true)

/-- Where a digit leads, if one may stand here. -/
def NumberPart.onDigit : NumberPart → Option NumberPart
  | .sign | .zero => none
  | .whole => some .whole
  | .point | .fraction => some .fraction
  | .exponentMark | .exponentSign | .exponent => some .exponent

/-- Where one digit leads, further ones go on. -/
theorem next_digit {p q : NumberPart} (hp : p.onDigit = some q) (hc : c.isDigit = true) :
    p.next c = some q ∧ q.onDigit = some q := by
  cases p <;> cases hp <;> simp [NumberPart.next, NumberPart.onDigit, hc]

/-- Digits leave a part of a number that takes digits as it is. -/
theorem foldlM_digits {p : NumberPart} (hp : p.onDigit = some p)
    (h : ∀ c ∈ cs, c.isDigit = true) : cs.foldlM NumberPart.next p = some p := by
  induction cs with
  | nil => rfl
  | cons c cs ih =>
    obtain ⟨hc, hcs⟩ := List.forall_mem_cons.1 h
    rw [List.foldlM_cons, (next_digit hp hc).1]
    exact ih hcs

/-- The first digit decides which part it is, the others follow. -/
theorem foldlM_isNumeral {p q : NumberPart} (hp : p.onDigit = some q)
    (h : Decimal.isNumeral cs = true) : cs.foldlM NumberPart.next p = some q := by
  simp only [Decimal.isNumeral, Bool.and_eq_true, Bool.not_eq_true', List.isEmpty_eq_false_iff,
    List.all_eq_true] at h
  obtain ⟨c, rest, rfl⟩ := List.exists_cons_of_ne_nil h.1
  obtain ⟨hc, hrest⟩ := List.forall_mem_cons.1 h.2
  obtain ⟨hnext, hq⟩ := next_digit hp hc
  rw [List.foldlM_cons, hnext]
  exact foldlM_digits hq hrest

/-- A digit other than zero opens a number. -/
theorem start_digit {c : Char} (h : c.isDigit = true) (hc : c ≠ '0') :
    Scan.start c = some ([], .number .whole [c]) := by
  have hne : ∀ d : Char, d.isDigit = false → c ≠ d := by
    rintro d hd rfl
    rw [h] at hd
    cases hd
  have hspace : Scan.isSpace c = false := by
    unfold Scan.isSpace
    simp [hne ' ' rfl, hne '\t' rfl, hne '\n' rfl, hne '\r' rfl]
  unfold Scan.start
  rw [hspace, if_neg (by simp), if_neg (hne '"' rfl), if_neg (hne '-' rfl), if_neg hc, if_pos h]

/-- A whole part opens a number, or goes on with one behind its sign. -/
theorem IsWhole.foldlM_next {whole : List Char} (h : IsWhole whole) :
    ∃ p, (p = .zero ∨ p = .whole) ∧ whole.foldlM NumberPart.next .sign = some p
      ∧ ∃ c cs p₀, whole = c :: cs ∧ Scan.start c = some ([], .number p₀ [c])
        ∧ cs.foldlM NumberPart.next p₀ = some p := by
  cases h with
  | zero => exact ⟨.zero, .inl rfl, rfl, '0', [], .zero, rfl, rfl, rfl⟩
  | @positive c cs hc h =>
    obtain ⟨hdigit, hcs⟩ := List.forall_mem_cons.1 h
    have hrest : cs.foldlM NumberPart.next .whole = some .whole := foldlM_digits rfl hcs
    have hsign : NumberPart.next .sign c = some .whole := by
      show (if c = '0' then _ else if c.isDigit then _ else _) = _
      rw [if_neg hc, if_pos hdigit]
    refine ⟨.whole, .inr rfl, ?_, c, cs, .whole, rfl, start_digit hdigit hc, hrest⟩
    rw [List.foldlM_cons, hsign]
    exact hrest

/-- A fraction comes behind the whole part, if it comes. -/
theorem foldlM_fraction {p : NumberPart} (hp : p = .zero ∨ p = .whole) {fraction : List Char}
    (h : fraction = [] ∨ ∃ f, fraction = '.' :: f ∧ Decimal.isNumeral f = true) :
    ∃ q, (q = .zero ∨ q = .whole ∨ q = .fraction)
      ∧ fraction.foldlM NumberPart.next p = some q := by
  rcases h with rfl | ⟨f, rfl, hf⟩
  · exact ⟨p, hp.imp_right .inl, rfl⟩
  · have hpoint : p.next '.' = some .point := by rcases hp with rfl | rfl <;> rfl
    refine ⟨.fraction, .inr (.inr rfl), ?_⟩
    rw [List.foldlM_cons, hpoint]
    exact foldlM_isNumeral rfl hf

/-- An exponent comes last; in front of it may be the whole part or the fraction. -/
theorem foldlM_exponent {q : NumberPart} (hq : q = .zero ∨ q = .whole ∨ q = .fraction)
    {exponent : List Char}
    (h : exponent = [] ∨ ∃ mark sign e, exponent = mark :: (sign ++ e)
      ∧ (mark = 'e' ∨ mark = 'E') ∧ (sign = [] ∨ sign = ['+'] ∨ sign = ['-'])
      ∧ Decimal.isNumeral e = true) :
    ∃ r, r.isComplete = true ∧ exponent.foldlM NumberPart.next q = some r := by
  rcases h with rfl | ⟨mark, sign, e, rfl, hmark, hsign, he⟩
  · refine ⟨q, ?_, rfl⟩
    rcases hq with rfl | rfl | rfl <;> rfl
  -- the mark may come after any part that could also be the last one
  · have hopen : q.next mark = some .exponentMark := by
      rcases hq with rfl | rfl | rfl <;> rcases hmark with rfl | rfl <;> rfl
    refine ⟨.exponent, rfl, ?_⟩
    rw [List.foldlM_cons, hopen, Option.bind_eq_bind, Option.bind_some]
    rcases hsign with rfl | rfl | rfl
    · exact foldlM_isNumeral rfl he
    · exact foldlM_isNumeral (p := .exponentSign) rfl he
    · exact foldlM_isNumeral (p := .exponentSign) rfl he

/-- **The first character of a numeral opens a number**, the others go on with it, and it
may end behind them. -/
theorem IsNumeral.drives (h : IsNumeral ds) :
    ∃ c cs p q, ds = c :: cs ∧ Scan.start c = some ([], .number p [c])
      ∧ cs.foldlM NumberPart.next p = some q ∧ q.isComplete = true := by
  obtain ⟨sign, whole, fraction, exponent, rfl, hsign, hwhole, hfraction, hexponent⟩ := h
  -- part by part: each is read from a state in which the part before may end
  obtain ⟨p, hp, hbehind, c, cs, p₀, rfl, hstart, hrest⟩ := hwhole.foldlM_next
  obtain ⟨q, hq, hpoint⟩ := foldlM_fraction hp hfraction
  obtain ⟨r, hr, hmark⟩ := foldlM_exponent hq hexponent
  rcases hsign with rfl | rfl
  · refine ⟨c, cs ++ (fraction ++ exponent), p₀, r, rfl, hstart, ?_, hr⟩
    rw [List.foldlM_append, hrest, Option.bind_eq_bind, Option.bind_some, List.foldlM_append,
      hpoint]
    exact hmark
  · refine ⟨'-', c :: cs ++ (fraction ++ exponent), .sign, r, rfl, rfl, ?_, hr⟩
    rw [List.foldlM_append, hbehind, Option.bind_eq_bind, Option.bind_some, List.foldlM_append,
      hpoint]
    exact hmark

/-- The machine goes through a number as `NumberPart.next` does, and collects its
characters. -/
theorem feed_number {p q : NumberPart} (h : cs.foldlM NumberPart.next p = some q) (m : Machine)
    (before rest : List Char) :
    m.feed (.number p before) (cs ++ rest) = m.feed (.number q (cs.reverse ++ before)) rest := by
  -- on the digits; the part of the number that was reached is general
  induction cs generalizing p before with
  | nil =>
    injection h with h
    rw [h]
    rfl
  | cons c cs ih =>
    rw [List.foldlM_cons] at h
    cases hn : p.next c with
    | none =>
      rw [hn] at h
      cases h
    | some p' =>
      rw [hn] at h
      have hstep : (Scan.number p before).step c = some ([], .number p' (c :: before)) := by
        unfold Scan.step
        simp only [hn]
      rw [List.cons_append, feed_inside hstep, ih h]
      simp

/-- What may follow a value is neither part of a number nor of a name. -/
theorem Delimits.ends (h : Delimits c) :
    c.isLower = false ∧ ∀ q : NumberPart, q.next c = none := by
  have hplain : ∀ c : Char, c ∈ [' ', '\t', '\n', '\r', ',', ']', '\x7d'] →
      c.isLower = false ∧ ∀ q : NumberPart, q.next c = none := by
    intro c hc
    simp only [List.mem_cons, List.not_mem_nil, or_false] at hc
    rcases hc with rfl | rfl | rfl | rfl | rfl | rfl | rfl <;>
      exact ⟨rfl, fun q => by cases q <;> rfl⟩
  apply hplain
  rcases h with h | rfl | rfl | rfl
  · simp only [Scan.isSpace, Bool.or_eq_true, decide_eq_true_eq] at h
    rcases h with ((rfl | rfl) | rfl) | rfl <;> simp
  · simp
  · simp
  · simp

/-- A number that is complete waits for what ends it. -/
theorem pending_number {q : NumberPart} (hq : q.isComplete = true) (ds : List Char) :
    Pending (.number q ds) (.number ds.reverse) where
  finish_eq := by
    show (if q.isComplete then _ else _) = _
    rw [hq]
    rfl
  step_eq c hc := by
    unfold Scan.step
    simp only [hc.ends.2 q, hq, if_true]

/-- **A numeral is one word.** -/
theorem feed_numeral (h : IsNumeral ds) (hrest : Follows rest) (m : Machine) :
    m.feed .between (ds ++ rest) = (m.step (.number ds)).bind (·.feed .between rest) := by
  obtain ⟨c, cs, p, q, rfl, hstart, hnext, hq⟩ := h.drives
  rw [List.cons_append, feed_inside (s := .between) hstart, feed_number hnext]
  have h := feed_pending (m := m) (pending_number hq (cs.reverse ++ [c])) hrest
  rw [h, List.reverse_append, List.reverse_reverse]
  rfl

/-- So does a name: `null`, `true` or `false`. -/
theorem pending_name {cs : List Char} (h : Scan.named? cs.reverse = some t) :
    Pending (.name cs) t where
  finish_eq := by
    show (Scan.named? cs.reverse).map _ = _
    rw [h]
    rfl
  step_eq c hc := by
    show (if c.isLower then _ else Scan.finishThen (Scan.named? cs.reverse) c) = _
    rw [hc.ends.1, h]
    rfl

/-- Letters are collected until something else comes. -/
theorem feed_letters (h : ∀ c ∈ cs, c.isLower = true) (m : Machine) (before rest : List Char) :
    m.feed (.name before) (cs ++ rest) = m.feed (.name (cs.reverse ++ before)) rest := by
  induction cs generalizing before with
  | nil => rfl
  | cons c cs ih =>
    have hstep : (Scan.name before).step c = some ([], .name (c :: before)) := by
      show (if c.isLower then _ else _) = _
      rw [h c List.mem_cons_self]
      rfl
    rw [List.cons_append, feed_inside hstep, ih fun d hd => h d (List.mem_cons_of_mem _ hd)]
    simp

/-- **A name is one word.** -/
theorem feed_name (c : Char) (cs : List Char) (hstart : Scan.start c = some ([], .name [c]))
    (hlower : cs.all Char.isLower = true) (hname : Scan.named? (c :: cs) = some t)
    (hrest : Follows rest) (m : Machine) :
    m.feed .between (c :: cs ++ rest) = (m.step t).bind (·.feed .between rest) := by
  rw [List.cons_append, feed_inside (s := .between) hstart,
    feed_letters (List.all_eq_true.1 hlower)]
  exact feed_pending (pending_name (by simpa using hname)) hrest

/-! ## §3. Values. -/

/-- A value as it is spelled, with what stands before and behind it. -/
structure Spaced where
  before : List Char
  value : Json
  chars : List Char
  after : List Char

namespace Spaced

def text (p : Spaced) : List Char := p.before ++ p.chars ++ p.after

/-- Only blanks stand around the value. -/
def IsSpaced (p : Spaced) : Prop := AllSpace p.before ∧ AllSpace p.after

end Spaced

/-- A member as it is spelled. -/
structure SpelledMember where
  before : List Char
  key : JsonText
  keyChars : List Char
  after : List Char
  spelled : Spaced

namespace SpelledMember

def text (p : SpelledMember) : List Char :=
  p.before ++ p.keyChars ++ p.after ++ ':' :: p.spelled.text

def member (p : SpelledMember) : JsonText × Json := (p.key, p.spelled.value)

/-- A string as the key, and only blanks around key and value. -/
def IsSpaced (p : SpelledMember) : Prop :=
  AllSpace p.before ∧ AllSpace p.after ∧ p.spelled.IsSpaced ∧ SpellsString p.key p.keyChars

end SpelledMember

/-- **How a value is spelled**, with blanks anywhere between its words. -/
inductive Spells : Json → List Char → Prop
  | null : Spells .null "null".toList
  | yes : Spells (.bool true) "true".toList
  | no : Spells (.bool false) "false".toList
  | number {ds : List Char} (h : IsNumeral ds) : Spells (.number ds) ds
  | string {text : JsonText} {cs : List Char} (h : SpellsString text cs) : Spells (.string text) cs
  | emptyArray {b : List Char} (hb : AllSpace b) : Spells (.array []) ('[' :: (b ++ [']']))
  | array {ps : List Spaced} (hne : ps ≠ []) (hspaced : ∀ p ∈ ps, p.IsSpaced)
      (h : ∀ p ∈ ps, Spells p.value p.chars) :
      Spells (.array (ps.map (·.value))) ('[' :: ([','].intercalate (ps.map (·.text)) ++ [']']))
  | emptyObject {b : List Char} (hb : AllSpace b) :
      Spells (.object []) ('\x7b' :: (b ++ ['\x7d']))
  | object {ps : List SpelledMember} (hne : ps ≠ []) (hspaced : ∀ p ∈ ps, p.IsSpaced)
      (h : ∀ p ∈ ps, Spells p.spelled.value p.spelled.chars) :
      Spells (.object (ps.map (·.member)))
        ('\x7b' :: ([','].intercalate (ps.map (·.text)) ++ ['\x7d']))

/-- A text writes a value: the value, with blanks around. -/
def Texts (v : Json) (cs : List Char) : Prop :=
  ∃ p : Spaced, p.value = v ∧ p.IsSpaced ∧ Spells v p.chars ∧ cs = p.text

/-- The reader is before a value: any, or the first of an array. -/
def Opens (e : Expect) : Prop := e = .value ∨ e = .valueOrEnd

/-- Before the first item of an array only the closing bracket is special. -/
theorem step_of_opens {e : Expect} (he : Opens e) (ht : t ≠ .endArray) (frames : List Frame) :
    Machine.step ⟨frames, e⟩ t = Machine.openValue frames t := by
  rcases he with rfl | rfl
  · rfl
  · cases t <;> first | rfl | exact absurd rfl ht

/-- An array or an object, which ends with its own bracket. -/
def IsEnclosed : Json → Prop
  | .array _ => True
  | .object _ => True
  | _ => False

/-- The characters take the reader over the value, if the value is enclosed or something
follows that may follow a value. -/
def Reads (v : Json) (cs : List Char) : Prop :=
  ∀ frames e rest, Opens e → IsEnclosed v ∨ Follows rest →
    Machine.feed ⟨frames, e⟩ .between (cs ++ rest)
      = Machine.feed ⟨frames, .next v⟩ .between rest

/-- A value that is one word. -/
theorem reads_of_word (hv : ¬ IsEnclosed v) (ht : t ≠ .endArray)
    (hword : ∀ frames, Machine.openValue frames t = some ⟨frames, .next v⟩)
    (hfeed : ∀ m rest, Follows rest → Machine.feed m .between (cs ++ rest)
      = (m.step t).bind (·.feed .between rest)) : Reads v cs := by
  intro frames e rest he hrest
  rw [hfeed _ rest (hrest.resolve_left hv), step_of_opens he ht, hword]
  rfl

/-- A value with blanks around it. -/
theorem Reads.spaced {p : Spaced} (h : Reads p.value p.chars) (hspaced : p.IsSpaced) {e : Expect}
    (he : Opens e) (hrest : Follows rest) (frames : List Frame) :
    Machine.feed ⟨frames, e⟩ .between (p.text ++ rest)
      = Machine.feed ⟨frames, .next p.value⟩ .between rest := by
  unfold Spaced.text
  rw [List.append_assoc, List.append_assoc, feed_spaces hspaced.1,
    h frames e _ he (.inr (follows_of_spaces hspaced.2 hrest)), feed_spaces hspaced.2]

/-- The items of an array, up to its end. -/
theorem feed_items {ps : List Spaced} {p : Spaced} (hspaced : ∀ q ∈ p :: ps, q.IsSpaced)
    (h : ∀ q ∈ p :: ps, Reads q.value q.chars) :
    ∀ acc e rest, Opens e →
      Machine.feed ⟨.array acc :: frames, e⟩ .between
          ([','].intercalate ((p :: ps).map (·.text)) ++ ']' :: rest)
        = Machine.feed ⟨frames, .next (.array (acc.reverse ++ (p :: ps).map (·.value)))⟩ .between
          rest := by
  induction ps generalizing p with
  | nil =>
    intro acc e rest he
    rw [List.map_singleton, List.intercalate_singleton,
      (h p List.mem_cons_self).spaced (hspaced p List.mem_cons_self) he (follows_endArray rest),
      feed_mark (t := .endArray) rfl rfl, List.reverse_cons]
    rfl
  | cons q ps ih =>
    -- behind the comma the array waits for a value, no longer for its end
    intro acc e rest he
    have hspaced' := List.forall_mem_cons.1 hspaced
    have h' := List.forall_mem_cons.1 h
    rw [List.map_cons, List.map_cons, List.intercalate_cons_cons, List.append_assoc,
      List.append_assoc, List.singleton_append, h'.1.spaced hspaced'.1 he (follows_comma _),
      feed_mark (t := .comma) rfl rfl]
    refine (ih hspaced'.2 h'.2 (p.value :: acc) .value rest (.inl rfl)).trans ?_
    simp

/-- A key and its colon. -/
theorem feed_key {e : Expect} {acc : List (JsonText × Json)} {p : SpelledMember}
    (hspaced : p.IsSpaced)
    (hkey : Machine.step ⟨frames, e⟩ (.string p.key) = some ⟨frames, .colon acc p.key⟩)
    (rest : List Char) :
    Machine.feed ⟨frames, e⟩ .between (p.before ++ p.keyChars ++ p.after ++ ':' :: rest)
      = Machine.feed ⟨.object acc p.key :: frames, .value⟩ .between rest := by
  obtain ⟨hbefore, hafter, _, hstring⟩ := hspaced
  rw [List.append_assoc, List.append_assoc, feed_spaces hbefore, feed_string hstring, hkey]
  show Machine.feed _ .between (p.after ++ ':' :: rest) = _
  rw [feed_spaces hafter]
  exact feed_mark (t := .colon) rfl rfl rest

/-- The members of an object, up to its end. -/
theorem feed_members {ps : List SpelledMember} {p : SpelledMember}
    (hspaced : ∀ q ∈ p :: ps, q.IsSpaced)
    (h : ∀ q ∈ p :: ps, Reads q.spelled.value q.spelled.chars) :
    ∀ acc e rest, (∀ k, Machine.step ⟨frames, e⟩ (.string k) = some ⟨frames, .colon acc k⟩) →
      Machine.feed ⟨frames, e⟩ .between
          ([','].intercalate ((p :: ps).map (·.text)) ++ '\x7d' :: rest)
        = Machine.feed ⟨frames, .next (.object (acc.reverse ++ (p :: ps).map (·.member)))⟩ .between
          rest := by
  -- one member, from its key on
  have hmember : ∀ p : SpelledMember, p.IsSpaced → Reads p.spelled.value p.spelled.chars →
      ∀ acc e rest, (∀ k, Machine.step ⟨frames, e⟩ (.string k) = some ⟨frames, .colon acc k⟩) →
      Follows rest → Machine.feed ⟨frames, e⟩ .between (p.text ++ rest)
        = Machine.feed ⟨.object acc p.key :: frames, .next p.spelled.value⟩ .between rest := by
    intro p hspaced h acc e rest hkey hrest
    unfold SpelledMember.text
    rw [List.append_assoc _ (':' :: _), List.cons_append, feed_key hspaced (hkey _),
      h.spaced hspaced.2.2.1 (.inl rfl) hrest]
  induction ps generalizing p with
  | nil =>
    intro acc e rest hkey
    rw [List.map_singleton, List.intercalate_singleton,
      hmember p (hspaced p List.mem_cons_self) (h p List.mem_cons_self) acc e _ hkey
        (follows_endObject rest),
      feed_mark (t := .endObject) rfl rfl, List.reverse_cons]
    rfl
  | cons q ps ih =>
    intro acc e rest hkey
    have hspaced' := List.forall_mem_cons.1 hspaced
    have h' := List.forall_mem_cons.1 h
    rw [List.map_cons, List.map_cons, List.intercalate_cons_cons, List.append_assoc,
      List.append_assoc, List.singleton_append,
      hmember p hspaced'.1 h'.1 acc e _ hkey (follows_comma _),
      feed_mark (t := .comma) rfl rfl]
    refine (ih hspaced'.2 h'.2 (p.member :: acc) (.key _) rest fun _ => rfl).trans ?_
    simp

/-- **Whatever way a value is spelled in, the reader is taken over the value.** -/
theorem reads_of_spells (h : Spells v cs) : Reads v cs := by
  -- on the spelling of the value: words, numbers and texts are one token, the others nest
  induction h with
  | null =>
    refine reads_of_word (t := .null) id (by decide) (fun _ => rfl) fun m rest hrest => ?_
    exact feed_name 'n' ['u', 'l', 'l'] rfl rfl rfl hrest m
  | yes =>
    refine reads_of_word (t := .bool true) id (by decide) (fun _ => rfl) fun m rest hrest => ?_
    exact feed_name 't' ['r', 'u', 'e'] rfl rfl rfl hrest m
  | no =>
    refine reads_of_word (t := .bool false) id (by decide) (fun _ => rfl) fun m rest hrest => ?_
    exact feed_name 'f' ['a', 'l', 's', 'e'] rfl rfl rfl hrest m
  | @number ds hds =>
    refine reads_of_word (t := .number ds) id (by simp) (fun _ => rfl) fun m rest hrest => ?_
    exact feed_numeral hds hrest m
  | @string text cs htext =>
    refine reads_of_word (t := .string text) id (by simp) (fun _ => rfl) fun m rest _ => ?_
    exact feed_string htext m rest
  | @emptyArray b hb =>
    intro frames e rest he _
    rw [List.cons_append, List.append_assoc,
      feed_mark (t := .beginArray) rfl (step_of_opens he (by simp) frames), feed_spaces hb]
    exact feed_mark (t := .endArray) rfl rfl rest
  | @array ps hne hspaced _ ih =>
    intro frames e rest he _
    obtain ⟨p, ps, rfl⟩ := List.exists_cons_of_ne_nil hne
    rw [List.cons_append, List.append_assoc,
      feed_mark (t := .beginArray) rfl (step_of_opens he (by simp) frames)]
    exact feed_items hspaced ih [] .valueOrEnd rest (.inr rfl)
  | @emptyObject b hb =>
    intro frames e rest he _
    rw [List.cons_append, List.append_assoc,
      feed_mark (t := .beginObject) rfl (step_of_opens he (by simp) frames), feed_spaces hb]
    exact feed_mark (t := .endObject) rfl rfl rest
  | @object ps hne hspaced _ ih =>
    intro frames e rest he _
    obtain ⟨p, ps, rfl⟩ := List.exists_cons_of_ne_nil hne
    rw [List.cons_append, List.append_assoc,
      feed_mark (t := .beginObject) rfl (step_of_opens he (by simp) frames)]
    exact feed_members hspaced ih [] .keyOrEnd rest fun _ => rfl

/-! ## §4. Texts. -/

/-- **EVERY TEXT OF A VALUE IS READ AS THAT VALUE**, with any blanks, any escapes and as
deep as it may be. -/
theorem readChars_of_texts (h : Texts v cs) : readChars cs = some v := by
  obtain ⟨p, rfl, hspaced, hspells, rfl⟩ := h
  have hfeed :=
    (reads_of_spells hspells).spaced hspaced (.inl rfl) (show Follows [] from trivial) []
  rw [List.append_nil] at hfeed
  rw [readChars_eq, show Machine.start = ⟨[], .value⟩ from rfl, hfeed]
  rfl

/-- **Behind an enclosed value anything but blanks is refused.** -/
theorem readChars_of_trailing (h : Texts v cs) (hv : IsEnclosed v) (hrest : ¬ AllSpace rest) :
    readChars (cs ++ rest) = none := by
  obtain ⟨p, rfl, ⟨hbefore, hafter⟩, hspells, rfl⟩ := h
  have hbehind : ¬ AllSpace (p.after ++ rest) := fun hall =>
    hrest fun c hc => hall c (List.mem_append_right _ hc)
  unfold Spaced.text
  rw [readChars_eq, show Machine.start = ⟨[], .value⟩ from rfl, List.append_assoc,
    List.append_assoc, feed_spaces hbefore, reads_of_spells hspells [] _ _ (.inl rfl) (.inl hv),
    nothing_follows _ hbehind]
  rfl

end SwapBridge.Json
