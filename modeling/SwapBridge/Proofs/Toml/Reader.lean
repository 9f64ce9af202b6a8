/-
  SwapBridge.Proofs.Toml.Reader
  ─────────────────────────────
  **CONFIGURATION DOCUMENTS ARE READ BACK.**

  The reader knows the part of TOML 1.0 that is written a line at a time:
  blank lines and comments, headers of tables, and bare keys with a basic
  string, a decimal integer or a truth value.  What it does not know it
  refuses, names given twice included, so a text that it reads is a document
  of TOML and says the same to every reader of TOML.

    • `readText` — a basic string up to its closing quotation mark,
    • `Line.read`, `Document.read` — a line, and a document as its lines,
    • `readText_quoted` — every text is read back character for character,
    • `Document.read_write` — every document with plain names is read back.
-/
import Mathlib.Data.List.TakeWhile
import Mathlib.Tactic.SplitIfs
import SwapBridge.Text.Hex
import SwapBridge.Text.Split
import SwapBridge.Toml.Document

namespace SwapBridge.Toml

/-! ## §1. Reading basic strings. -/

/-- What may stand in a text or a comment as it is: no control character but a tab. -/
def isPlain (c : Char) : Bool := c = '\t' || (0x20 ≤ c.toNat && c.toNat ≠ 0x7F)

/-- The character that a letter stands for behind a backslash. -/
def escaped? (c : Char) : Option Char :=
  if c = '"' || c = '\\' then some c
  else if c = 'b' then some '\x08'
  else if c = 't' then some '\t'
  else if c = 'n' then some '\n'
  else if c = 'f' then some '\x0c'
  else if c = 'r' then some '\r'
  else none

/-- Where a reader is inside a basic string. -/
inductive Place where
  | plain
  /-- Behind a backslash. -/
  | escape
  /-- At a digit of a character's number, with the number so far and `left` digits behind
  this one. -/
  | code (left n : Nat)

/-- One more character in front of what was read. -/
def push (c : Char) (r : List Char × List Char) : List Char × List Char := (c :: r.1, r.2)

/-- The text up to the closing quotation mark, and what stands behind that. -/
def readText : Place → List Char → Option (List Char × List Char)
  | _, [] => none
  | .plain, c :: cs =>
    if c = '"' then some ([], cs)
    else if c = '\\' then readText .escape cs
    else if isPlain c then (readText .plain cs).map (push c)
    else none
  | .escape, c :: cs =>
    if c = 'u' then readText (.code 3 0) cs
    else if c = 'U' then readText (.code 7 0) cs
    else match escaped? c with
      | some e => (readText .plain cs).map (push e)
      | none => none
  | .code left n, c :: cs =>
    match Hex.digit? c, left with
    | none, _ => none
    | some v, left + 1 => readText (.code left (16 * n + v)) cs
    | some v, 0 =>
      -- surrogates and numbers beyond the last character stand for nothing
      if (16 * n + v).isValidChar then
        (readText .plain cs).map (push (Char.ofNat (16 * n + v)))
      else none

/-! ## §2. Reading lines. -/

def isSpace (c : Char) : Bool := c = ' ' || c = '\t'

/-- What a bare key consists of. -/
def isKeyChar (c : Char) : Bool := c.isAlphanum || c = '-' || c = '_'

/-- Whether nothing follows on a line but spaces and a comment. -/
def endsLine (cs : List Char) : Bool :=
  match cs.dropWhile isSpace with
  | [] => true
  | '#' :: comment => comment.all isPlain
  | _ => false

/-- A truth value, or an integer of 64 bits without a zero in front. -/
def Value.ofWord? (word : List Char) : Option Value :=
  if word = "true".toList then some (.flag true)
  else if word = "false".toList then some (.flag false)
  else if word.head? = some '0' && 1 < word.length then none
  else (Decimal.readBelow? (Nat.pow 2 63) word).map .number

/-- What a word consists of: all up to a space or a comment. -/
def isWordChar (c : Char) : Bool := !isSpace c && c ≠ '#'

def readValue : List Char → Option (Value × List Char)
  | '"' :: cs => (readText .plain cs).map fun r => (.text (String.ofList r.1), r.2)
  | cs => (Value.ofWord? (cs.takeWhile isWordChar)).map fun v => (v, cs.dropWhile isWordChar)

/-- A bare key, an equals sign and a value. -/
def readEntry (cs : List Char) : Option Entry :=
  let key := cs.takeWhile isKeyChar
  match (cs.dropWhile isKeyChar).dropWhile isSpace with
  | '=' :: rest =>
    match readValue (rest.dropWhile isSpace) with
    | some (value, rest) =>
      if !key.isEmpty && endsLine rest then some ⟨String.ofList key, value⟩ else none
    | none => none
  | _ => none

/-- The bare key of a table up to its closing bracket. -/
def readHeader (cs : List Char) : Option String :=
  let inner := cs.dropWhile isSpace
  let name := inner.takeWhile isKeyChar
  match (inner.dropWhile isKeyChar).dropWhile isSpace with
  | ']' :: rest => if !name.isEmpty && endsLine rest then some (String.ofList name) else none
  | _ => none

inductive Line where
  | blank
  | header (name : String)
  | entry (e : Entry)

namespace Line

def read (cs : List Char) : Option Line :=
  if endsLine cs then some .blank
  else match cs.dropWhile isSpace with
    | '[' :: rest => (readHeader rest).map .header
    | rest => (readEntry rest).map .entry

/-- All lines of a text; each line feed begins a new one. -/
def readAll (cs : List Char) : Option (List Line) := (Text.pieces '\n' cs).mapM read

end Line

/-! ## §3. Reading documents. -/

namespace Document

/-- The entries before the first header are the document's own, those behind a
header its table's. -/
def ofLines : List Line → Document
  | [] => ⟨[], []⟩
  | .blank :: ls => ofLines ls
  | .entry e :: ls => ⟨e :: (ofLines ls).top, (ofLines ls).sections⟩
  | .header name :: ls => ⟨[], ⟨name, (ofLines ls).top⟩ :: (ofLines ls).sections⟩

/-- No key and no table is given twice, and no key of the document is a table as well. -/
def HasDistinctNames (d : Document) : Prop :=
  (d.top.map Entry.key ++ d.sections.map Section.name).Nodup
    ∧ ∀ s ∈ d.sections, (s.entries.map Entry.key).Nodup

instance (d : Document) : Decidable d.HasDistinctNames :=
  inferInstanceAs (Decidable (_ ∧ _))

def read (s : String) : Option Document := do
  let lines ← Line.readAll s.toList
  if (ofLines lines).HasDistinctNames then some (ofLines lines) else none

end Document

/-! ## §4. Basic strings are read back. -/

variable {c : Char} {cs rest : List Char} {e : Entry} {v : Value}

/-- The four digits of a character's number. -/
theorem readText_hex4 (hc : c.toNat < 0x10000) (cs : List Char) :
    readText (.code 3 0) (hex4 c.toNat ++ cs) = (readText .plain cs).map (push c) := by
  have hdigit : ∀ n < 16, Hex.digit? (Nat.digitChar n).toUpper = some n := by decide
  have hread : ∀ k, Hex.digit? (Nat.digitChar (c.toNat / Nat.pow 16 k % 16)).toUpper
      = some (c.toNat / Nat.pow 16 k % 16) := fun k => hdigit _ (Nat.mod_lt _ (by decide))
  have hnumber : 16 * (16 * (16 * (16 * 0 + c.toNat / Nat.pow 16 3 % 16)
      + c.toNat / Nat.pow 16 2 % 16) + c.toNat / Nat.pow 16 1 % 16)
      + c.toNat / Nat.pow 16 0 % 16 = c.toNat := by
    show 16 * (16 * (16 * (16 * 0 + c.toNat / 4096 % 16) + c.toNat / 256 % 16)
      + c.toNat / 16 % 16) + c.toNat / 1 % 16 = c.toNat
    omega
  have hvalid : c.toNat.isValidChar := c.valid
  unfold hex4
  simp only [List.cons_append, List.nil_append, readText, hread, hnumber]
  rw [if_pos hvalid, Char.ofNat_toNat]

/-- An escape of one letter stands for the character that `escaped?` has for it. -/
theorem readText_short {l : Char} (h : escaped? l = some c) (hu : l ≠ 'u') (hU : l ≠ 'U')
    (cs : List Char) :
    readText .plain ('\\' :: l :: cs) = (readText .plain cs).map (push c) := by
  simp [readText, h, hu, hU]

/-- **A character of a text is read as it was written.** -/
theorem readText_escape (c : Char) (cs : List Char) :
    readText .plain (escape c ++ cs) = (readText .plain cs).map (push c) := by
  unfold escape
  -- in the order in which `escape` looks for them
  split_ifs with hquote hslash hn hr ht hcontrol
  · exact readText_short (by rw [hquote]; rfl) (by decide) (by decide) cs
  · exact readText_short (by rw [hslash]; rfl) (by decide) (by decide) cs
  · exact readText_short (by rw [hn]; rfl) (by decide) (by decide) cs
  · exact readText_short (by rw [hr]; rfl) (by decide) (by decide) cs
  · exact readText_short (by rw [ht]; rfl) (by decide) (by decide) cs
  · -- control characters are among the first of all
    have hsmall : c.toNat < 0x10000 := by
      simp only [Text.isControl, Bool.or_eq_true, Bool.and_eq_true, decide_eq_true_eq] at hcontrol
      omega
    rw [← readText_hex4 hsmall]
    rfl
  · -- any other character stands for itself
    have hplain : isPlain c = true := by
      simp only [Text.isControl, Bool.or_eq_true, Bool.and_eq_true, decide_eq_true_eq] at hcontrol
      simp only [isPlain, Bool.or_eq_true, Bool.and_eq_true, decide_eq_true_eq]
      omega
    simp [readText, hquote, hslash, hplain]

/-- **Every text is read back**, up to the quotation mark that closes it. -/
theorem readText_quoted (text rest : List Char) :
    readText .plain (text.flatMap escape ++ '"' :: rest) = some (text, rest) := by
  induction text with
  | nil => rfl
  | cons c text ih =>
    rw [List.flatMap_cons, List.append_assoc, readText_escape, ih]
    rfl

/-! ## §5. Lines are read back. -/

/-- A value that has a form of its own: integers have 63 bits. -/
def Value.Fits : Value → Prop
  | .number n => n < Nat.pow 2 63
  | _ => True

/-- A name that is a bare key. -/
def IsBare (name : String) : Prop := name ≠ "" ∧ name.toList.all isKeyChar = true

instance (name : String) : Decidable (IsBare name) := inferInstanceAs (Decidable (_ ∧ _))

/-- A bare name is made of the characters that `isKeyChar` takes. -/
theorem IsBare.of_mem {name : String} {c : Char} (h : IsBare name) (hc : c ∈ name.toList) :
    isKeyChar c = true := List.all_eq_true.1 h.2 c hc

structure Entry.IsWritable (e : Entry) : Prop where
  key_isBare : IsBare e.key
  value_fits : e.value.Fits

/-- A character of a class differs from one outside of it. -/
theorem ne_of_class {p : Char → Bool} {d : Char} (hc : p c = true) (hd : p d = false) : c ≠ d := by
  rintro rfl
  rw [hc] at hd
  cases hd

/-- A class without blanks has no space in it. -/
theorem not_isSpace {p : Char → Bool} (hc : p c = true) (hspace : p ' ' = false)
    (htab : p '\t' = false) : isSpace c = false := by
  simp [isSpace, ne_of_class hc hspace, ne_of_class hc htab]

/-- A number below `2 ^ 63` is read back from its digits. -/
theorem ofWord?_digits {n : Nat} (h : n < Nat.pow 2 63) :
    Value.ofWord? (Decimal.digits n) = some (.number n) := by
  have hdigit : ∀ c ∈ Decimal.digits n, c.isDigit = true := fun _ => Decimal.isDigit_of_mem_digits
  -- the words for truth values begin with letters
  have htrue : Decimal.digits n ≠ "true".toList := by
    intro heq
    exact absurd (hdigit 't' (by rw [heq]; decide)) (by decide)
  have hfalse : Decimal.digits n ≠ "false".toList := by
    intro heq
    exact absurd (hdigit 'f' (by rw [heq]; decide)) (by decide)
  have hfront : ¬ ((Decimal.digits n).head? = some '0' ∧ 1 < (Decimal.digits n).length) := by
    rintro ⟨hhead, hlength⟩
    rcases Nat.eq_zero_or_pos n with rfl | hn
    · exact absurd hlength (by decide)
    · obtain ⟨c, cs, hdigits, hc⟩ := Decimal.digits_of_pos hn
      rw [hdigits] at hhead
      exact hc (Option.some.inj hhead)
  unfold Value.ofWord?
  rw [if_neg htrue, if_neg hfalse, if_neg (by simpa using hfront), Decimal.readBelow?_digits h]
  rfl

/-- A word that fills the rest of a line is read as a whole. -/
theorem readValue_word {word : List Char} (hword : ∀ c ∈ word, isWordChar c = true)
    (hquote : word.head? ≠ some '"') :
    readValue word = (Value.ofWord? word).map fun v => (v, []) := by
  have htake : word.takeWhile isWordChar = word := List.takeWhile_eq_self_iff.2 hword
  have hdrop : word.dropWhile isWordChar = [] := List.dropWhile_eq_nil_iff.2 hword
  unfold readValue
  split
  · exact absurd rfl hquote
  · rw [htake, hdrop]

/-- **A value at the end of a line is read back.** -/
theorem readValue_chars (h : v.Fits) : readValue v.chars = some (v, []) := by
  cases v with
  | text s =>
    show (readText .plain (s.toList.flatMap escape ++ '"' :: [])).map _ = _
    rw [readText_quoted]
    simp
  | number n =>
    -- a number has no quote in front and ends where its digits end
    have hword : ∀ c ∈ Decimal.digits n, isWordChar c = true := by
      intro c hc
      have hdigit := Decimal.isDigit_of_mem_digits hc
      have hspace : isSpace c = false := not_isSpace hdigit rfl rfl
      have hcomment : c ≠ '#' := ne_of_class hdigit rfl
      simp [isWordChar, hspace, hcomment]
    have hquote : (Decimal.digits n).head? ≠ some '"' := fun hhead =>
      absurd (Decimal.isDigit_of_mem_digits (List.mem_of_head? hhead)) (by decide)
    show readValue (Decimal.digits n) = _
    rw [readValue_word hword hquote, ofWord?_digits h]
    rfl
  | flag b => cases b <;> rfl

/-- No value begins with a space. -/
theorem dropWhile_value (v : Value) : v.chars.dropWhile isSpace = v.chars := by
  cases v with
  | text s => rfl
  | number n =>
    obtain ⟨c, cs, hdigits⟩ := List.exists_cons_of_ne_nil (Decimal.digits_ne_nil n)
    have hmem : c ∈ Decimal.digits n := hdigits ▸ List.mem_cons_self
    have hspace : isSpace c = false := not_isSpace (Decimal.isDigit_of_mem_digits hmem) rfl rfl
    show (Decimal.digits n).dropWhile isSpace = Decimal.digits n
    rw [hdigits]
    exact List.dropWhile_cons_of_neg (by simp [hspace])
  | flag b => cases b <;> rfl

section Names

variable {name : String} {d : Char}

/-- A bare name ends before the first character that is none of its kind. -/
theorem takeWhile_name (h : IsBare name) (hd : isKeyChar d = false) (rest : List Char) :
    (name.toList ++ d :: rest).takeWhile isKeyChar = name.toList := by
  rw [List.takeWhile_append_of_pos fun _ => h.of_mem,
    List.takeWhile_cons_of_neg (by simp [hd]), List.append_nil]

theorem dropWhile_name (h : IsBare name) (hd : isKeyChar d = false) (rest : List Char) :
    (name.toList ++ d :: rest).dropWhile isKeyChar = d :: rest := by
  rw [List.dropWhile_append_of_pos fun _ => h.of_mem,
    List.dropWhile_cons_of_neg (by simp [hd])]

/-- A bare name has a first character, by which `Line.read` tells what kind of line it
begins. -/
theorem IsBare.exists_cons (h : IsBare name) :
    ∃ c cs, name.toList = c :: cs ∧ isKeyChar c = true := by
  obtain ⟨c, cs, hname⟩ := List.exists_cons_of_ne_nil (mt String.toList_eq_nil_iff.1 h.1)
  exact ⟨c, cs, hname, h.of_mem (hname ▸ List.mem_cons_self)⟩

end Names

/-- An entry as it stands on its line. -/
def Entry.line (e : Entry) : List Char := e.key.toList ++ ' ' :: '=' :: ' ' :: e.value.chars

/-- **An entry reads back from its line**, if it `IsWritable`. -/
theorem readEntry_line (h : e.IsWritable) : readEntry e.line = some e := by
  have hkey : e.line.takeWhile isKeyChar = e.key.toList := takeWhile_name h.key_isBare rfl _
  have hrest : (e.line.dropWhile isKeyChar).dropWhile isSpace = '=' :: ' ' :: e.value.chars :=
    congrArg (List.dropWhile isSpace) (dropWhile_name h.key_isBare rfl _)
  have hvalue : readValue ((' ' :: e.value.chars).dropWhile isSpace) = some (e.value, []) := by
    show readValue (e.value.chars.dropWhile isSpace) = _
    rw [dropWhile_value, readValue_chars h.value_fits]
  have hne : e.key.toList.isEmpty = false := by simpa using h.key_isBare.1
  unfold readEntry
  rw [hkey, hrest]
  simp only [hvalue]
  simp [hne, endsLine]

/-- A line that begins with a key is an entry. -/
theorem Line.read_of_isKeyChar (h : isKeyChar c = true) (cs : List Char) :
    Line.read (c :: cs) = (readEntry (c :: cs)).map .entry := by
  have hspace : isSpace c = false := not_isSpace h rfl rfl
  have hdrop : (c :: cs).dropWhile isSpace = c :: cs :=
    List.dropWhile_cons_of_neg (by simp [hspace])
  have hcomment : c ≠ '#' := ne_of_class h rfl
  have hbracket : c ≠ '[' := ne_of_class h rfl
  have hends : endsLine (c :: cs) = false := by
    unfold endsLine
    rw [hdrop]
    split <;> simp_all
  unfold Line.read
  rw [hends, hdrop]
  split <;> simp_all

/-- The line of an entry is taken for an entry, since no key begins like a header. -/
theorem Line.read_entry (h : e.IsWritable) : Line.read e.line = some (.entry e) := by
  obtain ⟨c, cs, hkey, hc⟩ := h.key_isBare.exists_cons
  obtain ⟨cs, hline⟩ : ∃ cs, e.line = c :: cs := ⟨_, congrArg (· ++ _) hkey⟩
  rw [hline, Line.read_of_isKeyChar hc, ← hline, readEntry_line h]
  rfl

/-- A bare name in brackets is the header of a section. -/
theorem Line.read_header {name : String} (h : IsBare name) :
    Line.read ('[' :: (name.toList ++ [']'])) = some (.header name) := by
  obtain ⟨c, cs, hname, hc⟩ := h.exists_cons
  -- a bare name has no spaces around it, so it is read as it stands
  have hspaces : (name.toList ++ [']']).dropWhile isSpace = name.toList ++ [']'] := by
    rw [hname]
    exact List.dropWhile_cons_of_neg (by simp [not_isSpace hc rfl rfl])
  have hne : name.toList.isEmpty = false := by simpa using h.1
  have hheader : readHeader (name.toList ++ [']']) = some name := by
    unfold readHeader
    rw [hspaces]
    dsimp only
    rw [takeWhile_name h rfl, dropWhile_name h rfl]
    simp [isSpace, hne, endsLine]
  show (readHeader (name.toList ++ [']'])).map Line.header = _
  rw [hheader]
  rfl

/-! ## §6. Values stay on their lines. -/

/-- Line ends are escaped, so that every value stays on its line. -/
theorem newline_not_mem_escape (c : Char) : '\n' ∉ escape c := by
  have hdigit : ∀ n < 16, '\n' ≠ (Nat.digitChar n).toUpper := by decide
  unfold escape
  split_ifs with hquote hslash hn hr ht hcontrol
  · decide
  · decide
  · decide
  · decide
  · decide
  · simp [hex4, hdigit _ (Nat.mod_lt _ (by decide : 0 < 16))]
  · simpa using fun h : '\n' = c => hn h.symm

/-- **No value reaches beyond its line.** -/
theorem newline_not_mem_value (v : Value) : '\n' ∉ v.chars := by
  cases v with
  | text s =>
    have htext : '\n' ∉ s.toList.flatMap escape := by
      rw [List.mem_flatMap]
      rintro ⟨c, -, hc⟩
      exact newline_not_mem_escape c hc
    show '\n' ∉ quoted s
    simp [quoted, htext]
  | number n => exact fun h => absurd (Decimal.isDigit_of_mem_digits h) (by decide)
  | flag b => cases b <;> decide

/-- A bare name has no line end in it either. -/
theorem IsBare.newline_not_mem {name : String} (h : IsBare name) : '\n' ∉ name.toList := fun hmem =>
  absurd (h.of_mem hmem) (by decide)

theorem newline_not_mem_line (h : IsBare e.key) : '\n' ∉ e.line := by
  unfold Entry.line
  simp [h.newline_not_mem, newline_not_mem_value]

/-! ## §7. Documents are read back. -/

namespace Line

/-- `readAll` reads the first line, up to its end, and then the rest. -/
theorem readAll_cons {line : List Char} (h : '\n' ∉ line) (rest : List Char) :
    readAll (line ++ '\n' :: rest) = (read line).bind fun l => (readAll rest).map (l :: ·) := by
  unfold readAll Text.pieces
  rw [List.splitOn_append_cons_self_of_not_mem h, List.mapM_cons]
  cases read line with
  | none => rfl
  | some l => cases List.mapM read (rest.splitOn '\n') <;> rfl

/-- Entries are read line by line, whatever follows them. -/
theorem readAll_entries {es : List Entry} (h : ∀ e ∈ es, e.IsWritable) (rest : List Char) :
    readAll (es.flatMap Entry.chars ++ rest) = (readAll rest).map (es.map .entry ++ ·) := by
  induction es with
  | nil => simp
  | cons e es ih =>
    have he : e.IsWritable := h e List.mem_cons_self
    have hchars : (e :: es).flatMap Entry.chars ++ rest
        = e.line ++ '\n' :: (es.flatMap Entry.chars ++ rest) := by
      simp [Entry.chars, Entry.line]
    rw [hchars, readAll_cons (newline_not_mem_line he.key_isBare), read_entry he,
      ih fun e' he' => h e' (List.mem_cons_of_mem _ he')]
    simp [Function.comp_def]

end Line

structure Section.IsWritable (s : Section) : Prop where
  name_isBare : IsBare s.name
  entries_writable : ∀ e ∈ s.entries, e.IsWritable

/-- The lines that a section is written on; the first one is blank. -/
def Section.lines (s : Section) : List Line := .blank :: .header s.name :: s.entries.map .entry

/-- A section is its header, its entries and the blank line before it: `Section.lines`. -/
theorem Line.readAll_section {s : Section} (h : s.IsWritable) (rest : List Char) :
    Line.readAll (s.chars ++ rest) = (Line.readAll rest).map (s.lines ++ ·) := by
  have hheader : '\n' ∉ '[' :: (s.name.toList ++ [']']) := by
    simp [h.name_isBare.newline_not_mem]
  have hchars : s.chars ++ rest = [] ++ '\n' :: (('[' :: (s.name.toList ++ [']']))
      ++ '\n' :: (s.entries.flatMap Entry.chars ++ rest)) := by
    simp [Section.chars]
  have hblank : Line.read [] = some .blank := rfl
  rw [hchars, Line.readAll_cons List.not_mem_nil, hblank, Line.readAll_cons hheader,
    Line.read_header h.name_isBare, Line.readAll_entries h.entries_writable]
  simp [Section.lines, Function.comp_def]

/-- Sections are read one after the other. -/
theorem Line.readAll_sections {ss : List Section} (h : ∀ s ∈ ss, s.IsWritable)
    (rest : List Char) :
    Line.readAll (ss.flatMap Section.chars ++ rest)
      = (Line.readAll rest).map (ss.flatMap Section.lines ++ ·) := by
  induction ss with
  | nil => simp
  | cons s ss ih =>
    rw [List.flatMap_cons, List.append_assoc, Line.readAll_section (h s List.mem_cons_self),
      ih fun s' hs' => h s' (List.mem_cons_of_mem _ hs')]
    simp [Function.comp_def]

namespace Document

/-- Entries before any header are those of the top. -/
theorem ofLines_entries (es : List Entry) (ls : List Line) :
    ofLines (es.map .entry ++ ls) = ⟨es ++ (ofLines ls).top, (ofLines ls).sections⟩ := by
  induction es with
  | nil => rfl
  | cons e es ih =>
    rw [List.map_cons, List.cons_append, ofLines, ih]
    rfl

/-- The lines of sections give back the sections, up to the blank line at the end. -/
theorem ofLines_sections (ss : List Section) :
    ofLines (ss.flatMap Section.lines ++ [.blank]) = ⟨[], ss⟩ := by
  induction ss with
  | nil => rfl
  | cons s ss ih =>
    show ofLines (.header s.name :: (s.entries.map .entry ++ ss.flatMap Section.lines)
      ++ [.blank]) = _
    rw [List.cons_append, ofLines, List.append_assoc, ofLines_entries, ih]
    simp

/-- A document whose names are bare keys, each given once. -/
structure IsWritable (d : Document) : Prop where
  top_writable : ∀ e ∈ d.top, e.IsWritable
  sections_writable : ∀ s ∈ d.sections, s.IsWritable
  distinct : d.HasDistinctNames

/-- **A document is read back from its text**, whatever texts it holds. -/
theorem read_write {d : Document} (h : d.IsWritable) : read d.write = some d := by
  -- the lines first; grouping them into sections then gives the document back
  have hlines : Line.readAll d.chars
      = some (d.top.map .entry ++ (d.sections.flatMap Section.lines ++ [.blank])) := by
    have hend : Line.readAll [] = some [.blank] := rfl
    have hsections := Line.readAll_sections h.sections_writable []
    rw [List.append_nil, hend] at hsections
    unfold chars
    rw [Line.readAll_entries h.top_writable, hsections]
    rfl
  have hdocument :
      ofLines (d.top.map .entry ++ (d.sections.flatMap Section.lines ++ [.blank])) = d := by
    rw [ofLines_entries, ofLines_sections]
    simp
  unfold read write
  rw [String.toList_ofList, hlines]
  show (if (ofLines _).HasDistinctNames then some (ofLines _) else none) = _
  rw [hdocument, if_pos h.distinct]

/-- More forms are read than are written: other spaces, comments and escapes. -/
example : read "a = \"x\\n\\u0041\" # b = 1\n[ T ]\nport=80#\n"
    = some ⟨[⟨"a", .text "x\nA"⟩], [⟨"T", [⟨"port", .number 80⟩]⟩]⟩ := by decide

/-- A key that is given twice has no value. -/
example : read "a = 1\na = 1\n" = none := by decide

end Document

end SwapBridge.Toml
