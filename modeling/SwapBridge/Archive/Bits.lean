/-
  SwapBridge.Archive.Bits
  ───────────────────────
  **READING BITS.**

  The bits of a byte are read from the least significant one on.  A reader
  takes bits from the front and fails where they run out or make no sense.

    • `Reader.Takes n` — a reader that takes `n` bits at least when it succeeds;
      the laws for sequences are beside it.
-/

namespace SwapBridge.Archive

/-- The bits of a byte, the least significant one first. -/
def bitsOf (b : UInt8) : List Bool := (List.range 8).map fun i => b.toNat.testBit i

/-- The number whose bits are given, the least significant one first. -/
def ofBits (bits : List Bool) : Nat := bits.foldr (fun b n => b.toNat + 2 * n) 0

inductive Fault where
  /-- The bits ended too early. -/
  | truncated
  /-- The bits cannot come from a compressor. -/
  | corrupt
  deriving DecidableEq, Repr

abbrev Reader := StateT (List Bool) (Except Fault)

namespace Reader

variable {α β : Type}

/-- A number of `n` bits. -/
def number (n : Nat) : Reader Nat := fun bits =>
  let field := bits.take n
  if field.length < n then .error .truncated else .ok (ofBits field, bits.drop n)

/-- Drops what is left of the present byte; all bits begin with a whole byte. -/
def align : Reader Unit := fun bits => .ok ((), bits.drop (bits.length % 8))

def corrupt : Reader α := fun _ => .error .corrupt

/-! ## Progress -/

/-- The reader takes `n` bits at least when it succeeds. -/
def Takes (n : Nat) (r : Reader α) : Prop :=
  ∀ bits a rest, r bits = .ok (a, rest) → rest.length + n ≤ bits.length

theorem takes_pure (a : α) : Takes 0 (pure a : Reader α) := by
  intro bits b rest h
  have h : Except.ok (a, bits) = .ok (b, rest) := h
  simp only [Except.ok.injEq, Prod.mk.injEq] at h
  simp [h.2]

theorem takes_corrupt (n : Nat) : Takes n (corrupt : Reader α) := by
  intro bits a rest h
  simp [corrupt] at h

theorem takes_bind {m n : Nat} {r : Reader α} {f : α → Reader β} (hr : Takes m r)
    (hf : ∀ a, Takes n (f a)) : Takes (m + n) (r >>= f) := by
  intro bits b rest h
  simp only [bind, StateT.bind, Except.bind] at h
  cases hbits : r bits with
  | error e => simp [hbits] at h
  | ok p =>
    obtain ⟨a, mid⟩ := p
    rw [hbits] at h
    have h₁ := hr bits a mid hbits
    have h₂ := hf a mid b rest h
    omega

theorem Takes.mono {m n : Nat} {r : Reader α} (h : Takes n r) (hmn : m ≤ n) : Takes m r := by
  intro bits a rest hr
  have := h bits a rest hr
  omega

theorem takes_number (n : Nat) : Takes n (number n) := by
  intro bits a rest h
  simp only [number] at h
  split at h
  · simp at h
  · rename_i hn
    simp only [Except.ok.injEq, Prod.mk.injEq] at h
    rw [List.length_take] at hn
    rw [← h.2, List.length_drop]
    omega

theorem takes_align : Takes 0 align := by
  intro bits a rest h
  simp only [align, Except.ok.injEq, Prod.mk.injEq, true_and] at h
  rw [← h, List.length_drop]
  omega

end Reader

end SwapBridge.Archive
