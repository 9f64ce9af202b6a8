/-
  SwapBridge.Proofs.Archive.Stored
  ────────────────────────────────
  **DATA THAT IS STORED AS IT IS.**

  A block may hold bytes without any code.  A file that is one such block
  unpacks to the bytes of the block, whatever they are.

    • `Reader.number_bytes` — two whole bytes are a number,
    • `Deflate.inflate_stored` — a stored block inflates to its bytes,
    • `Gzip.unpack_stored` — and so does a file that holds it.
-/
import Mathlib.Data.List.Basic
import SwapBridge.Archive.Gzip

namespace SwapBridge.Archive

variable {α β : Type} {bits rest : List Bool} {bs : List UInt8}

/-! ## §1. Bits of bytes. -/

theorem length_bitsOf (b : UInt8) : (bitsOf b).length = 8 := by simp [bitsOf]

theorem length_flatMap_bitsOf (bs : List UInt8) : (bs.flatMap bitsOf).length = 8 * bs.length := by
  induction bs with
  | nil => rfl
  | cons b bs ih =>
    rw [List.flatMap_cons, List.length_append, ih, length_bitsOf, List.length_cons]
    omega

/-- A byte is the number of its bits. -/
theorem ofBits_bitsOf (b : UInt8) : ofBits (bitsOf b) = b.toNat := by
  have hall : ∀ n < 256, ofBits ((List.range 8).map fun i => n.testBit i) = n := by decide +kernel
  exact hall b.toNat b.toNat_lt

/-- Bits count from the lowest: those in front keep their value. -/
theorem ofBits_append (xs ys : List Bool) :
    ofBits (xs ++ ys) = ofBits xs + Nat.pow 2 xs.length * ofBits ys := by
  induction xs with
  | nil =>
    show ofBits ys = 0 + 1 * ofBits ys
    omega
  | cons x xs ih =>
    have hcons : ∀ zs, ofBits (x :: zs) = x.toNat + 2 * ofBits zs := fun _ => rfl
    have hpow : Nat.pow 2 (xs.length + 1) = Nat.pow 2 xs.length * 2 := rfl
    rw [List.cons_append, hcons, hcons, ih, List.length_cons, hpow, Nat.mul_add,
      ← Nat.mul_assoc, Nat.mul_comm 2 (Nat.pow 2 xs.length), Nat.add_assoc]

/-! ## §2. Reading on. -/

namespace Reader

/-- The first of two readers takes its bits, the second one goes on from there. -/
theorem bind_of_ok {r : Reader α} {f : α → Reader β} {a : α} (h : r bits = .ok (a, rest)) :
    (r >>= f) bits = f a rest := by
  show (r bits >>= fun p => f p.1 p.2) = _
  rw [h]
  rfl

/-- `number` takes as many bits as it is asked for and leaves the rest. -/
theorem number_of_length {field : List Bool} {n : Nat} (h : field.length = n) (rest : List Bool) :
    number n (field ++ rest) = .ok (ofBits field, rest) := by
  unfold number
  rw [List.take_left' h, List.drop_left' h, if_neg (by omega)]

/-- Two whole bytes are a number, the low byte first. -/
theorem number_bytes (low high : UInt8) (rest : List Bool) :
    number 16 (bitsOf low ++ (bitsOf high ++ rest))
      = .ok (low.toNat + 256 * high.toNat, rest) := by
  have hlength : (bitsOf low ++ bitsOf high).length = 16 := by simp [length_bitsOf]
  have hvalue : ofBits (bitsOf low ++ bitsOf high) = low.toNat + 256 * high.toNat := by
    have hpow : Nat.pow 2 8 = 256 := rfl
    rw [ofBits_append, length_bitsOf, ofBits_bitsOf, ofBits_bitsOf, hpow]
  rw [← List.append_assoc, number_of_length hlength, hvalue]

end Reader

/-! ## §3. Stored blocks. -/

/-- A number below `2 ^ 16` in two bytes, the low one first. -/
def twoBytes (n : Nat) : List UInt8 := [n.toUInt8, (n / 256).toUInt8]

/-- A number of two bytes is read back from its bits. -/
theorem number_twoBytes {n : Nat} (h : n < 65536) (rest : List Bool) :
    Reader.number 16 ((twoBytes n).flatMap bitsOf ++ rest) = .ok (n, rest) := by
  have hlow : n.toUInt8.toNat = n % 256 := by simp
  have hhigh : (n / 256).toUInt8.toNat = n / 256 := by
    simp only [Nat.toUInt8_eq, UInt8.toNat_ofNat']
    omega
  show Reader.number 16 (bitsOf _ ++ (bitsOf _ ++ []) ++ rest) = _
  rw [List.append_nil, List.append_assoc, Reader.number_bytes, hlow, hhigh]
  congr 2
  omega

namespace Deflate

/-- The last block, with bytes as they are: their number, its complement, the bytes. -/
def stored (bs : List UInt8) : List UInt8 :=
  1 :: (twoBytes bs.length ++ (twoBytes (65535 - bs.length) ++ bs))

/-- A stored block begins with the next whole byte. -/
theorem storedBlock_twoBytes {n : Nat} (h : n < 65536) {rest : List Bool}
    (hrest : rest.length % 8 = 0) :
    storedBlock (List.replicate 5 false ++ ((twoBytes n).flatMap bitsOf
        ++ ((twoBytes (65535 - n)).flatMap bitsOf ++ rest)))
      = .ok (.stored n, rest) := by
  -- the five bits in front fill the byte that the block's header began
  have halign : Reader.align (List.replicate 5 false ++ ((twoBytes n).flatMap bitsOf
        ++ ((twoBytes (65535 - n)).flatMap bitsOf ++ rest)))
      = .ok ((), (twoBytes n).flatMap bitsOf
          ++ ((twoBytes (65535 - n)).flatMap bitsOf ++ rest)) := by
    unfold Reader.align
    congr 2
    refine List.drop_left' ?_
    simp only [List.length_append, List.length_replicate, length_flatMap_bitsOf]
    omega
  unfold storedBlock
  rw [Reader.bind_of_ok halign, Reader.bind_of_ok (number_twoBytes h _),
    Reader.bind_of_ok (number_twoBytes (by omega) _), if_pos (by omega)]
  rfl

/-- A stored block is its length, the complement of it, and its bytes: `stored` writes them
as `nextBlock` reads them. -/
theorem nextBlock_stored (h : bs.length < 65536) (rest : List UInt8) :
    nextBlock ((stored bs ++ rest).flatMap bitsOf)
      = .ok ((true, .stored bs.length), (bs ++ rest).flatMap bitsOf) := by
  -- in bits: final, kind 0, the filling, the length and its complement, then the bytes
  have hbits : (stored bs ++ rest).flatMap bitsOf
      = [true] ++ ([false, false] ++ (List.replicate 5 false
        ++ ((twoBytes bs.length).flatMap bitsOf
          ++ ((twoBytes (65535 - bs.length)).flatMap bitsOf ++ (bs ++ rest).flatMap bitsOf)))) := by
    unfold stored
    simp only [List.cons_append, List.append_assoc, List.flatMap_cons, List.flatMap_append]
    rfl
  have hfinal : ∀ bits, Reader.number 1 ([true] ++ bits) = .ok (1, bits) :=
    Reader.number_of_length (by rfl : [true].length = 1)
  have hkind : ∀ bits, Reader.number 2 ([false, false] ++ bits) = .ok (0, bits) :=
    Reader.number_of_length (by rfl : [false, false].length = 2)
  have hlength : ((bs ++ rest).flatMap bitsOf).length % 8 = 0 := by
    rw [length_flatMap_bitsOf]
    omega
  rw [hbits]
  unfold nextBlock
  rw [Reader.bind_of_ok (hfinal _), Reader.bind_of_ok (hkind _)]
  show (storedBlock >>= _) _ = _
  rw [Reader.bind_of_ok (storedBlock_twoBytes h hlength)]
  rfl

/-- The bytes behind the bits are pushed one by one. -/
theorem pushBytes_flatMap (bs : List UInt8) :
    ∀ (rest : List Bool) (out : Array UInt8),
      pushBytes bs.length (bs.flatMap bitsOf ++ rest) out = out ++ bs.toArray := by
  induction bs with
  | nil => exact fun _ out => (Array.append_empty).symm
  | cons b bs ih =>
    intro rest out
    have hlength := length_bitsOf b
    show pushBytes (bs.length + 1) _ out = _
    rw [pushBytes, List.flatMap_cons, List.append_assoc, List.take_left' hlength,
      List.drop_left' hlength, if_neg (by omega), ofBits_bitsOf, ih]
    apply Array.toList_inj.1
    simp

/-- **A stored block inflates to its bytes.** -/
theorem inflate_stored (h : bs.length < 65536) (rest : List UInt8) :
    (inflate (stored bs ++ rest)).output = bs.toArray
      ∧ (inflate (stored bs ++ rest)).rest = .ok (rest.flatMap bitsOf) := by
  have hblock := nextBlock_stored h rest
  have hlength : (bs.flatMap bitsOf).length = 8 * bs.length := length_flatMap_bitsOf bs
  unfold inflate
  rw [run]
  split
  · rename_i fault heq
    rw [hblock] at heq
    cases heq
  · rename_i final n rest' heq
    rw [hblock] at heq
    cases heq
    dsimp only
    rw [List.flatMap_append, pushBytes_flatMap, List.take_left' hlength, List.drop_left' hlength,
      if_neg (by omega), if_pos rfl]
    exact ⟨by simp, rfl⟩
  · rename_i heq
    rw [hblock] at heq
    cases heq

end Deflate

/-! ## §4. Files. -/

namespace Gzip

/-- A header that says nothing. -/
def plainHeader : List UInt8 := [0x1F, 0x8B, 0x08, 0, 0, 0, 0, 0, 0, 0xFF]

theorem content_plainHeader (body : List UInt8) : content? (plainHeader ++ body) = some body := rfl

/-- **A file of one stored block unpacks to its bytes**; the end is a good one if
the trailer says so. -/
theorem unpack_stored (h : bs.length < 65536) (trailer : List UInt8) :
    unpack (plainHeader ++ (Deflate.stored bs ++ trailer))
      = ⟨bs, isConfirmed trailer bs.toArray⟩ := by
  obtain ⟨houtput, hrest⟩ := Deflate.inflate_stored h trailer
  have htrailer : (Deflate.stored bs ++ trailer).drop
      ((Deflate.stored bs ++ trailer).length - (trailer.flatMap bitsOf).length / 8) = trailer := by
    rw [length_flatMap_bitsOf, Nat.mul_div_cancel_left _ (by decide), List.length_append,
      Nat.add_sub_cancel, List.drop_left]
  unfold unpack
  rw [content_plainHeader]
  dsimp only
  rw [hrest, houtput]
  dsimp only
  rw [htrailer]

end Gzip

end SwapBridge.Archive
