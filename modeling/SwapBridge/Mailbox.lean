/-
  SwapBridge.Mailbox
  ──────────────────
  **MAIL OF A SUBSCRIBER.**

  A mailbox keeps the newest items, up to a capacity.  Items that had to make
  room are counted, so that the reader learns how many it lost.
-/

namespace SwapBridge

structure Mailbox (α : Type) where
  items : List α := []
  lost : Nat := 0
  deriving DecidableEq, Repr

namespace Mailbox

variable {α : Type}

/-- How many items a mailbox for swap events keeps. -/
def capacity : Nat := 1024

/-- Adds items at the end; the oldest beyond `limit` are lost. -/
def add (limit : Nat) (m : Mailbox α) (new : List α) : Mailbox α :=
  let all := m.items ++ new
  let surplus := all.length - limit
  ⟨all.drop surplus, m.lost + surplus⟩

/-- Nothing is lost while there is room. -/
theorem add_of_le {limit : Nat} {m : Mailbox α} {new : List α}
    (h : m.items.length + new.length ≤ limit) : m.add limit new = ⟨m.items ++ new, m.lost⟩ := by
  simp [add, Nat.sub_eq_zero_of_le h]

/-- The capacity of a channel that is asked for `n`: the next power of two. -/
def roundUp (n : Nat) : Nat := n.nextPowerOfTwo

end Mailbox

end SwapBridge
