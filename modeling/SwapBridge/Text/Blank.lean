/-
  SwapBridge.Text.Blank
  ─────────────────────
  **BLANKS AND CONTROL CHARACTERS.**

  `Char.isBlank` is the Unicode property White_Space, which `trim` removes at
  both ends of a text; `Char.isControl` is the general category Cc.
-/

namespace SwapBridge.Text

/-- The Unicode property White_Space. -/
def isBlank (c : Char) : Bool :=
  let n := c.toNat
  (0x09 ≤ n && n ≤ 0x0D) || n == 0x20 || n == 0x85 || n == 0xA0 || n == 0x1680 ||
    (0x2000 ≤ n && n ≤ 0x200A) || n == 0x2028 || n == 0x2029 || n == 0x202F ||
    n == 0x205F || n == 0x3000

/-- The Unicode general category Cc: C0, delete and C1. -/
def isControl (c : Char) : Bool :=
  let n := c.toNat
  n ≤ 0x1F || (0x7F ≤ n && n ≤ 0x9F)

/-- Drops from the end what `p` accepts. -/
def dropWhileEnd (p : Char → Bool) (cs : List Char) : List Char :=
  (cs.reverse.dropWhile p).reverse

/-- Drops blanks at both ends. -/
def trim (cs : List Char) : List Char := dropWhileEnd isBlank (cs.dropWhile isBlank)

/-- Drops blanks at the end. -/
def trimEnd (s : String) : String := String.ofList (dropWhileEnd isBlank s.toList)

/-- Capital ASCII letters become small; all else stays. -/
def lowerAscii (cs : List Char) : List Char := cs.map Char.toLower

end SwapBridge.Text
