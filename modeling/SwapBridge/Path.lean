/-
  SwapBridge.Path
  ───────────────
  **PATHS AS TEXT.**

  A path is text with `/` between its parts.  Joining keeps the text of both
  sides: an absolute right side stands for itself, an empty left side adds
  nothing, and a slash is put in only where none stands.
-/

namespace SwapBridge.Path

def isAbsolute (p : String) : Bool := p.toList.head? == some '/'

/-- The path `child` seen from the directory `base`. -/
def join (base child : String) : String :=
  if isAbsolute child || base.isEmpty then child
  else if base.toList.getLast? == some '/' then base ++ child
  else base ++ "/" ++ child

/-- Drops what says nothing at the end of a path that is written backwards:
slashes and single dots behind slashes. -/
def dropSilent : List Char → List Char
  | '.' :: '/' :: cs => dropSilent ('/' :: cs)
  | '/' :: cs => if cs.isEmpty then ['/'] else dropSilent cs
  | cs => cs

/-- The path without its last part, and without what says nothing before that part. -/
def parent (p : String) : String :=
  let rest := (dropSilent p.toList.reverse).dropWhile (· != '/')
  String.ofList (dropSilent rest).reverse

/-- Whether a path ends in a single dot, and so in what is there already. -/
def endsInDot (p : String) : Bool :=
  (p.toList.reverse.dropWhile (· == '/')).takeWhile (· != '/') == ['.']

/-- The named parts of a path: empty parts and single dots say nothing. -/
def parts (p : String) : List String :=
  ((p.toList.splitOn '/').map String.ofList).filter fun part => part != "" && part != "."

end SwapBridge.Path
