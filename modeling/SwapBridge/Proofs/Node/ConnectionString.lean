/-
  SwapBridge.Proofs.Node.ConnectionString
  ───────────────────────────────────────
  **WHAT A CONNECTION STRING SAYS.**

  The same settings can be written in many ways: with blanks around keys and
  values, in any letters, with empty parts between, in any order.  All of them
  say the same, and that is the last value of each key that is asked for.

    • `Pieces`, `Writes` — how parts are written as a string,
    • `read_of_writes` — such a string is read part by part,
    • `lastValue`, `resolve_congr` — what of the parts counts,
    • `Judges` — what the values come to, the first fault before all others,
    • `Describes`, `read_of_describes` — a node is read back from its fields,
    • `read_by_last_values` — all of it.
-/
import SwapBridge.Node.Lightning
import SwapBridge.Proofs.Text

namespace SwapBridge.ConnectionString

open Text

/-! ## §1. Writing parts. -/

/-- A piece of a string writes a key and a value: the key in any letters, blanks
around both. -/
structure WritesPart (p : String × String) (piece : List Char) : Prop where
  key_noSemicolon : ';' ∉ p.1.toList
  key_noEquals : '=' ∉ p.1.toList
  value_noSemicolon : ';' ∉ p.2.toList
  spelled : ∃ b₁ key b₂ b₃ b₄, AllBlank b₁ ∧ AllBlank b₂ ∧ AllBlank b₃ ∧ AllBlank b₄
    ∧ lowerAscii key = lowerAscii p.1.toList
    ∧ piece = b₁ ++ key ++ b₂ ++ '=' :: (b₃ ++ p.2.toList ++ b₄)

/-- The pieces of a string that write parts, with blank ones anywhere between. -/
inductive Pieces : List (String × String) → List (List Char) → Prop
  | nil : Pieces [] []
  | blank {b : List Char} {ps : List (String × String)} {pieces : List (List Char)}
      (hb : AllBlank b) (h : Pieces ps pieces) : Pieces ps (b :: pieces)
  | part {p : String × String} {piece : List Char} {ps : List (String × String)}
      {pieces : List (List Char)} (hp : WritesPart p piece) (h : Pieces ps pieces) :
      Pieces (p :: ps) (piece :: pieces)

/-- A string writes parts. -/
def Writes (ps : List (String × String)) (s : String) : Prop :=
  ∃ pieces, Pieces ps pieces ∧ s.toList = [';'].intercalate pieces

/-- What is read of a part. -/
def settingOf (p : String × String) : Setting :=
  ⟨lowerAscii (trim p.1.toList), trim p.2.toList⟩

variable {ps qs fields : List (String × String)} {pieces front back : List (List Char)}
  {p : String × String} {piece bad cs b b' : List Char} {s s' : String}
  {settings settings' : List Setting}

theorem not_mem_of_allBlank {m : Char} (hm : isBlank m = false) (hb : AllBlank b) : m ∉ b := by
  intro hmem
  rw [hb m hmem] at hm
  cases hm

namespace WritesPart

/-- A written part has no semicolon in it, so that `parts` does not cut it. -/
theorem noSemicolon (h : WritesPart p piece) : ';' ∉ piece := by
  obtain ⟨b₁, key, b₂, b₃, b₄, h₁, h₂, h₃, h₄, hkey, rfl⟩ := h.spelled
  have hblank : ∀ b, AllBlank b → ';' ∉ b := fun b => not_mem_of_allBlank (by decide)
  have hkey : ';' ∉ key := fun hmem => h.key_noSemicolon
    (mem_of_lowerAscii_eq hkey (by decide) (by decide) hmem)
  simp [hblank b₁ h₁, hblank b₂ h₂, hblank b₃ h₃, hblank b₄ h₄, hkey, h.value_noSemicolon]

/-- **A part is read as what it writes**: the first equals sign divides it. -/
theorem read_trim (h : WritesPart p piece) :
    trim piece ≠ [] ∧ Setting.read (trim piece) = .ok (settingOf p) := by
  obtain ⟨b₁, key, b₂, b₃, b₄, h₁, h₂, h₃, h₄, hkey, rfl⟩ := h.spelled
  have hblank : ∀ b, AllBlank b → '=' ∉ b := fun b => not_mem_of_allBlank (by decide)
  have hnokey : '=' ∉ key := fun hmem => h.key_noEquals
    (mem_of_lowerAscii_eq hkey (by decide) (by decide) hmem)
  -- the first `=` of the piece is the written one: neither the key nor a blank has any
  have hfirst : '=' ∉ (b₁ ++ key ++ b₂).dropWhile isBlank := by
    intro hmem
    have hmem := (List.dropWhile_suffix isBlank).subset hmem
    simp [hblank b₁ h₁, hblank b₂ h₂, hnokey] at hmem
  -- keys are compared in lower case, and lowering commutes with trimming
  have hname : lowerAscii (trim ((b₁ ++ key ++ b₂).dropWhile isBlank))
      = lowerAscii (trim p.1.toList) := by
    rw [trim_dropWhile, trim_around h₁ h₂, ← trim_lowerAscii, hkey, trim_lowerAscii]
  have hvalue : trim (dropWhileEnd isBlank (b₃ ++ p.2.toList ++ b₄)) = trim p.2.toList := by
    rw [trim_dropWhileEnd, trim_around h₃ h₄]
  rw [trim_append_cons (by decide)]
  refine ⟨by simp, ?_⟩
  unfold Setting.read settingOf
  rw [cut?_append hfirst, ← hname, ← hvalue]

end WritesPart

/-- Nor has a piece that is blank. -/
theorem Pieces.noSemicolon (h : Pieces ps pieces) : ∀ piece ∈ pieces, ';' ∉ piece := by
  induction h with
  | nil => exact fun _ hmem => nomatch hmem
  | blank hb _ ih => exact List.forall_mem_cons.2 ⟨not_mem_of_allBlank (by decide) hb, ih⟩
  | part hp _ ih => exact List.forall_mem_cons.2 ⟨hp.noSemicolon, ih⟩

/-! ## §2. Reading them. -/

/-- The pieces that say something. -/
def spoken (pieces : List (List Char)) : List (List Char) :=
  (pieces.map trim).filter (!·.isEmpty)

/-- `spoken` works on the pieces one by one. -/
theorem spoken_append (xs ys : List (List Char)) : spoken (xs ++ ys) = spoken xs ++ spoken ys := by
  unfold spoken
  rw [List.map_append, List.filter_append]

theorem spoken_cons (piece : List Char) (pieces : List (List Char)) :
    spoken (piece :: pieces) = spoken [piece] ++ spoken pieces := spoken_append [piece] pieces

/-- What is left of a piece is all that counts. -/
theorem spoken_of_trim_eq {piece piece' : List Char} (h : trim piece = trim piece') :
    spoken [piece] = spoken [piece'] := by
  unfold spoken
  rw [List.map_singleton, List.map_singleton, h]

/-- A piece with something left speaks. -/
theorem spoken_of_ne_nil (h : trim piece ≠ []) : spoken [piece] = [trim piece] := by
  unfold spoken
  simp [h]

/-- A blank piece does not. -/
theorem spoken_of_allBlank (hb : AllBlank b) : spoken [b] = [] := by
  unfold spoken
  rw [List.map_singleton, trim_of_allBlank hb]
  rfl

/-- `parts` are the pieces between semicolons that speak. -/
theorem parts_eq (cs : List Char) : parts cs = spoken (cs.splitOn ';') := rfl

/-- Blanks around a string are lost with those around its first and last piece. -/
theorem parts_around {b b' : List Char} (hb : AllBlank b) (hb' : AllBlank b') (cs : List Char) :
    parts (b ++ cs ++ b') = parts cs := by
  -- by recursion along the semicolons: the blanks in front touch the first part only, those at
  -- the end the last one only
  by_cases hmark : ';' ∈ cs
  · obtain ⟨before, after, rfl, hbefore⟩ := List.eq_append_cons_of_mem hmark
    have hfirst : ';' ∉ b ++ before := by
      simp [hbefore, not_mem_of_allBlank (by decide : isBlank ';' = false) hb]
    have hbehind := parts_around allBlank_nil hb' after
    rw [List.nil_append] at hbehind
    have hassoc : b ++ (before ++ ';' :: after) ++ b' = b ++ before ++ ';' :: (after ++ b') := by
      simp
    have htrim : trim (b ++ before) = trim before := by
      have haround := trim_around hb allBlank_nil before
      rwa [List.append_nil] at haround
    rw [hassoc, parts_eq, parts_eq, List.splitOn_append_cons_self_of_not_mem hfirst,
      List.splitOn_append_cons_self_of_not_mem hbefore, spoken_cons, spoken_cons before,
      spoken_of_trim_eq htrim]
    exact congrArg (spoken [before] ++ ·) hbehind
  · have hnone : ';' ∉ b ++ cs ++ b' := by
      simp [hmark, not_mem_of_allBlank (by decide : isBlank ';' = false) hb,
        not_mem_of_allBlank (by decide : isBlank ';' = false) hb']
    rw [parts_eq, parts_eq, List.splitOn_eq_singleton hnone, List.splitOn_eq_singleton hmark]
    exact spoken_of_trim_eq (trim_around hb hb' cs)
termination_by cs.length

/-- Blanks around the whole text are blanks around its first and last piece. -/
theorem parts_trim (cs : List Char) : parts (trim cs) = parts cs := by
  obtain ⟨b, b', hb, hb', heq⟩ := exists_blanks cs
  conv_rhs => rw [heq, parts_around hb hb']

/-- **A string is read piece by piece**, unless nothing at all stands there. -/
theorem read_of_pieces (hpieces : pieces ≠ []) (hnone : ∀ piece ∈ pieces, ';' ∉ piece)
    (hspoken : spoken pieces ≠ []) (hs : s.toList = [';'].intercalate pieces) :
    read s = (spoken pieces).mapM Setting.read >>= resolve := by
  have hparts : parts (trim s.toList) = spoken pieces := by
    rw [parts_trim, hs, parts_eq, List.splitOn_intercalate ';' hnone hpieces]
  have hempty : ¬ (trim s.toList).isEmpty = true := by
    rw [List.isEmpty_iff]
    intro heq
    rw [heq] at hparts
    exact hspoken hparts.symm
  unfold read
  rw [← hparts]
  exact if_neg hempty

/-- The pieces that write parts are read as those. -/
theorem Pieces.mapM_spoken (h : Pieces ps pieces) :
    (spoken pieces).mapM Setting.read = .ok (ps.map settingOf) := by
  induction h with
  | nil => rfl
  | blank hb _ ih =>
    rw [spoken_cons, spoken_of_allBlank hb]
    exact ih
  | part hp _ ih =>
    obtain ⟨hne, hread⟩ := hp.read_trim
    rw [spoken_cons, spoken_of_ne_nil hne, List.singleton_append, List.mapM_cons, hread, ih]
    rfl

/-- Where a part was written some piece speaks. -/
theorem Pieces.spoken_ne_nil (h : Pieces ps pieces) (hps : ps ≠ []) : spoken pieces ≠ [] := by
  intro hnil
  have hread := h.mapM_spoken
  rw [hnil] at hread
  exact hps (List.map_eq_nil_iff.1 (Except.ok.inj hread).symm)

/-- **What a string of parts comes to** is decided by the parts that it writes. -/
theorem read_of_writes (hps : ps ≠ []) (h : Writes ps s) : read s = resolve (ps.map settingOf) := by
  obtain ⟨pieces, hpieces, hs⟩ := h
  have hspoken := hpieces.spoken_ne_nil hps
  have hne : pieces ≠ [] := by
    rintro rfl
    exact hspoken rfl
  rw [read_of_pieces hne hpieces.noSemicolon hspoken hs, hpieces.mapM_spoken]
  rfl

/-- **The first part without an equals sign** is reported, whatever else is wrong. -/
theorem read_of_malformed (hfront : Pieces ps front) (hsemicolon : ';' ∉ bad) (hequals : '=' ∉ bad)
    (hbad : trim bad ≠ []) (hback : ∀ piece ∈ back, ';' ∉ piece)
    (hs : s.toList = [';'].intercalate (front ++ bad :: back)) :
    read s = .error (.malformedPart (String.ofList (trim bad))) := by
  have hnone : ∀ piece ∈ front ++ bad :: back, ';' ∉ piece := by
    intro piece hmem
    rcases List.mem_append.1 hmem with hmem | hmem
    · exact hfront.noSemicolon piece hmem
    · rcases List.mem_cons.1 hmem with rfl | hmem
      · exact hsemicolon
      · exact hback piece hmem
  have hspoken : spoken (front ++ bad :: back)
      = spoken front ++ trim bad :: spoken back := by
    rw [spoken_append, spoken_cons, spoken_of_ne_nil hbad]
    rfl
  have hread : Setting.read (trim bad) = .error (.malformedPart (String.ofList (trim bad))) := by
    unfold Setting.read
    rw [cut?_of_not_mem fun hmem => hequals (mem_of_mem_trim hmem)]
  -- the parts in front are read without a fault, so this one is the first to fail
  rw [read_of_pieces (by simp) hnone (by simp [hspoken]) hs, hspoken, List.mapM_append,
    hfront.mapM_spoken, List.mapM_cons, hread]
  rfl

/-! ## §3. What counts. -/

/-- Whether a part is for a key: without blanks around and in small letters. -/
def isFor (key : Key) (p : String × String) : Bool :=
  lowerAscii (trim p.1.toList) == key.name.toList

/-- The value of the last part for a key, without blanks around. -/
def lastValue (ps : List (String × String)) (key : Key) : Option String :=
  (ps.filter (isFor key)).getLast?.map fun p => String.ofList (trim p.2.toList)

/-- The keys of parts, as they are compared. -/
def comparedKey (p : String × String) : List Char := lowerAscii (trim p.1.toList)

/-- `lookup` looks for the last setting with a key: the value that was written last. -/
theorem lookup_map (ps : List (String × String)) (key : Key) :
    lookup (ps.map settingOf) key = lastValue ps key := by
  unfold lookup lastValue
  rw [← List.map_reverse, List.find?_map, List.getLast?_filter, Option.map_map]
  rfl

/-- `resolve` looks at settings by their keys alone. -/
theorem resolve_congr (h : ∀ key, lookup settings key = lookup settings' key) :
    resolve settings = resolve settings' := by
  unfold resolve require
  simp only [h]

/-- Of parts with different keys at most one is for a key, so their order is of no account. -/
theorem lastValue_perm (hperm : ps.Perm qs)
    (hkeys : ps.Pairwise fun p q => comparedKey p ≠ comparedKey q) (key : Key) :
    lastValue ps key = lastValue qs key := by
  have hfilter : (ps.filter (isFor key)).Perm (qs.filter (isFor key)) := hperm.filter _
  have hdifferent := hkeys.filter (isFor key)
  -- at most one part is written for `key`, and a list of at most one member is its only
  -- reordering
  have hsame : ps.filter (isFor key) = qs.filter (isFor key) := by
    match hps : ps.filter (isFor key) with
    | [] => exact (List.perm_nil.1 (hps ▸ hfilter).symm).symm
    | [p] => exact (List.perm_singleton.1 (hps ▸ hfilter).symm).symm
    | p :: p' :: rest =>
      have hfor : ∀ q ∈ p :: p' :: rest, comparedKey q = key.name.toList := by
        intro q hq
        rw [← hps] at hq
        exact beq_iff_eq.1 (List.mem_filter.1 hq).2
      rw [hps] at hdifferent
      have hne := (List.pairwise_cons.1 hdifferent).1 p' List.mem_cons_self
      -- two parts for one key contradict `hkeys`
      exact absurd ((hfor p (by simp)).trans (hfor p' (by simp)).symm) hne
  unfold lastValue
  rw [hsame]

/-- The two makes of nodes that are reached over a server. -/
inductive IsMake : String → Key → Prop
  | lnd : IsMake "lnd-grpc" .macaroonPath
  | cln : IsMake "clightning-grpc" .certDir

/-- The node of a make, from where it is reached and where its files are. -/
def nodeOf (values : Key → Option String) (host : String) (port : UInt16) (path : String) :
    Key → LightningNode
  | .macaroonPath => .lnd host port path (values .certificatePath)
  | _ => .cln host port path

/-- **What the values of the keys come to.**  Of several faults the first one counts, in
the order in which they stand here. -/
inductive Judges (values : Key → Option String) : Except Error LightningNode → Prop
  | noType (h : values .backend = none) : Judges values (.error (.missing .backend))
  | standalone (h : values .backend = some "standalone") : Judges values (.ok .standalone)
  | unsupported {backend : String} (h : values .backend = some backend)
      (hstandalone : backend ≠ "standalone") (hmake : ∀ key, ¬ IsMake backend key) :
      Judges values (.error (.unsupportedBackend backend))
  | noServer {backend : String} {key : Key} (h : values .backend = some backend)
      (hmake : IsMake backend key) (hserver : values .server = none) :
      Judges values (.error (.missing .server))
  | noAddress {backend server : String} {key : Key} (h : values .backend = some backend)
      (hmake : IsMake backend key) (hserver : values .server = some server)
      (haddress : ∀ address, readServer server ≠ .ok address) :
      Judges values (.error (.malformedServer server))
  | noPath {backend server : String} {key : Key} {address : String × UInt16}
      (h : values .backend = some backend) (hmake : IsMake backend key)
      (hserver : values .server = some server) (haddress : readServer server = .ok address)
      (hpath : values key = none) : Judges values (.error (.missing key))
  | node {backend server host path : String} {port : UInt16} {key : Key}
      (h : values .backend = some backend) (hmake : IsMake backend key)
      (hserver : values .server = some server) (haddress : readServer server = .ok (host, port))
      (hpath : values key = some path) : Judges values (.ok (nodeOf values host port path key))

/-- A server that is none is reported as it is. -/
theorem readServer_error {server : String} {e : Error} (h : readServer server = .error e) :
    e = .malformedServer server := by
  unfold readServer at h
  split at h
  · split_ifs at h
    · cases h
      rfl
    · split at h <;> cases h
      rfl
  · cases h
    rfl

/-- Both makes are read alike: the server first, then the files. -/
theorem resolve_of_make {backend : String} {key : Key}
    (h : lookup settings .backend = some backend) (hmake : IsMake backend key) :
    resolve settings = (do
      let server ← require settings .server
      let (host, port) ← readServer server
      let path ← require settings key
      return nodeOf (lookup settings) host port path key) := by
  have hbackend : require settings .backend = .ok backend := by
    unfold require
    rw [h]
  unfold resolve
  rw [hbackend]
  cases hmake <;> rfl

/-- **The settings are judged by their values.** -/
theorem judges_resolve (settings : List Setting) : Judges (lookup settings) (resolve settings) := by
  cases h : lookup settings .backend with
  | none =>
    have hresolve : resolve settings = .error (.missing .backend) := by
      unfold resolve require
      rw [h]
      rfl
    rw [hresolve]
    exact .noType h
  | some backend =>
    -- the types that need a node's settings come before the other two, as in `resolve`
    by_cases hmake : ∃ key, IsMake backend key
    · obtain ⟨key, hmake⟩ := hmake
      rw [resolve_of_make h hmake]
      unfold require
      cases hserver : lookup settings .server with
      | none => exact .noServer h hmake hserver
      | some server =>
        dsimp only [bind, Except.bind]
        cases haddress : readServer server with
        | error e =>
          obtain rfl := readServer_error haddress
          exact .noAddress h hmake hserver fun address heq => by simp [haddress] at heq
        | ok address =>
          cases hpath : lookup settings key with
          | none => exact .noPath h hmake hserver haddress hpath
          | some path => exact .node h hmake hserver haddress hpath
    · have hresolve : resolve settings
          = if backend = "standalone" then .ok .standalone
            else .error (.unsupportedBackend backend) := by
        have hlnd : backend ≠ "lnd-grpc" := fun heq => hmake ⟨.macaroonPath, heq ▸ IsMake.lnd⟩
        have hcln : backend ≠ "clightning-grpc" := fun heq => hmake ⟨.certDir, heq ▸ IsMake.cln⟩
        unfold resolve require
        rw [h]
        show (if backend = "standalone" then _ else if backend = "lnd-grpc" then _
          else if backend = "clightning-grpc" then _ else _) = _
        rw [if_neg hlnd, if_neg hcln]
        rfl
      rw [hresolve]
      split_ifs with hstandalone
      · exact .standalone (hstandalone ▸ h)
      · exact .unsupported h hstandalone fun key hkey => hmake ⟨key, hkey⟩

/-! ## §4. Nodes. -/

/-- A text that can stand in a part as it is. -/
structure IsPlain (s : String) : Prop where
  noSemicolon : ';' ∉ s.toList
  trimmed : trim s.toList = s.toList

/-- The host and the port with slashes behind them. -/
def address (host : String) (port : UInt16) (slashes : Nat) : List Char :=
  host.toList ++ ':' :: (Decimal.digits port.toNat ++ List.replicate slashes '/')

/-- The ways to write a server: an address, after a scheme or without one. -/
inductive IsServer (host : String) (port : UInt16) : String → Prop
  | bare (slashes : Nat) (hhost : ¬ schemeEnd <:+: host.toList) :
      IsServer host port (String.ofList (address host port slashes))
  | withScheme {scheme : List Char} (slashes : Nat) (hscheme : ¬ schemeEnd <:+: scheme)
      (hfirst : scheme.dropWhile isBlank = scheme) :
      IsServer host port (String.ofList (scheme ++ schemeEnd ++ address host port slashes))

/-- The fields of a node: a plain host and plain paths, under the keys that are asked for. -/
inductive Describes : LightningNode → List (String × String) → Prop
  | lnd {host server macaroon : String} {port : UInt16} {certificate : Option String}
      (hne : host ≠ "") (hhost : IsPlain host) (hserver : IsServer host port server)
      (hmacaroon : IsPlain macaroon) (hcertificate : ∀ path ∈ certificate, IsPlain path) :
      Describes (.lnd host port macaroon certificate)
        ([(Key.backend.name, "lnd-grpc"), (Key.server.name, server),
          (Key.macaroonPath.name, macaroon)]
          ++ (certificate.map (Key.certificatePath.name, ·)).toList)
  | cln {host server dir : String} {port : UInt16} (hne : host ≠ "") (hhost : IsPlain host)
      (hserver : IsServer host port server) (hdir : IsPlain dir) :
      Describes (.cln host port dir)
        [(Key.backend.name, "clightning-grpc"), (Key.server.name, server),
          (Key.certDir.name, dir)]

theorem toNat_of_isDigit {c : Char} (h : c.isDigit = true) : 48 ≤ c.toNat ∧ c.toNat ≤ 57 := by
  simp only [Char.isDigit, Bool.and_eq_true, decide_eq_true_eq] at h
  exact ⟨h.1, h.2⟩

/-- A digit is none of the characters that divide a server. -/
theorem isBlank_of_isDigit {c : Char} (h : c.isDigit = true) :
    c ≠ ':' ∧ c ≠ '/' ∧ isBlank c = false := by
  obtain ⟨hlow, hhigh⟩ := toNat_of_isDigit h
  refine ⟨?_, ?_, ?_⟩
  · rintro rfl
    exact absurd hhigh (by decide)
  · rintro rfl
    exact absurd hlow (by decide)
  · simp only [isBlank, Bool.or_eq_false_iff, Bool.and_eq_false_iff, decide_eq_false_iff_not,
      beq_eq_false_iff_ne]
    omega

/-- What stands behind the last colon of an address. -/
theorem of_mem_portText {n slashes : Nat} {c : Char}
    (h : c ∈ Decimal.digits n ++ List.replicate slashes '/') : c ≠ ':' ∧ isBlank c = false := by
  rcases List.mem_append.1 h with h | h
  · obtain ⟨hcolon, _, hblank⟩ := isBlank_of_isDigit (Decimal.isDigit_of_mem_digits h)
    exact ⟨hcolon, hblank⟩
  · obtain rfl := List.eq_of_mem_replicate h
    decide

/-- A port begins with a digit, so that a colon in front of it ends no scheme. -/
theorem head_portText (n slashes : Nat) :
    (Decimal.digits n ++ List.replicate slashes '/').head? ≠ some '/' := by
  cases hdigits : Decimal.digits n with
  | nil => exact absurd hdigits (Decimal.digits_ne_nil n)
  | cons c cs =>
    have hc : c ∈ Decimal.digits n := hdigits ▸ List.mem_cons_self
    have hslash := (isBlank_of_isDigit (Decimal.isDigit_of_mem_digits hc)).2.1
    simpa using hslash

/-- The slashes behind an address are dropped. -/
theorem dropWhileEnd_address (host : String) (port : UInt16) (slashes : Nat) :
    dropWhileEnd (· == '/') (address host port slashes)
      = host.toList ++ ':' :: Decimal.digits port.toNat := by
  unfold address
  rw [dropWhileEnd_append_cons (by decide), dropWhileEnd_append_of_all, dropWhileEnd_of_none]
  · intro c hc
    have hslash := (isBlank_of_isDigit (Decimal.isDigit_of_mem_digits hc)).2.1
    simpa using hslash
  · intro c hc
    simpa using List.eq_of_mem_replicate hc

/-- **A server leads to its address**, whatever stands before and behind it. -/
theorem authority_of_isServer {host server : String} {port : UInt16}
    (h : IsServer host port server) :
    authority server.toList = host.toList ++ ':' :: Decimal.digits port.toNat := by
  cases h with
  | bare slashes hhost =>
    -- without a scheme, the mark of one must not turn up across the host and the port
    have hnone : cut? schemeEnd (address host port slashes) = none :=
      (cut?_eq_none_iff (by decide)).2 (not_isInfix_schemeEnd hhost (head_portText _ _)
        fun hmem => (of_mem_portText hmem).1 rfl)
    rw [String.toList_ofList, ← dropWhileEnd_address host port slashes]
    unfold authority
    exact congrArg (dropWhileEnd _) (by rw [show "://".toList = schemeEnd from rfl, hnone])
  | @withScheme scheme slashes hscheme _ =>
    rw [String.toList_ofList, ← dropWhileEnd_address host port slashes]
    unfold authority
    refine congrArg (dropWhileEnd _) ?_
    rw [show "://".toList = schemeEnd from rfl, cut?_schemeEnd hscheme]

/-- **A server is read as its host and its port.** -/
theorem readServer_of_isServer {host server : String} {port : UInt16} (hne : host ≠ "")
    (h : IsServer host port server) : readServer server = .ok (host, port) := by
  have hcolon : ':' ∉ Decimal.digits port.toNat := fun hmem =>
    (isBlank_of_isDigit (Decimal.isDigit_of_mem_digits hmem)).1 rfl
  have hempty : ¬ host.toList.isEmpty = true := by
    rw [List.isEmpty_iff, String.toList_eq_nil_iff]
    exact hne
  unfold readServer
  rw [authority_of_isServer h, cutLast?_append hcolon]
  dsimp only
  rw [if_neg hempty, Decimal.readUInt16?_digits, String.ofList_toList]

/-- Nothing is trimmed from a server whose host is plain. -/
theorem trim_of_isServer {host server : String} {port : UInt16} (hhost : IsPlain host)
    (h : IsServer host port server) : trim server.toList = server.toList := by
  have hport : ∀ n slashes, dropWhileEnd isBlank (Decimal.digits n ++ List.replicate slashes '/')
      = Decimal.digits n ++ List.replicate slashes '/' := fun n slashes =>
    dropWhileEnd_of_none fun c hc => (of_mem_portText hc).2
  cases h with
  | bare slashes =>
    rw [String.toList_ofList]
    unfold address
    rw [trim_append_cons (by decide), hport, dropWhile_of_trim_eq hhost.trimmed]
  | @withScheme scheme slashes _ hfirst =>
    have hmark : schemeEnd = ':' :: ['/', '/'] := rfl
    rw [String.toList_ofList, List.append_assoc, hmark, List.cons_append,
      trim_append_cons (by decide), hfirst]
    unfold address
    rw [← List.append_assoc, dropWhileEnd_append_cons (by decide), hport]

/-- The keys are told apart as they are written. -/
theorem isFor_name (key key' : Key) (value : String) :
    isFor key (key'.name, value) = decide (key' = key) := by
  show (lowerAscii (trim key'.name.toList) == key.name.toList) = _
  cases key <;> cases key' <;> decide +kernel

/-- The value of a field whose key comes no second time. -/
theorem lastValue_eq {key : Key} {value : String} (hplain : trim value.toList = value.toList)
    (h : ps.filter (isFor key) = [(key.name, value)]) : lastValue ps key = some value := by
  unfold lastValue
  rw [h]
  show some (String.ofList (trim value.toList)) = _
  rw [hplain, String.ofList_toList]

/-- **A node is read back from its fields**, wherever they come from. -/
theorem resolve_of_describes {node : LightningNode} (h : Describes node fields)
    (hvalues : ∀ key, lookup settings key = lastValue fields key) :
    resolve settings = .ok node := by
  cases h with
  | @lnd host server macaroon port certificate hne hhost hserver hmacaroon hcertificate =>
    -- each setting is found under its last value, and what it was written from is trimmed
    have hbackend : lookup settings .backend = some "lnd-grpc" :=
      (hvalues _).trans (lastValue_eq (by decide) (by cases certificate <;> simp [isFor_name]))
    have haddress : lookup settings .server = some server :=
      (hvalues _).trans (lastValue_eq (trim_of_isServer hhost hserver)
        (by cases certificate <;> simp [isFor_name]))
    have hpath : lookup settings .macaroonPath = some macaroon :=
      (hvalues _).trans (lastValue_eq hmacaroon.trimmed
        (by cases certificate <;> simp [isFor_name]))
    have hcert : lookup settings .certificatePath = certificate := by
      rw [hvalues]
      cases certificate with
      | none => simp [lastValue, isFor_name]
      | some path => exact lastValue_eq (hcertificate path rfl).trimmed (by simp [isFor_name])
    rw [resolve_of_make hbackend .lnd]
    unfold require
    rw [haddress, hpath]
    dsimp only [bind, Except.bind]
    rw [readServer_of_isServer hne hserver]
    show Except.ok (LightningNode.lnd host port macaroon (lookup settings .certificatePath)) = _
    rw [hcert]
  | @cln host server dir port hne hhost hserver hdir =>
    have hbackend : lookup settings .backend = some "clightning-grpc" :=
      (hvalues _).trans (lastValue_eq (by decide) (by simp [isFor_name]))
    have haddress : lookup settings .server = some server :=
      (hvalues _).trans (lastValue_eq (trim_of_isServer hhost hserver) (by simp [isFor_name]))
    have hpath : lookup settings .certDir = some dir :=
      (hvalues _).trans (lastValue_eq hdir.trimmed (by simp [isFor_name]))
    rw [resolve_of_make hbackend .cln]
    unfold require
    rw [haddress, hpath]
    dsimp only [bind, Except.bind]
    rw [readServer_of_isServer hne hserver]
    rfl

/-! ## §5. All of it. -/

/-- **A CONNECTION STRING SAYS THE LAST VALUES OF ITS KEYS.**  A string that writes parts, in
whatever form, is judged by the last values of the five keys alone, and of several faults
the first one in a fixed order is reported.  So strings with the same last values are
read alike, as are strings of the same parts with different keys in another order; and a
node is read back from its fields.  A part without an equals sign comes before all of that. -/
theorem read_by_last_values :
    (∀ ps s, ps ≠ [] → Writes ps s → Judges (lastValue ps) (read s))
    ∧ (∀ ps qs s s', ps ≠ [] → qs ≠ [] → Writes ps s → Writes qs s' →
        (∀ key, lastValue ps key = lastValue qs key) → read s = read s')
    ∧ (∀ ps qs s s', ps ≠ [] → ps.Perm qs →
        (ps.Pairwise fun p q => comparedKey p ≠ comparedKey q) →
        Writes ps s → Writes qs s' → read s = read s')
    ∧ (∀ node fields ps s, Describes node fields → ps ≠ [] → Writes ps s →
        (∀ key, lastValue ps key = lastValue fields key) → read s = .ok node)
    ∧ ∀ ps front bad back s, Pieces ps front → ';' ∉ bad → '=' ∉ bad → trim bad ≠ [] →
        (∀ piece ∈ back, ';' ∉ piece) → s.toList = [';'].intercalate (front ++ bad :: back) →
        read s = .error (.malformedPart (String.ofList (trim bad))) := by
  -- a text counts only through the last values of its keys, which reordering does not change
  have hsame : ∀ ps qs s s', ps ≠ [] → qs ≠ [] → Writes ps s → Writes qs s' →
      (∀ key, lastValue ps key = lastValue qs key) → read s = read s' := by
    intro ps qs s s' hps hqs hs hs' hvalues
    rw [read_of_writes hps hs, read_of_writes hqs hs']
    refine resolve_congr fun key => ?_
    rw [lookup_map, lookup_map, hvalues key]
  refine ⟨?_, hsame, ?_, ?_, ?_⟩
  · intro ps s hps hs
    rw [read_of_writes hps hs, ← funext (lookup_map ps)]
    exact judges_resolve _
  · intro ps qs s s' hps hperm hkeys hs hs'
    have hqs : qs ≠ [] := fun hnil => hps (List.perm_nil.1 (hnil ▸ hperm))
    exact hsame ps qs s s' hps hqs hs hs' (lastValue_perm hperm hkeys)
  · intro node fields ps s hnode hps hs hvalues
    rw [read_of_writes hps hs]
    exact resolve_of_describes hnode fun key => (lookup_map ps key).trans (hvalues key)
  · intro ps front bad back s hfront hsemicolon hequals hbad hback hs
    exact read_of_malformed hfront hsemicolon hequals hbad hback hs

/-- The fields of a node, as they are written in any letters and with any blanks. -/
def sampleFields : List (String × String) :=
  [("type", "lnd-grpc"), ("server", "https://[::1]:10009//"), ("macaroonfilepath", "/lnd/a=b"),
    ("certfilepath", "/lnd/tls.cert")]

/-- The example is written with blanks, empty pieces, names in several spellings, and an
equals sign in a value. -/
theorem writes_sampleFields :
    Writes sampleFields (" Type= lnd-grpc;;SERVER =https://[::1]:10009// ; "
      ++ ";macaroonFilePath=/lnd/a=b;\tcertfilepath=/lnd/tls.cert") := by
  refine ⟨[" Type= lnd-grpc".toList, [], "SERVER =https://[::1]:10009// ".toList, [' '],
    "macaroonFilePath=/lnd/a=b".toList, "\tcertfilepath=/lnd/tls.cert".toList],
    .part ⟨by decide, by decide, by decide, [' '], "Type".toList, [], [' '], [], ?_⟩
      (.blank ?_ (.part ⟨by decide, by decide, by decide, [], "SERVER".toList, [' '], [], [' '], ?_⟩
        (.blank ?_ (.part ⟨by decide, by decide, by decide, [], "macaroonFilePath".toList, [], [],
            [], ?_⟩
          (.part ⟨by decide, by decide, by decide, ['\t'], "certfilepath".toList, [], [], [], ?_⟩
            .nil))))), ?_⟩
  all_goals decide +kernel

/-- It is read by the general theorem, and not by evaluation. -/
theorem read_sampleFields :
    read (" Type= lnd-grpc;;SERVER =https://[::1]:10009// ; "
        ++ ";macaroonFilePath=/lnd/a=b;\tcertfilepath=/lnd/tls.cert")
      = .ok (.lnd "[::1]" 10009 "/lnd/a=b" (some "/lnd/tls.cert")) := by
  have hplain : ∀ s ∈ ["[::1]", "/lnd/a=b", "/lnd/tls.cert"],
      ';' ∉ s.toList ∧ trim s.toList = s.toList := by decide +kernel
  have hplain : ∀ s ∈ ["[::1]", "/lnd/a=b", "/lnd/tls.cert"], IsPlain s := fun s hs =>
    ⟨(hplain s hs).1, (hplain s hs).2⟩
  have hscheme : ¬ schemeEnd <:+: "https".toList := by decide
  have hserver : IsServer "[::1]" 10009 "https://[::1]:10009//" :=
    .withScheme 2 hscheme (by decide)
  have hnode : Describes (.lnd "[::1]" 10009 "/lnd/a=b" (some "/lnd/tls.cert")) sampleFields :=
    .lnd (by decide) (hplain _ (by simp)) hserver (hplain _ (by simp))
      fun path hpath => hplain path (by simp_all)
  exact read_by_last_values.2.2.2.1 _ _ _ _ hnode (List.cons_ne_nil _ _) writes_sampleFields
    fun _ => rfl

end SwapBridge.ConnectionString
