/-
  SwapBridge.Proofs.Release.Extract
  ─────────────────────────────────
  **WHAT EXTRACTION WRITES.**

  Extraction makes a directory and writes programs into it, and nothing else,
  also when it fails halfway.  A program is written where its place in the
  directory leads: a link there is followed.  When extraction succeeds, each
  program stands there as it was met last in the archive.

    • `keeps_writeProgram`, `get?_writeProgram` — one program,
    • `contained` — what an archive holds under a name,
    • `keeps_extract` — outside of the directory nothing changes but the way to it,
    • `extract_fails` — what there is of the directory after a fault,
    • `extract_writes`, `extract_succeeds` — what there is when all went well,
    • `contents_daemonArchive` — an archive that holds a daemon, byte by byte.
-/
import SwapBridge.Proofs.Archive.Stored
import SwapBridge.Proofs.Release.Work

namespace SwapBridge.Release

open FileTree

variable {γ : Type} {g : Option Entry → γ} {m l dir : Location} {archive : List UInt8}
  {path name : String} {t t' : FileTree} {content : List UInt8} {mount : Mount}

/-! ## §1. Writing programs. -/

/-- A program is written, and then it is made executable. -/
theorem writeProgram_eq_ok_iff :
    (writeProgram mount dir name content).on t = (.ok (), t')
      ↔ ∃ t₁, mount.write (dir ++ [name]) content t = .ok t₁
          ∧ mount.setExecutable (dir ++ [name]) true t₁ = .ok t' := by
  unfold writeProgram
  rw [Work.on_bind, Work.on_change]
  cases mount.write (dir ++ [name]) content t with
  | error fault => simp
  | ok t₁ =>
    dsimp only
    rw [Work.on_change_eq_ok]
    simp

/-- A program changes nothing but the location that its place leads to, also where it is
written and its permissions are refused. -/
theorem keeps_writeProgram (h : mount.leads (dir ++ [name]) ≠ some m) (content : List UInt8) :
    Work.Keeps (fun t => g (t.get? m)) (writeProgram mount dir name content) := by
  unfold writeProgram
  refine Work.Relates.bind (Work.Relates.change ?_) fun _ => Work.Relates.change ?_
  · intro t t' hchange
    obtain ⟨target, hleads, hwrite⟩ := Mount.write_eq_ok_iff.1 hchange
    have hother : m ≠ target := fun heq => h (heq ▸ hleads)
    exact congrArg g (get?_write_of_ne hwrite hother)
  · intro t t' hchange
    obtain ⟨target, hleads, _, _, rfl⟩ := Mount.setExecutable_eq_ok_iff.1 hchange
    have hother : m ≠ target := fun heq => h (heq ▸ hleads)
    exact congrArg g (get?_setExecutable_of_ne t hother true)

/-- **What stands where a program was written**: its content, and it can be run. -/
theorem get?_writeProgram (h : (writeProgram mount dir name content).on t = (.ok (), t'))
    (hleads : mount.leads (dir ++ [name]) = some l) :
    t'.get? l = some (.file content true) := by
  obtain ⟨t₁, hwrite, hset⟩ := writeProgram_eq_ok_iff.1 h
  obtain ⟨target, htarget, hwrite⟩ := Mount.write_eq_ok_iff.1 hwrite
  obtain ⟨target', htarget', _, _, rfl⟩ := Mount.setExecutable_eq_ok_iff.1 hset
  rw [hleads] at htarget htarget'
  cases htarget
  cases htarget'
  obtain ⟨hne, _, executable, rfl⟩ := write_cases hwrite
  unfold setExecutable
  rw [get?_put_self t hne]
  exact get?_put_self _ hne _

/-- What programs hold under the wanted names: the last one counts. -/
def lastOf (wanted : String → Bool) (programs : List (String × List UInt8)) :
    Option (List UInt8) :=
  ((programs.filter (wanted ·.1)).getLast?).map (·.2)

variable {wanted : String → Bool}

/-- A program counts if no later one of a wanted name does. -/
theorem lastOf_cons (p : String × List UInt8) (programs : List (String × List UInt8)) :
    lastOf wanted (p :: programs)
      = (lastOf wanted programs).or (if wanted p.1 then some p.2 else none) := by
  unfold lastOf
  rw [List.filter_cons]
  by_cases hname : wanted p.1 = true
  · rw [if_pos hname, List.getLast?_cons, if_pos hname]
    cases (programs.filter (wanted ·.1)).getLast? <;> rfl
  · rw [if_neg hname, if_neg hname, Option.or_none]

/-- The names whose places in a directory lead to a location. -/
def leadingTo (mount : Mount) (dir l : Location) (name : String) : Bool :=
  mount.leads (dir ++ [name]) == some l

/-- **Programs are written one after the other**, so a location holds the last one whose
place leads there. -/
theorem get?_writePrograms {programs : List (String × List UInt8)} :
    ∀ {t : FileTree},
      (programs.forM fun (p : String × List UInt8) => writeProgram mount dir p.1 p.2).on t
        = (.ok (), t') →
      t'.get? l
        = ((lastOf (leadingTo mount dir l) programs).map (Entry.file · true)).or (t.get? l) := by
  induction programs with
  | nil =>
    intro t h
    cases h
    rfl
  | cons p programs ih =>
    intro t h
    obtain ⟨_, t₁, hfirst, hrest⟩ := Work.on_bind_eq_ok.1 h
    rw [ih hrest, lastOf_cons]
    -- a later program that goes there hides this one
    cases lastOf (leadingTo mount dir l) programs with
    | some content => rfl
    | none =>
      rw [Option.none_or, Option.map_none, Option.none_or]
      by_cases hleads : leadingTo mount dir l p.1 = true
      · rw [if_pos hleads, get?_writeProgram hfirst (beq_iff_eq.1 hleads)]
        rfl
      · rw [if_neg hleads]
        have hother : mount.leads (dir ++ [p.1]) ≠ some l := fun heq => hleads (beq_iff_eq.2 heq)
        have hkept := keeps_writeProgram (g := id) hother p.2 t
        rw [hfirst] at hkept
        exact hkept

/-! ## §2. The directory of an extraction. -/

/-- What an archive holds under a name, as it is met last. -/
def contained (name : String) (archive : List UInt8) : Option (List UInt8) :=
  lastOf (· == name) (contents archive).programs

/-- A last program is there if and only if there is one. -/
theorem lastOf_isSome {programs : List (String × List UInt8)} :
    (lastOf wanted programs).isSome = programs.any (wanted ·.1) := by
  induction programs with
  | nil => rfl
  | cons p programs ih =>
    rw [lastOf_cons, List.any_cons, ← ih]
    by_cases hname : wanted p.1 = true
    · cases lastOf wanted programs <;> simp [hname]
    · cases lastOf wanted programs <;> simp [hname]

/-- An archive that can be read to its end and holds a daemon. -/
def IsUsable (archive : List UInt8) : Prop :=
  (contents archive).complete = true ∧ (contained daemonName archive).isSome = true

instance (archive : List UInt8) : Decidable (IsUsable archive) :=
  inferInstanceAs (Decidable (_ ∧ _))

/-- What follows when the directory was made. -/
def fill (archive : List UInt8) (path : String) (mount : Mount) : Work Unit := do
  let dir ← Work.resolve path
  let found := contents archive
  found.programs.forM fun (name, content) => writeProgram mount dir name content
  if !found.complete then throw .unreadable
  else if !found.programs.any (·.1 == daemonName) then throw (.missing daemonName)

theorem extract_eq (archive : List UInt8) (path : String) (mount : Mount) :
    extract archive path mount = Work.makeDirs path >>= fun _ => fill archive path mount := rfl

/-- A location that no program goes to is left as it is. -/
theorem keeps_fill
    (h : ∀ p ∈ (contents archive).programs, mount.leads (locate path ++ [p.1]) ≠ some m) :
    Work.Keeps (fun t => g (t.get? m)) (fill archive path mount) := by
  unfold fill
  refine Work.Relates.resolve_bind (Work.Relates.bind (Work.Relates.forM ?_) fun _ => ?_)
  · rintro ⟨name, content⟩ hp
    exact keeps_writeProgram (h _ hp) content
  · split_ifs
    · exact Work.Relates.throw _
    · exact Work.Relates.throw _
    · exact Work.Relates.pure ()

/-- Without links the directory itself stays. -/
theorem get?_fill (archive : List UInt8) (path : String) (t : FileTree) :
    ((fill archive path {}).on t).2.get? (locate path) = t.get? (locate path) := by
  refine keeps_fill (g := id) (fun p _ heq => ?_) t
  simpa using congrArg List.length (Option.some.inj heq)

/-- **Outside of its directory extraction changes nothing** but what making the
directory changes. -/
theorem keeps_extract (hway : ∀ t : FileTree, g ((t.makeDirs path).2.get? m) = g (t.get? m))
    (hout : ¬ locate path <+: m) : Work.Keeps (fun t => g (t.get? m)) (extract archive path) := by
  rw [extract_eq]
  refine Work.Relates.bind (Work.Relates.makeDirs hway) fun _ => keeps_fill fun p _ heq => ?_
  exact hout (Option.some.inj heq ▸ List.prefix_append _ _)

/-- **After a fault** the directory is there, or nothing was written into it. -/
theorem extract_fails {e : Failure} (h : (extract archive path).on t = (.error e, t')) :
    t'.get? (locate path) = some .directory ∨ t' = (t.makeDirs path).2 := by
  rw [extract_eq, Work.on_bind, Work.on_makeDirs] at h
  cases hmade : (t.makeDirs path).1 with
  | error fault =>
    rw [hmade] at h
    cases h
    exact .inr rfl
  | ok u =>
    rw [hmade] at h
    have hkept := get?_fill archive path (t.makeDirs path).2
    have htree : ((fill archive path {}).on (t.makeDirs path).2).2 = t' := congrArg Prod.snd h
    rw [htree] at hkept
    exact .inl (hkept.trans (makeDirs_opens hmade).1)

/-- **When all went well** the archive was read to its end and has a daemon, and where the
places of programs lead to, the last of those programs stands. -/
theorem extract_writes (h : (extract archive path mount).on t = (.ok (), t')) :
    IsUsable archive
      ∧ ∀ l content,
          lastOf (leadingTo mount (locate path) l) (contents archive).programs = some content →
          t'.get? l = some (.file content true) := by
  rw [extract_eq] at h
  obtain ⟨_, t₁, _, hfill⟩ := Work.on_bind_eq_ok.1 h
  obtain ⟨dir, t₂, hdir, hrest⟩ := Work.on_bind_eq_ok.1 hfill
  obtain ⟨rfl, rfl⟩ := Work.eq_of_on_resolve hdir
  obtain ⟨_, t₃, hwritten, hend⟩ := Work.on_bind_eq_ok.1 hrest
  -- success rules out both ends that find fault with the archive
  have hcomplete : (contents archive).complete = true ∧
      (contents archive).programs.any (·.1 == daemonName) = true ∧ t₃ = t' := by
    split_ifs at hend with hread hany
    · cases hend
    · cases hend
    · cases hend
      simp only [Bool.not_eq_true', Bool.not_eq_false] at hread hany
      exact ⟨hread, hany, rfl⟩
  obtain ⟨hread, hany, rfl⟩ := hcomplete
  refine ⟨⟨hread, by rw [contained, lastOf_isSome, hany]⟩, ?_⟩
  intro l content hlast
  rw [get?_writePrograms hwritten, hlast]
  rfl

/-- **Without links** the directory itself holds each program that the archive contains. -/
theorem extract_succeeds (h : (extract archive path).on t = (.ok (), t')) :
    IsUsable archive
      ∧ ∀ program content, contained program archive = some content →
          t'.get? (locate path ++ [program]) = some (.file content true) := by
  obtain ⟨husable, hstands⟩ := extract_writes h
  refine ⟨husable, fun program content hcontained => hstands _ _ ?_⟩
  have hnames : leadingTo {} (locate path) (locate path ++ [program]) = (· == program) := by
    funext name
    simp [leadingTo, Bool.beq_eq_decide_eq]
  rw [hnames]
  exact hcontained

/-! ## §3. Archives with a daemon. -/

/-- The header of a member that is a daemon of one byte. -/
def daemonHeader : List UInt8 :=
  daemonName.toUTF8.toList ++ List.replicate 118 0 ++ "00000000001".toUTF8.toList
    ++ List.replicate 13 0 ++ "002720".toUTF8.toList ++ [0, 0x20] ++ "0".toUTF8.toList
    ++ List.replicate 355 0

/-- The member, filled up to whole blocks. -/
def daemonMember (b : UInt8) : List UInt8 := daemonHeader ++ b :: List.replicate 511 0

/-- A number below `2 ^ 32` in four bytes, the low one first. -/
def fourBytes (n : Nat) : List UInt8 := Archive.twoBytes n ++ Archive.twoBytes (n / 65536)

/-- A file of one stored block. -/
def packed (tar : List UInt8) : List UInt8 :=
  Archive.Gzip.plainHeader ++ (Archive.Deflate.stored tar
    ++ (fourBytes (Archive.checksum tar).toNat ++ fourBytes tar.length))

/-- An archive that holds a daemon of one byte, with two blocks of zeros as the end. -/
def daemonArchive (b : UInt8) : List UInt8 := packed (daemonMember b ++ List.replicate 1024 0)

/-- An archive that holds a daemon, and then a block that is no header. -/
def tornArchive (b : UInt8) : List UInt8 := packed (daemonMember b ++ List.replicate 512 0xFF)

theorem contents_daemonArchive {b : UInt8} (h : b = 0x31 ∨ b = 0x32) :
    contents (daemonArchive b) = ⟨[(daemonName, [b])], true⟩ := by
  have hlength : (daemonMember b ++ List.replicate 1024 0).length < 65536 := by
    rcases h with rfl | rfl <;> decide +kernel
  unfold contents daemonArchive packed
  rw [Archive.Gzip.unpack_stored hlength]
  -- reading ends at the blocks of zeros, before the trailer counts
  generalize Archive.Gzip.isConfirmed _ _ = intact
  rcases h with rfl | rfl <;> cases intact <;> decide +kernel

/-- The daemon is met before the fault. -/
theorem contents_tornArchive : contents (tornArchive 0x32) = ⟨[(daemonName, [0x32])], false⟩ := by
  unfold contents tornArchive packed
  rw [Archive.Gzip.unpack_stored (by decide +kernel)]
  generalize Archive.Gzip.isConfirmed _ _ = intact
  cases intact <;> decide +kernel

theorem contained_daemonArchive {b : UInt8} (h : b = 0x31 ∨ b = 0x32) :
    contained daemonName (daemonArchive b) = some [b] := by
  unfold contained
  rw [contents_daemonArchive h]
  simp [lastOf]

end SwapBridge.Release
