/-
  SwapBridge.Proofs.Release.Replace
  ─────────────────────────────────
  **A PLACED ARCHIVE IS INSTALLED.**

  When placing an archive succeeds, its programs stand in the place of the
  target's and its version is recorded; the programs of the other targets stay.
  When it fails for another reason than a file operation, all of them stay.

    • `IsTidy` — no name in the data directory begins with a dot,
    • `tidy_putInPlace` — names of their own do not last,
    • `noSlash_of_store` — a version that is no name is never stored,
    • `place_succeeds`, `place_fails` — what there is after placing an archive.
-/
import SwapBridge.Proofs.Release.Place

namespace SwapBridge.Release

open FileTree

variable {m : Location} {dataDir version temporary path : String} {t : Target}
  {archive content : List UInt8} {n : Nat} {files files' : FileTree} {e : Failure}

/-! ## §1. Putting files and directories in their places. -/

theorem failsOnFiles_putInPlace (temporary path : String) (content : List UInt8) :
    Work.FailsOnFiles (putInPlace temporary path content) := by
  unfold putInPlace
  refine (Work.FailsOnFiles.resolve _).bind fun _ => ?_
  refine (Work.FailsOnFiles.change _).bind fun _ => ?_
  exact (Work.FailsOnFiles.resolve _).bind fun _ => Work.FailsOnFiles.change _

/-- The entries stay in their order while a file is written aside and moved to its place. -/
theorem ascending_putInPlace (temporary path : String) (content : List UInt8) :
    Work.Relates (Work.Passes Ascending) (putInPlace temporary path content) := by
  unfold putInPlace
  refine Work.Relates.resolve_bind (Work.Relates.bind (Work.Relates.change ?_) fun _ =>
    Work.Relates.resolve_bind (Work.Relates.change ?_))
  · exact fun t t' hwrite ht => ht.write hwrite
  · exact fun t t' hmove ht => ht.move hmove

/-- The two steps of putting a file in its place. -/
theorem putInPlace_cases (h : (putInPlace temporary path content).on files = (.ok (), files')) :
    ∃ files₁, files.write (locate temporary) content = .ok files₁
      ∧ files₁.move (locate temporary) (locate path) = .ok files' := by
  unfold putInPlace at h
  obtain ⟨source, t₁, hsource, hrest⟩ := Work.on_bind_eq_ok.1 h
  obtain ⟨rfl, rfl⟩ := Work.eq_of_on_resolve hsource
  obtain ⟨_, t₂, hwrite, hrest⟩ := Work.on_bind_eq_ok.1 hrest
  obtain ⟨target, t₃, htarget, hmove⟩ := Work.on_bind_eq_ok.1 hrest
  obtain ⟨rfl, rfl⟩ := Work.eq_of_on_resolve htarget
  exact ⟨_, Work.on_change_eq_ok.1 hwrite, Work.on_change_eq_ok.1 hmove⟩

/-- **The file is found in its place.** -/
theorem get?_putInPlace (hpath : locate path ≠ [])
    (h : (putInPlace temporary path content).on files = (.ok (), files')) :
    ∃ executable, files'.get? (locate path) = some (.file content executable) := by
  obtain ⟨files₁, hwrite, hmove⟩ := putInPlace_cases h
  obtain ⟨hne, _, executable, rfl⟩ := write_cases hwrite
  exact ⟨executable, (get?_move_target hmove hpath).trans (get?_put_self files hne _)⟩

/-- A directory is put in the place of another one, which is removed before. -/
theorem on_replaceDir (source target : Location) (t : FileTree) :
    (replaceDir source target).on t
      = if t.isPresent target then
          (Work.change (·.removeDir target) >>= fun _ => Work.change (·.move source target)).on t
        else (Work.change (·.move source target)).on t := by
  have hget : (get : Work FileTree).on t = (.ok t, t) := rfl
  unfold replaceDir
  rw [Work.on_bind, hget]
  dsimp only
  split_ifs <;> rfl

/-- A directory that cannot be replaced is a matter of files. -/
theorem failsOnFiles_replaceDir (source target : Location) :
    Work.FailsOnFiles (replaceDir source target) := by
  intro t e h
  rw [on_replaceDir] at h
  split_ifs at h
  · exact (Work.FailsOnFiles.change _).bind (fun _ => Work.FailsOnFiles.change _) t e h
  · exact Work.FailsOnFiles.change _ t e h

/-- `replaceDir` removes what is at the target and moves the new directory there: a relation
that both respect holds of the whole. -/
theorem relates_replaceDir {R : FileTree → FileTree → Prop} [Std.Refl R] [IsTrans FileTree R]
    {source target : Location} (hremove : ∀ t t', t.removeDir target = .ok t' → R t t')
    (hmove : ∀ t t', t.move source target = .ok t' → R t t') :
    Work.Relates R (replaceDir source target) := by
  intro t
  rw [on_replaceDir]
  split_ifs
  · exact (Work.Relates.change hremove).bind (fun _ => Work.Relates.change hmove) t
  · exact Work.Relates.change hmove t

/-- What is neither at the source nor at the target of `replaceDir` stays as it is. -/
theorem keeps_replaceDir {γ : Type} {g : Option Entry → γ} {source target : Location}
    (hsource : ¬ source <+: m) (htarget : ¬ target <+: m) :
    Work.Keeps (fun t => g (t.get? m)) (replaceDir source target) := by
  refine relates_replaceDir (fun t t' hremove => ?_) fun t t' hmove => ?_
  · obtain ⟨_, rfl⟩ := removeDir_cases hremove
    exact congrArg g (get?_erase_outside t htarget)
  · exact congrArg g (get?_move_of_apart hmove hsource htarget)

/-- **What the directory held is found in its new place.** -/
theorem get?_replaceDir {source target : Location} {rest : List String}
    (hfiles : files.Ascending) (hrest : rest ≠ []) (hapart : ¬ target <+: source ++ rest)
    (h : (replaceDir source target).on files = (.ok (), files')) :
    files'.get? (target ++ rest) = files.get? (source ++ rest) := by
  rw [on_replaceDir] at h
  split_ifs at h
  · obtain ⟨_, files₁, hremove, hmove⟩ := Work.on_bind_eq_ok.1 h
    obtain ⟨_, rfl⟩ := removeDir_cases (Work.on_change_eq_ok.1 hremove)
    rw [get?_move_below (hfiles.erase target) (Work.on_change_eq_ok.1 hmove) hrest,
      get?_erase_outside files hapart]
  · exact get?_move_below hfiles (Work.on_change_eq_ok.1 h) hrest

/-! ## §2. Order is kept. -/

/-- Extraction keeps the order of the entries, and so does what it removes after a failure.
-/
theorem ascending_extractAside (archive : List UInt8) (path : String) :
    Work.Relates (Work.Passes Ascending) (extractAside archive path) := by
  -- each step of the extraction changes the tree by an operation that keeps the order
  have hextract : Work.Relates (Work.Passes Ascending) (extract archive path) := by
    rw [extract_eq]
    refine Work.Relates.bind (Work.Relates.makeDirs fun t ht => ht.makeDirs path) fun _ => ?_
    unfold fill
    refine Work.Relates.resolve_bind (Work.Relates.bind (Work.Relates.forM ?_) fun _ => ?_)
    · rintro ⟨name, content⟩ _
      unfold writeProgram
      refine Work.Relates.bind (Work.Relates.change ?_) fun _ => Work.Relates.change ?_
      · intro t t' hchange ht
        obtain ⟨_, _, hwrite⟩ := Mount.write_eq_ok_iff.1 hchange
        exact ht.write hwrite
      · intro t t' hchange ht
        obtain ⟨_, _, _, _, rfl⟩ := Mount.setExecutable_eq_ok_iff.1 hchange
        exact ht.setExecutable _ true
    · split_ifs
      · exact Work.Relates.throw _
      · exact Work.Relates.throw _
      · exact Work.Relates.pure ()
  unfold extractAside
  refine Work.Relates.tryCatch hextract fun e => ?_
  refine Work.Relates.bind (Work.Relates.modify fun t ht => ?_) fun _ => Work.Relates.throw e
  cases hremove : t.removeDir (locate path) with
  | error fault => exact ht
  | ok t' => exact ht.removeDir hremove

theorem ascending_prepare (dataDir : String) (t : Target) (version : String)
    (archive : List UInt8) (n : Nat) :
    Work.Relates (Work.Passes Ascending) (prepare dataDir t version archive n) := by
  unfold prepare store
  refine Work.Relates.bind (Work.Relates.bind ?_ fun _ => ?_) fun _ => ?_
  · exact Work.Relates.makeDirs fun t ht => ht.makeDirs dataDir
  · exact ascending_putInPlace _ _ _
  · exact ascending_extractAside _ _

theorem ascending_place (dataDir : String) (t : Target) (version : String)
    (archive : List UInt8) (n : Nat) :
    Work.Relates (Work.Passes Ascending) (place dataDir t version archive n) := by
  rw [place_eq]
  refine Work.Relates.bind (ascending_prepare dataDir t version archive n) fun _ => ?_
  unfold replace
  refine Work.Relates.bind ?_ fun _ => ascending_putInPlace _ _ _
  exact relates_replaceDir (fun t t' hremove ht => ht.removeDir hremove)
    fun t t' hmove ht => ht.move hmove

/-! ## §3. Names that begin with a dot. -/

/-- A name that is not shown in listings. -/
def IsHidden (name : String) : Prop := name.toList.head? = some '.'

instance (name : String) : Decidable (IsHidden name) := inferInstanceAs (Decidable (_ = _))

/-- A download that is not complete has a hidden name. -/
theorem isHidden_partialName (t : Target) (version : String) (n : Nat) :
    IsHidden (partialName t version n) := by
  unfold IsHidden partialName
  simp only [String.toList_append, List.append_assoc]
  rfl

/-- Nothing in the data directory has a hidden name. -/
def IsTidy (dataDir : String) (files : FileTree) : Prop :=
  ∀ name rest, IsHidden name → files.get? (locate dataDir ++ name :: rest) = none

/-- **A name of its own does not last**: a file that is put in its place leaves
no hidden name behind. -/
theorem tidy_putInPlace {a b : String} (ha : Path.IsName a) (hb : Path.IsName b)
    (hshown : ¬ IsHidden b) (hfiles : IsTidy dataDir files)
    (h : (putInPlace (Path.join dataDir a) (Path.join dataDir b) content).on files
      = (.ok (), files')) : IsTidy dataDir files' := by
  obtain ⟨files₁, hwrite, hmove⟩ := putInPlace_cases h
  rw [locate_join dataDir ha, locate_join dataDir hb] at hmove
  rw [locate_join dataDir ha] at hwrite
  intro name rest hname
  have hne : b ≠ name := by
    rintro rfl
    exact hshown hname
  have htarget := not_prefix_of_ne hne (locate dataDir) rest
  -- a hidden name is either the one that was moved away or apart from both
  by_cases heq : a = name
  · subst heq
    have hsource : locate dataDir ++ [a] <+: locate dataDir ++ a :: rest :=
      ⟨rest, by simp⟩
    exact get?_move_source hmove hsource htarget (by simp)
  · have hsource := not_prefix_of_ne heq (locate dataDir) rest
    rw [get?_move_of_apart hmove hsource htarget, get?_write_of_ne hwrite]
    · exact hfiles name rest hname
    · intro hsame
      rw [hsame] at hsource
      exact hsource List.prefix_rfl

/-- Nothing is found on the way through a name that is not there. -/
theorem eq_of_follow_nothing {t : FileTree} {l : Location} {first : String}
    (hnone : ∀ rest, t.get? (l ++ first :: rest) = none) (names : List String) :
    ∀ before : List String, names.foldlM t.follow (l ++ first :: before) = .ok m →
      m = l ++ first :: (before ++ names) := by
  induction names with
  | nil =>
    intro before h
    cases h
    rw [List.append_nil]
  | cons name names ih =>
    intro before h
    rw [List.foldlM_cons] at h
    cases hstep : t.follow (l ++ first :: before) name with
    | error fault =>
      rw [hstep] at h
      cases h
    | ok next =>
      rw [hstep] at h
      have hname : name ≠ ".." := by
        -- two dots lead out of a directory that is there
        rintro rfl
        unfold follow at hstep
        rw [hnone before, if_pos (rfl : ".." = "..")] at hstep
        split_ifs at hstep
      have hnext : next = l ++ first :: (before ++ [name]) := by
        rw [eq_ahead_of_follow hstep]
        simp [ahead, hname]
      subst hnext
      simpa using ih _ h

/-- A path that leads through such a name is followed by its names alone. -/
theorem eq_of_resolve_nothing {t : FileTree} {name first : String} {rest : List String}
    (hrelative : Path.isAbsolute name = false) (hparts : Path.parts name = first :: rest)
    (hback : first ≠ "..") (hnone : ∀ more, t.get? (locate dataDir ++ first :: more) = none)
    (h : t.resolve (Path.join dataDir name) = .ok m) : m = locate dataDir ++ first :: rest := by
  unfold resolve at h
  rw [Path.parts_join_of_relative dataDir hrelative, hparts, List.foldlM_append] at h
  -- the data directory first, then the step that leads to a place with nothing below it
  cases hdir : (Path.parts dataDir).foldlM t.follow [] with
  | error fault =>
    rw [hdir] at h
    cases h
  | ok dir =>
    rw [hdir] at h
    obtain rfl : dir = locate dataDir := eq_locate_of_resolve hdir
    cases hstep : t.follow (locate dataDir) first with
    | error fault =>
      simp only [bind, Except.bind, List.foldlM_cons, hstep] at h
      cases h
    | ok next =>
      simp only [bind, Except.bind, List.foldlM_cons, hstep] at h
      have hnext : next = locate dataDir ++ first :: [] := by
        rw [eq_ahead_of_follow hstep]
        simp [ahead, hback]
      subst hnext
      exact eq_of_follow_nothing hnone rest [] h

/-- A version with a slash makes a path of several names out of a hidden one. -/
theorem parts_partialName_of_slash (t : Target) (h : '/' ∈ version.toList) (n : Nat) :
    ∃ first rest, Path.parts (partialName t version n) = first :: rest
      ∧ IsHidden first ∧ first ≠ ".." ∧ rest ≠ [] := by
  -- the first slash of the version ends the hidden directory's name
  obtain ⟨before, behind, hsplit, hbefore⟩ := List.eq_append_cons_of_mem h
  let first := "." ++ ("boltz-client-" ++ t.name ++ "-" ++ String.ofList before)
  let last := ".tar.gz" ++ "." ++ uniqueName n
  have hpartial : partialName t version n
      = first ++ "/" ++ (String.ofList behind ++ last) := by
    have hslash : "/".toList = ['/'] := rfl
    apply String.toList_injective
    unfold partialName Target.archiveName
    simp only [first, last, String.toList_append, String.toList_ofList, hsplit, hslash,
      List.append_assoc, List.cons_append, List.nil_append]
  have hfirst : Path.IsName first := by
    have hname := noSlash_name t
    refine isName_of_second (c := 'b') ?_ (by decide) ?_
    · simp only [first, String.toList_append, List.append_assoc]
      rfl
    · simp [first, hname, hbefore]
  have hlast : '/' ∉ last.toList := by
    have hunique := noSlash_uniqueName n
    simp [last, hunique]
  refine ⟨first, Path.parts (String.ofList behind ++ last), ?_, ?_, hfirst.ne_back, ?_⟩
  · rw [hpartial, Path.parts_slash, Path.parts_of_isName hfirst]
    rfl
  · unfold IsHidden
    simp only [first, String.toList_append, List.append_assoc]
    rfl
  · refine Path.parts_ne_nil hlast ?_ behind
    simp only [last, String.toList_append, List.length_append]
    have hlength : ".tar.gz".toList.length = 7 := by decide
    omega

/-- **A version that is no name is never stored**: its file would stand in a
directory that nothing makes. -/
theorem noSlash_of_store (hdirect : IsDirect dataDir) (hfiles : IsTidy dataDir files)
    (h : (store dataDir t version archive n).on files = (.ok (), files')) :
    '/' ∉ version.toList := by
  intro hslash
  obtain ⟨first, rest, hparts, hhidden, hback, hrest⟩ := parts_partialName_of_slash t hslash n
  unfold store at h
  obtain ⟨_, files₁, hmade, h⟩ := Work.on_bind_eq_ok.1 h
  have hmade : (files.makeDirs dataDir).2 = files₁ := by rw [Work.on_makeDirs_eq_ok.1 hmade]
  have htidy : ∀ rest, files₁.get? (locate dataDir ++ first :: rest) = none := by
    intro rest
    rw [← hmade, get?_makeDirs_of_not_passed files (hdirect _ (List.cons_ne_nil _ _))]
    exact hfiles first rest hhidden
  unfold putInPlace at h
  obtain ⟨source, files₂, hsource, hrest'⟩ := Work.on_bind_eq_ok.1 h
  obtain ⟨hfound, rfl⟩ := Work.on_resolve_eq_ok.1 hsource
  obtain ⟨_, files₃, hwrite, _⟩ := Work.on_bind_eq_ok.1 hrest'
  obtain ⟨_, hparent, _⟩ := write_cases (Work.on_change_eq_ok.1 hwrite)
  -- the path leads through the hidden name, where nothing is
  have hrelative : Path.isAbsolute (partialName t version n) = false := by
    unfold Path.isAbsolute
    rw [isHidden_partialName]
    rfl
  have hsource : source = locate dataDir ++ first :: rest :=
    eq_of_resolve_nothing hrelative hparts hback htidy hfound
  rw [hsource, List.dropLast_append_cons, List.dropLast_cons_of_ne_nil hrest, htidy] at hparent
  cases hparent

/-! ## §4. After placing an archive. -/

/-- Targets of different systems or machines have different names. -/
theorem name_injective : Function.Injective Target.name := by
  rintro ⟨system, processor⟩ ⟨system', processor'⟩
  cases system <;> cases processor <;> cases system' <;> cases processor' <;> decide

/-- The name under which a version is written first. -/
def versionName (n : Nat) : String := ".version." ++ uniqueName (n + 2)

theorem second_versionName (n : Nat) : (versionName n).toList[1]? = some 'v' := by
  unfold versionName
  rw [String.toList_append]
  rfl

theorem isName_versionName (n : Nat) : Path.IsName (versionName n) := by
  have hunique := noSlash_uniqueName (n + 2)
  refine isName_of_second (second_versionName n) (by decide) ?_
  unfold versionName
  simp [hunique]

/-- No staging directory has the name of a target. -/
theorem ne_stagingName (t : Target) (n : Nat) : stagingName n ≠ t.name := by
  refine ne_of_second (second_stagingName n) ?_
  obtain ⟨system, processor⟩ := t
  cases system <;> cases processor <;> decide

/-- The new directory is no part of what is installed for any target. -/
theorem not_staged (dataDir : String) (t : Target) (n : Nat) (rest : List String) :
    ¬ locate (stagingPath dataDir n) <+: programsAt dataDir t ++ rest := by
  have hne := not_prefix_of_ne (ne_stagingName t n) (locate dataDir ++ ["bin"]) rest
  rw [locate_stagingPath]
  unfold programsAt
  simpa using hne

/-- What is below the programs of a target belongs to an installation. -/
theorem isInstallation_programsAt (dataDir : String) (t : Target) (rest : List String) :
    IsInstallation dataDir (programsAt dataDir t ++ rest) := by
  unfold programsAt
  rw [List.append_assoc]
  exact .program (List.cons_ne_nil _ _)

/-- A hidden name leads to nothing that is installed, new or old. -/
theorem not_below_bin (dataDir : String) {name : String} (hname : IsHidden name)
    (rest more : List String) :
    ¬ locate dataDir ++ "bin" :: more <+: locate dataDir ++ name :: rest := by
  have hne : "bin" ≠ name := by
    rintro rfl
    exact absurd hname (by decide)
  intro hprefix
  refine not_prefix_of_ne hne (locate dataDir) rest (List.IsPrefix.trans ?_ hprefix)
  exact ⟨more, by simp⟩

/-- A download is hidden while it is written and shown once it is complete. -/
theorem tidy_store (hdirect : IsDirect dataDir) (hfiles : IsTidy dataDir files)
    (h : (store dataDir t version archive n).on files = (.ok (), files')) :
    IsTidy dataDir files' := by
  -- a version with a slash would have failed, so both names are plain here
  have hversion := noSlash_of_store hdirect hfiles h
  unfold store at h
  obtain ⟨_, files₁, hmade, hput⟩ := Work.on_bind_eq_ok.1 h
  have hmade : (files.makeDirs dataDir).2 = files₁ := by rw [Work.on_makeDirs_eq_ok.1 hmade]
  refine tidy_putInPlace (isName_partialName t hversion n) (isName_archiveName t hversion)
    ?_ ?_ hput
  · have hfirst : (t.archiveName version).toList.head? = some 'b' := by
      unfold Target.archiveName
      simp only [String.toList_append, List.append_assoc]
      rfl
    unfold IsHidden
    rw [hfirst]
    decide
  · intro name rest hname
    rw [← hmade, get?_makeDirs_of_not_passed files (hdirect _ (List.cons_ne_nil _ _))]
    exact hfiles name rest hname

/-- Extraction works below "bin", and that name is not hidden. -/
theorem tidy_extractAside (hdirect : IsDirect dataDir) (archive : List UInt8) (n : Nat) :
    Work.Relates (Work.Passes (IsTidy dataDir))
      (extractAside archive (stagingPath dataDir n)) := by
  intro files hfiles name rest hname
  have hout : ¬ locate (stagingPath dataDir n) <+: locate dataDir ++ name :: rest := by
    rw [locate_stagingPath]
    exact not_below_bin dataDir hname rest _
  have hbin : name :: rest ≠ ["bin"] := by
    intro heq
    rw [(List.cons.inj heq).1] at hname
    exact absurd hname (by decide)
  have hway := not_mem_onTheWay_stagingPath hdirect (List.cons_ne_nil _ _) hbin hout
  have hkept : Work.Keeps (fun t => t.get? (locate dataDir ++ name :: rest))
      (extractAside archive (stagingPath dataDir n)) :=
    keeps_extractAside (g := id) (fun t => get?_makeDirs_of_not_passed t hway) hout
  exact (hkept files).trans (hfiles name rest hname)

/-- What there is after an archive was placed. -/
structure IsPlaced (dataDir : String) (t : Target) (version : String) (archive : List UInt8)
    (files files' : FileTree) : Prop where
  usable : IsUsable archive
  tidy : IsTidy dataDir files'
  /-- The version is recorded. -/
  version_eq : ∃ executable,
    files'.get? (locate dataDir ++ ["version"]) = some (.file version.toUTF8.toList executable)
  /-- The programs of the archive are installed for the target. -/
  program_eq : ∀ program content, contained program archive = some content →
    files'.get? (programsAt dataDir t ++ [program]) = some (.file content true)
  /-- What is installed for other targets stays. -/
  other_eq : ∀ t', t' ≠ t → ∀ rest,
    files'.get? (programsAt dataDir t' ++ rest) = files.get? (programsAt dataDir t' ++ rest)

/-- The programs come to the place of a target, where a tidy tree may have them. -/
theorem tidy_replace (hfiles : IsTidy dataDir files)
    (h : (replace dataDir t version n).on files = (.ok (), files')) : IsTidy dataDir files' := by
  unfold replace at h
  obtain ⟨_, files₁, hmoved, hput⟩ := Work.on_bind_eq_ok.1 h
  refine tidy_putInPlace (isName_versionName n) isName_version (by decide) ?_ hput
  intro name rest hname
  have hsource := not_below_bin dataDir hname rest [stagingName n]
  have htarget := not_below_bin dataDir hname rest [t.name]
  rw [← locate_stagingPath] at hsource
  rw [locate_programs] at hmoved
  have hkept := (keeps_replaceDir (g := id) hsource htarget).of_on hmoved
  exact hkept.trans (hfiles name rest hname)

/-- **An archive that was placed is installed.** -/
theorem place_succeeds (hdirect : IsDirect dataDir) (hfiles : files.Ascending)
    (htidy : IsTidy dataDir files)
    (h : (place dataDir t version archive n).on files = (.ok (), files')) :
    IsPlaced dataDir t version archive files files' := by
  rw [place_eq] at h
  obtain ⟨_, files₁, hprepare, hreplace⟩ := Work.on_bind_eq_ok.1 h
  have hascending := (ascending_prepare dataDir t version archive n).of_on hprepare hfiles
  -- the archive was stored, so its version is a name
  obtain ⟨_, files₂, hstore, haside⟩ := Work.on_bind_eq_ok.1 hprepare
  have hversion := noSlash_of_store hdirect htidy hstore
  have htidy₁ :=
    (tidy_extractAside hdirect archive n).of_on haside (tidy_store hdirect htidy hstore)
  obtain ⟨husable, hprograms⟩ := extract_succeeds (extract_of_extractAside haside)
  have htidy' := tidy_replace htidy₁ hreplace
  obtain ⟨_, files₃, hmoved, hput⟩ := Work.on_bind_eq_ok.1 hreplace
  rw [locate_programs] at hmoved
  -- recording the version leaves the programs alone
  have hkept : ∀ t' rest, files'.get? (programsAt dataDir t' ++ rest)
      = files₃.get? (programsAt dataDir t' ++ rest) := by
    intro t' rest
    have hinstalled := isInstallation_programsAt dataDir t' rest
    refine (keeps_putInPlace (g := id) ?_ ?_).of_on hput
    · exact hinstalled.not_below (isName_versionName n)
        (ne_of_second (second_versionName n) (by decide))
        (ne_of_second (second_versionName n) (by decide))
    · rw [locate_version]
      unfold programsAt
      rw [List.append_assoc]
      exact not_prefix_of_ne (by decide) _ _
  refine ⟨husable, htidy', ?_, ?_, ?_⟩
  · have hput := get?_putInPlace (by rw [locate_version]; simp) hput
    rwa [locate_version] at hput
  · intro program content hcontained
    have hapart : ¬ programsAt dataDir t <+: locate (stagingPath dataDir n) ++ [program] := by
      have hne := not_prefix_of_ne (ne_stagingName t n).symm (locate dataDir ++ ["bin"]) [program]
      rw [locate_stagingPath]
      unfold programsAt
      simpa using hne
    rw [hkept, get?_replaceDir hascending (List.cons_ne_nil _ _) hapart hmoved]
    exact hprograms program content hcontained
  · intro t' ht rest
    have hinstalled := isInstallation_programsAt dataDir t' rest
    have hother : ¬ programsAt dataDir t <+: programsAt dataDir t' ++ rest := by
      have hne := not_prefix_of_ne (fun heq => ht (name_injective heq).symm)
        (locate dataDir ++ ["bin"]) rest
      unfold programsAt
      simpa using hne
    have hout := not_staged dataDir t' n rest
    have hfirst := (entries_kept_by_prepare hversion hdirect hinstalled hout).of_on hprepare
    have hsecond := (keeps_replaceDir (g := id) hout hother).of_on hmoved
    exact (hkept t' rest).trans (hsecond.trans hfirst)

/-- To store an archive takes directories and a file, which may fail as such. -/
theorem failsOnFiles_store (dataDir : String) (t : Target) (version : String)
    (archive : List UInt8) (n : Nat) :
    Work.FailsOnFiles (store dataDir t version archive n) := by
  unfold store
  exact (Work.FailsOnFiles.makeDirs dataDir).bind fun _ => failsOnFiles_putInPlace _ _ _

/-- To replace programs takes a directory and the file of the version, which may fail as
such. -/
theorem failsOnFiles_replace (dataDir : String) (t : Target) (version : String) (n : Nat) :
    Work.FailsOnFiles (replace dataDir t version n) := by
  unfold replace
  exact (failsOnFiles_replaceDir _ _).bind fun _ => failsOnFiles_putInPlace _ _ _

/-- Where no file operation fails, a failure is one of the extraction. -/
theorem place_fails_cases
    (h : (place dataDir t version archive n).on files = (.error e, files'))
    (he : ∀ fault, e ≠ .files fault) :
    ∃ files₁, (store dataDir t version archive n).on files = (.ok (), files₁)
      ∧ (extractAside archive (stagingPath dataDir n)).on files₁ = (.error e, files') := by
  rw [place_eq, Work.on_bind] at h
  unfold prepare at h
  rw [Work.on_bind] at h
  -- storing the archive and moving the programs fail on files only, so `e` is the extraction's
  cases hstore : (store dataDir t version archive n).on files with
  | mk r files₁ =>
    rw [hstore] at h
    cases r with
    | error e₁ =>
      obtain ⟨fault, rfl⟩ :=
        failsOnFiles_store dataDir t version archive n files e₁ (by rw [hstore])
      cases h
      exact absurd rfl (he fault)
    | ok u =>
      dsimp only at h
      cases haside : (extractAside archive (stagingPath dataDir n)).on files₁ with
      | mk r files₂ =>
        rw [haside] at h
        cases r with
        | error e₂ => exact ⟨files₁, rfl, by rw [haside, ← h]⟩
        | ok u =>
          dsimp only at h
          obtain ⟨fault, rfl⟩ := failsOnFiles_replace dataDir t version n files₂ e (by rw [h])
          exact absurd rfl (he fault)

/-- **An archive that cannot be read to its end, or has no daemon, changes
nothing that is installed.** -/
theorem place_fails (hdirect : IsDirect dataDir) (htidy : IsTidy dataDir files)
    (h : (place dataDir t version archive n).on files = (.error e, files'))
    (he : ∀ fault, e ≠ .files fault) :
    IsTidy dataDir files' ∧ ∀ m, IsInstallation dataDir m →
      ¬ locate (stagingPath dataDir n) <+: m → files'.get? m = files.get? m := by
  obtain ⟨files₁, hstore, haside⟩ := place_fails_cases h he
  have hversion := noSlash_of_store hdirect htidy hstore
  have hprepare : (prepare dataDir t version archive n).on files = (.error e, files') := by
    unfold prepare
    rw [Work.on_bind, hstore]
    exact haside
  refine ⟨(tidy_extractAside hdirect archive n).of_on haside (tidy_store hdirect htidy hstore), ?_⟩
  intro m hm hout
  exact (entries_kept_by_prepare hversion hdirect hm hout).of_on hprepare

end SwapBridge.Release
