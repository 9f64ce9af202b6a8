/-
  SwapBridge.Proofs.Release.Install
  ─────────────────────────────────
  **A FAILED UPGRADE KEEPS WHAT IS INSTALLED.**

  An installation fails early when there is no version or no archive to be had,
  when the archive cannot be stored, or when it cannot be extracted.  Whatever
  was installed before is there afterwards, and nothing else is.

    • `prepare_fails` — after a fault no new directory is left,
    • `unusable_archive` — archives that are never placed,
    • `FailsEarly` — the faults up to the extraction, and `fails_early_or_late`,
    • `failed_upgrade_keeps_installation` — what follows from them.
-/
import SwapBridge.Proofs.Release.Place

namespace SwapBridge.Release

open FileTree

variable {m : Location} {dataDir version : String} {t : Target} {archive : List UInt8} {n : Nat}
  {i : Installer} {files files' : FileTree} {e : Failure}

/-! ## §1. When an archive cannot be prepared. -/

/-- A name that is neither on the path of the data directory nor anywhere in the tree. -/
structure IsFresh (name dataDir : String) (files : FileTree) : Prop where
  path : name ∉ Path.parts dataDir
  entries : ∀ p ∈ files.entries, name ∉ p.1

/-- Below a name that `IsFresh` there is nothing, at any depth. -/
theorem IsFresh.get?_eq_none {name : String} (h : IsFresh name dataDir files) (hm : name ∈ m) :
    files.get? m = none := by
  rw [get?_of_ne_nil files (List.ne_nil_of_mem hm), List.lookup_eq_none_iff]
  intro p hp
  rw [bne_iff_ne]
  rintro rfl
  exact h.entries p hp hm

/-- The new directory and what is in it are below the directory of programs, so that they
belong to an installation as `IsInstallation` draws its line. -/
theorem isInstallation_of_staged (h : locate (stagingPath dataDir n) <+: m) :
    IsInstallation dataDir m := by
  obtain ⟨rest, rfl⟩ := h
  rw [locate_stagingPath, List.append_assoc]
  exact .program (by simp)

/-- Everything in a staging directory has the name of that directory in its location. -/
theorem staging_mem (h : locate (stagingPath dataDir n) <+: m) : stagingName n ∈ m := by
  rw [locate_stagingPath] at h
  exact h.subset (by simp)

/-- **After a fault no new directory is left**: `extractAside` removes what it has
extracted, and the download before it has touched no directory of programs. -/
theorem prepare_fails (hversion : '/' ∉ version.toList)
    (hfresh : IsFresh (stagingName n) dataDir files)
    (h : (prepare dataDir t version archive n).on files = (.error e, files')) :
    ∀ m, locate (stagingPath dataDir n) <+: m → files'.get? m = none := by
  -- storing the archive makes nothing at the location of the new directory
  have hstored : ∀ m, locate (stagingPath dataDir n) <+: m →
      ((store dataDir t version archive n).on files).2.get? m = none := by
    intro m hm
    have hmem := staging_mem hm
    have hkept : Work.Keeps (fun files => files.get? m) (store dataDir t version archive n) := by
      refine keeps_store (g := id) hversion (isInstallation_of_staged hm) fun files => ?_
      refine get?_makeDirs_of_not_passed files fun hpassed => ?_
      exact not_mem_of_mem_passed hfresh.path List.not_mem_nil hpassed hmem
    exact (hkept files).trans (hfresh.get?_eq_none hmem)
  unfold prepare at h
  rw [Work.on_bind] at h
  cases hstore : (store dataDir t version archive n).on files with
  | mk r files₁ =>
    rw [hstore] at h hstored
    cases r with
    | error e₁ =>
      cases h
      exact hstored
    | ok u =>
      have hbase : stagingName n ∉ Path.parts (Path.join dataDir "bin") := by
        rw [Path.parts_join dataDir isName_bin, List.mem_append, List.mem_singleton, not_or]
        exact ⟨hfresh.path, ne_of_second (second_stagingName n) (by decide)⟩
      have hlocate := locate_join (Path.join dataDir "bin") (isName_stagingName n)
      intro m hm
      refine extractAside_fails (isName_stagingName n) hbase ?_ h m (hlocate ▸ hm)
      exact fun m hm => hstored m (hlocate.symm ▸ hm)

/-- **Other archives are never placed**, whatever bytes they are: for `prepare` to succeed,
all of the archive must be readable and hold the daemon (`IsUsable`). -/
theorem unusable_archive (h : ¬ IsUsable archive) :
    (prepare dataDir t version archive n).on files ≠ (.ok (), files') := by
  intro hok
  unfold prepare at hok
  obtain ⟨_, files₁, _, haside⟩ := Work.on_bind_eq_ok.1 hok
  exact h (extract_succeeds (extract_of_extractAside haside)).1

/-! ## §2. How installing goes. -/

/-- Without a version from the server nothing is done: `install` asks for it first. -/
theorem install_of_noVersion (dataDir : String) (t : Target)
    (h : ∀ version, i.server.latest.head? ≠ some (.ok version)) :
    (∃ e, (i.install dataDir t).1 = .error e) ∧ (i.install dataDir t).2.files = i.files := by
  unfold Installer.install Server.latestVersion
  cases hlatest : i.server.latest.head? with
  | none => exact ⟨⟨_, rfl⟩, rfl⟩
  | some answer =>
    cases answer with
    | error refusal => exact ⟨⟨_, rfl⟩, rfl⟩
    | ok version => exact absurd hlatest (h version)

/-- With the version installed there is nothing to do, and `install` answers it. -/
theorem install_of_installed (hlatest : i.server.latest.head? = some (.ok version))
    (hold : isInstalled dataDir t version i.files = true) :
    (i.install dataDir t).1 = .ok version ∧ (i.install dataDir t).2.files = i.files := by
  unfold Installer.install Server.latestVersion
  rw [hlatest]
  dsimp only
  rw [if_pos hold]
  exact ⟨rfl, rfl⟩

/-- Without an archive the files stay as they are: no directory is made before the download.
-/
theorem install_of_noArchive (hlatest : i.server.latest.head? = some (.ok version))
    (hnew : isInstalled dataDir t version i.files = false)
    (h : ∀ archive, i.server.archives.head? ≠ some (.ok archive)) :
    (∃ e, (i.install dataDir t).1 = .error e) ∧ (i.install dataDir t).2.files = i.files := by
  unfold Installer.install Server.latestVersion Server.fetch
  rw [hlatest]
  dsimp only
  rw [hnew]
  cases harchive : i.server.archives.head? with
  | none => exact ⟨⟨_, rfl⟩, rfl⟩
  | some answer =>
    cases answer with
    | error refusal => exact ⟨⟨_, rfl⟩, rfl⟩
    | ok archive => exact absurd harchive (h archive)

/-- A version that is not installed is placed, if its archive is to be had: from here on
`install` is `place`, and a success answers the version. -/
theorem install_of_archive (hlatest : i.server.latest.head? = some (.ok version))
    (hnew : isInstalled dataDir t version i.files = false)
    (harchive : i.server.archives.head? = some (.ok archive)) :
    (i.install dataDir t).1
        = ((place dataDir t version archive i.names).on i.files).1.map (fun _ => version)
      ∧ (i.install dataDir t).2.files = ((place dataDir t version archive i.names).on i.files).2
      ∧ (i.install dataDir t).2.names = i.names + 3 := by
  unfold Installer.install Server.latestVersion Server.fetch
  rw [hlatest]
  dsimp only
  rw [hnew, harchive]
  exact ⟨rfl, rfl, rfl⟩

/-! ## §3. What a failed installation leaves. -/

/-- Installing fails at the extraction of the archive, or before it. -/
inductive FailsEarly (dataDir : String) (t : Target) (i : Installer) : Prop
  /-- The server names no version. -/
  | noVersion (h : ∀ version, i.server.latest.head? ≠ some (.ok version))
  /-- The server has no archive of the version. -/
  | noArchive {version : String} (hlatest : i.server.latest.head? = some (.ok version))
      (hnew : isInstalled dataDir t version i.files = false)
      (h : ∀ archive, i.server.archives.head? ≠ some (.ok archive))
  /-- The archive is not stored, or not extracted. -/
  | notPrepared {version : String} {archive : List UInt8}
      (hlatest : i.server.latest.head? = some (.ok version))
      (hnew : isInstalled dataDir t version i.files = false)
      (harchive : i.server.archives.head? = some (.ok archive))
      (h : ∀ files, (prepare dataDir t version archive i.names).on i.files ≠ (.ok (), files))

/-- An installation that fails has failed early (`FailsEarly`), or at putting a prepared
archive in its place (`replace`), when the new programs were complete. -/
theorem fails_early_or_late (h : (i.install dataDir t).1 = .error e) :
    FailsEarly dataDir t i
    ∨ ∃ version archive files,
        (prepare dataDir t version archive i.names).on i.files = (.ok (), files)
        ∧ ((replace dataDir t version i.names).on files).1 = .error e := by
  -- what `install` asks for, in its order: a version, what is there, an archive, its programs
  by_cases hnone : ∀ version, i.server.latest.head? ≠ some (.ok version)
  · exact .inl (.noVersion hnone)
  · simp only [ne_eq, not_forall, not_not] at hnone
    obtain ⟨version, hlatest⟩ := hnone
    cases hold : isInstalled dataDir t version i.files with
    | true =>
      rw [(install_of_installed hlatest hold).1] at h
      cases h
    | false =>
      by_cases hmissing : ∀ archive, i.server.archives.head? ≠ some (.ok archive)
      · exact .inl (.noArchive hlatest hold hmissing)
      · simp only [ne_eq, not_forall, not_not] at hmissing
        obtain ⟨archive, harchive⟩ := hmissing
        by_cases hfails : ∀ files,
            (prepare dataDir t version archive i.names).on i.files ≠ (.ok (), files)
        · exact .inl (.notPrepared hlatest hold harchive hfails)
        · simp only [ne_eq, not_forall, not_not] at hfails
          obtain ⟨files, hprepared⟩ := hfails
          -- all that is left is to replace the programs
          refine .inr ⟨version, archive, files, hprepared, ?_⟩
          rw [(install_of_archive hlatest hold harchive).1, place_eq, Work.on_bind, hprepared] at h
          dsimp only at h
          cases hlate : ((replace dataDir t version i.names).on files).1 with
          | error e' =>
            rw [hlate] at h
            cases h
            rfl
          | ok u =>
            rw [hlate] at h
            cases h

/-- The version that is recorded depends on the version file alone, and of that on its
bytes. -/
theorem currentVersion?_congr
    (h : fileOf (files'.get? (locate dataDir ++ ["version"]))
      = fileOf (files.get? (locate dataDir ++ ["version"]))) :
    currentVersion? dataDir files' = currentVersion? dataDir files := by
  unfold currentVersion?
  rw [locate_version, toOption_read, toOption_read, h]

/-- What a failed installation leaves of the files before it. -/
structure LeavesInstallation (dataDir : String) (n : Nat) (files files' : FileTree) : Prop where
  /-- Every installed file is there with its content, and no other is. -/
  files_eq : ∀ m, IsInstallation dataDir m → fileOf (files'.get? m) = fileOf (files.get? m)
  /-- Directories are neither made nor removed, where the way to them is direct. -/
  entries_eq : IsDirect dataDir → ∀ m, IsInstallation dataDir m → files'.get? m = files.get? m
  /-- No directory of an extraction is left. -/
  noStaging : ∀ m, locate (stagingPath dataDir n) <+: m → files'.get? m = none
  version_eq : currentVersion? dataDir files' = currentVersion? dataDir files

/-- An attempt that changed nothing has left the installation. -/
theorem LeavesInstallation.of_eq (hfresh : IsFresh (stagingName n) dataDir files) :
    LeavesInstallation dataDir n files files where
  files_eq _ _ := rfl
  entries_eq _ _ _ := rfl
  noStaging _ hm := hfresh.get?_eq_none (staging_mem hm)
  version_eq := rfl

/-- **Preparing leaves the installation behind when it fails**: the entries by
`entries_kept_by_prepare`, the version by `currentVersion?_congr`, the new directory by
`prepare_fails`. -/
theorem LeavesInstallation.of_prepare (hversion : '/' ∉ version.toList)
    (hfresh : IsFresh (stagingName n) dataDir files)
    (h : (prepare dataDir t version archive n).on files = (.error e, files')) :
    LeavesInstallation dataDir n files files' := by
  have hgone := prepare_fails hversion hfresh h
  have htree : ((prepare dataDir t version archive n).on files).2 = files' := by rw [h]
  -- files: below the new directory there are none before and none afterwards
  have hfiles : ∀ m, IsInstallation dataDir m →
      fileOf (files'.get? m) = fileOf (files.get? m) := by
    intro m hm
    by_cases hstaged : locate (stagingPath dataDir n) <+: m
    · rw [hgone m hstaged, hfresh.get?_eq_none (staging_mem hstaged)]
    · rw [← htree]
      exact files_kept_by_prepare hversion hm hstaged files
  -- entries: the same, where no other directory had to be made on the way
  have hentries : IsDirect dataDir →
      ∀ m, IsInstallation dataDir m → files'.get? m = files.get? m := by
    intro hdirect m hm
    by_cases hstaged : locate (stagingPath dataDir n) <+: m
    · rw [hgone m hstaged, hfresh.get?_eq_none (staging_mem hstaged)]
    · rw [← htree]
      exact entries_kept_by_prepare hversion hdirect hm hstaged files
  exact ⟨hfiles, hentries, hgone, currentVersion?_congr (hfiles _ .version)⟩

/-- **A failed upgrade keeps what is installed.**  For every tree of files and
every server, an installation that fails at the extraction of the archive or
before it ends in a fault, and leaves all installed files, the recorded version and no
directory of its own. -/
theorem failed_upgrade_keeps_installation (dataDir : String) (t : Target) (i : Installer)
    (hversion : ∀ version, i.server.latest.head? = some (.ok version) → '/' ∉ version.toList)
    (hfresh : IsFresh (stagingName i.names) dataDir i.files) (h : FailsEarly dataDir t i) :
    (∃ e, (i.install dataDir t).1 = .error e)
      ∧ LeavesInstallation dataDir i.names i.files (i.install dataDir t).2.files := by
  cases h with
  -- without a version or an archive nothing was touched
  | noVersion h =>
    obtain ⟨hfails, hfiles⟩ := install_of_noVersion dataDir t h
    rw [hfiles]
    exact ⟨hfails, .of_eq hfresh⟩
  | noArchive hlatest hnew h =>
    obtain ⟨hfails, hfiles⟩ := install_of_noArchive hlatest hnew h
    rw [hfiles]
    exact ⟨hfails, .of_eq hfresh⟩
  -- the archive is here, so that `prepare` is where it failed
  | @notPrepared version archive hlatest hnew harchive h =>
    obtain ⟨hresult, hfiles, _⟩ := install_of_archive hlatest hnew harchive
    rw [place_eq, Work.on_bind] at hresult hfiles
    cases hprepare : (prepare dataDir t version archive i.names).on i.files with
    | mk r files' =>
      cases r with
      | ok u => exact absurd hprepare (h files')
      | error e =>
        rw [hprepare] at hresult hfiles
        rw [hresult, hfiles]
        exact ⟨⟨e, rfl⟩, .of_prepare (hversion version hlatest) hfresh hprepare⟩

/-- An installation of the first version. -/
def firstInstallation : FileTree where
  entries := [(["data"], .directory), (["data", "bin"], .directory),
    (["data", "bin", "linux-amd64"], .directory),
    (["data", "bin", "linux-amd64", "boltzd"], .file [0x31] true),
    (["data", "version"], .file [0x76, 0x31] false)]

/-- An upgrade to a second version whose archive is torn behind its daemon. -/
def tornUpgrade : Installer where
  files := firstInstallation
  server := { latest := [.ok "v2"], archives := [.ok (tornArchive 0x32)] }

/-- The new daemon is in the new directory when the fault is met: `tornArchive` breaks off
behind it. -/
theorem extract_torn :
    ((extract (tornArchive 0x32) (stagingPath "data" 0)).on firstInstallation).2.get?
        (locate (stagingPath "data" 0) ++ ["boltzd"]) = some (.file [0x32] true) := by
  unfold extract Work.makeDirs Work.resolve resolve
  simp only [contents_tornArchive, makeDirs_eq, follow_eq]
  decide +kernel

theorem torn_upgrade_keeps_installation :
    (∃ e, (tornUpgrade.install "data" ⟨.linux, .amd64⟩).1 = .error e)
      ∧ LeavesInstallation "data" 0 firstInstallation
          (tornUpgrade.install "data" ⟨.linux, .amd64⟩).2.files
      ∧ ((extract (tornArchive 0x32) (stagingPath "data" 0)).on firstInstallation).2.get?
          (locate (stagingPath "data" 0) ++ ["boltzd"]) = some (.file [0x32] true) := by
  -- the archive is torn behind its first program
  have hunusable : ¬ IsUsable (tornArchive 0x32) := by
    unfold IsUsable
    rw [contents_tornArchive]
    exact fun husable => nomatch husable.1
  have hkept := failed_upgrade_keeps_installation "data" ⟨.linux, .amd64⟩ tornUpgrade ?_ ?_ ?_
  · exact ⟨hkept.1, hkept.2, extract_torn⟩
  · intro version h
    cases h
    decide
  · exact ⟨by decide +kernel, by decide +kernel⟩
  · exact .notPrepared rfl (by decide +kernel) rfl fun files => unusable_archive hunusable

end SwapBridge.Release
