/-
  SwapBridge.Proofs.Release.Place
  ───────────────────────────────
  **PLACING AN ARCHIVE.**

  An archive is stored under a name of its own and extracted into a directory
  of its own.  Until the last program of it is written nothing is touched that
  belongs to an installation; what follows only moves things to their places.

    • `prepare`, `replace` — placing an archive, up to the extraction and after it,
    • `IsInstallation` — the locations that make up what is installed,
    • `files_kept_by_prepare`, `entries_kept_by_prepare` — preparing leaves them alone,
    • `extractAside_fails` — a failed extraction leaves no directory.
-/
import SwapBridge.Proofs.Release.Extract
import SwapBridge.Release.Install

namespace SwapBridge.Release

open FileTree

variable {γ : Type} {g : Option Entry → γ} {m : Location} {dataDir version : String} {t : Target}
  {archive content : List UInt8} {n : Nat} {files files' : FileTree} {e : Failure}

/-! ## §1. Names. -/

theorem noSlash_uniqueName (n : Nat) : '/' ∉ (uniqueName n).toList := by
  have hdigits : '/' ∉ Decimal.digits n := fun hmem =>
    absurd (Decimal.isDigit_of_mem_digits hmem) (by decide)
  unfold uniqueName Decimal.padded
  simp [hdigits]

/-- The name of a target is made of the names of a system and of a machine. -/
theorem noSlash_name (t : Target) : '/' ∉ t.name.toList := by
  obtain ⟨system, processor⟩ := t
  cases system <;> cases processor <;> decide

/-- A target's name is one part of a path: `Path.IsName`. -/
theorem isName_name (t : Target) : Path.IsName t.name := by
  obtain ⟨system, processor⟩ := t
  cases system <;> cases processor <;> decide

/-- Names whose second characters differ are different. -/
theorem ne_of_second {a b : String} {c : Char} (ha : a.toList[1]? = some c)
    (hb : b.toList[1]? ≠ some c) : a ≠ b := by
  rintro rfl
  exact hb ha

/-- A name whose second character is no dot is neither silent nor a step back. -/
theorem isName_of_second {name : String} {c : Char} (h : name.toList[1]? = some c) (hc : c ≠ '.')
    (hslash : '/' ∉ name.toList) : Path.IsName name where
  noSlash := hslash
  ne_empty := by
    rintro rfl
    cases h
  ne_dot := by
    rintro rfl
    cases h
  ne_back := by
    rintro rfl
    exact hc (Option.some.inj h).symm

/-- The archive's name takes over the version, so that a slash there is the only one it can
have. -/
theorem noSlash_archiveName (t : Target) (h : '/' ∉ version.toList) :
    '/' ∉ (t.archiveName version).toList := by
  have hname := noSlash_name t
  unfold Target.archiveName
  simp [h, hname]

/-- Archives, partial downloads and staging directories differ in their second character:
`second_archiveName`, `second_partialName` and `second_stagingName` tell them apart. -/
theorem second_archiveName (t : Target) (version : String) :
    (t.archiveName version).toList[1]? = some 'o' := by
  unfold Target.archiveName
  simp only [String.toList_append, List.append_assoc]
  rfl

/-- Without a slash in the version the name of its archive is one part of a path. -/
theorem isName_archiveName (t : Target) (h : '/' ∉ version.toList) :
    Path.IsName (t.archiveName version) :=
  isName_of_second (second_archiveName t version) (by decide) (noSlash_archiveName t h)

/-- The name under which an archive is written first. -/
def partialName (t : Target) (version : String) (n : Nat) : String :=
  "." ++ t.archiveName version ++ "." ++ uniqueName n

theorem second_partialName (t : Target) (version : String) (n : Nat) :
    (partialName t version n).toList[1]? = some 'b' := by
  unfold partialName Target.archiveName
  simp only [String.toList_append, List.append_assoc]
  rfl

/-- So is the name that the archive has while it is written. -/
theorem isName_partialName (t : Target) (h : '/' ∉ version.toList) (n : Nat) :
    Path.IsName (partialName t version n) := by
  refine isName_of_second (second_partialName t version n) (by decide) ?_
  have hslash := noSlash_archiveName t h
  have hunique := noSlash_uniqueName n
  unfold partialName
  simp [hslash, hunique]

/-- The name of the directory that an archive is extracted into. -/
def stagingName (n : Nat) : String := ".staging-" ++ uniqueName (n + 1)

theorem second_stagingName (n : Nat) : (stagingName n).toList[1]? = some 's' := by
  unfold stagingName
  rw [String.toList_append]
  rfl

/-- So is the name of a staging directory, whatever number it has. -/
theorem isName_stagingName (n : Nat) : Path.IsName (stagingName n) := by
  refine isName_of_second (second_stagingName n) (by decide) ?_
  have hunique := noSlash_uniqueName (n + 1)
  unfold stagingName
  simp [hunique]

/-- The path of that directory. -/
def stagingPath (dataDir : String) (n : Nat) : String :=
  Path.join (Path.join dataDir "bin") (stagingName n)

theorem isName_bin : Path.IsName "bin" := by decide

theorem isName_version : Path.IsName "version" := by decide

/-- Staging directories stand in the directory of all programs, beside those of the targets.
-/
theorem locate_stagingPath (dataDir : String) (n : Nat) :
    locate (stagingPath dataDir n) = locate dataDir ++ ["bin", stagingName n] := by
  unfold stagingPath
  rw [locate_join _ (isName_stagingName n), locate_join _ isName_bin, List.append_assoc]
  rfl

theorem locate_version (dataDir : String) :
    locate (Path.join dataDir "version") = locate dataDir ++ ["version"] :=
  locate_join dataDir isName_version

/-- Where the programs of a target are installed. -/
def programsAt (dataDir : String) (t : Target) : Location := locate dataDir ++ ["bin", t.name]

/-- The programs of a target stand where `programsAt` has them. -/
theorem locate_programs (dataDir : String) (t : Target) :
    locate (Path.join (Path.join dataDir "bin") t.name) = programsAt dataDir t := by
  rw [locate_join _ (isName_name t), locate_join _ isName_bin, List.append_assoc]
  rfl

/-- `daemonPath` is the daemon among the programs of its target. -/
theorem locate_daemonPath (dataDir : String) (t : Target) :
    locate (daemonPath dataDir t) = programsAt dataDir t ++ [daemonName] := by
  unfold daemonPath
  rw [locate_join _ (by decide : Path.IsName daemonName), locate_programs]

/-! ## §2. Placing an archive, in two halves. -/

/-- Stores an archive. -/
def store (dataDir : String) (t : Target) (version : String) (archive : List UInt8) (n : Nat) :
    Work Unit := do
  Work.makeDirs dataDir
  putInPlace (Path.join dataDir (partialName t version n))
    (Path.join dataDir (t.archiveName version)) archive

/-- Stores an archive and extracts it into a directory of its own. -/
def prepare (dataDir : String) (t : Target) (version : String) (archive : List UInt8) (n : Nat) :
    Work Unit := do
  store dataDir t version archive n
  extractAside archive (stagingPath dataDir n)

/-- Puts the extracted programs in the place of the installed ones, and records
their version. -/
def replace (dataDir : String) (t : Target) (version : String) (n : Nat) : Work Unit := do
  replaceDir (locate (stagingPath dataDir n))
    (locate (Path.join (Path.join dataDir "bin") t.name))
  putInPlace (Path.join dataDir (".version." ++ uniqueName (n + 2)))
    (Path.join dataDir "version") version.toUTF8.toList

/-- `place` is `prepare`, which touches no installation, and then `replace`. -/
theorem place_eq (dataDir : String) (t : Target) (version : String) (archive : List UInt8)
    (n : Nat) :
    place dataDir t version archive n
      = prepare dataDir t version archive n >>= fun _ => replace dataDir t version n := by
  unfold place prepare store replace
  simp only [bind_assoc]
  rfl

/-! ## §3. What preparing leaves alone. -/

/-- A file that is put in its place changes nothing below other locations. -/
theorem keeps_putInPlace {temporary path : String} (htemporary : ¬ locate temporary <+: m)
    (hpath : ¬ locate path <+: m) :
    Work.Keeps (fun t => g (t.get? m)) (putInPlace temporary path content) := by
  unfold putInPlace
  refine Work.Relates.resolve_bind (Work.Relates.bind (Work.Relates.change ?_) fun _ =>
    Work.Relates.resolve_bind (Work.Relates.change ?_))
  · intro t t' hwrite
    exact congrArg g (get?_write_of_ne hwrite fun heq => htemporary (heq ▸ List.prefix_rfl))
  · intro t t' hmove
    exact congrArg g (get?_move_of_apart hmove htemporary hpath)

/-- What goes away after a fault is the directory of the extraction. -/
theorem keeps_extractAside {path : String}
    (hway : ∀ t : FileTree, g ((t.makeDirs path).2.get? m) = g (t.get? m))
    (hout : ¬ locate path <+: m) :
    Work.Keeps (fun t => g (t.get? m)) (extractAside archive path) := by
  unfold extractAside
  refine Work.Relates.tryCatch (keeps_extract hway hout) fun e => ?_
  refine Work.Relates.bind (Work.Relates.modify fun t => ?_) fun _ => Work.Relates.throw e
  cases hremove : t.removeDir (locate path) with
  | error fault => rfl
  | ok t' =>
    obtain ⟨_, rfl⟩ := removeDir_cases hremove
    exact congrArg g (get?_erase_outside t hout)

/-- The locations that make up what is installed: the version file, and all that
is below the directory of programs. -/
inductive IsInstallation (dataDir : String) : Location → Prop
  | program {rest : List String} (h : rest ≠ []) :
      IsInstallation dataDir (locate dataDir ++ "bin" :: rest)
  | version : IsInstallation dataDir (locate dataDir ++ ["version"])

/-- What belongs to an installation is below "bin" or the version, so that an entry with any
other name in the data directory stands apart from it. -/
theorem IsInstallation.not_below {name : String} (hm : IsInstallation dataDir m)
    (hname : Path.IsName name) (hbin : name ≠ "bin") (hversion : name ≠ "version") :
    ¬ locate (Path.join dataDir name) <+: m := by
  rw [locate_join dataDir hname]
  cases hm with
  | program _ => exact not_prefix_of_ne hbin _ _
  | version => exact not_prefix_of_ne hversion _ _

/-- **An archive is stored beside the installation.** -/
theorem keeps_store (hversion : '/' ∉ version.toList) (hm : IsInstallation dataDir m)
    (hway : ∀ t : FileTree, g ((t.makeDirs dataDir).2.get? m) = g (t.get? m)) :
    Work.Keeps (fun t => g (t.get? m)) (store dataDir t version archive n) := by
  have hpartial := second_partialName t version n
  have harchive := second_archiveName t version
  unfold store
  refine Work.Relates.bind (Work.Relates.makeDirs hway) fun _ => keeps_putInPlace ?_ ?_
  · exact hm.not_below (isName_partialName t hversion n) (ne_of_second hpartial (by decide))
      (ne_of_second hpartial (by decide))
  · exact hm.not_below (isName_archiveName t hversion) (ne_of_second harchive (by decide))
      (ne_of_second harchive (by decide))

/-- **Preparing leaves the installation alone**, as far as it is not the new
directory itself. -/
theorem keeps_prepare (hversion : '/' ∉ version.toList) (hm : IsInstallation dataDir m)
    (hway : ∀ t : FileTree, g ((t.makeDirs dataDir).2.get? m) = g (t.get? m))
    (hstaging : ∀ t : FileTree, g ((t.makeDirs (stagingPath dataDir n)).2.get? m) = g (t.get? m))
    (hout : ¬ locate (stagingPath dataDir n) <+: m) :
    Work.Keeps (fun t => g (t.get? m)) (prepare dataDir t version archive n) := by
  unfold prepare
  exact Work.Relates.bind (keeps_store hversion hm hway) fun _ => keeps_extractAside hstaging hout

/-- Files stay wherever directories are made. -/
theorem files_kept_by_prepare (hversion : '/' ∉ version.toList) (hm : IsInstallation dataDir m)
    (hout : ¬ locate (stagingPath dataDir n) <+: m) :
    Work.Keeps (fun t => fileOf (t.get? m)) (prepare dataDir t version archive n) := by
  refine keeps_prepare hversion hm (fun t => ?_) (fun t => ?_) hout
  · exact (grows_makeDirs t dataDir).fileOf_eq m
  · exact (grows_makeDirs t _).fileOf_eq m

/-- The way to the data directory does not lead through what is in it. -/
def IsDirect (dataDir : String) : Prop :=
  ∀ rest, rest ≠ [] → locate dataDir ++ rest ∉ onTheWay dataDir

/-- A path without a step back is direct. -/
theorem isDirect_of_noBack (h : ".." ∉ Path.parts dataDir) : IsDirect dataDir :=
  fun _ => not_mem_onTheWay h

/-- On the way to a staging directory are the data directory's own way, "bin", and itself.
-/
theorem onTheWay_stagingPath (dataDir : String) (n : Nat) :
    onTheWay (stagingPath dataDir n)
      = onTheWay dataDir ++ [locate dataDir ++ ["bin"]] ++ [locate (stagingPath dataDir n)] := by
  unfold stagingPath
  rw [onTheWay_join _ (isName_stagingName n), onTheWay_join _ isName_bin,
    locate_join _ (isName_stagingName n)]

/-- Of what is in the data directory, only the directory of programs and the new
directory are on the way to the new directory. -/
theorem not_mem_onTheWay_stagingPath {rest : List String} (hdirect : IsDirect dataDir)
    (hrest : rest ≠ []) (hbin : rest ≠ ["bin"])
    (hout : ¬ locate (stagingPath dataDir n) <+: locate dataDir ++ rest) :
    locate dataDir ++ rest ∉ onTheWay (stagingPath dataDir n) := by
  rw [onTheWay_stagingPath]
  simp only [List.mem_append, List.mem_singleton, List.append_cancel_left_eq, not_or]
  refine ⟨⟨hdirect rest hrest, hbin⟩, fun heq => hout ⟨[], ?_⟩⟩
  rw [List.append_nil]
  exact heq.symm

/-- A location of an installation is properly inside the data directory and is not "bin"
itself. -/
theorem IsInstallation.exists_rest (hm : IsInstallation dataDir m) :
    ∃ rest, m = locate dataDir ++ rest ∧ rest ≠ [] ∧ rest ≠ ["bin"] := by
  cases hm with
  | @program rest hrest =>
    have hbin : "bin" :: rest ≠ ["bin"] := fun heq => hrest (List.cons.inj heq).2
    exact ⟨"bin" :: rest, rfl, List.cons_ne_nil _ _, hbin⟩
  | version => exact ⟨["version"], rfl, List.cons_ne_nil _ _, by decide⟩

/-- Where the way to the data directory is direct, directories stay as well. -/
theorem entries_kept_by_prepare (hversion : '/' ∉ version.toList) (hdirect : IsDirect dataDir)
    (hm : IsInstallation dataDir m) (hout : ¬ locate (stagingPath dataDir n) <+: m) :
    Work.Keeps (fun t => t.get? m) (prepare dataDir t version archive n) := by
  obtain ⟨rest, rfl, hrest, hbin⟩ := hm.exists_rest
  refine keeps_prepare (g := id) hversion hm (fun t => ?_) (fun t => ?_) hout
  · exact get?_makeDirs_of_not_passed t (hdirect rest hrest)
  · exact get?_makeDirs_of_not_passed t (not_mem_onTheWay_stagingPath hdirect hrest hbin hout)

/-! ## §4. What is left of an extraction. -/

/-- Where `extractAside` succeeds it did no more than `extract`: it removes what it
extracted only after a failure. -/
theorem extract_of_extractAside {path : String}
    (h : (extractAside archive path).on files = (.ok (), files')) :
    (extract archive path).on files = (.ok (), files') := by
  unfold extractAside at h
  rw [Work.on_tryCatch] at h
  cases hextract : (extract archive path).on files with
  | mk r files₁ =>
    rw [hextract] at h
    cases r with
    | ok u => exact h
    | error e => cases h

/-- An extraction that has failed without making its directory has made nothing there. -/
theorem nothing_of_extract_fails {base name : String} (hname : Path.IsName name)
    (hbase : name ∉ Path.parts base)
    (hfresh : ∀ m, locate base ++ [name] <+: m → files.get? m = none)
    (h : (extract archive (Path.join base name)).on files = (.error e, files'))
    (hmissing : files'.get? (locate base ++ [name]) ≠ some .directory) :
    ∀ m, locate base ++ [name] <+: m → files'.get? m = none := by
  intro m hm
  rcases extract_fails h with hthere | rfl
  · rw [locate_join base hname] at hthere
    exact absurd hthere hmissing
  · by_cases heq : m = locate base ++ [name]
    · subst heq
      rcases grows_makeDirs files (Path.join base name) (locate base ++ [name]) with
        hsame | ⟨_, hnew⟩
      · rw [hsame]
        exact hfresh _ hm
      · exact absurd hnew hmissing
    · -- what is below the directory is not on the way to it
      rw [get?_makeDirs_of_not_passed]
      · exact hfresh m hm
      · rw [onTheWay_join base hname, List.mem_append, List.mem_singleton, not_or]
        refine ⟨fun hpassed => ?_, heq⟩
        have hnot := not_mem_of_mem_passed hbase List.not_mem_nil hpassed
        exact hnot (hm.subset (by simp))

/-- **No directory is left** of an extraction that failed, where there was none
before and its name is on no part of the way to it. -/
theorem extractAside_fails {base name : String} (hname : Path.IsName name)
    (hbase : name ∉ Path.parts base)
    (hfresh : ∀ m, locate base ++ [name] <+: m → files.get? m = none)
    (h : (extractAside archive (Path.join base name)).on files = (.error e, files')) :
    ∀ m, locate base ++ [name] <+: m → files'.get? m = none := by
  intro m hm
  have hne : m ≠ [] := by
    rintro rfl
    simp at hm
  unfold extractAside at h
  rw [Work.on_tryCatch] at h
  cases hextract : (extract archive (Path.join base name)).on files with
  | mk r files₁ =>
    rw [hextract] at h
    cases r with
    | ok u => cases h
    | error e₁ =>
      cases h
      show (((files₁.removeDir (locate (Path.join base name))).toOption.getD files₁)).get? m = none
      rw [locate_join base hname]
      cases hremove : files₁.removeDir (locate base ++ [name]) with
      | ok files₂ =>
        obtain ⟨_, rfl⟩ := removeDir_cases hremove
        exact get?_erase_inside files₁ hm hne
      | error fault =>
        -- there is no directory to remove, so it was never made
        have hmissing : files₁.get? (locate base ++ [name]) ≠ some .directory := by
          intro hthere
          unfold removeDir at hremove
          rw [hthere] at hremove
          cases hremove
        exact nothing_of_extract_fails hname hbase hfresh hextract hmissing m hm

end SwapBridge.Release
