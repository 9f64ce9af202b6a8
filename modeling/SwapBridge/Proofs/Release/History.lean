/-
  SwapBridge.Proofs.Release.History
  ─────────────────────────────────
  **WHICH DAEMON IS INSTALLED AFTER MANY INSTALLATIONS.**

  A data directory keeps the programs of every target, but one version for all
  of them.  So an installation that finds its version recorded vouches for the
  last archive that was placed for any target, and the daemon that stands there
  is the one of the last archive that was placed for this target.

    • `currentVersion?_of_recorded` — what is read of a recorded version,
    • `Call`, `Site` — one installation, and a data directory with its past,
    • `Reached` — what comes of an empty data directory,
    • `Faithful` — the invariant of it,
    • `daemon_of_last_placed` — the daemon behind a version that was answered,
    • `not_daemon_of_version` — it need not be the daemon of that version.
-/
import SwapBridge.Proofs.Release.Install
import SwapBridge.Proofs.Release.Replace

namespace SwapBridge.Release

open FileTree

variable {dataDir version : String} {archiveOf : String → Target → List UInt8} {t : Target}
  {i : Installer} {files files' : FileTree}

/-! ## §1. The recorded version. -/

/-- The bytes of an array, one by one. -/
theorem toList_byteArray (bs : ByteArray) : bs.toList = bs.data.toList := by
  -- the loop collects backwards, from position `i` on
  have hloop : ∀ k i r, bs.size - i = k →
      ByteArray.toList.loop bs i r = r.reverse ++ bs.data.toList.drop i := by
    intro k
    induction k with
    | zero =>
      intro i r hk
      have hi : ¬ i < bs.size := by omega
      have hdrop : bs.data.toList.drop i = [] := by
        rw [List.drop_eq_nil_iff]
        show bs.size ≤ i
        omega
      rw [ByteArray.toList.loop, if_neg hi, hdrop, List.append_nil]
    | succ k ih =>
      intro i r hk
      have hi : i < bs.size := by omega
      have hget : bs.get! i = bs.data.toList[i] := by
        show bs.data[i]! = _
        rw [getElem!_pos bs.data i hi, Array.getElem_toList]
      rw [ByteArray.toList.loop, if_pos hi, ih (i + 1) _ (by omega), hget,
        List.drop_eq_getElem_cons hi]
      simp
  exact (hloop _ 0 [] rfl).trans (by simp)

/-- A text is read back from its bytes. -/
theorem textOf?_toUTF8 (s : String) : Archive.Tar.textOf? s.toUTF8.toList = some s := by
  unfold Archive.Tar.textOf? String.fromUTF8?
  rw [toList_byteArray, Array.toArray_toList, String.toUTF8_eq_toByteArray, dif_pos s.isValidUTF8]
  rfl

/-- The version that is read is the recorded one, without blanks at its ends (`Text.trim`),
and none if nothing is left. -/
theorem currentVersion?_of_recorded {recorded : String} {executable : Bool}
    (h : files.get? (locate dataDir ++ ["version"])
      = some (.file recorded.toUTF8.toList executable)) :
    currentVersion? dataDir files
      = if (Text.trim recorded.toList).isEmpty then none
        else some (String.ofList (Text.trim recorded.toList)) := by
  unfold currentVersion?
  rw [locate_version, toOption_read, h]
  dsimp only [fileOf, Option.map_some, Option.bind_eq_bind, Option.bind_some]
  rw [textOf?_toUTF8, Option.bind_some]
  cases (Text.trim recorded.toList).isEmpty <;> rfl

theorem eq_trim_of_currentVersion? {recorded : String} {executable : Bool}
    (h : files.get? (locate dataDir ++ ["version"])
      = some (.file recorded.toUTF8.toList executable))
    (hcurrent : currentVersion? dataDir files = some version) :
    version = String.ofList (Text.trim recorded.toList) := by
  rw [currentVersion?_of_recorded h] at hcurrent
  split_ifs at hcurrent
  exact (Option.some.inj hcurrent).symm

/-! ## §2. Installing again and again. -/

/-- One installation: the target, and what the server has to offer at that time. -/
structure Call where
  target : Target
  server : Server

namespace Call

/-- The installer, with the server of the call. -/
def facing (c : Call) (i : Installer) : Installer := { i with server := c.server }

def run (dataDir : String) (c : Call) (i : Installer) : Except Failure String × Installer :=
  (c.facing i).install dataDir c.target

/-- What a call places: the version that it answers, if it was not there already. -/
def placed (dataDir : String) (c : Call) (i : Installer) : List (Target × String) :=
  match (c.run dataDir i).1 with
  | .ok version =>
    if isInstalled dataDir c.target version i.files then [] else [(c.target, version)]
  | .error _ => []

/-- The archive that may be fetched is the one of the latest version for the target. -/
def Serves (c : Call) (archiveOf : String → Target → List UInt8) : Prop :=
  ∀ version archive, c.server.latest.head? = some (.ok version) →
    c.server.archives.head? = some (.ok archive) → archive = archiveOf version c.target

/-- How a call goes: it fails and leaves the files, or it answers a version that
`isInstalled` finds, or it places the archive of a version that is not there. -/
theorem run_cases (dataDir : String) (c : Call) (i : Installer) :
    ((∃ e, (c.run dataDir i).1 = .error e) ∧ (c.run dataDir i).2.files = i.files)
    ∨ (∃ version, (c.run dataDir i).1 = .ok version
        ∧ isInstalled dataDir c.target version i.files = true
        ∧ (c.run dataDir i).2.files = i.files)
    ∨ ∃ version archive, c.server.latest.head? = some (.ok version)
        ∧ c.server.archives.head? = some (.ok archive)
        ∧ isInstalled dataDir c.target version i.files = false
        ∧ (c.run dataDir i).1
            = ((place dataDir c.target version archive i.names).on i.files).1.map (fun _ => version)
        ∧ (c.run dataDir i).2.files
            = ((place dataDir c.target version archive i.names).on i.files).2 := by
  by_cases hnone : ∀ version, c.server.latest.head? ≠ some (.ok version)
  · exact .inl (install_of_noVersion dataDir c.target hnone)
  · simp only [ne_eq, not_forall, not_not] at hnone
    obtain ⟨version, hlatest⟩ := hnone
    cases hold : isInstalled dataDir c.target version i.files with
    | true =>
      obtain ⟨hresult, hfiles⟩ := install_of_installed (i := c.facing i)
        hlatest hold
      exact .inr (.inl ⟨version, hresult, hold, hfiles⟩)
    | false =>
      by_cases hmissing : ∀ archive, c.server.archives.head? ≠ some (.ok archive)
      · exact .inl (install_of_noArchive (i := c.facing i) hlatest hold hmissing)
      · simp only [ne_eq, not_forall, not_not] at hmissing
        obtain ⟨archive, harchive⟩ := hmissing
        obtain ⟨hresult, hfiles, _⟩ := install_of_archive (i := c.facing i)
          hlatest hold harchive
        exact .inr (.inr ⟨version, archive, hlatest, harchive, hold, hresult, hfiles⟩)

end Call

/-- A data directory, with the versions that were placed in it, the newest first. -/
structure Site where
  installer : Installer
  placed : List (Target × String) := []

/-- The data directory after a call. -/
def Site.after (dataDir : String) (s : Site) (c : Call) : Site where
  installer := (c.run dataDir s.installer).2
  placed := c.placed dataDir s.installer ++ s.placed

/-- The version that was placed last for a target. -/
def lastFor (t : Target) (placed : List (Target × String)) : Option String :=
  (placed.find? (·.1 = t)).map (·.2)

/-- What becomes of an empty data directory when no file operation fails, and each
version has one archive for each target. -/
inductive Reached (dataDir : String) (archiveOf : String → Target → List UInt8) : Site → Prop
  | empty {i : Installer} (hfiles : i.files.Ascending)
      (hempty : ∀ rest, rest ≠ [] → i.files.get? (locate dataDir ++ rest) = none) :
      Reached dataDir archiveOf { installer := i }
  | call {s : Site} {c : Call} (hs : Reached dataDir archiveOf s) (hserves : c.Serves archiveOf)
      (hresult : ∀ fault, (c.run dataDir s.installer).1 ≠ .error (.files fault)) :
      Reached dataDir archiveOf (s.after dataDir c)

/-! ## §3. What a data directory holds. -/

/-- The daemon that is installed for a target is the one of an archive. -/
def HoldsDaemonOf (dataDir : String) (archive : List UInt8) (t : Target) (files : FileTree) :
    Prop :=
  ∃ content, contained daemonName archive = some content
    ∧ files.get? (programsAt dataDir t ++ [daemonName]) = some (.file content true)

/-- The recorded version was placed last of all, and the daemon of each target
was placed last for this target. -/
structure Faithful (dataDir : String) (archiveOf : String → Target → List UInt8) (s : Site) :
    Prop where
  ascending : s.installer.files.Ascending
  tidy : IsTidy dataDir s.installer.files
  version_eq : ∀ p ∈ s.placed.head?, ∃ executable,
    s.installer.files.get? (locate dataDir ++ ["version"])
      = some (.file p.2.toUTF8.toList executable)
  daemon_eq : ∀ t, match lastFor t s.placed with
    | some version => HoldsDaemonOf dataDir (archiveOf version t) t s.installer.files
    | none => s.installer.files.get? (programsAt dataDir t ++ [daemonName]) = none

/-- Nothing is installed in an empty data directory, and nothing was placed: the start of
`Reached`. -/
theorem Faithful.of_empty (hfiles : i.files.Ascending)
    (hempty : ∀ rest, rest ≠ [] → i.files.get? (locate dataDir ++ rest) = none) :
    Faithful dataDir archiveOf { installer := i } where
  ascending := hfiles
  tidy name rest _ := hempty (name :: rest) (List.cons_ne_nil _ _)
  version_eq p hp := by cases hp
  daemon_eq t := by
    show i.files.get? (programsAt dataDir t ++ [daemonName]) = none
    unfold programsAt
    rw [List.append_assoc]
    exact hempty _ (by simp)

/-- It is kept where the version and the daemons are: `Faithful` compares these files with
what was placed, and looks at no others but for the order and tidiness of the tree. -/
theorem Faithful.of_kept {s : Site} (h : Faithful dataDir archiveOf s) {i' : Installer}
    (hfiles : i'.files.Ascending) (htidy : IsTidy dataDir i'.files)
    (hversion : i'.files.get? (locate dataDir ++ ["version"])
      = s.installer.files.get? (locate dataDir ++ ["version"]))
    (hdaemon : ∀ t, i'.files.get? (programsAt dataDir t ++ [daemonName])
      = s.installer.files.get? (programsAt dataDir t ++ [daemonName])) :
    Faithful dataDir archiveOf { installer := i', placed := s.placed } where
  ascending := hfiles
  tidy := htidy
  version_eq p hp := by
    rw [hversion]
    exact h.version_eq p hp
  daemon_eq t := by
    have ht := h.daemon_eq t
    unfold HoldsDaemonOf at ht ⊢
    rw [hdaemon t]
    exact ht

/-- The invariant is about the files only. -/
theorem Faithful.of_files_eq {s : Site} (h : Faithful dataDir archiveOf s) {i' : Installer}
    (hfiles : i'.files = s.installer.files) :
    Faithful dataDir archiveOf { installer := i', placed := s.placed } := by
  refine h.of_kept ?_ ?_ ?_ ?_
  · rw [hfiles]
    exact h.ascending
  · rw [hfiles]
    exact h.tidy
  · rw [hfiles]
  · intro t
    rw [hfiles]

/-- **One step**: placing an archive puts its daemon at its target and its version on
record, and leaves the daemons of the other targets (`IsPlaced`). -/
theorem Faithful.of_placed {s : Site} (h : Faithful dataDir archiveOf s) {i' : Installer}
    (hfiles : i'.files.Ascending)
    (hplaced : IsPlaced dataDir t version (archiveOf version t) s.installer.files i'.files) :
    Faithful dataDir archiveOf { installer := i', placed := (t, version) :: s.placed } where
  ascending := hfiles
  tidy := hplaced.tidy
  version_eq p hp := by
    cases hp
    exact hplaced.version_eq
  daemon_eq t' := by
    unfold lastFor
    by_cases ht : t' = t
    · subst ht
      rw [List.find?_cons_of_pos (by simp)]
      obtain ⟨content, hcontent⟩ := Option.isSome_iff_exists.1 hplaced.usable.2
      exact ⟨content, hcontent, hplaced.program_eq _ _ hcontent⟩
    · rw [List.find?_cons_of_neg (by simpa using Ne.symm ht)]
      have ht' := h.daemon_eq t'
      unfold HoldsDaemonOf at ht' ⊢
      rw [hplaced.other_eq t' ht]
      exact ht'

/-- **One step**: any call that no file operation ends is one of the three of `run_cases`.
-/
theorem Faithful.after {s : Site} {c : Call} (hdirect : IsDirect dataDir)
    (h : Faithful dataDir archiveOf s) (hserves : c.Serves archiveOf)
    (hresult : ∀ fault, (c.run dataDir s.installer).1 ≠ .error (.files fault)) :
    Faithful dataDir archiveOf (s.after dataDir c) := by
  unfold Site.after Call.placed
  rcases c.run_cases dataDir s.installer with ⟨⟨e, he⟩, hfiles⟩ | ⟨version, hok, hold, hfiles⟩ |
    ⟨version, archive, hlatest, harchive, hnew, hrun, hfiles⟩
  · rw [he]
    exact h.of_files_eq hfiles
  · rw [hok]
    dsimp only
    rw [if_pos hold]
    exact h.of_files_eq hfiles
  · obtain rfl := hserves version archive hlatest harchive
    have hascending : (c.run dataDir s.installer).2.files.Ascending := by
      rw [hfiles]
      exact ascending_place dataDir c.target version _ _ _ h.ascending
    cases hplace : (place dataDir c.target version (archiveOf version c.target)
        s.installer.names).on s.installer.files with
    | mk r files' =>
      rw [hplace] at hrun hfiles
      cases r with
      | error e =>
        have he : ∀ fault, e ≠ .files fault := by
          rintro fault rfl
          exact hresult fault hrun
        obtain ⟨htidy, hkept⟩ := place_fails hdirect h.tidy hplace he
        rw [hrun]
        refine h.of_kept hascending (hfiles ▸ htidy) ?_ fun t => ?_
        · have hout : ¬ locate (stagingPath dataDir s.installer.names)
              <+: locate dataDir ++ ["version"] := by
            intro hprefix
            have hlength := hprefix.length_le
            rw [locate_stagingPath] at hlength
            simp at hlength
          rw [hfiles]
          exact hkept _ .version hout
        · rw [hfiles]
          exact hkept _ (isInstallation_programsAt dataDir t _) (not_staged dataDir t _ _)
      | ok u =>
        have hplaced := place_succeeds hdirect h.ascending h.tidy hplace
        rw [hrun]
        show Faithful dataDir archiveOf
          ⟨_, (if _ then [] else [(c.target, version)]) ++ s.placed⟩
        rw [hnew]
        exact h.of_placed hascending (hfiles ▸ hplaced)

/-- **Every data directory that is reached is `Faithful`**, by induction over the calls that
reached it. -/
theorem Reached.faithful {s : Site} (hdirect : IsDirect dataDir)
    (h : Reached dataDir archiveOf s) : Faithful dataDir archiveOf s := by
  induction h with
  | empty hfiles hempty => exact .of_empty hfiles hempty
  | call _ hserves hresult ih => exact ih.after hdirect hserves hresult

/-- No target has a daemon before something is placed for it, so that `isInstalled` cannot
be fooled by the version that was recorded for another one. -/
theorem Faithful.isInstalled_eq_false {s : Site} (h : Faithful dataDir archiveOf s)
    (hnone : lastFor t s.placed = none) (version : String) :
    isInstalled dataDir t version s.installer.files = false := by
  have hdaemon := h.daemon_eq t
  rw [hnone] at hdaemon
  have habsent : s.installer.files.get? (programsAt dataDir t ++ [daemonName]) = none := hdaemon
  unfold isInstalled isPresent
  rw [locate_daemonPath, habsent]
  exact Bool.and_false _

/-- The version that was placed last of all counts as installed for every target that
something was placed for. -/
theorem Faithful.isInstalled_eq_true {s : Site} (h : Faithful dataDir archiveOf s)
    {p : Target × String} (hhead : s.placed.head? = some p) (hne : p.2 ≠ "")
    (hplain : Text.trim p.2.toList = p.2.toList) (hsome : (lastFor t s.placed).isSome = true) :
    isInstalled dataDir t p.2 s.installer.files = true := by
  obtain ⟨last, hlast⟩ := Option.isSome_iff_exists.1 hsome
  have hdaemon := h.daemon_eq t
  rw [hlast] at hdaemon
  obtain ⟨content, _, hfound⟩ := hdaemon
  obtain ⟨executable, hversion⟩ := h.version_eq p hhead
  have hcurrent : currentVersion? dataDir s.installer.files = some p.2 := by
    have hshown : ¬ p.2.toList.isEmpty = true := by
      intro hempty
      exact hne (String.toList_injective (List.isEmpty_iff.1 hempty))
    rw [currentVersion?_of_recorded hversion, hplain, if_neg hshown, String.ofList_toList]
  unfold isInstalled isPresent
  rw [hcurrent, locate_daemonPath, hfound]
  simp

/-! ## §4. Two releases. -/

/-- Two releases: the first version has one daemon, every other version another one. -/
def twoReleases (version : String) (_ : Target) : List UInt8 :=
  if version = "v1" then daemonArchive 0x31 else daemonArchive 0x32

/-- A call while a version is the latest one. -/
def offer (t : Target) (version : String) : Call where
  target := t
  server := { latest := [.ok version], archives := [.ok (twoReleases version t)] }

theorem serves_offer (t : Target) (version : String) : (offer t version).Serves twoReleases := by
  intro version' archive hlatest harchive
  cases hlatest
  cases harchive
  rfl

def linux : Target := ⟨.linux, .amd64⟩

def mac : Target := ⟨.darwin, .arm64⟩

/-- The first version is placed for one target, the second version for another one. -/
def firstPlaced : Except Failure Unit × FileTree :=
  (place "data" linux "v1" (daemonArchive 0x31) 0).on {}

def secondPlaced : Except Failure Unit × FileTree :=
  (place "data" mac "v2" (daemonArchive 0x32) 3).on firstPlaced.2

theorem both_placed : firstPlaced.1 = .ok () ∧ secondPlaced.1 = .ok () := by
  have hone := contents_daemonArchive (.inl rfl)
  have htwo := contents_daemonArchive (.inr rfl)
  unfold secondPlaced firstPlaced place putInPlace extractAside extract replaceDir Work.makeDirs
    Work.resolve resolve
  simp only [hone, htwo, makeDirs_eq, follow_eq]
  decide +kernel

def afterFirst : Site := Site.after "data" { installer := {} } (offer linux "v1")

def afterSecond : Site := afterFirst.after "data" (offer mac "v2")

theorem isDirect_data : IsDirect "data" := isDirect_of_noBack (by decide)

/-- A call places the archive of a version that is not installed. -/
theorem after_of_placed {s : Site} {files' : FileTree}
    (hnew : isInstalled dataDir t version s.installer.files = false)
    (hplaced : (place dataDir t version (twoReleases version t) s.installer.names).on
      s.installer.files = (.ok (), files')) :
    ((offer t version).run dataDir s.installer).1 = .ok version
      ∧ (s.after dataDir (offer t version)).placed = (t, version) :: s.placed
      ∧ (s.after dataDir (offer t version)).installer.files = files'
      ∧ (s.after dataDir (offer t version)).installer.names = s.installer.names + 3 := by
  obtain ⟨hresult, hfiles, hnames⟩ := install_of_archive (i := (offer t version).facing s.installer)
    (t := t) rfl hnew rfl
  have hrun : ((offer t version).run dataDir s.installer).1 = .ok version := by
    refine hresult.trans ?_
    show ((place dataDir t version _ s.installer.names).on s.installer.files).1.map _ = _
    rw [hplaced]
    rfl
  refine ⟨hrun, ?_, hfiles.trans ?_, hnames⟩
  · show Call.placed dataDir (offer t version) s.installer ++ s.placed = _
    unfold Call.placed
    rw [hrun]
    show (if isInstalled dataDir t version s.installer.files = true then [] else [(t, version)])
      ++ s.placed = _
    rw [hnew]
    rfl
  · show ((place dataDir t version _ s.installer.names).on s.installer.files).2 = _
    rw [hplaced]

/-- The first version was placed for one target. -/
theorem reached_afterFirst :
    Reached "data" twoReleases afterFirst ∧ afterFirst.placed = [(linux, "v1")]
      ∧ afterFirst.installer.files = firstPlaced.2 ∧ afterFirst.installer.names = 3 := by
  have hempty : Reached "data" twoReleases { installer := {} } :=
    .empty ascending_empty fun rest hrest => by rw [get?_of_ne_nil] <;> simp [hrest]
  have hplaced : (place "data" linux "v1" (daemonArchive 0x31) 0).on {} = (.ok (), firstPlaced.2) :=
    Prod.ext both_placed.1 rfl
  obtain ⟨hrun, hafter⟩ := after_of_placed (s := { installer := {} }) (by decide +kernel) hplaced
  exact ⟨hempty.call (serves_offer linux "v1") (by simp [hrun]), hafter⟩

/-- The second version was placed for another target. -/
theorem reached_afterSecond :
    Reached "data" twoReleases afterSecond
      ∧ afterSecond.placed = [(mac, "v2"), (linux, "v1")] := by
  obtain ⟨hreached, hfirst, hfiles, hnames⟩ := reached_afterFirst
  have hplaced : (place "data" mac "v2" (daemonArchive 0x32) afterFirst.installer.names).on
      afterFirst.installer.files = (.ok (), secondPlaced.2) := by
    rw [hnames, hfiles]
    exact Prod.ext both_placed.2 rfl
  have hnone : lastFor mac afterFirst.placed = none := by
    rw [hfirst]
    decide
  have hnew := (hreached.faithful isDirect_data).isInstalled_eq_false hnone "v2"
  obtain ⟨hrun, hafter, _⟩ := after_of_placed hnew hplaced
  refine ⟨hreached.call (serves_offer mac "v2") (by simp [hrun]), hafter.trans ?_⟩
  rw [hfirst]

/-- Then the second version is answered for the first target as well, and nothing changes:
the version file is shared, and `isInstalled` finds some daemon of the first target. -/
theorem answer_afterSecond :
    ((offer linux "v2").run "data" afterSecond.installer).1 = .ok "v2"
      ∧ (offer linux "v2").placed "data" afterSecond.installer = []
      ∧ ((offer linux "v2").run "data" afterSecond.installer).2.files
        = afterSecond.installer.files := by
  obtain ⟨hreached, hplaced⟩ := reached_afterSecond
  have hold : isInstalled "data" linux "v2" afterSecond.installer.files = true :=
    (hreached.faithful isDirect_data).isInstalled_eq_true (p := (mac, "v2")) (by rw [hplaced]; rfl)
      (by decide) (by decide) (by rw [hplaced]; decide)
  obtain ⟨hrun, hfiles⟩ := install_of_installed
    (i := (offer linux "v2").facing afterSecond.installer) (t := linux) rfl hold
  refine ⟨hrun, ?_, hfiles⟩
  unfold Call.placed
  rw [show ((offer linux "v2").run "data" afterSecond.installer).1 = .ok "v2" from hrun]
  exact if_pos hold

/-! ## §5. The daemon behind an answer. -/

/-- What a call that answers a version tells of what was placed: something for its
target, and last of all the version itself, as it is or as it is read. -/
theorem placed_of_answer {s : Site} {c : Call} (h : Faithful dataDir archiveOf s)
    (hanswer : (c.run dataDir s.installer).1 = .ok version) :
    ∃ last t recorded, lastFor c.target (s.after dataDir c).placed = some last
      ∧ (s.after dataDir c).placed.head? = some (t, recorded)
      ∧ (version = recorded ∨ version = String.ofList (Text.trim recorded.toList))
      ∧ (t = c.target → last = recorded) := by
  have hafter : (s.after dataDir c).placed
      = (if isInstalled dataDir c.target version s.installer.files then []
          else [(c.target, version)]) ++ s.placed := by
    show c.placed dataDir s.installer ++ s.placed = _
    unfold Call.placed
    rw [hanswer]
  rw [hafter]
  cases hold : isInstalled dataDir c.target version s.installer.files with
  | false => exact ⟨version, c.target, version, by simp [lastFor], rfl, .inl rfl, fun _ => rfl⟩
  | true =>
    have hcurrent : currentVersion? dataDir s.installer.files = some version := by
      unfold isInstalled at hold
      simp only [Bool.and_eq_true, beq_iff_eq] at hold
      exact hold.1
    cases hlast : lastFor c.target s.placed with
    | none =>
      rw [h.isInstalled_eq_false hlast] at hold
      cases hold
    | some last =>
      -- something was placed before, so a version is recorded
      cases hplaced : s.placed with
      | nil =>
        rw [hplaced] at hlast
        cases hlast
      | cons p rest =>
        obtain ⟨executable, hversion⟩ := h.version_eq p (by rw [hplaced]; rfl)
        rw [hplaced] at hlast
        refine ⟨last, p.1, p.2, hlast, rfl, .inr (eq_trim_of_currentVersion? hversion hcurrent), ?_⟩
        intro htarget
        unfold lastFor at hlast
        rw [List.find?_cons_of_pos (by simp [htarget])] at hlast
        exact (Option.some.inj hlast).symm

/-- **Which daemon is installed when a version is answered.**  It is the one of the last
archive that was placed for the target.  That is the archive of the answered version
if and only if both hold the same daemon, and always if the archive that was placed last
of all was placed for this target and its version has no blanks at its ends. -/
theorem daemon_of_last_placed {s : Site} {c : Call} (hdirect : IsDirect dataDir)
    (hs : Reached dataDir archiveOf s) (hserves : c.Serves archiveOf)
    (hanswer : (c.run dataDir s.installer).1 = .ok version) :
    ∃ last t recorded,
      lastFor c.target (s.after dataDir c).placed = some last
      ∧ HoldsDaemonOf dataDir (archiveOf last c.target) c.target (s.after dataDir c).installer.files
      ∧ (HoldsDaemonOf dataDir (archiveOf version c.target) c.target
            (s.after dataDir c).installer.files
          ↔ contained daemonName (archiveOf version c.target)
            = contained daemonName (archiveOf last c.target))
      ∧ (s.after dataDir c).placed.head? = some (t, recorded)
      ∧ (version = recorded ∨ version = String.ofList (Text.trim recorded.toList))
      ∧ (t = c.target → last = recorded) := by
  have hresult : ∀ fault, (c.run dataDir s.installer).1 ≠ .error (.files fault) := by
    intro fault heq
    rw [hanswer] at heq
    cases heq
  have hfaithful := hs.faithful hdirect
  have hafter := hfaithful.after hdirect hserves hresult
  obtain ⟨last, t, recorded, hlast, hhead, hversion, hsame⟩ := placed_of_answer hfaithful hanswer
  have hdaemon := hafter.daemon_eq c.target
  rw [hlast] at hdaemon
  obtain ⟨content, hcontent, hfound⟩ := hdaemon
  refine ⟨last, t, recorded, hlast, ⟨content, hcontent, hfound⟩, ⟨?_, ?_⟩, hhead, hversion, hsame⟩
  · rintro ⟨content', hcontent', hfound'⟩
    rw [hfound] at hfound'
    cases hfound'
    rw [hcontent, hcontent']
  · intro heq
    exact ⟨content, heq.trans hcontent, hfound⟩

theorem daemon_of_last_placed_twoReleases :
    IsDirect "data" ∧ Reached "data" twoReleases afterSecond
      ∧ (offer linux "v2").Serves twoReleases
      ∧ ((offer linux "v2").run "data" afterSecond.installer).1 = .ok "v2"
      ∧ ∃ last t recorded,
        lastFor linux (afterSecond.after "data" (offer linux "v2")).placed = some last
        ∧ HoldsDaemonOf "data" (twoReleases last linux) linux
            (afterSecond.after "data" (offer linux "v2")).installer.files
        ∧ (HoldsDaemonOf "data" (twoReleases "v2" linux) linux
              (afterSecond.after "data" (offer linux "v2")).installer.files
            ↔ contained daemonName (twoReleases "v2" linux)
              = contained daemonName (twoReleases last linux))
        ∧ (afterSecond.after "data" (offer linux "v2")).placed.head? = some (t, recorded)
        ∧ ("v2" = recorded ∨ "v2" = String.ofList (Text.trim recorded.toList))
        ∧ (t = linux → last = recorded) :=
  ⟨isDirect_data, reached_afterSecond.1, serves_offer linux "v2", answer_afterSecond.1,
    daemon_of_last_placed isDirect_data reached_afterSecond.1 (serves_offer linux "v2")
      answer_afterSecond.1⟩

/-- **It need not be the daemon of the answered version.**  The first version was placed
for one target and the second version for another one.  Then the second version is
answered for the first target, where the first daemon is installed. -/
theorem not_daemon_of_version :
    Reached "data" twoReleases afterSecond ∧ (offer linux "v2").Serves twoReleases
      ∧ ((offer linux "v2").run "data" afterSecond.installer).1 = .ok "v2"
      ∧ ¬ HoldsDaemonOf "data" (twoReleases "v2" linux) linux
          (afterSecond.after "data" (offer linux "v2")).installer.files := by
  obtain ⟨hreached, hplaced⟩ := reached_afterSecond
  obtain ⟨hanswer, _, hfiles⟩ := answer_afterSecond
  refine ⟨hreached, serves_offer linux "v2", hanswer, ?_⟩
  have hdaemon := (hreached.faithful isDirect_data).daemon_eq linux
  have hlast : lastFor linux afterSecond.placed = some "v1" := by
    rw [hplaced]
    decide
  rw [hlast] at hdaemon
  obtain ⟨first, hfirst, hfound⟩ := hdaemon
  rintro ⟨second, hsecond, hfound'⟩
  have hone : contained daemonName (twoReleases "v1" linux) = some [0x31] :=
    contained_daemonArchive (.inl rfl)
  have htwo : contained daemonName (twoReleases "v2" linux) = some [0x32] :=
    contained_daemonArchive (.inr rfl)
  -- the third call has left the files, so both daemons would be the same
  rw [show (afterSecond.after "data" (offer linux "v2")).installer.files
    = afterSecond.installer.files from hfiles, hfound] at hfound'
  rw [hone] at hfirst
  rw [htwo] at hsecond
  cases hfirst
  cases hsecond
  cases hfound'

/-- **A data directory for one target** holds the daemon of the version that is
answered, if no version has blanks at its ends. -/
theorem daemon_of_version_of_one_target {s : Site} {c : Call} (hdirect : IsDirect dataDir)
    (hs : Reached dataDir archiveOf s) (hserves : c.Serves archiveOf)
    (hone : ∀ p ∈ (s.after dataDir c).placed, p.1 = c.target ∧ Text.trim p.2.toList = p.2.toList)
    (hanswer : (c.run dataDir s.installer).1 = .ok version) :
    HoldsDaemonOf dataDir (archiveOf version c.target) c.target
      (s.after dataDir c).installer.files := by
  have hresult : ∀ fault, (c.run dataDir s.installer).1 ≠ .error (.files fault) := by
    intro fault heq
    rw [hanswer] at heq
    cases heq
  have hfaithful := hs.faithful hdirect
  obtain ⟨last, t, recorded, hlast, hhead, hversion, hsame⟩ := placed_of_answer hfaithful hanswer
  obtain ⟨htarget, hplain⟩ := hone _ (List.mem_of_mem_head? hhead)
  have heq : version = recorded := by
    rcases hversion with heq | heq
    · exact heq
    · rw [heq, hplain, String.ofList_toList]
  have hdaemon := (hfaithful.after hdirect hserves hresult).daemon_eq c.target
  rw [hlast, hsame htarget, ← heq] at hdaemon
  exact hdaemon

end SwapBridge.Release
