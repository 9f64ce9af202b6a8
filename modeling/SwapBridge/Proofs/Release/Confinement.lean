/-
  SwapBridge.Proofs.Release.Confinement
  ─────────────────────────────────────
  **AN ARCHIVE REACHES TWO FILES.**

  Members of an archive bear any path and come in any kind and number.  A
  program is a regular file whose path ends in the name of one, and of several
  the last one counts.  Whatever an archive holds, and however its extraction
  ends, it reaches nothing but two places in the directory that is made for
  it.  Links that stood in these places before are followed, so what is written
  is the file that a place leads to, inside of the directory or elsewhere.

    • `fileName?_eq_some_iff`, `program?_eq_some_iff` — which members are programs,
    • `lastOf_eq_some_iff` — the last member of the wanted names is what counts,
    • `confined` — where an extraction changes anything,
    • `Ends`, `ends` — how it ends, decided from archive, tree and links,
    • `extraction_decided` — both, and what stands there afterwards.
-/
import SwapBridge.Proofs.Release.Extract

namespace SwapBridge.Release

open FileTree

variable {archive : List UInt8} {path name : String} {t t' : FileTree} {m l dir : Location}
  {mount : Mount}

/-! ## §1. Members that are programs. -/

/-- The last element for which `f` has something, with what stands around it. -/
theorem getLast?_filterMap_eq_some_iff {α β : Type} {f : α → Option β} {xs : List α} {b : β} :
    (xs.filterMap f).getLast? = some b
      ↔ ∃ before x after, xs = before ++ x :: after ∧ f x = some b ∧ ∀ y ∈ after, f y = none := by
  rw [List.getLast?_filterMap, List.findSome?_eq_some_iff]
  constructor
  · rintro ⟨after, x, before, heq, hx, hafter⟩
    refine ⟨before.reverse, x, after.reverse, ?_, hx, fun y hy => hafter y (List.mem_reverse.1 hy)⟩
    rw [← List.reverse_reverse xs, heq]
    simp
  · rintro ⟨before, x, after, rfl, hx, hafter⟩
    exact ⟨after.reverse, x, before.reverse, by simp, hx,
      fun y hy => hafter y (List.mem_reverse.1 hy)⟩

/-- The last part of a path is `name`, but for parts that say nothing. -/
def EndsIn (path name : List UInt8) : Prop :=
  ∃ front silent, path.splitOn '/'.toUInt8 = front ++ name :: silent
    ∧ ∀ part ∈ silent, part = [] ∨ part = ".".toUTF8.toList

/-- **The last name on a path**, unless it says nothing or leads back. -/
theorem fileName?_eq_some_iff {path name : List UInt8} :
    fileName? path = some name
      ↔ EndsIn path name ∧ name ≠ [] ∧ name ≠ ".".toUTF8.toList ∧ name ≠ "..".toUTF8.toList := by
  unfold fileName? EndsIn
  rw [Option.filter_eq_some_iff, ← List.filterMap_eq_filter, getLast?_filterMap_eq_some_iff]
  simp only [Option.guard_eq_some_iff, Option.guard_eq_none_iff, Bool.and_eq_true, bne_iff_ne,
    Bool.and_eq_false_iff, bne_eq_false_iff_eq]
  constructor
  · rintro ⟨⟨front, part, silent, hsplit, ⟨rfl, hempty, hdot⟩, hsilent⟩, hback⟩
    exact ⟨⟨front, silent, hsplit, hsilent⟩, hempty, hdot, hback⟩
  · rintro ⟨⟨front, silent, hsplit, hsilent⟩, hempty, hdot, hback⟩
    exact ⟨⟨front, name, silent, hsplit, ⟨rfl, hempty, hdot⟩, hsilent⟩, hback⟩

/-- The members that are met in an archive. -/
def members (archive : List UInt8) : List Archive.Tar.Member :=
  (Archive.Tar.read (Archive.Gzip.unpack archive)).members

/-- The archive can be read to its end. -/
def IsReadable (archive : List UInt8) : Prop :=
  (Archive.Tar.read (Archive.Gzip.unpack archive)).complete = true

/-- `contents` says as much about the end of an archive. -/
theorem isReadable_iff : IsReadable archive ↔ (contents archive).complete = true := Iff.rfl

/-- The member is a file and nothing else, and its path ends in the name. -/
def IsNamed (name : String) (f : Archive.Tar.Member) : Prop :=
  f.isRegular = true ∧ EndsIn f.path name.toUTF8.toList

/-- The names that count. -/
def programNames : List String := [daemonName, toolName]

/-- The member is a program under one of the wanted names. -/
def IsWanted (wanted : String → Prop) (f : Archive.Tar.Member) : Prop :=
  ∃ name ∈ programNames, wanted name ∧ IsNamed name f

/-- The member is the last such program in the archive. -/
def IsLast (wanted : String → Prop) (archive : List UInt8) (f : Archive.Tar.Member) : Prop :=
  ∃ before after, members archive = before ++ f :: after ∧ IsWanted wanted f
    ∧ ∀ later ∈ after, ¬ IsWanted wanted later

/-- The names that count are names: neither empty, nor dots. -/
theorem programNames_plain : ∀ name ∈ programNames, name.toUTF8.toList ≠ []
    ∧ name.toUTF8.toList ≠ ".".toUTF8.toList ∧ name.toUTF8.toList ≠ "..".toUTF8.toList := by
  decide +kernel

/-- Two names that are the same in bytes are the same. -/
theorem programNames_apart : ∀ name ∈ programNames, ∀ other ∈ programNames,
    name.toUTF8.toList = other.toUTF8.toList → name = other := by
  decide +kernel

/-- For a name that counts, `fileName?` asks only what the path ends in. -/
theorem fileName?_eq_program (h : name ∈ programNames) {path : List UInt8} :
    fileName? path = some name.toUTF8.toList ↔ EndsIn path name.toUTF8.toList := by
  rw [fileName?_eq_some_iff, and_iff_left (programNames_plain name h)]

/-- **Which members are programs**, and under which name. -/
theorem program?_eq_some_iff {f : Archive.Tar.Member} {content : List UInt8} :
    program? f = some (name, content)
      ↔ name ∈ programNames ∧ IsNamed name f ∧ f.content = content := by
  unfold program?
  constructor
  · intro h
    split at h
    · rename_i hregular
      obtain ⟨found, hfound, heq⟩ := Option.map_eq_some_iff.1 h
      cases heq
      have hname : name ∈ programNames := List.mem_of_find?_eq_some hfound
      have hends := List.find?_some hfound
      simp only [beq_iff_eq] at hends
      exact ⟨hname, ⟨hregular, (fileName?_eq_program hname).1 hends⟩, rfl⟩
    · cases h
  · rintro ⟨hname, ⟨hregular, hends⟩, rfl⟩
    rw [if_pos hregular]
    have hends := (fileName?_eq_program hname).2 hends
    cases hfound : programNames.find? fun name => fileName? f.path == some name.toUTF8.toList with
    | none => exact absurd (beq_iff_eq.2 hends) (List.find?_eq_none.1 hfound name hname)
    | some other =>
      -- a path ends in one name only
      have hother := List.find?_some hfound
      simp only [hends, beq_iff_eq] at hother
      obtain rfl := programNames_apart name hname other (List.mem_of_find?_eq_some hfound)
        (Option.some.inj hother)
      show Option.map _ (programNames.find? _) = _
      rw [hfound]
      rfl

/-- The programs of `contents` are the named members. -/
theorem mem_programs_iff {content : List UInt8} :
    (name, content) ∈ (contents archive).programs
      ↔ name ∈ programNames ∧ ∃ f ∈ members archive, IsNamed name f ∧ f.content = content := by
  show _ ∈ (members archive).filterMap program? ↔ _
  simp only [List.mem_filterMap, program?_eq_some_iff]
  constructor
  · rintro ⟨f, hf, hname, hf'⟩
    exact ⟨hname, f, hf, hf'⟩
  · rintro ⟨hname, f, hf, hf'⟩
    exact ⟨f, hf, hname, hf'⟩

/-- **The last member of the wanted names is what counts.** -/
theorem lastOf_eq_some_iff {wanted : String → Bool} {content : List UInt8} :
    lastOf wanted (contents archive).programs = some content
      ↔ ∃ f, IsLast (wanted · = true) archive f ∧ f.content = content := by
  have hnone : ∀ f : Archive.Tar.Member,
      (program? f).filter (wanted ·.1) = none ↔ ¬ IsWanted (wanted · = true) f := by
    intro f
    rw [Option.filter_eq_none_iff]
    constructor
    · rintro hfree ⟨name, hname, hwanted, hnamed⟩
      exact hfree _ (program?_eq_some_iff.2 ⟨hname, hnamed, rfl⟩) hwanted
    · rintro hfree ⟨name, content⟩ hprogram hwanted
      obtain ⟨hname, hnamed, _⟩ := program?_eq_some_iff.1 hprogram
      exact hfree ⟨name, hname, hwanted, hnamed⟩
  have hsome : ∀ (f : Archive.Tar.Member) (p : String × List UInt8),
      (program? f).filter (wanted ·.1) = some p
        ↔ p.1 ∈ programNames ∧ wanted p.1 = true ∧ IsNamed p.1 f ∧ f.content = p.2 := by
    rintro f ⟨name, content⟩
    rw [Option.filter_eq_some_iff, program?_eq_some_iff]
    tauto
  -- the last of some members that pass a filter is the last that is one of them and passes
  show (((members archive).filterMap program?).filter (wanted ·.1)).getLast?.map (·.2) = _ ↔ _
  rw [List.filter_filterMap, Option.map_eq_some_iff]
  simp only [getLast?_filterMap_eq_some_iff, hnone, hsome]
  constructor
  · rintro ⟨p, ⟨before, f, after, hmembers, ⟨hname, hwanted, hnamed, hcontent⟩, hlater⟩, rfl⟩
    exact ⟨f, ⟨before, after, hmembers, ⟨p.1, hname, hwanted, hnamed⟩, hlater⟩, hcontent⟩
  · rintro ⟨f, ⟨before, after, hmembers, ⟨name, hname, hwanted, hnamed⟩, hlater⟩, rfl⟩
    exact ⟨(name, f.content), ⟨before, f, after, hmembers, ⟨hname, hwanted, hnamed, rfl⟩, hlater⟩,
      rfl⟩

/-! ## §2. Where anything changes. -/

/-- Where a program goes. -/
theorem locate_program (h : name ∈ programNames) (path : String) :
    locate (Path.join path name) = locate path ++ [name] := by
  have hnames : ∀ name ∈ programNames, Path.IsName name := by decide
  exact locate_join path (hnames name h)

/-- The tree is the one that the extraction leaves. -/
theorem tree_extractDaemon (archive : List UInt8) (path : String) (mount : Mount) (t : FileTree) :
    ((extractDaemon archive path mount).on t).2 = ((extract archive path mount).on t).2 := by
  unfold extractDaemon
  rw [Work.on_bind]
  cases (extract archive path mount).on t with
  | mk r t' => cases r <;> rfl

/-- Apart from what the places of programs lead to, all is done when the directory is made. -/
theorem get?_extract_of_no_program
    (h : ∀ name ∈ programNames, mount.leads (locate path ++ [name]) ≠ some m)
    (archive : List UInt8) (t : FileTree) :
    ((extract archive path mount).on t).2.get? m = (t.makeDirs path).2.get? m := by
  rw [extract_eq, Work.on_bind, Work.on_makeDirs]
  cases (t.makeDirs path).1 with
  | error fault => rfl
  | ok u => exact keeps_fill (g := id) (fun p hp => h p.1 (mem_programs_iff.1 hp).1) _

/-- **An extraction is confined.**  However it ends, a location finds what it found before,
or a directory was made there on the way, or the place of a program leads there. -/
theorem confined (archive : List UInt8) (path : String) (mount : Mount) (t : FileTree)
    (m : Location) :
    ((extractDaemon archive path mount).on t).2.get? m = t.get? m
      ∨ (m ∈ onTheWay path ∧ t.get? m = none
          ∧ ((extractDaemon archive path mount).on t).2.get? m = some .directory)
      ∨ ∃ name ∈ programNames, mount.leads (locate (Path.join path name)) = some m := by
  by_cases hprogram : ∃ name ∈ programNames, mount.leads (locate path ++ [name]) = some m
  · obtain ⟨name, hname, hleads⟩ := hprogram
    exact .inr (.inr ⟨name, hname, by rw [locate_program hname, hleads]⟩)
  · have hafter := get?_extract_of_no_program
      (fun name hname heq => hprogram ⟨name, hname, heq⟩) archive t
    rw [tree_extractDaemon, hafter]
    by_cases hway : m ∈ onTheWay path
    · exact (grows_makeDirs t path m).imp_right fun hmade => .inl ⟨hway, hmade⟩
    · exact .inl (get?_makeDirs_of_not_passed t hway)

/-! ## §3. How it ends. -/

/-- A program can be written where its place takes it. -/
theorem writeProgram_isOk_iff {content : List UInt8} :
    ((writeProgram mount dir name content).on t).1 = .ok () ↔ mount.Takes t (dir ++ [name]) := by
  rw [Mount.takes_iff content true]
  constructor
  · intro h
    obtain ⟨t₁, hwrite, hset⟩ := writeProgram_eq_ok_iff.1 (Prod.ext h rfl)
    exact ⟨t₁, _, hwrite, hset⟩
  · rintro ⟨t₁, t₂, hwrite, hset⟩
    exact congrArg Prod.fst (writeProgram_eq_ok_iff.2 ⟨t₁, hwrite, hset⟩)

/-- The faults of writing programs are those of file operations. -/
theorem failsOnFiles_writePrograms (mount : Mount) (dir : Location)
    (programs : List (String × List UInt8)) :
    Work.FailsOnFiles
      (programs.forM fun (p : String × List UInt8) => writeProgram mount dir p.1 p.2) :=
  Work.FailsOnFiles.forM fun _ => (Work.FailsOnFiles.change _).bind fun _ =>
    Work.FailsOnFiles.change _

/-- A program takes no directory's place, so the directories stay the same. -/
theorem isDirectory_writeProgram {content : List UInt8}
    (h : (writeProgram mount dir name content).on t = (.ok (), t')) (m : Location) :
    t'.get? m = some .directory ↔ t.get? m = some .directory := by
  obtain ⟨target, hleads, _, hfree, _⟩ := writeProgram_isOk_iff.1 (congrArg Prod.fst h)
  by_cases hm : m = target
  · subst hm
    rw [get?_writeProgram h hleads]
    exact iff_of_false nofun hfree
  · have hother : mount.leads (dir ++ [name]) ≠ some m := fun heq =>
      hm (Option.some.inj (heq.symm.trans hleads))
    have hkept := keeps_writeProgram (g := id) hother content t
    rw [h] at hkept
    rw [show t'.get? m = t.get? m from hkept]

/-- **Writing one program gets in no other one's way**, whatever their places lead to. -/
theorem writePrograms_isOk_iff {programs : List (String × List UInt8)} :
    ∀ {t : FileTree},
      ((programs.forM fun (p : String × List UInt8) => writeProgram mount dir p.1 p.2).on t).1
          = .ok ()
        ↔ ∀ p ∈ programs, mount.Takes t (dir ++ [p.1]) := by
  induction programs with
  | nil => exact iff_of_true rfl (by simp)
  | cons p programs ih =>
    intro t
    have hfirst : ((writeProgram mount dir p.1 p.2).on t).1 = .ok () ↔ _ := writeProgram_isOk_iff
    show ((writeProgram mount dir p.1 p.2 >>= fun _ => programs.forM _).on t).1 = _ ↔ _
    rw [Work.on_bind, List.forall_mem_cons]
    cases hwritten : (writeProgram mount dir p.1 p.2).on t with
    | mk r t₁ =>
      rw [hwritten] at hfirst
      cases r with
      | error e => exact iff_of_false nofun fun h => nomatch hfirst.2 h.1
      | ok u =>
        -- a program that is written makes no place better or worse for the next
        have hsame : ∀ l, mount.Takes t₁ l ↔ mount.Takes t l := by
          intro l
          unfold Mount.Takes
          simp only [ne_eq, isDirectory_writeProgram hwritten]
        dsimp only
        rw [ih, and_iff_right (hfirst.1 rfl)]
        exact forall₂_congr fun q _ => hsame _

/-- Every program of the archive can be written where its place leads, and its permissions
can be changed there. -/
def Fits (mount : Mount) (archive : List UInt8) (path : String) (t : FileTree) : Prop :=
  ∀ name ∈ programNames, ∀ f ∈ members archive, IsNamed name f →
    ∃ t₁ t₂, mount.write (locate (Path.join path name)) f.content t = .ok t₁
      ∧ mount.setExecutable (locate (Path.join path name)) true t₁ = .ok t₂

/-- An archive `Fits` if each place takes the programs that go there. -/
theorem fits_iff : Fits mount archive path t
    ↔ ∀ p ∈ (contents archive).programs, mount.Takes t (locate path ++ [p.1]) := by
  constructor
  · rintro hfits ⟨name, content⟩ hp
    obtain ⟨hname, f, hf, hnamed, _⟩ := mem_programs_iff.1 hp
    have htakes := (Mount.takes_iff f.content true).2 (hfits name hname f hf hnamed)
    rwa [locate_program hname] at htakes
  · intro htakes name hname f hf hnamed
    rw [← Mount.takes_iff f.content true, locate_program hname]
    exact htakes (name, f.content) (mem_programs_iff.2 ⟨hname, f, hf, hnamed, rfl⟩)

/-- There is a daemon in the archive. -/
def HasDaemon (archive : List UInt8) : Prop := ∃ f ∈ members archive, IsNamed daemonName f

/-- The programs of `contents` decide whether there is a daemon. -/
theorem hasDaemon_iff :
    HasDaemon archive ↔ (contents archive).programs.any (·.1 == daemonName) = true := by
  have hname : daemonName ∈ programNames := List.mem_cons_self
  rw [List.any_eq_true]
  constructor
  · rintro ⟨f, hf, hnamed⟩
    exact ⟨(daemonName, f.content), mem_programs_iff.2 ⟨hname, f, hf, hnamed, rfl⟩,
      beq_self_eq_true _⟩
  · rintro ⟨⟨name, content⟩, hp, heq⟩
    obtain rfl := beq_iff_eq.1 heq
    obtain ⟨_, f, hf, hnamed, _⟩ := mem_programs_iff.1 hp
    exact ⟨f, hf, hnamed⟩

/-- The end of an extraction whose directory cannot be made. -/
theorem result_of_not_made {fault : Fault} (h : (t.makeDirs path).1 = .error fault)
    (archive : List UInt8) (mount : Mount) :
    ((extractDaemon archive path mount).on t).1 = .error (.files fault) := by
  unfold extractDaemon
  rw [extract_eq, Work.on_bind, Work.on_bind, Work.on_makeDirs, h]
  rfl

/-- What follows when the directory is made: the programs, then the judgement. -/
theorem result_of_made (h : (t.makeDirs path).1 = .ok ()) (archive : List UInt8) (mount : Mount) :
    ((extractDaemon archive path mount).on t).1
      = match ((contents archive).programs.forM fun (p : String × List UInt8) =>
            writeProgram mount (locate path) p.1 p.2).on (t.makeDirs path).2 with
        | (.error e, _) => .error e
        | (.ok (), _) =>
          if ¬ (contents archive).complete = true then .error .unreadable
          else if ¬ (contents archive).programs.any (·.1 == daemonName) = true then
            .error (.missing daemonName)
          else .ok (Path.join path daemonName) := by
  -- the directory is there, so that the programs go where its path leads
  obtain ⟨_, hresolved⟩ := makeDirs_opens h
  unfold extractDaemon
  rw [Work.on_bind, extract_eq, Work.on_bind, Work.on_makeDirs, h]
  dsimp only [Except.mapError]
  unfold fill
  rw [Work.on_bind, Work.on_resolve, hresolved]
  dsimp only [Except.mapError]
  rw [Work.on_bind]
  cases ((contents archive).programs.forM fun (p : String × List UInt8) =>
      writeProgram mount (locate path) p.1 p.2).on (t.makeDirs path).2 with
  | mk r t' =>
    cases r with
    | error e => rfl
    | ok u =>
      dsimp only
      cases (contents archive).complete with
      | false => rfl
      | true => cases (contents archive).programs.any (·.1 == daemonName) <;> rfl

/-- The ways in which an extraction ends, each with what brings it about. -/
inductive Ends (archive : List UInt8) (path : String) (mount : Mount) (t : FileTree) :
    Except Failure String → Prop
  | notMade {fault : Fault} (h : (t.makeDirs path).1 = .error fault) :
      Ends archive path mount t (.error (.files fault))
  | notWritten {fault : Fault} (h : (t.makeDirs path).1 = .ok ())
      (hfits : ¬ Fits mount archive path (t.makeDirs path).2) :
      Ends archive path mount t (.error (.files fault))
  | notRead (h : (t.makeDirs path).1 = .ok ())
      (hfits : Fits mount archive path (t.makeDirs path).2)
      (hread : ¬ IsReadable archive) : Ends archive path mount t (.error .unreadable)
  | noDaemon (h : (t.makeDirs path).1 = .ok ())
      (hfits : Fits mount archive path (t.makeDirs path).2)
      (hread : IsReadable archive) (hdaemon : ¬ HasDaemon archive) :
      Ends archive path mount t (.error (.missing daemonName))
  | placed (h : (t.makeDirs path).1 = .ok ())
      (hfits : Fits mount archive path (t.makeDirs path).2)
      (hread : IsReadable archive) (hdaemon : HasDaemon archive) :
      Ends archive path mount t (.ok (Path.join path daemonName))

/-- **How an extraction ends.**  The directory comes first, then the programs, then the end of
the archive, and the daemon is asked for last. -/
theorem ends (archive : List UInt8) (path : String) (mount : Mount) (t : FileTree) :
    Ends archive path mount t ((extractDaemon archive path mount).on t).1 := by
  cases h : (t.makeDirs path).1 with
  | error fault =>
    rw [result_of_not_made h]
    exact .notMade h
  | ok u =>
    -- the programs fit exactly if writing them succeeds, and they fail on files only
    have hfits := (@fits_iff archive path (t.makeDirs path).2 mount).trans
      writePrograms_isOk_iff.symm
    have hfaults := failsOnFiles_writePrograms mount (locate path) (contents archive).programs
      (t.makeDirs path).2
    rw [result_of_made h]
    cases hwritten : ((contents archive).programs.forM fun (p : String × List UInt8) =>
        writeProgram mount (locate path) p.1 p.2).on (t.makeDirs path).2 with
    | mk r t' =>
      rw [hwritten] at hfits hfaults
      cases r with
      | error e =>
        obtain ⟨fault, rfl⟩ := hfaults e rfl
        exact .notWritten h fun hfits' => nomatch hfits.1 hfits'
      | ok u =>
        have hfits := hfits.2 rfl
        dsimp only
        -- all programs are written; then the archive is read to its end and asked for the
        -- daemon
        split_ifs with hread hdaemon
        · exact .placed h hfits hread (hasDaemon_iff.2 hdaemon)
        · exact .noDaemon h hfits hread fun hdaemon' => hdaemon (hasDaemon_iff.1 hdaemon')
        · exact .notRead h hfits hread

/-- Of all the `Ends`, only `noDaemon` fits an archive that is good but for the daemon. -/
theorem Ends.eq_of_noDaemon {r : Except Failure String} (h : Ends archive path mount t r)
    (hmade : (t.makeDirs path).1 = .ok ()) (hread : IsReadable archive)
    (hfits : Fits mount archive path (t.makeDirs path).2) (hdaemon : ¬ HasDaemon archive) :
    r = .error (.missing daemonName) := by
  cases h with
  | notMade h =>
    rw [hmade] at h
    cases h
  | notWritten _ h => exact absurd hfits h
  | notRead _ _ h => exact absurd hread h
  | noDaemon => rfl
  | placed _ _ _ h => exact absurd h hdaemon

/-- Of all the `Ends`, only `placed` fits an archive that is good. -/
theorem Ends.eq_of_all {r : Except Failure String} (h : Ends archive path mount t r)
    (hmade : (t.makeDirs path).1 = .ok ()) (hread : IsReadable archive)
    (hfits : Fits mount archive path (t.makeDirs path).2) (hdaemon : HasDaemon archive) :
    r = .ok (Path.join path daemonName) := by
  cases h with
  | notMade h =>
    rw [hmade] at h
    cases h
  | notWritten _ h => exact absurd hfits h
  | notRead _ _ h => exact absurd hread h
  | noDaemon _ _ _ h => exact absurd hdaemon h
  | placed => rfl

/-- The place of a program leads to a location. -/
def LeadsTo (mount : Mount) (path : String) (l : Location) (name : String) : Prop :=
  mount.leads (locate (Path.join path name)) = some l

/-- For names that count, `leadingTo` is about the place that a path names. -/
theorem isLast_leadingTo {f : Archive.Tar.Member} :
    IsLast (leadingTo mount (locate path) l · = true) archive f
      ↔ IsLast (LeadsTo mount path l) archive f := by
  have hwanted : IsWanted (leadingTo mount (locate path) l · = true)
      = IsWanted (LeadsTo mount path l) := by
    funext f
    refine propext (exists_congr fun name =>
      and_congr_right fun hname => and_congr_left fun _ => ?_)
    show (mount.leads (locate path ++ [name]) == some l) = true
      ↔ mount.leads (locate (Path.join path name)) = some l
    rw [locate_program hname, beq_iff_eq]
  unfold IsLast
  rw [hwanted]

/-- **What stands where the places lead when all went well.**  Where both places lead to one
file, the later of their programs stands there. -/
theorem programs_of_ok {p : String} (h : ((extractDaemon archive path mount).on t).1 = .ok p)
    {f : Archive.Tar.Member} (hlast : IsLast (LeadsTo mount path l) archive f) :
    ((extractDaemon archive path mount).on t).2.get? l = some (.file f.content true) := by
  obtain ⟨_, t', hextract, _⟩ := Work.on_bind_eq_ok.1 (Prod.ext h rfl)
  rw [tree_extractDaemon, hextract]
  exact (extract_writes hextract).2 l f.content
    (lastOf_eq_some_iff.2 ⟨f, isLast_leadingTo.2 hlast, rfl⟩)

/-! ## §4. The decision. -/

/-- **EXTRACTION REACHES TWO FILES, AND ITS END IS DECIDED.**  Whatever the archive, the
destination, the tree and its links, nothing changes but the directories on the way and what
the two programs' places lead to.  The daemon's path is the result exactly if the directory
can be made, the archive is read to its end, every program can be written and made
executable, and a daemon is among them; then each file that a place leads to is as its last
member has it and may be run.  With all of that but a daemon, the daemon is reported missing,
and in no other case. -/
theorem extraction_decided (archive : List UInt8) (path : String) (mount : Mount) (t : FileTree) :
    (∀ m, ((extractDaemon archive path mount).on t).2.get? m = t.get? m
      ∨ (m ∈ onTheWay path ∧ t.get? m = none
          ∧ ((extractDaemon archive path mount).on t).2.get? m = some .directory)
      ∨ ∃ name ∈ programNames, mount.leads (locate (Path.join path name)) = some m)
    ∧ (((extractDaemon archive path mount).on t).1 = .ok (Path.join path daemonName)
        ↔ (t.makeDirs path).1 = .ok () ∧ IsReadable archive
          ∧ Fits mount archive path (t.makeDirs path).2 ∧ HasDaemon archive)
    ∧ (∀ p, ((extractDaemon archive path mount).on t).1 = .ok p → p = Path.join path daemonName
        ∧ ∀ l f, IsLast (LeadsTo mount path l) archive f →
            ((extractDaemon archive path mount).on t).2.get? l = some (.file f.content true))
    ∧ (((extractDaemon archive path mount).on t).1 = .error (.missing daemonName)
        ↔ (t.makeDirs path).1 = .ok () ∧ IsReadable archive
          ∧ Fits mount archive path (t.makeDirs path).2 ∧ ¬ HasDaemon archive) := by
  have hends := ends archive path mount t
  -- confinement is a matter of its own; the three answers are read off how it ends
  refine ⟨confined archive path mount t, ⟨fun h => ?_, ?_⟩, fun p h => ⟨?_, ?_⟩,
    ⟨fun h => ?_, ?_⟩⟩
  · rw [h] at hends
    cases hends with
    | placed hmade hfits hread hdaemon => exact ⟨hmade, hread, hfits, hdaemon⟩
  · rintro ⟨hmade, hread, hfits, hdaemon⟩
    exact hends.eq_of_all hmade hread hfits hdaemon
  · rw [h] at hends
    cases hends
    rfl
  · exact fun l f hlast => programs_of_ok h hlast
  · rw [h] at hends
    cases hends with
    | noDaemon hmade hfits hread hdaemon => exact ⟨hmade, hread, hfits, hdaemon⟩
  · rintro ⟨hmade, hread, hfits, hdaemon⟩
    exact hends.eq_of_noDaemon hmade hread hfits hdaemon

/-! ## §5. What stands in the way. -/

/-- An archive of no data at all. -/
def emptyArchive : List UInt8 :=
  Archive.Gzip.plainHeader ++ (Archive.Deflate.stored [] ++ List.replicate 8 0)

theorem read_emptyArchive :
    Archive.Tar.read (Archive.Gzip.unpack emptyArchive) = ⟨[], true⟩ := by
  unfold emptyArchive
  rw [Archive.Gzip.unpack_stored (by decide), Archive.Tar.read, Archive.Tar.readFrom]
  decide +kernel

/-- A file in the place of the directory. -/
def blocked : FileTree where
  entries := [(["out"], .file "in the way".toUTF8.toList false)]

/-- A file is in the way of the directory, so that is what is reported of an empty archive. -/
theorem result_blocked : IsReadable emptyArchive ∧ ¬ HasDaemon emptyArchive
    ∧ ((extractDaemon emptyArchive "out").on blocked).1 = .error (.files .exists) := by
  have hmembers : members emptyArchive = [] :=
    congrArg Archive.Tar.Reading.members read_emptyArchive
  have hmade : (blocked.makeDirs "out").1 = .error .exists := by
    rw [makeDirs_eq]
    decide +kernel
  refine ⟨congrArg Archive.Tar.Reading.complete read_emptyArchive, ?_, result_of_not_made hmade _ _⟩
  rintro ⟨f, hf, _⟩
  rw [hmembers] at hf
  cases hf

/-- A file outside of the directory, and a link to it in the place of the daemon. -/
def outside : FileTree where
  entries := [(["home"], .directory), (["home", "notes"], .file [] false)]

def linked : Mount where
  leads l := if l = ["out", "boltzd"] then some ["home", "notes"] else some l

/-- The file that the link leads to is overwritten and made executable. -/
theorem tree_linked :
    ((extractDaemon (daemonArchive 0x31) "out" linked).on outside).2.get? ["home", "notes"]
      = some (.file [0x31] true) := by
  have hcontents := contents_daemonArchive (.inl rfl)
  unfold extractDaemon extract Work.makeDirs Work.resolve resolve
  simp only [hcontents, makeDirs_eq, follow_eq]
  decide +kernel

/-- The permissions of the daemon's file are not ours to change. -/
def foreign : Mount where
  owns l := l != ["out", "boltzd"]

/-- The daemon was written, and that is not enough. -/
theorem result_foreign :
    ((extractDaemon (daemonArchive 0x31) "out" foreign).on {}).1
      = .error (.files .notPermitted) := by
  have hcontents := contents_daemonArchive (.inl rfl)
  unfold extractDaemon extract Work.makeDirs Work.resolve resolve
  simp only [hcontents, makeDirs_eq, follow_eq]
  decide +kernel

/-- **Three things that do not follow from an archive alone.**  One without a daemon is not
always what is reported; what is changed is not always in the directory; and it is not enough
that every program can be written. -/
theorem blocked_linked_foreign :
    (¬ ∀ (archive : List UInt8) (path : String) (t : FileTree), IsReadable archive →
        ¬ HasDaemon archive →
        ((extractDaemon archive path).on t).1 = .error (.missing daemonName))
    ∧ (¬ ∀ (archive : List UInt8) (path : String) (mount : Mount) (t : FileTree) (m : Location),
        ((extractDaemon archive path mount).on t).2.get? m = t.get? m
          ∨ (m ∈ onTheWay path ∧ t.get? m = none
              ∧ ((extractDaemon archive path mount).on t).2.get? m = some .directory)
          ∨ ∃ name ∈ programNames, m = locate (Path.join path name))
    ∧ (¬ ∀ (archive : List UInt8) (path : String) (mount : Mount) (t : FileTree),
        (t.makeDirs path).1 = .ok () → IsReadable archive →
        (∀ name ∈ programNames, ∀ f ∈ members archive, IsNamed name f →
          ∃ t', mount.write (locate (Path.join path name)) f.content (t.makeDirs path).2 = .ok t') →
        HasDaemon archive →
        ((extractDaemon archive path mount).on t).1 = .ok (Path.join path daemonName)) := by
  refine ⟨fun h => ?_, fun h => ?_, fun h => ?_⟩
  -- a file is in the way of the directory: another failure than the missing daemon
  · obtain ⟨hread, hdaemon, hresult⟩ := result_blocked
    have hmissing := h emptyArchive "out" blocked hread hdaemon
    rw [hresult] at hmissing
    cases hmissing
  -- a link leads out of the directory, and what is there is written over
  · have hnotes := h (daemonArchive 0x31) "out" linked outside ["home", "notes"]
    rw [tree_linked] at hnotes
    revert hnotes
    decide +kernel
  -- the file of somebody else can be written and not be made executable
  · have hcontents := contents_daemonArchive (.inl rfl)
    have hmade : (({} : FileTree).makeDirs "out") = (.ok (), ⟨[(["out"], .directory)]⟩) := by
      rw [makeDirs_eq]
      decide +kernel
    have hok := h (daemonArchive 0x31) "out" foreign {} (by rw [hmade]) ?_ ?_ ?_
    · rw [result_foreign] at hok
      cases hok
    · rw [isReadable_iff, hcontents]
    · intro name hname f _ _
      have hplaces : ∀ name ∈ programNames,
          FileTree.get? ⟨[(["out"], .directory)]⟩ (locate (Path.join "out" name)).dropLast
              = some .directory
            ∧ FileTree.get? ⟨[(["out"], .directory)]⟩ (locate (Path.join "out" name))
              ≠ some .directory := by
        decide +kernel
      rw [hmade]
      exact (exists_write_iff f.content).2 (hplaces name hname)
    · rw [hasDaemon_iff, hcontents]
      rfl

end SwapBridge.Release
