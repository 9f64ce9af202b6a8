/-
  SwapBridge.Proofs.FileTree
  ──────────────────────────
  **WHAT FILE OPERATIONS DO TO LOOK-UPS.**

  Each operation is known by the locations where a look-up finds something
  else than before.  Making directories changes nothing but locations on the
  way, removing changes a subtree, moving changes two of them.

    • `get?_put_self`, `get?_erase_inside`, … — a look-up after one change,
    • `write_cases`, `removeDir_cases`, `move_cases` — when an operation succeeds,
    • `get?_makeDirs_of_not_passed`, `grows_makeDirs` — directories that are made,
    • `makeDirs_opens` — where a directory was made, the path leads to it,
    • `get?_move_below` — a moved subtree is found at its target,
    • `Ascending` — the order of the entries, which every operation keeps,
    • `Mount.write_eq_ok_iff`, `Mount.takes_iff` — links are followed.
-/
import Mathlib.Data.List.Basic
import SwapBridge.Proofs.Path

namespace SwapBridge.FileTree

variable {t t' : FileTree} {l m source target : Location} {e : Entry} {content : List UInt8}

/-! ## §1. One entry more, one subtree less. -/

theorem get?_of_ne_nil (t : FileTree) (h : m ≠ []) : t.get? m = t.entries.lookup m := if_neg h

/-- The look-up in entries, one step further. -/
theorem lookup_cons_eq (l m : Location) (e : Entry) (es : List (Location × Entry)) :
    ((l, e) :: es).lookup m = if m = l then some e else es.lookup m := by
  by_cases h : m = l
  · simp [h]
  · rw [List.lookup_cons, beq_eq_false_iff_ne.2 h, if_neg h]

/-- `place` puts an entry where it belongs in the order, so that it is found and the others
are too. -/
theorem lookup_place (l m : Location) (e : Entry) (es : List (Location × Entry)) :
    (place l e es).lookup m = if m = l then some e else es.lookup m := by
  induction es with
  | nil => rw [place, lookup_cons_eq]
  | cons d ds ih =>
    obtain ⟨k, v⟩ := d
    by_cases heq : l = k
    · subst heq
      rw [place, if_pos rfl, lookup_cons_eq, lookup_cons_eq]
      by_cases hm : m = l <;> simp [hm]
    -- the entry stands before the first location behind its own
    · by_cases hlt : l < k
      · rw [place, if_neg heq, if_pos hlt, lookup_cons_eq]
      · rw [place, if_neg heq, if_neg hlt, lookup_cons_eq, ih, lookup_cons_eq]
        by_cases hk : m = k
        · subst hk
          simp [Ne.symm heq]
        · simp [hk]

theorem get?_put_self (t : FileTree) (h : l ≠ []) (e : Entry) : (t.put l e).get? l = some e := by
  rw [get?_of_ne_nil _ h]
  show (place l e t.entries).lookup l = _
  rw [lookup_place, if_pos rfl]

/-- `put` changes what is at one location. -/
theorem get?_put_of_ne (t : FileTree) (h : m ≠ l) (e : Entry) : (t.put l e).get? m = t.get? m := by
  by_cases hm : m = []
  · rw [hm]
    rfl
  · rw [get?_of_ne_nil _ hm, get?_of_ne_nil _ hm]
    show (place l e t.entries).lookup m = _
    rw [lookup_place, if_neg h]

/-- Entries below a location are not found once they are filtered out; all others are. -/
theorem lookup_filter_isPrefixOf (l m : Location) (es : List (Location × Entry)) :
    (es.filter fun e => !l.isPrefixOf e.1).lookup m
      = if l.isPrefixOf m then none else es.lookup m := by
  induction es with
  | nil => simp
  | cons d ds ih =>
    obtain ⟨k, v⟩ := d
    -- a dropped entry is below `l`, and so is every location it could have been found under
    by_cases hk : l.isPrefixOf k = true
    · rw [List.filter_cons_of_neg (by simp [hk]), ih, lookup_cons_eq]
      by_cases hm : m = k
      · rw [hm, if_pos hk, if_pos hk]
      · rw [if_neg hm]
    · rw [List.filter_cons_of_pos (by simp [hk]), lookup_cons_eq, ih, lookup_cons_eq]
      by_cases hm : m = k
      · rw [hm, if_pos rfl, if_neg hk, if_pos rfl]
      · rw [if_neg hm, if_neg hm]

/-- Nothing is found in a subtree that was removed. -/
theorem get?_erase_inside (t : FileTree) (h : l <+: m) (hm : m ≠ []) :
    (t.erase l).get? m = none := by
  rw [get?_of_ne_nil _ hm]
  show (t.entries.filter _).lookup m = _
  rw [lookup_filter_isPrefixOf, if_pos (List.isPrefixOf_iff_prefix.2 h)]

/-- `erase` removes a location with what is below it and nothing else. -/
theorem get?_erase_outside (t : FileTree) (h : ¬ l <+: m) :
    (t.erase l).get? m = t.get? m := by
  by_cases hm : m = []
  · rw [hm]
    rfl
  · rw [get?_of_ne_nil _ hm, get?_of_ne_nil _ hm]
    show (t.entries.filter _).lookup m = _
    rw [lookup_filter_isPrefixOf, if_neg fun hp => h (List.isPrefixOf_iff_prefix.1 hp)]

/-! ## §2. Files. -/

/-- A file is written into a directory that is there, over a file or nothing. -/
theorem write_cases (h : t.write l content = .ok t') :
    l ≠ [] ∧ t.get? l.dropLast = some .directory
      ∧ ∃ executable, t' = t.put l (.file content executable) := by
  unfold write at h
  cases hparent : t.checkParent l with
  | error fault =>
    rw [hparent] at h
    cases h
  | ok u =>
    rw [hparent] at h
    -- the parent is looked at first
    have hdirectory : t.get? l.dropLast = some .directory := by
      unfold checkParent at hparent
      split at hparent
      · rename_i hfound
        exact hfound
      · cases hparent
      · split at hparent <;> cases hparent
    have hl : l ≠ [] := by
      rintro rfl
      cases h
    -- a file keeps its permissions when it is written over
    cases hfound : t.get? l with
    | none =>
      rw [hfound] at h
      cases h
      exact ⟨hl, hdirectory, false, rfl⟩
    | some entry =>
      rw [hfound] at h
      cases entry with
      | directory => cases h
      | file content' executable =>
        cases h
        exact ⟨hl, hdirectory, executable, rfl⟩

/-- **A file can be written** where a directory holds it and it is no directory itself. -/
theorem exists_write_iff (content : List UInt8) :
    (∃ t', t.write l content = .ok t')
      ↔ t.get? l.dropLast = some .directory ∧ t.get? l ≠ some .directory := by
  unfold write checkParent
  constructor
  · rintro ⟨t', h⟩
    -- a success rules out all but a directory above and a directory at the place
    cases hparent : t.get? l.dropLast with
    | none =>
      rw [hparent] at h
      dsimp only at h
      split at h <;> cases h
    | some parent =>
      rw [hparent] at h
      cases parent with
      | file content' executable => cases h
      | directory =>
        refine ⟨rfl, fun hdirectory => ?_⟩
        rw [hdirectory] at h
        cases h
  · rintro ⟨hparent, hfree⟩
    rw [hparent]
    cases hfound : t.get? l with
    | none => exact ⟨_, rfl⟩
    | some e =>
      cases e with
      | directory => exact absurd hfound hfree
      | file content' executable => exact ⟨_, rfl⟩

/-- A `write` that succeeds changes what is at its own location. -/
theorem get?_write_of_ne (h : t.write l content = .ok t') (hm : m ≠ l) : t'.get? m = t.get? m := by
  obtain ⟨_, _, executable, rfl⟩ := write_cases h
  exact get?_put_of_ne t hm _

theorem get?_setExecutable_of_ne (t : FileTree) (hm : m ≠ l) (executable : Bool) :
    (t.setExecutable l executable).get? m = t.get? m := by
  unfold setExecutable
  split
  · exact get?_put_of_ne t hm _
  · rfl

/-! ## §3. Directories. -/

/-- A step along a path, with the unusable character searched for as in a list. -/
theorem follow_eq (t : FileTree) : t.follow = fun (l : Location) (name : String) =>
    if '\x00' ∈ name.toList then Except.error Fault.unusableName
    else if nameLimit < name.utf8ByteSize then .error .nameTooLong
    else if name = ".." then
      match t.get? l with
      | some .directory => .ok l.dropLast
      | some (.file _ _) => .error .notDirectory
      | none => .error .notFound
    else .ok (l ++ [name]) := by
  funext l name
  unfold follow
  rw [String.contains_char_eq]
  by_cases h : '\x00' ∈ name.toList
  · simp [h]
  · have hchecked : ¬ decide ('\x00' ∈ name.toList) = true := by simp [h]
    exact (if_neg hchecked).trans (if_neg h).symm

/-- `makeDirs` looks at the whole path first, and then makes its parts along the way. -/
theorem makeDirs_eq (t : FileTree) (path : String) :
    t.makeDirs path
      = if '\x00' ∈ path.toList then (.error .unusableName, t)
        else if pathLimit < path.utf8ByteSize then (.error .nameTooLong, t)
        else makeAlong (Path.endsInDot path) false [] (Path.parts path) t := by
  unfold makeDirs
  simp only [String.contains_char_eq, decide_eq_true_eq]

/-- The locations that are passed along `names` from a location on. -/
def passed : Location → List String → List Location
  | _, [] => []
  | l, name :: rest => ahead l name :: passed (ahead l name) rest

/-- The locations that are passed along a path. -/
def onTheWay (path : String) : List Location := passed [] (Path.parts path)

/-- Without a step back only locations between the first and the last are passed. -/
theorem between_of_mem_passed {names : List String} (hback : ".." ∉ names) :
    m ∈ passed l names → l <+: m ∧ m <+: l ++ names := by
  -- without a step back, each location passed is the one before it and a name more
  induction names generalizing l with
  | nil => exact fun h => by cases h
  | cons name names ih =>
    intro h
    have hname : name ≠ ".." := fun heq => hback (heq ▸ List.mem_cons_self)
    have hahead : ahead l name = l ++ [name] := if_neg hname
    have hlast : l ++ name :: names = l ++ [name] ++ names := by simp
    rw [hlast]
    rcases List.mem_cons.1 h with rfl | h
    · rw [hahead]
      exact ⟨List.prefix_append _ _, List.prefix_append _ _⟩
    · rw [hahead] at h
      obtain ⟨hfirst, hlast⟩ := ih (fun hmem => hback (List.mem_cons_of_mem _ hmem)) h
      exact ⟨(List.prefix_append l [name]).trans hfirst, hlast⟩

/-- A name that is no part of the way is on none of the locations that are passed. -/
theorem not_mem_of_mem_passed {name : String} {names : List String} (h : name ∉ names) :
    ∀ {l : Location}, name ∉ l → m ∈ passed l names → name ∉ m := by
  induction names with
  | nil => exact fun _ hm => by cases hm
  | cons first names ih =>
    intro l hl hm
    -- one step brings in the next name at most
    have hahead : name ∉ ahead l first := by
      unfold ahead
      split
      · exact fun hmem => hl (List.mem_of_mem_take (List.dropLast_eq_take ▸ hmem))
      · intro hmem
        rcases List.mem_append.1 hmem with hmem | hmem
        · exact hl hmem
        · exact h (List.mem_singleton.1 hmem ▸ List.mem_cons_self)
    rcases List.mem_cons.1 hm with rfl | hm
    · exact hahead
    · exact ih (fun hmem => h (List.mem_cons_of_mem _ hmem)) hahead hm

/-- What is passed on the way along more names is passed along the first of them and then
on. -/
theorem passed_append (l : Location) (front names : List String) :
    passed l (front ++ names) = passed l front ++ passed (front.foldl ahead l) names := by
  induction front generalizing l with
  | nil => rfl
  | cons name front ih =>
    show ahead l name :: passed (ahead l name) (front ++ names) = _
    rw [ih]
    rfl

/-- A joined name is passed last. -/
theorem onTheWay_join (base : String) {name : String} (h : Path.IsName name) :
    onTheWay (Path.join base name) = onTheWay base ++ [locate base ++ [name]] := by
  unfold onTheWay
  rw [Path.parts_join base h, passed_append, ← locate_eq]
  show _ ++ [ahead (locate base) name] = _
  rw [ahead_of_isName h]

/-- **One step of making directories**: along a name the tree stays or gets one
directory, and the rest is made from there; or a fault ends it. -/
theorem makeAlong_cases (mustStand made : Bool) (l : Location) (name : String)
    (rest : List String) (t : FileTree) :
    (∃ fault, makeAlong mustStand made l (name :: rest) t = (.error fault, t))
    ∨ ∃ made' t₁, makeAlong mustStand made l (name :: rest) t
          = makeAlong mustStand made' (ahead l name) rest t₁
        ∧ (t₁ = t ∨ name ≠ ".." ∧ t.get? (ahead l name) = none
            ∧ t₁ = t.put (ahead l name) .directory)
        ∧ (name ≠ ".." → t₁.get? (ahead l name) = some .directory) := by
  rw [makeAlong]
  -- a step back makes nothing; any other needs a short name, and room or a directory
  by_cases hback : name = ".."
  · subst hback
    exact .inr ⟨made, t, rfl, .inl rfl, fun h => absurd rfl h⟩
  · have hahead : ahead l name = l ++ [name] := if_neg hback
    rw [if_neg hback, hahead]
    by_cases hlong : nameLimit < name.utf8ByteSize
    · rw [if_pos hlong]
      exact .inl ⟨_, rfl⟩
    · rw [if_neg hlong]
      cases hfound : t.get? (l ++ [name]) with
      | none =>
        dsimp only
        -- the last part of a path that ends in a dot must stand already
        by_cases hstand : (rest.isEmpty && mustStand) = true
        · rw [if_pos hstand]
          exact .inl ⟨_, rfl⟩
        · rw [if_neg hstand]
          exact .inr ⟨true, _, rfl, .inr ⟨hback, rfl, rfl⟩, fun _ => get?_put_self t (by simp) _⟩
      | some entry =>
        cases entry with
        | directory => exact .inr ⟨made, t, rfl, .inl rfl, fun _ => hfound⟩
        | file content executable => exact .inl ⟨_, rfl⟩

/-- Only locations on the way change. -/
theorem get?_makeAlong_of_not_passed (mustStand : Bool) {names : List String} :
    ∀ (made : Bool) (l : Location) (t : FileTree), m ∉ passed l names →
      (makeAlong mustStand made l names t).2.get? m = t.get? m := by
  -- a step makes no directory but the one it passes
  induction names with
  | nil => exact fun _ _ _ _ => rfl
  | cons name rest ih =>
    intro made l t hm
    have hne : m ≠ ahead l name := fun heq => hm (heq ▸ List.mem_cons_self)
    have hrest : m ∉ passed (ahead l name) rest := fun h => hm (List.mem_cons_of_mem _ h)
    rcases makeAlong_cases mustStand made l name rest t with
      ⟨fault, heq⟩ | ⟨made', t₁, heq, hstep, _⟩
    · rw [heq]
    · rw [heq, ih made' _ t₁ hrest]
      rcases hstep with rfl | ⟨_, _, rfl⟩
      · rfl
      · exact get?_put_of_ne t hne _

/-- What is there stays, and what is new is a directory. -/
def Grows (t t' : FileTree) : Prop :=
  ∀ m, t'.get? m = t.get? m ∨ t.get? m = none ∧ t'.get? m = some .directory

theorem Grows.refl (t : FileTree) : Grows t t := fun _ => .inl rfl

theorem Grows.trans {t₁ t₂ t₃ : FileTree} (h : Grows t₁ t₂) (h' : Grows t₂ t₃) : Grows t₁ t₃ := by
  intro m
  rcases h' m with hsame' | ⟨hnone', hnew'⟩
  · rw [hsame']
    exact h m
  · rcases h m with hsame | ⟨hnone, hnew⟩
    · exact .inr ⟨hsame ▸ hnone', hnew'⟩
    · rw [hnew] at hnone'
      cases hnone'

/-- Directories are added on the way, wherever `makeAlong` ends, and nothing else changes.
-/
theorem grows_makeAlong (mustStand : Bool) (names : List String) :
    ∀ (made : Bool) (l : Location) (t : FileTree),
      Grows t (makeAlong mustStand made l names t).2 := by
  induction names with
  | nil => exact fun _ _ t => .refl t
  | cons name rest ih =>
    intro made l t
    rcases makeAlong_cases mustStand made l name rest t with
      ⟨fault, heq⟩ | ⟨made', t₁, heq, hstep, _⟩
    · rw [heq]
      exact .refl t
    · rw [heq]
      refine Grows.trans ?_ (ih made' _ t₁)
      -- either nothing was made, or one directory where nothing was
      rcases hstep with rfl | ⟨hname, hfree, rfl⟩
      · exact .refl t₁
      · intro m
        by_cases hm : m = ahead l name
        · subst hm
          have hl : ahead l name ≠ [] := by simp [ahead, hname]
          exact .inr ⟨hfree, get?_put_self t hl _⟩
        · exact .inl (get?_put_of_ne t hm _)

/-- The file that an entry is, if it is one: its content, and whether it may be run. -/
def fileOf : Option Entry → Option (List UInt8 × Bool)
  | some (.file content executable) => some (content, executable)
  | _ => none

/-- Reading finds files only. -/
theorem toOption_read (t : FileTree) (l : Location) :
    (t.read l).toOption = (fileOf (t.get? l)).map Prod.fst := by
  unfold read
  cases t.get? l with
  | none => cases t.isBlocked l <;> rfl
  | some e => cases e <;> rfl

/-- A tree that `Grows` has the same files: only directories have come. -/
theorem Grows.fileOf_eq (h : Grows t t') (m : Location) :
    fileOf (t'.get? m) = fileOf (t.get? m) := by
  rcases h m with hsame | ⟨hnone, hnew⟩
  · rw [hsame]
  · rw [hnone, hnew]
    rfl

/-- **Making a directory changes nothing but locations on the way.** -/
theorem get?_makeDirs_of_not_passed (t : FileTree) {path : String} (h : m ∉ onTheWay path) :
    (t.makeDirs path).2.get? m = t.get? m := by
  unfold makeDirs
  split_ifs
  · rfl
  · rfl
  · exact get?_makeAlong_of_not_passed _ _ _ _ h

/-- **Making a directory adds directories**, and nothing else happens. -/
theorem grows_makeDirs (t : FileTree) (path : String) : Grows t (t.makeDirs path).2 := by
  unfold makeDirs
  split_ifs
  · exact .refl t
  · exact .refl t
  · exact grows_makeAlong _ _ _ _ _

/-- Directories stand all along the way to a location. -/
def Reaches (t : FileTree) (l : Location) : Prop := ∀ m, m <+: l → t.get? m = some .directory

/-- The root is reached: there is nothing on the way to it. -/
theorem reaches_nil (t : FileTree) : Reaches t [] := by
  intro m hm
  rw [List.prefix_nil.1 hm]
  rfl

/-- One step further is reached if a directory stands there; a step back always is. -/
theorem Reaches.ahead (h : Reaches t l) {name : String}
    (hname : name ≠ ".." → t.get? (ahead l name) = some .directory) :
    Reaches t (ahead l name) := by
  intro m hm
  unfold FileTree.ahead at hm hname
  split at hm
  · exact h m (hm.trans (List.dropLast_prefix l))
  · rename_i hback
    rw [if_neg hback] at hname
    rcases List.prefix_concat_iff.1 hm with rfl | hm
    · exact hname hback
    · exact h m hm

/-- A directory stays one while the tree grows. -/
theorem Grows.get?_directory (h : Grows t t') (hm : t.get? m = some .directory) :
    t'.get? m = some .directory := by
  rcases h m with hsame | ⟨hnone, _⟩
  · rw [hsame, hm]
  · rw [hm] at hnone
    cases hnone

/-- A usable name can be followed from a directory on. -/
theorem follow_of_directory (hl : t.get? l = some .directory) {name : String}
    (hnul : '\x00' ∉ name.toList) (hshort : ¬ nameLimit < name.utf8ByteSize) :
    t.follow l name = .ok (ahead l name) := by
  rw [follow_eq]
  dsimp only
  rw [if_neg hnul, if_neg hshort, hl]
  unfold ahead
  split <;> rfl

/-- `makeAlong` refuses names that are too long for a directory. -/
theorem short_of_makeAlong {mustStand made : Bool} {name : String} {rest : List String}
    (h : (makeAlong mustStand made l (name :: rest) t).1 = .ok ()) :
    ¬ nameLimit < name.utf8ByteSize := by
  intro hlong
  have hback : name ≠ ".." := by
    rintro rfl
    exact absurd hlong (by decide)
  rw [makeAlong, if_neg hback, if_pos hlong] at h
  cases h

/-- **Names along which directories were made can be followed**, to a directory. -/
theorem makeAlong_opens (mustStand : Bool) {names : List String} :
    ∀ (made : Bool) (l : Location) (t : FileTree), (∀ name ∈ names, '\x00' ∉ name.toList) →
      Reaches t l → (makeAlong mustStand made l names t).1 = .ok () →
      Reaches (makeAlong mustStand made l names t).2 (names.foldl ahead l)
      ∧ names.foldlM (makeAlong mustStand made l names t).2.follow l
          = .ok (names.foldl ahead l) := by
  induction names with
  | nil => exact fun _ _ _ _ hl _ => ⟨hl, rfl⟩
  | cons name rest ih =>
    intro made l t hnul hl hok
    have hshort := short_of_makeAlong hok
    have hgrown := grows_makeAlong mustStand (name :: rest) made l t
    have hstep := follow_of_directory (hgrown.get?_directory (hl l List.prefix_rfl))
      (hnul name List.mem_cons_self) hshort
    rcases makeAlong_cases mustStand made l name rest t with
      ⟨fault, heq⟩ | ⟨made', t₁, heq, hmade, hahead⟩
    · rw [heq] at hok
      cases hok
    · rw [heq] at hok hstep ⊢
      -- what was made last is not in the way of what is reached
      have hl₁ : Reaches t₁ l := by
        rcases hmade with rfl | ⟨_, hfree, rfl⟩
        · exact hl
        · intro m hm
          rw [get?_put_of_ne t _ _]
          · exact hl m hm
          · rintro rfl
            rw [hl _ hm] at hfree
            cases hfree
      obtain ⟨hreached, hfollowed⟩ := ih made' _ t₁
        (fun name hmem => hnul name (List.mem_cons_of_mem _ hmem)) (hl₁.ahead hahead) hok
      refine ⟨hreached, ?_⟩
      rw [List.foldlM_cons, hstep]
      exact hfollowed

/-- **Where a directory was made** one stands, and the path leads there. -/
theorem makeDirs_opens {path : String} (h : (t.makeDirs path).1 = .ok ()) :
    (t.makeDirs path).2.get? (locate path) = some .directory
      ∧ (t.makeDirs path).2.resolve path = .ok (locate path) := by
  rw [makeDirs_eq] at h ⊢
  split_ifs at h ⊢ with hnul hlong
  have hparts : ∀ name ∈ Path.parts path, '\x00' ∉ name.toList := fun name hname hmem =>
    hnul (Path.mem_of_mem_part hname hmem)
  obtain ⟨hreached, hfollowed⟩ := makeAlong_opens _ _ _ _ hparts (reaches_nil t) h
  exact ⟨hreached _ List.prefix_rfl, hfollowed⟩

/-- What lies behind the end of a path without a step back is not on the way. -/
theorem not_mem_onTheWay {path : String} (h : ".." ∉ Path.parts path) {rest : List String}
    (hrest : rest ≠ []) : locate path ++ rest ∉ onTheWay path := by
  intro hmem
  have hlength := (between_of_mem_passed h hmem).2.length_le
  rw [locate_of_noBack h] at hlength
  have hpos := List.length_pos_of_ne_nil hrest
  simp only [List.nil_append, List.length_append] at hlength
  omega

/-- Names that differ lead into different subtrees. -/
theorem not_prefix_of_ne {a b : String} (h : a ≠ b) (l rest : Location) :
    ¬ l ++ [a] <+: l ++ b :: rest := by
  rw [List.prefix_append_right_inj]
  rintro ⟨tail, htail⟩
  exact h (List.cons.inj htail).1

/-! ## §4. Removing and moving. -/

/-- `removeDir` takes directories only, and erases all that they hold. -/
theorem removeDir_cases (h : t.removeDir l = .ok t') :
    t.get? l = some .directory ∧ t' = t.erase l := by
  unfold removeDir at h
  split at h
  · rename_i hfound
    cases h
    exact ⟨hfound, rfl⟩
  · cases h
  · cases h

/-- Puts entries into a directory, one after the other. -/
def putAll (target : Location) (ps : List (Location × Entry)) (t : FileTree) : FileTree :=
  ps.foldl (fun t p => t.put (target ++ p.1) p.2) t

/-- `putAll` puts entries at their places below the target and changes nothing else. -/
theorem get?_putAll_of_ne {ps : List (Location × Entry)} (h : ∀ p ∈ ps, m ≠ target ++ p.1) :
    ∀ t : FileTree, (putAll target ps t).get? m = t.get? m := by
  induction ps with
  | nil => exact fun _ => rfl
  | cons p ps ih =>
    intro t
    show (putAll target ps _).get? m = _
    rw [ih (fun q hq => h q (List.mem_cons_of_mem _ hq))]
    exact get?_put_of_ne t (h p List.mem_cons_self) _

/-- Of entries with different locations each is found where it was put. -/
theorem get?_putAll_below {ps : List (Location × Entry)} (hps : (ps.map Prod.fst).Nodup)
    (hm : m ≠ []) :
    ∀ t : FileTree, (putAll target ps t).get? (target ++ m)
      = (ps.lookup m).or (t.get? (target ++ m)) := by
  induction ps with
  | nil => exact fun _ => rfl
  | cons p ps ih =>
    intro t
    obtain ⟨k, v⟩ := p
    obtain ⟨hfresh, hps⟩ := List.nodup_cons.1 hps
    show (putAll target ps _).get? (target ++ m) = _
    rw [lookup_cons_eq]
    -- the names are distinct, so that no later entry is put over this one
    by_cases hk : m = k
    · subst hk
      rw [if_pos rfl, get?_putAll_of_ne, get?_put_self _ (by simp [hm])]
      · rfl
      · intro q hq heq
        exact hfresh (List.mem_map.2 ⟨q, hq, (List.append_cancel_left heq).symm⟩)
    · rw [if_neg hk, ih hps]
      congr 1
      exact get?_put_of_ne t (fun heq => hk (List.append_cancel_left heq)) _

/-- **A move takes an entry with all below it** away from its place, clears the
target and puts all of it there. -/
theorem move_cases (h : t.move source target = .ok t') :
    ∃ e, t.get? source = some e
      ∧ t' = putAll target (t.below source) (((t.erase target).erase source).put target e) := by
  unfold move at h
  cases hparent : t.checkParent target with
  | error fault =>
    rw [hparent] at h
    cases h
  | ok u =>
    rw [hparent] at h
    simp only [bind, Except.bind] at h
    -- what stands at the two places decides whether there is a move, but not what it does
    split at h
    · cases h
    · cases h
    · cases h
    · rename_i e hsource _ _
      split at h
      · cases h
      · cases h
        exact ⟨e, hsource, rfl⟩

/-- What is `below` a location is not the location itself. -/
theorem ne_nil_of_mem_below {p : Location × Entry} (h : p ∈ t.below l) : p.1 ≠ [] := by
  unfold below at h
  obtain ⟨⟨k, v⟩, _, hp⟩ := List.mem_filterMap.1 h
  dsimp only at hp
  split_ifs at hp with hbelow
  cases hp
  simp only [Bool.and_eq_true, List.isPrefixOf_iff_prefix, bne_iff_ne] at hbelow
  have hlength := hbelow.1.length_le
  intro hnil
  have hdrop : (k.drop l.length).length = 0 := List.length_eq_zero_iff.2 hnil
  rw [List.length_drop] at hdrop
  omega

/-- Locations outside of both places are of no concern to a move. -/
theorem get?_move_of_apart (h : t.move source target = .ok t') (hsource : ¬ source <+: m)
    (htarget : ¬ target <+: m) : t'.get? m = t.get? m := by
  obtain ⟨e, _, rfl⟩ := move_cases h
  rw [get?_putAll_of_ne, get?_put_of_ne, get?_erase_outside _ hsource,
    get?_erase_outside _ htarget]
  · exact fun heq => htarget (heq ▸ List.prefix_rfl)
  · exact fun p _ heq => htarget (heq ▸ List.prefix_append _ _)

/-- The moved entry itself is found at the target. -/
theorem get?_move_target (h : t.move source target = .ok t') (htarget : target ≠ []) :
    t'.get? target = t.get? source := by
  obtain ⟨e, hfound, rfl⟩ := move_cases h
  rw [get?_putAll_of_ne, get?_put_self _ htarget, hfound]
  intro p hp heq
  exact ne_nil_of_mem_below hp (by simpa using heq)

/-- Nothing is left where it was. -/
theorem get?_move_source (h : t.move source target = .ok t') (hsource : source <+: m)
    (htarget : ¬ target <+: m) (hm : m ≠ []) : t'.get? m = none := by
  obtain ⟨e, _, rfl⟩ := move_cases h
  rw [get?_putAll_of_ne, get?_put_of_ne, get?_erase_inside _ hsource hm]
  · exact fun heq => htarget (heq ▸ List.prefix_rfl)
  · exact fun p _ heq => htarget (heq ▸ List.prefix_append _ _)

/-! ## §5. The order of the entries. -/

/-- The entries stand in the order of their locations, so none stands twice. -/
def Ascending (t : FileTree) : Prop := t.entries.Pairwise fun a b => a.1 < b.1

theorem ascending_empty : Ascending {} := .nil

/-- What is in the list after `place` was there before or is the entry itself. -/
theorem mem_place {p : Location × Entry} {es : List (Location × Entry)} (h : p ∈ place l e es) :
    p = (l, e) ∨ p ∈ es := by
  -- along the cases of `place`: in its stead, in front of this entry, or further behind
  induction es with
  | nil => simpa [place] using h
  | cons d ds ih =>
    rw [place] at h
    split_ifs at h with heq hlt
    · rcases List.mem_cons.1 h with h | h
      · exact .inl h
      · exact .inr (List.mem_cons_of_mem _ h)
    · rcases List.mem_cons.1 h with h | h
      · exact .inl h
      · exact .inr h
    · rcases List.mem_cons.1 h with h | h
      · exact .inr (h ▸ List.mem_cons_self)
      · exact (ih h).imp_right (List.mem_cons_of_mem _)

/-- `place` keeps the order: an entry goes before the first that is behind it. -/
theorem Ascending.put (h : t.Ascending) (l : Location) (e : Entry) : (t.put l e).Ascending := by
  have hplace : ∀ es : List (Location × Entry), es.Pairwise (fun a b => a.1 < b.1) →
      (place l e es).Pairwise fun a b => a.1 < b.1 := by
    intro es hes
    induction es with
    | nil => simp [place]
    | cons d ds ih =>
      obtain ⟨hd, hds⟩ := List.pairwise_cons.1 hes
      rw [place]
      split_ifs with heq hlt
      · exact List.pairwise_cons.2 ⟨fun p hp => heq ▸ hd p hp, hds⟩
      · refine List.pairwise_cons.2 ⟨fun p hp => ?_, hes⟩
        rcases List.mem_cons.1 hp with rfl | hp
        · exact hlt
        · exact List.lt_trans hlt (hd p hp)
      · -- the new entry belongs behind this one
        have hgt : d.1 < l := Decidable.byContradiction fun hle =>
          heq (List.le_antisymm (List.not_lt.1 hle) (List.not_lt.1 hlt))
        refine List.pairwise_cons.2 ⟨fun p hp => ?_, ih hds⟩
        rcases mem_place hp with rfl | hp
        · exact hgt
        · exact hd p hp
  exact hplace t.entries h

theorem Ascending.erase (h : t.Ascending) (l : Location) : (t.erase l).Ascending := h.filter _

theorem Ascending.putAll (ps : List (Location × Entry)) (target : Location) :
    ∀ {t : FileTree}, t.Ascending → (putAll target ps t).Ascending := by
  induction ps with
  | nil => exact fun h => h
  | cons p ps ih => exact fun h => ih (h.put _ _)

/-- A file that is written takes its place in the order. -/
theorem Ascending.write (ht : t.Ascending) (h : t.write l content = .ok t') : t'.Ascending := by
  obtain ⟨_, _, executable, rfl⟩ := write_cases h
  exact ht.put l _

theorem Ascending.setExecutable (h : t.Ascending) (l : Location) (executable : Bool) :
    (t.setExecutable l executable).Ascending := by
  unfold FileTree.setExecutable
  split
  · exact h.put l _
  · exact h

/-- Each directory that is made takes its place in the order, also before a failure. -/
theorem Ascending.makeDirs (h : t.Ascending) (path : String) :
    (t.makeDirs path).2.Ascending := by
  -- each directory on the way is one `put`
  have halong : ∀ (mustStand : Bool) (names : List String) (made : Bool) (l : Location)
      (t : FileTree), t.Ascending → (makeAlong mustStand made l names t).2.Ascending := by
    intro mustStand names
    induction names with
    | nil => exact fun _ _ _ h => h
    | cons name rest ih =>
      intro made l t h
      rcases makeAlong_cases mustStand made l name rest t with
        ⟨fault, heq⟩ | ⟨made', t₁, heq, hstep, _⟩
      · rw [heq]
        exact h
      · rw [heq]
        apply ih
        rcases hstep with rfl | ⟨_, _, rfl⟩
        · exact h
        · exact h.put _ _
  unfold FileTree.makeDirs
  split_ifs
  · exact h
  · exact h
  · exact halong _ _ _ _ t h

theorem Ascending.removeDir (ht : t.Ascending) (h : t.removeDir l = .ok t') : t'.Ascending := by
  obtain ⟨_, rfl⟩ := removeDir_cases h
  exact ht.erase l

/-- A subtree is erased at its old place and put into its new one, entry by entry. -/
theorem Ascending.move (ht : t.Ascending) (h : t.move source target = .ok t') :
    t'.Ascending := by
  obtain ⟨e, _, rfl⟩ := move_cases h
  exact Ascending.putAll _ _ (((ht.erase target).erase source).put target e)

/-- No location stands twice among what a directory holds. -/
theorem Ascending.nodup_below (h : t.Ascending) (l : Location) :
    ((t.below l).map Prod.fst).Nodup := by
  unfold below
  rw [List.map_filterMap]
  refine List.pairwise_filterMap.2 (h.imp ?_)
  rintro ⟨a, u⟩ ⟨b, v⟩ hlt x hx y hy heq
  dsimp only at hx hy
  split_ifs at hx hy with ha hb
  · simp only [Option.map_some, Option.some.injEq] at hx hy
    simp only [Bool.and_eq_true, List.isPrefixOf_iff_prefix] at ha hb
    obtain ⟨restA, rfl⟩ := ha.1
    obtain ⟨restB, rfl⟩ := hb.1
    -- the same rest behind the same directory is the same location
    rw [List.drop_left] at hx hy
    subst hx
    subst hy
    rw [heq] at hlt
    exact List.lt_irrefl _ hlt
  all_goals simp at hx hy

/-- What a directory holds is found below it. -/
theorem lookup_below (t : FileTree) (l : Location) (hm : m ≠ []) :
    (t.below l).lookup m = t.get? (l ++ m) := by
  rw [get?_of_ne_nil t (by simp [hm])]
  unfold below
  induction t.entries with
  | nil => rfl
  | cons d ds ih =>
    obtain ⟨k, v⟩ := d
    rw [lookup_cons_eq, List.filterMap_cons]
    dsimp only
    by_cases hk : l ++ m = k
    · subst hk
      simp [hm]
    · rw [if_neg hk, ← ih]
      split_ifs with hbelow
      · -- another location below the directory has another rest
        simp only [Bool.and_eq_true, List.isPrefixOf_iff_prefix] at hbelow
        obtain ⟨rest, rfl⟩ := hbelow.1
        simp only [List.drop_left]
        rw [lookup_cons_eq, if_neg]
        rintro rfl
        exact hk rfl
      · rfl

/-- **A moved subtree is found at its target.** -/
theorem get?_move_below (ht : t.Ascending) (h : t.move source target = .ok t') (hm : m ≠ []) :
    t'.get? (target ++ m) = t.get? (source ++ m) := by
  obtain ⟨e, _, rfl⟩ := move_cases h
  rw [get?_putAll_below (ht.nodup_below source) hm, lookup_below t source hm, get?_put_of_ne]
  · -- what stood below the target before is gone
    have hcleared : ((t.erase target).erase source).get? (target ++ m) = none := by
      have herased : (t.erase target).get? (target ++ m) = none :=
        get?_erase_inside t (List.prefix_append _ _) (by simp [hm])
      by_cases hsource : source <+: target ++ m
      · exact get?_erase_inside _ hsource (by simp [hm])
      · rw [get?_erase_outside _ hsource, herased]
    rw [hcleared, Option.or_none]
  · simp [hm]

/-! ## §6. Links and permissions. -/

namespace Mount

variable {mount : Mount} {executable : Bool}

/-- A file is written at the location that its own one leads to. -/
theorem write_eq_ok_iff : mount.write l content t = .ok t'
    ↔ ∃ target, mount.leads l = some target ∧ t.write target content = .ok t' := by
  unfold Mount.write
  cases mount.leads l <;> simp

/-- Permissions are changed at the location that a location leads to, if they are ours. -/
theorem setExecutable_eq_ok_iff : mount.setExecutable l executable t = .ok t'
    ↔ ∃ target, mount.leads l = some target ∧ t.isPresent target = true
        ∧ mount.owns target = true ∧ t' = t.setExecutable target executable := by
  unfold Mount.setExecutable
  cases mount.leads l with
  | none => simp
  | some target =>
    dsimp only
    split_ifs <;> simp_all [@eq_comm _ t']

/-- A file can be written where a location leads, and its permissions are ours to change. -/
def Takes (mount : Mount) (t : FileTree) (l : Location) : Prop :=
  ∃ target, mount.leads l = some target ∧ t.get? target.dropLast = some .directory
    ∧ t.get? target ≠ some .directory ∧ mount.owns target = true

/-- **A location takes a program** if and only if `write` and then `setExecutable` succeed:
what was written is there, so that only the owner matters for its permissions. -/
theorem takes_iff (content : List UInt8) (executable : Bool) : mount.Takes t l
    ↔ ∃ t₁ t₂, mount.write l content t = .ok t₁ ∧ mount.setExecutable l executable t₁ = .ok t₂ := by
  constructor
  · rintro ⟨target, hleads, hparent, hfree, howns⟩
    obtain ⟨t₁, hwrite⟩ := (exists_write_iff content).2 ⟨hparent, hfree⟩
    refine ⟨t₁, _, write_eq_ok_iff.2 ⟨target, hleads, hwrite⟩,
      setExecutable_eq_ok_iff.2 ⟨target, hleads, ?_, howns, rfl⟩⟩
    -- what was just written is there to be made executable
    obtain ⟨hne, _, _, rfl⟩ := write_cases hwrite
    rw [isPresent, get?_put_self t hne]
    rfl
  · rintro ⟨t₁, t₂, hwrite, hset⟩
    obtain ⟨target, hleads, hwrite⟩ := write_eq_ok_iff.1 hwrite
    obtain ⟨target', hleads', _, howns, _⟩ := setExecutable_eq_ok_iff.1 hset
    -- both follow the same link
    rw [hleads] at hleads'
    cases hleads'
    obtain ⟨hparent, hfree⟩ := (exists_write_iff content).1 ⟨t₁, hwrite⟩
    exact ⟨target, hleads, hparent, hfree, howns⟩

end Mount

end SwapBridge.FileTree
