/-
  SwapBridge.Proofs.Path
  ──────────────────────
  **NAMES ON A PATH.**

  Joining a path with a plain name adds one name at its end, whether or not a
  slash stands there already.  Where a tree lets a path be followed, it leads to
  the location that the path names.

    • `Path.IsName` — a part of a path that is neither silent nor a step back,
    • `Path.parts_join`, `FileTree.locate_join` — one more name,
    • `FileTree.eq_locate_of_resolve` — where a path leads, if it leads anywhere.
-/
import Mathlib.Logic.Basic
import SwapBridge.FileTree
import SwapBridge.Text.Split

namespace SwapBridge

namespace Path

/-- A name that is one part of a path: no silent part, no step back. -/
structure IsName (name : String) : Prop where
  noSlash : '/' ∉ name.toList
  ne_empty : name ≠ ""
  ne_dot : name ≠ "."
  ne_back : name ≠ ".."

instance (name : String) : Decidable (IsName name) :=
  decidable_of_iff ('/' ∉ name.toList ∧ name ≠ "" ∧ name ≠ "." ∧ name ≠ "..")
    ⟨fun ⟨h, he, hd, hb⟩ => ⟨h, he, hd, hb⟩,
      fun h => ⟨h.noSlash, h.ne_empty, h.ne_dot, h.ne_back⟩⟩

/-- Whether a text is part of a path that says something. -/
def speaks (part : String) : Bool := part != "" && part != "."

/-- The parts of a path stand between slashes; empty ones and those of one dot say nothing.
-/
theorem parts_eq (p : String) :
    parts p = ((p.toList.splitOn '/').map String.ofList).filter speaks := rfl

/-- A name says something. -/
theorem IsName.speaks {name : String} (h : IsName name) : speaks name = true := by
  simp [Path.speaks, h.ne_empty, h.ne_dot]

/-- A name stands for itself. -/
theorem parts_of_isName {name : String} (h : IsName name) : parts name = [name] := by
  rw [parts_eq, List.splitOn_eq_singleton h.noSlash]
  simp [h.speaks]

/-- A slash separates what stands before it from what stands behind it. -/
theorem parts_slash (p q : String) : parts (p ++ "/" ++ q) = parts p ++ parts q := by
  have hsplit : (p ++ "/" ++ q).toList.splitOn '/'
      = p.toList.splitOn '/' ++ q.toList.splitOn '/' := by
    have hlist : (p ++ "/" ++ q).toList = p.toList ++ '/' :: q.toList := by simp
    rw [hlist, List.splitOn_append_cons_self]
  rw [parts_eq, hsplit, List.map_append, List.filter_append]
  rfl

theorem parts_empty : parts "" = [] := by decide

/-- Joining keeps the parts of both sides, if the second one is not absolute. -/
theorem parts_join_of_relative (base : String) {child : String} (h : isAbsolute child = false) :
    parts (join base child) = parts base ++ parts child := by
  unfold join
  rw [h, Bool.false_or]
  by_cases hempty : base.isEmpty = true
  · rw [if_pos hempty, String.isEmpty_iff.1 hempty, parts_empty]
    rfl
  · rw [if_neg hempty]
    by_cases hslash : base.toList.getLast? = some '/'
    · -- the slash at the end separates the two already
      obtain ⟨front, hfront⟩ := List.getLast?_eq_some_iff.1 hslash
      have hbase : base = String.ofList front ++ "/" ++ "" := by
        apply String.toList_injective
        simp [hfront]
      have hjoined : base ++ child = String.ofList front ++ "/" ++ child := by
        apply String.toList_injective
        simp [hfront]
      rw [if_pos (by simp [hslash]), hjoined, parts_slash, hbase, parts_slash, parts_empty,
        List.append_nil]
    · rw [if_neg (by simpa using hslash), parts_slash]

/-- A name has no slash in it, so that it does not begin with one. -/
theorem IsName.isRelative {name : String} (h : IsName name) : isAbsolute name = false := by
  unfold isAbsolute
  cases hlist : name.toList with
  | nil => rfl
  | cons c cs =>
    have hc : c ≠ '/' := by
      intro heq
      apply h.noSlash
      rw [hlist, heq]
      exact List.mem_cons_self
    simp [hc]

/-- **Joining with a name adds it at the end.** -/
theorem parts_join (base : String) {name : String} (h : IsName name) :
    parts (join base name) = parts base ++ [name] := by
  rw [parts_join_of_relative base h.isRelative, parts_of_isName h]

/-- A path holds the characters of its parts. -/
theorem mem_of_mem_part {p part : String} {c : Char} (hpart : part ∈ parts p)
    (hc : c ∈ part.toList) : c ∈ p.toList := by
  obtain ⟨piece, hpiece, rfl⟩ := List.mem_map.1 (List.mem_filter.1 hpart).1
  rw [String.toList_ofList] at hc
  exact (Text.of_mem_pieces hpiece).2 c hc

/-- A path says something if it ends in a name, whatever stands before it. -/
theorem parts_ne_nil {name : String} (hslash : '/' ∉ name.toList) (hlong : 2 < name.toList.length)
    (front : List Char) : parts (String.ofList front ++ name) ≠ [] := by
  by_cases hfront : '/' ∈ front
  · -- only what stands behind the first slash counts
    obtain ⟨before, behind, heq, _⟩ := List.eq_append_cons_of_mem hfront
    have hshorter : behind.length < front.length := by
      rw [heq, List.length_append, List.length_cons]
      omega
    have hsplit : String.ofList front ++ name
        = String.ofList before ++ "/" ++ (String.ofList behind ++ name) := by
      apply String.toList_injective
      simp [heq]
    have hbehind := parts_ne_nil hslash hlong behind
    rw [hsplit, parts_slash]
    simp [hbehind]
  · have hne : ∀ other : String, other.toList.length ≤ 2 → String.ofList front ++ name ≠ other := by
      rintro other hother rfl
      simp only [String.toList_append, List.length_append] at hother
      omega
    have hname : IsName (String.ofList front ++ name) :=
      ⟨by simp [hfront, hslash], hne "" (by decide), hne "." (by decide), hne ".." (by decide)⟩
    rw [parts_of_isName hname]
    exact List.cons_ne_nil _ _
termination_by front.length

end Path

namespace FileTree

open SwapBridge.Path

/-- One step on the way along a path, if nothing stands in it. -/
def ahead (l : Location) (name : String) : Location :=
  if name = ".." then l.dropLast else l ++ [name]

theorem locate_eq (path : String) : locate path = (parts path).foldl ahead [] := rfl

/-- A name leads one step down. -/
theorem ahead_of_isName {name : String} (h : IsName name) (l : Location) :
    ahead l name = l ++ [name] := if_neg h.ne_back

/-- **A joined name is one step further.** -/
theorem locate_join (base : String) {name : String} (h : IsName name) :
    locate (join base name) = locate base ++ [name] := by
  rw [locate_eq, parts_join base h, List.foldl_append, ← locate_eq]
  exact ahead_of_isName h (locate base)

/-- Without a step back a path leads along its names. -/
theorem locate_of_noBack {path : String} (h : ".." ∉ parts path) : locate path = parts path := by
  have hfold : ∀ (names : List String) (l : Location), ".." ∉ names →
      names.foldl ahead l = l ++ names := by
    intro names
    induction names with
    | nil => exact fun l _ => (List.append_nil l).symm
    | cons name names ih =>
      intro l hback
      have hname : name ≠ ".." := fun heq => hback (heq ▸ List.mem_cons_self)
      rw [List.foldl_cons, ih _ fun hmem => hback (List.mem_cons_of_mem _ hmem)]
      simp [ahead, hname]
  rw [locate_eq, hfold _ _ h]
  rfl

/-- Where one step can be followed it leads `ahead`. -/
theorem eq_ahead_of_follow {t : FileTree} {l m : Location} {name : String}
    (h : t.follow l name = .ok m) : m = ahead l name := by
  unfold follow at h
  unfold ahead
  split at h
  · cases h
  · split at h
    · cases h
    · split at h
      · rename_i hback
        rw [if_pos hback]
        split at h <;> cases h
        rfl
      · rename_i hname
        rw [if_neg hname]
        cases h
        rfl

/-- **Where a path leads, if it can be followed.** -/
theorem eq_locate_of_resolve {t : FileTree} {path : String} {l : Location}
    (h : t.resolve path = .ok l) : l = locate path := by
  -- the tree only decides whether a step succeeds, not where it leads
  have hfollow : ∀ (names : List String) (start : Location),
      names.foldlM t.follow start = .ok l → l = names.foldl ahead start := by
    intro names
    induction names with
    | nil =>
      intro start h
      cases h
      rfl
    | cons name names ih =>
      intro start h
      rw [List.foldlM_cons] at h
      cases hstep : t.follow start name with
      | error fault =>
        rw [hstep] at h
        cases h
      | ok m =>
        rw [hstep] at h
        rw [List.foldl_cons, ← eq_ahead_of_follow hstep]
        exact ih m h
  exact hfollow (parts path) [] h

end FileTree

end SwapBridge
