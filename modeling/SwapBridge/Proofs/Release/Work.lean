/-
  SwapBridge.Proofs.Release.Work
  ──────────────────────────────
  **WORK THAT MAY FAIL HALFWAY.**

  Work on a tree ends with a result and a tree, also when it fails.  How the
  tree afterwards is related to the tree before is followed from step to step,
  through faults as well.

    • `Work.on` — how work on a tree ends, with one equation for each step,
    • `Work.Relates` — a relation between the trees before and after,
    • `Relates.bind`, `Relates.forM`, … — put together from the steps of the work,
    • `Work.Keeps` — something seen of the tree that work leaves as it is,
    • `Work.FailsOnFiles` — the only faults are those of file operations.
-/
import SwapBridge.Proofs.FileTree
import SwapBridge.Release.Extract

namespace SwapBridge.Release.Work

variable {α β : Type}

/-! ## §1. How work ends. -/

/-- The result of work on a tree, and the tree afterwards. -/
def on (w : Work α) (t : FileTree) : Except Failure α × FileTree := w.run.run t

/-- The equations `on_…` say of each step of `Work` what it answers and which tree it
leaves. -/
theorem on_get (t : FileTree) : (get : Work FileTree).on t = (.ok t, t) := rfl

/-- A step after another one; a fault ends both. -/
theorem on_bind (w : Work α) (f : α → Work β) (t : FileTree) :
    (w >>= f).on t = match w.on t with
      | (.ok a, t') => (f a).on t'
      | (.error e, t') => (.error e, t') := by
  show ExceptT.bindCont f (w.on t).1 (w.on t).2 = _
  cases w.on t with
  | mk r t' => cases r <;> rfl

/-- Work with a plan for faults. -/
theorem on_tryCatch (w : Work α) (f : Failure → Work α) (t : FileTree) :
    (tryCatch w f).on t = match w.on t with
      | (.ok a, t') => (.ok a, t')
      | (.error e, t') => (f e).on t' := by
  unfold on
  rw [ExceptT.run_tryCatch, StateT.run_bind]
  cases w.run.run t with
  | mk r t' => cases r <;> rfl

/-- A `change` that fails leaves the tree as it was, and its fault is a failure of files. -/
theorem on_change (f : FileTree → Except FileTree.Fault FileTree) (t : FileTree) :
    (change f).on t = match f t with
      | .ok t' => (.ok (), t')
      | .error fault => (.error (.files fault), t) := by
  unfold change
  rw [on_bind, on_get]
  dsimp only
  cases f t <;> rfl

/-- `makeDirs` keeps the directories it made before it failed. -/
theorem on_makeDirs (path : String) (t : FileTree) :
    (makeDirs path).on t = ((t.makeDirs path).1.mapError .files, (t.makeDirs path).2) := by
  unfold makeDirs
  rw [on_bind, on_get]
  dsimp only
  cases t.makeDirs path with
  | mk made t' => cases made <;> rfl

/-- `resolve` looks at the tree and leaves it as it is. -/
theorem on_resolve (path : String) (t : FileTree) :
    (resolve path).on t = ((t.resolve path).mapError .files, t) := by
  unfold resolve
  rw [on_bind, on_get]
  dsimp only
  cases t.resolve path <;> rfl

/-- Work that succeeds, step by step. -/
theorem on_bind_eq_ok {w : Work α} {f : α → Work β} {t t' : FileTree} {b : β} :
    (w >>= f).on t = (.ok b, t') ↔ ∃ a t₁, w.on t = (.ok a, t₁) ∧ (f a).on t₁ = (.ok b, t') := by
  rw [on_bind]
  cases w.on t with
  | mk r t₁ =>
    cases r with
    | error e =>
      constructor
      · intro h
        cases h
      · rintro ⟨a, t₂, h, _⟩
        cases h
    | ok a =>
      constructor
      · exact fun h => ⟨a, t₁, rfl, h⟩
      · rintro ⟨a', t₂, h, h'⟩
        cases h
        exact h'

/-- A `change` succeeds where its function on trees does, with the tree that this gives. -/
theorem on_change_eq_ok {f : FileTree → Except FileTree.Fault FileTree} {t t' : FileTree} :
    (change f).on t = (.ok (), t') ↔ f t = .ok t' := by
  rw [on_change]
  cases f t <;> simp

theorem on_makeDirs_eq_ok {path : String} {t t' : FileTree} :
    (makeDirs path).on t = (.ok (), t') ↔ t.makeDirs path = (.ok (), t') := by
  rw [on_makeDirs]
  cases t.makeDirs path with
  | mk made t₁ => cases made <;> simp [Except.mapError]

theorem on_resolve_eq_ok {path : String} {t t' : FileTree} {l : Location} :
    (resolve path).on t = (.ok l, t') ↔ t.resolve path = .ok l ∧ t' = t := by
  rw [on_resolve]
  cases t.resolve path <;> simp [Except.mapError, eq_comm]

/-- A path that can be followed leads where it says. -/
theorem eq_of_on_resolve {path : String} {t t' : FileTree} {l : Location}
    (h : (resolve path).on t = (.ok l, t')) : l = FileTree.locate path ∧ t' = t := by
  obtain ⟨hfound, htree⟩ := on_resolve_eq_ok.1 h
  exact ⟨FileTree.eq_locate_of_resolve hfound, htree⟩

/-! ## §2. Trees before and after. -/

/-- The tree after the work is related to the tree before it, whether or not the work fails. -/
def Relates (R : FileTree → FileTree → Prop) (w : Work α) : Prop := ∀ t, R t (w.on t).2

/-- What is seen of both trees is the same. -/
def Same {γ : Type} (see : FileTree → γ) (t t' : FileTree) : Prop := see t' = see t

/-- What holds of the first tree holds of the second. -/
def Passes (P : FileTree → Prop) (t t' : FileTree) : Prop := P t → P t'

instance {γ : Type} (see : FileTree → γ) : Std.Refl (Same see) := ⟨fun _ => rfl⟩

instance {γ : Type} (see : FileTree → γ) : IsTrans FileTree (Same see) :=
  ⟨fun _ _ _ h h' => h'.trans h⟩

instance (P : FileTree → Prop) : Std.Refl (Passes P) := ⟨fun _ h => h⟩

instance (P : FileTree → Prop) : IsTrans FileTree (Passes P) := ⟨fun _ _ _ h h' => h' ∘ h⟩

/-- Work that leaves something seen of the tree as it is. -/
abbrev Keeps {γ : Type} (see : FileTree → γ) (w : Work α) : Prop := Relates (Same see) w

namespace Relates

variable {R : FileTree → FileTree → Prop}

/-- Read off for one run: the trees before and after a run are related. -/
theorem of_on {w : Work α} {t t' : FileTree} {r : Except Failure α} (h : Relates R w)
    (heq : w.on t = (r, t')) : R t t' := by
  have ht := h t
  rw [heq] at ht
  exact ht

theorem pure [Std.Refl R] (a : α) : Relates R (pure a : Work α) := fun t => Std.Refl.refl t

theorem throw [Std.Refl R] (e : Failure) : Relates R (throw e : Work α) := fun t => Std.Refl.refl t

/-- What relates the trees of two steps relates those of both, one after the other. -/
theorem bind [IsTrans FileTree R] {w : Work α} {f : α → Work β} (hw : Relates R w)
    (hf : ∀ a, Relates R (f a)) : Relates R (w >>= f) := by
  intro t
  have hfirst := hw t
  rw [on_bind]
  cases heq : w.on t with
  | mk r t' =>
    rw [heq] at hfirst
    cases r with
    | error e => exact hfirst
    | ok a => exact IsTrans.trans t t' _ hfirst (hf a t')

/-- The handler goes on with the tree that the failed step left, not with the first one. -/
theorem tryCatch [IsTrans FileTree R] {w : Work α} {f : Failure → Work α}
    (hw : Relates R w) (hf : ∀ e, Relates R (f e)) : Relates R (tryCatch w f) := by
  intro t
  have hfirst := hw t
  rw [on_tryCatch]
  cases heq : w.on t with
  | mk r t' =>
    rw [heq] at hfirst
    cases r with
    | error e => exact IsTrans.trans t t' _ hfirst (hf e t')
    | ok a => exact hfirst

/-- The rest of the work counts only for the location that the path names. -/
theorem resolve_bind [Std.Refl R] {path : String} {f : Location → Work β}
    (hf : Relates R (f (FileTree.locate path))) : Relates R (resolve path >>= f) := by
  intro t
  rw [on_bind]
  have htree : ((resolve path).on t).2 = t := by rw [on_resolve]
  cases heq : (resolve path).on t with
  | mk r t' =>
    cases r with
    | error e =>
      rw [heq] at htree
      subst htree
      exact Std.Refl.refl t'
    | ok l =>
      obtain ⟨rfl, rfl⟩ := eq_of_on_resolve heq
      exact hf t'

/-- A `change` needs a look at its successes only: where it fails the tree stays. -/
theorem change [Std.Refl R] {f : FileTree → Except FileTree.Fault FileTree}
    (h : ∀ t t', f t = .ok t' → R t t') : Relates R (Work.change f) := by
  intro t
  rw [on_change]
  cases hf : f t with
  | error fault => exact Std.Refl.refl t
  | ok t' => exact h t t' hf

theorem modify {f : FileTree → FileTree} (h : ∀ t, R t (f t)) :
    Relates R (modify f : Work Unit) := h

theorem makeDirs {path : String} (h : ∀ t : FileTree, R t (t.makeDirs path).2) :
    Relates R (Work.makeDirs path) := by
  intro t
  rw [on_makeDirs]
  exact h t

/-- A step for each of `xs`: the relation holds along the whole list if it holds for each.
-/
theorem forM [Std.Refl R] [IsTrans FileTree R] {δ : Type} {f : δ → Work Unit} {xs : List δ}
    (h : ∀ x ∈ xs, Relates R (f x)) : Relates R (xs.forM f) := by
  induction xs with
  | nil => exact pure ()
  | cons x xs ih =>
    show Relates R (f x >>= fun _ => xs.forM f)
    exact (h x List.mem_cons_self).bind fun _ => ih fun y hy => h y (List.mem_cons_of_mem _ hy)

end Relates

/-! ## §3. Faults. -/

/-- The work fails for the sake of a file operation only. -/
def FailsOnFiles (w : Work α) : Prop :=
  ∀ t e, (w.on t).1 = .error e → ∃ fault, e = .files fault

namespace FailsOnFiles

/-- Two steps that fail on files only do so together. -/
theorem bind {w : Work α} {f : α → Work β} (hw : FailsOnFiles w)
    (hf : ∀ a, FailsOnFiles (f a)) : FailsOnFiles (w >>= f) := by
  intro t e h
  rw [on_bind] at h
  cases heq : w.on t with
  | mk r t' =>
    rw [heq] at h
    cases r with
    | error e' =>
      cases h
      exact hw t e (by rw [heq])
    | ok a => exact hf a t' e h

/-- The faults of `Work.change` are wrapped as `Failure.files`, whatever the function does.
-/
theorem change (f : FileTree → Except FileTree.Fault FileTree) :
    FailsOnFiles (Work.change f) := by
  intro t e h
  rw [on_change] at h
  cases hf : f t with
  | error fault =>
    rw [hf] at h
    cases h
    exact ⟨fault, rfl⟩
  | ok t' =>
    rw [hf] at h
    cases h

/-- A loop fails on files only if its body does. -/
theorem forM {δ : Type} {f : δ → Work Unit} (h : ∀ x, FailsOnFiles (f x)) {xs : List δ} :
    FailsOnFiles (xs.forM f) := by
  induction xs with
  | nil => exact fun _ _ h => nomatch h
  | cons x xs ih => exact (h x).bind fun _ => ih

/-- Directories that cannot be made are a matter of files. -/
theorem makeDirs (path : String) : FailsOnFiles (Work.makeDirs path) := by
  intro t e h
  rw [on_makeDirs] at h
  cases hmade : (t.makeDirs path).1 with
  | error fault =>
    rw [hmade] at h
    cases h
    exact ⟨fault, rfl⟩
  | ok u =>
    rw [hmade] at h
    cases h

/-- A path that leads nowhere is a matter of files as well. -/
theorem resolve (path : String) : FailsOnFiles (Work.resolve path) := by
  intro t e h
  rw [on_resolve] at h
  cases hfound : t.resolve path with
  | error fault =>
    rw [hfound] at h
    cases h
    exact ⟨fault, rfl⟩
  | ok l =>
    rw [hfound] at h
    cases h

end FailsOnFiles

end SwapBridge.Release.Work
