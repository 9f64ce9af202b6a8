/-
  SwapBridge.Proofs.Broker
  ────────────────────────
  **ONE TENANT FOR EACH STORE.**

  The broker looks a tenant up, makes it where it is missing, looks again where
  another was faster, and bakes a macaroon.  Each of these calls may fail or be
  answered wrongly.  Whatever happens, no tenant is changed, and a credential
  is for the tenant that the daemon knows by the store's name.

    • `Adds` — what one onboarding may do to the tenants,
    • `Issued` — what a credential stands for,
    • `ensureTenant_cases` — one onboarding, whatever the daemon answers,
    • `logs_ensureTenant` — its calls, all of them the administrator's,
    • `tenants_of_attempts` — any number of them, one after the other.
-/
import Mathlib.Control.Monad.Basic
import SwapBridge.Broker
import SwapBridge.Proofs.Daemon
import SwapBridge.Proofs.Table

namespace SwapBridge.Broker

variable {name store : String} {c : Rpc.Connection} {d : Daemon} {t t' : Table UInt64}

/-! ## §1. The calls of one onboarding. -/

/-- No tenant is changed, and none is added but under one name. -/
structure Adds (name : String) (t t' : Table UInt64) : Prop where
  kept : ∀ n id, t.get? n = some id → t'.get? n = some id
  others : ∀ n, n ≠ name → t'.get? n = t.get? n

theorem Adds.refl (name : String) (t : Table UInt64) : Adds name t t :=
  ⟨fun _ _ h => h, fun _ _ => rfl⟩

/-- A tenant under a name that is free adds it, and keeps every other name. -/
theorem Adds.insert (h : t.get? name = none) (id : UInt64) : Adds name t (t.insert name id) where
  kept n k hk := by
    have hne : n ≠ name := by
      rintro rfl
      cases h.symm.trans hk
    rw [Table.get?_insert, if_neg hne]
    exact hk
  others n hne := by rw [Table.get?_insert, if_neg hne]

/-- `findTenant` adds no tenant, and whom it finds is in the table under that name. -/
theorem findTenant_cases (c : Rpc.Connection) (name : String) (d : Daemon) :
    (findTenant c name d).2.tenants = d.tenants
      ∧ ∀ t, (findTenant c name d).1 = .ok (some t) → d.tenants.get? name = some t.id := by
  obtain ⟨hsame, hfound⟩ := Daemon.getTenant_cases c name d
  unfold findTenant
  cases h : d.getTenant c name with
  | mk answer after =>
    rw [h] at hsame hfound
    cases answer with
    | ok t =>
      refine ⟨hsame, fun u hu => ?_⟩
      injection hu with hu
      injection hu with hu
      exact hu ▸ hfound t rfl
    | error s =>
      dsimp only
      split
      · exact ⟨hsame, fun u hu => by cases hu⟩
      · exact ⟨hsame, fun u hu => by cases hu⟩

/-- A step of an onboarding: it adds the store's tenant at most, and the tenant
that it names is the one that the daemon has under that name. -/
def Onboards (name : String) (d : Daemon) (r : Except Error Tenant × Daemon) : Prop :=
  Adds name d.tenants r.2.tenants ∧ ∀ t, r.1 = .ok t → r.2.tenants.get? name = some t.id

/-- A failure onboards nobody if it left the table of tenants alone. -/
theorem Onboards.of_error {e : Error} {after : Daemon} (h : after.tenants = d.tenants) :
    Onboards name d (.error e, after) :=
  ⟨h ▸ Adds.refl name d.tenants, fun t ht => by cases ht⟩

/-- A tenant that was in the table already is onboarded as it is. -/
theorem Onboards.of_found {u : Tenant} {after : Daemon} (h : after.tenants = d.tenants)
    (hu : d.tenants.get? name = some u.id) : Onboards name d (.ok u, after) := by
  refine ⟨h ▸ Adds.refl name d.tenants, fun t ht => ?_⟩
  injection ht with ht
  exact ht ▸ h.symm ▸ hu

/-- Steps that come after others without an effect on the tenants. -/
theorem Onboards.of_tenants_eq {before : Daemon} {r : Except Error Tenant × Daemon}
    (h : before.tenants = d.tenants) (hr : Onboards name before r) : Onboards name d r := by
  unfold Onboards at hr ⊢
  rw [← h]
  exact hr

/-- A tenant that is made was missing; one that is there already is looked up. -/
theorem onboards_makeTenant (c : Rpc.Connection) (name : String) (d : Daemon) :
    Onboards name d (makeTenant c name d) := by
  unfold makeTenant
  rcases Daemon.createTenant_cases c name d with ⟨s, made, h, hsame⟩ | ⟨u, made, h, hfree, hmade⟩
  · rw [h]
    dsimp only
    split
    · -- the tenant was there, or the daemon only says so
      obtain ⟨hkept, hfound⟩ := findTenant_cases c name made
      cases hf : findTenant c name made with
      | mk answer after =>
        rw [hf] at hkept hfound
        cases answer with
        | error e => exact .of_error (hkept.trans hsame)
        | ok found =>
          cases found with
          | none => exact .of_error (hkept.trans hsame)
          | some u => exact .of_found (hkept.trans hsame) (hsame ▸ hfound u rfl)
    · exact .of_error hsame
  · rw [h]
    refine ⟨hmade ▸ Adds.insert hfree u.id, fun t ht => ?_⟩
    injection ht with ht
    show made.tenants.get? name = _
    rw [hmade, Table.get?_insert, if_pos rfl, ht]

/-- `tenantOf` looks for the tenant, makes it where there is none, and looks again where
another one was faster: each way ends in the tenant of that name. -/
theorem onboards_tenantOf (c : Rpc.Connection) (store : String) (d : Daemon) :
    Onboards (tenantName store) d (tenantOf c store d) := by
  unfold tenantOf
  obtain ⟨hkept, hfound⟩ := findTenant_cases c (tenantName store) d
  cases hf : findTenant c (tenantName store) d with
  | mk answer after =>
    rw [hf] at hkept hfound
    cases answer with
    | error e => exact .of_error hkept
    | ok found =>
      cases found with
      | none => exact .of_tenants_eq hkept (onboards_makeTenant c (tenantName store) after)
      | some u => exact .of_found hkept (hfound u rfl)

/-! ## §2. One onboarding. -/

/-- A credential of a store, and the daemon that just issued it. -/
structure Issued (health : Supervisor.State) (store : String) (cred : Credential) (d : Daemon) :
    Prop where
  /-- The daemon knows the store's tenant by the id of the credential. -/
  held : d.tenants.get? (tenantName store) = some cred.tenantId
  /-- The last call was for a macaroon of that id, to read and write. -/
  asked : ∃ c, health.admin? = some c
    ∧ d.calls.getLast? = some (Daemon.entry c (.bakeMacaroon cred.tenantId [.read, .write]))
  /-- The token is the macaroon that was baked then. -/
  token_eq : cred.token = Hex.ofString (Daemon.macaroonText cred.tenantId d.macaroons)
  scope_eq : cred.scope = .readWrite

/-- **One onboarding**, whatever the daemon answers to its calls: no tenant is
changed, the store's own is added at most, and a credential is for that one. -/
theorem ensureTenant_cases (health : Supervisor.State) (store : String) (d : Daemon) :
    Adds (tenantName store) d.tenants (ensureTenant health store d).2.tenants
      ∧ ∀ cred, (ensureTenant health store d).1 = .ok cred →
        Issued health store cred (ensureTenant health store d).2 := by
  unfold ensureTenant admin
  cases hc : health.admin? with
  | none => exact ⟨Adds.refl _ _, fun cred h => by cases h⟩
  | some c =>
    obtain ⟨hadds, hheld⟩ := onboards_tenantOf c store d
    dsimp only
    cases ht : tenantOf c store d with
    | mk answer found =>
      rw [ht] at hadds hheld
      cases answer with
      | error e => exact ⟨hadds, fun cred h => by cases h⟩
      | ok u =>
        dsimp only
        rcases Daemon.bakeMacaroon_cases c u.id [.read, .write] found with ⟨s, after, h, hsame⟩ | h
        · rw [h]
          exact ⟨show Adds _ _ after.tenants from hsame.symm ▸ hadds, fun cred hcred => by
            cases hcred⟩
        · rw [h]
          refine ⟨hadds, fun cred hcred => ?_⟩
          injection hcred with hcred
          subst hcred
          exact ⟨hheld u rfl, ⟨c, hc, List.getLast?_concat⟩, rfl, rfl⟩

/-! ## §3. The calls of an onboarding. -/

/-- A call that the administrator makes for a store: its tenant is looked up or
made, or a macaroon is baked. -/
def Onboarding (c : Rpc.Connection) (store : String) (call : Daemon.Call) : Prop :=
  call = Daemon.entry c (.getTenant (tenantName store))
    ∨ call = Daemon.entry c (.createTenant (tenantName store))
    ∨ ∃ id, call = Daemon.entry c (.bakeMacaroon id [.read, .write])

/-- To find a tenant takes calls of `getTenant` with its name only. -/
theorem logs_findTenant (c : Rpc.Connection) (name : String) (d : Daemon) :
    Daemon.Logs (· = Daemon.entry c (.getTenant name)) d (findTenant c name d).2 := by
  have hasked : Daemon.Logs (· = Daemon.entry c (.getTenant name)) d (d.getTenant c name).2 :=
    Daemon.logs_read c _ _ d
  unfold findTenant
  cases h : d.getTenant c name with
  | mk answer after =>
    rw [h] at hasked
    cases answer with
    | ok t => exact hasked
    | error s =>
      dsimp only
      split <;> exact hasked

/-- To make a tenant takes calls that an `Onboarding` of the store allows. -/
theorem logs_makeTenant (c : Rpc.Connection) (store : String) (d : Daemon) :
    Daemon.Logs (Onboarding c store) d (makeTenant c (tenantName store) d).2 := by
  have hmade : Daemon.Logs (Onboarding c store) d (d.createTenant c (tenantName store)).2 := by
    refine (Daemon.logs_serve (fun d => ?_) c _ d).mono fun call hcall => .inr (.inl hcall)
    split <;> rfl
  have hfound := fun d => (logs_findTenant c (tenantName store) d).mono
    (fun call hcall => (.inl hcall : Onboarding c store call))
  unfold makeTenant
  cases h : d.createTenant c (tenantName store) with
  | mk answer made =>
    rw [h] at hmade
    cases answer with
    | ok t => exact hmade
    | error s =>
      dsimp only
      split
      · have hboth := hmade.trans (hfound made)
        cases hf : findTenant c (tenantName store) made with
        | mk answer after =>
          rw [hf] at hboth
          rcases answer with e | _ | t <;> exact hboth
      · exact hmade

/-- Both together: finding and making a tenant are parts of one onboarding. -/
theorem logs_tenantOf (c : Rpc.Connection) (store : String) (d : Daemon) :
    Daemon.Logs (Onboarding c store) d (tenantOf c store d).2 := by
  have hfound : Daemon.Logs (Onboarding c store) d (findTenant c (tenantName store) d).2 :=
    (logs_findTenant c (tenantName store) d).mono fun call hcall => .inl hcall
  unfold tenantOf
  cases hf : findTenant c (tenantName store) d with
  | mk answer after =>
    rw [hf] at hfound
    rcases answer with e | _ | t
    · exact hfound
    · exact hfound.trans (logs_makeTenant c store after)
    · exact hfound

/-- **The calls of an onboarding are the administrator's.** -/
theorem logs_ensureTenant (health : Supervisor.State) (store : String) (d : Daemon) :
    Daemon.Logs (fun call => ∃ c, health.admin? = some c ∧ Onboarding c store call) d
      (ensureTenant health store d).2 := by
  unfold ensureTenant admin
  cases hc : health.admin? with
  | none => exact .of_eq rfl
  | some c =>
    refine Daemon.Logs.mono (P := Onboarding c store) ?_ fun call hcall => ⟨c, rfl, hcall⟩
    have hfound := logs_tenantOf c store d
    dsimp only
    cases ht : tenantOf c store d with
    | mk answer found =>
      rw [ht] at hfound
      cases answer with
      | error e => exact hfound
      | ok t =>
        have hbaked : Daemon.Logs (Onboarding c store) found
            (found.bakeMacaroon c t.id [.read, .write]).2 :=
          (Daemon.logs_serve (fun _ => rfl) c _ found).mono fun call hcall =>
            .inr (.inr ⟨t.id, hcall⟩)
        have hall := hfound.trans hbaked
        dsimp only
        cases hb : found.bakeMacaroon c t.id [.read, .write] with
        | mk answer after =>
          rw [hb] at hall
          cases answer <;> exact hall

/-- Enabling a store calls the daemon as an onboarding does, or not at all. -/
theorem daemon_enable (health : Supervisor.State) (id : String) (mode : Mode)
    (wallet : Option WalletRef) (s : Store) (d : Daemon) :
    (enable health id mode wallet s d).2.2 = d
      ∨ (enable health id mode wallet s d).2.2 = (ensureTenant health id d).2 := by
  have hcredential : (credentialFor health id mode s d).2 = d
      ∨ (credentialFor health id mode s d).2 = (ensureTenant health id d).2 := by
    unfold credentialFor
    cases mode with
    | standalone => exact .inr rfl
    | rebalance =>
      dsimp only
      cases s.rebalanceStore with
      | error fault => exact .inl rfl
      | ok holder =>
        dsimp only
        split <;> exact .inl rfl
  unfold enable
  cases admin health with
  | error e => exact .inl rfl
  | ok c =>
    dsimp only
    cases hcred : credentialFor health id mode s d with
    | mk answer after =>
      rw [hcred] at hcredential
      cases answer <;> exact hcredential

/-! ## §4. Any number of them. -/

/-- A store to be onboarded, and the state of the supervisor at that moment. -/
structure Attempt where
  health : Supervisor.State
  store : String

def Attempt.run (a : Attempt) (d : Daemon) : Except Error Credential × Daemon :=
  ensureTenant a.health a.store d

/-- The daemon after attempts, one after the other. -/
def onboarded : List Attempt → Daemon → Daemon
  | [], d => d
  | a :: as, d => onboarded as (a.run d).2

/-- The credentials that the attempts were answered with, by store. -/
def granted : List Attempt → Daemon → List (String × Credential)
  | [], _ => []
  | a :: as, d =>
    match (a.run d).1 with
    | .ok cred => (a.store, cred) :: granted as (a.run d).2
    | .error _ => granted as (a.run d).2

/-- Attempts are made one after the other. -/
theorem onboarded_append (as bs : List Attempt) (d : Daemon) :
    onboarded (as ++ bs) d = onboarded bs (onboarded as d) := by
  induction as generalizing d with
  | nil => rfl
  | cons a as ih => exact ih (a.run d).2

/-- A tenant stays as it is, however many attempts follow. -/
theorem get_onboarded {n : String} {id : UInt64} (as : List Attempt) (d : Daemon)
    (h : d.tenants.get? n = some id) : (onboarded as d).tenants.get? n = some id := by
  induction as generalizing d with
  | nil => exact h
  | cons a as ih =>
    -- each attempt may add one tenant, and keeps those that are there
    apply ih
    exact (ensureTenant_cases a.health a.store d).1.kept n id h

/-- **Every credential is for the tenant that the daemon has in the end.** -/
theorem held_of_granted {cred : Credential} {as : List Attempt} {d : Daemon}
    (h : (store, cred) ∈ granted as d) :
    (onboarded as d).tenants.get? (tenantName store) = some cred.tenantId := by
  induction as generalizing d with
  | nil => cases h
  | cons a as ih =>
    unfold granted at h
    cases hr : (a.run d).1 with
    | error e =>
      rw [hr] at h
      exact ih h
    | ok own =>
      rw [hr] at h
      rcases List.mem_cons.1 h with h | h
      · -- the tenant was there after this attempt and stays through the others
        injection h with hstore hcred
        subst hstore hcred
        exact get_onboarded as _ ((ensureTenant_cases a.health a.store d).2 cred hr).held
      · exact ih h

/-- Different names have different ids. -/
def NamesApart (t : Table UInt64) : Prop :=
  ∀ n n' id, t.get? n = some id → t.get? n' = some id → n = n'

/-- **TENANTS OF ANY ONBOARDINGS**, over any daemon, with any faults: an attempt
adds the tenant of its own store at most, and what it returns is a credential
for that tenant.  No tenant is ever changed.  All credentials of one store are
therefore for one tenant, and those of different stores are for different ones
as far as the daemon keeps its names apart. -/
theorem tenants_of_attempts (as : List Attempt) (d : Daemon) :
    (∀ before a after, as = before ++ a :: after →
      Adds (tenantName a.store) (onboarded before d).tenants
        (a.run (onboarded before d)).2.tenants
      ∧ ∀ cred, (a.run (onboarded before d)).1 = .ok cred →
        Issued a.health a.store cred (a.run (onboarded before d)).2)
    ∧ (∀ before after, as = before ++ after → ∀ n id,
      (onboarded before d).tenants.get? n = some id → (onboarded as d).tenants.get? n = some id)
    ∧ (∀ store cred cred', (store, cred) ∈ granted as d → (store, cred') ∈ granted as d →
      cred'.tenantId = cred.tenantId)
    ∧ (NamesApart (onboarded as d).tenants → ∀ store store' cred cred',
      (store, cred) ∈ granted as d → (store', cred') ∈ granted as d → store ≠ store' →
        cred.tenantId ≠ cred'.tenantId) := by
  refine ⟨fun before a after _ => ensureTenant_cases a.health a.store _, ?_, ?_, ?_⟩
  · rintro before after rfl n id h
    rw [onboarded_append]
    exact get_onboarded after _ h
  · intro store cred cred' h h'
    have hsame := (held_of_granted h).symm.trans (held_of_granted h')
    injection hsame with hsame
    exact hsame.symm
  · intro hapart store store' cred cred' h h' hne hid
    apply hne
    apply tenantName_inj.1
    exact hapart _ _ _ (held_of_granted h) (hid ▸ held_of_granted h')

/-- A daemon that denies a tenant it has, then says so, and that once will not
bake. -/
def denying : Daemon where
  address := "http://localhost:9002"
  tenants := Table.empty.insert "store-a" 7
  faults := [(.getTenant, [some ⟨.notFound, "tenant not found"⟩]),
    (.bakeMacaroon, [none, some ⟨.internal, "try again"⟩])]

/-- A supervisor with a connection to it. -/
def serving : Supervisor.State := .healthy ⟨"http://localhost:9002", "ad", none⟩

/-- Attempts for two stores, the last one for the store that was refused. -/
def attempts : List Attempt := [⟨serving, "a"⟩, ⟨serving, "b"⟩, ⟨serving, "a"⟩, ⟨serving, "b"⟩]

/-- The credential with the `n`th macaroon. -/
def nthCredential (tenant : UInt64) (n : Nat) : Credential :=
  ⟨tenant, Hex.ofString (Daemon.macaroonText tenant n), .readWrite⟩

/-- The attempts of the example and what each of them was granted, computed. -/
theorem granted_denying :
    granted attempts denying
        = [("a", nthCredential 7 1), ("a", nthCredential 7 2), ("b", nthCredential 3 3)]
      ∧ (onboarded attempts denying).tenants.entries = [("store-a", 7), ("store-b", 3)]
      ∧ (Attempt.run ⟨serving, "b"⟩ (onboarded (attempts.take 3) denying)).1
        = .ok (nthCredential 3 3) := by
  decide +kernel

theorem namesApart_denying : NamesApart (onboarded attempts denying).tenants := by
  intro n n' id h h'
  rw [Table.get?_eq_some_iff, granted_denying.2.1] at h h'
  simp only [List.mem_cons, Prod.mk.injEq, List.not_mem_nil, or_false] at h h'
  rcases h with ⟨rfl, rfl⟩ | ⟨rfl, rfl⟩
  · rcases h' with ⟨rfl, _⟩ | ⟨_, h'⟩
    · rfl
    · exact absurd h' (by decide)
  · rcases h' with ⟨_, h'⟩ | ⟨rfl, _⟩
    · exact absurd h' (by decide)
    · rfl

theorem tenants_of_attempts_denying :
    Issued serving "b" (nthCredential 3 3) (onboarded attempts denying)
      ∧ ("a", nthCredential 7 1) ∈ granted attempts denying
      ∧ ("a", nthCredential 7 2) ∈ granted attempts denying
      ∧ (nthCredential 7 2).tenantId = (nthCredential 7 1).tenantId
      ∧ NamesApart (onboarded attempts denying).tenants
      ∧ (nthCredential 7 1).tenantId ≠ (nthCredential 3 3).tenantId := by
  obtain ⟨hgranted, _, hlast⟩ := granted_denying
  obtain ⟨hcalls, _, hsame, hapart⟩ := tenants_of_attempts attempts denying
  have hfirst : ("a", nthCredential 7 1) ∈ granted attempts denying := by
    rw [hgranted]
    simp
  have hsecond : ("a", nthCredential 7 2) ∈ granted attempts denying := by
    rw [hgranted]
    simp
  have hother : ("b", nthCredential 3 3) ∈ granted attempts denying := by
    rw [hgranted]
    simp
  refine ⟨?_, hfirst, hsecond, hsame _ _ _ hfirst hsecond, namesApart_denying, ?_⟩
  · exact (hcalls (attempts.take 3) ⟨serving, "b"⟩ [] rfl).2 _ hlast
  · exact hapart namesApart_denying _ _ _ _ hfirst hother (by decide)

end SwapBridge.Broker
