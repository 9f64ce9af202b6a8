/-
  SwapBridge.Proofs.Store.Payments
  ────────────────────────────────
  **PAYMENTS AS A FINITE MAP.**

  A store file answers questions about payments from rows of text and numbers,
  by invoice and payment id.  Whoever asks cannot tell it from a map that has
  the payments themselves: a row that the store wrote is read back without a
  fault, and the order of the rows is that of the ids.

    • `PaymentMap`, `PaymentMap.Answers` — a map, and what it says to an operation,
    • `Answers.unique` — a map has one answer to give,
    • `Store.Represents` — the rows of a store are those of a map,
    • `answers_operation`, `answered_run` — one operation, and any number of them,
    • `run_eq_iff_answered` — the answers of a new store file are those of the map.
-/
import SwapBridge.Proofs.Ledger
import SwapBridge.Store

namespace SwapBridge

/-- What can be done with the payments of a store file. -/
inductive Store.Operation where
  | insert (invoice : String) (p : Payment)
  | update (invoice : String) (p : Payment)
  | get (invoice payment : String)
  | list (invoice : String)
  /-- Asks which invoice holds a payment. -/
  | holder (payment : String)
  deriving DecidableEq, Repr

/-- What is heard of it. -/
inductive Store.Answer where
  | inserted (fresh : Bool)
  | updated
  | payment (p : Option Payment)
  | payments (ps : List Payment)
  | holder (invoice : Option String)
  | failed (fault : Store.Fault)
  deriving DecidableEq, Repr

/-! ## §1. A map. -/

/-- Payments by their invoice and their own id. -/
abbrev PaymentMap : Type := String → String → Option Payment

namespace PaymentMap

def empty : PaymentMap := fun _ _ => none

/-- The map with a payment under an invoice, whatever stood there. -/
def put (m : PaymentMap) (invoice : String) (p : Payment) : PaymentMap :=
  fun i t => if i = invoice ∧ t = p.id then some p else m i t

/-- These are the payments of an invoice, each once and by ascending id. -/
structure Lists (m : PaymentMap) (invoice : String) (ps : List Payment) : Prop where
  ascending : ps.Pairwise fun p q => p.id < q.id
  mem_iff : ∀ p, p ∈ ps ↔ m invoice p.id = some p

/-- An invoice is the first of those that hold a payment id. -/
structure FirstHolds (m : PaymentMap) (payment invoice : String) : Prop where
  holds : ∃ p, m invoice payment = some p
  least : ∀ other p, m other payment = some p → invoice ≤ other

/-- **What a map says to an operation**, and the map afterwards. -/
inductive Answers (m : PaymentMap) : Store.Operation → Store.Answer → PaymentMap → Prop where
  | inserted {i : String} {p : Payment} (hnew : m i p.id = none) :
      Answers m (.insert i p) (.inserted true) (m.put i p)
  | taken {i : String} {p q : Payment} (hkey : m i p.id = some q) :
      Answers m (.insert i p) (.inserted false) m
  | updated {i : String} {p q : Payment} (hkey : m i p.id = some q) :
      Answers m (.update i p) .updated (m.put i p)
  | missing {i : String} {p : Payment} (hnew : m i p.id = none) :
      Answers m (.update i p) (.failed (.missingPayment i p.id)) m
  | found {i t : String} : Answers m (.get i t) (.payment (m i t)) m
  | listed {i : String} {ps : List Payment} (hlist : m.Lists i ps) :
      Answers m (.list i) (.payments ps) m
  | held {i t : String} (hfirst : m.FirstHolds t i) : Answers m (.holder t) (.holder (some i)) m
  | unheld {t : String} (hnone : ∀ i, m i t = none) : Answers m (.holder t) (.holder none) m

/-- What a map says to operations that come one after the other. -/
inductive Answered : PaymentMap → List Store.Operation → List Store.Answer → PaymentMap → Prop where
  | nil {m : PaymentMap} : Answered m [] [] m
  | cons {m m' m'' : PaymentMap} {op : Store.Operation} {ops : List Store.Operation}
      {answer : Store.Answer} {answers : List Store.Answer} (hfirst : m.Answers op answer m')
      (hrest : Answered m' ops answers m'') : Answered m (op :: ops) (answer :: answers) m''

variable {m m' m'' : PaymentMap}

/-- The payments of an invoice can be listed in one way. -/
theorem Lists.unique {i : String} {ps qs : List Payment} (hp : m.Lists i ps) (hq : m.Lists i qs) :
    ps = qs := by
  -- both are sorted by id, and have the same payments
  refine List.Perm.eq_of_pairwise ?_ hp.ascending hq.ascending ?_
  · intro p q _ _ hpq hqp
    exact absurd (String.lt_trans hpq hqp) (String.lt_irrefl _)
  · have hnodup : ∀ l : List Payment, l.Pairwise (fun p q => p.id < q.id) → l.Nodup := by
      intro l h
      refine h.imp ?_
      rintro p q hlt rfl
      exact String.lt_irrefl _ hlt
    rw [List.perm_ext_iff_of_nodup (hnodup ps hp.ascending) (hnodup qs hq.ascending)]
    intro p
    rw [hp.mem_iff, hq.mem_iff]

/-- At most one invoice is the first to hold a payment. -/
theorem FirstHolds.unique {t i j : String} (hi : m.FirstHolds t i) (hj : m.FirstHolds t j) :
    i = j := by
  obtain ⟨p, hp⟩ := hi.holds
  obtain ⟨q, hq⟩ := hj.holds
  exact String.le_antisymm (hi.least j q hq) (hj.least i p hp)

/-- **A map has one answer to give**, and is one map afterwards. -/
theorem Answers.unique {op : Store.Operation} {answer answer' : Store.Answer}
    (h : m.Answers op answer m') (h' : m.Answers op answer' m'') :
    answer = answer' ∧ m' = m'' := by
  -- two ways to answer one operation differ in whether a key is there
  cases h with
  | inserted hnew =>
    cases h' with
    | inserted => exact ⟨rfl, rfl⟩
    | taken hkey => rw [hnew] at hkey; cases hkey
  | taken hkey =>
    cases h' with
    | inserted hnew => rw [hnew] at hkey; cases hkey
    | taken => exact ⟨rfl, rfl⟩
  | updated hkey =>
    cases h' with
    | updated => exact ⟨rfl, rfl⟩
    | missing hnew => rw [hnew] at hkey; cases hkey
  | missing hnew =>
    cases h' with
    | updated hkey => rw [hnew] at hkey; cases hkey
    | missing => exact ⟨rfl, rfl⟩
  | found =>
    cases h'
    exact ⟨rfl, rfl⟩
  | listed hlist =>
    cases h' with
    | listed hlist' => exact ⟨by rw [hlist.unique hlist'], rfl⟩
  | held hfirst =>
    cases h' with
    | held hfirst' => exact ⟨by rw [hfirst.unique hfirst'], rfl⟩
    | unheld hnone =>
      obtain ⟨p, hp⟩ := hfirst.holds
      rw [hnone] at hp
      cases hp
  | unheld hnone =>
    cases h' with
    | held hfirst =>
      obtain ⟨p, hp⟩ := hfirst.holds
      rw [hnone] at hp
      cases hp
    | unheld => exact ⟨rfl, rfl⟩

/-- **The abstract map has one answer** for each operation, and so for any list of them. -/
theorem Answered.unique {ops : List Store.Operation} {answers answers' : List Store.Answer}
    (h : Answered m ops answers m') (h' : Answered m ops answers' m'') :
    answers = answers' := by
  induction h generalizing answers' m'' with
  | nil =>
    cases h'
    rfl
  | cons hfirst _ ih =>
    cases h' with
    | cons hfirst' hrest' =>
      obtain ⟨rfl, rfl⟩ := hfirst.unique hfirst'
      rw [ih hrest']

/-- The only fault that is ever heard of is the update of a payment that is not there. -/
theorem Answered.missing_of_failed {ops : List Store.Operation} {answers : List Store.Answer}
    {fault : Store.Fault} (h : Answered m ops answers m') (hmem : .failed fault ∈ answers) :
    ∃ i p, .update i p ∈ ops ∧ fault = .missingPayment i p.id := by
  induction h with
  | nil => cases hmem
  | cons hfirst _ ih =>
    rcases List.mem_cons.1 hmem with heq | hmem
    · cases hfirst with
      | missing => cases heq; exact ⟨_, _, List.mem_cons_self, rfl⟩
      | _ => cases heq
    · obtain ⟨i, p, hop, hfault⟩ := ih hmem
      exact ⟨i, p, List.mem_cons_of_mem _ hop, hfault⟩

end PaymentMap

/-! ## §2. Rows and the payments in them. -/

/-- Payments of one id are told apart by their rows. -/
theorem Ledger.Row.ofPayment_inj {p q : Payment} (hid : p.id = q.id)
    (hrow : Row.ofPayment p = Row.ofPayment q) : p = q := by
  have hp := Row.read_ofPayment p
  rw [hrow, hid, Row.read_ofPayment] at hp
  exact (Except.ok.inj hp).symm

/-- Rows of payments are read one after the other. -/
theorem Ledger.mapM_read (ps : List Payment) :
    (ps.map fun p => (p.id, Row.ofPayment p)).mapM (fun (e : String × Row) => e.2.read e.1)
      = .ok ps := by
  induction ps with
  | nil => rfl
  | cons p ps ih =>
    rw [List.map_cons, List.mapM_cons, ih, Row.read_ofPayment]
    rfl

namespace Store

open Ledger

variable {s : Store} {m : PaymentMap}

/-! ## §3. A store file and a map. -/

/-- The rows of a store file are those of the payments of a map. -/
structure Represents (s : Store) (m : PaymentMap) : Prop where
  row_eq : ∀ i t, s.ledger.row? i t = (m i t).map Row.ofPayment
  id_eq : ∀ i t p, m i t = some p → p.id = t

/-- An empty ledger represents the empty map. -/
theorem represents_empty : Represents .empty .empty where
  row_eq _ _ := rfl
  id_eq _ _ _ h := by cases h

/-- A payment that is put into both stays the same in both. -/
theorem Represents.put (h : s.Represents m) (i : String) (p : Payment) :
    Represents { s with ledger := s.ledger.putRow i p.id (.ofPayment p) } (m.put i p) where
  row_eq j t := by
    rw [row?_putRow]
    unfold PaymentMap.put
    by_cases hkey : j = i ∧ t = p.id
    · rw [if_pos hkey, if_pos hkey]
      rfl
    · rw [if_neg hkey, if_neg hkey]
      exact h.row_eq j t
  id_eq j t q hq := by
    unfold PaymentMap.put at hq
    by_cases hkey : j = i ∧ t = p.id
    · rw [if_pos hkey] at hq
      cases hq
      exact hkey.2.symm
    · rw [if_neg hkey] at hq
      exact h.id_eq j t q hq

/-- **A payment is read back as it is in the map.** -/
theorem payment_of_represents (h : s.Represents m) (i t : String) :
    s.payment i t = .ok (m i t) := by
  unfold Store.payment Ledger.get
  rw [h.row_eq]
  cases hm : m i t with
  | none => rfl
  | some p =>
    have hread := Row.read_ofPayment p
    rw [h.id_eq i t p hm] at hread
    show (((Row.ofPayment p).read t).map some).mapError _ = _
    rw [hread]
    rfl

/-- The rows of an invoice are those of payments, under their ids. -/
theorem entries_of_represents (h : s.Represents m) (i : String) :
    ∃ ps : List Payment, (s.ledger.ofInvoice i).entries
      = ps.map fun p => (p.id, Row.ofPayment p) := by
  -- a list of which every member is a payment's row is the image of a list of payments
  have hrows : ∀ es : List (String × Row), (∀ e ∈ es, ∃ p : Payment, e = (p.id, Row.ofPayment p)) →
      ∃ ps : List Payment, es = ps.map fun p => (p.id, Row.ofPayment p) := by
    intro es
    induction es with
    | nil => exact fun _ => ⟨[], rfl⟩
    | cons e es ih =>
      intro hes
      obtain ⟨p, rfl⟩ := hes e List.mem_cons_self
      obtain ⟨ps, rfl⟩ := ih fun d hd => hes d (List.mem_cons_of_mem _ hd)
      exact ⟨p :: ps, rfl⟩
  refine hrows _ fun e he => ?_
  obtain ⟨t, row⟩ := e
  have hrow : s.ledger.row? i t = some row := Table.get?_eq_some_iff.2 he
  rw [h.row_eq] at hrow
  obtain ⟨p, hp, rfl⟩ := Option.map_eq_some_iff.1 hrow
  exact ⟨p, by rw [h.id_eq i t p hp]⟩

/-- **A listing has each payment of the invoice once**, by ascending id. -/
theorem payments_of_represents (h : s.Represents m) (i : String) :
    ∃ ps, s.payments i = .ok ps ∧ m.Lists i ps := by
  obtain ⟨ps, hentries⟩ := entries_of_represents h i
  refine ⟨ps, ?_, ?_, fun p => ?_⟩
  · unfold Store.payments Ledger.list
    rw [hentries, mapM_read]
    rfl
  · have hascending := (s.ledger.ofInvoice i).ascending
    rw [hentries, List.pairwise_map] at hascending
    exact hascending
  · have hmem : p ∈ ps ↔ s.ledger.row? i p.id = some (Row.ofPayment p) := by
      unfold Ledger.row?
      rw [Table.get?_eq_some_iff, hentries, List.mem_map]
      constructor
      · intro hp
        exact ⟨p, hp, rfl⟩
      · rintro ⟨q, hq, heq⟩
        injection heq with hid hrow
        rw [← Row.ofPayment_inj hid hrow]
        exact hq
    -- a row with the payment in it was written for this payment and no other
    rw [hmem, h.row_eq]
    constructor
    · intro hrow
      obtain ⟨q, hq, heq⟩ := Option.map_eq_some_iff.1 hrow
      rw [hq, Row.ofPayment_inj (h.id_eq i p.id q hq) heq]
    · intro hp
      rw [hp]
      rfl

/-- An entry of the ledger has a row for a payment id exactly if the map has a payment. -/
theorem contains_of_represents (h : s.Represents m) {i t : String} {rows : Table Row}
    (hmem : (i, rows) ∈ s.ledger.rows.entries) : rows.contains t = true ↔ ∃ p, m i t = some p := by
  rw [contains_of_mem hmem, h.row_eq, Option.isSome_map, Option.isSome_iff_exists]

/-- An invoice with a payment has an entry in the ledger. -/
theorem exists_entry (h : s.Represents m) {i t : String} {p : Payment} (hp : m i t = some p) :
    ∃ rows, (i, rows) ∈ s.ledger.rows.entries := by
  have hrow : s.ledger.row? i t = some (Row.ofPayment p) := by
    rw [h.row_eq, hp]
    rfl
  cases hrows : s.ledger.rows.get? i with
  | none => simp [Ledger.row?, Ledger.ofInvoice, hrows] at hrow
  | some rows => exact ⟨rows, Table.get?_eq_some_iff.1 hrows⟩

/-- **The invoice that is found for a payment id is the first that holds it.** -/
theorem invoiceOf?_of_represents (h : s.Represents m) (t : String) :
    (∃ i, s.ledger.invoiceOf? t = some i ∧ m.FirstHolds t i)
      ∨ s.ledger.invoiceOf? t = none ∧ ∀ i, m i t = none := by
  unfold Ledger.invoiceOf?
  cases hfind : s.ledger.rows.entries.find? (fun e => e.2.contains t) with
  | none =>
    refine .inr ⟨rfl, fun i => ?_⟩
    cases hm : m i t with
    | none => rfl
    | some p =>
      obtain ⟨rows, hmem⟩ := exists_entry h hm
      exact absurd ((contains_of_represents h hmem).2 ⟨p, hm⟩) (List.find?_eq_none.1 hfind _ hmem)
  | some e =>
    obtain ⟨hcontains, before, after, hsplit, hbefore⟩ :=
      List.find?_eq_some_iff_append.1 hfind
    obtain ⟨i, rows⟩ := e
    have hmem : (i, rows) ∈ s.ledger.rows.entries := by
      rw [hsplit]
      exact List.mem_append_right _ List.mem_cons_self
    refine .inl ⟨i, rfl, (contains_of_represents h hmem).1 hcontains, fun j p hj => ?_⟩
    obtain ⟨others, hother⟩ := exists_entry h hj
    have hascending := s.ledger.rows.ascending
    rw [hsplit] at hother hascending
    -- entries before the one that was found do not hold the id, those after it are larger
    rcases List.mem_append.1 hother with hother | hother
    · have hno := hbefore _ hother
      rw [(contains_of_represents h (hsplit ▸ List.mem_append_left _ hother)).2 ⟨p, hj⟩] at hno
      cases hno
    · rcases List.mem_cons.1 hother with heq | hother
      · injection heq with heq
        subst heq
        exact String.le_refl j
      · have hlt : i < j :=
          (List.pairwise_cons.1 (List.pairwise_append.1 hascending).2.1).1 _ hother
        exact String.not_lt.1 fun hgt => String.lt_irrefl _ (String.lt_trans hlt hgt)

/-- A payment whose key is not in the map is written. -/
theorem insertPayment_of_new (h : s.Represents m) {i : String} {p : Payment}
    (hnew : m i p.id = none) : s.insertPayment i p
      = (true, { s with ledger := s.ledger.putRow i p.id (.ofPayment p) }) := by
  unfold insertPayment Ledger.insert
  rw [h.row_eq, hnew]
  rfl

/-- A payment whose key is in the map is not. -/
theorem insertPayment_of_taken (h : s.Represents m) {i : String} {p q : Payment}
    (hkey : m i p.id = some q) : s.insertPayment i p = (false, s) := by
  unfold insertPayment Ledger.insert
  rw [h.row_eq, hkey]
  rfl

/-- A payment that is there is written over. -/
theorem updatePayment_of_present (h : s.Represents m) {i : String} {p q : Payment}
    (hkey : m i p.id = some q) : s.updatePayment i p
      = .ok { s with ledger := s.ledger.putRow i p.id (.ofPayment p) } := by
  unfold updatePayment Ledger.update
  rw [h.row_eq, hkey]
  rfl

/-- A payment that is not there cannot be updated, and nothing is written. -/
theorem updatePayment_of_missing (h : s.Represents m) {i : String} {p : Payment}
    (hnew : m i p.id = none) : s.updatePayment i p = .error (.missingPayment i p.id) := by
  unfold updatePayment Ledger.update
  rw [h.row_eq, hnew]
  rfl

/-! ## §4. Operations. -/

/-- An operation on a store file. -/
def Operation.run : Operation → Store → Answer × Store
  | .insert i p, s =>
    let (fresh, s) := s.insertPayment i p
    (.inserted fresh, s)
  | .update i p, s =>
    match s.updatePayment i p with
    | .ok s => (.updated, s)
    | .error fault => (.failed fault, s)
  | .get i t, s =>
    match s.payment i t with
    | .ok p => (.payment p, s)
    | .error fault => (.failed fault, s)
  | .list i, s =>
    match s.payments i with
    | .ok ps => (.payments ps, s)
    | .error fault => (.failed fault, s)
  | .holder t, s => (.holder (s.ledger.invoiceOf? t), s)

/-- Operations one after the other, with their answers. -/
def run : List Operation → Store → List Answer × Store
  | [], s => ([], s)
  | op :: ops, s =>
    let (answer, s) := op.run s
    let (answers, s) := run ops s
    (answer :: answers, s)

/-- **One operation**: the store file answers as the map, and is that of the
map afterwards. -/
theorem answers_operation (h : s.Represents m) (op : Operation) :
    ∃ m', m.Answers op (op.run s).1 m' ∧ (op.run s).2.Represents m' := by
  -- each operation in the two cases of its key: taken or free
  cases op with
  | insert i p =>
    cases hkey : m i p.id with
    | none =>
      simp only [Operation.run, insertPayment_of_new h hkey]
      exact ⟨_, .inserted hkey, h.put i p⟩
    | some q =>
      simp only [Operation.run, insertPayment_of_taken h hkey]
      exact ⟨m, .taken hkey, h⟩
  | update i p =>
    cases hkey : m i p.id with
    | none =>
      simp only [Operation.run, updatePayment_of_missing h hkey]
      exact ⟨m, .missing hkey, h⟩
    | some q =>
      simp only [Operation.run, updatePayment_of_present h hkey]
      exact ⟨_, .updated hkey, h.put i p⟩
  | get i t =>
    simp only [Operation.run, payment_of_represents h]
    exact ⟨m, .found, h⟩
  | list i =>
    obtain ⟨ps, hps, hlist⟩ := payments_of_represents h i
    simp only [Operation.run, hps]
    exact ⟨m, .listed hlist, h⟩
  | holder t =>
    rcases invoiceOf?_of_represents h t with ⟨i, hi, hfirst⟩ | ⟨hi, hnone⟩
    · simp only [Operation.run, hi]
      exact ⟨m, .held hfirst, h⟩
    · simp only [Operation.run, hi]
      exact ⟨m, .unheld hnone, h⟩

/-- **Any number of operations**, one after the other. -/
theorem answered_run (h : s.Represents m) (ops : List Operation) :
    ∃ m', m.Answered ops (run ops s).1 m' ∧ (run ops s).2.Represents m' := by
  induction ops generalizing s m with
  | nil => exact ⟨m, .nil, h⟩
  | cons op ops ih =>
    obtain ⟨m', hfirst, h'⟩ := answers_operation h op
    obtain ⟨m'', hrest, h''⟩ := ih h'
    exact ⟨m'', .cons hfirst hrest, h''⟩

/-- **THE PAYMENTS OF A STORE FILE ARE A FINITE MAP.**  Whatever is done with
the payments of a new store file, its answers are those of a map from invoices
and payment ids to payments, and the map has no others to give.  No operation
fails but the update of a payment that is not there. -/
theorem run_eq_iff_answered (ops : List Operation) :
    (∀ answers, (run ops .empty).1 = answers ↔ ∃ m, PaymentMap.empty.Answered ops answers m)
    ∧ ∀ fault, .failed fault ∈ (run ops .empty).1 →
      ∃ i p, .update i p ∈ ops ∧ fault = .missingPayment i p.id := by
  obtain ⟨m, hanswered, _⟩ := answered_run represents_empty ops
  refine ⟨fun answers => ⟨?_, ?_⟩, fun fault hmem => hanswered.missing_of_failed hmem⟩
  · rintro rfl
    exact ⟨m, hanswered⟩
  · rintro ⟨m', hanswered'⟩
    exact hanswered.unique hanswered'

/-- A payment of as many minor units and decimals as there can be. -/
def widePayment : Payment where
  id := "tx-1"
  status := .processing
  amount := ⟨Nat.pow 2 128 - 1, 18, by decide, by decide⟩
  currency := "BTC"
  details := ⟨"swap-1", "tx-1", none, some ""⟩

/-- A payment id that two invoices come to hold, the later one first, and a third does not. -/
def sharedId : List Operation :=
  let settled := { widePayment with status := .settled }
  [.insert "inv-2" widePayment, .insert "inv-1" widePayment, .insert "inv-1" settled,
    .holder "tx-1", .update "inv-3" widePayment, .update "inv-2" settled, .get "inv-2" "tx-1",
    .list "inv-1"]

theorem answered_sharedId :
    (∃ m, PaymentMap.empty.Answered sharedId
      [.inserted true, .inserted true, .inserted false, .holder (some "inv-1"),
        .failed (.missingPayment "inv-3" "tx-1"), .updated,
        .payment (some { widePayment with status := .settled }), .payments [widePayment]] m)
    ∧ ∃ i p, .update i p ∈ sharedId
      ∧ Fault.missingPayment "inv-3" "tx-1" = .missingPayment i p.id :=
  ⟨((run_eq_iff_answered sharedId).1 _).1 (by decide +kernel),
    (run_eq_iff_answered sharedId).2 _ (by decide +kernel)⟩

end Store

end SwapBridge
