import OnlineBanking.AllThreads
import OnlineBanking.Seed

set_option autoImplicit false

/-! Every run of the bank is a run of the double-entry book: postings are its entries, and
everything else leaves it alone. Reconciliation, conservation and solvency follow from there. -/

namespace OnlineBanking

open Library

namespace Db.Kept

variable {db db' : Db}

lemma find (h : db.Kept db') (id : Uuid) :
    db'.accounts.find id = db.accounts.find id ∨ db.accounts.find id = none ∧
      ∃ a, db'.accounts.find id = some a ∧ a.isSystem = false ∧ a.availableBalance = 0 := by
  obtain ⟨opened, hrows, hopened⟩ := h.accounts
  cases hf : db.accounts.find id with
  | some a =>
    obtain ⟨hm, hid⟩ := Table.find_eq_some.mp hf
    exact .inl (Table.find_eq_some.mpr ⟨hrows ▸ List.mem_append_left _ hm, hid⟩)
  | none =>
    cases hf' : db'.accounts.find id with
    | none => exact .inl rfl
    | some a =>
      obtain ⟨hm, hid⟩ := Table.find_eq_some.mp hf'
      rcases List.mem_append.mp (hrows ▸ hm) with hm | hm
      · exact absurd hid (Table.find_eq_none.mp hf a hm)
      · exact .inr ⟨rfl, a, rfl, hopened a hm⟩

lemma book (h : db.Kept db') : db'.book = db.book := by
  have hbalance : db'.balance = db.balance := by
    funext id
    rcases h.find id with hf | ⟨hnone, a, ha, _, hzero⟩
    · simp [Db.balance, hf]
    · simp [Db.balance, hnone, ha, hzero]
  simp [Db.book, hbalance, h.ledgerEntries]

lemma isSystem_iff (h : db.Kept db') (id : Uuid) : db'.isSystem id ↔ db.isSystem id := by
  rcases h.find id with hf | ⟨hnone, a, ha, hsystem, _⟩
  · simp [Db.isSystem, hf]
  · simp [Db.isSystem, hnone, ha, hsystem]

end Db.Kept

namespace Db

@[simp] lemma book_addNotifications (db : Db) (ns : List Notification) :
    (db.addNotifications ns).book = db.book := by
  have hbalance : (db.addNotifications ns).balance = db.balance := by
    funext id
    simp [balance]
  simp [book, hbalance]

@[simp] lemma isSystem_addNotifications (db : Db) (ns : List Notification) (id : Uuid) :
    (db.addNotifications ns).isSystem id ↔ db.isSystem id := by
  simp [isSystem]

end Db

section Steps

variable {sha256 : String → String} {t : ℕ} {c : Call} {i : Inputs} {s s' : State}

structure SameMoney (db db' : Db) : Prop where
  book : db'.book = db.book
  ledgerEntries : db'.ledgerEntries = db.ledgerEntries
  transactions : db'.transactions = db.transactions
  merchants : db'.merchants = db.merchants
  isSystem : ∀ id, db'.isSystem id ↔ db.isSystem id

protected lemma SameMoney.refl (db : Db) : SameMoney db db := ⟨rfl, rfl, rfl, rfl, fun _ => Iff.rfl⟩

lemma SameMoney.addNotifications (db : Db) (ns : List Notification) :
    SameMoney db (db.addNotifications ns) := ⟨by simp, by simp, by simp, by simp, by simp⟩

lemma Db.Kept.sameMoney {db db' : Db} (h : db.Kept db') : SameMoney db db' :=
  ⟨h.book, h.ledgerEntries, h.transactions, h.merchants, h.isSystem_iff⟩

/-- What an action does to the money: nothing, or one posting of a payment or of a credit. -/
inductive Movement (sha256 : String → String) (t : ℕ) (c : Call) (s : State) (db' : Db) : Prop
  | none (same : SameMoney s.world.db db')
  | paid (payment : Payment) (result : ServiceResult PaymentBody) (p : Posting) (posted : Db)
      (due : Due t s c payment) (applied : p.Applied s.world.db posted)
      (pays : p.Pays s.world.db payment (payment.request.hash sha256) result)
      (same : SameMoney posted db')
  | credited (adminUserId accountId : Uuid) (dto : AdminCreditDto) (p : Posting) (posted : Db)
      (call : c = .creditAccount adminUserId accountId dto) (applied : p.Applied s.world.db posted)
      (credits : p.Credits s.world.db accountId dto) (same : SameMoney posted db')

theorem Effect.movement (h : Effect sha256 t c i s s') : Movement sha256 t c s s'.world.db := by
  cases h.onDb with
  | notified ns db _ => exact .none (db ▸ .addNotifications _ ns)
  | posted payment result p posted ns due _ applied pays db _ =>
    exact .paid payment result p posted due applied pays (db ▸ .addNotifications posted ns)
  | credited adminUserId accountId dto p posted ns call applied credits db =>
    exact .credited adminUserId accountId dto p posted call applied credits
      (db ▸ .addNotifications posted ns)
  | kept _ frame => exact .none frame.sameMoney

inductive Moves (db db' : Db) : Prop
  | none (same : SameMoney db db')
  | one (p : Posting) (posted : Db) (applied : p.Applied db posted)
      (funds : db.isSystem p.source.id ∨ p.transaction.amount ≤ db.balance p.source.id)
      (same : SameMoney posted db')

lemma Posting.Applied.source_balance {p : Posting} {db db' : Db} (h : p.Applied db db') :
    db.balance p.source.id = p.source.availableBalance := by
  simp [Db.balance, h.source_found]

lemma Movement.moves {db' : Db} (h : Movement sha256 t c s db') : Moves s.world.db db' := by
  cases h with
  | none same => exact .none same
  | paid payment result p posted _ applied pays same =>
    refine .one p posted applied (.inr ?_) same
    rw [applied.source_balance, pays.amount]
    exact pays.payable.funds
  | credited _ _ _ p posted _ applied credits same =>
    exact .one p posted applied (.inl ⟨_, applied.source_found, credits.creditable.source_system⟩)
      same

structure Explained (start db : Db) : Prop where
  reaches : Book.Reaches start.isSystem start.book db.book
  system : ∀ id, db.isSystem id ↔ start.isSystem id
  ledger : start.ledgerEntries.rows <+: db.ledgerEntries.rows

lemma Explained.moves {start db db' : Db} (h : Explained start db) (hm : Moves db db') :
    Explained start db' := by
  cases hm with
  | none same =>
    exact ⟨same.book ▸ h.reaches, fun id => (same.isSystem id).trans (h.system id),
      same.ledgerEntries ▸ h.ledger⟩
  | one p posted applied funds same =>
    refine ⟨?_, fun id => ?_, ?_⟩
    · rw [same.book, applied.book]
      exact h.reaches.tail (.entry _ _ _ p.positive (funds.imp (h.system _).mp id))
    · rw [same.isSystem, applied.isSystem_iff, h.system]
    · rw [same.ledgerEntries, applied.ledgerEntries]
      exact h.ledger.trans (List.prefix_append _ _)

end Steps

theorem run_movements {sha256 : String → String} {P : Db → Prop} {cond : Bank → Action → Prop}
    (hstep : ∀ (b : Bank) t i c program db', cond b (.act t i) → b.threads t = some (c, program) →
      P b.db → Movement sha256 t c b.shared db' → P db')
    (hsame : ∀ db db', P db → SameMoney db db' → P db')
    {w : World} {schedule : List Action} {b : Bank} (hstart : P w.db)
    (hm : Config.Meets (handle sha256) environment cond (Bank.start w) schedule)
    (h : Bank.run sha256 (Bank.start w) schedule = some b) : P b.db := by
  let D := discipline sha256
  refine (D.shared_invariant (P := fun s : State => P s.world.db) ?_ ?_
    (D.init_holds w) hstart hm h).2
  · exact fun d t i c program s' _ ht hcond hP hg =>
      hstep d t i c program _ hcond ht hP (Effect.movement hg)
  · exact fun e s hP => hsame _ _ hP (environment_kept e s.world).sameMoney

theorem run_moves {P : Db → Prop} (hmoves : ∀ db db', P db → Moves db db' → P db')
    {sha256 : String → String} {w : World} {schedule : List Action} {b : Bank} (hstart : P w.db)
    (h : Bank.run sha256 (Bank.start w) schedule = some b) : P b.db :=
  run_movements (fun _ _ _ _ _ _ _ _ hP hm => hmoves _ _ hP hm.moves)
    (fun _ _ hP hs => hmoves _ _ hP (.none hs)) hstart (Discipline.meets_true _ _) h

theorem run_explained {sha256 : String → String} {w : World} {schedule : List Action} {b : Bank}
    (h : Bank.run sha256 (Bank.start w) schedule = some b) : Explained w.db b.db :=
  run_moves (fun _ _ => Explained.moves) ⟨.refl, fun _ => Iff.rfl, List.prefix_refl _⟩ h

/-- Every balance is its balance at the start plus the credits and minus the debits since. -/
theorem balances_reconcile {sha256 : String → String} {w : World}
    {schedule : List Action} {b : Bank} (h : Bank.run sha256 (Bank.start w) schedule = some b) :
    ∃ added, b.db.ledgerEntries.rows = w.db.ledgerEntries.rows ++ added ∧
      ∀ a ∈ b.db.accounts.rows, a.availableBalance =
        w.db.balance a.id + creditSum added a.id - debitSum added a.id := by
  have explained := run_explained h
  obtain ⟨added, hadded⟩ := explained.ledger
  obtain ⟨lines, hjournal, hbalance, _⟩ := explained.reaches.reconciles
  have hlines : added.map (fun e => (e.accountId, e.signed)) = lines := by
    simp only [Db.book, ← hadded, List.map_append, List.append_cancel_left_eq] at hjournal
    exact hjournal
  refine ⟨added, hadded.symm, fun a ha => ?_⟩
  calc a.availableBalance = b.db.balance a.id := (Db.balance_of_mem ha).symm
    _ = w.db.balance a.id + Book.net lines a.id := hbalance a.id
    _ = w.db.balance a.id + creditSum added a.id - debitSum added a.id := by
      rw [← hlines, net_signed, add_sub_assoc]

theorem demo_balances_reconcile : ∃ b, demoRun = some b ∧
    ∃ added, b.db.ledgerEntries.rows = demoWorld.db.ledgerEntries.rows ++ added ∧
      ∀ a ∈ b.db.accounts.rows, a.availableBalance =
        demoWorld.db.balance a.id + creditSum added a.id - debitSum added a.id := by
  obtain ⟨b, hb⟩ := demoRun_isSome
  exact ⟨b, hb, balances_reconcile hb⟩

def Db.Solvent (db : Db) : Prop :=
  ∀ a ∈ db.accounts.rows, a.isSystem = false → 0 ≤ a.availableBalance

/-- No customer's account is ever overdrawn. -/
theorem run_solvent {sha256 : String → String} {w : World} {schedule : List Action} {b : Bank}
    (hstart : w.db.Solvent) (h : Bank.run sha256 (Bank.start w) schedule = some b) :
    b.db.Solvent := by
  have explained := run_explained h
  intro a ha hcustomer
  have hfound : b.db.accounts.find a.id = some a := Table.find_eq_some.mpr ⟨ha, rfl⟩
  have hnot : ¬ w.db.isSystem a.id := by
    rw [← explained.system]
    rintro ⟨a', ha', hsystem⟩
    simp [show a' = a by simpa [hfound] using ha'.symm, hcustomer] at hsystem
  have hbefore : 0 ≤ w.db.book.balance a.id := by
    change 0 ≤ w.db.balance a.id
    unfold Db.balance
    cases hf : w.db.accounts.find a.id with
    | none => simp
    | some a' =>
      obtain ⟨hm, _⟩ := Table.find_eq_some.mp hf
      exact hstart a' hm (by simpa using fun hsystem => hnot ⟨a', hf, hsystem⟩)
  have hafter := explained.reaches.nonneg hnot hbefore
  rwa [show b.db.book.balance a.id = a.availableBalance from Db.balance_of_mem ha] at hafter

lemma demoWorld_solvent : demoWorld.db.Solvent := by
  unfold Db.Solvent
  decide +kernel

theorem demo_run_solvent : ∃ b, demoRun = some b ∧ b.db.Solvent := by
  obtain ⟨b, hb⟩ := demoRun_isSome
  exact ⟨b, hb, run_solvent demoWorld_solvent hb⟩

end OnlineBanking
