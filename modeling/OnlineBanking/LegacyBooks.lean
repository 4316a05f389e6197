import OnlineBanking.LegacyTransfers
import Mathlib.Algebra.BigOperators.Fin
import Mathlib.Data.Fintype.Basic
import Mathlib.Algebra.Order.Field.Rat

set_option autoImplicit false

/-! The books of _legacy_demo over all runs of its requests, statement by statement. -/

namespace OnlineBanking.Legacy

open Library

section Statements

variable {σ σ' : Rows} {b : Written} {k : Key} {next : Body}

lemma exec_done {r : Except Error Written} (h : (Txn.done r : Body).exec σ = (.ok b, σ')) :
    r = .ok b ∧ σ' = σ := by
  obtain ⟨rfl, rfl⟩ := Prod.mk.inj h
  exact ⟨rfl, rfl⟩

lemma exec_lock {next : Row k → Body} (h : (lock k next).exec σ = (.ok b, σ')) :
    (next (σ k)).exec σ = (.ok b, σ') := by
  rwa [lock, Txn.exec, id, Function.update_eq_self] at h

lemma exec_insert {content : Content k} (h : (insert k content next).exec σ = (.ok b, σ')) :
    σ k = none ∧ next.exec (Function.update σ k (some content)) = (.ok b, σ') := by
  rw [insert, Txn.exec] at h
  cases hk : σ k with
  | none =>
    rw [hk] at h
    exact ⟨rfl, h⟩
  | some old =>
    rw [hk] at h
    cases (exec_done h).1

lemma exec_update {f : Content k → Content k} (h : (update k f next).exec σ = (.ok b, σ')) :
    (∃ content, σ k = some content) ∧ next.exec
    (Function.update σ k ((σ k).map f)) = (.ok b, σ') := by
  rw [update, Txn.exec] at h
  cases hk : σ k with
  | none =>
    rw [hk] at h
    cases (exec_done h).1
  | some old =>
    rw [hk] at h
    exact ⟨⟨old, rfl⟩, h⟩

lemma exec_lockSource {id : String} {amount : ℚ}
    (h : (lockSource id amount next).exec σ = (.ok b, σ')) :
    ∃ a, account σ id = some a ∧ amount ≤ a.balance ∧ next.exec σ = (.ok b, σ') := by
  have h := exec_lock h
  split at h
  · cases (exec_done h).1
  · rename_i a ha
    split at h
    · cases (exec_done h).1
    · rename_i hfunds
      exact ⟨a, ha, not_lt.mp hfunds, h⟩

end Statements

section Tables

variable (σ : Rows) (id j : String) {k : Key} (v : Row k)

@[simp] lemma account_update_self (a : Option Account) :
    account (Function.update σ (.account j) a) id = if id = j then a else account σ id :=
  (Function.update_apply_of_injective σ (f := Key.account)
    (fun _ _ => Key.account.inj) j a id).trans
    (Function.update_apply (account σ) j a id)

@[simp] lemma account_update (h : ∀ i, .account i ≠ k) :
    account (Function.update σ k v) id = account σ id :=
  Function.update_of_ne (h id) _ _

@[simp] lemma idOfIban_update_self (x : Option String) :
    idOfIban (Function.update σ (.iban j) x) id = if id = j then x else idOfIban σ id :=
  (Function.update_apply_of_injective σ (f := Key.iban) (fun _ _ => Key.iban.inj) j x id).trans
    (Function.update_apply (idOfIban σ) j x id)

@[simp] lemma idOfIban_update (h : ∀ i, .iban i ≠ k) :
    idOfIban (Function.update σ k v) id = idOfIban σ id :=
  Function.update_of_ne (h id) _ _

@[simp] lemma transaction_update_self (x : Option Transaction) :
    transaction (Function.update σ (.transaction j) x) id = if id = j then x
      else transaction σ id :=
  (Function.update_apply_of_injective σ (f := Key.transaction) (fun _ _ => Key.transaction.inj)
    j x id).trans
    (Function.update_apply (transaction σ) j x id)

@[simp] lemma transaction_update (h : ∀ i, .transaction i ≠ k) :
    transaction (Function.update σ k v) id = transaction σ id :=
  Function.update_of_ne (h id) _ _

@[simp] lemma idOfKey_update_self (x : Option String) :
    idOfKey (Function.update σ (.idempotencyKey j) x) id = if id = j then x else idOfKey σ id :=
  (Function.update_apply_of_injective σ (f := Key.idempotencyKey)
    (fun _ _ => Key.idempotencyKey.inj) j x id).trans
    (Function.update_apply (idOfKey σ) j x id)

@[simp] lemma idOfKey_update (h : ∀ i, .idempotencyKey i ≠ k) :
    idOfKey (Function.update σ k v) id = idOfKey σ id :=
  Function.update_of_ne (h id) _ _

@[simp] lemma ledgerEntry_update_self (i j : Uuid) (x : Option LedgerEntry) :
    ledgerEntry (Function.update σ (.ledgerEntry j) x) i = if i = j then x else ledgerEntry σ i :=
  (Function.update_apply_of_injective σ (f := Key.ledgerEntry)
    (fun _ _ => Key.ledgerEntry.inj) j x i).trans
    (Function.update_apply (ledgerEntry σ) j x i)

@[simp] lemma ledgerEntry_update (i : Uuid) (h : ∀ i, .ledgerEntry i ≠ k) :
    ledgerEntry (Function.update σ k v) i = ledgerEntry σ i :=
  Function.update_of_ne (h i) _ _

end Tables

def LedgerEntry.signed (e : LedgerEntry) : ℚ :=
  match e.type with
  | .debit => -e.amount
  | .credit => e.amount

def total (es : List LedgerEntry) (accountId : String) : ℚ :=
  (es.map fun e => if e.accountId = accountId then e.signed else 0).sum

def Account.plus (a : Account) (amount : ℚ) : Account := { a with balance := a.balance + amount }

/-- One transaction with its entries is new, and each balance has changed by so much. -/
structure Posts (row : Transaction) (es : List LedgerEntry) (change : String → ℚ)
    (σ σ' : Rows) : Prop where
  unused : transaction σ row.id = none
  unkeyed : idOfKey σ row.idempotencyKey = none
  unposted : ∀ e ∈ es, ledgerEntry σ e.id = none
  distinct : (es.map LedgerEntry.id).Nodup
  owned : ∀ e ∈ es, e.transactionId = row.id
  transactions : ∀ id, transaction σ' id = if id = row.id then some row else transaction σ id
  keys : ∀ key, idOfKey σ' key = if key = row.idempotencyKey then some row.id else idOfKey σ key
  entries : ∀ id, ledgerEntry σ' id = (es.find? fun e => e.id = id).or (ledgerEntry σ id)
  accounts : ∀ id, account σ' id = (account σ id).map fun a => a.plus (change id)
  ibans : ∀ iban, idOfIban σ' iban = idOfIban σ iban

section Postings

variable {σ σ' σ'' : Rows} {b : Written} {row : Transaction} {es : List LedgerEntry}
    {change : String → ℚ} {next : Body}

lemma Account.plus_zero (a : Account) : a.plus 0 = a := by
  rw [Account.plus, add_zero]

lemma Account.plus_plus (a : Account) (x y : ℚ) : (a.plus x).plus y = a.plus (x + y) := by
  rw [Account.plus, Account.plus, Account.plus, add_assoc]

lemma exec_createTransaction (h : (createTransaction row next).exec σ = (.ok b, σ')) :
    ∃ σ₁, Posts row [] (fun _ => 0) σ σ₁ ∧ next.exec σ₁ = (.ok b, σ') := by
  obtain ⟨hunused, h⟩ := exec_insert h
  obtain ⟨hunkeyed, h⟩ := exec_insert h
  obtain ⟨-, h⟩ := exec_insert h
  refine ⟨_, ?_, h⟩
  constructor
  case unused => exact hunused
  case unkeyed => exact (idOfKey_update _ _ _ (by simp)).symm.trans hunkeyed
  all_goals simp [Account.plus_zero]

lemma Posts.createEntry {e : LedgerEntry} (hposts : Posts row es change σ σ')
    (he : e.transactionId = row.id) (h : (createEntry e next).exec σ' = (.ok b, σ'')) :
    ∃ σ₁, Posts row (es ++ [e]) change σ σ₁ ∧ next.exec σ₁ = (.ok b, σ'') := by
  obtain ⟨hfree, h⟩ := exec_insert h
  have hfree : ledgerEntry σ' e.id = none := hfree
  rw [hposts.entries, Option.or_eq_none_iff, List.find?_eq_none] at hfree
  obtain ⟨hnew, hunposted⟩ := hfree
  refine ⟨_, ?_, h⟩
  constructor
  case unused => exact hposts.unused
  case unkeyed => exact hposts.unkeyed
  case unposted =>
    intro x hx
    rcases List.mem_append.mp hx with hx | hx
    · exact hposts.unposted x hx
    · exact List.mem_singleton.mp hx ▸ hunposted
  case distinct =>
    rw [List.map_append, List.nodup_append]
    refine ⟨hposts.distinct, List.nodup_singleton _, fun i hi j hj => ?_⟩
    obtain ⟨x, hx, rfl⟩ := List.mem_map.mp hi
    rw [List.mem_singleton.mp hj]
    simpa using hnew x hx
  case owned =>
    intro x hx
    rcases List.mem_append.mp hx with hx | hx
    · exact hposts.owned x hx
    · exact List.mem_singleton.mp hx ▸ he
  case transactions => simp [hposts.transactions]
  case keys => simp [hposts.keys]
  case entries =>
    intro id
    rw [ledgerEntry_update_self, hposts.entries, List.find?_append]
    by_cases hid : id = e.id
    · subst hid
      simp [List.find?_eq_none.mpr hnew]
    · simp [hid, Ne.symm hid]
  case accounts => simp [hposts.accounts]
  case ibans => simp [hposts.ibans]

lemma Posts.increment {id : String} {amount : ℚ} (hposts : Posts row es change σ σ')
    (h : (increment id amount next).exec σ' = (.ok b, σ'')) :
    ∃ σ₁, Posts row es (fun j => change j + if j = id then amount else 0) σ σ₁ ∧
      (∃ a, account σ id = some a) ∧
      next.exec σ₁ = (.ok b, σ'') := by
  obtain ⟨⟨a', ha'⟩, h⟩ := exec_update h
  have ha' : account σ' id = some a' := ha'
  rw [hposts.accounts] at ha'
  obtain ⟨a, ha, -⟩ := Option.map_eq_some_iff.mp ha'
  refine ⟨_, ?_, ⟨a, ha⟩, h⟩
  constructor
  case accounts =>
    intro j
    have hnow : (σ' (.account id)).map (fun a : Account => a.plus amount) =
        (account σ id).map fun a => a.plus (change id + amount) := by
      have hold : σ' (.account id) = (account σ id).map fun a => a.plus (change id) :=
        hposts.accounts id
      rw [hold, Option.map_map]
      congr 1
      funext a
      simp [Account.plus, add_assoc]
    refine (account_update_self σ' j id _).trans ?_
    by_cases hj : j = id
    · subst hj
      rw [if_pos rfl, if_pos rfl]
      exact hnow
    · simp [hj, hposts.accounts]
  case transactions => simp [hposts.transactions]
  case keys => simp [hposts.keys]
  case entries => simp [hposts.entries]
  case ibans => simp [hposts.ibans]
  case unused => exact hposts.unused
  case unkeyed => exact hposts.unkeyed
  case unposted => exact hposts.unposted
  case distinct => exact hposts.distinct
  case owned => exact hposts.owned

lemma Posts.of_eq {change' : String → ℚ} (h : Posts row es change σ σ')
    (hsame : ∀ id, change id = change' id) :
    Posts row es change' σ σ' := by
  rwa [← funext hsame]

end Postings

inductive Kind
  | transfer (source dest : String)
  | payment (source : String)

/-- The entries that stand behind a transaction: none if it is rejected, and else those of its
kind. -/
inductive Shape (row : Transaction) : Kind → List LedgerEntry → Prop
  | rejected (kind : Kind) (status : row.status = .rejected) : Shape row kind []
  | transfer (d c : LedgerEntry) (status : row.status ≠ .rejected)
      (debit : d.type = .debit) (credit : c.type = .credit)
      (debited : d.amount = row.amount) (credited : c.amount = row.amount)
      (others : d.accountId ≠ c.accountId) :
      Shape row (.transfer d.accountId c.accountId) [d, c]
  | payment (d : LedgerEntry) (status : row.status ≠ .rejected) (debit : d.type = .debit)
      (debited : d.amount = row.amount) : Shape row (.payment d.accountId) [d]

structure Posting (row : Transaction) (kind : Kind) (es : List LedgerEntry) (σ σ' : Rows) : Prop
    extends Posts row es (total es) σ σ' where
  shape : Shape row kind es
  held : ∀ e ∈ es, ∃ a, account σ e.accountId = some a
  funded : ∀ e ∈ es, e.type = .debit → ∃ a, account σ e.accountId = some a ∧ e.amount ≤ a.balance

section Bodies

variable {σ σ' : Rows} {b : Written} {i : Inputs} {row : Inputs → Transaction}

lemma rejection_posting (kind : Kind) (hstatus : (row i).status = .rejected)
    (h : (rejection row i).exec σ = (.ok b, σ')) :
    b = .transaction (row i) ∧ Posting (row i) kind [] σ σ' := by
  obtain ⟨σ₁, hposts, h⟩ := exec_createTransaction h
  obtain ⟨hb, rfl⟩ := exec_done h
  exact ⟨(Except.ok.inj hb).symm, hposts.of_eq fun _ =>
    rfl, .rejected kind hstatus, by simp, by simp⟩

lemma paymentBody_posting {source : String} (hid : (row i).id = i.newId)
    (hstatus : (row i).status ≠ .rejected) (h : (paymentBody source row i).exec σ = (.ok b, σ')) :
    b = .transaction (row i) ∧ Posting (row i) (.payment source)
      [debit i source (row i).amount] σ σ' := by
  obtain ⟨a, ha, hfunds, h⟩ := exec_lockSource h
  obtain ⟨σ₁, hposts, h⟩ := exec_createTransaction h
  obtain ⟨σ₂, hposts, h⟩ := hposts.createEntry hid.symm h
  obtain ⟨σ₃, hposts, -, h⟩ := hposts.increment h
  obtain ⟨hb, rfl⟩ := exec_done h
  refine ⟨(Except.ok.inj hb).symm, hposts.of_eq fun id => ?_,
    .payment (debit i source (row i).amount) hstatus rfl rfl, ?_, ?_⟩
  · simp [total, debit, LedgerEntry.signed, eq_comm]
  · intro e he
    obtain rfl := List.mem_singleton.mp he
    exact ⟨a, ha⟩
  · intro e he _
    obtain rfl := List.mem_singleton.mp he
    exact ⟨a, ha, hfunds⟩

lemma transferBody_posting {source dest : String} (hid : (row i).id = i.newId)
    (hstatus : (row i).status ≠ .rejected) (hne : source ≠ dest)
    (h : (transferBody source dest row i).exec σ = (.ok b, σ')) :
    b = .transaction (row i) ∧
      Posting (row i) (.transfer source dest)
        [debit i source (row i).amount, credit i dest (row i).amount] σ σ' := by
  obtain ⟨a, ha, hfunds, h⟩ := exec_lockSource h
  have h := exec_lock h
  obtain ⟨σ₁, hposts, h⟩ := exec_createTransaction h
  obtain ⟨σ₂, hposts, h⟩ := hposts.createEntry hid.symm h
  obtain ⟨σ₃, hposts, h⟩ := hposts.createEntry hid.symm h
  obtain ⟨σ₄, hposts, -, h⟩ := hposts.increment h
  obtain ⟨σ₅, hposts, hdest, h⟩ := hposts.increment h
  obtain ⟨hb, rfl⟩ := exec_done h
  refine ⟨(Except.ok.inj hb).symm, hposts.of_eq fun id => ?_,
    .transfer (debit i source (row i).amount) (credit i dest (row i).amount) hstatus
      rfl rfl rfl rfl hne, ?_, ?_⟩
  · simp [total, debit, credit, LedgerEntry.signed, eq_comm]
  · intro e he
    rcases List.mem_pair.mp he with rfl | rfl
    · exact ⟨a, ha⟩
    · exact hdest
  · intro e he hdebit
    rcases List.mem_pair.mp he with rfl | rfl
    · exact ⟨a, ha, hfunds⟩
    · cases hdebit

end Bodies

instance : Fintype Uuid := Fintype.ofEquiv (Fin (2 ^ 128))
    ⟨Uuid.mk, Uuid.value, fun _ => rfl, fun _ => rfl⟩

def onAccount (accountId : String) (e : Option LedgerEntry) : ℚ :=
  e.elim 0 fun e => if e.accountId = accountId then e.signed else 0

def net (σ : Rows) (accountId : String) : ℚ := ∑ id : Uuid, onAccount accountId (ledgerEntry σ id)

section Ledger

variable {σ σ' : Rows} {row : Transaction} {es : List LedgerEntry} {change : String → ℚ}

lemma sum_find (accountId : String) (hes : (es.map LedgerEntry.id).Nodup) :
    ∑ id : Uuid, onAccount accountId (es.find? fun e => e.id = id) = total es accountId := by
  induction es with
  | nil => simp [total, onAccount]
  | cons e es ih =>
    obtain ⟨hnew, hrest⟩ := List.nodup_cons.mp hes
    have hsplit : ∀ id, onAccount accountId ((e :: es).find? fun e => e.id = id) =
        (if id = e.id then onAccount accountId (some e) else 0) + onAccount accountId
          (es.find? fun e => e.id = id) := by
      intro id
      by_cases hid : id = e.id
      · subst hid
        have hnone : (es.find? fun x => x.id = e.id) = none :=
          List.find?_eq_none.mpr fun x hx hxe => hnew (List.mem_map.mpr ⟨x, hx, by simpa using hxe⟩)
        rw [List.find?_cons_of_pos (by simp), if_pos rfl, hnone]
        simp [onAccount]
      · rw [List.find?_cons_of_neg (by simpa using Ne.symm hid), if_neg hid, zero_add]
    simp only [hsplit, Finset.sum_add_distrib, ih hrest, Finset.sum_ite_eq',
      Finset.mem_univ, if_true]
    simp [total, onAccount]

theorem Posts.net (h : Posts row es change σ σ') (accountId : String) :
    Legacy.net σ' accountId = Legacy.net σ accountId + total es accountId := by
  have hsplit : ∀ id, onAccount accountId (ledgerEntry σ' id) =
      onAccount accountId (ledgerEntry σ id) + onAccount accountId
        (es.find? fun e => e.id = id) := by
    intro id
    rw [h.entries]
    cases hfind : es.find? fun e => e.id = id with
    | none => simp [onAccount]
    | some e =>
      have hid : e.id = id := by simpa using List.find?_some hfind
      have hold := h.unposted e (List.mem_of_find?_eq_some hfind)
      rw [hid] at hold
      simp [hold, onAccount]
  rw [Legacy.net, Finset.sum_congr rfl fun id _ => hsplit id, Finset.sum_add_distrib,
    sum_find accountId h.distinct]
  rfl

end Ledger

structure Opens (a : Account) (σ σ' : Rows) : Prop where
  empty : a.balance = 0
  unused : account σ a.id = none
  unlisted : idOfIban σ a.iban = none
  accounts : ∀ id, account σ' id = if id = a.id then some a else account σ id
  ibans : ∀ iban, idOfIban σ' iban = if iban = a.iban then some a.id else idOfIban σ iban
  transactions : ∀ id, transaction σ' id = transaction σ id
  keys : ∀ key, idOfKey σ' key = idOfKey σ key
  entries : ∀ id, ledgerEntry σ' id = ledgerEntry σ id

lemma exec_newAccount {σ σ' : Rows} {b : Written} {i : Inputs} {userId currency : String}
    (h : (insert (.account i.newId) (newAccount i userId currency) <|
      insert (.iban i.iban) i.newId (.done (.ok (.account (newAccount i userId currency))))).exec
          σ = (.ok b, σ')) :
    b = .account (newAccount i userId currency) ∧ Opens (newAccount i userId currency) σ σ' := by
  obtain ⟨hunused, h⟩ := exec_insert h
  obtain ⟨hunlisted, h⟩ := exec_insert h
  obtain ⟨hb, rfl⟩ := exec_done h
  refine ⟨(Except.ok.inj hb).symm, ?_⟩
  constructor
  case empty => rfl
  case unused => exact hunused
  case unlisted => exact (idOfIban_update _ _ _ (by simp)).symm.trans hunlisted
  case accounts => exact fun id =>
    (account_update _ _ _ (by simp)).trans (account_update_self σ id _ _)
  case ibans =>
    intro iban
    refine (idOfIban_update_self _ iban _ _).trans ?_
    rw [idOfIban_update _ _ _ (by simp)]
    rfl
  case transactions => simp
  case keys => simp
  case entries => simp

def EntriesOf (σ : Rows) (id : String) (es : List LedgerEntry) : Prop :=
  ∀ e, e ∈ es ↔ ledgerEntry σ e.id = some e ∧ e.transactionId = id

/-- The unique indexes and the foreign keys fit the tables, behind each transaction stand its
entries, and no account is overdrawn. -/
structure Sound (σ : Rows) : Prop where
  accounts : ∀ id a, account σ id = some a → a.id = id ∧ idOfIban σ a.iban = some id
  ibans : ∀ iban id, idOfIban σ iban = some id → ∃ a, account σ id = some a ∧ a.iban = iban
  transactions : ∀ id row, transaction σ id = some row → row.id = id ∧
    idOfKey σ row.idempotencyKey = some id
  keys : ∀ key id, idOfKey σ key = some id → ∃ row, transaction σ id = some row ∧
    row.idempotencyKey = key
  entries : ∀ id e, ledgerEntry σ id = some e → e.id = id ∧
    (∃ row, transaction σ e.transactionId = some row) ∧
    ∃ a, account σ e.accountId = some a
  shaped : ∀ id row, transaction σ id = some row → ∃ kind es, Shape row kind es ∧ EntriesOf σ id es
  solvent : ∀ id a, account σ id = some a → 0 ≤ a.balance

section Invariant

variable {σ σ' : Rows} {row : Transaction} {kind : Kind} {es : List LedgerEntry}

lemma Posting.covered (h : Posting row kind es σ σ') (hpositive : 0 ≤ row.amount) {id : String}
    {a : Account} (ha : account σ id = some a) (hbalance : 0 ≤ a.balance) :
    0 ≤ a.balance + total es id := by
  have hfunds : ∀ d ∈ es, d.type = .debit → d.accountId = id → d.amount ≤ a.balance := by
    rintro d hd hdebit rfl
    obtain ⟨a', ha', hfunds⟩ := h.funded d hd hdebit
    obtain rfl : a = a' := Option.some.inj (ha.symm.trans ha')
    exact hfunds
  cases h.shape with
  | rejected => simpa [total] using hbalance
  | transfer d c _ debit credit debited credited others =>
    by_cases hd : d.accountId = id
    · have hc : c.accountId ≠ id := fun hc => others (hd.trans hc.symm)
      have hcovered := hfunds d (by simp) debit hd
      simpa [total, LedgerEntry.signed, debit, hd, hc] using hcovered
    · by_cases hc : c.accountId = id
      · simp only [total, LedgerEntry.signed, credit, hd, hc, List.map_cons, List.map_nil,
          List.sum_cons, List.sum_nil,
          if_true, if_false, zero_add, add_zero, credited]
        exact add_nonneg hbalance hpositive
      · simpa [total, hd, hc] using hbalance
  | payment d _ debit debited =>
    by_cases hd : d.accountId = id
    · have hcovered := hfunds d (by simp) debit hd
      simpa [total, LedgerEntry.signed, debit, hd] using hcovered
    · simpa [total, hd] using hbalance

lemma Posts.mem_entries {change : String → ℚ} (h : Posts row es change σ σ') {e : LedgerEntry} :
    ledgerEntry σ' e.id = some e ↔ e ∈ es ∨ ledgerEntry σ e.id = some e := by
  rw [h.entries, Option.or_eq_some_iff]
  constructor
  · rintro (hnew | ⟨_, hold⟩)
    · exact .inl (List.mem_of_find?_eq_some hnew)
    · exact .inr hold
  · rintro (hnew | hold)
    · left
      cases hfind : es.find? fun x => x.id = e.id with
      | none => exact absurd (List.find?_eq_none.mp hfind e hnew) (by simp)
      | some x =>
        have hid : x.id = e.id := by simpa using List.find?_some hfind
        have hsame := List.inj_on_of_nodup_map h.distinct (List.mem_of_find?_eq_some hfind) hnew hid
        rw [hsame]
    · refine .inr ⟨List.find?_eq_none.mpr fun x hx hxe => ?_, hold⟩
      have hid : x.id = e.id := by simpa using hxe
      have hnone := h.unposted x hx
      rw [hid, hold] at hnone
      cases hnone

section Kept

variable {change : String → ℚ} (h : Posts row es change σ σ')
include h

lemma Posts.transaction_kept {id : String} {r : Transaction} (hr : transaction σ id = some r) :
    transaction σ' id = some r := by
  rw [h.transactions, if_neg, hr]
  rintro rfl
  rw [h.unused] at hr
  cases hr

lemma Posts.key_kept {key id : String} (hid : idOfKey σ key = some id) :
    idOfKey σ' key = some id := by
  rw [h.keys, if_neg, hid]
  rintro rfl
  rw [h.unkeyed] at hid
  cases hid

lemma Posts.account_kept {id : String} {a : Account} (ha : account σ id = some a) :
    account σ' id = some (a.plus (change id)) := by
  rw [h.accounts, ha]
  rfl

lemma Posts.transaction_cases {id : String} {r : Transaction} (hr : transaction σ' id = some r) :
    (id = row.id ∧ r = row) ∨ transaction σ id = some r := by
  rw [h.transactions] at hr
  split_ifs at hr with hid
  · exact .inl ⟨hid, (Option.some.inj hr).symm⟩
  · exact .inr hr

end Kept

lemma Posting.entriesOf_new (h : Posting row kind es σ σ') (hσ : Sound σ) :
    EntriesOf σ' row.id es := by
  intro e
  rw [h.mem_entries]
  constructor
  · exact fun he => ⟨.inl he, h.owned e he⟩
  · rintro ⟨he | he, hid⟩
    · exact he
    · obtain ⟨_, ⟨r', hr'⟩, _⟩ := hσ.entries _ e he
      rw [hid, h.unused] at hr'
      cases hr'

lemma Posting.entriesOf_old (h : Posting row kind es σ σ') {id : String} {r : Transaction}
    {es₀ : List LedgerEntry} (hr : transaction σ id = some r) (hes₀ : EntriesOf σ id es₀) :
    EntriesOf σ' id es₀ := by
  intro e
  rw [hes₀, h.mem_entries]
  constructor
  · exact fun ⟨he, hid⟩ => ⟨.inr he, hid⟩
  · rintro ⟨he | he, hid⟩
    · rw [← hid, h.owned e he, h.unused] at hr
      cases hr
    · exact ⟨he, hid⟩

theorem Posting.sound (h : Posting row kind es σ σ') (hpositive : 0 < row.amount)
    (hσ : Sound σ) : Sound σ' := by
  have hrow : transaction σ' row.id = some row := by rw [h.transactions, if_pos rfl]
  constructor
  case accounts =>
    intro id a' ha'
    rw [h.accounts] at ha'
    obtain ⟨a, ha, rfl⟩ := Option.map_eq_some_iff.mp ha'
    rw [h.ibans]
    exact hσ.accounts id a ha
  case ibans =>
    intro iban id hid
    rw [h.ibans] at hid
    obtain ⟨a, ha, rfl⟩ := hσ.ibans iban id hid
    exact ⟨_, h.account_kept ha, rfl⟩
  case transactions =>
    intro id r hr
    rcases h.transaction_cases hr with ⟨rfl, rfl⟩ | hold
    · exact ⟨rfl, by rw [h.keys, if_pos rfl]⟩
    · exact (hσ.transactions id r hold).imp_right h.key_kept
  case keys =>
    intro key id hid
    rw [h.keys] at hid
    split_ifs at hid with hkey
    · exact ⟨row, Option.some.inj hid ▸ hrow, hkey.symm⟩
    · obtain ⟨r, hr, hrkey⟩ := hσ.keys key id hid
      exact ⟨r, h.transaction_kept hr, hrkey⟩
  case entries =>
    intro id e he
    rw [h.entries, Option.or_eq_some_iff] at he
    rcases he with hnew | ⟨_, hold⟩
    · have hmem := List.mem_of_find?_eq_some hnew
      obtain ⟨a, ha⟩ := h.held e hmem
      refine ⟨by simpa using List.find?_some hnew, ⟨row, ?_⟩, _, h.account_kept ha⟩
      rw [h.owned e hmem, hrow]
    · obtain ⟨hid, ⟨r, hr⟩, a, ha⟩ := hσ.entries id e hold
      exact ⟨hid, ⟨r, h.transaction_kept hr⟩, _, h.account_kept ha⟩
  case shaped =>
    intro id r hr
    rcases h.transaction_cases hr with ⟨rfl, rfl⟩ | hold
    · exact ⟨kind, es, h.shape, h.entriesOf_new hσ⟩
    · obtain ⟨kind₀, es₀, hshape, hes₀⟩ := hσ.shaped id r hold
      exact ⟨kind₀, es₀, hshape, h.entriesOf_old hold hes₀⟩
  case solvent =>
    intro id a' ha'
    rw [h.accounts] at ha'
    obtain ⟨a, ha, rfl⟩ := Option.map_eq_some_iff.mp ha'
    exact h.covered hpositive.le ha (hσ.solvent id a ha)

theorem Opens.sound {a : Account} (h : Opens a σ σ') (hσ : Sound σ) : Sound σ' := by
  have hkept : ∀ id x, account σ id = some x → account σ' id = some x := by
    intro id x hx
    rw [h.accounts, if_neg, hx]
    rintro rfl
    rw [h.unused] at hx
    cases hx
  have haccount : ∀ id x, account σ' id = some x → (id = a.id ∧ x = a) ∨ account σ id = some x := by
    intro id x hx
    rw [h.accounts] at hx
    split_ifs at hx with hid
    · exact .inl ⟨hid, (Option.some.inj hx).symm⟩
    · exact .inr hx
  constructor
  case accounts =>
    intro id x hx
    rw [h.ibans]
    rcases haccount id x hx with ⟨rfl, rfl⟩ | hold
    · exact ⟨rfl, if_pos rfl⟩
    · obtain ⟨hid, hiban⟩ := hσ.accounts id x hold
      refine ⟨hid, ?_⟩
      rw [if_neg, hiban]
      intro hsame
      rw [hsame, h.unlisted] at hiban
      cases hiban
  case ibans =>
    intro iban id hid
    rw [h.ibans] at hid
    split_ifs at hid with hiban
    · refine ⟨a, ?_, hiban.symm⟩
      rw [h.accounts, if_pos (Option.some.inj hid).symm]
    · obtain ⟨x, hx, hxiban⟩ := hσ.ibans iban id hid
      exact ⟨x, hkept id x hx, hxiban⟩
  case transactions => simpa only [h.transactions, h.keys] using hσ.transactions
  case keys => simpa only [h.transactions, h.keys] using hσ.keys
  case entries =>
    intro id e he
    rw [h.entries] at he
    obtain ⟨hid, hr, x, hx⟩ := hσ.entries id e he
    exact ⟨hid, by rwa [h.transactions], x, hkept _ x hx⟩
  case shaped => simpa only [EntriesOf, h.transactions, h.entries] using hσ.shaped
  case solvent =>
    intro id x hx
    rcases haccount id x hx with ⟨rfl, rfl⟩ | hold
    · exact h.empty.ge
    · exact hσ.solvent id x hold

theorem Opens.net {a : Account} (h : Opens a σ σ') (accountId : String) :
    Legacy.net σ' accountId = Legacy.net σ accountId := by
  simp only [Legacy.net, h.entries]

end Invariant

end OnlineBanking.Legacy
