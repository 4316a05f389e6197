import OnlineBanking.Library.DoubleEntry
import OnlineBanking.PaymentsService

set_option autoImplicit false

/-! A posting: the rows that one committed payment or credit adds, and what it does to the
database read as a double-entry book. -/

namespace OnlineBanking

open Library

namespace Db

def book (db : Db) : Book Uuid ℚ where
  balance := db.balance
  journal := db.ledgerEntries.rows.map fun e => (e.accountId, e.signed)

def isSystem (db : Db) (id : Uuid) : Prop := ∃ a, db.accounts.find id = some a ∧ a.isSystem = true

lemma balance_of_mem {db : Db} {a : Account} (h : a ∈ db.accounts.rows) :
    db.balance a.id = a.availableBalance := by
  have hf : db.accounts.find a.id = some a := Table.find_eq_some.mpr ⟨h, rfl⟩
  simp [balance, hf]

end Db

lemma creditSum_cons (e : LedgerEntry) (es : List LedgerEntry) (id : Uuid) :
    creditSum (e :: es) id =
      (if e.accountId = id ∧ e.side = .credit then e.amount else 0) + creditSum es id := by
  by_cases h : e.accountId = id ∧ e.side = .credit <;> simp [creditSum, h]

lemma debitSum_cons (e : LedgerEntry) (es : List LedgerEntry) (id : Uuid) :
    debitSum (e :: es) id =
      (if e.accountId = id ∧ e.side = .debit then e.amount else 0) + debitSum es id := by
  by_cases h : e.accountId = id ∧ e.side = .debit <;> simp [debitSum, h]

lemma net_signed (entries : List LedgerEntry) (id : Uuid) :
    Book.net (entries.map fun e => (e.accountId, e.signed)) id =
      creditSum entries id - debitSum entries id := by
  induction entries with
  | nil => simp [creditSum, debitSum]
  | cons e es ih =>
    rw [List.map_cons, Book.net_cons, ih, creditSum_cons, debitSum_cons]
    by_cases ha : e.accountId = id
    · cases hs : e.side <;> simp [LedgerEntry.signed, ha, hs] <;> ring
    · simp [ha]

structure LedgerEntry.Records (e : LedgerEntry) (t : Transaction) (accountId : Uuid)
    (side : LedgerSide) :
    Prop where
  transactionId : e.transactionId = t.id
  accountId : e.accountId = accountId
  side : e.side = side
  amount : e.amount = t.amount
  currency : e.currency = t.currency

structure Posting where
  source : Account
  destination : Account
  transaction : Transaction
  debit : LedgerEntry
  credit : LedgerEntry
  key : Option IdempotencyKey
  audit : AuditEvent
  notice : Option Notification
  positive : 0 < transaction.amount
  posted : transaction.status = .posted
  from_source : transaction.fromAccountId = some source.id
  to_destination : transaction.toAccountId = some destination.id
  debits : debit.Records transaction source.id .debit
  credits : credit.Records transaction destination.id .credit

namespace Posting

structure Applied (p : Posting) (db db' : Db) : Prop where
  source_found : db.accounts.find p.source.id = some p.source
  destination_found : db.accounts.find p.destination.id = some p.destination
  accounts : db'.accounts = (db.accounts.modify p.source.id
    (Account.decrement p.transaction.amount)).modify
    p.destination.id (Account.increment p.transaction.amount)
  transactions : db'.transactions.rows = db.transactions.rows ++ [p.transaction]
  ledgerEntries : db'.ledgerEntries.rows = db.ledgerEntries.rows ++ [p.debit, p.credit]
  idempotencyKeys : db'.idempotencyKeys.rows = db.idempotencyKeys.rows ++ p.key.toList
  auditEvents : db'.auditEvents.rows = db.auditEvents.rows ++ [p.audit]
  notifications : db'.notifications.rows = db.notifications.rows ++ p.notice.toList
  users : db'.users = db.users
  customerProfiles : db'.customerProfiles = db.customerProfiles
  beneficiaries : db'.beneficiaries = db.beneficiaries
  merchants : db'.merchants = db.merchants

variable {p : Posting} {db db' : Db}

namespace Applied

lemma find (h : p.Applied db db') (id : Uuid) :
    db'.accounts.find id = (db.accounts.find id).map fun a =>
      { a with availableBalance := db.balance id +
        Book.net (Book.entry p.source.id p.destination.id p.transaction.amount) id } := by
  rw [h.accounts, Table.find_modify, Table.find_modify, Book.net_entry, Db.balance]
  simp only [eq_comm (a := id)]
  cases db.accounts.find id with
  | none => by_cases hs : p.source.id = id <;> by_cases hd : p.destination.id = id <;> simp [hs, hd]
  | some a =>
    by_cases hs : p.source.id = id <;> by_cases hd : p.destination.id = id <;>
      simp [hs, hd, Account.increment, Account.decrement, sub_eq_add_neg]

lemma balance (h : p.Applied db db') (id : Uuid) :
    db'.balance id = db.balance id +
      Book.net (Book.entry p.source.id p.destination.id p.transaction.amount) id := by
  rw [Db.balance, h.find]
  cases hf : db.accounts.find id with
  | some a => rfl
  | none =>
    have hs : p.source.id ≠ id := by
      rintro rfl
      simp [h.source_found] at hf
    have hd : p.destination.id ≠ id := by
      rintro rfl
      simp [h.destination_found] at hf
    simp [Db.balance, hf, Book.net_entry, hs, hd]

theorem book (h : p.Applied db db') :
    db'.book = db.book.post (Book.entry p.source.id p.destination.id p.transaction.amount) := by
  have hlines : [p.debit, p.credit].map (fun e => (e.accountId, e.signed)) =
      Book.entry p.source.id p.destination.id p.transaction.amount := by
    simp [Book.entry, LedgerEntry.signed, p.debits.accountId, p.debits.side, p.debits.amount,
      p.credits.accountId, p.credits.side, p.credits.amount]
  simp only [Db.book, Book.post, h.ledgerEntries, List.map_append, hlines, Book.mk.injEq, and_true]
  funext id
  exact h.balance id

lemma isSystem_iff (h : p.Applied db db') (id : Uuid) : db'.isSystem id ↔ db.isSystem id := by
  simp only [Db.isSystem, h.find]
  cases db.accounts.find id <;> simp

end Applied

end Posting

end OnlineBanking
