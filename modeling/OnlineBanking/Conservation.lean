import OnlineBanking.Reconciliation

set_option autoImplicit false

/-! Every transaction has its two entries and every entry its transaction, so money is neither
made nor lost. -/

namespace OnlineBanking

open Library

structure Transaction.Entered (t : Transaction) (entries : List LedgerEntry) : Prop where
  positive : 0 < t.amount
  two : ∃ debit credit src dst, (entries.filter fun e => e.transactionId = t.id) = [debit, credit] ∧
    t.fromAccountId = some src ∧ t.toAccountId = some dst ∧ debit.Records t src .debit ∧
    credit.Records t dst .credit

/-- Every entry belongs to a transaction: the foreign key of the ledger table. -/
def Db.EntriesOwned (db : Db) : Prop :=
  ∀ e ∈ db.ledgerEntries.rows, ∃ t ∈ db.transactions.rows, e.transactionId = t.id

structure Db.DoubleEntered (db : Db) : Prop where
  entered : ∀ t ∈ db.transactions.rows, t.Entered db.ledgerEntries.rows
  owned : db.EntriesOwned

section Steps

variable {sha256 : String → String} {t : ℕ} {c : Call} {i : Inputs} {s s' : State}

lemma Posting.Applied.fresh {p : Posting} {db db' : Db} (h : p.Applied db db') {t : Transaction}
    (ht : t ∈ db.transactions.rows) : t.id ≠ p.transaction.id := by
  have hn := db'.transactions.keys_nodup
  rw [h.transactions, List.map_append, List.nodup_append] at hn
  exact hn.2.2 _ (List.mem_map_of_mem ht) _ (by simp; rfl)

theorem Posting.Applied.doubleEntered {p : Posting} {db db' : Db} (h : p.Applied db db')
    (hdb : db.DoubleEntered) : db'.DoubleEntered := by
  have hnew : ∀ e ∈ [p.debit, p.credit], e.transactionId = p.transaction.id := by
    intro e he
    rcases List.mem_pair.mp he with rfl | rfl
    · exact p.debits.transactionId
    · exact p.credits.transactionId
  constructor
  · intro t ht
    rw [h.transactions] at ht
    rw [h.ledgerEntries]
    rcases List.mem_append.mp ht with ht | ht
    · obtain ⟨positive, debit, credit, src, dst, hfilter, hrest⟩ := hdb.entered t ht
      have hnone : ([p.debit, p.credit].filter fun e => e.transactionId = t.id) = [] := by
        rw [List.filter_eq_nil_iff]
        intro e he heq
        exact h.fresh ht ((of_decide_eq_true heq).symm.trans (hnew e he))
      exact ⟨positive, debit, credit, src,
        dst, by rw [List.filter_append, hfilter, hnone]; rfl, hrest⟩
    · obtain rfl := List.mem_singleton.mp ht
      have hnone : (db.ledgerEntries.rows.filter fun e => e.transactionId = p.transaction.id) =
          [] := by
        rw [List.filter_eq_nil_iff]
        intro e he heq
        obtain ⟨t, ht, hid⟩ := hdb.owned e he
        exact h.fresh ht (hid.symm.trans (of_decide_eq_true heq))
      have hboth : ([p.debit, p.credit].filter fun e => e.transactionId = p.transaction.id) =
          [p.debit, p.credit] := by
        rw [List.filter_eq_self]
        exact fun e he => decide_eq_true (hnew e he)
      refine ⟨p.positive, p.debit, p.credit, p.source.id, p.destination.id, ?_, p.from_source,
        p.to_destination, p.debits, p.credits⟩
      rw [List.filter_append, hnone, hboth]
      rfl
  · intro e he
    rw [h.ledgerEntries] at he
    rw [h.transactions]
    rcases List.mem_append.mp he with he | he
    · obtain ⟨t, ht, hid⟩ := hdb.owned e he
      exact ⟨t, List.mem_append_left _ ht, hid⟩
    · exact ⟨p.transaction, by simp, hnew e he⟩

lemma Db.DoubleEntered.moves {db db' : Db} (h : db.DoubleEntered) (hm : Moves db db') :
    db'.DoubleEntered := by
  cases hm with
  | none same =>
    exact ⟨same.transactions ▸ same.ledgerEntries ▸ h.entered,
      by simpa [EntriesOwned, same.transactions, same.ledgerEntries] using h.owned⟩
  | one p posted applied funds same =>
    have hp := applied.doubleEntered h
    exact ⟨same.transactions ▸ same.ledgerEntries ▸ hp.entered,
      by simpa [EntriesOwned, same.transactions, same.ledgerEntries] using hp.owned⟩

end Steps

lemma Db.sum_balance {db : Db} {ids : Finset Uuid} (h : ∀ a ∈ db.accounts.rows, a.id ∈ ids) :
    ∑ id ∈ ids, db.balance id = db.totalBalance := by
  have hsub : (db.accounts.rows.map Account.id).toFinset ⊆ ids := by
    intro id hid
    obtain ⟨a, ha, rfl⟩ := List.mem_map.mp (List.mem_toFinset.mp hid)
    exact h a ha
  have hzero : ∀ id ∈ ids, id ∉ (db.accounts.rows.map Account.id).toFinset → db.balance id = 0 := by
    intro id _ hid
    have hnone : db.accounts.find id = none := by
      rw [Table.find_eq_none]
      exact fun a ha he => hid (List.mem_toFinset.mpr (List.mem_map.mpr ⟨a, ha, he⟩))
    simp [balance, hnone]
  have hnodup : (db.accounts.rows.map Account.id).Nodup := db.accounts.keys_nodup
  rw [← Finset.sum_subset hsub hzero, List.sum_toFinset _ hnodup, List.map_map, totalBalance]
  exact congrArg List.sum (List.map_congr_left fun a ha => balance_of_mem ha)

theorem run_total {sha256 : String → String} {w : World} {schedule : List Action} {b : Bank}
    (h : Bank.run sha256 (Bank.start w) schedule = some b) :
    b.db.totalBalance = w.db.totalBalance := by
  let ids := (w.db.accounts.rows.map Account.id ++ b.db.accounts.rows.map Account.id ++
    b.db.book.journal.map Prod.fst).toFinset
  have hjournal : ∀ l ∈ b.db.book.journal.drop w.db.book.journal.length, l.1 ∈ ids := by
    intro l hl
    have hm := List.mem_map_of_mem (f := Prod.fst) (List.mem_of_mem_drop hl)
    exact List.mem_toFinset.mpr (List.mem_append_right _ hm)
  have hafter : ∀ a ∈ b.db.accounts.rows, a.id ∈ ids := fun a ha =>
    List.mem_toFinset.mpr (List.mem_append_left _
      (List.mem_append_right _ (List.mem_map_of_mem ha)))
  have hbefore : ∀ a ∈ w.db.accounts.rows, a.id ∈ ids := fun a ha =>
    List.mem_toFinset.mpr (List.mem_append_left _ (List.mem_append_left _ (List.mem_map_of_mem ha)))
  calc b.db.totalBalance = ∑ id ∈ ids, b.db.book.balance id := (Db.sum_balance hafter).symm
    _ = ∑ id ∈ ids, w.db.book.balance id := (run_explained h).reaches.sum_eq hjournal
    _ = w.db.totalBalance := Db.sum_balance hbefore

/-- From a database without transactions on, each transaction has exactly its two entries, each
entry its transaction, and the total of all balances never changes. -/
theorem run_doubleEntered {sha256 : String → String} {w : World} {schedule : List Action} {b : Bank}
    (hempty : w.db.transactions.rows = []) (hforeign : w.db.EntriesOwned)
    (h : Bank.run sha256 (Bank.start w) schedule = some b) :
    (∀ t ∈ b.db.transactions.rows, t.Entered b.db.ledgerEntries.rows) ∧ b.db.EntriesOwned ∧
      b.db.totalBalance = w.db.totalBalance := by
  have hstart : w.db.DoubleEntered := ⟨by simp [hempty], hforeign⟩
  have hend : b.db.DoubleEntered := run_moves (fun _ _ => Db.DoubleEntered.moves) hstart h
  exact ⟨hend.entered, hend.owned, run_total h⟩

theorem demo_run_doubleEntered : ∃ b, demoRun = some b ∧
    (∀ t ∈ b.db.transactions.rows, t.Entered b.db.ledgerEntries.rows) ∧ b.db.EntriesOwned ∧
      b.db.totalBalance = demoWorld.db.totalBalance := by
  obtain ⟨b, hb⟩ := demoRun_isSome
  have hempty : demoWorld.db.transactions.rows.length = 0 := by decide +kernel
  have hentries : demoWorld.db.ledgerEntries.rows.length = 0 := by decide +kernel
  refine ⟨b, hb, run_doubleEntered (List.eq_nil_of_length_eq_zero hempty) ?_ hb⟩
  simp [Db.EntriesOwned, List.eq_nil_of_length_eq_zero hentries]

end OnlineBanking
