import Mathlib.Data.List.Permutation
import Mathlib.Data.List.Sort
import OnlineBanking.BeneficiaryRouting
import OnlineBanking.TruthfulKeys

set_option autoImplicit false

/-! transactions.service.ts, and the records that its readers find: the four operations that post
fill in different columns of them. -/

namespace OnlineBanking

open Library

/-- The `ledgerEntries` of a transaction, ordered by sequence; `scan` is the order in which the
database comes by the rows, which decides between entries of one sequence. -/
def ledgerEntriesOf (scan : List LedgerEntry → List LedgerEntry) (db : Db) (transactionId : Uuid) :
    List LedgerEntry :=
  ((scan db.ledgerEntries.rows).filter fun e => e.transactionId = transactionId).insertionSort
    fun e e' => e.sequence ≤ e'.sequence

def findOneByUser (scan : List LedgerEntry → List LedgerEntry) (choice : ℕ) (db : Db)
    (userId : Uuid) (txId : String) : Except Failure (Transaction × List LedgerEntry) :=
  match db.customerProfiles.findAlt userId with
  | none => .error (.notFound "Customer profile not found")
  | some profile =>
    match db.transactions.findFirst
      (fun x => x.id.spelledBy txId ∧ x.customerId = some profile.id) choice with
    | none => .error (.notFound "Transaction not found")
    | some txn => .ok (txn, ledgerEntriesOf scan db txn.id)

/-- In whichever order the rows are come by, the debit is listed and then the credit. -/
def ListedInOrder (db : Db) (x : Transaction) (debit credit : LedgerEntry) : Prop :=
  ∀ scan : List LedgerEntry → List LedgerEntry, (∀ es, (scan es).Perm es) →
    ∀ userId profile txId choice, db.customerProfiles.findAlt userId = some profile →
      x.customerId = some profile.id → x.id.spelledBy txId = true →
      findOneByUser scan choice db userId txId = .ok (x, [debit, credit])

structure Transaction.Uniform (db : Db) (x : Transaction) : Prop where
  postedAt : x.postedAt ≠ none
  entries : ∃ debit credit, (db.ledgerEntries.rows.filter fun e => e.transactionId = x.id) =
    [debit, credit] ∧
    debit.side = .debit ∧ credit.side = .credit ∧ debit.sequence < credit.sequence ∧
    ListedInOrder db x debit credit
  key : x.type.isPayment = true → ∃ k ∈ db.idempotencyKeys.rows, x.idempotencyKeyId = some k.id ∧
    k.payloadId = some x.id.text ∧
    ∃ profile ∈ db.customerProfiles.rows, profile.userId = k.userId ∧ x.customerId = some profile.id

section Listing

variable {db : Db} {x : Transaction} {debit credit : LedgerEntry}

lemma ledgerEntriesOf_ordered {scan : List LedgerEntry → List LedgerEntry}
    (hscan : ∀ es, (scan es).Perm es)
    (hentries : (db.ledgerEntries.rows.filter fun e => e.transactionId = x.id) = [debit, credit])
    (hsequence : debit.sequence < credit.sequence) :
    ledgerEntriesOf scan db x.id = [debit, credit] := by
  have hperm := (hscan db.ledgerEntries.rows).filter fun e => decide (e.transactionId = x.id)
  rw [hentries, List.perm_pair] at hperm
  unfold ledgerEntriesOf
  rcases hperm with hrows | hrows
  · rw [hrows]
    simp [List.insertionSort, hsequence.le]
  · rw [hrows]
    simp [List.insertionSort, hsequence]

lemma listedInOrder (hx : x ∈ db.transactions.rows)
    (hentries : (db.ledgerEntries.rows.filter fun e => e.transactionId = x.id) = [debit, credit])
    (hsequence : debit.sequence < credit.sequence) : ListedInOrder db x debit credit := by
  intro scan hscan userId profile txId choice hprofile hcustomer hspelled
  have hfound : db.transactions.findFirst
      (fun y => y.id.spelledBy txId ∧ y.customerId = some profile.id) choice = some x :=
    findFirst_spelled hx hspelled (decide_eq_true ⟨hspelled, hcustomer⟩) fun y hy =>
      (of_decide_eq_true hy).1
  simp only [findOneByUser, hprofile, hfound, ledgerEntriesOf_ordered hscan hentries hsequence]

end Listing

structure AllFiled (db : Db) : Prop extends Filed db where
  credits : ∀ x ∈ db.transactions.rows, x.type.isPayment = false →
    ∃ debit credit, CreditFiled db x debit credit

section Steps

variable {sha256 : String → String} {s s' : State}

lemma CreditFiled.grows {db db' : Db} {x : Transaction} {debit credit : LedgerEntry}
    (h : CreditFiled db x debit credit)
    (hentries : (db'.ledgerEntries.rows.filter fun e => e.transactionId = x.id) =
      db.ledgerEntries.rows.filter fun e => e.transactionId = x.id) :
        CreditFiled db' x debit credit :=
  { h with entries := hentries.trans h.entries }

theorem AllFiled.files (h : AllFiled s.world.db) (hpersists : Persists s s')
    (hfiles : Files sha256 s s') :
    AllFiled s'.world.db := by
  refine ⟨h.toFiled.files hpersists hfiles, ?_⟩
  cases hfiles with
  | nothing htransactions hentries hkeys =>
    intro x hx hcredit
    obtain ⟨debit, credit, hfiled⟩ := h.credits x (htransactions ▸ hx) hcredit
    exact ⟨debit, credit, hfiled.grows (by rw [hentries])⟩
  | payment t c payment result p db row executes accepted applied accounts pays stores entered
    profiles trace =>
    intro x hx hcredit
    rw [entered.transactions] at hx
    rcases List.mem_append.mp hx with hx | hx
    · obtain ⟨debit, credit, hfiled⟩ := h.credits x hx hcredit
      exact ⟨debit, credit, hfiled.grows
        (entries_append entered.ledgerEntries p.entry_ids (applied.fresh hx))⟩
    · obtain rfl := List.mem_singleton.mp hx
      rw [pays.type, payment.request.isPayment_type] at hcredit
      cases hcredit
  | credit p accountId dto db applied accounts credits entered =>
    intro x hx hcredit
    rw [entered.transactions] at hx
    rcases List.mem_append.mp hx with hx | hx
    · obtain ⟨debit, credit, hfiled⟩ := h.credits x hx hcredit
      exact ⟨debit, credit, hfiled.grows
        (entries_append entered.ledgerEntries p.entry_ids (applied.fresh hx))⟩
    · obtain rfl := List.mem_singleton.mp hx
      exact ⟨p.debit, p.credit, p.posted, credits.type,
        entries_new h.owned (fun t ht => applied.fresh ht) entered.ledgerEntries, entered.postedAt,
        entered.sequences⟩

lemma PostedUnder.uniform {db : Db} {row : IdempotencyKey} {x : Transaction} {payment : Payment}
    {requestHash : String} {body : PaymentBody} {debit credit : LedgerEntry}
    (h : PostedUnder db row x payment requestHash body debit credit) (hx : x ∈ db.transactions.rows)
    (hrow : row ∈ db.idempotencyKeys.rows) (htype : payment.request.type ≠ .beneficiaryTransfer) :
    x.Uniform db := by
  obtain ⟨source, _, _, hdebit⟩ := h.debits
  obtain ⟨destination, _, hcredit⟩ := h.credits
  have hsequence : debit.sequence < credit.sequence := by
    rw [h.sequences.1, h.sequences.2]
    exact Nat.zero_lt_one
  constructor
  · exact fun hnone => htype (h.postedAt.mp hnone)
  · exact ⟨debit, credit, h.entries, hdebit.side, hcredit.side, hsequence,
      listedInOrder hx h.entries hsequence⟩
  · intro _
    refine ⟨row, hrow, ?_, h.payloadId, h.customer⟩
    rw [h.idempotencyKeyId, if_neg htype]

end Steps

/-- From an empty ledger on every transaction is posted, and it has the uniform record if and only
if it is a transfer between own accounts or a payment to a merchant. -/
theorem uniform_iff {sha256 : String → String} {w : World} {schedule : List Action} {b : Bank}
    (hkeys : w.db.idempotencyKeys.rows = []) (hempty : w.db.transactions.rows = [])
    (hforeign : w.db.EntriesOwned) (h : Bank.run sha256 (Bank.start w) schedule = some b) :
    ∀ x ∈ b.db.transactions.rows, x.status = .posted ∧
      (x.Uniform b.db ↔ x.type = .internalTransfer ∨ x.type = .merchantPayment) := by
  have hstart : Filed w.db := by
    constructor
    · intro row hrow
      simp [hkeys] at hrow
    · intro x hx
      simp [hempty] at hx
    · simp [hkeys]
    · exact hforeign
  have hfiled : AllFiled b.db :=
    run_files (P := fun s => AllFiled s.world.db) (fun _ _ hs hp hf => hs.files hp hf)
      ⟨hstart, fun x hx => by simp [hempty] at hx⟩ h
  intro x hx
  cases hpayment : x.type.isPayment with
  | false =>
    obtain ⟨debit, credit, hcredit⟩ := hfiled.credits x hx hpayment
    refine ⟨hcredit.posted, ?_⟩
    rw [hcredit.type]
    constructor
    · intro huniform
      exact absurd hcredit.postedAt huniform.postedAt
    · intro htype
      simp at htype
  | true =>
    obtain ⟨row, hrow, payment, requestHash, body, debit, credit, hposted⟩ :=
      hfiled.payments x hx hpayment
    refine ⟨hposted.posted, ?_⟩
    rw [hposted.type]
    by_cases htype : payment.request.type = .beneficiaryTransfer
    · rw [htype]
      constructor
      · intro huniform
        exact absurd (hposted.postedAt.mpr htype) huniform.postedAt
      · intro hother
        simp at hother
    · constructor
      · intro _
        rw [← hposted.type] at htype ⊢
        cases hx : x.type <;> simp_all [TransactionType.isPayment]
      · intro _
        exact hposted.uniform hx hrow htype

theorem demo_uniform : ∃ b, demoRun = some b ∧ ∀ x ∈ b.db.transactions.rows, x.status = .posted ∧
    (x.Uniform b.db ↔ x.type = .internalTransfer ∨ x.type = .merchantPayment) := by
  obtain ⟨b, hb⟩ := demoRun_isSome
  have hkeys : demoWorld.db.idempotencyKeys.rows.length = 0 := by decide +kernel
  have hentries : demoWorld.db.ledgerEntries.rows = [] := demoDb_seeded.shape.ledgerEntries
  refine ⟨b, hb, uniform_iff (List.eq_nil_of_length_eq_zero hkeys)
    demoDb_seeded.shape.transactions ?_ hb⟩
  simp [Db.EntriesOwned, hentries]

/-- A transfer to a beneficiary is posted without the time of its posting. -/
theorem beneficiary_transfer_not_uniform : ∃ b x,
    Bank.run demoSha256 (Bank.start demoWorld) demoBeneficiarySchedule = some b ∧
    x ∈ b.db.transactions.rows ∧ x.status = .posted ∧ x.type = .beneficiaryTransfer ∧
      ¬ x.Uniform b.db := by
  have heval : ((Bank.run demoSha256 (Bank.start demoWorld) demoBeneficiarySchedule).bind fun b =>
      b.db.transactions.rows.head?.map fun x => decide (x.status = .posted) &&
        (decide (x.type = .beneficiaryTransfer) && decide (x.postedAt = none))) = some true := by
    decide +kernel
  obtain ⟨b, hb, heval⟩ := Option.bind_eq_some_iff.mp heval
  obtain ⟨x, hhead, hall⟩ := Option.map_eq_some_iff.mp heval
  simp only [Bool.and_eq_true, decide_eq_true_eq] at hall
  obtain ⟨hposted, htype, hnone⟩ := hall
  exact ⟨b, x, hb, List.mem_of_head? hhead, hposted, htype, fun huniform => huniform.postedAt hnone⟩

end OnlineBanking
