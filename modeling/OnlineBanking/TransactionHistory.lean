import OnlineBanking.Conservation
import OnlineBanking.Notices
import OnlineBanking.Statements
import OnlineBanking.UniformRecords

set_option autoImplicit false

/-! The history of a customer beside the statements of the customer's accounts. -/

namespace OnlineBanking

open Library

namespace TransactionsService

structure TransactionSummary where
  id : Uuid
  type : TransactionType
  status : TransactionStatus
  amount : ℚ
  currency : String
  fromAccountId : Option Uuid
  toAccountId : Option Uuid
  description : Option String
  createdAt : Instant

def summary (x : Transaction) : TransactionSummary :=
  { x with }

/-- `scan` is the order in which the database comes by the rows, which decides between transactions
of one instant. -/
def findByUser (scan : List Transaction → List Transaction) (db : Db) (userId : Uuid) :
    Except Failure (List TransactionSummary) :=
  match db.customerProfiles.findAlt userId with
  | none => .error (.notFound "Customer profile not found")
  | some profile =>
    .ok ((((scan db.transactions.rows).filter fun x => x.customerId = some profile.id).insertionSort
      fun x x' => x'.createdAt ≤ x.createdAt).map summary)

end TransactionsService

/-- The transaction is in the history of the user and can be opened from there, in whichever order
the rows are come by. -/
structure Transaction.Seen (db : Db) (userId : Uuid) (x : Transaction) : Prop where
  listed : ∀ scan : List Transaction → List Transaction, (∀ xs, (scan xs).Perm xs) →
    ∃ listed, TransactionsService.findByUser scan db userId = .ok listed ∧
      TransactionsService.summary x ∈ listed
  opened : ∀ scan choice txId, x.id.spelledBy txId = true →
    findOneByUser scan choice db userId txId = .ok (x, ledgerEntriesOf scan db x.id)

structure Account.Stated (a : Account) (db : Db) (profile : CustomerProfile) : Prop where
  mem : a ∈ db.accounts.rows
  customer : a.customerId = profile.id
  ordinary : a.isSystem = false

/-- The transaction has an entry on an account that the customer can ask a statement of. -/
def Transaction.OnStatement (db : Db) (profile : CustomerProfile) (x : Transaction) : Prop :=
  ∃ a : Account, a.Stated db profile ∧ ∃ e ∈ db.ledgerEntries.rows, e.accountId = a.id ∧
    e.transactionId = x.id

/-- The transaction is a payment to such an account that another customer has made. -/
structure Transaction.FromAnother (db : Db) (profile : CustomerProfile) (x : Transaction)
    (source destination : Account) :
    Prop where
  payment : x.type.isPayment = true
  source_found : db.accounts.find source.id = some source
  from_source : x.fromAccountId = some source.id
  another : source.customerId ≠ profile.id
  to_destination : x.toAccountId = some destination.id
  destination : destination.Stated db profile

section Views

variable {db : Db} {profile : CustomerProfile} {x : Transaction}

lemma Transaction.seen_iff (hprofile : profile ∈ db.customerProfiles.rows)
    (hx : x ∈ db.transactions.rows) :
    x.Seen db profile.userId ↔ x.customerId = some profile.id := by
  have hfound : db.customerProfiles.findAlt profile.userId = some profile :=
    Table.findAlt_eq_some.mpr ⟨hprofile, rfl⟩
  constructor
  · intro h
    obtain ⟨listed, hlisted, hmem⟩ := h.listed (fun xs => xs) fun xs => .refl xs
    simp only [TransactionsService.findByUser, hfound, Except.ok.injEq] at hlisted
    rw [← hlisted, List.mem_map] at hmem
    obtain ⟨y, hy, hsummary⟩ := hmem
    rw [List.mem_insertionSort, List.mem_filter] at hy
    obtain ⟨hy, hcustomer⟩ := hy
    obtain rfl : y = x := db.transactions.eq_of_key_eq hy hx
      (congrArg TransactionsService.TransactionSummary.id hsummary)
    exact of_decide_eq_true hcustomer
  · intro hcustomer
    constructor
    · intro scan hscan
      refine ⟨_, by simp only [TransactionsService.findByUser, hfound]; rfl, List.mem_map_of_mem ?_⟩
      rw [List.mem_insertionSort, List.mem_filter]
      exact ⟨(hscan _).mem_iff.mpr hx, decide_eq_true hcustomer⟩
    · intro scan choice txId hspelled
      have hone : db.transactions.findFirst
          (fun y => y.id.spelledBy txId ∧ y.customerId = some profile.id) choice = some x :=
        findFirst_spelled hx hspelled (decide_eq_true ⟨hspelled, hcustomer⟩) fun y hy =>
          (of_decide_eq_true hy).1
      simp only [findOneByUser, hfound, hone]

lemma mem_of_mapM {ε α β : Type} {f : α → Except ε β} {xs : List α} {ys : List β}
    (h : xs.mapM f = .ok ys) {y : β} (hy : y ∈ ys) : ∃ x ∈ xs, f x = .ok y := by
  have hall := forall₂_of_mapM h
  clear h
  induction hall with
  | nil => cases hy
  | @cons x y' xs ys hx hrest ih =>
    rcases List.mem_cons.mp hy with rfl | hy
    · exact ⟨x, List.mem_cons_self, hx⟩
    · obtain ⟨x', hx', hy⟩ := ih hy
      exact ⟨x', List.mem_cons_of_mem _ hx', hy⟩

lemma transaction_of_statementEntry {e : LedgerEntry} {entry : StatementEntry}
    (h : statementEntry db e = .ok entry) :
    ∃ x ∈ db.transactions.rows, e.transactionId = x.id ∧ entry.transactionId = x.id := by
  unfold statementEntry at h
  split at h
  · rename_i x hx
    obtain rfl := Except.ok.inj h
    exact ⟨x, (Table.find_eq_some.mp hx).1, (Table.find_eq_some.mp hx).2.symm, rfl⟩
  · cases h

lemma onStatement_of_getStatement {newDate : String → Option ℤ} {choice : ℕ}
    {accountId «from» «to» : String} {statement : AccountStatement}
    (hprofile : profile ∈ db.customerProfiles.rows)
    (h : getStatement newDate choice db profile.userId accountId «from» «to» = .ok statement) :
    ∀ entry ∈ statement.entries, ∃ x ∈ db.transactions.rows, entry.transactionId = x.id ∧
      x.OnStatement db profile := by
  have hfound : db.customerProfiles.findAlt profile.userId = some profile :=
    Table.findAlt_eq_some.mpr ⟨hprofile, rfl⟩
  simp only [getStatement, hfound] at h
  split at h
  · cases h
  · rename_i account haccount
    obtain ⟨hmem, hp⟩ := Table.findFirst_eq_some haccount
    obtain ⟨hspelled, hcustomer, hordinary⟩ := of_decide_eq_true hp
    split at h
    · split at h
      · cases h
      · obtain ⟨entries, hentries, h⟩ := bind_eq_ok h
        obtain rfl := Except.ok.inj h
        intro entry hentry
        obtain ⟨e, he, hlisted⟩ := mem_of_mapM hentries hentry
        rw [List.mem_insertionSort, List.mem_filter] at he
        obtain ⟨he, hcond⟩ := he
        obtain ⟨x, hx, htransaction, hid⟩ := transaction_of_statementEntry hlisted
        refine ⟨x, hx, hid, account, ⟨hmem, hcustomer, hordinary⟩, e, he, ?_, htransaction⟩
        exact Uuid.eq_of_spelledBy (of_decide_eq_true hcond).1 hspelled rfl
    · cases h

end Views

/-- Payments are attributed to the customer who pays, credits to the one who is credited. -/
structure Transaction.Attributed (db : Db) (x : Transaction)
    (source destination : Account) : Prop where
  source_found : db.accounts.find source.id = some source
  destination_found : db.accounts.find destination.id = some destination
  from_source : x.fromAccountId = some source.id
  to_destination : x.toAccountId = some destination.id
  customer : x.customerId = some
    (if x.type.isPayment then source.customerId else destination.customerId)
  credit : x.type.isPayment = false → source.isSystem = true

def Db.Attributed (db : Db) : Prop :=
  ∀ x ∈ db.transactions.rows, ∃ source destination, x.Attributed db source destination

section Steps

variable {sha256 : String → String} {t : ℕ} {c : Call} {i : Inputs} {s s' : State} {db db' : Db}

lemma Knows.attributed (h : Knows db db') {x : Transaction} {source destination : Account}
    (hx : x.Attributed db source destination) :
    ∃ source' destination', x.Attributed db' source' destination' := by
  obtain ⟨source', hsource, hsourceCustomer, hsourceSystem⟩ := h.accounts _ _ hx.source_found
  obtain ⟨destination', hdestination, hdestinationCustomer, _⟩ :=
    h.accounts _ _ hx.destination_found
  have hsourceId := (Table.find_eq_some.mp hsource).2
  have hdestinationId := (Table.find_eq_some.mp hdestination).2
  refine ⟨source', destination', ?_, ?_, ?_, ?_, ?_, ?_⟩
  · exact Table.find_eq_some.mpr ⟨(Table.find_eq_some.mp hsource).1, rfl⟩
  · exact Table.find_eq_some.mpr ⟨(Table.find_eq_some.mp hdestination).1, rfl⟩
  · exact hx.from_source.trans (congrArg some hsourceId.symm)
  · exact hx.to_destination.trans (congrArg some hdestinationId.symm)
  · rw [hx.customer, hsourceCustomer, hdestinationCustomer]
  · exact fun hcredit => hsourceSystem.trans (hx.credit hcredit)

lemma Db.Attributed.knows (h : db.Attributed) (hrows : db'.transactions.rows = db.transactions.rows)
    (hknows : Knows db db') : db'.Attributed := by
  intro x hx
  obtain ⟨source, destination, hattributed⟩ := h x (hrows ▸ hx)
  exact hknows.attributed hattributed

lemma Db.Attributed.addNotifications (h : db.Attributed) (ns : List Notification) :
    (db.addNotifications ns).Attributed := by
  apply h.knows
  · rw [Db.addNotifications_transactions]
  · exact ⟨fun _ p hp => ⟨p, by rwa [Db.addNotifications_customerProfiles], rfl⟩,
      fun _ a ha => ⟨a, by rwa [Db.addNotifications_accounts], rfl, rfl⟩⟩

lemma Db.Attributed.applied {p : Posting} (h : db.Attributed) (applied : p.Applied db db')
    (hnew : p.transaction.Attributed db p.source p.destination) : db'.Attributed := by
  intro x hx
  rw [applied.transactions] at hx
  rcases List.mem_append.mp hx with hx | hx
  · obtain ⟨source, destination, hattributed⟩ := h x hx
    exact applied.knows.attributed hattributed
  · obtain rfl := List.mem_singleton.mp hx
    exact applied.knows.attributed hnew

lemma Posting.Pays.attributed {p : Posting} {payment : Payment} {requestHash : String}
    {result : ServiceResult PaymentBody} (h : p.Pays db payment requestHash result) :
    p.transaction.Attributed db p.source p.destination := by
  have hpayment : p.transaction.type.isPayment = true := by
    rw [h.type, payment.request.isPayment_type]
  constructor
  · exact h.payable.source_found
  · exact h.payable.destination_found
  · exact p.from_source
  · exact p.to_destination
  · rw [h.customer, if_pos hpayment]
  · intro hcredit
    rw [hpayment] at hcredit
    cases hcredit

lemma Posting.Credits.attributed {p : Posting} {accountId : Uuid} {dto : AdminCreditDto}
    (h : p.Credits db accountId dto) (applied : p.Applied db db') :
    p.transaction.Attributed db p.source p.destination := by
  have hcredit : p.transaction.type.isPayment = false := by
    rw [h.type]
    rfl
  constructor
  · exact applied.source_found
  · exact applied.destination_found
  · exact p.from_source
  · exact p.to_destination
  · simp [h.customer, hcredit]
  · exact fun _ => h.creditable.source_system

lemma Effect.attributed (h : Effect sha256 t c i s s') (hinv : s.world.db.Attributed) :
    s'.world.db.Attributed := by
  cases h.onDb with
  | notified ns db _ =>
    rw [db]
    exact hinv.addNotifications ns
  | posted payment result p posted ns due _ applied pays db _ =>
    rw [db]
    exact (hinv.applied applied pays.attributed).addNotifications ns
  | credited _ _ _ p posted ns _ applied credits db =>
    rw [db]
    exact (hinv.applied applied (credits.attributed applied)).addNotifications ns
  | kept _ frame => exact hinv.knows (by rw [frame.transactions]) frame.knows

end Steps

theorem run_attributed {sha256 : String → String} {w : World} {schedule : List Action} {b : Bank}
    (hstart : w.db.Attributed) (h : Bank.run sha256 (Bank.start w) schedule = some b) :
    b.db.Attributed := by
  let D := discipline sha256
  refine (D.shared_invariant (P := fun s : State => s.world.db.Attributed) ?_ ?_
    (D.init_holds w) hstart (Discipline.meets_true _ _) h).2
  · exact fun _ _ _ _ _ _ _ _ _ hP hg => Effect.attributed hg hP
  · intro e s hP
    have hkept := environment_kept e s.world
    exact hP.knows (by rw [hkept.transactions]) hkept.knows

/-- From an empty ledger on, the history of a customer covers the customer's statements if and only
if no payment has come in from another customer. -/
theorem history_covers_iff {sha256 : String → String} {w : World}
    {schedule : List Action} {b : Bank} (hempty : w.db.transactions.rows = [])
    (hforeign : w.db.EntriesOwned) (h : Bank.run sha256 (Bank.start w) schedule = some b) :
    ∀ profile ∈ b.db.customerProfiles.rows,
      (∀ x ∈ b.db.transactions.rows, x.OnStatement b.db profile → x.Seen b.db profile.userId) ↔
        ∀ x ∈ b.db.transactions.rows, ∀ source destination,
          ¬ x.FromAnother b.db profile source destination := by
  have hattributed : b.db.Attributed := run_attributed (fun x hx => by simp [hempty] at hx) h
  obtain ⟨hentered, -, -⟩ := run_doubleEntered hempty hforeign h
  intro profile hprofile
  constructor
  · intro hcovers x hx source destination hanother
    obtain ⟨debit, credit, src, dst, hentries, -, hdst, -, hcredit⟩ := (hentered x hx).two
    have hmem : credit ∈ b.db.ledgerEntries.rows := by
      have hlisted : credit ∈ b.db.ledgerEntries.rows.filter fun e => e.transactionId = x.id := by
        simp [hentries]
      exact (List.mem_filter.mp hlisted).1
    have hid : dst = destination.id := Option.some.inj (hdst.symm.trans hanother.to_destination)
    have hstatement : x.OnStatement b.db profile :=
      ⟨destination, hanother.destination, credit, hmem, hcredit.accountId.trans hid,
        hcredit.transactionId⟩
    -- the paying customer is the one that the payment is attributed to
    have hcustomer := (Transaction.seen_iff hprofile hx).mp (hcovers x hx hstatement)
    obtain ⟨source', destination', hx'⟩ := hattributed x hx
    have hsource : source'.id = source.id :=
      Option.some.inj (hx'.from_source.symm.trans hanother.from_source)
    have hfound := hx'.source_found
    rw [hsource, hanother.source_found] at hfound
    obtain rfl := Option.some.inj hfound
    rw [hx'.customer, if_pos hanother.payment] at hcustomer
    exact hanother.another (Option.some.inj hcustomer)
  · rintro hnone x hx ⟨account, hstated, e, he, haccount, htransaction⟩
    obtain ⟨source, destination, hx'⟩ := hattributed x hx
    have hfound : b.db.accounts.find account.id = some account :=
      Table.find_eq_some.mpr ⟨hstated.mem, rfl⟩
    -- the entry is the debit or the credit, so the account is the source or the destination
    have hside : account = source ∨ account = destination := by
      obtain ⟨debit, credit, src, dst, hentries, hsrc, hdst, hdebit, hcredit⟩ := (hentered x hx).two
      have hlisted : e ∈ b.db.ledgerEntries.rows.filter fun e => e.transactionId = x.id :=
        List.mem_filter.mpr ⟨he, decide_eq_true htransaction⟩
      rw [hentries] at hlisted
      rcases List.mem_pair.mp hlisted with rfl | rfl
      · left
        have hid : account.id = source.id := by
          rw [← haccount, hdebit.accountId]
          exact Option.some.inj (hsrc.symm.trans hx'.from_source)
        exact Option.some.inj (hfound.symm.trans (hid ▸ hx'.source_found))
      · right
        have hid : account.id = destination.id := by
          rw [← haccount, hcredit.accountId]
          exact Option.some.inj (hdst.symm.trans hx'.to_destination)
        exact Option.some.inj (hfound.symm.trans (hid ▸ hx'.destination_found))
    rw [Transaction.seen_iff hprofile hx, hx'.customer]
    cases hpayment : x.type.isPayment with
    | true =>
      rw [if_pos rfl]
      rcases hside with rfl | rfl
      · rw [hstated.customer]
      · by_contra hanother
        exact hnone x hx source account ⟨hpayment, hx'.source_found, hx'.from_source,
          fun heq => hanother (congrArg some heq), hx'.to_destination, hstated⟩
    | false =>
      rw [if_neg Bool.false_ne_true]
      rcases hside with rfl | rfl
      · exact absurd (hx'.credit hpayment) (by simp [hstated.ordinary])
      · rw [hstated.customer]

theorem demo_history_covers : ∃ b, demoRun = some b ∧ ∀ profile ∈ b.db.customerProfiles.rows,
    (∀ x ∈ b.db.transactions.rows, x.OnStatement b.db profile → x.Seen b.db profile.userId) ↔
      ∀ x ∈ b.db.transactions.rows, ∀ source destination,
        ¬ x.FromAnother b.db profile source destination := by
  obtain ⟨b, hb⟩ := demoRun_isSome
  have hentries : demoWorld.db.ledgerEntries.rows = [] := demoDb_seeded.shape.ledgerEntries
  refine ⟨b, hb, history_covers_iff demoDb_seeded.shape.transactions ?_ hb⟩
  simp [Db.EntriesOwned, hentries]

def neighbourDto : RegisterDto where
  email := "neighbour@bank.local"
  password := "Correct-Horse-1"
  firstName := "Nia"
  lastName := "Neighbour"

def neighbourInputs (n : ℕ) : Inputs := { demoInputs n with iban := "0000000000000007" }

def neighbourBeneficiary : CreateBeneficiaryDto where
  name := "Nia"
  iban := "RO00BANK0000000000000007"
  «alias» := .undefined

def neighbourTransfer : TransferToBeneficiaryDto where
  sourceAccountId := (demoIds .sourceAccount).text
  beneficiaryId := ((demoInputs 7).uuid .beneficiaryWrite).text
  amount := DemoAmount.small.decimal
  currency := "RON"
  accepted := by decide +kernel

def neighbourSchedule : List Action :=
  [.spawn 0 (.register neighbourDto), .act 0 (neighbourInputs 0), .act 0 (neighbourInputs 1),
    .act 0 (neighbourInputs 2), .act 0 (neighbourInputs 3), .act 0 (neighbourInputs 4),
    .spawn 1 (.createBeneficiary (demoIds .user) neighbourBeneficiary), .act 1 (demoInputs 5),
    .act 1 (demoInputs 6),
    .act 1 (demoInputs 7), .act 1 (demoInputs 8),
    .spawn 2 (.payment (demoIds .user) (.beneficiaryTransfer neighbourTransfer) "k1"),
    .act 2 (demoInputs 9),
    .act 2 (demoInputs 10)]

/-- The transfer is on the statement of the account that received it and not in the history of its
customer. -/
theorem received_transfer_not_seen : ∃ b profile x,
    Bank.run demoSha256 (Bank.start demoWorld) neighbourSchedule = some b ∧
    profile ∈ b.db.customerProfiles.rows ∧ x ∈ b.db.transactions.rows ∧ x.status = .posted ∧
    x.OnStatement b.db profile ∧ ¬ x.Seen b.db profile.userId := by
  have heval : ((Bank.run demoSha256 (Bank.start demoWorld) neighbourSchedule).bind fun b =>
      b.db.customerProfiles.rows.getLast?.bind fun profile =>
        b.db.accounts.rows.getLast?.bind fun a =>
        b.db.transactions.rows.head?.bind fun x => b.db.ledgerEntries.rows.getLast?.map fun e =>
          decide (x.status = .posted) &&
            (decide (a.customerId = profile.id) && (decide (a.isSystem = false) &&
            (decide (e.accountId = a.id) && (decide (e.transactionId = x.id) &&
              decide (x.customerId ≠ some profile.id)))))) = some true := by
    decide +kernel
  obtain ⟨b, hb, heval⟩ := Option.bind_eq_some_iff.mp heval
  obtain ⟨profile, hprofile, heval⟩ := Option.bind_eq_some_iff.mp heval
  obtain ⟨a, ha, heval⟩ := Option.bind_eq_some_iff.mp heval
  obtain ⟨x, hx, heval⟩ := Option.bind_eq_some_iff.mp heval
  obtain ⟨e, he, hall⟩ := Option.map_eq_some_iff.mp heval
  simp only [Bool.and_eq_true, decide_eq_true_eq] at hall
  obtain ⟨hposted, hcustomer, hordinary, haccount, htransaction, hanother⟩ := hall
  have hprofile := List.mem_of_getLast? hprofile
  have hx := List.mem_of_head? hx
  refine ⟨b, profile, x, hb, hprofile, hx, hposted, ?_, ?_⟩
  · exact ⟨a, ⟨List.mem_of_getLast? ha, hcustomer, hordinary⟩, e, List.mem_of_getLast? he, haccount,
      htransaction⟩
  · exact fun hseen => hanother ((Transaction.seen_iff hprofile hx).mp hseen)

end OnlineBanking
