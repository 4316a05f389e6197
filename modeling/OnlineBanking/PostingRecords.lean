import OnlineBanking.Attempts
import OnlineBanking.Library.Stages
import OnlineBanking.Log

set_option autoImplicit false

/-! The rows that each kind of posting writes, held against its request and its answer. -/

namespace OnlineBanking

open Library Callback

namespace PaymentRequest

def scope : PaymentRequest → String
  | internalTransfer _ => transferScope
  | beneficiaryTransfer _ => beneficiaryTransferScope
  | merchantPayment _ => merchantPaymentScope

def auditAction : PaymentRequest → String
  | internalTransfer _ => "PAYMENT_TRANSFER_POSTED"
  | beneficiaryTransfer _ => "BENEFICIARY_TRANSFER_POSTED"
  | merchantPayment _ => "MERCHANT_PAYMENT_POSTED"

def auditAmount : PaymentRequest → String
  | internalTransfer dto => dto.amount.toString
  | beneficiaryTransfer dto => dto.amount.toFixed 2
  | merchantPayment dto => dto.amount.toFixed 2

end PaymentRequest

namespace PaymentBody

def transactionId : PaymentBody → String
  | transfer b => b.transactionId
  | beneficiary b => b.transactionId
  | merchant b => b.transactionId

def sourceAccountId : PaymentBody → String
  | transfer b => b.sourceAccountId
  | beneficiary b => b.sourceAccountId
  | merchant b => b.sourceAccountId

def amount : PaymentBody → String
  | transfer b => b.amount
  | beneficiary b => b.amount
  | merchant b => b.amount

def currency : PaymentBody → String
  | transfer b => b.currency
  | beneficiary b => b.currency
  | merchant b => b.currency

end PaymentBody

/-- What a posted payment adds to the tables of its records. Only a transfer to a beneficiary says
neither when it was posted nor under which key. -/
structure Entered (db db' : Db) (payment : Payment) (body : PaymentBody) (x : Transaction)
    (debit credit : LedgerEntry) (row : IdempotencyKey) (audit : AuditEvent) : Prop where
  transactions : db'.transactions.rows = db.transactions.rows ++ [x]
  ledgerEntries : db'.ledgerEntries.rows = db.ledgerEntries.rows ++ [debit, credit]
  idempotencyKeys : db'.idempotencyKeys.rows = db.idempotencyKeys.rows ++ [row]
  auditEvents : db'.auditEvents.rows = db.auditEvents.rows ++ [audit]
  scope : row.scope = payment.request.scope
  transactionId : body.transactionId = x.id.text
  sourceAccountId : some body.sourceAccountId = x.fromAccountId.map Uuid.text
  amount : body.amount = payment.request.amount.toFixed 2
  currency : body.currency = x.currency
  postedAt : x.postedAt = none ↔ payment.request.type = .beneficiaryTransfer
  idempotencyKeyId : x.idempotencyKeyId =
    if payment.request.type = .beneficiaryTransfer then none else some row.id
  sequences : debit.sequence = 0 ∧ credit.sequence = 1
  action : audit.action = payment.request.auditAction
  resourceId : audit.resourceId = some x.id.text
  auditAmount : audit.metadata.bind (Json.strField "amount") = some payment.request.auditAmount

/-- What a posted credit adds. Its entries leave the sequence to the default of the column. -/
structure CreditEntered (db db' : Db) (x : Transaction) (debit credit : LedgerEntry)
    (audit : AuditEvent) :
    Prop where
  transactions : db'.transactions.rows = db.transactions.rows ++ [x]
  ledgerEntries : db'.ledgerEntries.rows = db.ledgerEntries.rows ++ [debit, credit]
  idempotencyKeys : db'.idempotencyKeys = db.idempotencyKeys
  auditEvents : db'.auditEvents.rows = db.auditEvents.rows ++ [audit]
  postedAt : x.postedAt = none
  idempotencyKeyId : x.idempotencyKeyId = none
  sequences : debit.sequence = 0 ∧ credit.sequence = 0
  action : audit.action = "ACCOUNT_CREDITED_BY_ADMIN"
  resourceId : audit.resourceId = some x.id.text

def Enters (db db' : Db) (payment : Payment) (result : ServiceResult PaymentBody) : Prop :=
  db' = db ∨ ∃ x debit credit row audit, Entered db db' payment result.body x debit credit row audit

lemma insert_pair {ρ κ ν : Type} [Record ρ κ ν] [DecidableEq κ] [DecidableEq ν]
    {t u v : Table ρ} {r r' : ρ} (h : t.insert r = some u) (h' : u.insert r' = some v) :
    v.rows = t.rows ++ [r, r'] := by
  rw [(Table.insert_eq_some.mp h').2.2, (Table.insert_eq_some.mp h).2.2]
  simp

section Callbacks

variable {i : TxInputs} {db : Db} {userId profileId : Uuid} {key requestHash : String}
variable {idemRow : IdempotencyKey} {keys : Table IdempotencyKey}

lemma failKey_enters {α : Type} {failure : Failure} {s : Session Db Notification}
    {Q : α → Session Db Notification → Prop} (ha : s.aborted = false) :
    Ends i (failKey idemRow failure) s Q fun _ _ => True :=
  failKey_ends ha fun _ _ _ => trivial

lemma postTransfer_enters {dto : CreateTransferDto} {source destination : Account}
    (hkeys : db.idempotencyKeys.insert idemRow = some keys)
    (hscope : idemRow.scope = transferScope) :
    Ends i (postTransfer userId profileId dto key "RON" idemRow source destination)
      { db := { db with idempotencyKeys := keys } }
      (fun r s => s.aborted = false ∧
          Enters db s.db ⟨userId, .internalTransfer dto, key⟩ (r.map .transfer))
      (fun _ _ => True) := by
  unfold postTransfer
  apply ends_bind
  apply Tx.ends_updateMany rfl (fun _ => trivial)
  split
  · exact ends_throw trivial
  · refine ends_bind (Tx.ends_update rfl (fun _ _ => trivial) fun _ _ => ?_)
    refine ends_bind (Tx.ends_newDate fun now => ?_)
    refine ends_bind (Tx.ends_create rfl (fun _ => trivial) fun txn transactions htxn htxns => ?_)
    refine ends_bind (Tx.ends_create rfl (fun _ => trivial) fun debit entries hdebit hentries => ?_)
    refine ends_bind (Tx.ends_create rfl (fun _ => trivial)
      fun credit entries' hcredit hentries' => ?_)
    refine ends_bind (Tx.ends_create rfl (fun _ => trivial)
      fun audit auditEvents haudit haudits => ?_)
    refine ends_bind (Tx.ends_notificationsCreate fun ns hns => ?_)
    refine ends_bind (Tx.ends_update rfl (fun _ _ => trivial) fun _ _ => ?_)
    subst htxn hdebit hcredit haudit
    apply ends_pure
    refine ⟨rfl, .inr ⟨_, _, _, _, _, (Table.insert_eq_some.mp htxns).2.2,
      insert_pair hentries hentries',
      Table.insert_modify_rows hkeys _, (Table.insert_eq_some.mp haudits).2.2, hscope, rfl, rfl,
      rfl, rfl, ?_, rfl,
      ⟨rfl, rfl⟩, rfl, rfl, rfl⟩⟩
    simp [PaymentRequest.type]

lemma reserveTransferKey_enters :
    Ends i (reserveTransferKey userId key requestHash) { db }
      (fun r s => ∃ idemRow keys, r = .inr idemRow ∧
          s = { db := { db with idempotencyKeys := keys } } ∧
        db.idempotencyKeys.insert idemRow = some keys ∧ idemRow.scope = transferScope)
      (fun _ _ => True) := by
  unfold reserveTransferKey
  refine ends_tryCatch (ends_bind (Tx.ends_create rfl (fun e => ?_) fun r keys hr hkeys => ?_))
  · dsimp only
    split
    · unfold findKey
      exact ends_bind (Tx.ends_read_aborted rfl trivial)
    · exact ends_throw trivial
  · subst hr
    exact ends_pure ⟨_, keys, rfl, rfl, hkeys, rfl⟩

variable (i db userId key requestHash) in
theorem executeTransferTx_enters (dto : CreateTransferDto) :
    Ends i (executeTransferTx userId dto key "RON" requestHash) { db }
      (fun r s => s.aborted = false ∧
          Enters db s.db ⟨userId, .internalTransfer dto, key⟩ (r.map .transfer))
      (fun _ _ => True) := by
  unfold executeTransferTx findKey findOwnAccount
  refine ends_bind (Tx.ends_read rfl (fun _ _ => trivial) fun existing _ => ?_)
  cases existing with
  | some row =>
    dsimp only
    split
    · unfold replayCompletedTransfer
      split
      · exact ends_throw trivial
      · split
        · exact ends_throw trivial
        · exact ends_pure ⟨rfl, .inl rfl⟩
    · exact ends_throw trivial
  | none =>
    refine ends_bind (ends_mono reserveTransferKey_enters ?_ fun _ _ h => h)
    rintro _ _ ⟨idemRow, keys, rfl, rfl, hkeys, hscope⟩
    refine ends_bind (Tx.ends_read rfl (fun _ _ => trivial) fun found _ => ?_)
    cases found with
    | none => exact ends_throw trivial
    | some profile =>
      refine ends_bind (Tx.ends_read rfl (fun _ _ => trivial) fun source _ => ?_)
      refine ends_bind (Tx.ends_read rfl (fun _ _ => trivial) fun destination _ => ?_)
      match source, destination with
      | none, _ => exact ends_throw trivial
      | some _, none => exact ends_throw trivial
      | some source, some destination =>
        dsimp only
        split
        · exact ends_throw trivial
        · exact postTransfer_enters hkeys hscope

lemma replayKey_enters {β : Type} {row : IdempotencyKey} {parse : Option Json → Option β}
    {body : β → PaymentBody} {payment : Payment} :
    Ends i (replayKey row requestHash parse) { db }
      (fun r s => s.aborted = false ∧ Enters db s.db payment (r.map body)) fun _ _ => True := by
  refine ends_mono replayKey_replays (fun r s h => ?_) fun _ _ h => h
  rw [h.1]
  exact ⟨rfl, .inl rfl⟩

lemma postBeneficiaryTransfer_enters {dto : TransferToBeneficiaryDto} {source destination : Account}
    {sender : CustomerProfile} {recipient : Option CustomerProfile} {beneficiary : Beneficiary}
    (hkeys : db.idempotencyKeys.insert idemRow = some keys)
    (hscope : idemRow.scope = beneficiaryTransferScope) :
    Ends i (postBeneficiaryTransfer userId profileId dto "RON" idemRow source sender
      beneficiary destination
        recipient) { db := { db with idempotencyKeys := keys } }
      (fun r s => s.aborted = false ∧
        Enters db s.db ⟨userId, .beneficiaryTransfer dto, key⟩ (r.map .beneficiary))
      (fun _ _ => True) := by
  unfold postBeneficiaryTransfer
  apply ends_bind
  apply Tx.ends_updateMany rfl (fun _ => trivial)
  split
  · exact failKey_enters rfl
  · refine ends_bind (Tx.ends_update rfl (fun _ _ => trivial) fun _ _ => ?_)
    refine ends_bind (Tx.ends_create rfl (fun _ => trivial) fun txn transactions htxn htxns => ?_)
    refine ends_bind (Tx.ends_create rfl (fun _ => trivial) fun debit entries hdebit hentries => ?_)
    refine ends_bind (Tx.ends_create rfl (fun _ => trivial)
      fun credit entries' hcredit hentries' => ?_)
    refine ends_bind (Tx.ends_newDate fun now => ?_)
    refine ends_bind (Tx.ends_update rfl (fun _ _ => trivial) fun _ _ => ?_)
    refine ends_bind (Tx.ends_create rfl (fun _ => trivial)
      fun audit auditEvents haudit haudits => ?_)
    refine ends_bind (Tx.ends_notificationsCreate fun ns hns => ?_)
    refine ends_bind (notifyRecipient_ends fun ms hms => ?_)
    subst htxn hdebit hcredit haudit
    apply ends_pure
    refine ⟨rfl, .inr ⟨_, _, _, _, _, (Table.insert_eq_some.mp htxns).2.2,
      insert_pair hentries hentries',
      Table.insert_modify_rows hkeys _, (Table.insert_eq_some.mp haudits).2.2, hscope, rfl, rfl,
      rfl, rfl, ?_, rfl,
      ⟨rfl, rfl⟩, rfl, rfl, rfl⟩⟩
    simp [PaymentRequest.type]

variable (i db userId profileId key requestHash) in
theorem executeBeneficiaryTransferTx_enters (dto : TransferToBeneficiaryDto) :
    Ends i (executeBeneficiaryTransferTx userId profileId dto key "RON" requestHash) { db }
      (fun r s => s.aborted = false ∧
        Enters db s.db ⟨userId, .beneficiaryTransfer dto, key⟩ (r.map .beneficiary))
      (fun _ _ => True) := by
  unfold executeBeneficiaryTransferTx findKey createKey
  refine ends_bind (Tx.ends_read rfl (fun _ _ => trivial) fun existing _ => ?_)
  cases existing with
  | some row => exact replayKey_enters
  | none =>
    refine ends_bind (Tx.ends_create rfl (fun _ => trivial) fun idemRow keys hrow hkeys => ?_)
    subst hrow
    refine ends_bind (Tx.ends_readWith rfl (fun _ => trivial) (fun _ => ends_throw trivial) ?_)
    intro source sender _ _
    dsimp only
    split
    · exact failKey_enters rfl
    · refine ends_bind (Tx.ends_read rfl (fun _ _ => trivial) fun found _ => ?_)
      cases found with
      | none => exact ends_throw trivial
      | some beneficiary =>
        refine ends_bind (ends_mono (resolveDestination_ends (E := fun _ _ => True) rfl fun _ _ _ =>
          trivial)
          ?_ fun _ _ h => h)
        rintro ⟨destination, recipient⟩ _ ⟨rfl, _⟩
        dsimp only
        split
        · exact ends_throw trivial
        · exact postBeneficiaryTransfer_enters hkeys rfl

lemma postMerchantPayment_enters {dto : PayMerchantDto} {source : Account} {merchant : Merchant}
    (hkeys : db.idempotencyKeys.insert idemRow = some keys)
    (hscope : idemRow.scope = merchantPaymentScope) :
    Ends i (postMerchantPayment userId profileId dto "RON" idemRow source merchant)
      { db := { db with idempotencyKeys := keys } }
      (fun r s => s.aborted = false ∧
          Enters db s.db ⟨userId, .merchantPayment dto, key⟩ (r.map .merchant))
      (fun _ _ => True) := by
  unfold postMerchantPayment
  apply ends_bind
  apply Tx.ends_updateMany rfl (fun _ => trivial)
  split
  · exact failKey_enters rfl
  · refine ends_bind (Tx.ends_update rfl (fun _ _ => trivial) fun _ _ => ?_)
    refine ends_bind (Tx.ends_newDate fun now => ?_)
    refine ends_bind (Tx.ends_create rfl (fun _ => trivial) fun txn transactions htxn htxns => ?_)
    refine ends_bind (Tx.ends_create rfl (fun _ => trivial) fun debit entries hdebit hentries => ?_)
    refine ends_bind (Tx.ends_create rfl (fun _ => trivial)
      fun credit entries' hcredit hentries' => ?_)
    refine ends_bind (Tx.ends_update rfl (fun _ _ => trivial) fun _ _ => ?_)
    refine ends_bind (Tx.ends_create rfl (fun _ => trivial)
      fun audit auditEvents haudit haudits => ?_)
    refine ends_bind (Tx.ends_create rfl (fun _ => trivial)
      fun notice notices hnotice hnotices => ?_)
    subst htxn hdebit hcredit haudit
    apply ends_pure
    refine ⟨rfl, .inr ⟨_, _, _, _, _, (Table.insert_eq_some.mp htxns).2.2,
      insert_pair hentries hentries',
      Table.insert_modify_rows hkeys _, (Table.insert_eq_some.mp haudits).2.2, hscope, rfl, rfl,
      rfl, rfl, ?_, rfl,
      ⟨rfl, rfl⟩, rfl, rfl, rfl⟩⟩
    simp [PaymentRequest.type]

variable (i db userId profileId key requestHash) in
theorem executeMerchantPaymentTx_enters (dto : PayMerchantDto) :
    Ends i (executeMerchantPaymentTx userId profileId dto key "RON" requestHash) { db }
      (fun r s => s.aborted = false ∧
          Enters db s.db ⟨userId, .merchantPayment dto, key⟩ (r.map .merchant))
      (fun _ _ => True) := by
  unfold executeMerchantPaymentTx findKey createKey
  refine ends_bind (Tx.ends_read rfl (fun _ _ => trivial) fun existing _ => ?_)
  cases existing with
  | some row => exact replayKey_enters
  | none =>
    refine ends_bind (Tx.ends_create rfl (fun _ => trivial) fun idemRow keys hrow hkeys => ?_)
    subst hrow
    refine ends_bind (Tx.ends_read rfl (fun _ _ => trivial) fun found _ => ?_)
    cases found with
    | none => exact ends_throw trivial
    | some source =>
      refine ends_bind (Tx.ends_readWith rfl (fun _ => trivial) (fun _ => ends_throw trivial) ?_)
      intro merchant settlement _ _
      dsimp only
      split
      · exact ends_throw trivial
      · split
        · exact ends_throw trivial
        · exact postMerchantPayment_enters hkeys rfl

theorem callback_enters {sha256 : String → String} {payment : Payment} {β : Type}
    {callback : Tx (ServiceResult β)} {body : β → PaymentBody}
    (h : PaymentCallback sha256 payment profileId callback body) (i : TxInputs) (db : Db) :
    Ends i callback { db } (fun r s => s.aborted = false ∧ Enters db s.db payment (r.map body))
      fun _ _ => True := by
  obtain ⟨userId, request, key⟩ := payment
  cases h with
  | transfer dto currency ron hrequest =>
    subst ron hrequest
    exact executeTransferTx_enters i db userId key _ dto
  | beneficiary dto currency ron hrequest =>
    subst ron hrequest
    exact executeBeneficiaryTransferTx_enters i db userId profileId key _ dto
  | merchant dto currency ron hrequest =>
    subst ron hrequest
    exact executeMerchantPaymentTx_enters i db userId profileId key _ dto

theorem creditAccountTx_enters (i : TxInputs) (db : Db) (adminUserId accountId : Uuid)
    (dto : AdminCreditDto) :
    Ends i (creditAccountTx adminUserId accountId dto) { db }
      (fun _ s => s.aborted = false ∧
          ∃ x debit credit audit, CreditEntered db s.db x debit credit audit)
      (fun _ _ => True) := by
  unfold creditAccountTx
  refine ends_bind (Tx.ends_readWith rfl (fun _ => trivial) (fun _ => ends_throw trivial) ?_)
  intro target customer _ _
  dsimp only
  split
  · exact ends_throw trivial
  · split
    · exact ends_throw trivial
    · refine ends_bind (Tx.ends_read rfl (fun _ _ => trivial) fun found _ => ?_)
      cases found with
      | none => exact ends_throw trivial
      | some system =>
        refine ends_bind (Tx.ends_update rfl (fun _ _ => trivial) fun _ _ => ?_)
        refine ends_bind (Tx.ends_update rfl (fun _ _ => trivial) fun _ _ => ?_)
        refine ends_bind (Tx.ends_create rfl (fun _ => trivial)
          fun txn transactions htxn htxns => ?_)
        refine ends_bind (Tx.ends_create rfl (fun _ => trivial)
          fun debit entries hdebit hentries => ?_)
        refine ends_bind (Tx.ends_create rfl (fun _ => trivial)
          fun credit entries' hcredit hentries' => ?_)
        refine ends_bind (Tx.ends_create rfl (fun _ => trivial)
          fun audit auditEvents haudit haudits => ?_)
        refine ends_bind (Tx.ends_notificationsCreate fun ns hns => ?_)
        subst htxn hdebit hcredit haudit
        exact ends_pure ⟨rfl, _, _, _, _, (Table.insert_eq_some.mp htxns).2.2,
          insert_pair hentries hentries',
          rfl, (Table.insert_eq_some.mp haudits).2.2, rfl, rfl, ⟨rfl, rfl⟩, rfl, rfl⟩

end Callbacks

@[simp] lemma Db.addNotifications_auditEvents (db : Db) (ns : List Notification) :
    (db.addNotifications ns).auditEvents = db.auditEvents := by
  obtain ⟨t, ht, _⟩ := db.addNotifications_eq ns
  rw [ht]

def Credited (s s' : State) : Prop :=
  s'.world.db.transactions = s.world.db.transactions ∨ ∃ db ns x debit credit audit,
    CreditEntered s.world.db db x debit credit audit ∧ s'.world.db = db.addNotifications ns

section Discipline

variable {sha256 : String → String} {t : ℕ} {c : Call} {i : Inputs} {s s' : State}

lemma creditAccount_credited {adminUserId accountId : Uuid} {dto : AdminCreditDto} :
    (handle sha256 (.creditAccount adminUserId accountId dto)).Safe (Rely t) (fun _ _ => True)
      (fun _ => Credited) t (fun _ _ => True) s := by
  apply (creditAccount_entered
    (P := fun _ db db' => ∃ x debit credit audit, CreditEntered db db' x debit credit audit)
    fun i db => creditAccountTx_enters i db adminUserId accountId dto).guar
  rintro i s s' (hsame | ⟨db, ns, ⟨x, debit, credit, audit, entered⟩, hdb⟩)
  · exact .inl hsame
  · exact .inr ⟨db, ns, x, debit, credit, audit, entered, hdb⟩

def recordDiscipline (sha256 : String → String) :
    Discipline (E := Event) (handle sha256) environment :=
  (certifiedDiscipline sha256 Enters fun _ _ _ _ _ h i db _ => callback_enters h i db).strengthen
    (fun _ c _ s s' => ∀ adminUserId accountId dto, c = .creditAccount adminUserId accountId dto →
      Credited s s') fun t c s _ => by
    cases c with
    | creditAccount adminUserId accountId dto =>
      exact creditAccount_credited.guar fun _ _ _ h _ _ _ _ => h
    | _ => exact Prog.Safe.of_true (fun _ _ _ _ _ _ h => by cases h) fun _ _ => trivial

lemma Entered.addNotifications {db db' : Db} {payment : Payment} {body : PaymentBody}
    {x : Transaction} {debit credit : LedgerEntry} {row : IdempotencyKey} {audit : AuditEvent}
    (h : Entered db db' payment body x debit credit row audit) (ns : List Notification) :
    Entered db (db'.addNotifications ns) payment body x debit credit row audit :=
  { h with
    transactions := by simpa using h.transactions
    ledgerEntries := by simpa using h.ledgerEntries
    idempotencyKeys := by simpa using h.idempotencyKeys
    auditEvents := by simpa using h.auditEvents }

lemma CreditEntered.addNotifications {db db' : Db} {x : Transaction} {debit credit : LedgerEntry}
    {audit : AuditEvent} (h : CreditEntered db db' x debit credit audit) (ns : List Notification) :
    CreditEntered db (db'.addNotifications ns) x debit credit audit :=
  { h with
    transactions := by simpa using h.transactions
    ledgerEntries := by simpa using h.ledgerEntries
    idempotencyKeys := by simpa using h.idempotencyKeys
    auditEvents := by simpa using h.auditEvents }

inductive Files (sha256 : String → String) (s s' : State) : Prop
  | nothing (transactions : s'.world.db.transactions = s.world.db.transactions)
      (ledgerEntries : s'.world.db.ledgerEntries = s.world.db.ledgerEntries)
      (idempotencyKeys : s'.world.db.idempotencyKeys = s.world.db.idempotencyKeys)
  | payment (t : ℕ) (c : Call) (payment : Payment) (result : ServiceResult PaymentBody)
      (p : Posting) (db : Db)
      (row : IdempotencyKey) (executes : Executes t s c payment) (accepted : payment.Accepted)
      (applied : p.Applied s.world.db db) (accounts : s'.world.db.accounts = db.accounts)
      (pays : p.Pays s.world.db payment (payment.request.hash sha256) result)
      (stores : row.Stores payment (payment.request.hash sha256) result.body)
      (entered : Entered s.world.db s'.world.db payment result.body p.transaction p.debit
        p.credit row p.audit)
      (profiles : s'.world.db.customerProfiles = s.world.db.customerProfiles)
      (trace : s'.trace = s.trace ++ [(t, .committed payment result [p.transaction])])
  | credit (p : Posting) (accountId : Uuid) (dto : AdminCreditDto) (db : Db)
      (applied : p.Applied s.world.db db) (accounts : s'.world.db.accounts = db.accounts)
      (credits : p.Credits s.world.db accountId dto)
      (entered : CreditEntered s.world.db s'.world.db p.transaction p.debit p.credit p.audit)

lemma Effect.files (h : Effect sha256 t c i s s') (hpaid : c.payer ≠ none → Certified Enters s s')
    (hcredited : ∀ adminUserId accountId dto, c = .creditAccount adminUserId accountId dto →
      Credited s s') :
    Files sha256 s s' := by
  cases h.onDb with
  | notified ns db _ => exact .nothing (by simp [db]) (by simp [db]) (by simp [db])
  | kept _ frame => exact .nothing frame.transactions frame.ledgerEntries frame.idempotencyKeys
  | posted payment result p posted ns due first applied pays db trace =>
    obtain ⟨k, hk, stores⟩ := pays.key
    have hpayer : c.payer ≠ none := by simp [due.executes.payer]
    obtain ⟨db', ms, henters, hdb⟩ := hpaid hpayer t payment result [p.transaction] trace
    have hrows : s'.world.db.transactions.rows = s.world.db.transactions.rows ++
        [p.transaction] := by
      simp [db, applied.transactions]
    have hentries : s'.world.db.ledgerEntries.rows = s.world.db.ledgerEntries.rows ++
        [p.debit, p.credit] := by
      simp [db, applied.ledgerEntries]
    have hkeys : s'.world.db.idempotencyKeys.rows = s.world.db.idempotencyKeys.rows ++ [k] := by
      simp [db, applied.idempotencyKeys, hk]
    have haudits : s'.world.db.auditEvents.rows = s.world.db.auditEvents.rows ++ [p.audit] := by
      simp [db, applied.auditEvents]
    rcases henters with hsame | ⟨x, debit, credit, row, audit, entered⟩
    · rw [hdb, hsame, Db.addNotifications_transactions] at hrows
      simp at hrows
    · have entered := hdb ▸ entered.addNotifications ms
      obtain rfl : p.transaction = x := by simpa [entered.transactions] using hrows.symm
      obtain ⟨rfl, rfl⟩ : p.debit = debit ∧ p.credit = credit := by
        simpa [entered.ledgerEntries] using hentries.symm
      obtain rfl : k = row := by simpa [entered.idempotencyKeys] using hkeys.symm
      obtain rfl : p.audit = audit := by simpa [entered.auditEvents] using haudits.symm
      exact .payment t c payment result p posted k due.executes due.accepted applied
        (by simp [db]) pays stores
        entered (by simp [db, applied.customerProfiles]) trace
  | credited adminUserId accountId dto p posted ns call applied credits db =>
    have hrows : s'.world.db.transactions.rows = s.world.db.transactions.rows ++
        [p.transaction] := by
      simp [db, applied.transactions]
    have hentries : s'.world.db.ledgerEntries.rows = s.world.db.ledgerEntries.rows ++
        [p.debit, p.credit] := by
      simp [db, applied.ledgerEntries]
    have haudits : s'.world.db.auditEvents.rows = s.world.db.auditEvents.rows ++ [p.audit] := by
      simp [db, applied.auditEvents]
    rcases hcredited adminUserId accountId dto call with
        hsame | ⟨db', ms, x, debit, credit, audit, entered, hdb⟩
    · rw [hsame] at hrows
      simp at hrows
    · have entered := hdb ▸ entered.addNotifications ms
      obtain rfl : p.transaction = x := by simpa [entered.transactions] using hrows.symm
      obtain ⟨rfl, rfl⟩ : p.debit = debit ∧ p.credit = credit := by
        simpa [entered.ledgerEntries] using hentries.symm
      obtain rfl : p.audit = audit := by simpa [entered.auditEvents] using haudits.symm
      exact .credit p accountId dto posted applied (by simp [db]) credits entered

theorem step_files {w : World} {schedule : List Action} {a : Action} {b b' : Bank}
    (h : Bank.run sha256 (Bank.start w) schedule = some b) (hs : Bank.step sha256 b a = some b') :
    Persists b.shared b'.shared ∧ Files sha256 b.shared b'.shared := by
  let D := recordDiscipline sha256
  rcases D.step_cases (D.holds_of_run (D.init_holds w) h) hs with
    ⟨t, call, _, _, hsh, _⟩ | ⟨t, i, call, _, _, _, _, ⟨⟨heffect, hpaid⟩, hcredited⟩, _⟩ |
      ⟨e, _, hsh, _⟩
  · rw [hsh]
    exact ⟨.refl _, .nothing rfl rfl rfl⟩
  · exact ⟨heffect.persists, heffect.files hpaid hcredited⟩
  · have hkept := environment_kept e b.shared.world
    rw [hsh]
    exact ⟨.of_kept hkept, .nothing hkept.transactions hkept.ledgerEntries hkept.idempotencyKeys⟩

theorem run_files {P : State → Prop}
    (hstep : ∀ s s', P s → Persists s s' → Files sha256 s s' → P s') {w : World}
    {schedule : List Action} {b : Bank} (hstart : P ⟨w, []⟩)
    (h : Bank.run sha256 (Bank.start w) schedule = some b) : P b.shared := by
  induction schedule using List.reverseRecOn generalizing b with
  | nil =>
    obtain rfl := Option.some.inj h
    exact hstart
  | append_singleton ls l ih =>
    obtain ⟨d, hd, hl⟩ := Config.run_concat h
    obtain ⟨hpersists, hfiles⟩ := step_files hd hl
    exact hstep _ _ (ih hd) hpersists hfiles

end Discipline

end OnlineBanking
