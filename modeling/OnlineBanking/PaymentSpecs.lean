import OnlineBanking.Postings
import OnlineBanking.StatementRules

set_option autoImplicit false

/-! How one attempt of a payment ends: it replays a completed key, makes one posting, or is
refused. One lemma for each of the three callbacks. -/

namespace OnlineBanking

open Library Callback

def Counterparty (db : Db) : PaymentRequest → Account → Account → Prop
  | .internalTransfer dto, source, destination =>
    destination.id.spelledBy dto.destinationAccountId = true ∧
      destination.customerId = source.customerId
  | .beneficiaryTransfer dto, source, destination =>
    source.isSystem = false ∧ source.id ≠ destination.id ∧
      ∃ b ∈ db.beneficiaries.rows, b.id.spelledBy dto.beneficiaryId = true ∧
        b.customerId = source.customerId
  | .merchantPayment dto, source, destination =>
    source.isSystem = false ∧
      ∃ m ∈ db.merchants.rows, m.id.spelledBy dto.merchantId = true ∧
        m.settlementAccountId = destination.id

/-- The database lets the payment be posted from `source` to `destination`. -/
structure Payable (db : Db) (payment : Payment) (source destination : Account) : Prop where
  key_unused : db.idempotencyKeys.findAlt (payment.userId, payment.key) = none
  owner : ∃ profile ∈ db.customerProfiles.rows,
    profile.userId = payment.userId ∧ profile.id = source.customerId
  source_found : db.accounts.find source.id = some source
  source_named : source.id.spelledBy payment.request.sourceAccountId = true
  source_active : source.status = .active
  source_currency : source.currency = "RON"
  funds : payment.request.amount.value ≤ source.availableBalance
  destination_found : db.accounts.find destination.id = some destination
  destination_active : destination.status = .active
  destination_currency : destination.currency = "RON"
  counterparty : Counterparty db payment.request source destination

structure IdempotencyKey.Stores (k : IdempotencyKey) (payment : Payment) (requestHash : String)
    (body : PaymentBody) : Prop where
  userId : k.userId = payment.userId
  key : k.key = payment.key
  completed : k.status = .completed
  requestHash : k.requestHash = some requestHash
  responsePayload : k.responsePayload = some body.toJson

structure Posting.Pays (p : Posting) (db : Db) (payment : Payment) (requestHash : String)
    (result : ServiceResult PaymentBody) : Prop where
  payable : Payable db payment p.source p.destination
  type : p.transaction.type = payment.request.type
  amount : p.transaction.amount = payment.request.amount.value
  currency : p.transaction.currency = "RON"
  customer : p.transaction.customerId = some p.source.customerId
  key : ∃ k, p.key = some k ∧ k.Stores payment requestHash result.body
  created : result.httpStatus = 201
  notice : ∀ n ∈ p.notice, n.type = "MERCHANT_PAYMENT_POSTED"
  readable : parsePayload payment.request.type (some result.body.toJson) = some result.body

/-- Whom a transaction of the type is announced to through the root client, and as what; `userId` is
the user of its customer. -/
def announcements (db : Db) (userId : Uuid) (destination : Account) :
    TransactionType → List (Uuid × String)
  | .internalTransfer => [(userId, "PAYMENT_TRANSFER_POSTED")]
  | .beneficiaryTransfer =>
    (userId, "BENEFICIARY_TRANSFER_POSTED") ::
      match db.customerOf destination with
      | some c =>
        if destination.isSystem = false ∧ c.userId ≠ userId then
          [(c.userId, "INCOMING_TRANSFER_RECEIVED")]
        else []
      | none => []
  | .adminCredit => [(userId, "ACCOUNT_CREDITED_BY_ADMIN")]
  | _ => []

def delivered (i : Inputs) (ns : List (Uuid × String)) : List (Uuid × String) :=
  ns.filter fun n =>
    i.fault (if n.2 = "INCOMING_TRANSFER_RECEIVED" then .notifyRecipient else .notify) = none

def addressed (ns : List Notification) : List (Uuid × String) := ns.map fun n => (n.userId, n.type)

lemma addressed_append (ns ms : List Notification) :
    addressed (ns ++ ms) = addressed ns ++ addressed ms := List.map_append

section Attempts

variable (i : TxInputs) (db : Db) (payment : Payment) (requestHash : String)

inductive Attempt (result : ServiceResult PaymentBody) (s : Session Db Notification) : Prop
  | replayed (row : IdempotencyKey)
      (found : db.idempotencyKeys.findAlt (payment.userId, payment.key) = some row)
      (completed : row.status = .completed) (hash : hashDiffers row requestHash = false)
      (body : parsePayload payment.request.type row.responsePayload = some result.body)
      (ok : result.httpStatus = 200) (unchanged : s = { db })
  | posted (p : Posting) (applied : p.Applied db s.db) (pays : p.Pays db payment requestHash result)
      (alive : s.aborted = false)
      (notices : (addressed s.outside).Sublist
        (delivered i.toInputs (announcements db payment.userId p.destination payment.request.type)))

/-- The notices of a refused attempt: only a transfer can fail after it has announced itself. -/
def Refused (_ : Failure) (s : Session Db Notification) : Prop :=
  s.outside = [] ∨ ∃ source destination, Payable db payment source destination ∧
    payment.request.type = .internalTransfer ∧ i.fault .keyComplete ≠ none ∧
    (addressed s.outside).Sublist
      (delivered i.toInputs (announcements db payment.userId destination payment.request.type))

end Attempts

structure Usable (db : Db) (customerId : Uuid) (accountId : String) (a : Account) : Prop where
  mem : a ∈ db.accounts.rows
  named : a.id.spelledBy accountId = true
  owned : a.customerId = customerId
  active : a.status = .active
  currency : a.currency = "RON"

lemma Usable.found {db : Db} {customerId : Uuid} {accountId : String} {a : Account}
    (h : Usable db customerId accountId a) : db.accounts.find a.id = some a :=
  Table.find_eq_some.mpr ⟨h.mem, rfl⟩

lemma createKey_row {t u : Table IdempotencyKey} {row : IdempotencyKey}
    (h : t.insert row = some u) :
    t.findAlt (row.userId, row.key) = none := by
  rw [Table.findAlt_eq_none]
  exact (Table.insert_eq_some.mp h).2.1 _ rfl

lemma debited {t : Table Account} {p : Account → Bool} {source : Account} (amount : ℚ)
    (hsource : t.find source.id = some source) (hp : ∀ a, p a = true → a.id = source.id)
    (hcount : (t.rows.filter p).length = 1) :
    p source = true ∧
      t.modifyAll p (Account.decrement amount) = t.modify source.id (Account.decrement amount) := by
  obtain ⟨r, hr, hpr, hm⟩ := Table.modifyAll_of_count_one (Account.decrement amount) hp hcount
  obtain rfl : source = r := by simpa [hsource] using hr
  exact ⟨hpr, hm⟩

lemma Posting.applied_of_tables {p : Posting} {db db' : Db} {entries : Table LedgerEntry}
    (source_found : db.accounts.find p.source.id = some p.source)
    (destination_found : db.accounts.find p.destination.id = some p.destination)
    (haccounts : db'.accounts = (db.accounts.modify p.source.id
      (Account.decrement p.transaction.amount)).modify p.destination.id
        (Account.increment p.transaction.amount))
    (htransaction : db.transactions.insert p.transaction = some db'.transactions)
    (hdebit : db.ledgerEntries.insert p.debit = some entries)
    (hcredit : entries.insert p.credit = some db'.ledgerEntries)
    (haudit : db.auditEvents.insert p.audit = some db'.auditEvents)
    (hkeys : db'.idempotencyKeys.rows = db.idempotencyKeys.rows ++ p.key.toList)
    (hnotice : db'.notifications.rows = db.notifications.rows ++ p.notice.toList)
    (users : db'.users = db.users) (customerProfiles : db'.customerProfiles = db.customerProfiles)
    (beneficiaries : db'.beneficiaries = db.beneficiaries)
    (merchants : db'.merchants = db.merchants) :
    p.Applied db db' where
  source_found := source_found
  destination_found := destination_found
  accounts := haccounts
  transactions := (Table.insert_eq_some.mp htransaction).2.2
  ledgerEntries := by
    rw [(Table.insert_eq_some.mp hcredit).2.2, (Table.insert_eq_some.mp hdebit).2.2]
    simp
  idempotencyKeys := hkeys
  auditEvents := (Table.insert_eq_some.mp haudit).2.2
  notifications := hnotice
  users := users
  customerProfiles := customerProfiles
  beneficiaries := beneficiaries
  merchants := merchants

section Transfer

variable {i : TxInputs} {db : Db} {userId profileId : Uuid} {dto : CreateTransferDto}
variable {key requestHash : String}

lemma replayCompletedTransfer_ends {row : IdempotencyKey}
    (found : db.idempotencyKeys.findAlt (userId, key) = some row)
    (completed : row.status = .completed) :
    Ends i (replayCompletedTransfer row requestHash) { db }
      (fun r s => Attempt i db ⟨userId, .internalTransfer dto, key⟩ requestHash (r.map .transfer) s)
      (Refused i db ⟨userId, .internalTransfer dto, key⟩) := by
  unfold replayCompletedTransfer
  split
  · exact ends_throw (.inl rfl)
  · rename_i hash
    split
    · exact ends_throw (.inl rfl)
    · rename_i parsed hparsed
      exact ends_pure (.replayed row found completed (by simpa using hash)
        (by simp [parsePayload, PaymentRequest.type, hparsed, ServiceResult.map]) rfl rfl)

lemma postTransfer_ends {idemRow : IdempotencyKey} {keys : Table IdempotencyKey}
    {source destination : Account} (hkeys : db.idempotencyKeys.insert idemRow = some keys)
    (hrow : idemRow.userId = userId ∧ idemRow.key = key ∧ idemRow.requestHash = some requestHash)
    (owner : ∃ profile ∈ db.customerProfiles.rows, profile.userId = userId ∧ profile.id = profileId)
    (hsource : Usable db profileId dto.sourceAccountId source)
    (hdestination : Usable db profileId dto.destinationAccountId destination) :
    Ends i (postTransfer userId profileId dto key "RON" idemRow source destination)
      { db := { db with idempotencyKeys := keys } }
      (fun r s => Attempt i db ⟨userId, .internalTransfer dto, key⟩ requestHash (r.map .transfer) s)
      (Refused i db ⟨userId, .internalTransfer dto, key⟩) := by
  unfold postTransfer
  refine ends_bind (Tx.ends_updateMany rfl (fun _ => .inl rfl) ?_)
  split
  · exact ends_throw (.inl rfl)
  · rename_i hcount
    obtain ⟨hp, hdebited⟩ := debited dto.amount.value hsource.found
      (fun a h => (of_decide_eq_true h).1) (not_not.mp hcount)
    have payable : Payable db ⟨userId, .internalTransfer dto, key⟩ source destination := by
      obtain ⟨rfl, rfl, _⟩ := hrow
      exact ⟨createKey_row hkeys, hsource.owned ▸ owner, hsource.found, hsource.named,
        hsource.active,
        hsource.currency, (of_decide_eq_true hp).2.2.2.2, hdestination.found, hdestination.active,
        hdestination.currency, hdestination.named, hdestination.owned.trans hsource.owned.symm⟩
    refine ends_bind (Tx.ends_update rfl (fun _ _ => .inl rfl) fun _ _ => ?_)
    refine ends_bind (Tx.ends_newDate fun now => ?_)
    refine ends_bind (Tx.ends_create rfl (fun _ => .inl rfl) fun txn transactions htxn htxns => ?_)
    refine ends_bind (Tx.ends_create rfl (fun _ => .inl rfl)
      fun debit entries hdebit hentries => ?_)
    refine ends_bind (Tx.ends_create rfl (fun _ => .inl rfl)
      fun credit entries' hcredit hentries' => ?_)
    refine ends_bind (Tx.ends_create rfl (fun _ => .inl rfl)
      fun audit auditEvents haudit haudits => ?_)
    refine ends_bind (Tx.ends_notificationsCreate fun ns hns => ?_)
    have hnotices : (addressed ns).Sublist
        (delivered i.toInputs (announcements db userId destination .internalTransfer)) := by
      rcases hns with rfl | ⟨hsent, n, hu, ht, rfl⟩
      · exact List.nil_sublist _
      · simp [addressed, announcements, delivered, hu, ht, hsent]
    refine ends_bind (Tx.ends_update rfl ?_ ?_)
    · rintro e (hfault | hmissing)
      · exact .inr ⟨source, destination, payable, rfl, hfault, hnotices⟩
      · exact absurd (hmissing.symm.trans (Table.find_inserted hkeys)) (by simp)
    · intro r hr
      subst htxn hdebit hcredit haudit
      refine ends_pure (.posted ⟨source, destination, _, _, _,
          some ((IdempotencyKey.complete (.transfer _) now).apply idemRow), _, none,
          dto.amount_pos, rfl, rfl,
          rfl, ⟨rfl, rfl, rfl, rfl, rfl⟩, ⟨rfl, rfl, rfl, rfl, rfl⟩⟩
        (Posting.applied_of_tables hsource.found hdestination.found
          (congrArg (fun t => t.modify destination.id (Account.increment dto.amount.value))
            hdebited)
          htxns hentries hentries' haudits (Table.insert_modify_rows hkeys _)
          (List.append_nil _).symm rfl rfl rfl rfl)
        ⟨payable, rfl, rfl, rfl, ?_, ?_, rfl, by simp, rfl⟩ rfl hnotices)
      · exact congrArg some hsource.owned.symm
      · exact ⟨_, rfl, hrow.1, hrow.2.1, rfl, hrow.2.2, rfl⟩

lemma reserveTransferKey_ends :
    Ends i (reserveTransferKey userId key requestHash) { db }
      (fun r s => ∃ idemRow keys, r = .inr idemRow ∧
          s = { db := { db with idempotencyKeys := keys } } ∧
        db.idempotencyKeys.insert idemRow = some keys ∧
        idemRow.userId = userId ∧ idemRow.key = key ∧ idemRow.requestHash = some requestHash)
      (fun _ s => s.outside = []) := by
  unfold reserveTransferKey
  refine ends_tryCatch (ends_bind (Tx.ends_create rfl (fun e => ?_) fun r keys hr hkeys => ?_))
  · -- a refused insert aborts the transaction, so the catch block's findUnique is refused as well
    dsimp only
    split
    · unfold findKey
      exact ends_bind (Tx.ends_read_aborted rfl rfl)
    · exact ends_throw rfl
  · subst hr
    exact ends_pure ⟨_, keys, rfl, rfl, hkeys, rfl, rfl, rfl⟩

variable (i db userId dto key requestHash) in
theorem executeTransferTx_ends :
    Ends i (executeTransferTx userId dto key "RON" requestHash) { db }
      (fun r s => Attempt i db ⟨userId, .internalTransfer dto, key⟩ requestHash (r.map .transfer) s)
      (Refused i db ⟨userId, .internalTransfer dto, key⟩) := by
  unfold executeTransferTx findKey findOwnAccount
  refine ends_bind (Tx.ends_read rfl (fun _ _ => .inl rfl) fun existing hexisting => ?_)
  cases existing with
  | some row =>
    dsimp only
    split
    · rename_i hcompleted
      exact replayCompletedTransfer_ends hexisting.symm hcompleted
    · exact ends_throw (.inl rfl)
  | none =>
    refine ends_bind (ends_mono reserveTransferKey_ends ?_ fun _ _ h => .inl h)
    rintro _ _ ⟨idemRow, keys, rfl, rfl, hkeys, hrow⟩
    refine ends_bind (Tx.ends_read rfl (fun _ _ => .inl rfl) fun found hfound => ?_)
    cases found with
    | none => exact ends_throw (.inl rfl)
    | some profile =>
      obtain ⟨hprofile, huser⟩ := Table.findAlt_eq_some.mp hfound.symm
      refine ends_bind (Tx.ends_read rfl (fun _ _ => .inl rfl) fun source hs => ?_)
      refine ends_bind (Tx.ends_read rfl (fun _ _ => .inl rfl) fun destination hd => ?_)
      match source, destination, hs, hd with
      | none, _, _, _ => exact ends_throw (.inl rfl)
      | some _, none, _, _ => exact ends_throw (.inl rfl)
      | some source, some destination, hs, hd =>
        dsimp only
        split
        · exact ends_throw (.inl rfl)
        · rename_i hcurrency
          obtain ⟨hsm, hsp⟩ := Table.findFirst_eq_some hs.symm
          obtain ⟨hdm, hdp⟩ := Table.findFirst_eq_some hd.symm
          simp only [not_or, not_not] at hcurrency
          obtain ⟨hsn, hso, hsa⟩ := of_decide_eq_true hsp
          obtain ⟨hdn, hdo, hda⟩ := of_decide_eq_true hdp
          exact postTransfer_ends hkeys hrow ⟨profile, hprofile, Option.some.inj huser, rfl⟩
            ⟨hsm, hsn, hso, hsa, hcurrency.1⟩ ⟨hdm, hdn, hdo, hda, hcurrency.2⟩

end Transfer

section Shared

variable {i : TxInputs} {db : Db} {userId : Uuid} {request : PaymentRequest}
    {key requestHash : String}

lemma replayKey_ends {β : Type} {row : IdempotencyKey} {parse : Option Json → Option β}
    {body : β → PaymentBody}
    (hparse : ∀ raw b, parse raw = some b → parsePayload request.type raw = some (body b))
    (found : db.idempotencyKeys.findAlt (userId, key) = some row) :
    Ends i (replayKey row requestHash parse) { db }
      (fun r s => Attempt i db ⟨userId, request, key⟩ requestHash (r.map body) s)
      (Refused i db ⟨userId, request, key⟩) := by
  unfold replayKey
  split
  · exact ends_throw (.inl rfl)
  · rename_i hash
    split
    · rename_i payload hpayload
      split at hpayload
      · rename_i hcompleted
        exact ends_pure (.replayed row found hcompleted (by simp [hashDiffers, not_not.mp hash])
          (hparse _ _ hpayload) rfl rfl)
      · cases hpayload
    · split
      · exact ends_throw (.inl rfl)
      · exact ends_throw (.inl rfl)

lemma replayKey_replays {β : Type} {row : IdempotencyKey} {parse : Option Json → Option β}
    {s : Session Db Notification} :
    Ends i (replayKey row requestHash parse) s (fun r s' => s' = s ∧ r.httpStatus = 200) fun _ _ =>
      True := by
  unfold replayKey
  split
  · exact ends_throw trivial
  · split
    · exact ends_pure ⟨rfl, rfl⟩
    · split
      · exact ends_throw trivial
      · exact ends_throw trivial

lemma failKey_ends {α : Type} {idemRow : IdempotencyKey} {failure : Failure}
    {s : Session Db Notification} {Q : α → Session Db Notification → Prop}
    {E : Failure → Session Db Notification → Prop} (ha : s.aborted = false)
    (hE : ∀ e s', s'.outside = s.outside → E e s') : Ends i (failKey idemRow failure) s Q E := by
  unfold failKey
  exact ends_bind (Tx.ends_update ha (fun _ _ => hE _ _ rfl) fun _ _ => ends_throw (hE _ _ rfl))

end Shared

section Beneficiary

variable {i : TxInputs} {db : Db} {userId profileId : Uuid} {dto : TransferToBeneficiaryDto}
variable {key requestHash : String}

/-- The account a beneficiary's IBAN leads to, with its owner when it is an account of this bank. -/
structure Resolved (db : Db) (beneficiary : Beneficiary) (destination : Account)
    (recipient : Option CustomerProfile) : Prop where
  mem : destination ∈ db.accounts.rows
  active : destination.status = .active
  currency : destination.currency = "RON"
  internal : ∀ c, recipient = some c → db.customerOf destination = some c ∧
    destination.isSystem = false ∧ destination.iban = beneficiary.iban
  external : recipient = none → destination.isSystem = true ∧
    destination.accountType = "EXTERNAL_SETTLEMENT"

lemma resolveDestination_ends {beneficiary : Beneficiary} {s : Session Db Notification}
    {E : Failure → Session Db Notification → Prop} (ha : s.aborted = false)
    (hE : ∀ e s', s'.outside = s.outside → E e s') :
    Ends i (resolveDestination beneficiary "RON") s
      (fun r s' => s' = s ∧ Resolved s.db beneficiary r.1 r.2) E := by
  unfold resolveDestination
  refine ends_bind (Tx.ends_readWith ha (fun _ => hE _ _ rfl) (fun _ => ?_)
    fun account customer hf hj => ?_)
  · refine ends_bind (Tx.ends_read ha (fun _ _ => hE _ _ rfl) fun found hfound => ?_)
    cases found with
    | none => exact ends_throw (hE _ _ rfl)
    | some account =>
      obtain ⟨hm, hp⟩ := Table.findFirst_eq_some hfound.symm
      obtain ⟨htype, hsystem, hactive, hcurrency⟩ := of_decide_eq_true hp
      exact ends_pure ⟨rfl, hm, hactive, hcurrency, fun _ h => (Option.some_ne_none _ h.symm).elim,
        fun _ => ⟨hsystem, htype⟩⟩
  · obtain ⟨hm, hp⟩ := Table.findFirst_eq_some hf
    obtain ⟨hiban, hactive, hcurrency, hsystem⟩ := of_decide_eq_true hp
    refine ends_pure ⟨rfl, hm, hactive, hcurrency, fun c h => ?_, fun h =>
      (Option.some_ne_none _ h).elim⟩
    obtain rfl : customer = c := Option.some.inj h
    exact ⟨hj, hsystem, hiban⟩

lemma notifyRecipient_ends {amount currency : String} {sender : CustomerProfile}
    {recipient : Option CustomerProfile} {s : Session Db Notification}
    {Q : Unit → Session Db Notification → Prop} {E : Failure → Session Db Notification → Prop}
    (hQ : ∀ ns, (ns = [] ∨ i.fault .notifyRecipient = none ∧ ∃ c n, recipient = some c ∧
      c.userId ≠ userId ∧ addressed [n] = [(c.userId, "INCOMING_TRANSFER_RECEIVED")] ∧ ns = [n]) →
      Q () { s with outside := s.outside ++ ns }) :
    Ends i (notifyRecipient userId amount currency sender recipient) s Q E := by
  have hnone : Q () s := by simpa using hQ [] (.inl rfl)
  unfold notifyRecipient
  split
  · exact ends_pure hnone
  · rename_i c
    split
    · rename_i hne
      refine Tx.ends_notificationsCreate fun ns hns => hQ ns (hns.imp id ?_)
      rintro ⟨hsent, n, hu, ht, rfl⟩
      exact ⟨hsent, c, n, rfl, hne, by simp [addressed, hu, ht], rfl⟩
    · exact ends_pure hnone

lemma postBeneficiaryTransfer_ends {idemRow : IdempotencyKey} {keys : Table IdempotencyKey}
    {source destination : Account} {sender : CustomerProfile} {recipient : Option CustomerProfile}
    {beneficiary : Beneficiary} (hkeys : db.idempotencyKeys.insert idemRow = some keys)
    (hrow : idemRow.userId = userId ∧ idemRow.key = key ∧ idemRow.requestHash = some requestHash)
    (owner : ∃ profile ∈ db.customerProfiles.rows, profile.userId = userId ∧ profile.id = profileId)
    (hsource : Usable db profileId dto.sourceAccountId source) (hsystem : source.isSystem = false)
    (hbeneficiary : beneficiary ∈ db.beneficiaries.rows ∧
      beneficiary.id.spelledBy dto.beneficiaryId = true ∧ beneficiary.customerId = profileId)
    (hdestination : Resolved db beneficiary destination recipient)
    (hne : source.id ≠ destination.id) :
    Ends i (postBeneficiaryTransfer userId profileId dto "RON" idemRow source sender beneficiary
        destination recipient) { db := { db with idempotencyKeys := keys } }
      (fun r s => Attempt i db ⟨userId, .beneficiaryTransfer dto, key⟩ requestHash
        (r.map .beneficiary) s)
      (Refused i db ⟨userId, .beneficiaryTransfer dto, key⟩) := by
  have hfound : db.accounts.find destination.id = some destination :=
    Table.find_eq_some.mpr ⟨hdestination.mem, rfl⟩
  unfold postBeneficiaryTransfer
  refine ends_bind (Tx.ends_updateMany rfl (fun _ => .inl rfl) ?_)
  split
  · exact failKey_ends rfl fun _ _ h => .inl h
  · rename_i hcount
    obtain ⟨hp, hdebited⟩ := debited dto.amount.value hsource.found
      (fun a h => (of_decide_eq_true h).1) (not_not.mp hcount)
    have payable : Payable db ⟨userId, .beneficiaryTransfer dto, key⟩ source destination := by
      obtain ⟨rfl, rfl, _⟩ := hrow
      exact ⟨createKey_row hkeys, hsource.owned ▸ owner, hsource.found, hsource.named,
        hsource.active,
        hsource.currency, (of_decide_eq_true hp).2, hfound, hdestination.active,
        hdestination.currency,
        hsystem, hne, beneficiary, hbeneficiary.1, hbeneficiary.2.1,
        hbeneficiary.2.2.trans hsource.owned.symm⟩
    refine ends_bind (Tx.ends_update rfl (fun _ _ => .inl rfl) fun _ _ => ?_)
    refine ends_bind (Tx.ends_create rfl (fun _ => .inl rfl) fun txn transactions htxn htxns => ?_)
    refine ends_bind (Tx.ends_create rfl (fun _ => .inl rfl)
      fun debit entries hdebit hentries => ?_)
    refine ends_bind (Tx.ends_create rfl (fun _ => .inl rfl)
      fun credit entries' hcredit hentries' => ?_)
    refine ends_bind (Tx.ends_newDate fun now => ?_)
    refine ends_bind (Tx.ends_update rfl (fun _ _ => .inl rfl) fun _ _ => ?_)
    refine ends_bind (Tx.ends_create rfl (fun _ => .inl rfl)
      fun audit auditEvents haudit haudits => ?_)
    refine ends_bind (Tx.ends_notificationsCreate fun ns hns => ?_)
    refine ends_bind (notifyRecipient_ends fun ms hms => ?_)
    subst htxn hdebit hcredit haudit
    refine ends_pure (.posted ⟨source, destination, _, _, _,
        some ((IdempotencyKey.complete (.beneficiary _) now).apply idemRow), _, none,
        dto.amount_pos, rfl,
        rfl, rfl, ⟨rfl, rfl, rfl, rfl, rfl⟩, ⟨rfl, rfl, rfl, rfl, rfl⟩⟩
      (Posting.applied_of_tables hsource.found hfound
        (congrArg (fun t => t.modify destination.id (Account.increment dto.amount.value)) hdebited)
        htxns hentries hentries' haudits (Table.insert_modify_rows hkeys _)
        (List.append_nil _).symm rfl rfl rfl rfl)
      ⟨payable, rfl, rfl, rfl, ?_, ?_, rfl, by simp, rfl⟩ rfl ?_)
    · exact congrArg some hsource.owned.symm
    · exact ⟨_, rfl, hrow.1, hrow.2.1, rfl, hrow.2.2, rfl⟩
    · have hsender : (addressed ns).Sublist
          (delivered i.toInputs [(userId, "BENEFICIARY_TRANSFER_POSTED")]) := by
        rcases hns with rfl | ⟨hsent, n, hu, ht, rfl⟩
        · exact List.nil_sublist _
        · simp [addressed, delivered, hu, ht, hsent]
      have happend : addressed ([] ++ ns ++ ms) = addressed ns ++ addressed ms := by
        simp [addressed]
      have hcons : delivered i.toInputs (announcements db userId destination .beneficiaryTransfer) =
        delivered i.toInputs [(userId, "BENEFICIARY_TRANSFER_POSTED")] ++
          delivered i.toInputs (announcements db userId destination .beneficiaryTransfer).tail :=
        List.filter_append [_] _
      dsimp only [PaymentRequest.type]
      rw [happend, hcons]
      refine hsender.append ?_
      rcases hms with rfl | ⟨hsent, c, n, hc, hne, hn, rfl⟩
      · exact List.nil_sublist _
      · obtain ⟨hjoin, hinternal, _⟩ := hdestination.internal c hc
        simp [announcements, delivered, hjoin, hinternal, hne, hn, hsent]

variable (i db userId dto key requestHash) in
theorem executeBeneficiaryTransferTx_ends
    (owner : ∃ profile ∈ db.customerProfiles.rows, profile.userId = userId ∧
      profile.id = profileId) :
    Ends i (executeBeneficiaryTransferTx userId profileId dto key "RON" requestHash) { db }
      (fun r s => Attempt i db ⟨userId, .beneficiaryTransfer dto, key⟩ requestHash
        (r.map .beneficiary) s)
      (Refused i db ⟨userId, .beneficiaryTransfer dto, key⟩) := by
  unfold executeBeneficiaryTransferTx findKey createKey
  refine ends_bind (Tx.ends_read rfl (fun _ _ => .inl rfl) fun existing hexisting => ?_)
  cases existing with
  | some row =>
    refine replayKey_ends (fun raw b h => ?_) hexisting.symm
    simp [parsePayload, PaymentRequest.type, h]
  | none =>
    refine ends_bind (Tx.ends_create rfl (fun _ => .inl rfl) fun idemRow keys hrow hkeys => ?_)
    subst hrow
    refine ends_bind (Tx.ends_readWith rfl (fun _ => .inl rfl) (fun _ => ends_throw (.inl rfl)) ?_)
    intro source sender hs _
    obtain ⟨hsm, hsp⟩ := Table.findFirst_eq_some hs
    obtain ⟨hsn, hso, hsa, hsc, hss⟩ := of_decide_eq_true hsp
    dsimp only
    split
    · exact failKey_ends rfl fun _ _ h => .inl h
    · refine ends_bind (Tx.ends_read rfl (fun _ _ => .inl rfl) fun found hfound => ?_)
      cases found with
      | none => exact ends_throw (.inl rfl)
      | some beneficiary =>
        obtain ⟨hbm, hbp⟩ := Table.findFirst_eq_some hfound.symm
        obtain ⟨hbn, hbo, _⟩ := of_decide_eq_true hbp
        refine ends_bind (ends_mono (resolveDestination_ends rfl fun _ _ h => .inl h) ?_
          fun _ _ h => h)
        rintro ⟨destination, recipient⟩ _ ⟨rfl, hdestination⟩
        dsimp only
        split
        · exact ends_throw (.inl rfl)
        · rename_i hne
          exact postBeneficiaryTransfer_ends hkeys ⟨rfl, rfl, rfl⟩ owner
            ⟨hsm, hsn, hso, hsa, hsc⟩ hss
            ⟨hbm, hbn, hbo⟩ ⟨hdestination.mem, hdestination.active, hdestination.currency,
              hdestination.internal, hdestination.external⟩ hne

end Beneficiary

section Merchant

variable {i : TxInputs} {db : Db} {userId profileId : Uuid} {dto : PayMerchantDto}
variable {key requestHash : String}

lemma postMerchantPayment_ends {idemRow : IdempotencyKey} {keys : Table IdempotencyKey}
    {source settlement : Account} {merchant : Merchant}
    (hkeys : db.idempotencyKeys.insert idemRow = some keys)
    (hrow : idemRow.userId = userId ∧ idemRow.key = key ∧ idemRow.requestHash = some requestHash)
    (owner : ∃ profile ∈ db.customerProfiles.rows, profile.userId = userId ∧ profile.id = profileId)
    (hsource : Usable db profileId dto.sourceAccountId source) (hsystem : source.isSystem = false)
    (hmerchant : merchant ∈ db.merchants.rows ∧ merchant.id.spelledBy dto.merchantId = true)
    (hsettlement : db.accounts.find merchant.settlementAccountId = some settlement)
    (hactive : settlement.status = .active) (hcurrency : settlement.currency = "RON") :
    Ends i (postMerchantPayment userId profileId dto "RON" idemRow source merchant)
      { db := { db with idempotencyKeys := keys } }
      (fun r s => Attempt i db ⟨userId, .merchantPayment dto, key⟩ requestHash (r.map .merchant) s)
      (Refused i db ⟨userId, .merchantPayment dto, key⟩) := by
  have hid : settlement.id = merchant.settlementAccountId := (Table.find_eq_some.mp hsettlement).2
  have hfound : db.accounts.find settlement.id = some settlement := hid ▸ hsettlement
  unfold postMerchantPayment
  refine ends_bind (Tx.ends_updateMany rfl (fun _ => .inl rfl) ?_)
  split
  · exact failKey_ends rfl fun _ _ h => .inl h
  · rename_i hcount
    obtain ⟨hp, hdebited⟩ := debited dto.amount.value hsource.found
      (fun a h => (of_decide_eq_true h).1) (not_not.mp hcount)
    have payable : Payable db ⟨userId, .merchantPayment dto, key⟩ source settlement := by
      obtain ⟨rfl, rfl, _⟩ := hrow
      exact ⟨createKey_row hkeys, hsource.owned ▸ owner, hsource.found, hsource.named,
        hsource.active,
        hsource.currency, (of_decide_eq_true hp).2.2.2.2.2, hfound, hactive, hcurrency, hsystem,
        merchant, hmerchant.1, hmerchant.2, hid.symm⟩
    refine ends_bind (Tx.ends_update rfl (fun _ _ => .inl rfl) fun _ _ => ?_)
    refine ends_bind (Tx.ends_newDate fun now => ?_)
    refine ends_bind (Tx.ends_create rfl (fun _ => .inl rfl) fun txn transactions htxn htxns => ?_)
    refine ends_bind (Tx.ends_create rfl (fun _ => .inl rfl)
      fun debit entries hdebit hentries => ?_)
    refine ends_bind (Tx.ends_create rfl (fun _ => .inl rfl)
      fun credit entries' hcredit hentries' => ?_)
    refine ends_bind (Tx.ends_update rfl (fun _ _ => .inl rfl) fun _ _ => ?_)
    refine ends_bind (Tx.ends_create rfl (fun _ => .inl rfl)
      fun audit auditEvents haudit haudits => ?_)
    refine ends_bind (Tx.ends_create rfl (fun _ => .inl rfl)
      fun notice notices hnotice hnotices => ?_)
    subst htxn hdebit hcredit haudit hnotice
    refine ends_pure (.posted ⟨source, settlement, _, _, _,
        some ((IdempotencyKey.complete (.merchant _) now).apply idemRow), _, some _,
        dto.amount_pos, rfl,
        rfl, congrArg some hid.symm, ⟨rfl, rfl, rfl, rfl, rfl⟩, ⟨rfl, hid.symm, rfl, rfl, rfl⟩⟩
      (Posting.applied_of_tables hsource.found hfound ?_
        htxns hentries hentries' haudits (Table.insert_modify_rows hkeys _)
        (Table.insert_eq_some.mp hnotices).2.2 rfl rfl rfl rfl)
      ⟨payable, rfl, rfl, rfl, ?_, ?_, rfl, by simp, rfl⟩ rfl (List.Sublist.refl _))
    · dsimp only
      rw [hid]
      exact congrArg (fun t =>
        t.modify merchant.settlementAccountId (Account.increment dto.amount.value))
        hdebited
    · exact congrArg some hsource.owned.symm
    · exact ⟨_, rfl, hrow.1, hrow.2.1, rfl, hrow.2.2, rfl⟩

variable (i db userId dto key requestHash) in
theorem executeMerchantPaymentTx_ends
    (owner : ∃ profile ∈ db.customerProfiles.rows, profile.userId = userId ∧
      profile.id = profileId) :
    Ends i (executeMerchantPaymentTx userId profileId dto key "RON" requestHash) { db }
      (fun r s => Attempt i db ⟨userId, .merchantPayment dto, key⟩ requestHash (r.map .merchant) s)
      (Refused i db ⟨userId, .merchantPayment dto, key⟩) := by
  unfold executeMerchantPaymentTx findKey createKey
  refine ends_bind (Tx.ends_read rfl (fun _ _ => .inl rfl) fun existing hexisting => ?_)
  cases existing with
  | some row =>
    refine replayKey_ends (fun raw b h => ?_) hexisting.symm
    simp [parsePayload, PaymentRequest.type, h]
  | none =>
    refine ends_bind (Tx.ends_create rfl (fun _ => .inl rfl) fun idemRow keys hrow hkeys => ?_)
    subst hrow
    refine ends_bind (Tx.ends_read rfl (fun _ _ => .inl rfl) fun found hfound => ?_)
    cases found with
    | none => exact ends_throw (.inl rfl)
    | some source =>
      obtain ⟨hsm, hsp⟩ := Table.findFirst_eq_some hfound.symm
      obtain ⟨hsn, hso, hsa, hsc, hss⟩ := of_decide_eq_true hsp
      refine ends_bind (Tx.ends_readWith rfl (fun _ => .inl rfl)
        (fun _ => ends_throw (.inl rfl)) ?_)
      intro merchant settlement hm hsettlement
      obtain ⟨hmm, hmp⟩ := Table.findFirst_eq_some hm
      obtain ⟨hmn, _⟩ := of_decide_eq_true hmp
      dsimp only
      split
      · exact ends_throw (.inl rfl)
      · rename_i hactive
        split
        · exact ends_throw (.inl rfl)
        · rename_i hcurrency
          exact postMerchantPayment_ends hkeys ⟨rfl, rfl, rfl⟩ owner ⟨hsm, hsn, hso, hsa, hsc⟩ hss
            ⟨hmm, hmn⟩ hsettlement (not_not.mp hactive) (not_not.mp hcurrency)

end Merchant

end OnlineBanking
