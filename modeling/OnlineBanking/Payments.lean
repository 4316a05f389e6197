import OnlineBanking.Database

set_option autoImplicit false

/-! The three posting callbacks of payments.service.ts. -/

namespace OnlineBanking

open Library

def idempotencyTtl : ℕ := 24 * 60 * 60 * 1000 * 1000

namespace Tx

/-- NotificationsService.create goes through the root client and swallows its failures. -/
def notificationsCreate (l : Statement) (userId : Uuid) (type title message : String) : Tx Unit :=
  Callback.emit fun i =>
    match i.fault l with
    | some _ => []
    | none => [{ id := i.uuid l, userId, type, title, message, createdAt := i.now }]

/-- A findFirst that includes a required relation. -/
def readWith {ρ τ : Type} (l : Statement) (f : ℕ → Db → Option ρ) (join : Db → ρ → Option τ) :
    Tx (Option (ρ × τ)) :=
  statement l fun i db =>
    match f (i.choice l) db with
    | none => .ok (none, db)
    | some row =>
      match join db row with
      | some other => .ok (some (row, other), db)
      | none => .error (.other "inconsistent result")

def createEntry (l : Statement) (transactionId accountId : Uuid) (side : LedgerSide) (amount : ℚ)
    (currency : String) (sequence : ℕ) : Tx LedgerEntry :=
  create Db.ledgerEntry l fun id now =>
    { id, transactionId, accountId, side, amount, currency, sequence, createdAt := now }

end Tx

def Account.increment (amount : ℚ) : Patch Account where
  apply a := { a with availableBalance := a.availableBalance + amount }
  key_apply _ := rfl
  alt_apply _ := rfl

def Account.decrement (amount : ℚ) : Patch Account where
  apply a := { a with availableBalance := a.availableBalance - amount }
  key_apply _ := rfl
  alt_apply _ := rfl

def IdempotencyKey.fail : Patch IdempotencyKey where
  apply k := { k with status := .failed }
  key_apply _ := rfl
  alt_apply _ := rfl

def IdempotencyKey.complete (body : PaymentBody) (completedAt : Instant) :
    Patch IdempotencyKey where
  apply k := { k with
    status := .completed
    responsePayload := some body.toJson
    httpStatus := some 201
    completedAt := some completedAt }
  key_apply _ := rfl
  alt_apply _ := rfl

section Keys

variable (userId : Uuid) (idempotencyKey : String)

def findKey (l : Statement) : Tx (Option IdempotencyKey) :=
  Tx.read l fun _ db => db.idempotencyKeys.findAlt (userId, idempotencyKey)

def createKey (scope requestHash : String) : Tx IdempotencyKey :=
  Tx.create Db.idempotencyKey .keyCreate fun id now =>
    { id, key := idempotencyKey, userId, scope, requestHash := some requestHash, createdAt := now,
      expiresAt := now / 1000 * 1000 + idempotencyTtl }

end Keys

/-- `row.requestHash && row.requestHash !== requestHash` -/
def hashDiffers (row : IdempotencyKey) (requestHash : String) : Bool :=
  match row.requestHash with
  | some h => h ≠ "" && h ≠ requestHash
  | none => false

def replayCompletedTransfer (row : IdempotencyKey) (requestHash : String) :
    Tx (ServiceResult TransferSuccessResponse) :=
  if hashDiffers row requestHash then
    throw (.conflict "Idempotency key was already used with a different request body.")
  else
    match parseCompletedPayload row.responsePayload with
    | none => throw (.conflict "Stored idempotency response is invalid or missing.")
    | some parsed => pure ⟨200, parsed⟩

def reserveTransferKey (userId : Uuid) (idempotencyKey requestHash : String) :
    Tx (ServiceResult TransferSuccessResponse ⊕ IdempotencyKey) :=
  tryCatch (do return .inr (← createKey userId idempotencyKey transferScope requestHash)) fun err =>
    if isPrismaUniqueViolation err then do
      match ← findKey userId idempotencyKey .keyFindAgain with
      | none => throw (.conflict "Idempotency key conflict; please retry the request.")
      | some row =>
        if row.status = .completed then return .inl (← replayCompletedTransfer row requestHash)
        else if row.status = .failed then
          throw (.conflict "This idempotency key already failed and cannot be reused.")
        else throw (.conflict "Transfer is already in progress for this idempotency key.")
    else throw err

def findOwnAccount (l : Statement) (accountId : String) (customerId : Uuid) : Tx (Option Account) :=
  Tx.read l fun choice db => db.accounts.findFirst
    (fun a => a.id.spelledBy accountId ∧ a.customerId = customerId ∧ a.status = .active) choice

/-- From the debit on: everything executeTransferTx writes. -/
def postTransfer (userId profileId : Uuid) (dto : CreateTransferDto)
    (idempotencyKey currency : String) (idemRow : IdempotencyKey) (source destination : Account) :
    Tx (ServiceResult TransferSuccessResponse) := do
  let amountDecimal := dto.amount.value
  let count ← Tx.updateMany Db.account .sourceDebit
    (fun a => a.id = source.id ∧ a.customerId = profileId ∧ a.status = .active ∧
      a.currency = currency ∧ amountDecimal ≤ a.availableBalance)
    (Account.decrement amountDecimal)
  if count ≠ 1 then throw (.badRequest "Insufficient funds in source account")
  else
    let _ ← Tx.update Db.account .destinationCredit destination.id (Account.increment amountDecimal)
    let now ← Tx.newDate
    let txn ← Tx.create Db.transaction .transactionCreate fun id createdAt =>
      { id, type := .internalTransfer, status := .posted, amount := amountDecimal, currency,
        description := dto.description.orNull, customerId := some profileId,
        fromAccountId := some source.id, toAccountId := some destination.id,
        idempotencyKeyId := some idemRow.id, createdAt, postedAt := some now }
    let _ ← Tx.createEntry .debitCreate txn.id source.id .debit amountDecimal currency 0
    let _ ← Tx.createEntry .creditCreate txn.id destination.id .credit amountDecimal currency 1
    let _ ← Tx.create Db.auditEvent .auditCreate fun id createdAt =>
      { id, actorUserId := some userId, action := "PAYMENT_TRANSFER_POSTED", resourceType :=
        "Transaction",
        resourceId := some txn.id.text, createdAt,
        metadata := some (.obj [("sourceAccountId", .str source.id.text),
          ("destinationAccountId", .str destination.id.text), ("amount", .str dto.amount.toString),
          ("currency", .str currency), ("idempotencyKey", .str idempotencyKey)]) }
    Tx.notificationsCreate .notify userId "PAYMENT_TRANSFER_POSTED" "Transfer Successful"
      s!"Your internal transfer of {dto.amount.toString} {currency} has been posted."
    let body : TransferSuccessResponse := {
      transactionId := txn.id.text
      status := TransactionStatus.posted.text
      sourceAccountId := source.id.text
      destinationAccountId := destination.id.text
      amount := dto.amount.toFixed 2
      currency }
    let _ ← Tx.update Db.idempotencyKey .keyComplete idemRow.id
        (IdempotencyKey.complete (.transfer body) now)
    return ⟨201, body⟩

def executeTransferTx (userId : Uuid) (dto : CreateTransferDto)
    (idempotencyKey currency requestHash : String) :
    Tx (ServiceResult TransferSuccessResponse) := do
  match ← findKey userId idempotencyKey .keyFind with
  | some existing =>
    if existing.status = .completed then replayCompletedTransfer existing requestHash
    else throw (.conflict "This idempotency key is not available for a new transfer.")
  | none =>
    match ← reserveTransferKey userId idempotencyKey requestHash with
    | .inl result => return result
    | .inr idemRow =>
      match ← Tx.read .profileFind fun _ db => db.customerProfiles.findAlt userId with
      | none => throw (.badRequest "Customer profile not found for user")
      | some profile =>
        match ← findOwnAccount .sourceFind dto.sourceAccountId profile.id,
            ← findOwnAccount .destinationFind dto.destinationAccountId profile.id with
        | none, _ => throw (.badRequest "Source account not found or not allowed")
        | _, none => throw (.badRequest "Destination account not found or not allowed")
        | some source, some destination =>
          if source.currency ≠ currency ∨ destination.currency ≠ currency then
            throw (.badRequest "Source, destination, and request currency must match")
          else postTransfer userId profile.id dto idempotencyKey currency idemRow source destination

/-- The row's own hash is compared before its status is looked at. -/
def replayKey {β : Type} (existingKey : IdempotencyKey) (requestHash : String)
    (parse : Option Json → Option β) : Tx (ServiceResult β) :=
  if existingKey.requestHash ≠ some requestHash then
    throw (.conflict "Idempotency key reused with different request payload")
  else
    match if existingKey.status = .completed then parse existingKey.responsePayload else none with
    | some payload => pure ⟨200, payload⟩
    | none =>
      if existingKey.status = .failed then
        throw (.badRequest "Previous attempt with this key failed")
      else throw (.conflict "A request with this key is currently in progress")

/-- The key is marked as failed in the transaction that the throw then rolls back. -/
def failKey {α : Type} (idemRow : IdempotencyKey) (failure : Failure) : Tx α := do
  let _ ← Tx.update Db.idempotencyKey .keyFail idemRow.id IdempotencyKey.fail
  throw failure

def findSpendable (accountId : String) (customerId : Uuid) (currency : String)
    (choice : ℕ) (db : Db) :
    Option Account :=
  db.accounts.findFirst (fun a => a.id.spelledBy accountId ∧ a.customerId = customerId ∧
    a.status = .active ∧ a.currency = currency ∧ a.isSystem = false) choice

/-- The account of this bank with the beneficiary's IBAN, else the external settlement account. -/
def resolveDestination (beneficiary : Beneficiary) (currency : String) :
    Tx (Account × Option CustomerProfile) := do
  let matchedInternal ← Tx.readWith .internalFind
    (fun choice db =>
      db.accounts.findFirst (fun a => a.iban = beneficiary.iban ∧ a.status = .active ∧
      a.currency = currency ∧ a.isSystem = false) choice)
    Db.customerOf
  match matchedInternal with
  | some (account, customer) => return (account, some customer)
  | none =>
    let extSystem ← Tx.read .externalFind fun choice db => db.accounts.findFirst
      (fun a => a.accountType = "EXTERNAL_SETTLEMENT" ∧ a.isSystem = true ∧ a.status = .active ∧
        a.currency = currency) choice
    match extSystem with
    | none => throw (.badRequest "External settlement account not found")
    | some account => return (account, none)

/-- The owner of a matched account hears of the money unless it came from the same user. -/
def notifyRecipient (userId : Uuid) (amount currency : String) (sender : CustomerProfile)
    (recipient : Option CustomerProfile) : Tx Unit :=
  match recipient with
  | none => pure ()
  | some customer =>
    if customer.userId ≠ userId then
      Tx.notificationsCreate .notifyRecipient customer.userId "INCOMING_TRANSFER_RECEIVED"
        "Incoming Transfer Received"
          s!"You received {amount} {currency} from {sender.fullLegalName}."
    else pure ()

def postBeneficiaryTransfer (userId profileId : Uuid) (dto : TransferToBeneficiaryDto)
    (currency : String) (idemRow : IdempotencyKey) (sourceAccount : Account)
    (sender : CustomerProfile) (beneficiary : Beneficiary) (destination : Account)
    (recipient : Option CustomerProfile) :
    Tx (ServiceResult BeneficiaryTransferSuccessResponse) := do
  let amountDecimal := dto.amount.value
  let count ← Tx.updateMany Db.account .sourceDebit
    (fun a => a.id = sourceAccount.id ∧ amountDecimal ≤ a.availableBalance)
    (Account.decrement amountDecimal)
  if count ≠ 1 then failKey idemRow (.conflict "Insufficient funds or concurrent update")
  else
    let _ ← Tx.update Db.account .destinationCredit destination.id (Account.increment amountDecimal)
    let transaction ← Tx.create Db.transaction .transactionCreate fun id createdAt =>
      { id, type := .beneficiaryTransfer, status := .posted, amount := amountDecimal, currency,
        description := dto.description.truthyOrNull, customerId := some profileId,
        fromAccountId := some sourceAccount.id, toAccountId := some destination.id, createdAt }
    let _ ← Tx.createEntry .debitCreate transaction.id sourceAccount.id .debit
      amountDecimal currency 0
    let _ ← Tx.createEntry .creditCreate transaction.id destination.id .credit
      amountDecimal currency 1
    let successBody : BeneficiaryTransferSuccessResponse := {
      transactionId := transaction.id.text
      status := transaction.status.text
      sourceAccountId := sourceAccount.id.text
      beneficiaryId := beneficiary.id.text
      beneficiaryIban := beneficiary.iban
      amount := dto.amount.toFixed 2
      currency
      internalBeneficiary := recipient.isSome }
    let completedAt ← Tx.newDate
    let _ ← Tx.update Db.idempotencyKey .keyComplete idemRow.id
      (IdempotencyKey.complete (.beneficiary successBody) completedAt)
    let _ ← Tx.create Db.auditEvent .auditCreate fun id createdAt =>
      { id, actorUserId := some userId, action := "BENEFICIARY_TRANSFER_POSTED",
        resourceType := "Transaction", resourceId := some transaction.id.text, createdAt,
        metadata := some (.obj [("sourceAccountId", .str sourceAccount.id.text),
          ("beneficiaryId", .str beneficiary.id.text), ("beneficiaryIban", .str beneficiary.iban),
          ("amount", .str (dto.amount.toFixed 2)), ("currency", .str currency),
          ("internalBeneficiary", .bool recipient.isSome)]) }
    Tx.notificationsCreate .notify userId "BENEFICIARY_TRANSFER_POSTED" "Transfer Successful"
      s!"Your transfer to {beneficiary.displayName} of {dto.amount.toFixed 2} {currency} has been posted."
    notifyRecipient userId (dto.amount.toFixed 2) currency sender recipient
    return ⟨201, successBody⟩

def executeBeneficiaryTransferTx (userId profileId : Uuid) (dto : TransferToBeneficiaryDto)
    (idempotencyKey currency requestHash : String) :
    Tx (ServiceResult BeneficiaryTransferSuccessResponse) := do
  match ← findKey userId idempotencyKey .keyFind with
  | some existingKey => replayKey existingKey requestHash parseBeneficiaryCompletedPayload
  | none =>
    let idemRow ← createKey userId idempotencyKey beneficiaryTransferScope requestHash
    match ← Tx.readWith .sourceFind (findSpendable dto.sourceAccountId profileId currency)
        Db.customerOf with
    | none => throw (.badRequest "Source account not found or invalid")
    | some (sourceAccount, sender) =>
      if sourceAccount.availableBalance < dto.amount.value then
        failKey idemRow (.badRequest "Insufficient funds")
      else
        let found ← Tx.read .beneficiaryFind fun choice db => db.beneficiaries.findFirst
          (fun b => b.id.spelledBy dto.beneficiaryId ∧ b.customerId = profileId ∧
            b.status = .active)
          choice
        match found with
        | none => throw (.badRequest "Beneficiary not found or invalid")
        | some beneficiary =>
          let (destination, recipient) ← resolveDestination beneficiary currency
          if sourceAccount.id = destination.id then
            throw (.badRequest "Cannot transfer to the same account via beneficiary")
          else
            postBeneficiaryTransfer userId profileId dto currency idemRow sourceAccount sender
              beneficiary destination recipient

def postMerchantPayment (userId profileId : Uuid) (dto : PayMerchantDto) (currency : String)
    (idemRow : IdempotencyKey) (sourceAccount : Account) (merchant : Merchant) :
    Tx (ServiceResult MerchantPaymentSuccessResponse) := do
  let amountDecimal := dto.amount.value
  let count ← Tx.updateMany Db.account .sourceDebit
    (fun a => a.id = sourceAccount.id ∧ a.customerId = profileId ∧ a.status = .active ∧
      a.currency = currency ∧ a.isSystem = false ∧ amountDecimal ≤ a.availableBalance)
    (Account.decrement amountDecimal)
  if count ≠ 1 then failKey idemRow (.badRequest "Insufficient funds")
  else
    let _ ← Tx.update Db.account .destinationCredit merchant.settlementAccountId
      (Account.increment amountDecimal)
    let now ← Tx.newDate
    let transaction ← Tx.create Db.transaction .transactionCreate fun id createdAt =>
      { id, type := .merchantPayment, status := .posted, amount := amountDecimal, currency,
        description := dto.description.truthyOrNull, customerId := some profileId,
        fromAccountId := some sourceAccount.id, toAccountId := some merchant.settlementAccountId,
        idempotencyKeyId := some idemRow.id, createdAt, postedAt := some now }
    let _ ← Tx.createEntry .debitCreate transaction.id sourceAccount.id .debit
      amountDecimal currency 0
    let _ ← Tx.createEntry .creditCreate transaction.id merchant.settlementAccountId .credit
      amountDecimal currency 1
    let successBody : MerchantPaymentSuccessResponse := {
      transactionId := transaction.id.text
      status := transaction.status.text
      sourceAccountId := sourceAccount.id.text
      merchantId := merchant.id.text
      amount := dto.amount.toFixed 2
      currency }
    let _ ← Tx.update Db.idempotencyKey .keyComplete idemRow.id
      (IdempotencyKey.complete (.merchant successBody) now)
    let _ ← Tx.create Db.auditEvent .auditCreate fun id createdAt =>
      { id, actorUserId := some userId, action := "MERCHANT_PAYMENT_POSTED",
        resourceType := "Transaction", resourceId := some transaction.id.text, createdAt,
        metadata := some (.obj [("sourceAccountId", .str sourceAccount.id.text),
          ("merchantId", .str merchant.id.text), ("merchantCode", .str merchant.merchantCode),
          ("amount", .str (dto.amount.toFixed 2)), ("currency", .str currency)]) }
    let _ ← Tx.create Db.notification .notify fun id createdAt =>
      { id, userId, type := "MERCHANT_PAYMENT_POSTED", title := "Merchant Payment Posted",
        message :=
          s!"Your payment to {merchant.name} of {dto.amount.toFixed 2} {currency} has been posted.",
        createdAt }
    return ⟨201, successBody⟩

def executeMerchantPaymentTx (userId profileId : Uuid) (dto : PayMerchantDto)
    (idempotencyKey currency requestHash : String) :
    Tx (ServiceResult MerchantPaymentSuccessResponse) := do
  match ← findKey userId idempotencyKey .keyFind with
  | some existingKey => replayKey existingKey requestHash parseMerchantCompletedPayload
  | none =>
    let idemRow ← createKey userId idempotencyKey merchantPaymentScope requestHash
    match ← Tx.read .sourceFind (findSpendable dto.sourceAccountId profileId currency) with
    | none => throw (.badRequest "Source account not found or invalid")
    | some sourceAccount =>
      let found ← Tx.readWith .merchantFind
        (fun choice db => db.merchants.findFirst
          (fun m => m.id.spelledBy dto.merchantId ∧ m.status = .active) choice)
        (fun db m => db.accounts.find m.settlementAccountId)
      match found with
      | none => throw (.badRequest "Merchant not found or inactive")
      | some (merchant, settlementAccount) =>
        if settlementAccount.status ≠ .active then
          throw (.badRequest "Merchant not found or inactive")
        else if settlementAccount.currency ≠ currency then
          throw (.badRequest "Merchant settlement currency does not match request currency")
        else postMerchantPayment userId profileId dto currency idemRow sourceAccount merchant

end OnlineBanking
