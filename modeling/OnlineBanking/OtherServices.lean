import Mathlib.Data.List.Sort
import OnlineBanking.Payments

set_option autoImplicit false

/-! The other calls that write to the tables of the model: funding and identity checks by an
administrator, registration, beneficiaries, and the reading of notifications. -/

namespace OnlineBanking

open Library

/-! admin.service.ts -/

structure CreditResponse where
  transactionId : Uuid
  targetAccountId : Uuid
  amount : Decimal
  currency : String

def creditAccountTx (adminUserId accountId : Uuid) (dto : AdminCreditDto) : Tx CreditResponse := do
  let target ← Tx.readWith .targetFind (fun _ db => db.accounts.find accountId) Db.customerOf
  match target with
  | none => throw (.notFound "Target account not found or is a system account")
  | some (targetAccount, customer) =>
    if targetAccount.isSystem then
      throw (.notFound "Target account not found or is a system account")
    else if targetAccount.status ≠ .active then
      throw (.badRequest "Target account is not active")
    else
      let system ← Tx.read .systemFind fun choice db => db.accounts.findFirst
        (fun a => a.isSystem = true ∧ a.currency = "RON" ∧ a.status = .active) choice
      match system with
      | none => throw (.badRequest "System settlement account not found")
      | some systemAccount =>
        let amount := dto.amount.value
        let _ ← Tx.update Db.account .systemDebit systemAccount.id (Account.decrement amount)
        let _ ← Tx.update Db.account .targetCredit targetAccount.id (Account.increment amount)
        let transaction ← Tx.create Db.transaction .transactionCreate fun id createdAt =>
          { id, type := .adminCredit, status := .posted, amount, currency := "RON",
            description := some (dto.description.truthyOrNull.getD "Admin credit funding"),
            customerId := some targetAccount.customerId, fromAccountId := some systemAccount.id,
            toAccountId := some targetAccount.id, createdAt }
        let _ ← Tx.createEntry .debitCreate transaction.id systemAccount.id .debit amount "RON" 0
        let _ ← Tx.createEntry .creditCreate transaction.id targetAccount.id .credit amount "RON" 0
        let _ ← Tx.create Db.auditEvent .auditCreate fun id createdAt =>
          { id, actorUserId := some adminUserId, action := "ACCOUNT_CREDITED_BY_ADMIN",
            resourceType := "Transaction", resourceId := some transaction.id.text, createdAt,
            metadata := some (.obj [("targetAccountId", .str targetAccount.id.text),
              ("amount", .num dto.amount), ("currency", .str "RON")]) }
        Tx.notificationsCreate .notify customer.userId "ACCOUNT_CREDITED_BY_ADMIN"
          "Account Credited"
          s!"Your account {targetAccount.iban} has been credited with {dto.amount.toString} RON by an administrator."
        return ⟨transaction.id, targetAccount.id, dto.amount, "RON"⟩

def creditAccount (adminUserId accountId : Uuid) (dto : AdminCreditDto) : Service CreditResponse :=
  if dto.currency ≠ "RON" then throw (.badRequest "Only RON currency is currently supported.")
  else Service.transaction (creditAccountTx adminUserId accountId dto) fun _ _ => []

def CustomerProfile.setKyc (status : KycStatus) (verifiedAt : Option Instant) :
    Patch CustomerProfile where
  apply p := { p with kycStatus := status, verifiedAt }
  key_apply _ := rfl
  alt_apply _ := rfl

def updateKycStatus (adminUserId customerId : Uuid) (status : KycStatus) :
    Service CustomerProfile := do
  match ← Service.read .customerFind fun _ db => db.customerProfiles.find customerId with
  | none => throw (.notFound "Customer profile not found")
  | some customer =>
    let now ← Service.newDate
    let verifiedAt := if status = .verified then some now else none
    let updated ← Service.update Db.customerProfile .kycUpdate customerId
      (CustomerProfile.setKyc status verifiedAt)
    let action := if status = .verified then "CUSTOMER_VERIFIED" else "CUSTOMER_REJECTED"
    let _ ← Service.create Db.auditEvent .auditCreate fun id createdAt =>
      { id, actorUserId := some adminUserId, action, resourceType := "CustomerProfile",
        resourceId := some customer.id.text, createdAt }
    Service.notificationsCreate .notify customer.userId action
      (if status = .verified then "KYC Verified" else "KYC Rejected")
      (if status = .verified then "Your identity has been verified successfully."
        else "Your identity verification was rejected. Please contact support.")
    return updated

/-! auth.service.ts -/

/-- The nested create of a user with its profile and first account. -/
def createCustomer (email fullLegalName iban : String) : Service User :=
  Service.statement .userCreate fun i _ db => do
    let (user, db) ← Db.create Db.user { id := i.uuid .userCreate, email } db
    let (profile, db) ← Db.create Db.customerProfile
      { id := i.uuid .profileCreate, userId := user.id, fullLegalName } db
    let (_, db) ← Db.create Db.account
      { id := i.uuid .accountCreate, customerId := profile.id, iban, currency := "RON",
        accountType := "CHECKING" } db
    return (user, db)

def register (dto : RegisterDto) : Service String := do
  let email := emailNorm dto.email
  match ← Service.read .userFind fun _ db => db.users.findAlt email with
  | some _ => throw (.conflict "An account with this email address already exists.")
  | none =>
    let fullLegalName := s!"{trim dto.firstName} {trim dto.lastName}"
    let iban ← Prog.atomic fun i w => (.ok ("RO00BANK" ++ i.iban), w, [])
    let user ← createCustomer email fullLegalName iban
    let _ ← Service.create Db.auditEvent .auditCreate fun id createdAt =>
      { id, actorUserId := some user.id, action := "USER_REGISTERED", resourceType := "User",
        resourceId := some user.id.text, createdAt,
        metadata := some (.obj [("email", .str user.email),
          ("fullLegalName", .str fullLegalName)]) }
    Service.notificationsCreate .notify user.id "USER_REGISTERED" "Welcome!"
      "Your account has been successfully created."
    return "Registration successful. You can now sign in."

/-! beneficiaries.service.ts -/

def Beneficiary.reactivate (displayName : String) («alias» : Option String) :
    Patch Beneficiary where
  apply b := { b with displayName, «alias», status := .active, archivedAt := none }
  key_apply _ := rfl
  alt_apply _ := rfl

def Beneficiary.archive (archivedAt : Instant) : Patch Beneficiary where
  apply b := { b with status := .archived, archivedAt := some archivedAt }
  key_apply _ := rfl
  alt_apply _ := rfl

def profileId (userId : Uuid) : Service Uuid := do
  match ← Service.read .profileRead fun _ db => db.customerProfiles.findAlt userId with
  | none => throw (.notFound "Customer profile not found")
  | some p => return p.id

def auditBeneficiary (userId : Uuid) (action : String) (ben : Beneficiary) : Service AuditEvent :=
  Service.create Db.auditEvent .auditCreate fun id createdAt =>
    { id, actorUserId := some userId, action, resourceType := "Beneficiary",
      resourceId := some ben.id.text, createdAt,
      metadata := some (.obj [("displayName", .str ben.displayName), ("iban", .str ben.iban)]) }

def findByUser (userId : Uuid) : Service (List Beneficiary) := do
  let customerId ← profileId userId
  Service.read .beneficiaryRead fun _ db =>
    (db.beneficiaries.rows.filter fun b => b.customerId = customerId ∧ b.status = .active).mergeSort
      fun a b => b.createdAt ≤ a.createdAt

def createBeneficiary (userId : Uuid) (dto : CreateBeneficiaryDto) :
    Service (ServiceResult Beneficiary) := do
  let customerId ← profileId userId
  let ibanNorm := ibanNorm dto.iban
  let existing ← Service.read .beneficiaryRead fun _ db =>
    db.beneficiaries.findAlt (customerId, ibanNorm)
  match existing with
  | some row =>
    if row.status = .active then
      throw (.conflict "A beneficiary with this IBAN already exists for your account.")
    else
      let ben ← Service.update Db.beneficiary .beneficiaryWrite row.id
        (Beneficiary.reactivate dto.name dto.alias.orNull)
      let _ ← auditBeneficiary userId "BENEFICIARY_REACTIVATED" ben
      return ⟨200, ben⟩
  | none =>
    let ben ← Service.create Db.beneficiary .beneficiaryWrite fun id createdAt =>
      { id, customerId, displayName := dto.name, «alias» := dto.alias.orNull, iban :=
        ibanNorm, createdAt }
    let _ ← auditBeneficiary userId "BENEFICIARY_CREATED" ben
    return ⟨201, ben⟩

def removeBeneficiary (userId beneficiaryId : Uuid) : Service Unit := do
  let customerId ← profileId userId
  let found ← Service.read .beneficiaryRead fun choice db => db.beneficiaries.findFirst
    (fun b => b.id = beneficiaryId ∧ b.customerId = customerId) choice
  match found with
  | none => throw (.notFound "Beneficiary not found")
  | some ben =>
    if ben.status = .archived then throw (.notFound "Beneficiary not found")
    else
      let now ← Service.newDate
      let _ ← Service.update Db.beneficiary .beneficiaryWrite ben.id (Beneficiary.archive now)
      let _ ← auditBeneficiary userId "BENEFICIARY_DELETED" ben
      return ()

/-! notifications.service.ts -/

def Notification.read (now : Instant) : Patch Notification where
  apply n := { n with readAt := some now }
  key_apply _ := rfl
  alt_apply _ := rfl

/-- The latest first. -/
def findAllForUser (notifications : Table Notification) (userId : Uuid) : List Notification :=
  (notifications.rows.filter fun n => n.userId = userId).insertionSort fun n n' =>
    n'.createdAt ≤ n.createdAt

/-- The route takes any text for the id; where the database cannot read it as a UUID, the statement
fails. -/
def markAsRead (id : String) (userId : Uuid) : Service ℕ := do
  let now ← Service.newDate
  match Uuid.ofText id with
  | none => throw (.prisma (.other "22P02"))
  | some id =>
    Service.updateMany Db.notification .notificationsRead (fun n => n.id = id ∧ n.userId = userId)
      (Notification.read now)

def markAllAsRead (userId : Uuid) : Service ℕ := do
  let now ← Service.newDate
  Service.updateMany Db.notification .notificationsRead
    (fun n => n.userId = userId ∧ n.readAt = none) (Notification.read now)

lemma mem_findAllForUser {t : Table Notification} {userId : Uuid} {n : Notification} :
    n ∈ findAllForUser t userId ↔ n ∈ t.rows ∧ n.userId = userId := by
  simp [findAllForUser, List.mem_insertionSort]

lemma findAllForUser_nodup (t : Table Notification) (userId : Uuid) :
    ((findAllForUser t userId).map Notification.id).Nodup := by
  have hperm : (findAllForUser t userId).Perm (t.rows.filter fun n => n.userId = userId) :=
    List.perm_insertionSort _ _
  rw [(hperm.map _).nodup_iff]
  exact t.keys_nodup.sublist (List.filter_sublist.map _)

end OnlineBanking
