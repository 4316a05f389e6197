import OnlineBanking.Library.RowLocks
import OnlineBanking.Schema

set_option autoImplicit false

/-! The transfers of _legacy_demo, whose transactions lock the rows of the accounts:
TransactionsService, RiskService and AccountsService.createAccount. -/

namespace OnlineBanking.Legacy

open Library

inductive AccountStatus
  | active | closed | frozen
  deriving DecidableEq

inductive TransactionStatus
  | pending | completed | rejected
  deriving DecidableEq

inductive LedgerEntryType
  | debit | credit
  deriving DecidableEq

structure Account where
  id : String
  userId : String
  iban : String
  currency : String := "RON"
  balance : ℚ := 0
  status : AccountStatus := .active

structure Metadata where
  reasons : Option (List String) := none
  flagged : Bool := false
  merchant : Option String := none

structure Transaction where
  id : String
  referenceId : String
  idempotencyKey : String
  amount : ℚ
  currency : String
  description : Option String
  status : TransactionStatus
  riskScore : ℕ
  metadata : Option Metadata

structure LedgerEntry where
  id : Uuid
  transactionId : String
  accountId : String
  type : LedgerEntryType
  amount : ℚ

/-- The rows that a statement can lock: those of the tables and those of their unique indexes. -/
inductive Key
  | account (id : String)
  | iban (iban : String)
  | transaction (id : String)
  | idempotencyKey (key : String)
  | referenceId (id : String)
  | ledgerEntry (id : Uuid)
  deriving DecidableEq

abbrev Content : Key → Type
  | .account _ => Account
  | .transaction _ => Transaction
  | .ledgerEntry _ => LedgerEntry
  | _ => String

abbrev Row (k : Key) : Type := Option (Content k)

abbrev Rows : Type := Store Row

section Reads

variable (σ : Rows)

def account (id : String) : Option Account := σ (.account id)

def transaction (id : String) : Option Transaction := σ (.transaction id)

def ledgerEntry (id : Uuid) : Option LedgerEntry := σ (.ledgerEntry id)

def idOfIban (iban : String) : Option String := σ (.iban iban)

def idOfKey (idempotencyKey : String) : Option String := σ (.idempotencyKey idempotencyKey)

def accountOf (iban : String) : Option Account := (idOfIban σ iban).bind (account σ)

def transactionOf (idempotencyKey : String) : Option Transaction :=
  (idOfKey σ idempotencyKey).bind (transaction σ)

end Reads

inductive PrismaError
  | unavailable | uniqueViolation | recordNotFound

inductive Error
  | notFound (message : String)
  | badRequest (message : String)
  | typeError
  | prisma (e : PrismaError)

structure CreateTransferDto where
  sourceAccountId : String
  destinationIban : String
  amount : ℚ
  currency : String
  idempotencyKey : String
  description : Option String := none
  positive : 0 < amount

structure MerchantPaymentDto where
  sourceAccountId : String
  merchantName : String
  amount : ℚ
  currency : String
  idempotencyKey : String
  positive : 0 < amount

structure User where
  id : String
  mfaVerified : Bool

/-- The clock and the random values at the moment, and whether the database is to be reached. -/
structure Inputs where
  hour : Fin 24 := 12
  noise : Fin 10 := 0
  newId : String
  referenceId : String
  debitId : Uuid
  creditId : Uuid
  iban : String
  outage : Option PrismaError := none

structure RiskFactors where
  amount : ℚ
  currency : String
  isInternalTransfer : Bool

structure Risk where
  score : ℕ
  reasons : List String

inductive RiskLevel
  | low | medium | high
  deriving DecidableEq

def Risk.add (r : Risk) (applies : Bool) (points : ℕ) (reason : String) : Risk :=
  if applies then ⟨r.score + points, r.reasons ++ [reason]⟩ else r

def evaluateRisk (factors : RiskFactors) (currentHour : Fin 24) (noise : Fin 10) : Risk :=
  let r : Risk :=
    if factors.amount > 50000 then ⟨40, ["Very high transaction amount (> 50,000)"]⟩
    else if factors.amount > 10000 then ⟨25, ["High transaction amount (> 10,000)"]⟩
    else if factors.amount > 5000 then ⟨10, ["Moderate transaction amount (> 5,000)"]⟩
    else ⟨0, []⟩
  let r := r.add (factors.currency ≠ "RON") 15 "Cross-currency transaction"
  let r := r.add (!factors.isInternalTransfer) 10 "External transfer to third-party"
  let r := r.add (currentHour < 6) 15 "Transaction initiated during unusual hours (00:00-06:00)"
  { r with score := min (r.score + noise) 100 }

def getRiskLevel (score : ℕ) : RiskLevel :=
  if score ≥ 80 then .high else if score ≥ 50 then .medium else .low

inductive Written
  | transaction (row : Transaction)
  | account (row : Account)

abbrev Body : Type := Txn Key Row Error Written

def lock (k : Key) (next : Row k → Body) : Body := .row k id next

/-- The unique index of the key lets one row in. -/
def insert (k : Key) (content : Content k) (next : Body) : Body :=
  .row k (fun row => some (row.getD content)) fun row =>
    match row with
    | none => next
    | some _ => .done (.error (.prisma .uniqueViolation))

def update (k : Key) (f : Content k → Content k) (next : Body) : Body :=
  .row k (Option.map f) fun row =>
    match row with
    | none => .done (.error (.prisma .recordNotFound))
    | some _ => next

def createTransaction (row : Transaction) (next : Body) : Body :=
  insert (.transaction row.id) row <| insert (.idempotencyKey row.idempotencyKey) row.id <|
    insert (.referenceId row.referenceId) row.id next

def createEntry (row : LedgerEntry) (next : Body) : Body := insert (.ledgerEntry row.id) row next

/-- `balance: { increment }`, or decrement where `amount` is negative. -/
def increment (id : String) (amount : ℚ) (next : Body) : Body :=
  update (.account id) (fun a : Account => { a with balance := a.balance + amount }) next

/-- The source account with its row locked, and enough on it. -/
def lockSource (id : String) (amount : ℚ) (next : Body) : Body :=
  lock (.account id) fun lockedSource : Option Account =>
    match lockedSource with
    | none => .done (.error .typeError)
    | some source =>
      if source.balance < amount then .done (.error (.badRequest "Insufficient balance")) else next

inductive Response
  | stepUpRequired (threshold : ℚ)
  | processed (message : String) (transaction : Transaction) (riskScore : Option ℕ)
    (riskReasons : Option (List String))
  | created (account : Account)

abbrev Request : Type := Job Inputs Key Row Error Written Response

def fail (e : Error) : Request := .done (.error e)

def answer (response : Response) : Request := .done (.ok response)

def query {α : Type} (f : Rows → α) (k : Inputs → α → Request) : Request :=
  .look fun i σ =>
    match i.outage with
    | some e => fail (.prisma e)
    | none => k i (f σ)

def Response.of (message : String) (riskScore : Option ℕ) (riskReasons : Option (List String)) :
    Written → Response
  | .transaction row => .processed message row riskScore riskReasons
  | .account row => .created row

def write (body : Inputs → Body) (response : Written → Response) : Request :=
  .transact body fun r => .done (r.map response)

def newTransaction (i : Inputs) (idempotencyKey : String) (amount : ℚ) (currency : String)
    (description : Option String) (status : TransactionStatus) (riskScore : ℕ)
    (metadata : Option Metadata) : Transaction where
  id := i.newId
  referenceId := i.referenceId
  idempotencyKey
  amount
  currency
  description
  status
  riskScore
  metadata

def debit (i : Inputs) (accountId : String) (amount : ℚ) : LedgerEntry :=
  ⟨i.debitId, i.newId, accountId, .debit, amount⟩

def credit (i : Inputs) (accountId : String) (amount : ℚ) : LedgerEntry :=
  ⟨i.creditId, i.newId, accountId, .credit, amount⟩

def rejection (row : Inputs → Transaction) (i : Inputs) : Body :=
  createTransaction (row i) (.done (.ok (.transaction (row i))))

def transferBody (source dest : String) (row : Inputs → Transaction) (i : Inputs) : Body :=
  lockSource source (row i).amount <|
    lock (.account dest) fun _ =>
      createTransaction (row i) <|
        createEntry (debit i source (row i).amount) <|
          createEntry (credit i dest (row i).amount) <|
            increment source (-(row i).amount) <|
              increment dest (row i).amount (.done (.ok (.transaction (row i))))

def paymentBody (source : String) (row : Inputs → Transaction) (i : Inputs) : Body :=
  lockSource source (row i).amount <|
    createTransaction (row i) <|
      createEntry (debit i source (row i).amount) <|
        increment source (-(row i).amount) (.done (.ok (.transaction (row i))))

def transferRow (dto : CreateTransferDto) (risk : Risk) (i : Inputs) : Transaction :=
  match getRiskLevel risk.score with
  | .high =>
    newTransaction i dto.idempotencyKey dto.amount dto.currency dto.description .rejected risk.score
      (some { reasons := some risk.reasons })
  | .medium =>
    newTransaction i dto.idempotencyKey dto.amount dto.currency dto.description .pending risk.score
      (some { reasons := some risk.reasons, flagged := true })
  | .low =>
    newTransaction i dto.idempotencyKey dto.amount dto.currency dto.description .completed
      risk.score none

def executeTransfer (dto : CreateTransferDto) (source dest : Account) (risk : Risk) : Request :=
  match getRiskLevel risk.score with
  | .high => write (rejection (transferRow dto risk))
      (.of "Transfer rejected due to high risk score" (some risk.score) (some risk.reasons))
  | .medium => write (transferBody source.id dest.id (transferRow dto risk))
      (.of "Transfer pending review (flagged as suspicious)" (some risk.score) none)
  | .low => write (transferBody source.id dest.id (transferRow dto risk))
      (.of "Transfer completed successfully" (some risk.score) none)

def createTransfer (userId : String) (dto : CreateTransferDto) : Request :=
  query (transactionOf · dto.idempotencyKey) fun _ existing =>
    match existing with
    | some row => answer (.processed "Transfer already processed (idempotency)" row none none)
    | none =>
      query (account · dto.sourceAccountId) fun _ sourceAccount =>
        match sourceAccount.filter fun a => a.userId = userId with
        | none => fail (.notFound "Source account not found")
        | some source =>
          if source.status ≠ .active then fail (.badRequest "Source account is not active")
          else
            query (accountOf · dto.destinationIban) fun i destAccount =>
              match destAccount with
              | none => fail (.notFound "Destination account not found")
              | some dest =>
                if dest.id = source.id then fail (.badRequest "Cannot transfer to the same account")
                else executeTransfer dto source dest
                  (evaluateRisk ⟨dto.amount, dto.currency, dest.userId = userId⟩ i.hour i.noise)

def paymentRow (dto : MerchantPaymentDto) (risk : Risk) (i : Inputs) : Transaction :=
  match getRiskLevel risk.score with
  | .high =>
    newTransaction i dto.idempotencyKey dto.amount dto.currency
      (some ("Payment to " ++ dto.merchantName))
      .rejected risk.score (some {
        reasons := some risk.reasons, merchant := some dto.merchantName })
  | _ =>
    newTransaction i dto.idempotencyKey dto.amount dto.currency
      (some ("Payment to " ++ dto.merchantName))
      .completed risk.score (some { merchant := some dto.merchantName })

def executePayment (dto : MerchantPaymentDto) (source : Account) (risk : Risk) : Request :=
  match getRiskLevel risk.score with
  | .high =>
    write (rejection (paymentRow dto risk)) (.of "Payment rejected due to high risk" none none)
  | _ =>
    write (paymentBody source.id (paymentRow dto risk)) (.of "Merchant payment completed" none none)

def createMerchantPayment (userId : String) (dto : MerchantPaymentDto) : Request :=
  query (transactionOf · dto.idempotencyKey) fun _ existing =>
    match existing with
    | some row => answer (.processed "Payment already processed" row none none)
    | none =>
      query (account · dto.sourceAccountId) fun i sourceAccount =>
        match sourceAccount.filter fun a => a.userId = userId ∧ a.status = .active with
        | none => fail (.badRequest "Invalid source account")
        | some source =>
          executePayment dto source (evaluateRisk ⟨dto.amount, dto.currency, false⟩ i.hour i.noise)

def newAccount (i : Inputs) (userId currency : String) : Account where
  id := i.newId
  userId
  iban := i.iban
  currency

def createAccount (userId currency : String) : Request :=
  write (fun i =>
    insert (.account i.newId) (newAccount i userId currency) <|
      insert (.iban i.iban) i.newId (.done (.ok (.account (newAccount i userId currency)))))
    (.of "" none none)

inductive Call
  | createTransfer (user : User) (dto : CreateTransferDto)
  | createMerchantPayment (userId : String) (dto : MerchantPaymentDto)
  | createAccount (userId currency : String)

/-- The controllers. `threshold` is STEP_UP_THRESHOLD_AMOUNT. -/
def handle (threshold : ℚ) : Call → Request
  | .createTransfer user dto =>
    if dto.amount ≥ threshold ∧ user.mfaVerified ≠ true then answer (.stepUpRequired threshold)
    else createTransfer user.id dto
  | .createMerchantPayment userId dto => createMerchantPayment userId dto
  | .createAccount userId currency => createAccount userId currency

abbrev Server : Type := RowServer Inputs Key Row Error Written Response Call

abbrev Action : Type := RowLabel Inputs Error Call

def Server.start (σ : Rows) : Server := RowServer.init σ

def Server.run (threshold : ℚ) (s : Server) (schedule : List Action) : Option Server :=
  RowServer.run (handle threshold) s schedule

end OnlineBanking.Legacy
