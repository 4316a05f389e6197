import OnlineBanking.Library.Callbacks
import OnlineBanking.Library.Expiring
import OnlineBanking.Library.Interleaving
import OnlineBanking.StoredResponses

set_option autoImplicit false

/-! The world the services run in (the committed database, Redis and the clock), the inputs
the environment supplies, and the statements the services issue. -/

namespace OnlineBanking

open Library

inductive PrismaError
  | uniqueViolation
  | serializationFailure
  | recordNotFound
  | transactionAborted
  | other (code : String)
  deriving DecidableEq

def PrismaError.code : PrismaError → String
  | uniqueViolation => "P2002"
  | serializationFailure => "P2034"
  | recordNotFound => "P2025"
  | transactionAborted => "25P02"
  | other code => code

inductive Failure
  | badRequest (message : String)
  | conflict (message : String)
  | forbidden (code message : String)
  | notFound (message : String)
  | stepUpRequired (challengeId : String) (expiresInSeconds : ℕ)
  | error (message : String)
  | prisma (e : PrismaError)
  deriving DecidableEq

def isPrismaUniqueViolation : Failure → Bool
  | .prisma e => e.code = "P2002"
  | _ => false

def isSerializationFailure : Failure → Bool
  | .prisma e => e.code = "P2034"
  | _ => false

/-- What runMockFraudCheck stores under a challenge id, with the OTP. -/
structure StepUpChallenge where
  userId : Uuid
  request : PaymentRequest
  idempotencyKey : String
  otp : String

/-- `JSON.stringify({ payload, otp })`, as JSON.parse reads it back. -/
def StepUpChallenge.toJson (c : StepUpChallenge) : Json :=
  .obj [("payload", .obj [("userId", .str c.userId.text), ("type", .str c.request.typeText),
    ("requestBody", c.request.bodyJson), ("idempotencyKey", .str c.idempotencyKey)]),
    ("otp", .str c.otp)]

/-- The entries of Redis under the prefix `stepup:transfer:`. -/
abbrev Redis := Expiring String StepUpChallenge

structure Model (ρ : Type) {κ ν : Type} [Record ρ κ ν] where
  get : Db → Table ρ
  set : Db → Table ρ → Db

namespace Db

def user : Model User := ⟨users, fun db t => { db with users := t }⟩
def customerProfile : Model CustomerProfile :=
  ⟨customerProfiles, fun db t => { db with customerProfiles := t }⟩
def account : Model Account := ⟨accounts, fun db t => { db with accounts := t }⟩
def beneficiary : Model Beneficiary := ⟨beneficiaries, fun db t => { db with beneficiaries := t }⟩
def transaction : Model Transaction := ⟨transactions, fun db t => { db with transactions := t }⟩
def ledgerEntry : Model LedgerEntry := ⟨ledgerEntries, fun db t => { db with ledgerEntries := t }⟩
def idempotencyKey : Model IdempotencyKey :=
  ⟨idempotencyKeys, fun db t => { db with idempotencyKeys := t }⟩
def auditEvent : Model AuditEvent := ⟨auditEvents, fun db t => { db with auditEvents := t }⟩
def merchant : Model Merchant := ⟨merchants, fun db t => { db with merchants := t }⟩
def notification : Model Notification := ⟨notifications, fun db t => { db with notifications := t }⟩

section Statements

variable {ρ κ ν : Type} [Record ρ κ ν] [DecidableEq κ] [DecidableEq ν]

def create (m : Model ρ) (row : ρ) (db : Db) : Except PrismaError (ρ × Db) :=
  match (m.get db).insert row with
  | some t => .ok (row, m.set db t)
  | none => .error .uniqueViolation

def update (m : Model ρ) (k : κ) (f : Patch ρ) (db : Db) : Except PrismaError (ρ × Db) :=
  match (m.get db).find k with
  | some row => .ok (f.apply row, m.set db ((m.get db).modify k f))
  | none => .error .recordNotFound

def updateMany (m : Model ρ) (p : ρ → Bool) (f : Patch ρ) (db : Db) : ℕ × Db :=
  (((m.get db).rows.filter p).length, m.set db ((m.get db).modifyAll p f))

end Statements

def customerOf (db : Db) (a : Account) : Option CustomerProfile :=
  db.customerProfiles.find a.customerId

/-- Rows written through another connection, each unless its insert fails. -/
def addNotifications (db : Db) (ns : List Notification) : Db :=
  ns.foldl (fun db n =>
    match create notification n db with
    | .ok (_, db') => db'
    | .error _ => db) db

end Db

structure World where
  db : Db
  redis : Redis := []
  now : Instant := 0

inductive Statement
  | profileRead | fraudKeyRead | redisSet | redisGet | redisDel
  | keyFind | keyCreate | keyFindAgain | keyFail | keyComplete
  | profileFind | sourceFind | destinationFind | beneficiaryFind | internalFind | externalFind
  | merchantFind | sourceDebit | destinationCredit
  | transactionCreate | debitCreate | creditCreate | auditCreate
  | notify | notifyRecipient
  | targetFind | systemFind | systemDebit | targetCredit
  | userFind | userCreate | profileCreate | accountCreate | customerFind | kycUpdate
  | beneficiaryRead | beneficiaryWrite | notificationsRead
  deriving DecidableEq

/-- What the environment decides for one action: which statements fail, whether the commit does,
the ids and times the database generates, the row an unordered findFirst picks, and the random
values of the service. -/
structure Inputs where
  fault : Statement → Option PrismaError := fun _ => none
  commitFault : Option PrismaError := none
  uuid : Statement → Uuid
  choice : Statement → ℕ := fun _ => 0
  challengeId : String := ""
  otp : String := ""
  iban : String := ""

def stepUpKey (userId : Uuid) (challengeId : String) : String :=
  "stepup:transfer:" ++ userId.text ++ ":" ++ challengeId

structure Payment where
  userId : Uuid
  request : PaymentRequest
  key : String

inductive Event
  | challengeStored (userId : Uuid) (challengeId : String) (challenge : StepUpChallenge)
      (expiresAt : Instant)
  | challengeRead (userId : Uuid) (challengeId : String) (challenge : StepUpChallenge)
    (at_ : Instant)
  | committed (payment : Payment) (result : ServiceResult PaymentBody) (inserted : List Transaction)

structure TxInputs extends Inputs where
  now : Instant

abbrev Tx (α : Type) : Type := Callback TxInputs Db Notification Failure α

namespace Tx

def statement {α : Type} (l : Statement)
    (body : TxInputs → Db → Except PrismaError (α × Db)) : Tx α :=
  Callback.statement (fun i => (i.fault l).map .prisma) (.prisma .transactionAborted)
    fun i db => (body i db).mapError .prisma

def read {α : Type} (l : Statement) (f : ℕ → Db → α) : Tx α :=
  statement l fun i db => .ok (f (i.choice l) db, db)

section Statements

variable {ρ κ ν : Type} [Record ρ κ ν] [DecidableEq κ] [DecidableEq ν]

def create (m : Model ρ) (l : Statement) (row : Uuid → Instant → ρ) : Tx ρ :=
  statement l fun i db => Db.create m (row (i.uuid l) i.now) db

def update (m : Model ρ) (l : Statement) (k : κ) (f : Patch ρ) : Tx ρ :=
  statement l fun _ db => Db.update m k f db

def updateMany (m : Model ρ) (l : Statement) (p : ρ → Bool) (f : Patch ρ) : Tx ℕ :=
  statement l fun _ db => .ok (Db.updateMany m p f db)

end Statements

/-- `new Date()`, in whole milliseconds. -/
def newDate : Tx Instant := Callback.input fun i => i.now / 1000 * 1000

end Tx

abbrev Service (α : Type) : Type 1 := Prog Inputs World Event Failure α

namespace Service

def statement {α : Type} (l : Statement)
    (body : Inputs → Instant → Db → Except PrismaError (α × Db)) : Service α :=
  Prog.atomic fun i w =>
    match i.fault l with
    | some e => (.error (.prisma e), w, [])
    | none =>
      match body i w.now w.db with
      | .error e => (.error (.prisma e), w, [])
      | .ok (a, db) => (.ok a, { w with db := db }, [])

def read {α : Type} (l : Statement) (f : ℕ → Db → α) : Service α :=
  statement l fun i _ db => .ok (f (i.choice l) db, db)

section Statements

variable {ρ κ ν : Type} [Record ρ κ ν] [DecidableEq κ] [DecidableEq ν]

def create (m : Model ρ) (l : Statement) (row : Uuid → Instant → ρ) : Service ρ :=
  statement l fun i now db => Db.create m (row (i.uuid l) now) db

def update (m : Model ρ) (l : Statement) (k : κ) (f : Patch ρ) : Service ρ :=
  statement l fun _ _ db => Db.update m k f db

def updateMany (m : Model ρ) (l : Statement) (p : ρ → Bool) (f : Patch ρ) : Service ℕ :=
  statement l fun _ _ db => .ok (Db.updateMany m p f db)

end Statements

def newDate : Service Instant := Prog.atomic fun _ w => (.ok (w.now / 1000 * 1000), w, [])

/-- NotificationsService.create: a failed insert is swallowed. -/
def notificationsCreate (l : Statement) (userId : Uuid)
    (type title message : String) : Service Unit :=
  Prog.atomic fun i w =>
    match i.fault l with
    | some _ => (.ok (), w, [])
    | none =>
      let row := { id := i.uuid l, userId, type, title, message, createdAt := w.now }
      (.ok (), { w with db := w.db.addNotifications [row] }, [])

/-- `prisma.$transaction`: the callback's writes take effect in one step, or none of them does. -/
def transaction {α : Type} (callback : Tx α)
    (log : α → List Transaction → List Event) : Service α :=
  Prog.atomic fun i w =>
    let o := callback.transact (.prisma .transactionAborted) (fun i => i.commitFault.map .prisma)
      { i with now := w.now } w.db
    (o.result, { w with db := o.db.addNotifications o.outside },
      match o.result with
      | .ok a => log a (o.db.transactions.rows.drop w.db.transactions.rows.length)
      | .error _ => [])

def retrying {α : Type} (exhausted : Failure) (attempt : Service α) : ℕ → Service α
  | 0 => throw exhausted
  | n + 1 => tryCatch attempt fun err =>
    if isSerializationFailure err ∧ 0 < n then retrying exhausted attempt n else throw err

end Service

end OnlineBanking
