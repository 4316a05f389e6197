import OnlineBanking.Bank
import OnlineBanking.Library.Embedding
import OnlineBanking.Library.Expiring

set_option autoImplicit false

/-! The whole backend: beside the bank, the cards, the sessions, the one-time passwords in Redis
and the tokens the service has signed. -/

namespace OnlineBanking

open Library

inductive CardStatus
  | active | blocked | closed
  deriving DecidableEq

inductive CardType
  | debit | virtual
  deriving DecidableEq

def CardType.text : CardType → String
  | debit => "DEBIT"
  | virtual => "VIRTUAL"

structure Card where
  id : Uuid
  customerId : Uuid
  accountId : Uuid
  maskedPan : String
  demoPan : Option String := none
  expiryMonth : Option ℕ := none
  expiryYear : Option ℕ := none
  demoCvv : Option String := none
  cardType : CardType
  status : CardStatus := .active
  createdAt : Instant
  blockedAt : Option Instant := none
  closedAt : Option Instant := none

structure AuthSession where
  id : Uuid
  userId : Uuid
  refreshTokenHash : String
  userAgent : Option String := none
  ipAddress : Option String := none
  createdAt : Instant
  expiresAt : Instant
  revokedAt : Option Instant := none

instance : Record Card Uuid Empty := ⟨Card.id, fun _ => none⟩
instance : Record AuthSession Uuid Empty := ⟨AuthSession.id, fun _ => none⟩

/-- The columns of a user that only the login reads. -/
structure Credential where
  passwordHash : String
  isActive : Bool := true

structure JwtAccessPayload where
  sub : Uuid
  email : String
  mfaVerified : Bool
  sessionId : Option Uuid := none
  deriving DecidableEq

/-- A JSON Web Token with its claims; `iat` and `exp` are in seconds. -/
structure Token where
  payload : JwtAccessPayload
  iat : ℕ
  exp : ℕ
  deriving DecidableEq

/-- The one-time passwords stand in Redis beside the step-up challenges, under other prefixes. A
signature is taken for good on the tokens the service has signed, and on no other. -/
structure AppWorld extends World where
  cards : Table Card := .empty
  sessions : Table AuthSession := .empty
  credentials : Uuid → Credential
  otps : Expiring String String := []
  tokens : List Token := []

inductive AppStatement
  | cardFind | cardUpdate | cardCreate | accountFind
  | otpSet | otpGet | otpDel
  | userRead | sessionCreate | sessionFind | sessionList | sessionUpdate
  deriving DecidableEq

structure AppInputs extends Inputs where
  outage : AppStatement → Option PrismaError := fun _ => none
  newId : Uuid
  pick : ℕ := 0
  last4 : String := ""
  cvv : String := ""
  month : ℕ := 0
  year : ℕ := 0
  refreshTokenHash : String := ""

inductive AppFailure
  | service (failure : Failure)
  | unauthorized (message : String)
  | forbidden (message : String)
  deriving DecidableEq

inductive AppEvent
  | bank (event : Event)
  | passwordAccepted (user : User)
  | otpStored (key otp : String) (expiresAt : Instant)
  | otpRead (key otp : String) (at_ : Instant)
  | otpDeleted (key : String)
  | sessionCreated (session : AuthSession)
  | sessionRead (payload : JwtAccessPayload) (session : AuthSession) (at_ : Instant)
  | sessionsListed (userId : Uuid) (sessions : List AuthSession) (at_ : Instant)
  | tokenSigned (token : Token)
  | passed (payload : JwtAccessPayload)

def AppEvent.bank? : AppEvent → Option Event
  | .bank e => some e
  | _ => none

def bankPart : Part Inputs World Event Failure AppInputs AppWorld AppEvent AppFailure where
  input := AppInputs.toInputs
  get := AppWorld.toWorld
  put v w := { w with toWorld := v }
  event := .bank
  ofEvent := AppEvent.bank?
  failure := .service
  get_put _ _ := rfl
  ofEvent_event _ := rfl

abbrev AppService (α : Type) : Type 1 := Prog AppInputs AppWorld AppEvent AppFailure α

namespace AppService

def lift {α : Type} (x : Service α) : AppService α := x.embed bankPart

def fail {α : Type} (failure : Failure) : AppService α := throw (.service failure)

def statement {α : Type} (l : AppStatement)
    (body : AppInputs → AppWorld → Except PrismaError (α × AppWorld × List AppEvent)) :
    AppService α :=
  Prog.atomic fun i w =>
    match i.outage l with
    | some e => (.error (.service (.prisma e)), w, [])
    | none =>
      match body i w with
      | .error e => (.error (.service (.prisma e)), w, [])
      | .ok (a, w', es) => (.ok a, w', es)

def read {α : Type} (l : AppStatement) (f : AppInputs → AppWorld → α) : AppService α :=
  statement l fun i w => .ok (f i w, w, [])

def newDate : AppService Instant := lift Service.newDate

def audit (row : Uuid → Instant → AuditEvent) : AppService AuditEvent :=
  lift (Service.create Db.auditEvent .auditCreate row)

def notify (userId : Uuid) (type title message : String) : AppService Unit :=
  lift (Service.notificationsCreate .notify userId type title message)

def otpSet (key otp : String) (ttl : ℕ) : AppService Unit :=
  statement .otpSet fun _ w =>
    .ok ((), { w with otps := w.otps.set key otp (w.now + ttl) },
      [.otpStored key otp (w.now + ttl)])

def otpGet (key : String) : AppService (Option String) :=
  statement .otpGet fun _ w =>
    match w.otps.get key w.now with
    | none => .ok (none, w, [])
    | some otp => .ok (some otp, w, [.otpRead key otp w.now])

def otpDel (key : String) : AppService Unit :=
  statement .otpDel fun _ w => .ok ((), { w with otps := w.otps.del key }, [.otpDeleted key])

end AppService

end OnlineBanking
