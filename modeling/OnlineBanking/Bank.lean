import OnlineBanking.PaymentsService
import OnlineBanking.OtherServices

set_option autoImplicit false

/-! The running bank: any number of calls in progress over one world. -/

namespace OnlineBanking

open Library

/-- The three payment endpoints are one constructor: the request says which of them is called. -/
inductive Call
  | payment (userId : Uuid) (request : PaymentRequest) (idempotencyKey : String)
  | confirmStepUp (userId : Uuid) (challengeId otp : String)
  | creditAccount (adminUserId accountId : Uuid) (dto : AdminCreditDto)
  | updateKycStatus (adminUserId customerId : Uuid) (status : KycStatus)
  | register (dto : RegisterDto)
  | createBeneficiary (userId : Uuid) (dto : CreateBeneficiaryDto)
  | removeBeneficiary (userId beneficiaryId : Uuid)
  | markAsRead (id : String) (userId : Uuid)
  | markAllAsRead (userId : Uuid)

inductive Response
  | payment (result : ServiceResult PaymentBody)
  | credit (result : CreditResponse)
  | kyc (updated : CustomerProfile)
  | registered (message : String)
  | beneficiary (result : ServiceResult Beneficiary)
  | removed
  | marked (count : ℕ)

def handle (sha256 : String → String) : Call → Service Response
  | .payment userId request idempotencyKey => do
    return .payment (← runRequest sha256 userId request idempotencyKey false)
  | .confirmStepUp userId challengeId otp => do
    return .payment (← confirmStepUp sha256 userId challengeId otp)
  | .creditAccount adminUserId accountId dto => do
    return .credit (← creditAccount adminUserId accountId dto)
  | .updateKycStatus adminUserId customerId status => do
    return .kyc (← updateKycStatus adminUserId customerId status)
  | .register dto => do return .registered (← register dto)
  | .createBeneficiary userId dto => do return .beneficiary (← createBeneficiary userId dto)
  | .removeBeneficiary userId beneficiaryId => do
    removeBeneficiary userId beneficiaryId
    return .removed
  | .markAsRead id userId => do return .marked (← markAsRead id userId)
  | .markAllAsRead userId => do return .marked (← markAllAsRead userId)

def cardNotices : List String := ["CARD_BLOCKED", "CARD_UNBLOCKED", "CARD_ISSUED", "CARD_CLOSED"]

/-- What happens besides the calls: time passes, and the services of cards and sessions, whose own
tables are not part of the model, leave audit events and notices. -/
inductive Environment
  | tick (elapsed : ℕ)
  | audit (event : AuditEvent)
  | cardNotice (notice : { n : Notification // n.type ∈ cardNotices })

def environment : Environment → World → World
  | .tick elapsed, w => { w with now := w.now + elapsed }
  | .audit event, w =>
    match Db.create Db.auditEvent event w.db with
    | .ok (_, db) => { w with db := db }
    | .error _ => w
  | .cardNotice notice, w => { w with db := w.db.addNotifications [notice.val] }

abbrev Bank : Type 1 := Config Inputs World Event Failure Call Response
abbrev Action : Type := Label Inputs Call Environment
abbrev State : Type := Shared World Event

namespace Bank

variable (sha256 : String → String)

abbrev start (w : World) : Bank := Config.init w

def step (b : Bank) (a : Action) : Option Bank := Config.step (handle sha256) environment b a

def run (b : Bank) (schedule : List Action) : Option Bank :=
  Config.run (handle sha256) environment b schedule

abbrev db (b : Bank) : Db := b.shared.world.db

abbrev trace (b : Bank) : List (ℕ × Event) := b.shared.trace

def status (b : Bank) (t : ℕ) : Option ℕ :=
  match b.threads t with
  | some (_, .done (.ok (.payment result))) => some result.httpStatus
  | _ => none

def outcome (b : Bank) (t : ℕ) : Option (Except Failure Response) :=
  match b.threads t with
  | some (_, .done r) => some r
  | _ => none

lemma thread_of_outcome {b : Bank} {t : ℕ} {r : Except Failure Response}
    (h : b.outcome t = some r) :
    ∃ call, b.threads t = some (call, .done r) := by
  unfold outcome at h
  rcases ht : b.threads t with _ | ⟨call, r' | ⟨a, k⟩⟩
  · simp [ht] at h
  · obtain rfl : r' = r := by simpa [ht] using h
    exact ⟨call, rfl⟩
  · simp [ht] at h

end Bank

end OnlineBanking
