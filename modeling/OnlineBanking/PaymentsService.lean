import OnlineBanking.Payments

set_option autoImplicit false

/-! The calls of payments.service.ts: the checks in front of a posting callback, the retry loop
around it, and the step-up detour through Redis. -/

namespace OnlineBanking

open Library

def serializableRetries : ℕ := 5

def stepUpTtl : ℕ := 300 * 1000 * 1000

def redisSet (userId : Uuid) (request : PaymentRequest) (idempotencyKey : String) :
    Service String :=
  Prog.atomic fun i w =>
    match i.fault .redisSet with
    | some e => (.error (.error e.code), w, [])
    | none =>
      let challenge : StepUpChallenge := { userId, request, idempotencyKey, otp := i.otp }
      let expiresAt := w.now + stepUpTtl
      (.ok i.challengeId,
        { w with redis := w.redis.set (stepUpKey userId i.challengeId) challenge expiresAt },
        [.challengeStored userId i.challengeId challenge expiresAt])

def redisGet (userId : Uuid) (challengeId : String) : Service (Option StepUpChallenge) :=
  Prog.atomic fun i w =>
    match i.fault .redisGet with
    | some e => (.error (.error e.code), w, [])
    | none =>
      match w.redis.get (stepUpKey userId challengeId) w.now with
      | none => (.ok none, w, [])
      | some challenge =>
        (.ok (some challenge), w, [.challengeRead userId challengeId challenge w.now])

def redisDel (userId : Uuid) (challengeId : String) : Service Unit :=
  Prog.atomic fun i w =>
    match i.fault .redisDel with
    | some e => (.error (.error e.code), w, [])
    | none => (.ok (), { w with redis := w.redis.del (stepUpKey userId challengeId) }, [])

def runMockFraudCheck (userId : Uuid) (idempotencyKey : String) (amount : ℚ)
    (request : PaymentRequest) :
    Service Unit :=
  if stepUpThreshold < amount then do
    let existing ← Service.read .fraudKeyRead fun _ db =>
      db.idempotencyKeys.findAlt (userId, idempotencyKey)
    if existing.map IdempotencyKey.status = some .completed then return ()
    else
      let challengeId ← redisSet userId request idempotencyKey
      throw (.stepUpRequired challengeId 300)
  else return ()

def requireVerified (userId : Uuid) (message : String) : Service CustomerProfile := do
  match ← Service.read .profileRead fun _ db => db.customerProfiles.findAlt userId with
  | none => throw (.forbidden "KYC_REQUIRED" message)
  | some profile =>
    if profile.kycStatus ≠ .verified then throw (.forbidden "KYC_REQUIRED" message)
    else return profile

def rejectIf (cond : Bool) (failure : Failure) : Service Unit :=
  if cond then throw failure else return ()

/-- One payment endpoint; `precheck` and `postcheck` stand before and after the currency check. -/
structure Endpoint (β : Type) where
  kycMessage : String
  precheck : Bool := false
  precheckFailure : Failure := .badRequest ""
  postcheck : Bool := false
  postcheckFailure : Failure := .badRequest ""
  body : β → PaymentBody
  execute : Uuid → Tx (ServiceResult β)
  exhausted : Failure

def pay {β : Type} (userId : Uuid) (request : PaymentRequest) (idempotencyKey : String)
    (skipFraudCheck : Bool) (endpoint : Endpoint β) : Service (ServiceResult β) := do
  rejectIf (trim idempotencyKey = "") (.badRequest "x-idempotency-key header is required")
  let profile ← requireVerified userId endpoint.kycMessage
  rejectIf endpoint.precheck endpoint.precheckFailure
  rejectIf (request.currency ≠ "RON") (.badRequest "Only RON currency is supported in MVP")
  rejectIf endpoint.postcheck endpoint.postcheckFailure
  if skipFraudCheck then pure ()
  else runMockFraudCheck userId (trim idempotencyKey) request.amount.value request
  Service.retrying endpoint.exhausted
    (Service.transaction (endpoint.execute profile.id) fun result inserted =>
      [.committed ⟨userId, request, trim idempotencyKey⟩ (result.map endpoint.body) inserted])
    serializableRetries

section Hash

variable (sha256 : String → String)

def transfer (userId : Uuid) (dto : CreateTransferDto) (idempotencyKey : String)
    (skipFraudCheck : Bool) : Service (ServiceResult TransferSuccessResponse) :=
  let currency := normalizeCurrency (dto.currency.orElse "RON")
  pay userId (.internalTransfer dto) idempotencyKey skipFraudCheck {
    kycMessage := "Customer identity verification is required before transfers."
    precheck := dto.sourceAccountId = dto.destinationAccountId
    precheckFailure := .badRequest "sourceAccountId and destinationAccountId must differ"
    body := .transfer
    execute := fun _ =>
      executeTransferTx userId dto (trim idempotencyKey) currency
        (stableRequestHash sha256 dto currency)
    exhausted := .error "Transfer failed after retries" }

def transferToBeneficiary (userId : Uuid) (dto : TransferToBeneficiaryDto) (idempotencyKey : String)
    (skipFraudCheck : Bool) : Service (ServiceResult BeneficiaryTransferSuccessResponse) :=
  let currency := normalizeCurrency dto.currency
  pay userId (.beneficiaryTransfer dto) idempotencyKey skipFraudCheck {
    kycMessage := "Customer identity verification is required before transfers."
    body := .beneficiary
    execute := fun profileId =>
      executeBeneficiaryTransferTx userId profileId dto (trim idempotencyKey) currency
        (stableBeneficiaryRequestHash sha256 dto currency)
    exhausted := .badRequest "Transfer failed after retries" }

def payMerchant (userId : Uuid) (dto : PayMerchantDto) (idempotencyKey : String)
    (skipFraudCheck : Bool) : Service (ServiceResult MerchantPaymentSuccessResponse) :=
  let currency := normalizeCurrency dto.currency
  pay userId (.merchantPayment dto) idempotencyKey skipFraudCheck {
    kycMessage := "Customer identity verification is required before merchant payments."
    postcheck := dto.amount.value ≤ 0
    postcheckFailure := .badRequest "Amount must be greater than zero"
    body := .merchant
    execute := fun profileId =>
      executeMerchantPaymentTx userId profileId dto (trim idempotencyKey) currency
        (stableMerchantRequestHash sha256 dto currency)
    exhausted := .badRequest "Merchant payment failed after retries" }

def runRequest (userId : Uuid) (request : PaymentRequest) (idempotencyKey : String)
    (skipFraudCheck : Bool) : Service (ServiceResult PaymentBody) :=
  match request with
  | .internalTransfer dto => do
    return (← transfer sha256 userId dto idempotencyKey skipFraudCheck).map .transfer
  | .beneficiaryTransfer dto => do
    return (← transferToBeneficiary sha256 userId dto idempotencyKey skipFraudCheck).map
      .beneficiary
  | .merchantPayment dto => do
    return (← payMerchant sha256 userId dto idempotencyKey skipFraudCheck).map .merchant

def storedPayload (data : Json) : Option (PaymentRequest × String) := do
  let payload ← data.field "payload"
  let request ← PaymentRequest.ofStored (← payload.strField "type") (← payload.field "requestBody")
  return (request, ← payload.strField "idempotencyKey")

lemma storedPayload_toJson (challenge : StepUpChallenge) :
    storedPayload challenge.toJson = some (challenge.request, challenge.idempotencyKey) := by
  have hfields : storedPayload challenge.toJson =
      (PaymentRequest.ofStored challenge.request.typeText challenge.request.bodyJson).bind
        fun request => some (request, challenge.idempotencyKey) := rfl
  rw [hfields, PaymentRequest.ofStored_self]
  rfl

def confirmStepUp (userId : Uuid) (challengeId otp : String) :
    Service (ServiceResult PaymentBody) := do
  match ← redisGet userId challengeId with
  | none => throw (.badRequest "Challenge expired or not found")
  | some stored =>
    let data := stored.toJson
    if data.strField "otp" ≠ some otp then throw (.badRequest "Invalid OTP")
    else
      redisDel userId challengeId
      match storedPayload data with
      | some (request, idempotencyKey) => runRequest sha256 userId request idempotencyKey true
      | none => throw (.badRequest "Unknown transfer type")

end Hash

end OnlineBanking
