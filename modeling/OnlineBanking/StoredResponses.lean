import OnlineBanking.Requests

set_option autoImplicit false

/-! The two things an idempotency row keeps: the hash of the request, taken over a canonical
JSON text, and the response body, read back by the parser of its endpoint. -/

namespace OnlineBanking

open Library

def stepUpThreshold : ℚ := 1000

def transferScope : String := "POST /payments/transfer"
def beneficiaryTransferScope : String := "POST /payments/transfer-to-beneficiary"
def merchantPaymentScope : String := "POST /payments/pay-merchant"

def nullable : Option String → Json
  | some s => .str s
  | none => .null

def canonicalTransfer (dto : CreateTransferDto) (currencyNorm : String) : Json :=
  .obj [("amount", .num dto.amount), ("currency", .str currencyNorm),
    ("description", nullable dto.description.orNull),
    ("destinationAccountId", .str dto.destinationAccountId),
    ("sourceAccountId", .str dto.sourceAccountId)]

def canonicalBeneficiaryTransfer (dto : TransferToBeneficiaryDto) (currencyNorm : String) : Json :=
  .obj [("amount", .num dto.amount), ("currency", .str currencyNorm),
    ("description", nullable dto.description.orNull), ("beneficiaryId", .str dto.beneficiaryId),
    ("sourceAccountId", .str dto.sourceAccountId)]

def canonicalMerchantPayment (dto : PayMerchantDto) (currencyNorm : String) : Json :=
  .obj [("amount", .num dto.amount), ("currency", .str currencyNorm),
    ("description", nullable dto.description.orNull), ("merchantId", .str dto.merchantId),
    ("sourceAccountId", .str dto.sourceAccountId)]

section Hash

variable (sha256 : String → String)

def stableRequestHash (dto : CreateTransferDto) (currencyNorm : String) : String :=
  sha256 (canonicalTransfer dto currencyNorm).stringify

def stableBeneficiaryRequestHash (dto : TransferToBeneficiaryDto)
    (currencyNorm : String) : String :=
  sha256 (canonicalBeneficiaryTransfer dto currencyNorm).stringify

def stableMerchantRequestHash (dto : PayMerchantDto) (currencyNorm : String) : String :=
  sha256 (canonicalMerchantPayment dto currencyNorm).stringify

end Hash

structure NormalizedRequest where
  type : TransactionType
  amount : Decimal
  currency : String
  description : Option String
  sourceAccountId : String
  counterpartyId : String
  deriving DecidableEq

namespace PaymentRequest

/-- `(dto.currency ?? 'RON').trim().toUpperCase()` -/
def currency : PaymentRequest → String
  | internalTransfer dto => normalizeCurrency (dto.currency.orElse "RON")
  | beneficiaryTransfer dto => normalizeCurrency dto.currency
  | merchantPayment dto => normalizeCurrency dto.currency

def sourceAccountId : PaymentRequest → String
  | internalTransfer dto => dto.sourceAccountId
  | beneficiaryTransfer dto => dto.sourceAccountId
  | merchantPayment dto => dto.sourceAccountId

def normalized (r : PaymentRequest) : NormalizedRequest where
  type := r.type
  amount := r.amount
  currency := r.currency
  description :=
    match r with
    | internalTransfer dto => dto.description.orNull
    | beneficiaryTransfer dto => dto.description.orNull
    | merchantPayment dto => dto.description.orNull
  sourceAccountId := r.sourceAccountId
  counterpartyId :=
    match r with
    | internalTransfer dto => dto.destinationAccountId
    | beneficiaryTransfer dto => dto.beneficiaryId
    | merchantPayment dto => dto.merchantId

def canonical : PaymentRequest → Json
  | internalTransfer dto => canonicalTransfer dto (normalizeCurrency (dto.currency.orElse "RON"))
  | beneficiaryTransfer dto => canonicalBeneficiaryTransfer dto (normalizeCurrency dto.currency)
  | merchantPayment dto => canonicalMerchantPayment dto (normalizeCurrency dto.currency)

def hash (sha256 : String → String) (r : PaymentRequest) : String := sha256 r.canonical.stringify

end PaymentRequest

lemma nullable_injective : Function.Injective nullable := by
  intro a b h
  cases a <;> cases b <;> simp_all [nullable]

lemma scalar_nullable (o : Option String) : Json.Scalar (nullable o) := by
  cases o <;> trivial

def counterpartyField : TransactionType → String
  | .internalTransfer => "destinationAccountId"
  | .beneficiaryTransfer => "beneficiaryId"
  | _ => "merchantId"

def NormalizedRequest.fields (n : NormalizedRequest) : List (String × Json) :=
  [("amount", .num n.amount), ("currency", .str n.currency),
    ("description", nullable n.description),
    (counterpartyField n.type, .str n.counterpartyId), ("sourceAccountId", .str n.sourceAccountId)]

lemma NormalizedRequest.fields_flat (n : NormalizedRequest) : Json.Flat n.fields := by
  intro f hf
  simp only [fields, List.mem_cons, List.not_mem_nil, or_false] at hf
  rcases hf with rfl | rfl | rfl | rfl | rfl
  · trivial
  · trivial
  · exact scalar_nullable _
  · trivial
  · trivial

namespace PaymentRequest

lemma canonical_eq (r : PaymentRequest) : r.canonical = .obj r.normalized.fields := by
  cases r <;> rfl

lemma type_eq_of_counterpartyField {r r' : PaymentRequest}
    (h : counterpartyField r.type = counterpartyField r'.type) : r.type = r'.type := by
  cases r <;> cases r' <;> simp_all [counterpartyField, type]

theorem canonical_text_eq_iff {r r' : PaymentRequest} :
    r.canonical.stringify = r'.canonical.stringify ↔ r.normalized = r'.normalized := by
  rw [canonical_eq, canonical_eq]
  constructor
  · intro h
    have hf := Json.stringify_flat_injective r.normalized.fields_flat r'.normalized.fields_flat h
    simp only [NormalizedRequest.fields, List.cons.injEq, Prod.mk.injEq, Json.num.injEq,
      Json.str.injEq, true_and, and_true, nullable_injective.eq_iff] at hf
    obtain ⟨ha, hc, hd, ⟨ht, hp⟩, hs⟩ := hf
    cases hn : r.normalized
    cases hn' : r'.normalized
    have ht' : r.normalized.type = r'.normalized.type := type_eq_of_counterpartyField ht
    simp_all
  · intro h
    rw [h]

lemma hash_eq_iff {sha256 : String → String} (hinj : Function.Injective sha256)
    {r r' : PaymentRequest} : r.hash sha256 = r'.hash sha256 ↔ r.normalized = r'.normalized := by
  rw [hash, hash, hinj.eq_iff, canonical_text_eq_iff]

end PaymentRequest

structure TransferSuccessResponse where
  transactionId : String
  status : String
  sourceAccountId : String
  destinationAccountId : String
  amount : String
  currency : String
  deriving DecidableEq

structure BeneficiaryTransferSuccessResponse where
  transactionId : String
  status : String
  sourceAccountId : String
  beneficiaryId : String
  beneficiaryIban : String
  amount : String
  currency : String
  internalBeneficiary : Bool
  deriving DecidableEq

structure MerchantPaymentSuccessResponse where
  transactionId : String
  status : String
  sourceAccountId : String
  merchantId : String
  amount : String
  currency : String
  deriving DecidableEq

/-- `ledgerBalanced` is the literal type `true`, so it is not a field of the bodies. -/
def TransferSuccessResponse.toJson (b : TransferSuccessResponse) : Json :=
  .obj [("transactionId", .str b.transactionId), ("status", .str b.status),
    ("sourceAccountId", .str b.sourceAccountId),
    ("destinationAccountId", .str b.destinationAccountId),
    ("amount", .str b.amount), ("currency", .str b.currency), ("ledgerBalanced", .bool true)]

def BeneficiaryTransferSuccessResponse.toJson (b : BeneficiaryTransferSuccessResponse) : Json :=
  .obj [("transactionId", .str b.transactionId), ("status", .str b.status),
    ("sourceAccountId", .str b.sourceAccountId), ("beneficiaryId", .str b.beneficiaryId),
    ("beneficiaryIban", .str b.beneficiaryIban), ("amount", .str b.amount),
    ("currency", .str b.currency), ("internalBeneficiary", .bool b.internalBeneficiary),
    ("ledgerBalanced", .bool true)]

def MerchantPaymentSuccessResponse.toJson (b : MerchantPaymentSuccessResponse) : Json :=
  .obj [("transactionId", .str b.transactionId), ("status", .str b.status),
    ("sourceAccountId", .str b.sourceAccountId), ("merchantId", .str b.merchantId),
    ("amount", .str b.amount), ("currency", .str b.currency), ("ledgerBalanced", .bool true)]

def parseCompletedPayload (raw : Option Json) : Option TransferSuccessResponse := do
  let o ← raw
  guard (o.boolField "ledgerBalanced" = some true)
  return {
    transactionId := ← o.strField "transactionId"
    status := ← o.strField "status"
    sourceAccountId := ← o.strField "sourceAccountId"
    destinationAccountId := ← o.strField "destinationAccountId"
    amount := ← o.strField "amount"
    currency := ← o.strField "currency" }

def parseBeneficiaryCompletedPayload (raw : Option Json) :
    Option BeneficiaryTransferSuccessResponse := do
  let o ← raw
  guard (o.boolField "ledgerBalanced" = some true)
  return {
    transactionId := ← o.strField "transactionId"
    status := ← o.strField "status"
    sourceAccountId := ← o.strField "sourceAccountId"
    beneficiaryId := ← o.strField "beneficiaryId"
    beneficiaryIban := ← o.strField "beneficiaryIban"
    amount := ← o.strField "amount"
    currency := ← o.strField "currency"
    internalBeneficiary := ← o.boolField "internalBeneficiary" }

def parseMerchantCompletedPayload (raw : Option Json) : Option MerchantPaymentSuccessResponse := do
  let o ← raw
  guard (o.boolField "ledgerBalanced" = some true)
  return {
    transactionId := ← o.strField "transactionId"
    status := ← o.strField "status"
    sourceAccountId := ← o.strField "sourceAccountId"
    merchantId := ← o.strField "merchantId"
    amount := ← o.strField "amount"
    currency := ← o.strField "currency" }

inductive PaymentBody
  | transfer (b : TransferSuccessResponse)
  | beneficiary (b : BeneficiaryTransferSuccessResponse)
  | merchant (b : MerchantPaymentSuccessResponse)
  deriving DecidableEq

structure ServiceResult (β : Type) where
  httpStatus : ℕ
  body : β
  deriving DecidableEq

def ServiceResult.map {β γ : Type} (f : β → γ) (r : ServiceResult β) : ServiceResult γ :=
  ⟨r.httpStatus, f r.body⟩

def PaymentBody.toJson : PaymentBody → Json
  | transfer b => b.toJson
  | beneficiary b => b.toJson
  | merchant b => b.toJson

def parsePayload (type : TransactionType) (raw : Option Json) : Option PaymentBody :=
  match type with
  | .internalTransfer => (parseCompletedPayload raw).map .transfer
  | .beneficiaryTransfer => (parseBeneficiaryCompletedPayload raw).map .beneficiary
  | .merchantPayment => (parseMerchantCompletedPayload raw).map .merchant
  | _ => none

end OnlineBanking
