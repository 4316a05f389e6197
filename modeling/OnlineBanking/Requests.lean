import Mathlib.Data.List.DropRight
import OnlineBanking.Library.LowerCase
import OnlineBanking.Schema

set_option autoImplicit false

/-! Request bodies with the checks of their DTO decorators, the canonical request hashes,
the response bodies with the parsers of their stored copies, and the failures of a call. -/

namespace OnlineBanking

open Library

inductive Optional
  | undefined
  | null
  | str (s : String)
  deriving DecidableEq

namespace Optional

/-- `value ?? other` -/
def orElse (o : Optional) (other : String) : String :=
  match o with
  | str s => s
  | _ => other

/-- `value ?? null` -/
def orNull : Optional → Option String
  | str s => some s
  | _ => none

/-- `value || null` -/
def truthyOrNull : Optional → Option String
  | str s => if s = "" then none else some s
  | _ => none

def toField (name : String) : Optional → List (String × Json)
  | undefined => []
  | null => [(name, .null)]
  | str s => [(name, .str s)]

def ofField : Option Json → Optional
  | some (.str s) => str s
  | some _ => null
  | none => undefined

end Optional

/-- String.prototype.trim removes white space and line terminators. -/
def isJsSpace (c : Char) : Bool :=
  c.toNat ∈ [9, 10, 11, 12, 13, 32, 160, 5760, 8192, 8193, 8194, 8195, 8196, 8197, 8198, 8199, 8200,
    8201, 8202, 8232, 8233, 8239, 8287, 12288, 65279]

def trim (s : String) : String :=
  String.ofList (((s.toList.dropWhile isJsSpace).reverse.dropWhile isJsSpace).reverse)

lemma trim_trim (s : String) : trim (trim s) = trim s := by
  let ys := (s.toList.dropWhile isJsSpace).rdropWhile isJsSpace
  have hstart : ys.dropWhile isJsSpace = ys := by
    rw [List.dropWhile_eq_self_iff]
    intro hlen
    have hpre : ys <+: s.toList.dropWhile isJsSpace := List.rdropWhile_prefix _ _
    rw [hpre.getElem hlen]
    exact List.dropWhile_get_zero_not _ _ (hlen.trans_le hpre.length_le)
  have hend : ys.rdropWhile isJsSpace = ys := List.rdropWhile_idempotent _ _
  have htrim : trim s = String.ofList ys := rfl
  rw [htrim]
  change String.ofList (((String.ofList ys).toList.dropWhile isJsSpace).rdropWhile isJsSpace) = _
  rw [String.toList_ofList, hstart, hend]

def normalizeCurrency (currency : String) : String := toUpperCase (trim currency)

/-- `dto.email.toLowerCase().trim()` -/
def emailNorm (email : String) : String := trim (toLowerCase email)

/-- `dto.iban.trim().toUpperCase()` -/
def ibanNorm (iban : String) : String := toUpperCase (trim iban)

def uuidTemplate : List Char := "xxxxxxxx-xxxx-xxxx-xxxx-xxxxxxxxxxxx".toList

def isHex (c : Char) : Bool := c.isDigit || ('a' ≤ c && c ≤ 'f') || ('A' ≤ c && c ≤ 'F')

def hasUuidShape (cs : List Char) : Bool :=
  cs.length = 36 && (cs.zip uuidTemplate).all fun (c, t) => if t = '-' then c = '-' else isHex c

def isUuid (s : String) : Bool :=
  hasUuidShape s.toList &&
    (s.toList[14]? ∈ "12345678".toList.map some && s.toList[19]? ∈ "89abAB".toList.map some ||
      s = "00000000-0000-0000-0000-000000000000" || s.toLower =
        "ffffffff-ffff-ffff-ffff-ffffffffffff")

def isUuid4 (s : String) : Bool :=
  hasUuidShape s.toList &&
    (s.toList[14]? = some '4' && s.toList[19]? ∈ "89abAB".toList.map some)

/-- `value.toString().split('.')[1]`, where there is one. -/
def fractionPart (n : Decimal) : Option (List Char) :=
  if '.' ∈ n.text then some (Decimal.before '.' (Decimal.after '.' n.text)) else none

/-- MaxTwoDecimalPlacesConstraint -/
def maxTwoDecimalPlaces (n : Decimal) : Bool :=
  match fractionPart n with
  | none => true
  | some digits => digits.length ≤ 2

/-- IsNumber with maxDecimalPlaces: 2. A fraction rendered without a point makes the check throw. -/
def isNumberWithTwoPlaces (n : Decimal) : Bool :=
  n.value.den = 1 ||
    match fractionPart n with
    | none => false
    | some digits => digits.length ≤ 2

/-- The variation selectors of text and emoji presentation are not counted. -/
def hasMaxLength (bound : ℕ) : Optional → Bool
  | .str s => (s.toList.countP fun c => c ≠ '\ufe0e' && c ≠ '\ufe0f') ≤ bound
  | _ => true

structure CreateTransferBody where
  sourceAccountId : String
  destinationAccountId : String
  amount : Decimal
  currency : Optional := .undefined
  description : Optional := .undefined
  deriving DecidableEq

structure TransferToBeneficiaryBody where
  sourceAccountId : String
  beneficiaryId : String
  amount : Decimal
  currency : String
  description : Optional := .undefined
  deriving DecidableEq

structure PayMerchantBody where
  sourceAccountId : String
  merchantId : String
  amount : Decimal
  currency : String
  description : Optional := .undefined
  deriving DecidableEq

structure AdminCreditBody where
  amount : Decimal
  currency : String
  description : Optional := .undefined
  deriving DecidableEq

/-- The transform of `currency` leaves no null and no surrounding space. -/
def CreateTransferBody.valid (dto : CreateTransferBody) : Bool :=
  isUuid4 dto.sourceAccountId && isUuid4 dto.destinationAccountId &&
    (1 / 100 ≤ dto.amount.value && dto.amount.value ≤ 10 ^ 12 && maxTwoDecimalPlaces dto.amount) &&
    (match dto.currency with
      | .undefined => true
      | .null => false
      | .str s => s ≠ "" && trim s = s) &&
    hasMaxLength 255 dto.description

def TransferToBeneficiaryBody.valid (dto : TransferToBeneficiaryBody) : Bool :=
  isUuid dto.sourceAccountId && isUuid dto.beneficiaryId &&
    (isNumberWithTwoPlaces dto.amount && 0 < dto.amount.value) &&
    dto.currency ≠ "" && hasMaxLength 255 dto.description

def PayMerchantBody.valid (dto : PayMerchantBody) : Bool :=
  isUuid dto.sourceAccountId && isUuid dto.merchantId &&
    (isNumberWithTwoPlaces dto.amount && 1 / 100 ≤ dto.amount.value && dto.amount.value ≤ 10 ^ 12)
      &&
    dto.currency ≠ "" && hasMaxLength 255 dto.description

def AdminCreditBody.valid (dto : AdminCreditBody) : Bool :=
  (isNumberWithTwoPlaces dto.amount && 1 / 100 ≤ dto.amount.value) &&
    dto.currency ≠ "" && hasMaxLength 255 dto.description

structure CreateTransferDto extends CreateTransferBody where
  accepted : toCreateTransferBody.valid = true
  deriving DecidableEq

structure TransferToBeneficiaryDto extends TransferToBeneficiaryBody where
  accepted : toTransferToBeneficiaryBody.valid = true
  deriving DecidableEq

structure PayMerchantDto extends PayMerchantBody where
  accepted : toPayMerchantBody.valid = true
  deriving DecidableEq

structure AdminCreditDto extends AdminCreditBody where
  accepted : toAdminCreditBody.valid = true
  deriving DecidableEq

structure RegisterDto where
  email : String
  password : String
  firstName : String
  lastName : String

structure CreateBeneficiaryDto where
  name : String
  iban : String
  «alias» : Optional

lemma CreateTransferDto.amount_pos (dto : CreateTransferDto) : 0 < dto.amount.value := by
  have h := dto.accepted
  simp only [CreateTransferBody.valid, Bool.and_eq_true, decide_eq_true_eq] at h
  exact lt_of_lt_of_le (by norm_num) h.1.1.2.1.1

lemma TransferToBeneficiaryDto.amount_pos (dto : TransferToBeneficiaryDto) :
    0 < dto.amount.value := by
  have h := dto.accepted
  simp only [TransferToBeneficiaryBody.valid, Bool.and_eq_true, decide_eq_true_eq] at h
  exact h.1.1.2.2

lemma PayMerchantDto.amount_pos (dto : PayMerchantDto) : 0 < dto.amount.value := by
  have h := dto.accepted
  simp only [PayMerchantBody.valid, Bool.and_eq_true, decide_eq_true_eq] at h
  exact lt_of_lt_of_le (by norm_num) h.1.1.2.1.2

lemma AdminCreditDto.amount_pos (dto : AdminCreditDto) : 0 < dto.amount.value := by
  have h := dto.accepted
  simp only [AdminCreditBody.valid, Bool.and_eq_true, decide_eq_true_eq] at h
  exact lt_of_lt_of_le (by norm_num) h.1.1.2

def CreateTransferBody.toJson (b : CreateTransferBody) : Json :=
  .obj ([("sourceAccountId", .str b.sourceAccountId),
    ("destinationAccountId", .str b.destinationAccountId), ("amount", .num b.amount)] ++
    b.currency.toField "currency" ++ b.description.toField "description")

def TransferToBeneficiaryBody.toJson (b : TransferToBeneficiaryBody) : Json :=
  .obj ([("sourceAccountId", .str b.sourceAccountId), ("beneficiaryId", .str b.beneficiaryId),
    ("amount", .num b.amount), ("currency", .str b.currency)] ++
      b.description.toField "description")

def PayMerchantBody.toJson (b : PayMerchantBody) : Json :=
  .obj ([("sourceAccountId", .str b.sourceAccountId), ("merchantId", .str b.merchantId),
    ("amount", .num b.amount), ("currency", .str b.currency)] ++
      b.description.toField "description")

def CreateTransferBody.ofJson (j : Json) : Option CreateTransferBody := do
  return {
    sourceAccountId := ← j.strField "sourceAccountId"
    destinationAccountId := ← j.strField "destinationAccountId"
    amount := ← j.numField "amount"
    currency := .ofField (j.field "currency")
    description := .ofField (j.field "description") }

def TransferToBeneficiaryBody.ofJson (j : Json) : Option TransferToBeneficiaryBody := do
  return {
    sourceAccountId := ← j.strField "sourceAccountId"
    beneficiaryId := ← j.strField "beneficiaryId"
    amount := ← j.numField "amount"
    currency := ← j.strField "currency"
    description := .ofField (j.field "description") }

def PayMerchantBody.ofJson (j : Json) : Option PayMerchantBody := do
  return {
    sourceAccountId := ← j.strField "sourceAccountId"
    merchantId := ← j.strField "merchantId"
    amount := ← j.numField "amount"
    currency := ← j.strField "currency"
    description := .ofField (j.field "description") }

lemma CreateTransferBody.ofJson_toJson (b : CreateTransferBody) : ofJson b.toJson = some b := by
  obtain ⟨source, destination, amount, currency, description⟩ := b
  cases currency <;> cases description <;> rfl

lemma TransferToBeneficiaryBody.ofJson_toJson (b : TransferToBeneficiaryBody) :
    ofJson b.toJson = some b := by
  obtain ⟨source, beneficiary, amount, currency, description⟩ := b
  cases description <;> rfl

lemma PayMerchantBody.ofJson_toJson (b : PayMerchantBody) : ofJson b.toJson = some b := by
  obtain ⟨source, merchant, amount, currency, description⟩ := b
  cases description <;> rfl

inductive PaymentRequest
  | internalTransfer (dto : CreateTransferDto)
  | beneficiaryTransfer (dto : TransferToBeneficiaryDto)
  | merchantPayment (dto : PayMerchantDto)
  deriving DecidableEq

namespace PaymentRequest

def amount : PaymentRequest → Decimal
  | internalTransfer dto => dto.amount
  | beneficiaryTransfer dto => dto.amount
  | merchantPayment dto => dto.amount

def type : PaymentRequest → TransactionType
  | internalTransfer _ => .internalTransfer
  | beneficiaryTransfer _ => .beneficiaryTransfer
  | merchantPayment _ => .merchantPayment

def typeText : PaymentRequest → String
  | internalTransfer _ => "INTERNAL_TRANSFER"
  | beneficiaryTransfer _ => "BENEFICIARY_TRANSFER"
  | merchantPayment _ => "MERCHANT_PAYMENT"

def bodyJson : PaymentRequest → Json
  | internalTransfer dto => dto.toJson
  | beneficiaryTransfer dto => dto.toJson
  | merchantPayment dto => dto.toJson

/-- The dispatch on a stored type with the cast of the stored body. -/
def ofStored (type : String) (body : Json) : Option PaymentRequest :=
  if type = "INTERNAL_TRANSFER" then do
    let b ← CreateTransferBody.ofJson body
    if h : b.valid = true then some (.internalTransfer ⟨b, h⟩) else none
  else if type = "BENEFICIARY_TRANSFER" then do
    let b ← TransferToBeneficiaryBody.ofJson body
    if h : b.valid = true then some (.beneficiaryTransfer ⟨b, h⟩) else none
  else if type = "MERCHANT_PAYMENT" then do
    let b ← PayMerchantBody.ofJson body
    if h : b.valid = true then some (.merchantPayment ⟨b, h⟩) else none
  else none

theorem ofStored_self (r : PaymentRequest) : ofStored r.typeText r.bodyJson = some r := by
  cases r with
  | internalTransfer dto =>
    simp [ofStored, typeText, bodyJson, CreateTransferBody.ofJson_toJson, dto.accepted]
  | beneficiaryTransfer dto =>
    simp [ofStored, typeText, bodyJson, TransferToBeneficiaryBody.ofJson_toJson, dto.accepted]
  | merchantPayment dto =>
    simp [ofStored, typeText, bodyJson, PayMerchantBody.ofJson_toJson, dto.accepted]

lemma amount_pos (r : PaymentRequest) : 0 < r.amount.value := by
  cases r with
  | internalTransfer dto => exact dto.amount_pos
  | beneficiaryTransfer dto => exact dto.amount_pos
  | merchantPayment dto => exact dto.amount_pos

end PaymentRequest

end OnlineBanking
