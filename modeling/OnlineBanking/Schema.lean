import OnlineBanking.Library.Tables
import OnlineBanking.Library.JsonText

set_option autoImplicit false

/-! The tables of prisma/schema.prisma that the payment, funding, identity and
beneficiary services read or write. Instants count microseconds. -/

namespace OnlineBanking

open Library

def hexDigits : ℕ → ℕ → List Char
  | 0, _ => []
  | k + 1, n => hexDigits k (n / 16) ++ [Nat.digitChar (n % 16)]

def dashed (cs : List Char) : List Char :=
  cs.take 8 ++ '-' :: ((cs.drop 8).take 4 ++ '-' :: ((cs.drop 12).take 4 ++ '-' ::
    ((cs.drop 16).take 4 ++ '-' :: cs.drop 20)))

structure Uuid where
  value : Fin (2 ^ 128)
  deriving DecidableEq

def Uuid.text (u : Uuid) : String := String.ofList (dashed (hexDigits 32 u.value))

/-- The column is matched by value, so the case of the letters in `s` does not matter. -/
def Uuid.spelledBy (u : Uuid) (s : String) : Bool := u.text = s.toLower

def hexValue (c : Char) : Option ℕ :=
  if c.isDigit then some (c.toNat - '0'.toNat)
  else if 'a' ≤ c ∧ c ≤ 'f' then some (c.toNat - 'a'.toNat + 10)
  else if 'A' ≤ c ∧ c ≤ 'F' then some (c.toNat - 'A'.toNat + 10)
  else none

def skipHyphen : List Char → List Char
  | '-' :: cs => cs
  | cs => cs

/-- The value of so many pairs of hexadecimal digits, and what is left after them; a hyphen may
stand after each second pair, except at the end. -/
def hexPairs : ℕ → ℕ → List Char → Option (ℕ × List Char)
  | 0, value, cs => some (value, cs)
  | k + 1, value, c :: d :: cs => do
    let high ← hexValue c
    let low ← hexValue d
    hexPairs k ((value * 16 + high) * 16 + low) (if k ≠ 0 ∧ k % 2 = 0 then skipHyphen cs else cs)
  | _ + 1, _, _ => none

/-- A text that is given for a column of type uuid, as PostgreSQL reads it. -/
def Uuid.ofText (s : String) : Option Uuid :=
  let (body, rest) := match s.toList with
    | '{' :: cs => (cs, ['}'])
    | cs => (cs, [])
  match hexPairs 16 0 body with
  | some (value, left) =>
    if left = rest then some ⟨⟨value % 2 ^ 128, Nat.mod_lt _ (Nat.two_pow_pos 128)⟩⟩ else none
  | none => none

lemma hexDigits_length (k n : ℕ) : (hexDigits k n).length = k := by
  induction k generalizing n with
  | zero => rfl
  | succ k ih => simp [hexDigits, ih]

lemma digitChar_injective {m n : ℕ} (hm : m < 16) (hn : n < 16)
    (h : Nat.digitChar m = Nat.digitChar n) : m = n := by
  have hall : ∀ a b : Fin 16, Nat.digitChar a = Nat.digitChar b → a = b := by decide
  exact Fin.mk.inj (hall ⟨m, hm⟩ ⟨n, hn⟩ h)

lemma hexDigits_injective {k m n : ℕ} (hm : m < 16 ^ k) (hn : n < 16 ^ k)
    (h : hexDigits k m = hexDigits k n) : m = n := by
  induction k generalizing m n with
  | zero => omega
  | succ k ih =>
    obtain ⟨hinit, hlast⟩ := List.append_inj' h rfl
    have hdiv : m / 16 = n / 16 := ih (by omega) (by omega) hinit
    have hmod : m % 16 = n % 16 :=
      digitChar_injective (Nat.mod_lt _ (by decide)) (Nat.mod_lt _ (by decide))
        (List.head_eq_of_cons_eq hlast)
    omega

lemma dashed_injective {cs ds : List Char} (hc : cs.length = 32) (hd : ds.length = 32)
    (h : dashed cs = dashed ds) : cs = ds := by
  have hsplit : ∀ xs : List Char, xs = xs.take 8 ++ ((xs.drop 8).take 4 ++ ((xs.drop 12).take 4 ++
      ((xs.drop 16).take 4 ++ xs.drop 20))) := by
    intro xs
    have h1 := List.take_append_drop 8 xs
    have h2 := List.take_append_drop 4 (xs.drop 8)
    have h3 := List.take_append_drop 4 (xs.drop 12)
    have h4 := List.take_append_drop 4 (xs.drop 16)
    simp only [List.drop_drop] at h2 h3 h4
    rw [h4, h3, h2, h1]
  obtain ⟨h1, h⟩ := List.append_inj h (by simp [hc, hd])
  obtain ⟨h2, h⟩ := List.append_inj (List.cons.inj h).2 (by simp [hc, hd])
  obtain ⟨h3, h⟩ := List.append_inj (List.cons.inj h).2 (by simp [hc, hd])
  obtain ⟨h4, h⟩ := List.append_inj (List.cons.inj h).2 (by simp [hc, hd])
  rw [hsplit cs, hsplit ds, h1, h2, h3, h4, (List.cons.inj h).2]

lemma Uuid.text_length (u : Uuid) : u.text.toList.length = 36 := by
  simp [text, dashed, hexDigits_length]

lemma Uuid.ext_text {u v : Uuid} (h : u.text = v.text) : u = v := by
  have hd := dashed_injective (hexDigits_length _ _) (hexDigits_length _ _)
    (String.ofList_injective h)
  obtain ⟨⟨a, ha⟩⟩ := u
  obtain ⟨⟨b, hb⟩⟩ := v
  obtain rfl := hexDigits_injective (by omega) (by omega) hd
  rfl

lemma Uuid.eq_of_spelledBy {u v : Uuid} {s t : String} (hu : u.spelledBy s = true)
    (hv : v.spelledBy t = true) (h : s.toLower = t.toLower) : u = v := by
  simp only [spelledBy, decide_eq_true_eq] at hu hv
  exact ext_text (hu.trans (h.trans hv.symm))

lemma Uuid.spelledBy_iff {u v : Uuid} {s : String} (hu : u.spelledBy s = true) :
    v.spelledBy s = true ↔ v = u :=
  ⟨fun hv => eq_of_spelledBy hv hu rfl, fun h => h ▸ hu⟩

lemma Uuid.lower_eq_of_spelledBy {u : Uuid} {s t : String} (hs : u.spelledBy s = true)
    (ht : u.spelledBy t = true) : s.toLower = t.toLower := by
  simp only [spelledBy, decide_eq_true_eq] at hs ht
  exact hs.symm.trans ht

lemma findFirst_spelled {ρ ν : Type} [Record ρ Uuid ν] {t : Table ρ} {p : ρ → Bool} {choice : ℕ}
    {text : String} {r : ρ} (hr : r ∈ t.rows) (hnamed : (Record.key r : Uuid).spelledBy text = true)
    (hp : p r = true) (hid : ∀ x, p x = true → (Record.key x : Uuid).spelledBy text = true) :
    t.findFirst p choice = some r :=
  Table.findFirst_of_unique hr hp fun x hx hpx =>
    t.eq_of_key_eq hx hr (Uuid.eq_of_spelledBy (hid x hpx) hnamed rfl)

abbrev Instant := ℕ

inductive AccountStatus
  | active | frozen | closed
  deriving DecidableEq

inductive BeneficiaryStatus
  | active | archived
  deriving DecidableEq

inductive KycStatus
  | pending | verified | rejected
  deriving DecidableEq

inductive TransactionType
  | internalTransfer | externalTransfer | fee | adjustment | reversal | adminCredit
  | beneficiaryTransfer | merchantPayment
  deriving DecidableEq

inductive TransactionStatus
  | pending | posted | failed | reversed
  deriving DecidableEq

def TransactionStatus.text : TransactionStatus → String
  | pending => "PENDING"
  | posted => "POSTED"
  | failed => "FAILED"
  | reversed => "REVERSED"

inductive LedgerSide
  | debit | credit
  deriving DecidableEq

inductive MerchantStatus
  | active | inactive
  deriving DecidableEq

inductive IdempotencyStatus
  | inProgress | completed | failed
  deriving DecidableEq

structure User where
  id : Uuid
  email : String

structure CustomerProfile where
  id : Uuid
  userId : Uuid
  fullLegalName : String
  kycStatus : KycStatus := .pending
  verifiedAt : Option Instant := none

structure Account where
  id : Uuid
  customerId : Uuid
  iban : String
  currency : String
  availableBalance : ℚ := 0
  status : AccountStatus := .active
  accountType : String
  isSystem : Bool := false

structure Beneficiary where
  id : Uuid
  customerId : Uuid
  displayName : String
  iban : String
  «alias» : Option String := none
  status : BeneficiaryStatus := .active
  createdAt : Instant
  archivedAt : Option Instant := none

structure Transaction where
  id : Uuid
  type : TransactionType
  status : TransactionStatus := .pending
  amount : ℚ
  currency : String
  description : Option String := none
  customerId : Option Uuid := none
  fromAccountId : Option Uuid := none
  toAccountId : Option Uuid := none
  idempotencyKeyId : Option Uuid := none
  createdAt : Instant
  postedAt : Option Instant := none

structure LedgerEntry where
  id : Uuid
  transactionId : Uuid
  accountId : Uuid
  side : LedgerSide
  amount : ℚ
  currency : String
  sequence : ℕ := 0
  createdAt : Instant

structure IdempotencyKey where
  id : Uuid
  key : String
  userId : Uuid
  scope : String
  requestHash : Option String := none
  status : IdempotencyStatus := .inProgress
  responsePayload : Option Json := none
  httpStatus : Option ℕ := none
  createdAt : Instant
  completedAt : Option Instant := none
  expiresAt : Instant

structure AuditEvent where
  id : Uuid
  actorUserId : Option Uuid
  action : String
  resourceType : String
  resourceId : Option String
  metadata : Option Json := none
  createdAt : Instant

structure Merchant where
  id : Uuid
  name : String
  merchantCode : String
  category : String
  settlementAccountId : Uuid
  status : MerchantStatus := .active

structure Notification where
  id : Uuid
  userId : Uuid
  type : String
  title : String
  message : String
  readAt : Option Instant := none
  createdAt : Instant

instance : Record User Uuid String := ⟨User.id, fun u => some u.email⟩
instance : Record CustomerProfile Uuid Uuid := ⟨CustomerProfile.id, fun p => some p.userId⟩
instance : Record Account Uuid String := ⟨Account.id, fun a => some a.iban⟩
instance : Record Beneficiary Uuid (Uuid × String) :=
  ⟨Beneficiary.id, fun b => some (b.customerId, b.iban)⟩
instance : Record Transaction Uuid Uuid := ⟨Transaction.id, Transaction.idempotencyKeyId⟩
instance : Record LedgerEntry Uuid Empty := ⟨LedgerEntry.id, fun _ => none⟩
instance : Record IdempotencyKey Uuid (Uuid × String) :=
  ⟨IdempotencyKey.id, fun k => some (k.userId, k.key)⟩
instance : Record AuditEvent Uuid Empty := ⟨AuditEvent.id, fun _ => none⟩
instance : Record Merchant Uuid String := ⟨Merchant.id, fun m => some m.merchantCode⟩
instance : Record Notification Uuid Empty := ⟨Notification.id, fun _ => none⟩

structure Db where
  users : Table User := .empty
  customerProfiles : Table CustomerProfile := .empty
  accounts : Table Account := .empty
  beneficiaries : Table Beneficiary := .empty
  transactions : Table Transaction := .empty
  ledgerEntries : Table LedgerEntry := .empty
  idempotencyKeys : Table IdempotencyKey := .empty
  auditEvents : Table AuditEvent := .empty
  merchants : Table Merchant := .empty
  notifications : Table Notification := .empty

namespace Db

def balance (db : Db) (id : Uuid) : ℚ := ((db.accounts.find id).map Account.availableBalance).getD 0

def totalBalance (db : Db) : ℚ := (db.accounts.rows.map Account.availableBalance).sum

end Db

def LedgerEntry.signed (e : LedgerEntry) : ℚ :=
  match e.side with
  | .credit => e.amount
  | .debit => -e.amount

def creditSum (entries : List LedgerEntry) (id : Uuid) : ℚ :=
  ((entries.filter fun e => e.accountId = id ∧ e.side = .credit).map LedgerEntry.amount).sum

def debitSum (entries : List LedgerEntry) (id : Uuid) : ℚ :=
  ((entries.filter fun e => e.accountId = id ∧ e.side = .debit).map LedgerEntry.amount).sum

end OnlineBanking
