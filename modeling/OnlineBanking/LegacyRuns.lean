import OnlineBanking.LegacyBooks
import Mathlib.Tactic.Linarith

set_option autoImplicit false

/-! What the requests of _legacy_demo do, in every order of their statements. -/

namespace OnlineBanking.Legacy

open Library

def amountPoints (amount : ℚ) : ℕ :=
  if amount > 50000 then 40 else if amount > 10000 then 25 else if amount > 5000 then 10 else 0

lemma Risk.add_score (r : Risk) (applies : Bool) (points : ℕ) (reason : String) :
    (r.add applies points reason).score = r.score + if applies then points else 0 := by
  cases applies <;> rfl

lemma evaluateRisk_score (factors : RiskFactors) (hour : Fin 24) (noise : Fin 10) :
    (evaluateRisk factors hour noise).score = min (amountPoints factors.amount +
      (if factors.currency ≠ "RON" then 15 else 0) +
        (if factors.isInternalTransfer = false then 10 else 0) +
        (if hour < 6 then 15 else 0) + noise) 100 := by
  simp only [evaluateRisk, Risk.add_score, decide_eq_true_eq, Bool.not_eq_true']
  congr 4
  unfold amountPoints
  split_ifs <;> rfl

lemma points_cases (p : Prop) [Decidable p] (n : ℕ) :
    (if p then n else 0) = n ∨ (if p then n else 0) = 0 := by
  by_cases h : p <;> simp [h]

lemma points_eq_iff (p : Prop) [Decidable p] {n : ℕ} (hn : n ≠ 0) :
    (if p then n else 0) = n ↔ p := by
  by_cases h : p <;> simp [h, hn.symm]

lemma amountPoints_cases (amount : ℚ) : amountPoints amount = 40 ∨ amountPoints amount ≤ 25 := by
  unfold amountPoints
  split_ifs <;> simp

lemma amountPoints_eq_iff (amount : ℚ) : amountPoints amount = 40 ↔ 50000 < amount := by
  unfold amountPoints
  split_ifs with h <;> simp [h]

lemma getRiskLevel_eq_high (score : ℕ) : getRiskLevel score = .high ↔ 80 ≤ score := by
  unfold getRiskLevel
  split_ifs with h h' <;> simp [h]

lemma getRiskLevel_high_iff {factors : RiskFactors} {hour : Fin 24} {noise : Fin 10} :
    getRiskLevel (evaluateRisk factors hour noise).score = .high ↔
      50000 < factors.amount ∧ factors.currency ≠ "RON" ∧ factors.isInternalTransfer = false ∧
        hour < 6 := by
  have hnoise : (noise : ℕ) < 10 := noise.isLt
  have hamount := amountPoints_cases factors.amount
  have hcurrency := points_cases (factors.currency ≠ "RON") 15
  have hexternal := points_cases (factors.isInternalTransfer = false) 10
  have hhour := points_cases (hour < 6) 15
  have hall : 50000 < factors.amount ∧ factors.currency ≠ "RON" ∧
      factors.isInternalTransfer = false ∧ hour < 6 ↔
      amountPoints factors.amount = 40 ∧ (if factors.currency ≠ "RON" then 15 else 0) = 15 ∧
        (if factors.isInternalTransfer = false then 10 else 0) = 10 ∧
          (if hour < 6 then 15 else 0) = 15 :=
    (amountPoints_eq_iff _).symm.and ((points_eq_iff _ (by decide)).symm.and
      ((points_eq_iff _ (by decide)).symm.and (points_eq_iff _ (by decide)).symm))
  rw [hall, getRiskLevel_eq_high, evaluateRisk_score]
  generalize (if factors.currency ≠ "RON" then 15 else 0) = a at *
  generalize (if factors.isInternalTransfer = false then 10 else 0) = b at *
  generalize (if hour < 6 then 15 else 0) = c at *
  omega

structure Persists (σ σ' : Rows) : Prop where
  accounts : ∀ id a, account σ id = some a → ∃ x, account σ' id = some (a.plus x)
  ibans : ∀ iban id, idOfIban σ iban = some id → idOfIban σ' iban = some id
  transactions : ∀ id row, transaction σ id = some row → transaction σ' id = some row
  keys : ∀ key id, idOfKey σ key = some id → idOfKey σ' key = some id

section Persistence

variable {σ σ' σ'' : Rows}

protected lemma Persists.refl (σ : Rows) : Persists σ σ :=
  ⟨fun _ a h => ⟨0, by rwa [Account.plus_zero]⟩, fun _ _ h => h, fun _ _ h => h, fun _ _ h => h⟩

protected lemma Persists.trans (h : Persists σ σ') (h' : Persists σ' σ'') : Persists σ σ'' where
  accounts id a ha := by
    obtain ⟨x, hx⟩ := h.accounts id a ha
    obtain ⟨y, hy⟩ := h'.accounts id _ hx
    exact ⟨x + y, by rw [hy]; simp [Account.plus, add_assoc]⟩
  ibans iban id hid := h'.ibans iban id (h.ibans iban id hid)
  transactions id row hrow := h'.transactions id row (h.transactions id row hrow)
  keys key id hid := h'.keys key id (h.keys key id hid)

lemma Posts.persists {row : Transaction} {es : List LedgerEntry} {change : String → ℚ}
    (h : Posts row es change σ σ') : Persists σ σ' where
  accounts id _ ha := ⟨change id, h.account_kept ha⟩
  ibans iban id hid := by rwa [h.ibans]
  transactions _ _ hr := h.transaction_kept hr
  keys _ _ hid := h.key_kept hid

lemma Opens.persists {a : Account} (h : Opens a σ σ') : Persists σ σ' where
  accounts id x hx := by
    refine ⟨0, ?_⟩
    rw [h.accounts, if_neg, hx, Account.plus_zero]
    rintro rfl
    rw [h.unused] at hx
    cases hx
  ibans iban id hid := by
    rw [h.ibans, if_neg, hid]
    rintro rfl
    rw [h.unlisted] at hid
    cases hid
  transactions id row hrow := by rwa [h.transactions]
  keys key id hid := by rwa [h.keys]

lemma Persists.accountOf (h : Persists σ σ') {iban : String} {a : Account}
    (ha : accountOf σ iban = some a) :
    ∃ x, Legacy.accountOf σ' iban = some (a.plus x) := by
  obtain ⟨id, hid, ha⟩ := Option.bind_eq_some_iff.mp ha
  obtain ⟨x, hx⟩ := h.accounts id a ha
  exact ⟨x, Option.bind_eq_some_iff.mpr ⟨id, h.ibans iban id hid, hx⟩⟩

lemma Persists.transactionOf (h : Persists σ σ') {key : String} {row : Transaction}
    (hrow : transactionOf σ key = some row) : Legacy.transactionOf σ' key = some row := by
  obtain ⟨id, hid, hrow⟩ := Option.bind_eq_some_iff.mp hrow
  exact Option.bind_eq_some_iff.mpr ⟨id, h.keys key id hid, h.transactions id row hrow⟩

end Persistence

structure Source (σ : Rows) (userId sourceAccountId : String) (source : Account) : Prop where
  found : account σ sourceAccountId = some source
  user : source.userId = userId
  active : source.status = .active

/-- What a request of TransactionsController has ordered: this transaction with these entries. -/
inductive Orders (threshold : ℚ) (σ : Rows) (row : Transaction)
    (es : List LedgerEntry) : Call → Prop
  | transfer (user : User) (dto : CreateTransferDto) (source dest : Account)
      (confirmed : dto.amount < threshold ∨ user.mfaVerified = true)
      (key : row.idempotencyKey = dto.idempotencyKey) (amount : row.amount = dto.amount)
      (currency : row.currency = dto.currency) (owned : Source σ user.id dto.sourceAccountId source)
      (found : accountOf σ dto.destinationIban = some dest)
      (entries : Shape row (.transfer source.id dest.id) es)
      (rejected : row.status = .rejected → 50000 < dto.amount ∧ dto.currency ≠ "RON" ∧
        dest.userId ≠ user.id) :
      Orders threshold σ row es (.createTransfer user dto)
  | payment (userId : String) (dto : MerchantPaymentDto) (source : Account)
      (key : row.idempotencyKey = dto.idempotencyKey) (amount : row.amount = dto.amount)
      (currency : row.currency = dto.currency) (owned : Source σ userId dto.sourceAccountId source)
      (entries : Shape row (.payment source.id) es)
      (rejected : row.status = .rejected → 50000 < dto.amount ∧ dto.currency ≠ "RON") :
      Orders threshold σ row es (.createMerchantPayment userId dto)

lemma Source.moved {σ σ' : Rows} {userId sourceAccountId : String} {source : Account}
    (h : Source σ userId sourceAccountId source) (hσ : Persists σ σ') :
    ∃ x, Source σ' userId sourceAccountId (source.plus x) := by
  obtain ⟨x, hx⟩ := hσ.accounts _ _ h.found
  exact ⟨x, hx, h.user, h.active⟩

lemma Orders.persists {threshold : ℚ} {σ σ' : Rows} {row : Transaction} {es : List LedgerEntry}
    {call : Call} (h : Orders threshold σ row es call) (hσ : Persists σ σ') :
    Orders threshold σ' row es call := by
  cases h with
  | transfer user dto source dest confirmed key amount currency owned found entries rejected =>
    obtain ⟨x, hx⟩ := owned.moved hσ
    obtain ⟨y, hy⟩ := hσ.accountOf found
    exact .transfer user dto _ _ confirmed key amount currency hx hy entries rejected
  | payment userId dto source key amount currency owned entries rejected =>
    obtain ⟨x, hx⟩ := owned.moved hσ
    exact .payment userId dto _ key amount currency hx entries rejected

lemma Orders.positive {threshold : ℚ} {σ : Rows} {row : Transaction} {es : List LedgerEntry}
    {call : Call} (h : Orders threshold σ row es call) : 0 < row.amount := by
  cases h with
  | transfer _ dto _ _ _ _ amount => exact amount ▸ dto.positive
  | payment _ dto _ _ amount => exact amount ▸ dto.positive

inductive Change (threshold : ℚ) (call : Call) (σ : Rows) : Written → Rows → Prop
  | posted (row : Transaction) (kind : Kind) (es : List LedgerEntry) (σ' : Rows)
      (posting : Posting row kind es σ σ')
      (orders : Orders threshold σ row es call) : Change threshold call σ (.transaction row) σ'
  | opened (a : Account) (σ' : Rows) (opens : Opens a σ σ')
      (asked : call = .createAccount a.userId a.currency) : Change threshold call σ (.account a) σ'

lemma Change.persists {threshold : ℚ} {call : Call} {σ σ' : Rows} {b : Written}
    (h : Change threshold call σ b σ') :
    Persists σ σ' := by
  cases h with
  | posted _ _ _ _ posting _ => exact posting.persists
  | opened _ _ opens _ => exact opens.persists

inductive Answered (threshold : ℚ) (σ : Rows) : Call → Response → Prop
  | stepUpRequired (user : User) (dto : CreateTransferDto) (large : threshold ≤ dto.amount)
      (unverified : user.mfaVerified = false) :
        Answered threshold σ (.createTransfer user dto) (.stepUpRequired threshold)
  | transfer (user : User) (dto : CreateTransferDto) (message : String) (row : Transaction)
      (riskScore : Option ℕ)
      (riskReasons : Option (List String))
      (stands : transactionOf σ dto.idempotencyKey = some row) :
      Answered threshold σ (.createTransfer user dto) (.processed message row riskScore riskReasons)
  | payment (userId : String) (dto : MerchantPaymentDto) (message : String) (row : Transaction)
      (riskScore : Option ℕ)
      (riskReasons : Option (List String))
      (stands : transactionOf σ dto.idempotencyKey = some row) :
      Answered threshold σ (.createMerchantPayment userId dto)
        (.processed message row riskScore riskReasons)
  | created (userId currency : String) (a : Account) (x : ℚ)
    (stands : account σ a.id = some (a.plus x)) :
      Answered threshold σ (.createAccount userId currency) (.created a)

lemma Answered.persists {threshold : ℚ} {σ σ' : Rows} {call : Call} {r : Response}
    (h : Answered threshold σ call r) (hσ : Persists σ σ') : Answered threshold σ' call r := by
  cases h with
  | stepUpRequired user dto large unverified => exact .stepUpRequired user dto large unverified
  | transfer user dto message row riskScore riskReasons stands =>
    exact .transfer user dto message row riskScore riskReasons (hσ.transactionOf stands)
  | payment userId dto message row riskScore riskReasons stands =>
    exact .payment userId dto message row riskScore riskReasons (hσ.transactionOf stands)
  | created userId currency a x stands =>
    obtain ⟨y, hy⟩ := hσ.accounts _ _ stands
    exact .created userId currency a (x + y) (by rw [hy]; simp [Account.plus, add_assoc])

/-- A request keeps what the others rely on, changes the rows as ordered and answers truly. -/
def Safely (threshold : ℚ) (t : ℕ) (call : Call) (r : Request) (s : Shared Rows Written) : Prop :=
  r.prog.Safe (fun a b => Persists a.world b.world) (fun _ _ => True)
    (fun _ a b => b = a ∨ ∃ w, Change threshold call a.world w b.world) t
    (fun r b => ∀ x, r = .ok x → Answered threshold b.world call x) s

section Requests

variable {threshold : ℚ} {t : ℕ} {call : Call} {s : Shared Rows Written}

lemma safely_fail {e : Error} : Safely threshold t call (fail e) s := fun _ _ _ h => by cases h

lemma safely_answer {x : Response} (h : Answered threshold s.world call x) :
    Safely threshold t call (answer x) s := by
  intro u hu y hy
  exact Except.ok.inj hy ▸ h.persists hu

lemma safely_query {α : Type} {f : Rows → α} {k : Inputs → α → Request}
    (h : ∀ i u, Persists s.world u.world → Safely threshold t call (k i (f u.world)) u) :
    Safely threshold t call (query f k) s := by
  refine Job.safe_look (fun _ _ _ => .inl rfl) (fun i u hu => ?_) fun e _ _ _ _ _ hx => by cases hx
  cases i.outage with
  | some e => exact safely_fail
  | none => exact h i u hu

lemma safely_write {body : Inputs → Body} {response : Written → Response}
    (h : ∀ i (u : Shared Rows Written) b σ, Persists s.world u.world →
      (body i).exec u.world = (.ok b, σ) →
      Change threshold call u.world b σ ∧ Answered threshold σ call (response b)) :
    Safely threshold t call (write body response) s := by
  refine Job.safe_transact (fun _ _ _ => .inl rfl) (fun _ _ _ => safely_fail)
    fun i u b σ hu hexec => ?_
  obtain ⟨hchange, hanswered⟩ := h i u b σ hu hexec
  exact ⟨.inr ⟨b, hchange⟩, safely_answer hanswered⟩

lemma Posts.transactionOf {σ σ' : Rows} {row : Transaction} {es : List LedgerEntry}
    {change : String → ℚ} (h : Posts row es change σ σ') :
    transactionOf σ' row.idempotencyKey = some row := by
  refine Option.bind_eq_some_iff.mpr ⟨row.id, ?_, ?_⟩
  · rw [h.keys, if_pos rfl]
  · rw [h.transactions, if_pos rfl]

lemma safely_createAccount {userId currency : String} :
    Safely threshold t (.createAccount userId currency) (createAccount userId currency) s := by
  refine safely_write fun i u b σ _ hexec => ?_
  obtain ⟨rfl, hopens⟩ := exec_newAccount hexec
  refine ⟨.opened _ σ hopens rfl, .created _ _ _ 0 ?_⟩
  rw [hopens.accounts, if_pos rfl, Account.plus_zero]

structure Columns (i : Inputs) (idempotencyKey : String) (amount : ℚ) (currency : String)
    (riskScore : ℕ) (row : Transaction) : Prop where
  id : row.id = i.newId
  key : row.idempotencyKey = idempotencyKey
  amount : row.amount = amount
  currency : row.currency = currency
  rejected : row.status = .rejected ↔ getRiskLevel riskScore = .high

lemma transferRow_columns (dto : CreateTransferDto) (risk : Risk) (i : Inputs) :
    Columns i dto.idempotencyKey dto.amount dto.currency risk.score (transferRow dto risk i) := by
  unfold transferRow
  split
  · rename_i h
    exact ⟨rfl, rfl, rfl, rfl, by simp [newTransaction, h]⟩
  · rename_i h
    exact ⟨rfl, rfl, rfl, rfl, by simp [newTransaction, h]⟩
  · rename_i h
    exact ⟨rfl, rfl, rfl, rfl, by simp [newTransaction, h]⟩

lemma paymentRow_columns (dto : MerchantPaymentDto) (risk : Risk) (i : Inputs) :
    Columns i dto.idempotencyKey dto.amount dto.currency risk.score (paymentRow dto risk i) := by
  unfold paymentRow
  split
  · rename_i h
    exact ⟨rfl, rfl, rfl, rfl, by simp [newTransaction, h]⟩
  · rename_i h
    exact ⟨rfl, rfl, rfl, rfl, by simpa [newTransaction] using h⟩

lemma Columns.stands {i : Inputs} {idempotencyKey currency : String} {amount : ℚ} {riskScore : ℕ}
    {row : Transaction} {es : List LedgerEntry} {change : String → ℚ} {σ σ' : Rows}
    (h : Columns i idempotencyKey amount currency riskScore row)
    (hposts : Posts row es change σ σ') : transactionOf σ' idempotencyKey = some row := by
  rw [← h.key]
  exact hposts.transactionOf

lemma Source.again {σ σ' : Rows} {userId sourceAccountId : String} {source : Account} {x : ℚ}
    (h : Source σ userId sourceAccountId (source.plus x)) (hσ : Persists σ σ') :
    ∃ y, Source σ' userId sourceAccountId (source.plus y) := by
  obtain ⟨y, hy⟩ := h.moved hσ
  exact ⟨x + y, by rwa [Account.plus_plus] at hy⟩

lemma transferRow_ordered {user : User} {dto : CreateTransferDto} {source dest : Account}
    {risk : Risk} {i : Inputs} {σ : Rows} {es : List LedgerEntry} {x y : ℚ}
    (hconfirmed : dto.amount < threshold ∨ user.mfaVerified = true)
    (hsource : Source σ user.id dto.sourceAccountId (source.plus x))
    (hdest : accountOf σ dto.destinationIban = some (dest.plus y))
    (hhigh : getRiskLevel risk.score = .high → 50000 < dto.amount ∧ dto.currency ≠ "RON" ∧
      dest.userId ≠ user.id)
    (hshape : Shape (transferRow dto risk i) (.transfer source.id dest.id) es) :
    Orders threshold σ (transferRow dto risk i) es (.createTransfer user dto) := by
  have hcolumns := transferRow_columns dto risk i
  exact .transfer user dto _ _ hconfirmed hcolumns.key hcolumns.amount hcolumns.currency
    hsource hdest hshape
    fun h => hhigh (hcolumns.rejected.mp h)

lemma safely_executeTransfer {user : User} {dto : CreateTransferDto} {source dest : Account}
    {hour : Fin 24} {noise : Fin 10} {x : ℚ}
    (hconfirmed : dto.amount < threshold ∨ user.mfaVerified = true)
    (hsource : Source s.world user.id dto.sourceAccountId (source.plus x))
    (hdest : accountOf s.world dto.destinationIban = some dest) (hne : dest.id ≠ source.id) :
    Safely threshold t (.createTransfer user dto) (executeTransfer dto source dest
      (evaluateRisk ⟨dto.amount, dto.currency, dest.userId = user.id⟩ hour noise)) s := by
  obtain ⟨risk, hrisk⟩ : ∃ risk, risk = evaluateRisk
      ⟨dto.amount, dto.currency, dest.userId = user.id⟩ hour noise :=
    ⟨_, rfl⟩
  have hhigh : getRiskLevel risk.score = .high →
      50000 < dto.amount ∧ dto.currency ≠ "RON" ∧ dest.userId ≠ user.id := by
    intro h
    rw [hrisk, getRiskLevel_high_iff] at h
    exact ⟨h.1, h.2.1, by simpa using h.2.2.1⟩
  rw [← hrisk]
  have hposted : ∀ i (u : Shared Rows Written) es σ, Persists s.world u.world →
      Posting (transferRow dto risk i) (.transfer source.id dest.id) es u.world σ →
      Change threshold (.createTransfer user dto) u.world
        (.transaction (transferRow dto risk i)) σ ∧
        transactionOf σ dto.idempotencyKey = some (transferRow dto risk i) := by
    intro i u es σ hu hposting
    obtain ⟨x', hx'⟩ := hsource.again hu
    obtain ⟨y, hy⟩ := hu.accountOf hdest
    exact ⟨.posted _ _ _ σ hposting (transferRow_ordered hconfirmed hx' hy hhigh hposting.shape),
      (transferRow_columns dto risk i).stands hposting.toPosts⟩
  have hmoved : ∀ i (u : Shared Rows Written) b σ, getRiskLevel risk.score ≠ .high →
      Persists s.world u.world →
      (transferBody source.id dest.id (transferRow dto risk) i).exec u.world = (.ok b, σ) →
      b = .transaction (transferRow dto risk i) ∧
        Change threshold (.createTransfer user dto) u.world b σ ∧
        transactionOf σ dto.idempotencyKey = some (transferRow dto risk i) := by
    intro i u b σ hlevel hu hexec
    have hcolumns := transferRow_columns dto risk i
    obtain ⟨rfl, hposting⟩ :=
      transferBody_posting hcolumns.id (fun h => hlevel (hcolumns.rejected.mp h)) hne.symm hexec
    exact ⟨rfl, hposted i u _ σ hu hposting⟩
  unfold executeTransfer
  split
  · rename_i hlevel
    refine safely_write fun i u b σ hu hexec => ?_
    obtain ⟨rfl, hposting⟩ := rejection_posting (.transfer source.id dest.id)
      ((transferRow_columns dto risk i).rejected.mpr hlevel) hexec
    obtain ⟨hchange, hstands⟩ := hposted i u _ σ hu hposting
    exact ⟨hchange, .transfer _ _ _ _ _ _ hstands⟩
  · rename_i hlevel
    refine safely_write fun i u b σ hu hexec => ?_
    obtain ⟨rfl, hchange, hstands⟩ := hmoved i u b σ (by simp [hlevel]) hu hexec
    exact ⟨hchange, .transfer _ _ _ _ _ _ hstands⟩
  · rename_i hlevel
    refine safely_write fun i u b σ hu hexec => ?_
    obtain ⟨rfl, hchange, hstands⟩ := hmoved i u b σ (by simp [hlevel]) hu hexec
    exact ⟨hchange, .transfer _ _ _ _ _ _ hstands⟩

lemma safely_executePayment {userId : String} {dto : MerchantPaymentDto} {source : Account}
    {hour : Fin 24} {noise : Fin 10} {x : ℚ}
    (hsource : Source s.world userId dto.sourceAccountId (source.plus x)) :
    Safely threshold t (.createMerchantPayment userId dto)
      (executePayment dto source (evaluateRisk ⟨dto.amount, dto.currency, false⟩ hour noise))
        s := by
  obtain ⟨risk, hrisk⟩ : ∃ risk, risk = evaluateRisk ⟨dto.amount, dto.currency, false⟩ hour noise :=
    ⟨_, rfl⟩
  have hhigh : getRiskLevel risk.score = .high → 50000 < dto.amount ∧ dto.currency ≠ "RON" := by
    intro h
    rw [hrisk, getRiskLevel_high_iff] at h
    exact ⟨h.1, h.2.1⟩
  have hposted : ∀ i (u : Shared Rows Written) es σ, Persists s.world u.world →
      Posting (paymentRow dto risk i) (.payment source.id) es u.world σ →
      Change threshold (.createMerchantPayment userId dto) u.world
        (.transaction (paymentRow dto risk i)) σ ∧
        transactionOf σ dto.idempotencyKey = some (paymentRow dto risk i) := by
    intro i u es σ hu hposting
    have hcolumns := paymentRow_columns dto risk i
    obtain ⟨x', hx'⟩ := hsource.again hu
    refine ⟨.posted _ _ _ σ hposting ?_, hcolumns.stands hposting.toPosts⟩
    exact .payment userId dto _ hcolumns.key hcolumns.amount hcolumns.currency hx' hposting.shape
      fun h => hhigh (hcolumns.rejected.mp h)
  rw [← hrisk]
  unfold executePayment
  split
  · rename_i hlevel
    refine safely_write fun i u b σ hu hexec => ?_
    obtain ⟨rfl, hposting⟩ := rejection_posting (.payment source.id)
      ((paymentRow_columns dto risk i).rejected.mpr hlevel) hexec
    obtain ⟨hchange, hstands⟩ := hposted i u _ σ hu hposting
    exact ⟨hchange, .payment _ _ _ _ _ _ hstands⟩
  · rename_i hlevel
    refine safely_write fun i u b σ hu hexec => ?_
    have hcolumns := paymentRow_columns dto risk i
    obtain ⟨rfl, hposting⟩ := paymentBody_posting hcolumns.id
      (fun h => hlevel (hcolumns.rejected.mp h)) hexec
    obtain ⟨hchange, hstands⟩ := hposted i u _ σ hu hposting
    exact ⟨hchange, .payment _ _ _ _ _ _ hstands⟩

lemma safely_createTransfer {user : User} {dto : CreateTransferDto}
    (hconfirmed : dto.amount < threshold ∨ user.mfaVerified = true) :
    Safely threshold t (.createTransfer user dto) (createTransfer user.id dto) s := by
  refine safely_query fun _ u _ => ?_
  cases hexisting : transactionOf u.world dto.idempotencyKey with
  | some row => exact safely_answer (.transfer _ _ _ _ _ _ hexisting)
  | none =>
    refine safely_query fun _ u _ => ?_
    cases hsource : (account u.world dto.sourceAccountId).filter fun a => a.userId = user.id with
    | none => exact safely_fail
    | some source =>
      obtain ⟨hsource, huser⟩ := Option.filter_eq_some_iff.mp hsource
      dsimp only
      split
      · exact safely_fail
      · rename_i hactive
        have hsource : Source u.world user.id dto.sourceAccountId source :=
          ⟨hsource, by simpa using huser, by simpa using hactive⟩
        refine safely_query fun i v hv => ?_
        cases hdest : accountOf v.world dto.destinationIban with
        | none => exact safely_fail
        | some dest =>
          dsimp only
          split
          · exact safely_fail
          · rename_i hne
            obtain ⟨x, hx⟩ := hsource.moved hv
            exact safely_executeTransfer hconfirmed hx hdest hne

lemma safely_createMerchantPayment {userId : String} {dto : MerchantPaymentDto} :
    Safely threshold t (.createMerchantPayment userId dto)
      (createMerchantPayment userId dto) s := by
  refine safely_query fun _ u _ => ?_
  cases hexisting : transactionOf u.world dto.idempotencyKey with
  | some row => exact safely_answer (.payment _ _ _ _ _ _ hexisting)
  | none =>
    refine safely_query fun i u _ => ?_
    cases hsource : (account u.world dto.sourceAccountId).filter fun a =>
      a.userId = userId ∧ a.status = .active with
    | none => exact safely_fail
    | some source =>
      obtain ⟨hsource, huser⟩ := Option.filter_eq_some_iff.mp hsource
      obtain ⟨huser, hactive⟩ : source.userId = userId ∧ source.status = .active := by
        simpa using huser
      have hsource : Source u.world userId dto.sourceAccountId (source.plus 0) :=
        ⟨by rwa [Account.plus_zero], huser, hactive⟩
      exact safely_executePayment hsource

end Requests

def legacyDiscipline (threshold : ℚ) :
    Discipline (E := Written) (fun call => (handle threshold call).prog)
      (fun (v : Empty) _ => v.elim) where
  Rely _ s s' := Persists s.world s'.world
  Guar _ call _ s s' := s' = s ∨ ∃ w, Change threshold call s.world w s'.world
  Post _ call r s := ∀ x, r = .ok x → Answered threshold s.world call x
  Fresh _ _ := True
  refl _ _ := .refl _
  trans _ _ _ _ := .trans
  guar_rely _ _ _ _ _ _ _ h := by
    rcases h with rfl | ⟨w, hchange⟩
    · exact .refl _
    · exact hchange.persists
  env_rely _ v _ := v.elim
  fresh_init _ _ := trivial
  fresh_rely _ _ _ _ _ := trivial
  handle_safe t call s _ := by
    cases call with
    | createTransfer user dto =>
      change Safely threshold t _ (handle threshold (.createTransfer user dto)) s
      rw [handle]
      split_ifs with hstep
      · exact safely_answer (.stepUpRequired user dto hstep.1 (by simpa using hstep.2))
      · exact safely_createTransfer (by rw [not_and_or, not_le, not_not] at hstep; exact hstep)
    | createMerchantPayment userId dto => exact safely_createMerchantPayment
    | createAccount userId currency => exact safely_createAccount

def balance (σ : Rows) (id : String) : ℚ := ((account σ id).map Account.balance).getD 0

def Ordered (threshold : ℚ) (calls : ℕ → Option Call) (σ : Rows) (id : String)
    (row : Transaction) : Prop :=
  ∃ t call es, calls t = some call ∧ EntriesOf σ id es ∧ Orders threshold σ row es call

structure Books (threshold : ℚ) (σ₀ : Rows) (calls : ℕ → Option Call) (σ : Rows) : Prop where
  sound : Sound σ
  balances : ∀ id, balance σ id - net σ id = balance σ₀ id - net σ₀ id
  kept : Persists σ₀ σ
  ordered : ∀ id row, transaction σ id = some row → transaction σ₀ id = some row ∨
    Ordered threshold calls σ id row

section Books

variable {threshold : ℚ} {σ₀ σ σ' : Rows} {calls calls' : ℕ → Option Call} {call : Call}
    {b : Written}

lemma Books.start (h : Sound σ₀) : Books threshold σ₀ calls σ₀ :=
  ⟨h, fun _ => rfl, .refl _, fun _ _ h => .inl h⟩

lemma Books.more_calls (h : Books threshold σ₀ calls σ)
    (hcalls : ∀ t call, calls t = some call → calls' t = some call) :
    Books threshold σ₀ calls' σ := by
  refine ⟨h.sound, h.balances, h.kept, fun id row hrow => (h.ordered id row hrow).imp_right ?_⟩
  rintro ⟨t, call, es, ht, hordered⟩
  exact ⟨t, call, es, hcalls t call ht, hordered⟩

lemma Posts.balance {row : Transaction} {es : List LedgerEntry} {change : String → ℚ}
    (h : Posts row es change σ σ') (hheld : ∀ id, account σ id = none → change id = 0)
    (id : String) :
    Legacy.balance σ' id = Legacy.balance σ id + change id := by
  rw [Legacy.balance, Legacy.balance, h.accounts]
  cases ha : account σ id with
  | none => simp [hheld id ha]
  | some a => rfl

lemma Posting.total_eq_zero {row : Transaction} {kind : Kind} {es : List LedgerEntry}
    (h : Posting row kind es σ σ') (id : String) (hnone : account σ id = none) :
    total es id = 0 := by
  refine List.sum_eq_zero fun x hx => ?_
  obtain ⟨e, he, rfl⟩ := List.mem_map.mp hx
  refine if_neg ?_
  rintro rfl
  obtain ⟨a, ha⟩ := h.held e he
  rw [hnone] at ha
  cases ha

lemma Opens.balance {a : Account} (h : Opens a σ σ') (id : String) :
    Legacy.balance σ' id = Legacy.balance σ id := by
  rw [Legacy.balance, Legacy.balance, h.accounts]
  split_ifs with hid
  · rw [hid, h.unused]
    exact h.empty
  · rfl

lemma Change.books {t : ℕ} (ht : calls t = some call) (h : Books threshold σ₀ calls σ)
    (hchange : Change threshold call σ b σ') : Books threshold σ₀ calls σ' := by
  cases hchange with
  | posted row kind es _ posting orders =>
    refine ⟨posting.sound orders.positive h.sound, fun id => ?_, h.kept.trans posting.persists,
      fun id r hr => ?_⟩
    · rw [posting.toPosts.balance posting.total_eq_zero, posting.toPosts.net, ← h.balances id]
      ring
    · rcases posting.transaction_cases hr with ⟨rfl, rfl⟩ | hold
      · exact .inr ⟨t, call, es, ht, posting.entriesOf_new h.sound,
          orders.persists posting.persists⟩
      · refine (h.ordered id r hold).imp_right ?_
        rintro ⟨u, call', es', hu, hes', horders⟩
        exact ⟨u, call', es', hu, posting.entriesOf_old hold hes',
          horders.persists posting.persists⟩
  | opened a _ opens _ =>
    refine ⟨opens.sound h.sound, fun id => ?_, h.kept.trans opens.persists, fun id r hr => ?_⟩
    · rw [opens.balance, opens.net, h.balances id]
    · rw [opens.transactions] at hr
      refine (h.ordered id r hr).imp_right ?_
      rintro ⟨u, call', es', hu, hes', horders⟩
      refine ⟨u, call', es', hu, fun e => ?_, horders.persists opens.persists⟩
      rw [opens.entries]
      exact hes' e

end Books

def callsOf {γ : Type 1} (threads : ℕ → Option (Call × γ)) (t : ℕ) : Option Call :=
  (threads t).map Prod.fst

section Runs

variable {threshold : ℚ} {σ₀ : Rows} {schedule : List Action} {s : Server}

abbrev SerialServer : Type 1 := SerialConfig Inputs Key Row Error Written Response Call

lemma serialRun_books {ms : List (Label (Except Error Inputs) Call Empty)} {d : SerialServer}
    (hσ : Sound σ₀) (h : serialRun (handle threshold) (Config.init σ₀) ms = some d) :
    Books threshold σ₀ (callsOf d.threads) d.shared.world := by
  have hstep : ∀ (c : SerialServer) l (c' : SerialServer), (legacyDiscipline threshold).Holds c →
      True →
      Books threshold σ₀ (callsOf c.threads) c.shared.world →
      Config.step (fun call => (handle threshold call).prog)
        (fun (v : Empty) _ => v.elim) c l = some c' →
      Books threshold σ₀ (callsOf c'.threads) c'.shared.world := by
    intro c l c' hc _ hbooks hs
    have hcalls : ∀ t call, callsOf c.threads t = some call → callsOf c'.threads t = some call := by
      intro t call ht
      obtain ⟨⟨call', p⟩, hp, rfl⟩ := Option.map_eq_some_iff.mp ht
      obtain ⟨p', hp'⟩ := (legacyDiscipline threshold).call_persists hc hs hp
      exact Option.map_eq_some_iff.mpr ⟨_, hp', rfl⟩
    rcases (legacyDiscipline threshold).step_cases hc hs with
      ⟨_, _, _, _, hshared, _⟩ | ⟨t, i, call, p, p', _, ht, hguar, hthreads, _⟩ | ⟨v, _, _, _⟩
    · exact hshared ▸ hbooks.more_calls hcalls
    · rcases hguar with hsame | ⟨w, hchange⟩
      · exact hsame ▸ hbooks.more_calls hcalls
      · have hcall : callsOf c.threads t = some call := Option.map_eq_some_iff.mpr ⟨_, ht, rfl⟩
        exact (hchange.books hcall hbooks).more_calls hcalls
    · exact v.elim
  exact ((legacyDiscipline threshold).run_invariant hstep
    ((legacyDiscipline threshold).init_holds σ₀) (Books.start hσ)
    (Discipline.meets_true _ _) h).2

def Server.calls (s : Server) (t : ℕ) : Option Call := (s.tasks t).map Prod.fst

def Server.answered (s : Server) (t : ℕ) (call : Call) (r : Except Error Response) : Prop :=
  s.tasks t = some (call, .idle (.done r))

lemma callsOf_matches {d : SerialServer} (h : s.Matches d) : callsOf d.threads = s.calls := by
  funext t
  rw [callsOf, h.threads, Server.calls, Option.map_map]
  rfl

lemma run_answered (h : (Server.start σ₀).run threshold schedule = some s) {t : ℕ} {call : Call}
    {response : Response} (ht : s.answered t call (.ok response)) :
    Answered threshold s.store call response := by
  obtain ⟨ms, d, hd, hmatches⟩ := serialized h
  have hdone : d.threads t = some (call, .done (.ok response)) := by
    rw [hmatches.threads]
    exact Option.map_eq_some_iff.mpr ⟨_, ht, rfl⟩
  have hholds := (legacyDiscipline threshold).holds_of_run
    ((legacyDiscipline threshold).init_holds σ₀) hd
  rw [← hmatches.store]
  exact (legacyDiscipline threshold).post_of_done hholds hdone response rfl

lemma run_books (hσ : Sound σ₀) (h : (Server.start σ₀).run threshold schedule = some s) :
    Books threshold σ₀ s.calls s.store := by
  obtain ⟨ms, d, hd, hmatches⟩ := serialized h
  have hbooks := serialRun_books hσ hd
  rwa [callsOf_matches hmatches, hmatches.store] at hbooks

/-- In every order of the statements, with rows locked and transactions ended at any point: no
account is overdrawn, each balance has changed by just its entries, and what stands in the tables
was ordered by a request and moves what it says, or nothing where it was rejected. -/
theorem legacy_books (hσ : Sound σ₀) (h : (Server.start σ₀).run threshold schedule = some s) :
    Books threshold σ₀ s.calls s.store := run_books hσ h

def Call.idempotencyKey : Call → Option String
  | .createTransfer _ dto => some dto.idempotencyKey
  | .createMerchantPayment _ dto => some dto.idempotencyKey
  | .createAccount _ _ => none

lemma Sound.of_key {σ : Rows} (h : Sound σ) {key : String} {row : Transaction}
    (hrow : transactionOf σ key = some row) :
    row.idempotencyKey = key ∧ transaction σ row.id = some row ∧
      ∀ id r, transaction σ id = some r → r.idempotencyKey = key → r = row := by
  obtain ⟨id, hid, hrow⟩ := Option.bind_eq_some_iff.mp hrow
  obtain ⟨r, hr, hkey⟩ := h.keys key id hid
  obtain rfl : row = r := Option.some.inj (hrow.symm.trans hr)
  obtain rfl := (h.transactions id row hrow).1
  refine ⟨hkey, hrow, fun id' r' hr' hkey' => ?_⟩
  have hid' := (h.transactions id' r' hr').2
  rw [hkey', hid] at hid'
  obtain rfl := Option.some.inj hid'
  exact Option.some.inj (hr'.symm.trans hrow)

/-- However often a request is sent, and however its copies overlap: each that is answered names the
one transaction with its key, which stands from then on with its entries. -/
theorem legacy_idempotent (hσ : Sound σ₀) (h : (Server.start σ₀).run threshold schedule = some s)
    {t : ℕ} {call : Call} {message : String} {row : Transaction} {riskScore : Option ℕ}
    {riskReasons : Option (List String)}
    (ht : s.answered t call (.ok (.processed message row riskScore riskReasons)))
    {more : List Action} {s' : Server} (hmore : s.run threshold more = some s') :
    call.idempotencyKey = some row.idempotencyKey ∧ transaction s'.store row.id = some row ∧
      (∀ id r, transaction s'.store id = some r → r.idempotencyKey = row.idempotencyKey → r = row) ∧
      (∃ kind es, Shape row kind es ∧ EntriesOf s'.store row.id es) ∧
      (transaction σ₀ row.id = some row ∨ Ordered threshold s'.calls s'.store row.id row) := by
  have hrun : (Server.start σ₀).run threshold (schedule ++ more) = some s' := by
    rw [Server.run, RowServer.run_append]
    exact Option.bind_eq_some_iff.mpr ⟨s, h, hmore⟩
  have hbooks := run_books hσ hrun
  have hkey : ∃ key, call.idempotencyKey = some key ∧ transactionOf s'.store key = some row := by
    cases run_answered hrun (RowServer.run_answered hmore ht) with
    | transfer user dto _ _ _ _ stands => exact ⟨_, rfl, stands⟩
    | payment userId dto _ _ _ _ stands => exact ⟨_, rfl, stands⟩
  obtain ⟨key, hcall, hstands⟩ := hkey
  obtain ⟨rfl, hrow, honly⟩ := hbooks.sound.of_key hstands
  exact ⟨hcall, hrow, honly, hbooks.sound.shaped _ _ hrow, hbooks.ordered _ _ hrow⟩

end Runs

def demoSource : Account := { id := "a1", userId := "u1", iban := "RO10OBKR1", balance := 100 }

def demoDest : Account := { id := "a2", userId := "u2", iban := "RO20OBKR2" }

def demoRows : Rows
  | .account id => if id = "a1" then some demoSource else if id = "a2" then some demoDest else none
  | .iban iban =>
    if iban = "RO10OBKR1" then some "a1" else if iban = "RO20OBKR2" then some "a2" else none
  | .transaction _ => none
  | .ledgerEntry _ => none
  | .idempotencyKey _ => none
  | .referenceId _ => none

lemma demoRows_account {id : String} {a : Account} (h : account demoRows id = some a) :
    (id = "a1" ∧ a = demoSource) ∨ (id = "a2" ∧ a = demoDest) := by
  have h : (if id = "a1" then some demoSource else if id = "a2" then some demoDest else none) =
      some a := h
  split_ifs at h with h₁ h₂
  · exact .inl ⟨h₁, (Option.some.inj h).symm⟩
  · exact .inr ⟨h₂, (Option.some.inj h).symm⟩

lemma demoRows_sound : Sound demoRows := by
  constructor
  case accounts =>
    intro id a ha
    rcases demoRows_account ha with ⟨rfl, rfl⟩ | ⟨rfl, rfl⟩
    · exact ⟨rfl, rfl⟩
    · exact ⟨rfl, rfl⟩
  case ibans =>
    intro iban id hid
    have hid : (if iban = "RO10OBKR1" then some "a1" else if iban = "RO20OBKR2" then some "a2"
        else none) = some id := hid
    split_ifs at hid with h₁ h₂
    · exact ⟨demoSource, by rw [← Option.some.inj hid]; rfl, h₁.symm⟩
    · exact ⟨demoDest, by rw [← Option.some.inj hid]; rfl, h₂.symm⟩
  case transactions => exact fun _ _ h => by cases h
  case keys => exact fun _ _ h => by cases h
  case entries => exact fun _ _ h => by cases h
  case shaped => exact fun _ _ h => by cases h
  case solvent =>
    intro id a ha
    rcases demoRows_account ha with ⟨rfl, rfl⟩ | ⟨rfl, rfl⟩
    · simp [demoSource]
    · simp [demoDest]

def demoInputs (n : ℕ) : Inputs where
  hour := ⟨12, by decide⟩
  noise := ⟨0, by decide⟩
  newId := "t" ++ toString n
  referenceId := "r" ++ toString n
  debitId := ⟨⟨2 * n % 2 ^ 128, Nat.mod_lt _ (by decide)⟩⟩
  creditId := ⟨⟨(2 * n + 1) % 2 ^ 128, Nat.mod_lt _ (by decide)⟩⟩
  iban := ""

def demoTransfer (key : String) : Call :=
  .createTransfer ⟨"u1", false⟩
    { sourceAccountId := "a1", destinationIban := "RO20OBKR2", amount := 80, currency := "RON",
      idempotencyKey := key,
      positive := by norm_num }

def demoSchedule : List Action :=
  [.spawn 1 (demoTransfer "k1"), .spawn 2 (demoTransfer "k2")] ++
    List.replicate 4 (.act 1 (demoInputs 1)) ++ List.replicate 4 (.act 2 (demoInputs 2)) ++
      List.replicate 10 (.act 1 (demoInputs 1)) ++ List.replicate 2 (.act 2 (demoInputs 2))

def demoEnd : Option Server := (Server.start demoRows).run 5000 demoSchedule

def Server.balances (s : Server) : ℚ × ℚ := (balance s.store "a1", balance s.store "a2")

lemma demoEnd_balances : ∃ s, demoEnd = some s ∧ s.balances = (20, 80) := by
  have hrun : demoEnd.map Server.balances = some (20, 80) := by decide +kernel
  exact Option.map_eq_some_iff.mp hrun

theorem demo_legacy_books : ∃ s : Server, s.balances = (20, 80) ∧
    Books 5000 demoRows s.calls s.store := by
  obtain ⟨s, hs, hbalances⟩ := demoEnd_balances
  exact ⟨s, hbalances, legacy_books demoRows_sound hs⟩

def demoCopy : Call :=
  .createTransfer ⟨"u1", false⟩
    { sourceAccountId := "a1", destinationIban := "RO20OBKR2", amount := 30, currency := "RON",
      idempotencyKey := "k1",
      positive := by norm_num }

/-- The second finds the key taken, and the third is answered with the transaction of the first. -/
def demoCopies : List Action :=
  [.spawn 1 demoCopy, .spawn 2 demoCopy] ++ List.replicate 4 (.act 1 (demoInputs 1)) ++
    List.replicate 4 (.act 2 (demoInputs 2)) ++ List.replicate 10 (.act 1 (demoInputs 1)) ++
      List.replicate 5 (.act 2 (demoInputs 2)) ++ [.spawn 3 demoCopy, .act 3 (demoInputs 3)]

def Server.transactionFor (s : Server) (t : ℕ) : Option Transaction :=
  match s.tasks t with
  | some (_, .idle (.done (.ok (.processed _ row _ _)))) => some row
  | _ => none

def Server.isRefused (s : Server) (t : ℕ) : Bool :=
  match s.tasks t with
  | some (_, .idle (.done (.error (.prisma .uniqueViolation)))) => true
  | _ => false

lemma answered_of_transactionFor {s : Server} {t : ℕ} {row : Transaction}
    (h : s.transactionFor t = some row) :
    ∃ call message riskScore riskReasons, s.answered t call
      (.ok (.processed message row riskScore riskReasons)) := by
  unfold Server.transactionFor at h
  split at h
  · rename_i ht
    obtain rfl := Option.some.inj h
    exact ⟨_, _, _, _, ht⟩
  · cases h

def Server.copies (s : Server) : ((ℚ × ℚ) × Bool) × Option String × Option String :=
  ((s.balances, s.isRefused 2), (s.transactionFor 1).map Transaction.idempotencyKey,
    (s.transactionFor 3).map Transaction.idempotencyKey)

theorem demo_legacy_idempotent : ∃ (s : Server) (row : Transaction),
    (Server.start demoRows).run 5000 demoCopies = some s ∧ s.balances = (70, 30) ∧
    s.isRefused 2 = true ∧
    s.transactionFor 1 = some row ∧ s.transactionFor 3 = some row ∧
      transaction s.store row.id = some row := by
  have hrun : ((Server.start demoRows).run 5000 demoCopies).map Server.copies =
      some (((70, 30), true), some "k1", some "k1") := by decide +kernel
  obtain ⟨s, hs, hcopies⟩ := Option.map_eq_some_iff.mp hrun
  obtain ⟨hrefused, hkeys⟩ := Prod.mk.inj hcopies
  obtain ⟨hbalances, hrefused⟩ := Prod.mk.inj hrefused
  obtain ⟨hfirst, hthird⟩ := Prod.mk.inj hkeys
  obtain ⟨row, hrow, hkey⟩ := Option.map_eq_some_iff.mp hfirst
  obtain ⟨row', hrow', hkey'⟩ := Option.map_eq_some_iff.mp hthird
  obtain ⟨_, _, _, _, ht⟩ := answered_of_transactionFor hrow
  obtain ⟨_, _, _, _, ht'⟩ := answered_of_transactionFor hrow'
  have hmore : s.run 5000 [] = some s := rfl
  obtain ⟨_, hstands, honly, _⟩ := legacy_idempotent demoRows_sound hs ht hmore
  obtain ⟨_, hstands', _, _⟩ := legacy_idempotent demoRows_sound hs ht' hmore
  obtain rfl : row' = row := honly row'.id row' hstands' (hkey'.trans hkey.symm)
  exact ⟨s, row', hs, hbalances, hrefused, hrow, hrow', hstands⟩

end OnlineBanking.Legacy
