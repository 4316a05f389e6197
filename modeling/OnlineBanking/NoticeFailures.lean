import OnlineBanking.Library.TwoRuns
import OnlineBanking.PostingRecords
import OnlineBanking.SettlementFunds

set_option autoImplicit false

/-! Which inserts of notices fail makes no difference to money, except to the one that a payment to
a merchant makes inside its transaction. -/

namespace OnlineBanking

open Library

def Inputs.notified (i : Inputs) : Inputs :=
  { i with fault := fun l => if l = .notify ∨ l = .notifyRecipient then none else i.fault l }

def Db.SameBooks (db db' : Db) : Prop := ∃ t, db' = { db with notifications := t }

def World.SameBooks (w w' : World) : Prop :=
  w.db.SameBooks w'.db ∧ w'.redis = w.redis ∧ w'.now = w.now

/-- How far two runs may differ: the statements whose failures they share, their databases, and the
notices that a callback hands to the root client. -/
structure View where
  shared : Statement → Prop
  near : Db → Db → Prop
  outside : List Notification → List Notification → Prop
  books : ∀ db db', near db db' → db.SameBooks db'
  notices : ∀ db db' ns ns', near db db' → outside ns ns' →
    near (db.addNotifications ns) (db'.addNotifications ns')
  start : outside [] []

def View.unnoticed : View where
  shared l := l ≠ .notify ∧ l ≠ .notifyRecipient
  near := Db.SameBooks
  outside _ _ := True
  books _ _ h := h
  notices := by
    rintro db _ ns ns' ⟨t, rfl⟩ _
    obtain ⟨u, hu, _⟩ := db.addNotifications_eq ns
    obtain ⟨u', hu', _⟩ := Db.addNotifications_eq { db with notifications := t } ns'
    exact ⟨u', by rw [hu, hu']⟩
  start := trivial

def View.exact (shared : Statement → Prop) : View where
  shared := shared
  near db db' := db' = db
  outside ns ns' := ns' = ns
  books db _ h := ⟨db.notifications, h⟩
  notices := by
    rintro db _ ns _ rfl rfl
    rfl
  start := rfl

def View.noticed : View := .exact fun l => l ≠ .notifyRecipient

def View.untouched : View := .exact fun l => l ≠ .notify ∧ l ≠ .notifyRecipient

namespace View

instance (l : Statement) : Decidable (unnoticed.shared l) :=
  inferInstanceAs (Decidable (l ≠ .notify ∧ l ≠ .notifyRecipient))

instance (l : Statement) : Decidable (noticed.shared l) :=
  inferInstanceAs (Decidable (l ≠ .notifyRecipient))

instance (l : Statement) : Decidable (untouched.shared l) :=
  inferInstanceAs (Decidable (l ≠ .notify ∧ l ≠ .notifyRecipient))

variable (V : View)

def Agree (i i' : Inputs) : Prop :=
  ∃ f, i' = { i with fault := f } ∧ ∀ l, V.shared l → f l = i.fault l

def TxAgree (i i' : TxInputs) : Prop :=
  ∃ f, i' = { i with fault := f } ∧ ∀ l, V.shared l → f l = i.fault l

structure NearSession (s s' : Session Db Notification) : Prop where
  db : V.near s.db s'.db
  aborted : s'.aborted = s.aborted
  outside : V.outside s.outside s'.outside

structure NearWorld (w w' : World) : Prop where
  db : V.near w.db w'.db
  redis : w'.redis = w.redis
  now : w'.now = w.now

abbrev Steady {α : Type} (x : Tx α) : Prop := Callback.Alike V.TxAgree V.NearSession x

abbrev Constant {α : Type} (p : Service α) : Prop := p.Alike V.Agree V.NearWorld

variable {V} {α : Type}

lemma steady_statement {l : Statement} {body : TxInputs → Db → Except PrismaError (α × Db)}
    (hl : V.shared l) (hbody : ∀ i f db db', V.near db db' →
      (∃ e, body i db = .error e ∧ body { i with fault := f } db' = .error e) ∨
        ∃ a u u', body i db = .ok (a, u) ∧ body { i with fault := f } db' = .ok (a, u') ∧
            V.near u u') :
    V.Steady (Tx.statement l body) := by
  rintro i _ ⟨db, aborted, outside⟩ ⟨db', aborted', outside'⟩ ⟨f, rfl, hf⟩ ⟨hdb, haborted, houtside⟩
  obtain rfl : aborted' = aborted := haborted
  unfold Tx.statement Callback.statement
  cases aborted' with
  | true => exact ⟨rfl, hdb, rfl, houtside⟩
  | false =>
    dsimp only at hdb houtside ⊢
    rw [hf l hl]
    cases i.fault l with
    | some e => exact ⟨rfl, hdb, rfl, houtside⟩
    | none =>
      rcases hbody i f db db' hdb with ⟨e, he, he'⟩ | ⟨a, u, u', ha, ha', hu⟩
      · simp only [he, he', Option.map_none, Except.mapError]
        exact ⟨rfl, hdb, rfl, houtside⟩
      · simp only [ha, ha', Option.map_none, Except.mapError]
        exact ⟨rfl, hu, rfl, houtside⟩

lemma steady_read {l : Statement} {f : ℕ → Db → α} (hl : V.shared l)
    (hf : ∀ n db t, f n { db with notifications := t } = f n db) : V.Steady (Tx.read l f) := by
  apply steady_statement hl
  intro i g db db' hdb
  obtain ⟨t, rfl⟩ := V.books db db' hdb
  exact .inr ⟨_, _, _, rfl, by rw [hf (i.choice l) db t], hdb⟩

lemma steady_readWith {ρ τ : Type} {l : Statement} {f : ℕ → Db → Option ρ}
    {join : Db → ρ → Option τ} (hl : V.shared l)
    (hf : ∀ n db t, f n { db with notifications := t } = f n db)
    (hjoin : ∀ db t r, join { db with notifications := t } r = join db r) :
    V.Steady (Tx.readWith l f join) := by
  apply steady_statement hl
  intro i g db db' hdb
  obtain ⟨t, rfl⟩ := V.books db db' hdb
  dsimp only
  rw [hf (i.choice l) db t]
  cases f (i.choice l) db with
  | none => exact .inr ⟨_, _, _, rfl, rfl, hdb⟩
  | some row =>
    dsimp only
    rw [hjoin db t row]
    cases join db row with
    | none => exact .inl ⟨_, rfl, rfl⟩
    | some other => exact .inr ⟨_, _, _, rfl, rfl, hdb⟩

section Writes

variable {ρ κ ν : Type} [Record ρ κ ν] [DecidableEq κ] [DecidableEq ν] {m : Model ρ} {l : Statement}

variable (V m) in
structure Covers : Prop where
  get : ∀ db db', V.near db db' → m.get db' = m.get db
  set : ∀ db db' t, V.near db db' → V.near (m.set db t) (m.set db' t)

lemma steady_create {row : Uuid → Instant → ρ} (hl : V.shared l) (hm : V.Covers m) :
    V.Steady (Tx.create m l row) := by
  apply steady_statement hl
  intro i g db db' hdb
  unfold Db.create
  rw [hm.get db db' hdb]
  dsimp only
  cases (m.get db).insert (row (i.uuid l) i.now) with
  | none => exact .inl ⟨_, rfl, rfl⟩
  | some t => exact .inr ⟨_, _, _, rfl, rfl, hm.set db db' t hdb⟩

omit [DecidableEq ν] in
lemma steady_update {k : κ} {f : Patch ρ} (hl : V.shared l) (hm : V.Covers m) :
    V.Steady (Tx.update m l k f) := by
  apply steady_statement hl
  intro i g db db' hdb
  unfold Db.update
  rw [hm.get db db' hdb]
  cases (m.get db).find k with
  | none => exact .inl ⟨_, rfl, rfl⟩
  | some row => exact .inr ⟨_, _, _, rfl, rfl, hm.set db db' _ hdb⟩

omit [DecidableEq κ] [DecidableEq ν] in
lemma steady_updateMany {p : ρ → Bool} {f : Patch ρ} (hl : V.shared l) (hm : V.Covers m) :
    V.Steady (Tx.updateMany m l p f) := by
  apply steady_statement hl
  intro i g db db' hdb
  unfold Db.updateMany
  rw [hm.get db db' hdb]
  exact .inr ⟨_, _, _, rfl, rfl, hm.set db db' _ hdb⟩

end Writes

lemma steady_newDate : V.Steady Tx.newDate := by
  apply Callback.alike_input
  rintro i _ ⟨f, rfl, _⟩
  rfl

lemma steady_notificationsCreate {l : Statement} {userId : Uuid} {type title message : String} :
    View.unnoticed.Steady (Tx.notificationsCreate l userId type title message) :=
  fun _ _ _ _ _ hN => ⟨rfl, hN.db, hN.aborted, trivial⟩

lemma unnoticed_covers {ρ κ ν : Type} [Record ρ κ ν] {m : Model ρ}
    (hget : ∀ db t, m.get { db with notifications := t } = m.get db)
    (hset : ∀ db t u, m.set { db with notifications := t } u =
      { m.set db u with notifications := t }) :
    View.unnoticed.Covers m := by
  constructor
  · rintro db _ ⟨t, rfl⟩
    exact hget db t
  · rintro db _ u ⟨t, rfl⟩
    exact ⟨t, hset db t u⟩

lemma exact_covers {ρ κ ν : Type} [Record ρ κ ν] {m : Model ρ} {shared : Statement → Prop} :
    (View.exact shared).Covers m := by
  constructor
  · rintro db _ rfl
    rfl
  · rintro db _ u rfl
    rfl

lemma noticed_covers {ρ κ ν : Type} [Record ρ κ ν] {m : Model ρ} : View.noticed.Covers m :=
  exact_covers

lemma untouched_covers {ρ κ ν : Type} [Record ρ κ ν] {m : Model ρ} : View.untouched.Covers m :=
  exact_covers

lemma covers_account : View.unnoticed.Covers Db.account :=
  unnoticed_covers (fun _ _ => rfl) fun _ _ _ => rfl

lemma covers_transaction : View.unnoticed.Covers Db.transaction :=
  unnoticed_covers (fun _ _ => rfl) fun _ _ _ => rfl

lemma covers_ledgerEntry : View.unnoticed.Covers Db.ledgerEntry :=
  unnoticed_covers (fun _ _ => rfl) fun _ _ _ => rfl

lemma covers_idempotencyKey : View.unnoticed.Covers Db.idempotencyKey :=
  unnoticed_covers (fun _ _ => rfl) fun _ _ _ => rfl

lemma covers_auditEvent : View.unnoticed.Covers Db.auditEvent :=
  unnoticed_covers (fun _ _ => rfl) fun _ _ _ => rfl

end View

section Callbacks

open View Callback

variable {V : View} {α : Type}

lemma steady_replayKey {row : IdempotencyKey} {requestHash : String}
    {parse : Option Json → Option α} :
    V.Steady (replayKey row requestHash parse) := by
  unfold replayKey
  split
  · exact alike_throw
  · split
    · exact alike_pure
    · split
      · exact alike_throw
      · exact alike_throw

lemma steady_replayCompletedTransfer {row : IdempotencyKey} {requestHash : String} :
    V.Steady (replayCompletedTransfer row requestHash) := by
  unfold replayCompletedTransfer
  split
  · exact alike_throw
  · split
    · exact alike_throw
    · exact alike_pure

lemma steady_reserveTransferKey {userId : Uuid} {idempotencyKey requestHash : String} :
    View.unnoticed.Steady (reserveTransferKey userId idempotencyKey requestHash) := by
  have hagain : View.unnoticed.Steady (findKey userId idempotencyKey .keyFindAgain) :=
    steady_read (by decide) fun _ _ _ => rfl
  unfold reserveTransferKey
  apply alike_tryCatch
  · exact alike_bind (steady_create (by decide) covers_idempotencyKey) fun _ => alike_pure
  · intro err
    split
    · apply alike_bind hagain
      intro found
      split
      · exact alike_throw
      · split
        · exact alike_bind steady_replayCompletedTransfer fun _ => alike_pure
        · split
          · exact alike_throw
          · exact alike_throw
    · exact alike_throw

lemma steady_postTransfer {userId profileId : Uuid} {dto : CreateTransferDto}
    {idempotencyKey currency : String} {idemRow : IdempotencyKey} {source destination : Account} :
    View.unnoticed.Steady
      (postTransfer userId profileId dto idempotencyKey currency idemRow source destination) := by
  unfold postTransfer
  apply alike_bind (steady_updateMany (by decide) covers_account)
  intro count
  split
  · exact alike_throw
  · apply alike_bind (steady_update (by decide) covers_account)
    intro _
    apply alike_bind steady_newDate
    intro now
    apply alike_bind (steady_create (by decide) covers_transaction)
    intro txn
    apply alike_bind (steady_create (by decide) covers_ledgerEntry)
    intro _
    apply alike_bind (steady_create (by decide) covers_ledgerEntry)
    intro _
    apply alike_bind (steady_create (by decide) covers_auditEvent)
    intro _
    apply alike_bind steady_notificationsCreate
    intro _
    apply alike_bind (steady_update (by decide) covers_idempotencyKey)
    exact fun _ => alike_pure

theorem steady_executeTransferTx {userId : Uuid} {dto : CreateTransferDto}
    {idempotencyKey currency requestHash : String} :
    View.unnoticed.Steady (executeTransferTx userId dto idempotencyKey currency requestHash) := by
  have hkey : View.unnoticed.Steady (findKey userId idempotencyKey .keyFind) :=
    steady_read (by decide) fun _ _ _ => rfl
  have hown : ∀ l accountId customerId, View.unnoticed.shared l →
      View.unnoticed.Steady (findOwnAccount l accountId customerId) :=
    fun l _ _ hl => steady_read hl fun _ _ _ => rfl
  unfold executeTransferTx
  apply alike_bind hkey
  intro found
  split
  · split
    · exact steady_replayCompletedTransfer
    · exact alike_throw
  · apply alike_bind steady_reserveTransferKey
    intro reserved
    split
    · exact alike_pure
    · apply alike_bind (steady_read (by decide) fun _ _ _ => rfl)
      intro profile
      split
      · exact alike_throw
      · apply alike_bind (hown _ _ _ (by decide))
        intro source
        apply alike_bind (hown _ _ _ (by decide))
        intro destination
        split
        · exact alike_throw
        · exact alike_throw
        · split
          · exact alike_throw
          · exact steady_postTransfer

lemma steady_resolveDestination {beneficiary : Beneficiary} {currency : String} :
    View.unnoticed.Steady (resolveDestination beneficiary currency) := by
  unfold resolveDestination
  apply alike_bind (steady_readWith (by decide) (fun _ _ _ => rfl) fun _ _ _ => rfl)
  intro matched
  split
  · exact alike_pure
  · apply alike_bind (steady_read (by decide) fun _ _ _ => rfl)
    intro external
    split
    · exact alike_throw
    · exact alike_pure

lemma steady_notifyRecipient {userId : Uuid} {amount currency : String} {sender : CustomerProfile}
    {recipient : Option CustomerProfile} :
    View.unnoticed.Steady (notifyRecipient userId amount currency sender recipient) := by
  unfold notifyRecipient
  split
  · exact alike_pure
  · split
    · exact steady_notificationsCreate
    · exact alike_pure

lemma steady_failKey {V : View} {idemRow : IdempotencyKey} {failure : Failure}
    (hl : V.shared .keyFail) (hm : V.Covers Db.idempotencyKey) :
    V.Steady (failKey (α := α) idemRow failure) :=
  alike_bind (steady_update hl hm) fun _ => alike_throw

lemma steady_postBeneficiaryTransfer {userId profileId : Uuid} {dto : TransferToBeneficiaryDto}
    {currency : String} {idemRow : IdempotencyKey} {sourceAccount : Account}
    {sender : CustomerProfile} {beneficiary : Beneficiary} {destination : Account}
    {recipient : Option CustomerProfile} :
    View.unnoticed.Steady (postBeneficiaryTransfer userId profileId dto currency idemRow
      sourceAccount sender
      beneficiary destination recipient) := by
  unfold postBeneficiaryTransfer
  apply alike_bind (steady_updateMany (by decide) covers_account)
  intro count
  split
  · exact steady_failKey (by decide) covers_idempotencyKey
  · apply alike_bind (steady_update (by decide) covers_account)
    intro _
    apply alike_bind (steady_create (by decide) covers_transaction)
    intro transaction
    apply alike_bind (steady_create (by decide) covers_ledgerEntry)
    intro _
    apply alike_bind (steady_create (by decide) covers_ledgerEntry)
    intro _
    apply alike_bind steady_newDate
    intro completedAt
    apply alike_bind (steady_update (by decide) covers_idempotencyKey)
    intro _
    apply alike_bind (steady_create (by decide) covers_auditEvent)
    intro _
    apply alike_bind steady_notificationsCreate
    intro _
    apply alike_bind steady_notifyRecipient
    exact fun _ => alike_pure

theorem steady_executeBeneficiaryTransferTx {userId profileId : Uuid}
    {dto : TransferToBeneficiaryDto} {idempotencyKey currency requestHash : String} :
    View.unnoticed.Steady
      (executeBeneficiaryTransferTx userId profileId dto idempotencyKey currency requestHash) := by
  unfold executeBeneficiaryTransferTx findKey createKey
  apply alike_bind (steady_read (by decide) fun _ _ _ => rfl)
  intro found
  split
  · exact steady_replayKey
  · apply alike_bind (steady_create (by decide) covers_idempotencyKey)
    intro idemRow
    apply alike_bind (steady_readWith (by decide) (fun _ _ _ => rfl) fun _ _ _ => rfl)
    intro source
    split
    · exact alike_throw
    · split
      · exact steady_failKey (by decide) covers_idempotencyKey
      · apply alike_bind (steady_read (by decide) fun _ _ _ => rfl)
        intro beneficiary
        split
        · exact alike_throw
        · apply alike_bind steady_resolveDestination
          intro destination
          split
          split
          · exact alike_throw
          · exact steady_postBeneficiaryTransfer

theorem steady_creditAccountTx {adminUserId accountId : Uuid} {dto : AdminCreditDto} :
    View.unnoticed.Steady (creditAccountTx adminUserId accountId dto) := by
  unfold creditAccountTx
  apply alike_bind (steady_readWith (by decide) (fun _ _ _ => rfl) fun _ _ _ => rfl)
  intro target
  split
  · exact alike_throw
  · split
    · exact alike_throw
    · split
      · exact alike_throw
      · apply alike_bind (steady_read (by decide) fun _ _ _ => rfl)
        intro system
        split
        · exact alike_throw
        · apply alike_bind (steady_update (by decide) covers_account)
          intro _
          apply alike_bind (steady_update (by decide) covers_account)
          intro _
          apply alike_bind (steady_create (by decide) covers_transaction)
          intro transaction
          apply alike_bind (steady_create (by decide) covers_ledgerEntry)
          intro _
          apply alike_bind (steady_create (by decide) covers_ledgerEntry)
          intro _
          apply alike_bind (steady_create (by decide) covers_auditEvent)
          intro _
          apply alike_bind steady_notificationsCreate
          exact fun _ => alike_pure

lemma steady_postMerchantPayment {userId profileId : Uuid} {dto : PayMerchantDto}
    {currency : String} {idemRow : IdempotencyKey} {sourceAccount : Account} {merchant : Merchant} :
    View.noticed.Steady (postMerchantPayment userId profileId dto currency idemRow sourceAccount
      merchant) := by
  unfold postMerchantPayment
  apply alike_bind (steady_updateMany (by decide) noticed_covers)
  intro count
  split
  · exact steady_failKey (by decide) noticed_covers
  · apply alike_bind (steady_update (by decide) noticed_covers)
    intro _
    apply alike_bind steady_newDate
    intro now
    apply alike_bind (steady_create (by decide) noticed_covers)
    intro transaction
    apply alike_bind (steady_create (by decide) noticed_covers)
    intro _
    apply alike_bind (steady_create (by decide) noticed_covers)
    intro _
    apply alike_bind (steady_update (by decide) noticed_covers)
    intro _
    apply alike_bind (steady_create (by decide) noticed_covers)
    intro _
    apply alike_bind (steady_create (by decide) noticed_covers)
    exact fun _ => alike_pure

theorem steady_executeMerchantPaymentTx {userId profileId : Uuid} {dto : PayMerchantDto}
    {idempotencyKey currency requestHash : String} :
    View.noticed.Steady (executeMerchantPaymentTx userId profileId dto idempotencyKey currency
      requestHash) := by
  unfold executeMerchantPaymentTx findKey createKey
  apply alike_bind (steady_read (by decide) fun _ _ _ => rfl)
  intro found
  split
  · exact steady_replayKey
  · apply alike_bind (steady_create (by decide) noticed_covers)
    intro idemRow
    apply alike_bind (steady_read (by decide) fun _ _ _ => rfl)
    intro source
    split
    · exact alike_throw
    · apply alike_bind (steady_readWith (by decide) (fun _ _ _ => rfl) fun _ _ _ => rfl)
      intro found
      split
      · exact alike_throw
      · split
        · exact alike_throw
        · split
          · exact alike_throw
          · exact steady_postMerchantPayment

end Callbacks

section Calls

open View

variable {V : View} {α : Type}

lemma constant_read {l : Statement} {f : ℕ → Db → α} (hl : V.shared l)
    (hf : ∀ n db t, f n { db with notifications := t } = f n db) :
    V.Constant (Service.read l f) := by
  apply Prog.alike_atomic
  rintro i _ w w' ⟨g, rfl, hg⟩ hw
  dsimp only
  rw [hg l hl]
  obtain ⟨t, ht⟩ := V.books _ _ hw.db
  cases i.fault l with
  | some e => exact ⟨rfl, hw, rfl⟩
  | none => exact ⟨by rw [ht, hf (i.choice l) w.db t], hw, rfl⟩

lemma constant_transaction {callback : Tx α} {log : α → List Transaction → List Event}
    (h : V.Steady callback) :
    V.Constant (Service.transaction callback log) := by
  apply Prog.alike_atomic
  rintro i _ w w' ⟨f, rfl, hf⟩ hw
  obtain ⟨hr, hs⟩ := h { i with now := w.now } { i with fault := f, now := w'.now } { db := w.db }
    { db := w'.db }
    ⟨f, by rw [hw.now], hf⟩ ⟨hw.db, rfl, V.start⟩
  have htransactions : ∀ db db', V.near db db' → db'.transactions = db.transactions := by
    intro db db' hdb
    obtain ⟨t, rfl⟩ := V.books db db' hdb
    rfl
  unfold Callback.transact
  rcases hx : callback { i with now := w.now } { db := w.db } with ⟨r, s⟩
  rcases hx' : callback { i with fault := f, now := w'.now } { db := w'.db } with ⟨r', s'⟩
  rw [hx, hx'] at hr hs
  obtain rfl : r' = r := hr
  have hfailed : V.NearWorld { w with db := w.db.addNotifications s.outside }
      { w' with db := w'.db.addNotifications s'.outside } :=
    ⟨V.notices _ _ _ _ hw.db hs.outside, hw.redis, hw.now⟩
  dsimp only
  cases r' with
  | error e => exact ⟨rfl, hfailed, rfl⟩
  | ok a =>
    dsimp only
    rw [hs.aborted]
    split
    · exact ⟨rfl, hfailed, rfl⟩
    · cases i.commitFault with
      | some e => exact ⟨rfl, hfailed, rfl⟩
      | none =>
        have hafter : s'.db.transactions = s.db.transactions := htransactions _ _ hs.db
        refine ⟨rfl, ⟨V.notices _ _ _ _ hs.db hs.outside, hw.redis, hw.now⟩, ?_⟩
        simp only [Option.map_none, hafter, htransactions _ _ hw.db]

lemma constant_requireVerified {userId : Uuid} {message : String} (hl : V.shared .profileRead) :
    V.Constant (requireVerified userId message) := by
  apply Prog.alike_bind (constant_read hl fun _ _ _ => rfl)
  intro found
  cases found with
  | none => exact Prog.alike_throw
  | some profile =>
    dsimp only
    split
    · exact Prog.alike_throw
    · exact Prog.alike_pure

lemma constant_redisSet {userId : Uuid} {request : PaymentRequest} {idempotencyKey : String}
    (hl : V.shared .redisSet) : V.Constant (redisSet userId request idempotencyKey) := by
  apply Prog.alike_atomic
  rintro i _ w w' ⟨g, rfl, hg⟩ hw
  dsimp only
  rw [hg _ hl]
  cases i.fault .redisSet with
  | some e => exact ⟨rfl, hw, rfl⟩
  | none => exact ⟨rfl, ⟨hw.db, by simp only [hw.redis, hw.now], hw.now⟩, by simp only [hw.now]⟩

lemma constant_mockFraudCheck {userId : Uuid} {idempotencyKey : String} {amount : ℚ}
    {request : PaymentRequest} (hread : V.shared .fraudKeyRead) (hset : V.shared .redisSet) :
    V.Constant (runMockFraudCheck userId idempotencyKey amount request) := by
  unfold runMockFraudCheck
  split
  · apply Prog.alike_bind (constant_read hread fun _ _ _ => rfl)
    intro existing
    split
    · exact Prog.alike_pure
    · exact Prog.alike_bind (constant_redisSet hset) fun _ => Prog.alike_throw
  · exact Prog.alike_pure

lemma constant_pay {userId : Uuid} {request : PaymentRequest} {idempotencyKey : String}
    {skipFraudCheck : Bool} {endpoint : Endpoint α} (hprofile : V.shared .profileRead)
    (hread : V.shared .fraudKeyRead) (hset : V.shared .redisSet)
    (hexecute : ∀ profileId, V.Steady (endpoint.execute profileId)) :
    V.Constant (pay userId request idempotencyKey skipFraudCheck endpoint) := by
  apply Prog.alike_bind alike_rejectIf
  intro _
  apply Prog.alike_bind (constant_requireVerified hprofile)
  intro profile
  apply Prog.alike_bind alike_rejectIf
  intro _
  apply Prog.alike_bind alike_rejectIf
  intro _
  apply Prog.alike_bind alike_rejectIf
  intro _
  cases skipFraudCheck with
  | true => exact alike_retrying (constant_transaction (hexecute profile.id)) _
  | false =>
    apply Prog.alike_bind (constant_mockFraudCheck hread hset)
    exact fun _ => alike_retrying (constant_transaction (hexecute profile.id)) _

end Calls

inductive Call.MovesMoney : Call → Prop
  | payment (userId : Uuid) (request : PaymentRequest) (idempotencyKey : String) :
      MovesMoney (.payment userId request idempotencyKey)
  | credit (adminUserId accountId : Uuid) (dto : AdminCreditDto) :
      MovesMoney (.creditAccount adminUserId accountId dto)

def Call.PaysMerchant (c : Call) : Prop :=
  ∃ userId dto idempotencyKey, c = .payment userId (.merchantPayment dto) idempotencyKey

section Endpoints

open View

variable {sha256 : String → String} {c : Call}

attribute [local irreducible] Prog.Alike in
theorem constant_unnoticed (hc : c.MovesMoney) (hmerchant : ¬ c.PaysMerchant) :
    View.unnoticed.Constant (handle sha256 c) := by
  cases hc with
  | credit adminUserId accountId dto =>
    have h : View.unnoticed.Constant (creditAccount adminUserId accountId dto) := by
      unfold creditAccount
      split
      · exact Prog.alike_throw
      · exact constant_transaction steady_creditAccountTx
    exact Prog.alike_bind h fun _ => Prog.alike_pure
  | payment userId request idempotencyKey =>
    have h : View.unnoticed.Constant (runRequest sha256 userId request idempotencyKey false) := by
      cases request with
      | internalTransfer dto =>
        have hpay : View.unnoticed.Constant (transfer sha256 userId dto idempotencyKey false) :=
          constant_pay (by decide) (by decide) (by decide) fun _ => steady_executeTransferTx
        exact Prog.alike_bind hpay fun _ => Prog.alike_pure
      | beneficiaryTransfer dto =>
        have hpay : View.unnoticed.Constant
            (transferToBeneficiary sha256 userId dto idempotencyKey false) :=
          constant_pay (by decide) (by decide) (by decide) fun _ =>
            steady_executeBeneficiaryTransferTx
        exact Prog.alike_bind hpay fun _ => Prog.alike_pure
      | merchantPayment dto => exact absurd ⟨userId, dto, idempotencyKey, rfl⟩ hmerchant
    exact Prog.alike_bind h fun _ => Prog.alike_pure

attribute [local irreducible] Prog.Alike in
theorem constant_noticed (hmerchant : c.PaysMerchant) :
    View.noticed.Constant (handle sha256 c) := by
  obtain ⟨userId, dto, idempotencyKey, rfl⟩ := hmerchant
  have hpay : View.noticed.Constant (payMerchant sha256 userId dto idempotencyKey false) :=
    constant_pay (by decide) (by decide) (by decide) fun _ => steady_executeMerchantPaymentTx
  have h : View.noticed.Constant
      (runRequest sha256 userId (.merchantPayment dto) idempotencyKey false) :=
    Prog.alike_bind hpay fun _ => Prog.alike_pure
  exact Prog.alike_bind h fun _ => Prog.alike_pure

end Endpoints

section Merchant

open View Callback

variable {α : Type} {i : TxInputs} {e : PrismaError}

def TxInputs.notified (i : TxInputs) : TxInputs :=
  { i with fault := fun l => if l = .notify ∨ l = .notifyRecipient then none else i.fault l }

/-- Under `i` the callback fails with `e`, unless it posts nothing with its notice inserted
either. -/
def Spoiled (e : PrismaError) (i : TxInputs) (x : Tx (ServiceResult α)) : Prop :=
  ∀ s, (x i s).1 = .error (.prisma e) ∨ x i.notified s = x i s ∧ ∀ r, (x i s).1 = .ok r →
    r.httpStatus ≠ 201

lemma spoiled_throw {failure : Failure} : Spoiled e i (throw failure : Tx (ServiceResult α)) := by
  intro s
  right
  refine ⟨rfl, fun r hr => ?_⟩
  cases hr

lemma spoiled_bind {β : Type} {x : Tx β} {f : β → Tx (ServiceResult α)}
    (hx : View.untouched.Steady x) (hf : ∀ b, Spoiled e i (f b)) : Spoiled e i (x >>= f) := by
  intro s
  have hagree : View.untouched.TxAgree i i.notified := by
    refine ⟨_, rfl, fun l hl => ?_⟩
    rw [if_neg (not_or.mpr hl)]
  obtain ⟨hr, ⟨hdb, haborted, houtside⟩⟩ := hx i i.notified s s hagree ⟨rfl, rfl, rfl⟩
  rcases hxs : x i s with ⟨r, u⟩
  rcases hxs' : x i.notified s with ⟨r', u'⟩
  rw [hxs, hxs'] at hr hdb haborted houtside
  obtain rfl : r' = r := hr
  obtain rfl : u' = u := by
    cases u
    cases u'
    cases hdb
    cases haborted
    cases houtside
    rfl
  cases r' with
  | ok b =>
    rw [bind_of_ok hxs, bind_of_ok hxs']
    exact hf b u'
  | error f =>
    rw [bind_of_error hxs, bind_of_error hxs']
    right
    refine ⟨rfl, fun r hr => ?_⟩
    cases hr

lemma spoiled_notice {row : Uuid → Instant → Notification} {result : ServiceResult α}
    (hfault : i.fault .notify = some e) :
    Spoiled e i (do
      let _ ← Tx.create Db.notification .notify row
      return result) := by
  rintro ⟨db, aborted, outside⟩
  cases aborted with
  | true =>
    right
    refine ⟨rfl, fun r hr => ?_⟩
    cases hr
  | false =>
    left
    have hcreate : Tx.create Db.notification .notify row i { db, outside } =
        (.error (.prisma e), { db, aborted := true, outside }) := by
      simp [Tx.create, Tx.statement, Callback.statement, hfault]
    rw [bind_of_error hcreate]

lemma spoiled_replayKey {row : IdempotencyKey} {requestHash : String}
    {parse : Option Json → Option α} :
    Spoiled e i (replayKey row requestHash parse) := by
  unfold replayKey
  split
  · exact spoiled_throw
  · split
    · intro s
      right
      refine ⟨rfl, fun r hr => ?_⟩
      obtain rfl := Except.ok.inj hr
      show (200 : ℕ) ≠ 201
      decide
    · split
      · exact spoiled_throw
      · exact spoiled_throw

lemma spoiled_failKey {idemRow : IdempotencyKey} {failure : Failure} :
    Spoiled e i (failKey (α := ServiceResult α) idemRow failure) :=
  spoiled_bind (steady_update (by decide) untouched_covers) fun _ => spoiled_throw

lemma spoiled_postMerchantPayment {userId profileId : Uuid} {dto : PayMerchantDto}
    {currency : String} {idemRow : IdempotencyKey} {sourceAccount : Account} {merchant : Merchant}
    (hfault : i.fault .notify = some e) :
    Spoiled e i (postMerchantPayment userId profileId dto currency idemRow sourceAccount
      merchant) := by
  unfold postMerchantPayment
  apply spoiled_bind (steady_updateMany (by decide) untouched_covers)
  intro count
  split
  · exact spoiled_failKey
  · apply spoiled_bind (steady_update (by decide) untouched_covers)
    intro _
    apply spoiled_bind steady_newDate
    intro now
    apply spoiled_bind (steady_create (by decide) untouched_covers)
    intro transaction
    apply spoiled_bind (steady_create (by decide) untouched_covers)
    intro _
    apply spoiled_bind (steady_create (by decide) untouched_covers)
    intro _
    apply spoiled_bind (steady_update (by decide) untouched_covers)
    intro _
    apply spoiled_bind (steady_create (by decide) untouched_covers)
    intro _
    exact spoiled_notice hfault

theorem spoiled_executeMerchantPaymentTx {userId profileId : Uuid} {dto : PayMerchantDto}
    {idempotencyKey currency requestHash : String} (hfault : i.fault .notify = some e) :
    Spoiled e i (executeMerchantPaymentTx userId profileId dto idempotencyKey currency
      requestHash) := by
  unfold executeMerchantPaymentTx findKey createKey
  apply spoiled_bind (steady_read (by decide) fun _ _ _ => rfl)
  intro found
  split
  · exact spoiled_replayKey
  · apply spoiled_bind (steady_create (by decide) untouched_covers)
    intro idemRow
    apply spoiled_bind (steady_read (by decide) fun _ _ _ => rfl)
    intro source
    split
    · exact spoiled_throw
    · apply spoiled_bind (steady_readWith (by decide) (fun _ _ _ => rfl) fun _ _ _ => rfl)
      intro found
      split
      · exact spoiled_throw
      · split
        · exact spoiled_throw
        · split
          · exact spoiled_throw
          · exact spoiled_postMerchantPayment hfault

abbrev attempt (x : Tx α) (i : TxInputs) (db : Db) : Outcome Db Notification Failure α :=
  x.transact (.prisma .transactionAborted) (fun i => i.commitFault.map .prisma) i db

lemma refused_without_notice {x : Tx (ServiceResult α)} (hx : Spoiled e i x) {db : Db}
    {r : ServiceResult α} (hposts : (attempt x i.notified db).result = .ok r)
    (hcreated : r.httpStatus = 201) :
    (attempt x i db).result = .error (.prisma e) ∧ (attempt x i db).db = db := by
  unfold attempt transact at hposts ⊢
  rcases hx { db } with hfails | ⟨hsame, hother⟩
  · rcases hxs : x i { db } with ⟨r', u⟩
    rw [hxs] at hfails
    obtain rfl : r' = .error (.prisma e) := hfails
    exact ⟨rfl, rfl⟩
  · rw [hsame] at hposts
    rcases hxs : x i { db } with ⟨r', u⟩
    rw [hxs] at hposts hother
    cases r' with
    | error f => cases hposts
    | ok b =>
      have hr : b = r := by
        dsimp only at hposts
        split at hposts
        · cases hposts
        · cases hcommit : i.notified.commitFault with
          | some f => simp [hcommit] at hposts
          | none => simpa [hcommit] using hposts
      exact absurd (hr ▸ hcreated) (hother b rfl)

end Merchant

section TwoRuns

variable {sha256 : String → String} {c : Call} {moves : List (Inputs × (World → World))} {w : World}

def notifiedMoves (moves : List (Inputs × (World → World))) : List (Inputs × (World → World)) :=
  moves.map fun m => (m.1.notified, m.2)

lemma World.SameBooks.refl (w : World) : w.SameBooks w := ⟨⟨w.db.notifications, rfl⟩, rfl, rfl⟩

lemma play_unnoticed (hc : c.MovesMoney) (hmerchant : ¬ c.PaysMerchant)
    (hothers : ∀ m ∈ moves, ∀ w w', World.SameBooks w w' → (m.2 w).SameBooks (m.2 w')) :
    (Prog.play (notifiedMoves moves) (handle sha256 c) w).1 =
    (Prog.play moves (handle sha256 c) w).1 ∧
      (Prog.play moves (handle sha256 c) w).2.SameBooks
        (Prog.play (notifiedMoves moves) (handle sha256 c) w).2 := by
  have hS : ∀ m ∈ moves, View.unnoticed.Agree m.1 m.1.notified := by
    intro m _
    refine ⟨_, rfl, fun l hl => ?_⟩
    rw [if_neg (not_or.mpr hl)]
  have hnear : ∀ m ∈ moves, ∀ w w', View.unnoticed.NearWorld w w' →
      View.unnoticed.NearWorld (m.2 w) (m.2 w') := by
    intro m hm w w' hN
    obtain ⟨hdb, hredis, hnow⟩ := hothers m hm w w' ⟨hN.db, hN.redis, hN.now⟩
    exact ⟨hdb, hredis, hnow⟩
  have hcall : View.unnoticed.Constant (handle sha256 c) := constant_unnoticed hc hmerchant
  have hstart : View.unnoticed.NearWorld w w := ⟨(World.SameBooks.refl w).1, rfl, rfl⟩
  obtain ⟨hp, hw⟩ := hcall.play hS hnear hstart
  exact ⟨hp, hw.db, hw.redis, hw.now⟩

lemma play_noticed (hmerchant : c.PaysMerchant) (hnotice : ∀ m ∈ moves, m.1.fault .notify = none) :
    (Prog.play (notifiedMoves moves) (handle sha256 c) w).1 =
    (Prog.play moves (handle sha256 c) w).1 ∧
      (Prog.play moves (handle sha256 c) w).2.SameBooks
        (Prog.play (notifiedMoves moves) (handle sha256 c) w).2 := by
  have hS : ∀ m ∈ moves, View.noticed.Agree m.1 m.1.notified := by
    intro m hm
    refine ⟨_, rfl, fun l (hl : l ≠ .notifyRecipient) => ?_⟩
    split
    · rename_i hnotify
      obtain rfl := hnotify.resolve_right hl
      exact (hnotice m hm).symm
    · rfl
  have hnear : ∀ m ∈ moves, ∀ w w', View.noticed.NearWorld w w' →
      View.noticed.NearWorld (m.2 w) (m.2 w') := by
    intro m _ w w' hN
    obtain rfl : w' = w := by
      cases w
      cases w'
      cases hN.db
      cases hN.redis
      cases hN.now
      rfl
    exact ⟨rfl, rfl, rfl⟩
  have hcall : View.noticed.Constant (handle sha256 c) := constant_noticed hmerchant
  have hstart : View.noticed.NearWorld w w := ⟨rfl, rfl, rfl⟩
  obtain ⟨hp, hw⟩ := hcall.play hS hnear hstart
  exact ⟨hp, View.noticed.books _ _ hw.db, hw.redis, hw.now⟩

/-- Which notices cannot be inserted makes no difference to a payment or a credit, to its result or
to any other table, as long as it is not the notice of a payment to a merchant; and that one is
refused without it. -/
theorem notices_make_no_difference (hc : c.MovesMoney)
    (hothers : ∀ m ∈ moves, ∀ w w', World.SameBooks w w' → (m.2 w).SameBooks (m.2 w')) :
    ((c.PaysMerchant → ∀ m ∈ moves, m.1.fault .notify = none) →
      (Prog.play (notifiedMoves moves) (handle sha256 c) w).1 =
        (Prog.play moves (handle sha256 c) w).1 ∧
      (Prog.play moves (handle sha256 c) w).2.SameBooks
        (Prog.play (notifiedMoves moves) (handle sha256 c) w).2) ∧
    ∀ userId dto idempotencyKey, c = .payment userId (.merchantPayment dto) idempotencyKey →
      ∀ profileId currency requestHash i e db r,
        let pays := executeMerchantPaymentTx userId profileId dto
          (trim idempotencyKey) currency requestHash
        i.fault .notify = some e → (attempt pays i.notified db).result = .ok r →
          r.httpStatus = 201 →
          (attempt pays i db).result = .error (.prisma e) ∧ (attempt pays i db).db = db := by
  constructor
  · intro hcond
    by_cases hmerchant : c.PaysMerchant
    · exact play_noticed hmerchant (hcond hmerchant)
    · exact play_unnoticed hc hmerchant hothers
  · intro userId dto idempotencyKey _ profileId currency requestHash i e db r pays hfault
      hposts hcreated
    exact refused_without_notice (spoiled_executeMerchantPaymentTx hfault) hposts hcreated

end TwoRuns

def demoMerchantCall : Call := .payment (demoIds .user) (.merchantPayment demoMerchantDto) "k1"

def lostNotice (i : Inputs) : Inputs :=
  { i with fault := fun l => if l = .notify then some (.other "08006") else none }

def demoMoves : List (Inputs × (World → World)) := [(demoInputs 0, id), (demoInputs 1, id)]

def lostNoticeMoves : List (Inputs × (World → World)) :=
  [(demoInputs 0, id), (lostNotice (demoInputs 1), id)]

theorem merchant_payment_without_notice :
    (match (Prog.play lostNoticeMoves (handle demoSha256 demoMerchantCall) demoWorld).1 with
      | .done (.error e) => some e
      | _ => none) = some (.prisma (.other "08006")) ∧
    (Prog.play lostNoticeMoves (handle demoSha256 demoMerchantCall)
      demoWorld).2.db.transactions.rows.length = 0 ∧
    (match (Prog.play (notifiedMoves lostNoticeMoves) (handle demoSha256 demoMerchantCall)
      demoWorld).1 with
      | .done (.ok (.payment result)) => some result.httpStatus
      | _ => none) = some 201 ∧
    (Prog.play (notifiedMoves lostNoticeMoves) (handle demoSha256 demoMerchantCall)
      demoWorld).2.db.transactions.rows.length = 1 := by
  decide +kernel

theorem demo_notices_make_no_difference :
    (Prog.play (notifiedMoves demoMoves) (handle demoSha256 demoMerchantCall) demoWorld).1 =
      (Prog.play demoMoves (handle demoSha256 demoMerchantCall) demoWorld).1 ∧
    ∃ profileId r, ∃ i : TxInputs,
      let pays := executeMerchantPaymentTx (demoIds .user) profileId demoMerchantDto
        (trim "k1") "RON" "hash"
      (attempt pays i.notified demoDb).result = .ok r ∧
        (attempt pays i demoDb).result = .error (.prisma (.other "08006")) ∧
          (attempt pays i demoDb).db = demoDb := by
  have hothers : ∀ m ∈ demoMoves, ∀ w w', World.SameBooks w w' → (m.2 w).SameBooks (m.2 w') := by
    intro m hm w w' h
    simp only [demoMoves, List.mem_cons, List.not_mem_nil, or_false] at hm
    rcases hm with rfl | rfl
    · exact h
    · exact h
  have hquiet : ∀ m ∈ demoMoves, m.1.fault .notify = none := by
    intro m hm
    simp only [demoMoves, List.mem_cons, List.not_mem_nil, or_false] at hm
    rcases hm with rfl | rfl
    · rfl
    · rfl
  have hmoves : demoMerchantCall.MovesMoney :=
    .payment (demoIds .user) (.merchantPayment demoMerchantDto) "k1"
  obtain ⟨hsame, hspoiled⟩ := @notices_make_no_difference demoSha256 _ _ demoWorld hmoves hothers
  refine ⟨(hsame fun _ => hquiet).1, demoIds .profile, ?_⟩
  have hposts : (match (attempt
      (executeMerchantPaymentTx (demoIds .user) (demoIds .profile) demoMerchantDto
      (trim "k1") "RON" "hash") (TxInputs.notified { lostNotice (demoInputs 1) with now := 0 })
        demoDb).result with
        | .ok r => some r.httpStatus
        | .error _ => none) = some 201 := by decide +kernel
  split at hposts
  · rename_i r hr
    exact ⟨r, _, hr, hspoiled _ _ _ rfl _ _ _ _ _ _ _ rfl hr (Option.some.inj hposts)⟩
  · cases hposts

end OnlineBanking
