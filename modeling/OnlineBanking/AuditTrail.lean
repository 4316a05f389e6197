import OnlineBanking.AppEffects
import OnlineBanking.CardLifecycle
import OnlineBanking.Library.Recording
import OnlineBanking.NoticeFailures
import OnlineBanking.PostingRecords

set_option autoImplicit false

/-! The audit events against the changes they tell of. Payments and credits write theirs in the
transaction that posts, all other calls in a statement of its own after the change. -/

namespace OnlineBanking

open Library

def auditedActions : List String :=
  ["PAYMENT_TRANSFER_POSTED", "BENEFICIARY_TRANSFER_POSTED", "MERCHANT_PAYMENT_POSTED",
    "ACCOUNT_CREDITED_BY_ADMIN",
    "CUSTOMER_VERIFIED", "CUSTOMER_REJECTED", "CARD_ISSUED", "CARD_BLOCKED", "CARD_UNBLOCKED",
    "CARD_CLOSED",
    "BENEFICIARY_CREATED", "BENEFICIARY_REACTIVATED", "BENEFICIARY_DELETED", "SESSION_REVOKED"]

def Db.audits (db : Db) : List AuditEvent :=
  db.auditEvents.rows.filter fun e => e.action ∈ auditedActions

structure Deed where
  action : String
  resourceId : String

structure Deed.Names (d : Deed) (e : AuditEvent) : Prop where
  action : e.action = d.action
  resourceId : e.resourceId = some d.resourceId

namespace Call

def Audited : Call → Prop
  | .payment _ _ _ => True
  | .confirmStepUp _ _ _ => True
  | .creditAccount _ _ _ => True
  | .updateKycStatus _ _ _ => True
  | .createBeneficiary _ _ => True
  | .removeBeneficiary _ _ => True
  | _ => False

def AuditsApart : Call → Prop
  | .updateKycStatus _ _ _ => True
  | .createBeneficiary _ _ => True
  | .removeBeneficiary _ _ => True
  | _ => False

inductive Changes : Call → Deed → Db → Db → Prop
  | kyc (adminUserId customerId : Uuid) (status : KycStatus)
    (verifiedAt : Option Instant) (db : Db) :
    Changes (.updateKycStatus adminUserId customerId status)
      ⟨if status = .verified then "CUSTOMER_VERIFIED" else "CUSTOMER_REJECTED", customerId.text⟩ db
      { db with
        customerProfiles := db.customerProfiles.modify customerId
          (CustomerProfile.setKyc status verifiedAt) }
  | created (userId : Uuid) (dto : CreateBeneficiaryDto) (b : Beneficiary)
      (t : Table Beneficiary) (db : Db)
      (inserted : db.beneficiaries.insert b = some t) :
    Changes (.createBeneficiary userId dto) ⟨"BENEFICIARY_CREATED", b.id.text⟩ db
      { db with beneficiaries := t }
  | reactivated (userId : Uuid) (dto : CreateBeneficiaryDto) (id : Uuid) (db : Db) :
    Changes (.createBeneficiary userId dto) ⟨"BENEFICIARY_REACTIVATED", id.text⟩ db
      { db with
        beneficiaries := db.beneficiaries.modify id
          (Beneficiary.reactivate dto.name dto.alias.orNull) }
  | removed (userId id : Uuid) (archivedAt : Instant) (db : Db) :
    Changes (.removeBeneficiary userId id) ⟨"BENEFICIARY_DELETED", id.text⟩ db
      { db with beneficiaries := db.beneficiaries.modify id (Beneficiary.archive archivedAt) }

inductive Posts : Call → Deed → Db → Db → Prop
  | paid (c : Call) (payment : Payment) (body : PaymentBody) (x : Transaction)
      (debit credit : LedgerEntry)
      (row : IdempotencyKey) (audit : AuditEvent) (db posted : Db) (ns : List Notification)
      (payer : c.payer = some payment.userId) (asked : ∀ q, c.asked = some q → payment = q)
      (entered : Entered db posted payment body x debit credit row audit) :
    Posts c ⟨payment.request.auditAction, x.id.text⟩ db (posted.addNotifications ns)
  | credited (adminUserId accountId : Uuid) (dto : AdminCreditDto) (x : Transaction)
      (debit credit : LedgerEntry)
      (audit : AuditEvent) (db posted : Db) (ns : List Notification)
      (entered : CreditEntered db posted x debit credit audit) :
    Posts (.creditAccount adminUserId accountId dto) ⟨"ACCOUNT_CREDITED_BY_ADMIN", x.id.text⟩ db
      (posted.addNotifications ns)

end Call

def Deed.Noted (d : Deed) (db db' : Db) : Prop :=
  ∃ e t, d.Names e ∧ e.action ∈ auditedActions ∧ db.auditEvents.insert e = some t ∧
    db' = { db with auditEvents := t }

def Inputs.AuditLost (i : Inputs) (db : Db) : Prop :=
  i.fault .auditCreate ≠ none ∨ ∃ e ∈ db.auditEvents.rows, e.id = i.uuid .auditCreate

/-- The database is as it was, notices apart; of a call that is not audited only that it adds no
audit event of these actions. -/
def Call.Spares (c : Call) (db db' : Db) : Prop :=
  (c.Audited → db.SameBooks db') ∧ db'.audits = db.audits

lemma Db.audits_eq {db db' : Db} (h : db'.auditEvents.rows = db.auditEvents.rows) :
    db'.audits = db.audits := by
  rw [Db.audits, h]
  rfl

lemma Db.audits_append {db db' : Db} {e : AuditEvent}
    (h : db'.auditEvents.rows = db.auditEvents.rows ++ [e]) (hlisted : e.action ∈ auditedActions) :
    db'.audits = db.audits ++ [e] := by
  simp [Db.audits, h, hlisted]

lemma PaymentRequest.auditAction_listed (request : PaymentRequest) :
    request.auditAction ∈ auditedActions := by
  cases request with
  | internalTransfer dto => simp [auditAction, auditedActions]
  | beneficiaryTransfer dto => simp [auditAction, auditedActions]
  | merchantPayment dto => simp [auditAction, auditedActions]

lemma Call.Changes.apart {c : Call} {d : Deed} {db db' : Db} (h : c.Changes d db db') :
    c.AuditsApart ∧ db'.auditEvents = db.auditEvents := by
  cases h with
  | kyc adminUserId customerId status verifiedAt db => exact ⟨trivial, rfl⟩
  | created userId dto b t db inserted => exact ⟨trivial, rfl⟩
  | reactivated userId dto id db => exact ⟨trivial, rfl⟩
  | removed userId id archivedAt db => exact ⟨trivial, rfl⟩

lemma Call.Posts.audit {c : Call} {d : Deed} {db db' : Db} (h : c.Posts d db db') :
    ∃ e, d.Names e ∧ e.action ∈ auditedActions ∧
      db'.auditEvents.rows = db.auditEvents.rows ++ [e] := by
  cases h with
  | paid c payment body x debit credit row audit db posted ns payer asked entered =>
    refine ⟨audit, ⟨entered.action, entered.resourceId⟩, ?_, ?_⟩
    · rw [entered.action]
      exact payment.request.auditAction_listed
    · rw [Db.addNotifications_auditEvents]
      exact entered.auditEvents
  | credited adminUserId accountId dto x debit credit audit db posted ns entered =>
    refine ⟨audit, ⟨entered.action, entered.resourceId⟩, ?_, ?_⟩
    · rw [entered.action]
      decide
    · rw [Db.addNotifications_auditEvents]
      exact entered.auditEvents

def bankRecording : Recording Inputs World Call Deed AuditEvent where
  records w := w.db.audits
  Aside c w w' := c.Spares w.db w'.db
  Change c d w w' := c.Changes d w.db w'.db
  Note d w w' := d.Noted w.db w'.db
  Both c d w w' := c.Posts d w.db w'.db
  Names := Deed.Names
  Apart := Call.AuditsApart
  Lost i w := i.AuditLost w.db
  aside_records _ _ _ h := h.2
  change_records := by
    intro c d w w' h
    obtain ⟨hapart, hevents⟩ := h.apart
    exact ⟨hapart, Db.audits_eq (congrArg Table.rows hevents)⟩
  note_records := by
    rintro d w w' ⟨e, t, names, hlisted, ht, hdb⟩
    refine ⟨e, ?_, names⟩
    apply Db.audits_append _ hlisted
    rw [hdb]
    exact (Table.insert_eq_some.mp ht).2.2
  both_records := by
    intro c d w w' h
    obtain ⟨e, names, hlisted, hrows⟩ := h.audit
    exact ⟨e, Db.audits_append hrows hlisted, names⟩

section Bank

variable {sha256 : String → String} {c : Call} {α β : Type} {db : Db}

variable (c) in
abbrev Spared (p : Service α) : Prop := p.Within (bankRecording.Aside c)

variable (c) in
abbrev Unmade (p : Service α) : Prop := bankRecording.Before c p

lemma Call.spares_refl : c.Spares db db := ⟨fun _ => ⟨db.notifications, rfl⟩, rfl⟩

lemma Call.spares_notifications (ns : List Notification) :
    c.Spares db (db.addNotifications ns) := by
  obtain ⟨t, ht, _⟩ := db.addNotifications_eq ns
  exact ⟨fun _ => ⟨t, ht⟩, Db.audits_eq (by rw [Db.addNotifications_auditEvents])⟩

lemma spared_atomic {a : Inputs → World → Except Failure α × World × List Event}
    (h : ∀ i w, (a i w).2.1.db = w.db) : Spared c (Prog.atomic a) := by
  apply Prog.within_atomic
  intro i w
  show c.Spares w.db (a i w).2.1.db
  rw [h]
  exact Call.spares_refl

lemma spared_statement {l : Statement} {body : Inputs → Instant → Db → Except PrismaError (α × Db)}
    (h : ∀ i now db a db', body i now db = .ok (a, db') → c.Spares db db') :
    Spared c (Service.statement l body) := by
  apply Prog.within_atomic
  intro i w
  split
  · exact Call.spares_refl
  · split
    · exact Call.spares_refl
    · rename_i a db' hb
      exact h i w.now w.db a db' hb

lemma spared_read {l : Statement} {f : ℕ → Db → α} : Spared c (Service.read l f) := by
  apply spared_statement
  intro i now db a db' h
  cases h
  exact Call.spares_refl

lemma spared_notificationsCreate {l : Statement} {userId : Uuid} {type title message : String} :
    Spared c (Service.notificationsCreate l userId type title message) := by
  apply Prog.within_atomic
  intro i w
  split
  · exact Call.spares_refl
  · exact Call.spares_notifications _

lemma spared_newDate : Spared c Service.newDate := spared_atomic fun _ _ => rfl

lemma spared_rejectIf {cond : Bool} {failure : Failure} : Spared c (rejectIf cond failure) := by
  cases cond with
  | true => exact Prog.within_throw
  | false => exact Prog.within_pure

lemma spared_requireVerified {userId : Uuid} {message : String} :
    Spared c (requireVerified userId message) := by
  apply Prog.within_bind spared_read
  intro found
  split
  · exact Prog.within_throw
  · split
    · exact Prog.within_throw
    · exact Prog.within_pure

lemma spared_redisSet {userId : Uuid} {request : PaymentRequest} {idempotencyKey : String} :
    Spared c (redisSet userId request idempotencyKey) := by
  apply spared_atomic
  intro i w
  cases i.fault .redisSet with
  | some e => rfl
  | none => rfl

lemma spared_redisGet {userId : Uuid} {challengeId : String} :
    Spared c (redisGet userId challengeId) := by
  apply spared_atomic
  intro i w
  cases i.fault .redisGet with
  | some e => rfl
  | none => cases w.redis.get (stepUpKey userId challengeId) w.now <;> simp

lemma spared_redisDel {userId : Uuid} {challengeId : String} :
    Spared c (redisDel userId challengeId) := by
  apply spared_atomic
  intro i w
  cases i.fault .redisDel with
  | some e => rfl
  | none => rfl

lemma spared_mockFraudCheck {userId : Uuid} {idempotencyKey : String} {amount : ℚ}
    {request : PaymentRequest} :
    Spared c (runMockFraudCheck userId idempotencyKey amount request) := by
  unfold runMockFraudCheck
  split
  · apply Prog.within_bind spared_read
    intro existing
    split
    · exact Prog.within_pure
    · exact Prog.within_bind spared_redisSet fun _ => Prog.within_throw
  · exact Prog.within_pure

lemma commits {callback : Tx α} {P : Db → α → Db → Prop}
    (h : ∀ i db, Callback.Ends i callback { db } (fun a s => s.aborted = false ∧ P db a s.db)
      fun _ _ => True)
    (hP : ∀ db a db' ns, P db a db' → c.Spares db (db'.addNotifications ns) ∨
      ∃ d, c.Posts d db (db'.addNotifications ns)) (i : Inputs) (w : World) :
    let o := callback.transact (.prisma .transactionAborted) (fun i => i.commitFault.map .prisma)
      { i with now := w.now } w.db
    c.Spares w.db (o.db.addNotifications o.outside) ∨
      ∃ a d, o.result = .ok a ∧ c.Posts d w.db (o.db.addNotifications o.outside) := by
  dsimp only
  rcases Callback.transact_cases (.prisma .transactionAborted) (fun i => i.commitFault.map .prisma)
    (h { i with now := w.now } w.db) (fun _ _ h => h.1) with
    ⟨a, s, ⟨_, ha⟩, _, ho⟩ | ⟨_, _, _, _, _, ho⟩ | ⟨_, _, _, ho⟩
  · rw [ho]
    exact (hP w.db a s.db s.outside ha).imp_right fun ⟨d, hd⟩ => ⟨a, d, rfl, hd⟩
  · rw [ho]
    exact .inl (Call.spares_notifications _)
  · rw [ho]
    exact .inl (Call.spares_notifications _)

lemma unmade_retrying {exhausted : Failure} {callback : Tx α}
    {log : α → List Transaction → List Event} (h : ∀ (i : Inputs) (w : World),
      let o := callback.transact (.prisma .transactionAborted) (fun i => i.commitFault.map .prisma)
        { i with now := w.now } w.db
      c.Spares w.db (o.db.addNotifications o.outside) ∨
        ∃ a d, o.result = .ok a ∧ c.Posts d w.db (o.db.addNotifications o.outside)) (n : ℕ) :
    Unmade c (Service.retrying exhausted (Service.transaction callback log) n) := by
  induction n with
  | zero => exact Recording.before_throw
  | succ n ih =>
    apply Recording.before_tryCatch h
    intro e
    split
    · exact ih
    · exact Recording.before_throw

lemma unmade_rejectIf {cond : Bool} {failure : Failure} {f : Unit → Service β}
    (hf : cond = false → Unmade c (f ())) :
    Unmade c (rejectIf cond failure >>= f) := by
  cases cond with
  | true => exact Recording.before_throw
  | false => exact hf rfl

lemma unmade_pay {userId : Uuid} {request : PaymentRequest} {idempotencyKey : String}
    {skipFraudCheck : Bool} {endpoint : Endpoint β} (hpayer : c.payer = some userId)
    (hasked : ∀ q, c.asked = some q → ⟨userId, request, trim idempotencyKey⟩ = q)
    (hcallback : request.currency = "RON" →
      ∀ profileId, PaymentCallback sha256 ⟨userId, request, trim idempotencyKey⟩
      profileId (endpoint.execute profileId) endpoint.body) :
    Unmade c (pay userId request idempotencyKey skipFraudCheck endpoint) := by
  apply Recording.before_bind spared_rejectIf
  intro _
  apply Recording.before_bind spared_requireVerified
  intro profile
  apply Recording.before_bind spared_rejectIf
  intro _
  apply unmade_rejectIf
  intro hcurrency
  apply Recording.before_bind spared_rejectIf
  intro _
  have hloop : Unmade c (Service.retrying endpoint.exhausted
      (Service.transaction (endpoint.execute profile.id) fun result inserted =>
        [.committed ⟨userId, request, trim idempotencyKey⟩ (result.map endpoint.body) inserted])
      serializableRetries) := by
    apply unmade_retrying
    apply commits (P := fun db r db' =>
      Enters db db' ⟨userId, request, trim idempotencyKey⟩ (r.map endpoint.body))
      (callback_enters (hcallback (by simpa using hcurrency) profile.id))
    rintro db r db' ns (rfl | ⟨x, debit, credit, row, audit, entered⟩)
    · exact .inl (Call.spares_notifications ns)
    · exact .inr ⟨_, .paid c _ _ x debit credit row audit db db' ns hpayer hasked entered⟩
  cases skipFraudCheck with
  | true => exact hloop
  | false => exact Recording.before_bind spared_mockFraudCheck fun _ => hloop

attribute [local irreducible] Recording.Before in
lemma unmade_runRequest {userId : Uuid} {request : PaymentRequest} {idempotencyKey : String}
    {skipFraudCheck : Bool} (hpayer : c.payer = some userId)
    (hasked : ∀ q, c.asked = some q → ⟨userId, request, trim idempotencyKey⟩ = q) :
    Unmade c (runRequest sha256 userId request idempotencyKey skipFraudCheck) := by
  cases request with
  | internalTransfer dto =>
    have h : Unmade c (transfer sha256 userId dto idempotencyKey skipFraudCheck) :=
      unmade_pay hpayer hasked fun hcurrency _ => .transfer dto _ hcurrency rfl
    exact Recording.before_then h fun _ => Prog.within_pure
  | beneficiaryTransfer dto =>
    have h : Unmade c (transferToBeneficiary sha256 userId dto idempotencyKey skipFraudCheck) :=
      unmade_pay hpayer hasked fun hcurrency _ => .beneficiary dto _ hcurrency rfl
    exact Recording.before_then h fun _ => Prog.within_pure
  | merchantPayment dto =>
    have h : Unmade c (payMerchant sha256 userId dto idempotencyKey skipFraudCheck) :=
      unmade_pay hpayer hasked fun hcurrency _ => .merchant dto _ hcurrency rfl
    exact Recording.before_then h fun _ => Prog.within_pure

lemma unmade_confirmStepUp {userId : Uuid} {challengeId otp : String} :
    Unmade (.confirmStepUp userId challengeId otp)
      (confirmStepUp sha256 userId challengeId otp) := by
  unfold confirmStepUp
  apply Recording.before_bind spared_redisGet
  intro found
  cases found with
  | none => exact Recording.before_throw
  | some stored =>
    dsimp only
    split
    · exact Recording.before_throw
    · apply Recording.before_bind spared_redisDel
      intro _
      simp only [storedPayload_toJson]
      exact unmade_runRequest rfl (by simp [Call.asked])

lemma unmade_creditAccount {adminUserId accountId : Uuid} {dto : AdminCreditDto} :
    Unmade (.creditAccount adminUserId accountId dto)
      (creditAccount adminUserId accountId dto) := by
  unfold creditAccount
  split
  · exact Recording.before_throw
  · apply Recording.before_both
    apply commits (P := fun db _ db' =>
      ∃ x debit credit audit, CreditEntered db db' x debit credit audit)
      fun i db => creditAccountTx_enters i db adminUserId accountId dto
    rintro db r db' ns ⟨x, debit, credit, audit, entered⟩
    exact .inr ⟨_, .credited adminUserId accountId dto x debit credit audit db db' ns entered⟩

section Audit

variable {d : Deed} {row : Uuid → Instant → AuditEvent}
    {a : Inputs → World → Except Failure AuditEvent × World × List Event}
variable (ha : Service.create Db.auditEvent .auditCreate row = Prog.atomic a)
    (hid : ∀ id now, (row id now).id = id)
variable (hnames : ∀ id now, d.Names (row id now)) (hlisted : d.action ∈ auditedActions)
include ha hid hnames hlisted

lemma audit_noted {i : Inputs} {w : World} (hkept : ¬ i.AuditLost w.db) :
    d.Noted w.db (a i w).2.1.db := by
  obtain ⟨hfault, hfresh⟩ := not_or.mp hkept
  have hkey : ∀ x ∈ w.db.auditEvents.rows, x.id ≠ (row (i.uuid .auditCreate) w.now).id := by
    intro x hx hsame
    exact hfresh ⟨x, hx, hsame.trans (hid _ _)⟩
  obtain ⟨t, ht⟩ := Table.exists_insert hkey fun v hv => by cases hv
  have hcreate : Db.create Db.auditEvent (row (i.uuid .auditCreate) w.now) w.db =
      .ok (row (i.uuid .auditCreate) w.now, { w.db with auditEvents := t }) := by
    unfold Db.create
    rw [show (Db.auditEvent.get w.db).insert (row (i.uuid .auditCreate) w.now) = some t from ht]
    rfl
  have hdb : (a i w).2.1.db = { w.db with auditEvents := t } := by
    rw [← Prog.atomic_injective ha]
    simp only [not_not.mp hfault, hcreate]
  have names := hnames (i.uuid .auditCreate) w.now
  exact ⟨_, t, names, names.action ▸ hlisted, ht, hdb⟩

lemma audit_records : bankRecording.Records a := by
  let i : Inputs := { uuid := fun _ => ⟨0⟩ }
  let w : World := { db := {} }
  have hnoted : d.Noted w.db (a i w).2.1.db :=
    audit_noted ha hid hnames hlisted (by simp [i, w, Inputs.AuditLost])
  obtain ⟨e, he, _⟩ := bankRecording.note_records d w (a i w).2.1 hnoted
  refine ⟨i, w, ?_⟩
  rw [he]
  simp

lemma owes_audit : bankRecording.Owes c d (Service.create Db.auditEvent .auditCreate row) := by
  rw [ha]
  exact Recording.owes_note (audit_records ha hid hnames hlisted) fun i w hkept =>
    audit_noted ha hid hnames hlisted hkept

end Audit

lemma unmade_statement {l : Statement} {body : Inputs → Instant → Db → Except PrismaError (α × Db)}
    {f : α → Service β} (h : ∀ i now db a db', body i now db = .ok (a, db') →
      ∃ d, c.Changes d db db' ∧ bankRecording.Owes c d (f a)) :
        Unmade c (Service.statement l body >>= f) := by
  apply Recording.before_change
  intro i w
  cases hfault : i.fault l with
  | some e => exact .inl ⟨_, rfl, Call.spares_refl⟩
  | none =>
    dsimp only
    cases hb : body i w.now w.db with
    | error e => exact .inl ⟨_, rfl, Call.spares_refl⟩
    | ok p =>
      obtain ⟨d, hchanges, howes⟩ := h i w.now w.db p.1 p.2 hb
      exact .inr ⟨p.1, d, rfl, hchanges, howes⟩

lemma unmade_read {l : Statement} {f : ℕ → Db → α} {g : α → Service β}
    (h : ∀ n db, Unmade c (g (f n db))) :
    Unmade c (Service.read l f >>= g) := by
  apply Recording.before_read
  · intro i w
    cases i.fault l with
    | some e => exact Call.spares_refl
    | none => exact Call.spares_refl
  · intro i w b hb
    cases hfault : i.fault l with
    | some e => simp [hfault] at hb
    | none =>
      simp only [hfault, Except.ok.injEq] at hb
      exact hb ▸ h (i.choice l) w.db

lemma unmade_updateKycStatus {adminUserId customerId : Uuid} {status : KycStatus} :
    Unmade (.updateKycStatus adminUserId customerId status)
      (updateKycStatus adminUserId customerId status) := by
  unfold updateKycStatus
  apply unmade_read
  intro _ db
  cases hfound : db.customerProfiles.find customerId with
  | none => exact Recording.before_throw
  | some customer =>
    obtain ⟨_, hid : customer.id = customerId⟩ := Table.find_eq_some.mp hfound
    apply Recording.before_bind spared_newDate
    intro now
    apply unmade_statement
    intro i _ db updated db' hupdate
    obtain ⟨_, _, _, rfl⟩ := Db.update_eq_ok hupdate
    refine ⟨_, .kyc adminUserId customerId status _ db, ?_⟩
    apply Recording.owes_then
    · apply owes_audit rfl (fun _ _ => rfl) (fun _ _ => ⟨rfl, by rw [hid]⟩)
      split <;> simp [auditedActions]
    · exact fun _ => Prog.within_bind spared_notificationsCreate fun _ => Prog.within_pure

lemma spared_profileId {userId : Uuid} : Spared c (profileId userId) := by
  apply Prog.within_bind spared_read
  intro found
  split
  · exact Prog.within_throw
  · exact Prog.within_pure

lemma unmade_createBeneficiary {userId : Uuid} {dto : CreateBeneficiaryDto} :
    Unmade (.createBeneficiary userId dto) (createBeneficiary userId dto) := by
  unfold createBeneficiary
  apply Recording.before_bind spared_profileId
  intro customerId
  apply Recording.before_bind spared_read
  intro existing
  cases existing with
  | some row =>
    dsimp only
    split
    · exact Recording.before_throw
    · apply unmade_statement
      intro i _ db ben db' hupdate
      obtain ⟨old, hold, rfl, rfl⟩ := Db.update_eq_ok hupdate
      obtain ⟨_, hid : old.id = row.id⟩ := Table.find_eq_some.mp hold
      refine ⟨_, .reactivated userId dto row.id db, ?_⟩
      apply Recording.owes_then _ fun _ => Prog.within_pure
      apply owes_audit rfl (fun _ _ => rfl) (fun _ _ => ⟨rfl, ?_⟩) (by simp [auditedActions])
      exact congrArg (fun id : Uuid => some id.text) hid
  | none =>
    apply unmade_statement
    intro i _ db ben db' hcreate
    obtain ⟨rfl, t, ht, rfl⟩ := Db.create_eq_ok hcreate
    refine ⟨_, .created userId dto _ t db ht, ?_⟩
    apply Recording.owes_then _ fun _ => Prog.within_pure
    exact owes_audit rfl (fun _ _ => rfl) (fun _ _ => ⟨rfl, rfl⟩) (by simp [auditedActions])

lemma unmade_removeBeneficiary {userId beneficiaryId : Uuid} :
    Unmade (.removeBeneficiary userId beneficiaryId) (removeBeneficiary userId beneficiaryId) := by
  unfold removeBeneficiary
  apply Recording.before_bind spared_profileId
  intro customerId
  apply unmade_read
  intro choice db
  cases hfound : db.beneficiaries.findFirst
    (fun b => b.id = beneficiaryId ∧ b.customerId = customerId) choice with
  | none => exact Recording.before_throw
  | some ben =>
    obtain ⟨_, hp⟩ := Table.findFirst_eq_some hfound
    obtain ⟨hid, _⟩ := of_decide_eq_true hp
    dsimp only
    split
    · exact Recording.before_throw
    · apply Recording.before_bind spared_newDate
      intro now
      apply unmade_statement
      intro i _ db _ db' hupdate
      obtain ⟨_, _, _, rfl⟩ := Db.update_eq_ok hupdate
      rw [hid]
      refine ⟨_, .removed userId beneficiaryId now db, ?_⟩
      apply Recording.owes_then _ fun _ => Prog.within_pure
      apply owes_audit rfl (fun _ _ => rfl) (fun _ _ => ⟨rfl, ?_⟩) (by simp [auditedActions])
      rw [← hid]

lemma spared_unaudited {l : Statement} {body : Inputs → Instant → Db → Except PrismaError (α × Db)}
    (hc : ¬ c.Audited)
    (h : ∀ i now db a db', body i now db = .ok (a, db') → db'.audits = db.audits) :
    Spared c (Service.statement l body) :=
  spared_statement fun i now db a db' hb =>
    ⟨fun haudited => absurd haudited hc, h i now db a db' hb⟩

lemma audits_createCustomer {i : Inputs} {email fullLegalName iban : String} {db db' : Db}
    {user : User} (h : (do
      let (user, db) ← Db.create Db.user { id := i.uuid .userCreate, email } db
      let (profile, db) ← Db.create Db.customerProfile
        { id := i.uuid .profileCreate, userId := user.id, fullLegalName } db
      let (_, db) ← Db.create Db.account
        { id := i.uuid .accountCreate, customerId := profile.id, iban, currency := "RON",
          accountType := "CHECKING" } db
      return (user, db) : Except PrismaError (User × Db)) = .ok (user, db')) :
        db'.audits = db.audits := by
  obtain ⟨⟨_, d⟩, hu, h⟩ := bind_eq_ok h
  obtain ⟨⟨_, d'⟩, hp, h⟩ := bind_eq_ok h
  obtain ⟨⟨_, d''⟩, ha, h⟩ := bind_eq_ok h
  obtain ⟨-, _, -, rfl⟩ := Db.create_eq_ok hu
  obtain ⟨-, _, -, rfl⟩ := Db.create_eq_ok hp
  obtain ⟨-, _, -, rfl⟩ := Db.create_eq_ok ha
  obtain ⟨-, rfl⟩ := Prod.mk.injEq .. ▸ Except.ok.inj h
  rfl

lemma spared_register {dto : RegisterDto} : Spared (.register dto) (register dto) := by
  unfold register
  apply Prog.within_bind spared_read
  intro existing
  cases existing with
  | some user => exact Prog.within_throw
  | none =>
    dsimp only
    apply Prog.within_bind (spared_atomic fun _ _ => rfl)
    intro iban
    apply Prog.within_bind
    · apply spared_unaudited id
      intro i _ db user db' h
      exact audits_createCustomer h
    · intro user
      apply Prog.within_bind
      · apply spared_unaudited id
        intro i _ db e db' h
        obtain ⟨_, t, ht, rfl⟩ := Db.create_eq_ok h
        have hrows : t.rows = db.auditEvents.rows ++ [_] := (Table.insert_eq_some.mp ht).2.2
        have hother : "USER_REGISTERED" ∉ auditedActions := by decide
        simp [Db.audits, Db.auditEvent, hrows, hother]
      · exact fun _ => Prog.within_bind spared_notificationsCreate fun _ => Prog.within_pure

lemma spared_markNotifications {now : Instant} {p : Notification → Bool} (hc : ¬ c.Audited) :
    Spared c (Service.updateMany Db.notification .notificationsRead p (Notification.read now)) := by
  apply spared_unaudited hc
  intro i _ db n db' h
  obtain ⟨_, rfl⟩ := Prod.mk.injEq .. ▸ Except.ok.inj h
  rfl

theorem unmade_handle (sha256 : String → String) (c : Call) : Unmade c (handle sha256 c) := by
  cases c with
  | payment userId request idempotencyKey =>
    apply Recording.before_then _ fun _ => Prog.within_pure
    exact unmade_runRequest rfl fun _ h => Option.some.inj h
  | confirmStepUp userId challengeId otp =>
    exact Recording.before_then unmade_confirmStepUp fun _ => Prog.within_pure
  | creditAccount adminUserId accountId dto =>
    exact Recording.before_then unmade_creditAccount fun _ => Prog.within_pure
  | updateKycStatus adminUserId customerId status =>
    exact Recording.before_then unmade_updateKycStatus fun _ => Prog.within_pure
  | register dto =>
    exact Recording.before_of_within (Prog.within_bind spared_register fun _ => Prog.within_pure)
  | createBeneficiary userId dto =>
    exact Recording.before_then unmade_createBeneficiary fun _ => Prog.within_pure
  | removeBeneficiary userId beneficiaryId =>
    exact Recording.before_then unmade_removeBeneficiary fun _ => Prog.within_pure
  | markAsRead id userId =>
    apply Recording.before_of_within
    apply Prog.within_bind _ fun _ => Prog.within_pure
    apply Prog.within_bind spared_newDate
    intro _
    cases Uuid.ofText id with
    | none => exact Prog.within_throw
    | some notificationId => exact spared_markNotifications fun h => h
  | markAllAsRead userId =>
    apply Recording.before_of_within
    apply Prog.within_bind _ fun _ => Prog.within_pure
    exact Prog.within_bind spared_newDate fun _ => spared_markNotifications (fun h => h)

end Bank

namespace AppCall

def Audited : AppCall → Prop
  | .bank call => call.Audited
  | .blockCard _ _ => True
  | .unblockCard _ _ => True
  | .issueCard _ _ => True
  | .closeCard _ _ => True
  | .revokeSession _ _ => True
  | _ => False

def AuditsApart : AppCall → Prop
  | .bank call => call.AuditsApart
  | .blockCard _ _ => True
  | .unblockCard _ _ => True
  | .issueCard _ _ => True
  | .closeCard _ _ => True
  | .revokeSession _ _ => True
  | _ => False

def cardAction : AppCall → String
  | .blockCard _ _ => "CARD_BLOCKED"
  | .unblockCard _ _ => "CARD_UNBLOCKED"
  | .closeCard _ _ => "CARD_CLOSED"
  | _ => ""

inductive Changes : AppCall → Deed → AppWorld → AppWorld → Prop
  | bank (call : Call) (d : Deed) (w : AppWorld) (v : World) (changes : call.Changes d w.db v.db) :
    Changes (.bank call) d w { w with toWorld := v }
  | card (c : AppCall) (userId id : Uuid) (f : Patch Card) (w : AppWorld)
    (change : CardChange c userId id f) :
    Changes c ⟨c.cardAction, id.text⟩ w { w with cards := w.cards.modify id f }
  | issued (userId : Uuid) (dto : IssueCardDto) (card : Card) (t : Table Card) (w : AppWorld)
      (inserted : w.cards.insert card = some t) :
    Changes (.issueCard userId dto) ⟨"CARD_ISSUED", card.id.text⟩ w { w with cards := t }
  | revoked (token : Token) (id : Uuid) (revokedAt : Instant) (w : AppWorld) :
    Changes (.revokeSession token id) ⟨"SESSION_REVOKED", id.text⟩ w
      { w with sessions := w.sessions.modify id (AuthSession.revoke revokedAt) }

inductive Posts : AppCall → Deed → AppWorld → AppWorld → Prop
  | bank (call : Call) (d : Deed) (w : AppWorld) (v : World) (posts : call.Posts d w.db v.db) :
    Posts (.bank call) d w { w with toWorld := v }

def Spares (c : AppCall) (w w' : AppWorld) : Prop :=
  (c.Audited → w.db.SameBooks w'.db ∧ w'.cards = w.cards ∧ w'.sessions = w.sessions) ∧
    w'.db.audits = w.db.audits

lemma Changes.apart {c : AppCall} {d : Deed} {w w' : AppWorld} (h : c.Changes d w w') :
    c.AuditsApart ∧ w'.db.auditEvents = w.db.auditEvents := by
  cases h with
  | bank call d w v changes => exact changes.apart
  | card c userId id f w change =>
    cases change with
    | block userId cardId now => exact ⟨trivial, rfl⟩
    | unblock userId cardId => exact ⟨trivial, rfl⟩
    | close userId cardId now => exact ⟨trivial, rfl⟩
  | issued userId dto card t w inserted => exact ⟨trivial, rfl⟩
  | revoked token id revokedAt w => exact ⟨trivial, rfl⟩

end AppCall

def appRecording : Recording AppInputs AppWorld AppCall Deed AuditEvent where
  records w := w.db.audits
  Aside := AppCall.Spares
  Change := AppCall.Changes
  Note d w w' := ∃ v : World, w' = { w with toWorld := v } ∧ d.Noted w.db v.db
  Both := AppCall.Posts
  Names := Deed.Names
  Apart := AppCall.AuditsApart
  Lost i w := i.AuditLost w.db
  aside_records _ _ _ h := h.2
  change_records := by
    intro c d w w' h
    obtain ⟨hapart, hevents⟩ := h.apart
    exact ⟨hapart, Db.audits_eq (congrArg Table.rows hevents)⟩
  note_records := by
    rintro d w _ ⟨v, rfl, hnoted⟩
    exact bankRecording.note_records d w.toWorld v hnoted
  both_records := by
    rintro c d w _ ⟨call, _, _, v, posts⟩
    exact bankRecording.both_records call d w.toWorld v posts

section App

open AppService

variable {host : Host} {c : AppCall} {α β : Type} {d : Deed}

lemma lifts_bank {call : Call} (h : c.Audited → call.Audited) :
    bankRecording.Lifts call bankPart appRecording c where
  aside _ _ hspares := ⟨fun haudited => ⟨hspares.1 (h haudited), rfl, rfl⟩, hspares.2⟩
  note _ v _ hnoted := ⟨v, rfl, hnoted⟩
  lost _ _ hlost := hlost
  records := by
    rintro β a ⟨i, w, hrecords⟩
    exact ⟨{ toInputs := i, newId := ⟨0⟩ }, { toWorld := w, credentials := fun _ => ⟨"", true⟩ },
      hrecords⟩

variable (c) in
abbrev AppSpared (p : AppService α) : Prop := p.Within (appRecording.Aside c)

variable (c) in
abbrev AppUnmade (p : AppService α) : Prop := appRecording.Before c p

lemma AppCall.spares_refl {w : AppWorld} : c.Spares w w :=
  ⟨fun _ => ⟨⟨w.db.notifications, rfl⟩, rfl, rfl⟩, rfl⟩

variable (c) in
lemma lifts_statement : bankRecording.Lifts (.removeBeneficiary ⟨0⟩ ⟨0⟩) bankPart appRecording c :=
  lifts_bank fun _ => trivial

lemma appSpared_lift {p : Service α} (hp : ∀ call, Spared call p) : AppSpared c (lift p) :=
  (lifts_statement c).within (hp _)

lemma appSpared_atomic {a : AppInputs → AppWorld → Except AppFailure α × AppWorld × List AppEvent}
    (h : ∀ i w, c.Spares w (a i w).2.1) : AppSpared c (Prog.atomic a) := Prog.within_atomic h

lemma appSpared_statement {l : AppStatement}
    {body : AppInputs → AppWorld → Except PrismaError (α × AppWorld × List AppEvent)}
    (h : ∀ i w a w' es, body i w = .ok (a, w', es) → c.Spares w w') :
    AppSpared c (AppService.statement l body) := by
  apply appSpared_atomic
  intro i w
  split
  · exact AppCall.spares_refl
  · split
    · exact AppCall.spares_refl
    · rename_i a w' es hb
      exact h i w a w' es hb

lemma appSpared_read {l : AppStatement} {f : AppInputs → AppWorld → α} :
    AppSpared c (AppService.read l f) := by
  apply appSpared_statement
  intro i w a w' es h
  cases h
  exact AppCall.spares_refl

lemma appSpared_newDate : AppSpared c newDate := appSpared_lift fun _ => spared_newDate

lemma appSpared_notify {userId : Uuid} {type title message : String} :
    AppSpared c (notify userId type title message) :=
  appSpared_lift fun _ => spared_notificationsCreate

lemma appSpared_findProfile {userId : Uuid} : AppSpared c (findProfile userId) :=
  appSpared_lift fun _ => spared_read

lemma appOwes_audit {row : Uuid → Instant → AuditEvent} (hid : ∀ id now, (row id now).id = id)
    (hnames : ∀ id now, d.Names (row id now)) (hlisted : d.action ∈ auditedActions) :
    appRecording.Owes c d (audit row) := by
  apply (lifts_statement c).owes
  exact owes_audit rfl hid hnames hlisted

lemma appUnmade_statement {l : AppStatement}
    {body : AppInputs → AppWorld → Except PrismaError (α × AppWorld × List AppEvent)}
    {f : α → AppService β}
    (h : ∀ i w a w' es, body i w = .ok (a, w', es) → ∃ d, c.Changes d w w' ∧
      appRecording.Owes c d (f a)) :
    AppUnmade c (AppService.statement l body >>= f) := by
  apply Recording.before_change
  intro i w
  cases houtage : i.outage l with
  | some e => exact .inl ⟨_, rfl, AppCall.spares_refl⟩
  | none =>
    dsimp only
    cases hb : body i w with
    | error e => exact .inl ⟨_, rfl, AppCall.spares_refl⟩
    | ok p =>
      obtain ⟨a, w', es⟩ := p
      obtain ⟨d, hchanges, howes⟩ := h i w a w' es hb
      exact .inr ⟨a, d, rfl, hchanges, howes⟩

lemma appUnmade_read {l : AppStatement} {f : AppInputs → AppWorld → α} {g : α → AppService β}
    (h : ∀ i w, AppUnmade c (g (f i w))) : AppUnmade c (AppService.read l f >>= g) := by
  apply Recording.before_read
  · intro i w
    cases i.outage l with
    | some e => exact AppCall.spares_refl
    | none => exact AppCall.spares_refl
  · intro i w b hb
    cases houtage : i.outage l with
    | some e => simp [houtage] at hb
    | none =>
      simp only [houtage, Except.ok.injEq] at hb
      exact hb ▸ h i w

lemma appUnmade_updateCard {userId id : Uuid} {f : Patch Card} {g : Card → AppService β}
    (change : CardChange c userId id f)
    (hg : ∀ card, appRecording.Owes c ⟨c.cardAction, id.text⟩ (g card)) :
    AppUnmade c (updateCard id f >>= g) := by
  apply appUnmade_statement
  intro i w card w' es h
  split at h
  · cases h
    exact ⟨_, .card c userId id f w change, hg _⟩
  · cases h

lemma appOwes_auditCard {userId : Uuid} {action : String} {card : Card}
    {f : AuditEvent → AppService β} (hlisted : action ∈ auditedActions)
    (hf : ∀ e, AppSpared c (f e)) :
    appRecording.Owes c ⟨action, card.id.text⟩ (auditCard userId action card >>= f) := by
  apply Recording.owes_then _ hf
  exact appOwes_audit (fun _ _ => rfl) (fun _ _ => ⟨rfl, rfl⟩) hlisted

lemma appUnmade_findCard {cardId customerId : Uuid} {openOnly : Bool}
    {g : Option Card → AppService β} (hnone : AppUnmade c (g none))
    (hsome : ∀ card : Card, card.id = cardId → AppUnmade c (g (some card))) :
    AppUnmade c (findCard cardId customerId openOnly >>= g) := by
  apply appUnmade_read
  intro i w
  cases hfound : w.cards.findFirst
    (fun card => card.id = cardId ∧ card.customerId = customerId ∧
      (openOnly → card.status ≠ .closed)) i.pick with
  | none => exact hnone
  | some card =>
    obtain ⟨_, hp⟩ := Table.findFirst_eq_some hfound
    exact hsome card (of_decide_eq_true hp).1

lemma appUnmade_blockCard {userId cardId : Uuid} :
    AppUnmade (.blockCard userId cardId) (blockCard userId cardId) := by
  unfold blockCard
  apply Recording.before_bind appSpared_findProfile
  intro found
  cases found with
  | none => exact Recording.before_throw
  | some profile =>
    apply appUnmade_findCard Recording.before_throw
    rintro card rfl
    apply Recording.before_bind appSpared_newDate
    intro now
    apply appUnmade_updateCard (.block userId card.id now)
    intro _
    apply appOwes_auditCard (show "CARD_BLOCKED" ∈ auditedActions by decide)
    exact fun _ => Prog.within_bind appSpared_notify fun _ => Prog.within_pure

lemma appUnmade_unblockCard {userId cardId : Uuid} :
    AppUnmade (.unblockCard userId cardId) (unblockCard userId cardId) := by
  unfold unblockCard
  apply Recording.before_bind appSpared_findProfile
  intro found
  cases found with
  | none => exact Recording.before_throw
  | some profile =>
    dsimp only
    split
    · exact Recording.before_throw
    · apply appUnmade_findCard Recording.before_throw
      rintro card rfl
      apply appUnmade_updateCard (.unblock userId card.id)
      intro _
      apply appOwes_auditCard (show "CARD_UNBLOCKED" ∈ auditedActions by decide)
      exact fun _ => Prog.within_bind appSpared_notify fun _ => Prog.within_pure

lemma appUnmade_closeCard {userId cardId : Uuid} :
    AppUnmade (.closeCard userId cardId) (closeCard userId cardId) := by
  unfold closeCard
  apply Recording.before_bind appSpared_findProfile
  intro found
  cases found with
  | none => exact Recording.before_throw
  | some profile =>
    apply appUnmade_findCard Recording.before_throw
    rintro card rfl
    apply Recording.before_bind appSpared_newDate
    intro now
    apply appUnmade_updateCard (.close userId card.id now)
    intro _
    apply appOwes_auditCard (show "CARD_CLOSED" ∈ auditedActions by decide)
    exact fun _ => appSpared_notify

lemma appUnmade_issueCard {userId : Uuid} {dto : IssueCardDto} :
    AppUnmade (.issueCard userId dto) (issueCard userId dto) := by
  unfold issueCard
  apply Recording.before_bind appSpared_findProfile
  intro found
  cases found with
  | none => exact Recording.before_throw
  | some profile =>
    dsimp only
    split
    · exact Recording.before_throw
    · apply Recording.before_bind appSpared_read
      intro found
      cases found with
      | none => exact Recording.before_throw
      | some account =>
        apply appUnmade_statement
        intro i w card w' es h
        dsimp only at h
        split at h
        · rename_i t ht
          cases h
          refine ⟨_, .issued userId dto _ t w ht, ?_⟩
          apply appOwes_auditCard (show "CARD_ISSUED" ∈ auditedActions by decide)
          exact fun _ => Prog.within_bind appSpared_notify fun _ => Prog.within_pure
        · cases h

lemma appSpared_validate {payload : JwtAccessPayload} : AppSpared c (validate payload) := by
  unfold validate
  split
  · apply Prog.within_bind
    · apply appSpared_statement
      intro i w found w' es h
      split at h
      · cases h
        exact AppCall.spares_refl
      · cases h
        exact AppCall.spares_refl
    · intro found
      split
      · exact Prog.within_throw
      · split
        · exact Prog.within_throw
        · apply Prog.within_bind appSpared_newDate
          intro now
          split
          · exact Prog.within_throw
          · exact Prog.within_pure
  · exact Prog.within_pure

lemma appSpared_jwtAuthGuard {token : Token} : AppSpared c (jwtAuthGuard token) := by
  apply Prog.within_bind (appSpared_atomic fun _ _ => AppCall.spares_refl)
  intro signed
  split
  · exact appSpared_validate
  · exact Prog.within_throw

lemma appSpared_useGuards {token : Token} : AppSpared c (useGuards token) := by
  apply Prog.within_bind appSpared_jwtAuthGuard
  intro payload
  apply Prog.within_bind _ fun _ => Prog.within_pure
  unfold mfaVerifiedGuard
  split
  · exact appSpared_atomic fun _ _ => AppCall.spares_refl
  · exact Prog.within_throw

lemma appUnmade_revokeSession {token : Token} {userId sessionId : Uuid} :
    AppUnmade (.revokeSession token sessionId) (revokeSession userId sessionId) := by
  unfold revokeSession
  apply appUnmade_read
  intro i w
  cases hfound : w.sessions.findFirst (fun s => s.id = sessionId ∧ s.userId = userId) i.pick with
  | none => exact Recording.before_throw
  | some session =>
    obtain ⟨_, hp⟩ := Table.findFirst_eq_some hfound
    obtain ⟨rfl, _⟩ := of_decide_eq_true hp
    dsimp only
    have hrevoke : ∀ revokedAt
        (update : AppInputs → AppWorld →
          Except PrismaError (AuthSession × AppWorld × List AppEvent)),
        (∀ i w updated w' es, update i w = .ok (updated, w', es) →
          w' = { w with sessions := w.sessions.modify session.id (AuthSession.revoke revokedAt) } ∧
            es = []) →
        AppUnmade (.revokeSession token session.id) (do
          let updated ← AppService.statement .sessionUpdate update
          let _ ← audit fun id createdAt =>
            { id, actorUserId := some userId, action := "SESSION_REVOKED", resourceType :=
              "Session",
              resourceId := some session.id.text, createdAt }
          return updated.view false) := by
      intro revokedAt update hupdate
      apply appUnmade_statement
      intro i w updated w' es h
      obtain ⟨rfl, rfl⟩ := hupdate i w updated w' es h
      refine ⟨_, .revoked token session.id revokedAt w, ?_⟩
      apply Recording.owes_then _ fun _ => Prog.within_pure
      exact appOwes_audit (fun _ _ => rfl) (fun _ _ => ⟨rfl, rfl⟩)
        (show "SESSION_REVOKED" ∈ auditedActions by decide)
    cases hrevoked : session.revokedAt with
    | some revokedAt =>
      apply hrevoke revokedAt
      intro i w updated w' es h
      split at h
      · cases h
        exact ⟨rfl, rfl⟩
      · cases h
    | none =>
      apply Recording.before_bind appSpared_newDate
      intro now
      apply hrevoke now
      intro i w updated w' es h
      split at h
      · cases h
        exact ⟨rfl, rfl⟩
      · cases h

section Unaudited

variable (hc : ¬ c.Audited)
include hc

lemma appSpared_atomic_db
    {a : AppInputs → AppWorld → Except AppFailure α × AppWorld × List AppEvent}
    (h : ∀ i w, (a i w).2.1.db = w.db) : AppSpared c (Prog.atomic a) :=
  appSpared_atomic fun i w => ⟨fun haudited => absurd haudited hc, by rw [h i w]⟩

lemma appSpared_statement_db {l : AppStatement}
    {body : AppInputs → AppWorld → Except PrismaError (α × AppWorld × List AppEvent)}
    (h : ∀ i w a w' es, body i w = .ok (a, w', es) → w'.db = w.db) :
    AppSpared c (AppService.statement l body) :=
  appSpared_statement fun i w a w' es hb =>
    ⟨fun haudited => absurd haudited hc, by rw [h i w a w' es hb]⟩

lemma appSpared_otpSet {key otp : String} {ttl : ℕ} : AppSpared c (otpSet key otp ttl) := by
  apply appSpared_statement_db hc
  intro i w a w' es h
  cases h
  rfl

lemma appSpared_otpGet {key : String} : AppSpared c (otpGet key) := by
  apply appSpared_statement_db hc
  intro i w a w' es h
  split at h
  · cases h
    rfl
  · cases h
    rfl

lemma appSpared_otpDel {key : String} : AppSpared c (otpDel key) := by
  apply appSpared_statement_db hc
  intro i w a w' es h
  cases h
  rfl

lemma appSpared_signAsync {payload : JwtAccessPayload} {expiresIn : ℕ} :
    AppSpared c (signAsync payload expiresIn) :=
  appSpared_atomic_db hc fun _ _ => rfl

lemma appSpared_createSession {userId : Uuid} {expiresAt : Instant} {info : RequestMeta} :
    AppSpared c (createSession userId expiresAt info) := by
  apply appSpared_statement_db hc
  intro i w a w' es h
  dsimp only at h
  split at h
  · cases h
    rfl
  · cases h

lemma appSpared_auditReveal {userId : Uuid} {card : Card} :
    AppSpared c (auditCard userId "CARD_DETAILS_REVEALED" card) := by
  have hother : "CARD_DETAILS_REVEALED" ∉ auditedActions := by decide
  have hspared : Spared (.register ⟨"", "", "", ""⟩)
      (Service.create Db.auditEvent .auditCreate fun id createdAt =>
      { id, actorUserId := some userId, action := "CARD_DETAILS_REVEALED", resourceType := "Card",
        resourceId := some card.id.text, createdAt, metadata :=
          some (.obj [("maskedPan", .str card.maskedPan)]) }) := by
    apply spared_unaudited id
    intro i _ db e db' h
    obtain ⟨_, t, ht, rfl⟩ := Db.create_eq_ok h
    have hrows : t.rows = db.auditEvents.rows ++ [_] := (Table.insert_eq_some.mp ht).2.2
    simp [Db.audits, Db.auditEvent, hrows, hother]
  exact (lifts_bank fun haudited => absurd haudited hc).within hspared

lemma appSpared_initiateReveal {userId cardId : Uuid} :
    AppSpared c (initiateReveal userId cardId) := by
  unfold initiateReveal
  apply Prog.within_bind appSpared_findProfile
  intro found
  cases found with
  | none => exact Prog.within_throw
  | some profile =>
    apply Prog.within_bind appSpared_read
    intro found
    cases found with
    | none => exact Prog.within_throw
    | some card =>
      apply Prog.within_bind (appSpared_atomic_db hc fun _ _ => rfl)
      exact fun otp => Prog.within_bind (appSpared_otpSet hc) fun _ => Prog.within_pure

lemma appSpared_verifyReveal {userId cardId : Uuid} {otp : String} :
    AppSpared c (verifyReveal userId cardId otp) := by
  unfold verifyReveal
  apply Prog.within_bind appSpared_findProfile
  intro found
  cases found with
  | none => exact Prog.within_throw
  | some profile =>
    apply Prog.within_bind appSpared_read
    intro found
    cases found with
    | none => exact Prog.within_throw
    | some card =>
      apply Prog.within_bind (appSpared_otpGet hc)
      intro stored
      cases stored with
      | none => exact Prog.within_throw
      | some stored =>
        dsimp only
        split
        · exact Prog.within_throw
        · split
          · exact Prog.within_throw
          · apply Prog.within_bind (appSpared_otpDel hc)
            exact fun _ => Prog.within_bind (appSpared_auditReveal hc) fun _ => Prog.within_pure

lemma appSpared_login {dto : LoginDto} : AppSpared c (login host dto) := by
  unfold login
  apply Prog.within_bind appSpared_read
  intro found
  split
  · exact Prog.within_throw
  · split
    · exact Prog.within_throw
    · apply Prog.within_bind (appSpared_atomic_db hc fun _ _ => rfl)
      intro passwordOk
      split
      · exact Prog.within_throw
      · apply Prog.within_bind (appSpared_atomic_db hc fun _ _ => rfl)
        intro otp
        apply Prog.within_bind (appSpared_otpSet hc)
        exact fun _ => Prog.within_bind (appSpared_signAsync hc) fun _ => Prog.within_pure

lemma appSpared_verifyMfa {payload : JwtAccessPayload} {otp : String} {info : RequestMeta} :
    AppSpared c (verifyMfa host payload otp info) := by
  unfold verifyMfa
  split
  · exact Prog.within_throw
  · apply Prog.within_bind (appSpared_otpGet hc)
    intro stored
    split
    · exact Prog.within_throw
    · apply Prog.within_bind (appSpared_otpDel hc)
      intro _
      apply Prog.within_bind appSpared_read
      intro found
      split
      · exact Prog.within_throw
      · split
        · exact Prog.within_throw
        · apply Prog.within_bind appSpared_newDate
          intro now
          exact Prog.within_bind (appSpared_createSession hc) fun _ => appSpared_signAsync hc

omit hc in
lemma appSpared_viewSessions {current : Option Uuid} {rows : List AuthSession} :
    AppSpared c (viewSessions current rows) := by
  induction rows with
  | nil => exact Prog.within_pure
  | cons session rest ih =>
    apply Prog.within_bind appSpared_newDate
    exact fun now => Prog.within_bind ih fun _ => Prog.within_pure

lemma appSpared_getSessions {userId : Uuid} {current : Option Uuid} :
    AppSpared c (getSessions userId current) := by
  apply Prog.within_bind _ fun rows => appSpared_viewSessions
  apply appSpared_statement_db hc
  intro i w a w' es h
  cases h
  rfl

end Unaudited

theorem unmade_handleApp (host : Host) (c : AppCall) : AppUnmade c (handleApp host c) := by
  cases c with
  | bank call =>
    apply Recording.before_then _ fun _ => Prog.within_pure
    have hlifts : bankRecording.Lifts call bankPart appRecording (.bank call) :=
      lifts_bank fun haudited => haudited
    exact hlifts.before (fun d v w h => .bank call d w v h) (fun d v w h => .bank call d w v h)
      (unmade_handle host.sha256 call)
  | blockCard userId cardId =>
    exact Recording.before_then appUnmade_blockCard fun _ => Prog.within_pure
  | unblockCard userId cardId =>
    exact Recording.before_then appUnmade_unblockCard fun _ => Prog.within_pure
  | issueCard userId dto =>
    exact Recording.before_then appUnmade_issueCard fun _ => Prog.within_pure
  | closeCard userId cardId =>
    exact Recording.before_then appUnmade_closeCard fun _ => Prog.within_pure
  | initiateReveal userId cardId =>
    exact Recording.before_of_within (Prog.within_bind (appSpared_initiateReveal id) fun _ =>
      Prog.within_pure)
  | verifyReveal userId cardId otp =>
    exact Recording.before_of_within (Prog.within_bind (appSpared_verifyReveal id) fun _ =>
      Prog.within_pure)
  | login dto =>
    exact Recording.before_of_within (Prog.within_bind (appSpared_login id) fun _ =>
      Prog.within_pure)
  | verifyMfa token otp info =>
    apply Recording.before_of_within
    apply Prog.within_bind appSpared_jwtAuthGuard
    exact fun _ => Prog.within_bind (appSpared_verifyMfa id) fun _ => Prog.within_pure
  | getSessions token =>
    apply Recording.before_of_within
    apply Prog.within_bind appSpared_useGuards
    exact fun _ => Prog.within_bind (appSpared_getSessions id) fun _ => Prog.within_pure
  | revokeSession token sessionId =>
    apply Recording.before_bind appSpared_useGuards
    exact fun _ => Recording.before_then appUnmade_revokeSession fun _ => Prog.within_pure
  | guarded token =>
    exact Recording.before_of_within (Prog.within_bind appSpared_useGuards fun _ =>
      Prog.within_pure)

end App

section Runs

variable {host : Host}

variable (host) in
/-- The audit events written since `w` belong to the calls: one to each change made, and no other. A
call between its change and its audit event is still running. -/
def AuditsMatch (w : AppWorld) (schedule : List AppAction) (b : App) : Prop :=
  ∃ matched : List (ℕ × AuditEvent), b.world.db.audits = w.db.audits ++ matched.map Prod.snd ∧
    (∀ t, b.threads t = none → Recording.recordsOf t matched = []) ∧
    ∀ t call p, b.threads t = some (call, p) →
      appRecording.Accounted call (Recording.steps (handleApp host) appEnvironment t
        (App.start w) schedule)
        (Recording.recordsOf t matched) ∨
      (∀ r, p ≠ .done r) ∧ Recording.recordsOf t matched = [] ∧
        ∃ d, appRecording.Changed call d
          (Recording.steps (handleApp host) appEnvironment t (App.start w) schedule)

lemma appEnvironment_audits (e : AppEnvironment) (w : AppWorld) :
    (appEnvironment e w).db.audits = w.db.audits := by
  cases e with
  | tick elapsed => rfl
  | credentialSet userId credential => rfl

/-- In every run in which no audit event is lost after its change, the audit events match the
changes. -/
theorem audits_match {w : AppWorld} {schedule : List AppAction} {b : App}
    (hkept : appRecording.NoneLost (handleApp host) appEnvironment (App.start w) schedule)
    (h : (App.start w).run host schedule = some b) : AuditsMatch host w schedule b := by
  obtain ⟨matched, hstands⟩ := Recording.run_stands (unmade_handleApp host) appEnvironment_audits
    (fun _ => rfl) hkept h
  refine ⟨matched, hstands.records, fun t ht => (hstands.unused t ht).2, ?_⟩
  intro t call p ht
  have hstanding := hstands.threads t call p ht
  cases p with
  | done r => exact .inl hstanding.accounted
  | act a k =>
    generalize Recording.recordsOf t matched = ls at hstanding ⊢
    cases hstanding with
    | before program clean => exact .inl (.nothing clean)
    | owes d program changed => exact .inr ⟨fun _ => nofun, rfl, d, changed⟩
    | settled ls program accounted => exact .inl accounted

lemma demo_audits_kept : ∀ k ≤ 6,
    (match (App.start demoAppWorld).run demoHost (demoCloseSchedule.take k),
      demoCloseSchedule[k]? with
      | some b, some (.act _ i) => decide (i.fault .auditCreate = none ∧
          ∀ e ∈ b.world.db.auditEvents.rows, e.id ≠ i.uuid .auditCreate)
      | _, _ => true) = true := by
  decide +kernel

theorem demo_audits_match : ∃ b, (App.start demoAppWorld).run demoHost demoCloseSchedule = some b ∧
    AuditsMatch demoHost demoAppWorld demoCloseSchedule b := by
  have hends : ((App.start demoAppWorld).run demoHost demoCloseSchedule).isSome := by decide +kernel
  obtain ⟨b, hb⟩ := Option.isSome_iff_exists.mp hends
  refine ⟨b, hb, audits_match ?_ hb⟩
  apply Discipline.meets_of_runs
  rintro ms _ d hprefix hd t i call β a k rfl _ _ _ hlost
  have hlength : (ms ++ [Label.act t i]).length ≤ 7 := hprefix.length_le
  have htaken : demoCloseSchedule.take ms.length = ms :=
    (List.prefix_iff_eq_take.mp ((List.prefix_append ms _).trans hprefix)).symm
  have hnext : demoCloseSchedule[ms.length]? = some (.act t i) := by
    obtain ⟨rest, hrest⟩ := hprefix
    simp [← hrest]
  rw [List.length_append, List.length_singleton] at hlength
  have hkept := demo_audits_kept ms.length (by omega)
  rw [htaken, show (App.start demoAppWorld).run demoHost ms = some d from hd, hnext] at hkept
  obtain ⟨hfault, hids⟩ := of_decide_eq_true hkept
  rcases hlost with hlost | ⟨e, he, hid⟩
  · exact hlost hfault
  · exact hids e he hid

def lostAudit (i : AppInputs) : AppInputs :=
  { i with fault := fun l => if l = .auditCreate then some (.other "08006") else none }

def demoLostAuditSchedule : List AppAction :=
  demoSolo 0 4 (.closeCard (demoIds .user) (.numbered 501)) ++
    [.act 0 (lostAudit (demoAppInputs 4))]

def App.failed (b : App) (t : ℕ) : Bool :=
  match b.threads t with
  | some (_, .done (.error _)) => true
  | _ => false

theorem card_closed_without_audit :
    ∃ b, (App.start demoAppWorld).run demoHost demoLostAuditSchedule = some b ∧
    b.failed 0 ∧ ¬ AuditsMatch demoHost demoAppWorld demoLostAuditSchedule b := by
  have hrun : ((App.start demoAppWorld).run demoHost demoLostAuditSchedule).map (fun b =>
      (b.failed 0, b.world.db.audits.length)) = some (true, demoAppWorld.db.audits.length) := by
        decide +kernel
  have hchanged : (Recording.steps (handleApp demoHost) appEnvironment 0 (App.start demoAppWorld)
      demoLostAuditSchedule).any (fun x =>
        x.1.cards.rows.map Card.status ≠ x.2.cards.rows.map Card.status) := by
    decide +kernel
  obtain ⟨b, hb, hend⟩ := Option.map_eq_some_iff.mp hrun
  obtain ⟨hfailed, hlength⟩ : b.failed 0 ∧
      b.world.db.audits.length = demoAppWorld.db.audits.length := by
    simpa using hend
  refine ⟨b, hb, hfailed, ?_⟩
  rintro ⟨matched, haudits, _, hthreads⟩
  obtain rfl : matched = [] := by simpa [haudits] using hlength
  match ht : b.threads 0 with
  | none => simp [App.failed, ht] at hfailed
  | some (call, .act a k) => simp [App.failed, ht] at hfailed
  | some (call, .done r) =>
    obtain rfl : call = .closeCard (demoIds .user) (.numbered 501) := by
      have hspawn := (appDiscipline demoHost).spawn_of_call hb ht
      simpa [demoLostAuditSchedule, demoSolo, Label.solo] using hspawn
    rcases hthreads 0 _ _ ht with haccounted | ⟨hrunning, _⟩
    · rw [show Recording.recordsOf 0 ([] : List (ℕ × AuditEvent)) = [] from rfl] at haccounted
      cases haccounted with
      | nothing clean =>
        obtain ⟨x, hx, hdiffers⟩ := List.any_eq_true.mp hchanged
        obtain ⟨_, hcards, _⟩ := (clean x hx).1 trivial
        simp [hcards] at hdiffers
    · exact hrunning r rfl

end Runs

end OnlineBanking
