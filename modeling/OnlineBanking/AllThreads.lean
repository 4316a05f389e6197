import OnlineBanking.PaymentThreads

set_option autoImplicit false

/-! The other calls, and with them the discipline that every run of the bank keeps to. -/

namespace OnlineBanking

open Library

section Others

variable {sha256 : String → String} {t : ℕ} {c : Call} {s : State}

lemma runs_creditAccount {adminUserId accountId : Uuid} {dto : AdminCreditDto}
    {Q : CreditResponse → State → Prop} (hs : Uncommitted t s)
    (hc : c = .creditAccount adminUserId accountId dto) (hQ : ∀ r u, Q r u) :
    Runs sha256 t c (creditAccount adminUserId accountId dto) s Q := by
  unfold creditAccount
  split
  · exact runs_throw hs
  · refine runs_atomic fun u hu i => ?_
    have hu' := hs.rely hu
    dsimp only
    rcases Callback.transact_cases (.prisma .transactionAborted)
        (fun i => i.commitFault.map .prisma)
      (creditAccountTx_ends { i with now := u.world.now } u.world.db adminUserId accountId dto)
      (fun a session ⟨_, _, _, halive, _⟩ => halive) with
      ⟨a, session, ⟨p, applied, credits, _, notices⟩, _, ho⟩ |
      ⟨a, session, e, ⟨p, applied, credits, _, notices⟩, hfault, ho⟩ | ⟨e, session, hrefused, ho⟩
    · rw [ho]
      refine ⟨.credited adminUserId accountId dto p session.db session.outside hc applied credits
        (notices.trans List.filter_sublist) rfl (by simp [Shared.after]), fun v _ => hQ a v⟩
    · rw [ho]
      have hlate : i.commitFault ≠ none := by
        intro hnone
        simp [hnone] at hfault
      exact ⟨.creditWithdrawn adminUserId accountId dto p.source p.destination session.outside hc
        credits.creditable hlate notices rfl (by simp [Shared.after]),
        fun v hv => (uncommitted_after hu').rely hv⟩
    · rw [ho, hrefused]
      exact ⟨.idle (after_same rfl), fun v hv => (uncommitted_after hu').rely hv⟩

lemma kept_auditEvent {row a : AuditEvent} {db db' : Db}
    (h : Db.create Db.auditEvent row db = .ok (a, db')) : db.Kept db' := by
  obtain ⟨_, t, _, rfl⟩ := Db.create_eq_ok h
  exact .of_auditEvents t

lemma runs_audit {row : Uuid → Instant → AuditEvent} {Q : AuditEvent → State → Prop}
    (hs : Uncommitted t s) (hc : c.payer = none) (hQ : ∀ a u, Uncommitted t u → Q a u) :
    Runs sha256 t c (Service.create Db.auditEvent .auditCreate row) s Q :=
  runs_write hs hc (fun _ _ _ _ _ h => kept_auditEvent h) hQ

lemma runs_updateKycStatus {adminUserId customerId : Uuid} {status : KycStatus}
    {Q : CustomerProfile → State → Prop} (hs : Uncommitted t s) (hc : c.payer = none)
    (hQ : ∀ r u, Q r u) : Runs sha256 t c (updateKycStatus adminUserId customerId status) s Q := by
  unfold updateKycStatus
  refine runs_bind (runs_read hs fun _ u v hu hv => ?_)
  have hv' := (hs.rely hu).rely hv
  split
  · exact runs_throw hv'
  · refine runs_bind (runs_newDate fun now w hw => ?_)
    refine runs_bind (runs_write (hv'.rely hw) hc ?_ fun updated x hx => ?_)
    · intro i _ db a db' h
      obtain ⟨_, _, _, rfl⟩ := Db.update_eq_ok h
      exact .of_kyc _ _ _
    · refine runs_bind (runs_audit hx hc fun _ y hy => ?_)
      refine runs_bind (runs_notificationsCreate hy hc ?_ fun z _ => runs_pure fun _ _ => hQ _ _)
      cases status <;> simp [moneyNotices]

lemma kept_createCustomer {i : Inputs} {email fullLegalName iban : String} {db db' : Db}
    {user : User} (h : (do
      let (user, db) ← Db.create Db.user { id := i.uuid .userCreate, email } db
      let (profile, db) ← Db.create Db.customerProfile
        { id := i.uuid .profileCreate, userId := user.id, fullLegalName } db
      let (_, db) ← Db.create Db.account
        { id := i.uuid .accountCreate, customerId := profile.id, iban, currency := "RON",
          accountType := "CHECKING" } db
      return (user, db) : Except PrismaError (User × Db)) = .ok (user, db')) : db.Kept db' := by
  obtain ⟨⟨u, d⟩, hu, h⟩ := bind_eq_ok h
  obtain ⟨⟨profile, d'⟩, hp, h⟩ := bind_eq_ok h
  obtain ⟨⟨account, d''⟩, ha, h⟩ := bind_eq_ok h
  obtain ⟨-, users, -, rfl⟩ := Db.create_eq_ok hu
  obtain ⟨-, profiles, hprofiles, rfl⟩ := Db.create_eq_ok hp
  obtain ⟨-, accounts, haccounts, rfl⟩ := Db.create_eq_ok ha
  obtain ⟨-, rfl⟩ := Prod.mk.injEq .. ▸ Except.ok.inj h
  refine ⟨⟨[_], (Table.insert_eq_some.mp haccounts).2.2, by simp⟩, fun p hp => ⟨p, ?_, rfl, rfl⟩,
    fun b hb => ⟨b, hb, rfl, rfl⟩, rfl, rfl, rfl, rfl, fun _ _ _ => rfl⟩
  have hrows : profiles.rows = db.customerProfiles.rows ++ [_] :=
    (Table.insert_eq_some.mp hprofiles).2.2
  exact hrows ▸ List.mem_append_left _ hp

lemma runs_register {dto : RegisterDto} {Q : String → State → Prop} (hs : Uncommitted t s)
    (hc : c.payer = none) (hQ : ∀ r u, Q r u) : Runs sha256 t c (register dto) s Q := by
  unfold register
  refine runs_bind (runs_read hs fun _ u v hu hv => ?_)
  have hv' := (hs.rely hu).rely hv
  split
  · exact runs_throw hv'
  · refine runs_bind (runs_atomic fun w hw i => ?_)
    rw [after_same rfl]
    refine ⟨.idle rfl, fun x hx => ?_⟩
    refine runs_bind (runs_write ((hv'.rely hw).rely hx) hc
      (fun i _ db a db' h => kept_createCustomer h) fun user y hy => ?_)
    refine runs_bind (runs_audit hy hc fun _ z hz => ?_)
    refine runs_bind (runs_notificationsCreate hz hc (by simp [moneyNotices]) fun z _ => ?_)
    exact runs_pure fun _ _ => hQ _ _

lemma runs_profileId {userId : Uuid} {Q : Uuid → State → Prop} (hs : Uncommitted t s)
    (hQ : ∀ id u, Uncommitted t u → Q id u) : Runs sha256 t c (profileId userId) s Q := by
  unfold profileId
  refine runs_bind (runs_read hs fun _ u v hu hv => ?_)
  have hv' := (hs.rely hu).rely hv
  split
  · exact runs_throw hv'
  · exact runs_pure fun w hw => hQ _ w (hv'.rely hw)

lemma runs_createBeneficiary {userId : Uuid} {dto : CreateBeneficiaryDto}
    {Q : ServiceResult Beneficiary → State → Prop} (hs : Uncommitted t s) (hc : c.payer = none)
    (hQ : ∀ r u, Q r u) : Runs sha256 t c (createBeneficiary userId dto) s Q := by
  unfold createBeneficiary
  refine runs_bind (runs_profileId hs fun customerId u hu => ?_)
  refine runs_bind (runs_read hu fun _ v w hv hw => ?_)
  have hw' := (hu.rely hv).rely hw
  split
  · split
    · exact runs_throw hw'
    · refine runs_bind (runs_write hw' hc ?_ fun ben x hx => ?_)
      · intro _ _ db a db' h
        obtain ⟨_, _, _, rfl⟩ := Db.update_eq_ok h
        exact .of_patched_beneficiary _ _
      · exact runs_bind (runs_audit hx hc fun _ y _ => runs_pure fun _ _ => hQ _ _)
  · refine runs_bind (runs_write hw' hc ?_ fun ben x hx => ?_)
    · intro _ _ db a db' h
      obtain ⟨_, t, ht, rfl⟩ := Db.create_eq_ok h
      have hrows : t.rows = db.beneficiaries.rows ++ [_] := (Table.insert_eq_some.mp ht).2.2
      exact .of_beneficiaries fun b hb => ⟨b, hrows ▸ List.mem_append_left _ hb, rfl, rfl⟩
    · exact runs_bind (runs_audit hx hc fun _ y _ => runs_pure fun _ _ => hQ _ _)

lemma runs_removeBeneficiary {userId beneficiaryId : Uuid} {Q : Unit → State → Prop}
    (hs : Uncommitted t s) (hc : c.payer = none) (hQ : ∀ u v, Q u v) :
    Runs sha256 t c (removeBeneficiary userId beneficiaryId) s Q := by
  unfold removeBeneficiary
  refine runs_bind (runs_profileId hs fun customerId u hu => ?_)
  refine runs_bind (runs_read hu fun _ v w hv hw => ?_)
  have hw' := (hu.rely hv).rely hw
  split
  · exact runs_throw hw'
  · split
    · exact runs_throw hw'
    · refine runs_bind (runs_newDate fun now x hx => ?_)
      refine runs_bind (runs_write (hw'.rely hx) hc ?_ fun _ y hy => ?_)
      · intro _ _ db a db' h
        obtain ⟨_, _, _, rfl⟩ := Db.update_eq_ok h
        exact .of_patched_beneficiary _ _
      · exact runs_bind (runs_audit hy hc fun _ z _ => runs_pure fun _ _ => hQ _ _)

lemma runs_markNotifications {p : Notification → Bool} {now : Instant} {Q : ℕ → State → Prop}
    (hs : Uncommitted t s) (hc : c.payer = none) (hQ : ∀ n u, Q n u) :
    Runs sha256 t c (Service.updateMany Db.notification .notificationsRead p
      (Notification.read now)) s Q := by
  refine runs_write hs hc ?_ fun n v _ => hQ n v
  intro _ _ db n db' h
  simp only [Db.updateMany, Except.ok.injEq, Prod.mk.injEq] at h
  obtain ⟨_, rfl⟩ := h
  exact .of_read p now

lemma runs_markAsRead {id : String} {userId : Uuid} {Q : ℕ → State → Prop} (hs : Uncommitted t s)
    (hc : c.payer = none) (hQ : ∀ n u, Q n u) : Runs sha256 t c (markAsRead id userId) s Q := by
  refine runs_bind (runs_newDate fun now u hu => ?_)
  cases Uuid.ofText id with
  | none => exact runs_throw (hs.rely hu)
  | some notificationId => exact runs_markNotifications (hs.rely hu) hc hQ

lemma runs_markAllAsRead {userId : Uuid} {Q : ℕ → State → Prop} (hs : Uncommitted t s)
    (hc : c.payer = none) (hQ : ∀ n u, Q n u) : Runs sha256 t c (markAllAsRead userId) s Q :=
  runs_bind (runs_newDate fun _ _ hu => runs_markNotifications (hs.rely hu) hc hQ)

end Others

def Answered (t : ℕ) (c : Call) : Response → State → Prop
  | .payment result, s => ∃ payment, Committed t c payment result s
  | _, _ => c.payer = none

theorem runs_handle {sha256 : String → String} {t : ℕ} {c : Call} {s : State}
    (hs : ownTrace t s = []) :
    Runs sha256 t c (handle sha256 c) s (Answered t c) := by
  have hu := uncommitted_of_own_nil hs
  cases c with
  | payment userId request idempotencyKey =>
    refine runs_bind (runs_mono (runs_runRequest hu (.asked rfl) (by simp) fun _ => rfl) ?_)
    exact fun r u hr => runs_pure fun v hv =>
      ⟨_, hr.executes.persists hv.toPersists, hr.logged.imp fun _ h => hv.trace.subset h⟩
  | confirmStepUp userId challengeId otp =>
    refine runs_bind (runs_mono (runs_confirmStepUp hs rfl) ?_)
    rintro r u ⟨payment, hr⟩
    exact runs_pure fun v hv =>
      ⟨payment, hr.executes.persists hv.toPersists, hr.logged.imp fun _ h => hv.trace.subset h⟩
  | creditAccount adminUserId accountId dto =>
    exact runs_bind (runs_creditAccount hu rfl fun _ _ => runs_pure fun _ _ => rfl)
  | updateKycStatus adminUserId customerId status =>
    exact runs_bind (runs_updateKycStatus hu rfl fun _ _ => runs_pure fun _ _ => rfl)
  | register dto => exact runs_bind (runs_register hu rfl fun _ _ => runs_pure fun _ _ => rfl)
  | createBeneficiary userId dto =>
    exact runs_bind (runs_createBeneficiary hu rfl fun _ _ => runs_pure fun _ _ => rfl)
  | removeBeneficiary userId beneficiaryId =>
    exact runs_bind (runs_removeBeneficiary hu rfl fun _ _ => runs_pure fun _ _ => rfl)
  | markAsRead id userId =>
    exact runs_bind (runs_markAsRead hu rfl fun _ _ => runs_pure fun _ _ => rfl)
  | markAllAsRead userId =>
    exact runs_bind (runs_markAllAsRead hu rfl fun _ _ => runs_pure fun _ _ => rfl)

lemma environment_kept (e : Environment) (w : World) : w.db.Kept (environment e w).db := by
  cases e with
  | tick elapsed => exact .refl _
  | audit event =>
    dsimp only [environment]
    split
    · rename_i a db h
      exact kept_auditEvent h
    · exact .refl _
  | cardNotice notice =>
    refine .of_notification fun h => ?_
    have hcard := notice.property
    simp only [cardNotices, moneyNotices, List.mem_cons, List.not_mem_nil, or_false] at hcard h
    rcases hcard with h' | h' | h' | h' <;> rw [h'] at h <;> simp at h

lemma Persists.of_kept {s : State} {w : World} (h : s.world.db.Kept w.db) :
    Persists s { s with world := w } :=
  ⟨List.prefix_refl _, h.profiles, fun k hk => by simpa [h.idempotencyKeys] using hk⟩

def discipline (sha256 : String → String) :
    Discipline (E := Event) (handle sha256) environment where
  Rely := Rely
  Guar := Effect sha256
  Post t c := Ended (Answered t c) (Uncommitted t)
  Fresh t s := ownTrace t s = []
  refl := Rely.refl
  trans _ _ _ _ := Rely.trans
  guar_rely _ _ _ _ _ _ hu h := h.rely hu
  env_rely _ e s := ⟨.of_kept (environment_kept e s.world), rfl⟩
  fresh_init _ _ := rfl
  fresh_rely _ _ _ h hr := hr.own.trans h
  handle_safe _ _ _ h := (runs_handle h).safe

end OnlineBanking
