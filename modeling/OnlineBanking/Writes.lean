import OnlineBanking.AllThreads
import OnlineBanking.Library.Turns

set_option autoImplicit false

/-! What one action of a call writes to the users with their profiles and accounts, and to the
inboxes. -/

namespace OnlineBanking

open Library

structure Customer where
  user : User
  profile : CustomerProfile
  account : Account

structure Customer.Of (x : Customer) (dto : RegisterDto) : Prop where
  user : x.user = { id := x.user.id, email := emailNorm dto.email }
  profile : x.profile =
    { id := x.profile.id, userId := x.user.id,
      fullLegalName := s!"{trim dto.firstName} {trim dto.lastName}" }
  account : x.account =
    { id := x.account.id, customerId := x.profile.id, iban := x.account.iban, currency := "RON",
      accountType := "CHECKING" }

def Call.marks : Call → Notification → Bool
  | .markAsRead id userId, n => Uuid.ofText id = some n.id ∧ n.userId = userId
  | .markAllAsRead userId, n => n.userId = userId ∧ n.readAt = none
  | _, _ => false

lemma Call.marks_markAsRead {id : String} {userId notificationId : Uuid}
    (h : Uuid.ofText id = some notificationId) :
    (Call.markAsRead id userId).marks = fun n : Notification =>
    n.id = notificationId ∧ n.userId = userId := by
  funext n
  simp only [Call.marks, h, Option.some.injEq, eq_comm (a := notificationId)]

structure Opens (dto : RegisterDto) (x : Customer) (db db' : Db) : Prop where
  of : x.Of dto
  users : db.users.insert x.user = some db'.users
  profiles : db.customerProfiles.insert x.profile = some db'.customerProfiles
  accounts : db.accounts.insert x.account = some db'.accounts
  notifications : db'.notifications = db.notifications

inductive Written (c : Call) (db db' : Db) : Prop
  | elsewhere (users : db'.users = db.users) (profiles : db'.customerProfiles = db.customerProfiles)
      (accounts : db'.accounts = db.accounts) (notifications : db'.notifications = db.notifications)
  | noticed (ns : List Notification) (after : db' = db.addNotifications ns)
  | posted (p : Posting) (posted : Db) (ns : List Notification) (applied : p.Applied db posted)
      (after : db' = posted.addNotifications ns)
  | opened (dto : RegisterDto) (x : Customer) (call : c = .register dto)
    (opens : Opens dto x db db')
  | verified (id : Uuid) (status : KycStatus) (verifiedAt : Option Instant)
      (after : db' = { db with
        customerProfiles := db.customerProfiles.modify id
          (CustomerProfile.setKyc status verifiedAt) })
  | marked (now : Instant)
      (after : db' = { db with
        notifications := db.notifications.modifyAll c.marks (Notification.read now) })

lemma Written.same (c : Call) (db : Db) : Written c db db := .elsewhere rfl rfl rfl rfl

lemma Effect.written {sha256 : String → String} {t : ℕ} {c : Call} {i : Inputs} {s s' : State}
    (h : Effect sha256 t c i s s') (hc : c.payer ≠ none) : Written c s.world.db s'.world.db := by
  cases h.onDb with
  | notified ns db _ => exact .noticed ns db
  | posted _ _ p posted ns _ _ applied _ db _ => exact .posted p posted ns applied db
  | credited _ _ _ _ _ _ call _ _ _ => exact absurd (by rw [call]; rfl) hc
  | kept call _ => exact absurd call hc

abbrev Writes {α : Type} (c : Call) (p : Service α) : Prop :=
  p.Within fun w w' => Written c w.db w'.db

section Within

variable {ρ κ ν α : Type} [Record ρ κ ν] [DecidableEq κ] [DecidableEq ν] {c : Call}

lemma written_statement {l : Statement} {body : Inputs → Instant → Db → Except PrismaError (α × Db)}
    (h : ∀ i now db a db', body i now db = .ok (a, db') → Written c db db') :
    Writes c (Service.statement l body) := by
  apply Prog.within_atomic
  intro i w
  split
  · exact .same c w.db
  · split
    · exact .same c w.db
    · rename_i a db' hb
      exact h i w.now w.db a db' hb

lemma written_read {l : Statement} {f : ℕ → Db → α} : Writes c (Service.read l f) := by
  apply written_statement
  intro i now db a db' h
  cases h
  exact .same c db

lemma written_newDate : Writes c Service.newDate := Prog.within_atomic fun _ w => .same c w.db

lemma written_audit {l : Statement} {row : Uuid → Instant → AuditEvent} :
    Writes c (Service.create Db.auditEvent l row) := by
  apply written_statement
  intro i now db a db' h
  obtain ⟨_, t, _, rfl⟩ := Db.create_eq_ok h
  exact .elsewhere rfl rfl rfl rfl

lemma written_notificationsCreate {l : Statement} {userId : Uuid} {type title message : String} :
    Writes c (Service.notificationsCreate l userId type title message) := by
  apply Prog.within_atomic
  intro i w
  split
  · exact .same c w.db
  · exact .noticed _ rfl

lemma written_profileId {userId : Uuid} : Writes c (profileId userId) := by
  unfold profileId
  apply Prog.within_bind written_read
  intro found
  split
  · exact Prog.within_throw
  · exact Prog.within_pure

lemma written_creditAccount {adminUserId accountId : Uuid} {dto : AdminCreditDto} :
    Writes c (creditAccount adminUserId accountId dto) := by
  unfold creditAccount
  split
  · exact Prog.within_throw
  · apply Prog.within_atomic
    intro i w
    dsimp only
    rcases Callback.transact_cases (.prisma .transactionAborted)
        (fun i => i.commitFault.map .prisma)
      (creditAccountTx_ends { i with now := w.now } w.db adminUserId accountId dto)
      (fun a session ⟨_, _, _, halive, _⟩ => halive) with
      ⟨a, session, ⟨p, applied, _⟩, _, ho⟩ | ⟨a, session, e, _, _, ho⟩ | ⟨e, session, _, ho⟩
    · rw [ho]
      exact .posted p session.db _ applied rfl
    · rw [ho]
      exact .noticed _ rfl
    · rw [ho]
      exact .noticed _ rfl

lemma written_updateKycStatus {adminUserId customerId : Uuid} {status : KycStatus} :
    Writes c (updateKycStatus adminUserId customerId status) := by
  unfold updateKycStatus
  apply Prog.within_bind written_read
  intro found
  split
  · exact Prog.within_throw
  · apply Prog.within_bind written_newDate
    intro now
    apply Prog.within_bind
    · apply written_statement
      intro i _ db a db' h
      obtain ⟨_, _, _, rfl⟩ := Db.update_eq_ok h
      exact .verified customerId status _ rfl
    · intro updated
      apply Prog.within_bind written_audit
      intro _
      exact Prog.within_bind written_notificationsCreate fun _ => Prog.within_pure

lemma opens_createCustomer {dto : RegisterDto} {iban : String} {i : Inputs} {db db' : Db}
    {user : User} (h : (do
      let (user, db) ← Db.create Db.user
        { id := i.uuid .userCreate, email := emailNorm dto.email } db
      let (profile, db) ← Db.create Db.customerProfile
        { id := i.uuid .profileCreate, userId := user.id,
          fullLegalName := s!"{trim dto.firstName} {trim dto.lastName}" } db
      let (_, db) ← Db.create Db.account
        { id := i.uuid .accountCreate, customerId := profile.id, iban, currency := "RON",
          accountType := "CHECKING" } db
      return (user, db) : Except PrismaError (User × Db)) = .ok (user, db')) :
        ∃ x, Opens dto x db db' := by
  obtain ⟨⟨u, d⟩, hu, h⟩ := bind_eq_ok h
  obtain ⟨⟨profile, d'⟩, hp, h⟩ := bind_eq_ok h
  obtain ⟨⟨account, d''⟩, ha, h⟩ := bind_eq_ok h
  obtain ⟨rfl, users, husers, rfl⟩ := Db.create_eq_ok hu
  obtain ⟨rfl, profiles, hprofiles, rfl⟩ := Db.create_eq_ok hp
  obtain ⟨rfl, accounts, haccounts, rfl⟩ := Db.create_eq_ok ha
  cases h
  exact ⟨⟨_, _, _⟩, ⟨rfl, rfl, rfl⟩, husers, hprofiles, haccounts, rfl⟩

lemma written_register {dto : RegisterDto} : Writes (.register dto) (register dto) := by
  unfold register
  apply Prog.within_bind written_read
  intro found
  split
  · exact Prog.within_throw
  · apply Prog.within_bind (Prog.within_atomic fun _ w => .same _ w.db)
    intro iban
    apply Prog.within_bind
    · apply written_statement
      intro i now db a db' h
      obtain ⟨x, hopens⟩ := opens_createCustomer h
      exact .opened dto x rfl hopens
    · intro user
      apply Prog.within_bind written_audit
      intro _
      exact Prog.within_bind written_notificationsCreate fun _ => Prog.within_pure

lemma written_createBeneficiary {userId : Uuid} {dto : CreateBeneficiaryDto} :
    Writes c (createBeneficiary userId dto) := by
  unfold createBeneficiary
  apply Prog.within_bind written_profileId
  intro customerId
  apply Prog.within_bind written_read
  intro existing
  cases existing with
  | some row =>
    dsimp only
    split
    · exact Prog.within_throw
    · apply Prog.within_bind
      · apply written_statement
        intro i now db a db' h
        obtain ⟨_, _, _, rfl⟩ := Db.update_eq_ok h
        exact .elsewhere rfl rfl rfl rfl
      · intro ben
        exact Prog.within_bind written_audit fun _ => Prog.within_pure
  | none =>
    apply Prog.within_bind
    · apply written_statement
      intro i now db a db' h
      obtain ⟨_, t, ht, rfl⟩ := Db.create_eq_ok h
      exact .elsewhere rfl rfl rfl rfl
    · intro ben
      exact Prog.within_bind written_audit fun _ => Prog.within_pure

lemma written_removeBeneficiary {userId beneficiaryId : Uuid} :
    Writes c (removeBeneficiary userId beneficiaryId) := by
  unfold removeBeneficiary
  apply Prog.within_bind written_profileId
  intro customerId
  apply Prog.within_bind written_read
  intro found
  cases found with
  | none => exact Prog.within_throw
  | some ben =>
    dsimp only
    split
    · exact Prog.within_throw
    · apply Prog.within_bind written_newDate
      intro now
      apply Prog.within_bind
      · apply written_statement
        intro i _ db a db' h
        obtain ⟨_, _, _, rfl⟩ := Db.update_eq_ok h
        exact .elsewhere rfl rfl rfl rfl
      · intro _
        exact Prog.within_bind written_audit fun _ => Prog.within_pure

lemma written_marks {now : Instant} {l : Statement} :
    Writes c (Service.updateMany Db.notification l c.marks (Notification.read now)) := by
  apply written_statement
  intro i _ db n db' h
  simp only [Db.updateMany, Except.ok.injEq, Prod.mk.injEq] at h
  exact .marked now h.2.symm

theorem written_handle (sha256 : String → String) (hc : c.payer = none) :
    Writes c (handle sha256 c) := by
  cases c with
  | payment userId request idempotencyKey => cases hc
  | confirmStepUp userId challengeId otp => cases hc
  | creditAccount adminUserId accountId dto =>
    exact Prog.within_bind written_creditAccount fun _ => Prog.within_pure
  | updateKycStatus adminUserId customerId status =>
    exact Prog.within_bind written_updateKycStatus fun _ => Prog.within_pure
  | register dto => exact Prog.within_bind written_register fun _ => Prog.within_pure
  | createBeneficiary userId dto =>
    exact Prog.within_bind written_createBeneficiary fun _ => Prog.within_pure
  | removeBeneficiary userId beneficiaryId =>
    exact Prog.within_bind written_removeBeneficiary fun _ => Prog.within_pure
  | markAsRead id userId =>
    apply Prog.within_bind _ fun _ => Prog.within_pure
    apply Prog.within_bind written_newDate
    intro _
    cases hid : Uuid.ofText id with
    | none => exact Prog.within_throw
    | some notificationId =>
      dsimp only
      rw [← Call.marks_markAsRead hid]
      exact written_marks (c := .markAsRead id userId)
  | markAllAsRead userId =>
    apply Prog.within_bind _ fun _ => Prog.within_pure
    exact Prog.within_bind written_newDate fun _ => written_marks (c := .markAllAsRead userId)

end Within

def writesDiscipline (sha256 : String → String) :
    Discipline (E := Event) (handle sha256) environment :=
  ((discipline sha256).strengthen
    (fun _ c _ s s' => c.payer = none → Written c s.world.db s'.world.db)
    fun t c s _ => by
      by_cases hc : c.payer = none
      · exact (written_handle sha256 hc).safe.guar fun _ _ _ h _ => h
      · exact Prog.Safe.of_true (fun _ _ _ h => absurd h hc) fun _ _ => trivial)

lemma environment_written (c : Call) (e : Environment) (w : World) :
    Written c w.db (environment e w).db := by
  cases e with
  | tick elapsed => exact .same c w.db
  | audit event =>
    dsimp only [environment]
    split
    · rename_i a db h
      obtain ⟨_, t, _, rfl⟩ := Db.create_eq_ok h
      exact .elsewhere rfl rfl rfl rfl
    · exact .same c w.db
  | cardNotice notice => exact .noticed _ rfl

end OnlineBanking
