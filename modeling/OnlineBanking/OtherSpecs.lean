import OnlineBanking.Bank
import OnlineBanking.PaymentSpecs

set_option autoImplicit false

/-! What an administrator's credit posts, and the frame that every other write keeps to. -/

namespace OnlineBanking

open Library Callback

/-- The database lets the account be credited, from whichever system account is picked. -/
structure Creditable (db : Db) (accountId : Uuid) (source target : Account) : Prop where
  source_found : db.accounts.find source.id = some source
  source_system : source.isSystem = true
  source_active : source.status = .active
  source_currency : source.currency = "RON"
  target_found : db.accounts.find accountId = some target
  target_customer : target.isSystem = false
  target_active : target.status = .active

structure Posting.Credits (p : Posting) (db : Db) (accountId : Uuid)
    (dto : AdminCreditDto) : Prop where
  creditable : Creditable db accountId p.source p.destination
  type : p.transaction.type = .adminCredit
  amount : p.transaction.amount = dto.amount.value
  currency : p.transaction.currency = "RON"
  customer : p.transaction.customerId = some p.destination.customerId
  keyless : p.key = none
  noticeless : p.notice = none

def creditAnnouncements (db : Db) (destination : Account) : List (Uuid × String) :=
  (db.customerOf destination).toList.flatMap fun c =>
    announcements db c.userId destination .adminCredit

theorem creditAccountTx_ends (i : TxInputs) (db : Db) (adminUserId accountId : Uuid)
    (dto : AdminCreditDto) :
    Ends i (creditAccountTx adminUserId accountId dto) { db }
      (fun _ s => ∃ p : Posting, p.Applied db s.db ∧ p.Credits db accountId dto ∧
          s.aborted = false ∧
        (addressed s.outside).Sublist (delivered i.toInputs (creditAnnouncements db p.destination)))
      (fun _ s => s.outside = []) := by
  unfold creditAccountTx
  refine ends_bind (Tx.ends_readWith rfl (fun _ => rfl) (fun _ => ends_throw rfl) ?_)
  intro target customer htarget hcustomer
  obtain ⟨_, rfl⟩ := Table.find_eq_some.mp htarget
  dsimp only
  split
  · exact ends_throw rfl
  · rename_i hcustomerAccount
    split
    · exact ends_throw rfl
    · rename_i hactive
      refine ends_bind (Tx.ends_read rfl (fun _ _ => rfl) fun found hfound => ?_)
      cases found with
      | none => exact ends_throw rfl
      | some system =>
        obtain ⟨hm, hp⟩ := Table.findFirst_eq_some hfound.symm
        obtain ⟨hsystem, hcurrency, hsactive⟩ := of_decide_eq_true hp
        have hsource : db.accounts.find system.id = some system := Table.find_eq_some.mpr ⟨hm, rfl⟩
        refine ends_bind (Tx.ends_update rfl (fun _ _ => rfl) fun _ _ => ?_)
        refine ends_bind (Tx.ends_update rfl (fun _ _ => rfl) fun _ _ => ?_)
        refine ends_bind (Tx.ends_create rfl (fun _ => rfl) fun txn transactions htxn htxns => ?_)
        refine ends_bind (Tx.ends_create rfl (fun _ => rfl) fun debit entries hdebit hentries => ?_)
        refine ends_bind (Tx.ends_create rfl (fun _ => rfl)
          fun credit entries' hcredit hentries' => ?_)
        refine ends_bind (Tx.ends_create rfl (fun _ => rfl)
          fun audit auditEvents haudit haudits => ?_)
        refine ends_bind (Tx.ends_notificationsCreate fun ns hns => ?_)
        subst htxn hdebit hcredit haudit
        refine ends_pure ⟨⟨system, target, _, _, _, none, _, none, dto.amount_pos, rfl, rfl, rfl,
            ⟨rfl, rfl, rfl, rfl, rfl⟩, ⟨rfl, rfl, rfl, rfl, rfl⟩⟩,
          Posting.applied_of_tables hsource htarget rfl htxns hentries hentries' haudits
            (List.append_nil _).symm (List.append_nil _).symm rfl rfl rfl rfl,
          ⟨⟨hsource, hsystem, hsactive, hcurrency, htarget, by simpa using hcustomerAccount,
            not_not.mp hactive⟩, rfl, rfl, rfl, rfl, rfl, rfl⟩, rfl, ?_⟩
        have hjoin : db.customerOf target = some customer := hcustomer
        rcases hns with rfl | ⟨hsent, n, hu, ht, rfl⟩
        · exact List.nil_sublist _
        · simp [creditAnnouncements, announcements, delivered, hjoin, addressed, hu, ht, hsent]

namespace Db

lemma addNotifications_eq (db : Db) (ns : List Notification) :
    ∃ t : Table Notification, db.addNotifications ns = { db with notifications := t } ∧
      ∃ kept, t.rows = db.notifications.rows ++ kept ∧ kept.Sublist ns := by
  induction ns generalizing db with
  | nil => exact ⟨db.notifications, rfl, [], by simp, List.Sublist.refl _⟩
  | cons n ns ih =>
    cases hc : Db.create Db.notification n db with
    | error e =>
      obtain ⟨t, ht, kept, hr, hk⟩ := ih db
      refine ⟨t, ?_, kept, hr, hk.cons n⟩
      rw [← ht]
      simp [addNotifications, hc]
    | ok p =>
      obtain ⟨-, u, hu, hp⟩ := Db.create_eq_ok
        (show Db.create Db.notification n db = .ok (p.1, p.2) from hc)
      obtain ⟨t, ht, kept, hr, hk⟩ := ih p.2
      refine ⟨t, ?_, n :: kept, ?_, hk.cons_cons n⟩
      · have hstep : db.addNotifications (n :: ns) = p.2.addNotifications ns := by
          simp [addNotifications, hc]
        rw [hstep, ht, hp]
        rfl
      · have hrows : p.2.notifications.rows = db.notifications.rows ++ [n] := by
          rw [hp]
          exact (Table.insert_eq_some.mp hu).2.2
        rw [hr, hrows]
        simp

def noticeCount (db : Db) (userId : Uuid) (type : String) : ℕ :=
  (addressed db.notifications.rows).count (userId, type)

lemma noticeCount_le {db db' : Db} {kept : List Notification} {ns : List (Uuid × String)}
    (hrows : db'.notifications.rows = db.notifications.rows ++ kept)
    (hk : (addressed kept).Sublist ns) (userId : Uuid) (type : String) :
    db'.noticeCount userId type ≤ db.noticeCount userId type + ns.count (userId, type) := by
  rw [noticeCount, hrows, addressed_append, List.count_append]
  exact Nat.add_le_add_left (hk.count_le _) _

end Db

def moneyNotices : List String :=
  ["PAYMENT_TRANSFER_POSTED", "BENEFICIARY_TRANSFER_POSTED", "INCOMING_TRANSFER_RECEIVED",
    "ACCOUNT_CREDITED_BY_ADMIN"]

/-- What writes other than a posting leave alone: the money, its records and who owns what. -/
structure Db.Kept (db db' : Db) : Prop where
  accounts : ∃ opened, db'.accounts.rows = db.accounts.rows ++ opened ∧
    ∀ a ∈ opened, a.isSystem = false ∧ a.availableBalance = 0
  profiles : ∀ p ∈ db.customerProfiles.rows, ∃ p' ∈ db'.customerProfiles.rows,
    p'.id = p.id ∧ p'.userId = p.userId
  beneficiaries : ∀ b ∈ db.beneficiaries.rows, ∃ b' ∈ db'.beneficiaries.rows,
    b'.id = b.id ∧ b'.customerId = b.customerId
  transactions : db'.transactions = db.transactions
  ledgerEntries : db'.ledgerEntries = db.ledgerEntries
  idempotencyKeys : db'.idempotencyKeys = db.idempotencyKeys
  merchants : db'.merchants = db.merchants
  notices : ∀ userId, ∀ type ∈ moneyNotices, db'.noticeCount userId type =
    db.noticeCount userId type

namespace Db.Kept

variable {db : Db}

protected lemma refl (db : Db) : db.Kept db :=
  ⟨⟨[], by simp⟩, fun p hp => ⟨p, hp, rfl, rfl⟩, fun b hb => ⟨b, hb, rfl, rfl⟩, rfl, rfl, rfl, rfl,
    fun _ _ _ => rfl⟩

lemma of_auditEvents (t : Table AuditEvent) : db.Kept { db with auditEvents := t } :=
  { Db.Kept.refl db with }

lemma of_beneficiaries {t : Table Beneficiary} (h : ∀ b ∈ db.beneficiaries.rows, ∃ b' ∈ t.rows,
    b'.id = b.id ∧ b'.customerId = b.customerId) : db.Kept { db with beneficiaries := t } :=
  { Db.Kept.refl db with beneficiaries := h }

lemma of_patched_beneficiary (k : Uuid) (f : Patch Beneficiary) :
    db.Kept { db with beneficiaries := db.beneficiaries.modify k f } := by
  refine of_beneficiaries fun b hb => ?_
  obtain ⟨b', hb', hid, halt⟩ := Table.mem_modifyAll hb (fun r => Record.key r = k) f
  exact ⟨b', hb', hid, congrArg Prod.fst (Option.some.inj halt)⟩

lemma of_notification {n : Notification} (h : n.type ∉ moneyNotices) :
    db.Kept (db.addNotifications [n]) := by
  obtain ⟨t, ht, kept, hr, hk⟩ := db.addNotifications_eq [n]
  rw [ht]
  refine { Db.Kept.refl db with notices := fun userId type hm => ?_ }
  have hnone : (addressed kept).count (userId, type) = 0 := by
    rw [List.count_eq_zero]
    intro hmem
    obtain ⟨x, hx, he⟩ := List.mem_map.mp hmem
    obtain rfl : x = n := by simpa using hk.subset hx
    obtain ⟨-, rfl⟩ := Prod.mk.injEq .. ▸ he
    exact h hm
  rw [Db.noticeCount, hr, addressed_append, List.count_append, hnone]
  rfl

lemma of_kyc (k : Uuid) (status : KycStatus) (verifiedAt : Option Instant) :
    db.Kept { db with
      customerProfiles := db.customerProfiles.modify k
          (CustomerProfile.setKyc status verifiedAt) } := by
  refine { Db.Kept.refl db with profiles := fun p hp => ?_ }
  obtain ⟨p', hp', hid, halt⟩ := Table.mem_modifyAll hp (fun r => Record.key r = k)
    (CustomerProfile.setKyc status verifiedAt)
  exact ⟨p', hp', hid, Option.some.inj halt⟩

lemma of_read (p : Notification → Bool) (now : Instant) :
    db.Kept { db with notifications := db.notifications.modifyAll p (Notification.read now) } := by
  refine { Db.Kept.refl db with notices := fun userId type _ => ?_ }
  have hsame : addressed (db.notifications.modifyAll p (Notification.read now)).rows =
      addressed db.notifications.rows := by
    rw [addressed, Table.modifyAll_rows, List.map_map]
    refine List.map_congr_left fun n _ => ?_
    by_cases hn : p n <;> simp [hn, Notification.read]
  rw [Db.noticeCount, hsame]
  rfl

end Db.Kept

end OnlineBanking
