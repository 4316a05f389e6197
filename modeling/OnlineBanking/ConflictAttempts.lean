import OnlineBanking.Postable

set_option autoImplicit false

/-! Attempts of a payment that fail in the database only as it reports conflicts. -/

namespace OnlineBanking

open Library Callback

/-- A serialization failure at any statement or at the commit, or a unique violation at the insert
of the key. -/
structure Inputs.Conflicts (i : Inputs) : Prop where
  statement : ∀ l e, i.fault l = some e → e = .serializationFailure ∨ l = .keyCreate ∧
    e = .uniqueViolation
  commit : ∀ e, i.commitFault = some e → e = .serializationFailure

def Inputs.Serialized (i : Inputs) : Prop :=
  (∃ l, i.fault l = some .serializationFailure) ∨ i.commitFault = some .serializationFailure

structure Inputs.Fresh (i : Inputs) (db : Db) : Prop where
  key : ∀ k ∈ db.idempotencyKeys.rows, k.id ≠ i.uuid .keyCreate
  reference : ∀ x ∈ db.transactions.rows, x.idempotencyKeyId ≠ some (i.uuid .keyCreate)
  transaction : ∀ x ∈ db.transactions.rows, x.id ≠ i.uuid .transactionCreate
  debit : ∀ e ∈ db.ledgerEntries.rows, e.id ≠ i.uuid .debitCreate
  credit : ∀ e ∈ db.ledgerEntries.rows, e.id ≠ i.uuid .creditCreate
  apart : i.uuid .debitCreate ≠ i.uuid .creditCreate
  audit : ∀ e ∈ db.auditEvents.rows, e.id ≠ i.uuid .auditCreate
  notification : ∀ n ∈ db.notifications.rows, n.id ≠ i.uuid .notify

structure Inputs.KeyRefused (i : Inputs) (payment : Payment) (db : Db) : Prop where
  lookup : i.fault .keyFind = none
  unused : db.idempotencyKeys.findAlt (payment.userId, payment.key) = none
  refused : i.fault .keyCreate = some .uniqueViolation

section Attempts

variable {sha256 : String → String} {i : TxInputs} {db : Db} {payment : Payment}
    {profileId : Uuid} {α β : Type}
  {s : Session Db Notification}

lemma ends_fault {l : Statement} {body : TxInputs → Db → Except PrismaError (α × Db)}
    {e : PrismaError} {Q : α → Session Db Notification → Prop}
    {E : Failure → Session Db Notification → Prop} (ha : s.aborted = false)
    (hf : i.fault l = some e) (hE : E (.prisma e) { s with aborted := true }) :
    Ends i (Tx.statement l body) s Q E := by
  apply Callback.ends_statement ha
  · intro f h
    obtain rfl : Failure.prisma e = f := by simpa [hf] using h
    exact hE
  · intro f h
    simp [hf] at h
  · intro a d h
    simp [hf] at h

def KeyFailure (e : Failure) : Prop :=
  e = .prisma .uniqueViolation ∨ e = .prisma .transactionAborted

lemma findKey_unused {f : Option IdempotencyKey → Tx α} {Q : α → Session Db Notification → Prop}
    {E : Failure → Session Db Notification → Prop} (h : i.KeyRefused payment db)
    (hf : Ends i (f none) { db } Q E) :
    Ends i (findKey payment.userId payment.key .keyFind >>= f) { db } Q E := by
  unfold findKey
  apply ends_bind
  apply Tx.ends_read rfl (fun _ hfault => absurd h.lookup hfault)
  intro existing hexisting
  rw [hexisting, h.unused]
  exact hf

lemma createKey_refused {scope requestHash : String}
    {Q : IdempotencyKey → Session Db Notification → Prop}
    {E : Failure → Session Db Notification → Prop} (h : i.KeyRefused payment db)
    (hE : E (.prisma .uniqueViolation) { db, aborted := true }) :
    Ends i (createKey payment.userId payment.key scope requestHash) { db } Q E :=
  ends_fault rfl h.refused hE

lemma reserveTransferKey_refused {requestHash : String} (h : i.KeyRefused payment db) :
    Ends i (reserveTransferKey payment.userId payment.key requestHash) { db } (fun _ _ => False)
      fun e _ => e = .prisma .transactionAborted := by
  unfold reserveTransferKey
  apply ends_tryCatch
  apply ends_bind
  apply createKey_refused h
  unfold findKey
  apply ends_bind
  exact Tx.ends_read_aborted rfl rfl

theorem callback_refused {callback : Tx (ServiceResult β)} {body : β → PaymentBody}
    (hcallback : PaymentCallback sha256 payment profileId callback body)
    (h : i.KeyRefused payment db) :
    Ends i callback { db } (fun _ _ => False) fun e _ => KeyFailure e := by
  cases hcallback with
  | transfer dto currency ron hrequest =>
    apply findKey_unused h
    apply ends_bind
    exact ends_mono (reserveTransferKey_refused h) (fun _ _ hfalse => hfalse.elim) fun _ _ he =>
      .inr he
  | beneficiary dto currency ron hrequest =>
    apply findKey_unused h
    apply ends_bind
    exact createKey_refused h (.inl rfl)
  | merchant dto currency ron hrequest =>
    apply findKey_unused h
    apply ends_bind
    exact createKey_refused h (.inl rfl)

def Settles (i : TxInputs) (x : Tx α) (s : Session Db Notification)
    (Q : α → Session Db Notification → Prop) : Prop :=
  Ends i x s Q fun e _ => e = .prisma .serializationFailure ∧ i.Serialized

variable {Q : α → Session Db Notification → Prop}

lemma settles_bind {f : α → Tx β} {R : β → Session Db Notification → Prop} {x : Tx α}
    (h : Settles i x s fun a s' => Settles i (f a) s' R) : Settles i (x >>= f) s R := ends_bind h

lemma settles_pure {a : α} (h : Q a s) : Settles i (pure a) s Q := h

lemma settles_statement {l : Statement} {body : TxInputs → Db → Except PrismaError (α × Db)}
    {a : α} {d : Db} (hi : i.Conflicts) (hl : l ≠ .keyCreate) (ha : s.aborted = false)
    (hbody : body i s.db = .ok (a, d)) (hQ : Q a { s with db := d }) :
    Settles i (Tx.statement l body) s Q := by
  apply Tx.ends_statement ha
  · rintro e (hf | ⟨_, he⟩)
    · obtain rfl : e = .serializationFailure := by
        rcases hi.statement l e hf with he | ⟨he, _⟩
        · exact he
        · exact absurd he hl
      exact ⟨rfl, .inl ⟨l, hf⟩⟩
    · rw [hbody] at he
      cases he
  · intro a' d' h
    rw [hbody] at h
    cases h
    exact hQ

lemma settles_read {l : Statement} {f : ℕ → Db → α} (hi : i.Conflicts) (hl : l ≠ .keyCreate)
    (ha : s.aborted = false) (hQ : Q (f (i.choice l) s.db) s) : Settles i (Tx.read l f) s Q :=
  settles_statement hi hl ha rfl hQ

lemma settles_readWith {ρ τ : Type} {l : Statement} {f : ℕ → Db → Option ρ}
    {join : Db → ρ → Option τ} {Q : Option (ρ × τ) → Session Db Notification → Prop} {row : ρ}
    {other : τ} (hi : i.Conflicts) (hl : l ≠ .keyCreate) (ha : s.aborted = false)
    (hf : f (i.choice l) s.db = some row) (hjoin : join s.db row = some other)
    (hQ : Q (some (row, other)) s) : Settles i (Tx.readWith l f join) s Q := by
  apply settles_statement hi hl ha _ hQ
  simp only [hf, hjoin]

section Writes

variable {ρ κ ν : Type} [Record ρ κ ν] [DecidableEq κ] [DecidableEq ν] {m : Model ρ} {l : Statement}

lemma settles_create {row : Uuid → Instant → ρ} {Q : ρ → Session Db Notification → Prop}
    (hi : i.Conflicts) (hl : l ≠ .keyCreate) (ha : s.aborted = false)
    (hnew : ∃ t, (m.get s.db).insert (row (i.uuid l) i.now) = some t)
    (hQ : ∀ t, (m.get s.db).insert (row (i.uuid l) i.now) = some t →
      Q (row (i.uuid l) i.now) { s with db := m.set s.db t }) :
        Settles i (Tx.create m l row) s Q := by
  obtain ⟨t, ht⟩ := hnew
  apply settles_statement hi hl ha _ (hQ t ht)
  simp only [Db.create, ht]

omit [DecidableEq ν] in
lemma settles_update {k : κ} {f : Patch ρ} {Q : ρ → Session Db Notification → Prop}
    (hi : i.Conflicts) (hl : l ≠ .keyCreate) (ha : s.aborted = false)
    (hfound : ∃ r, (m.get s.db).find k = some r)
    (hQ : ∀ r, Q r { s with db := m.set s.db ((m.get s.db).modify k f) }) :
    Settles i (Tx.update m l k f) s Q := by
  obtain ⟨r, hr⟩ := hfound
  apply settles_statement hi hl ha _ (hQ (f.apply r))
  simp only [Db.update, hr]

omit [DecidableEq κ] [DecidableEq ν] in
lemma settles_updateMany {p : ρ → Bool} {f : Patch ρ} {Q : ℕ → Session Db Notification → Prop}
    (hi : i.Conflicts) (hl : l ≠ .keyCreate) (ha : s.aborted = false)
    (hQ : Q ((m.get s.db).rows.filter p).length
      { s with db := m.set s.db ((m.get s.db).modifyAll p f) }) :
    Settles i (Tx.updateMany m l p f) s Q := settles_statement hi hl ha rfl hQ

end Writes

lemma settles_newDate {Q : Instant → Session Db Notification → Prop} (h : ∀ now, Q now s) :
    Settles i Tx.newDate s Q := Tx.ends_newDate h

lemma settles_notificationsCreate {l : Statement} {userId : Uuid} {type title message : String}
    {Q : Unit → Session Db Notification → Prop}
    (hQ : ∀ ns, Q () { s with outside := s.outside ++ ns }) :
    Settles i (Tx.notificationsCreate l userId type title message) s Q :=
  Tx.ends_notificationsCreate fun ns _ => hQ ns

lemma settles_notifyRecipient {userId : Uuid} {amount currency : String} {sender : CustomerProfile}
    {recipient : Option CustomerProfile} {Q : Unit → Session Db Notification → Prop}
    (hQ : ∀ ns, Q () { s with outside := s.outside ++ ns }) :
    Settles i (notifyRecipient userId amount currency sender recipient) s Q :=
  notifyRecipient_ends fun ns _ => hQ ns

lemma unused_of_refused_key (hfresh : i.Fresh db) {row : IdempotencyKey}
    (h : db.idempotencyKeys.insert row = none) (hid : row.id = i.uuid .keyCreate) :
    db.idempotencyKeys.findAlt (row.userId, row.key) ≠ none := by
  intro hunused
  obtain ⟨t, ht⟩ : ∃ t, db.idempotencyKeys.insert row = some t := by
    apply Table.exists_insert
    · intro k hk heq
      exact hfresh.key k hk (heq.trans hid)
    · rintro v hv k hk heq
      obtain rfl := Option.some.inj hv
      exact Table.findAlt_eq_none.mp hunused k hk heq
  cases h.symm.trans ht

lemma exists_transaction (hfresh : i.Fresh db) {x : Transaction}
    (hid : x.id = i.uuid .transactionCreate)
    (hkey : ∀ v, x.idempotencyKeyId = some v → v = i.uuid .keyCreate) :
    ∃ t, db.transactions.insert x = some t := by
  apply Table.exists_insert
  · intro y hy heq
    exact hfresh.transaction y hy (heq.trans hid)
  · intro v hv y hy heq
    obtain rfl := hkey v hv
    exact hfresh.reference y hy heq

lemma exists_debit (hfresh : i.Fresh db) {e : LedgerEntry} (hid : e.id = i.uuid .debitCreate) :
    ∃ t, db.ledgerEntries.insert e = some t := by
  apply Table.exists_insert
  · intro x hx heq
    exact hfresh.debit x hx (heq.trans hid)
  · rintro ⟨⟩

lemma exists_credit (hfresh : i.Fresh db) {debit credit : LedgerEntry} {entries : Table LedgerEntry}
    (hentries : db.ledgerEntries.insert debit = some entries)
    (hdebit : debit.id = i.uuid .debitCreate) (hid : credit.id = i.uuid .creditCreate) :
    ∃ t, entries.insert credit = some t := by
  apply Table.exists_insert
  · intro x hx heq
    rw [(Table.insert_eq_some.mp hentries).2.2] at hx
    rcases List.mem_append.mp hx with hx | hx
    · exact hfresh.credit x hx (heq.trans hid)
    · obtain rfl := List.mem_singleton.mp hx
      exact hfresh.apart (hdebit.symm.trans (heq.trans hid))
  · rintro ⟨⟩

lemma exists_audit (hfresh : i.Fresh db) {e : AuditEvent} (hid : e.id = i.uuid .auditCreate) :
    ∃ t, db.auditEvents.insert e = some t := by
  apply Table.exists_insert
  · intro x hx heq
    exact hfresh.audit x hx (heq.trans hid)
  · rintro ⟨⟩

lemma exists_notification (hfresh : i.Fresh db) {n : Notification} (hid : n.id = i.uuid .notify) :
    ∃ t, db.notifications.insert n = some t := by
  apply Table.exists_insert
  · intro x hx heq
    exact hfresh.notification x hx (heq.trans hid)
  · rintro ⟨⟩

lemma settles_debit {p : Account → Bool} {f : Patch Account} {source : Account}
    {Q : ℕ → Session Db Notification → Prop} (hi : i.Conflicts) (ha : s.aborted = false)
    (hmem : source ∈ s.db.accounts.rows) (hp : p source = true)
    (hid : ∀ a, p a = true → a.id = source.id)
    (hQ : Q 1 { s with db := { s.db with accounts := s.db.accounts.modifyAll p f } }) :
    Settles i (Tx.updateMany Db.account .sourceDebit p f) s Q := by
  have hcount : (s.db.accounts.rows.filter p).length = 1 :=
    Table.filter_length_of_unique hmem hp fun a ha hpa =>
      s.db.accounts.eq_of_key_eq ha hmem (hid a hpa)
  apply settles_updateMany hi (by simp) ha
  exact hcount ▸ hQ

lemma found_after_debit {p : Account → Bool} {f : Patch Account} {id : Uuid} {destination : Account}
    (hfound : db.accounts.find id = some destination) :
    ∃ a, (db.accounts.modifyAll p f).find id = some a := by
  obtain ⟨hmem, hid⟩ := Table.find_eq_some.mp hfound
  obtain ⟨a, ha, hkey, _⟩ := Table.mem_modifyAll hmem p f
  exact ⟨a, Table.find_eq_some.mpr ⟨ha, hkey.trans hid⟩⟩

def PostsAnswer (r : ServiceResult β) (s : Session Db Notification) : Prop :=
  s.aborted = false ∧ r.httpStatus = 201

lemma postTransfer_settles {userId : Uuid} {dto : CreateTransferDto} {key : String}
    {idemRow : IdempotencyKey} {keys : Table IdempotencyKey} {source destination : Account}
    (hi : i.Conflicts) (hfresh : i.Fresh db) (hkeys : db.idempotencyKeys.insert idemRow = some keys)
    (hrow : idemRow.id = i.uuid .keyCreate)
    (hsource : Usable db profileId dto.sourceAccountId source)
    (hfunds : dto.amount.value ≤ source.availableBalance)
    (hdestination : db.accounts.find destination.id = some destination) :
    Settles i (postTransfer userId profileId dto key "RON" idemRow source destination)
      { db := { db with idempotencyKeys := keys } } PostsAnswer := by
  unfold postTransfer
  apply settles_bind
  apply settles_debit hi rfl hsource.mem
    (decide_eq_true ⟨rfl, hsource.owned, hsource.active, hsource.currency, hfunds⟩) fun a ha =>
      (of_decide_eq_true ha).1
  rw [if_neg (by simp)]
  apply settles_bind
  apply settles_update hi (by simp) rfl (found_after_debit hdestination)
  intro _
  apply settles_bind
  apply settles_newDate
  intro now
  apply settles_bind
  apply settles_create hi (by simp) rfl (exists_transaction hfresh rfl fun v hv =>
    (Option.some.inj hv).symm.trans hrow)
  intro transactions _
  apply settles_bind
  apply settles_create hi (by simp) rfl (exists_debit hfresh rfl)
  intro entries hentries
  apply settles_bind
  apply settles_create hi (by simp) rfl
  · exact exists_credit hfresh hentries rfl rfl
  intro entries' _
  apply settles_bind
  apply settles_create hi (by simp) rfl (exists_audit hfresh rfl)
  intro auditEvents _
  apply settles_bind
  apply settles_notificationsCreate
  intro ns
  apply settles_bind
  apply settles_update hi (by simp) rfl ⟨idemRow, Table.find_inserted hkeys⟩
  intro _
  exact settles_pure ⟨rfl, rfl⟩

lemma postBeneficiaryTransfer_settles {userId : Uuid} {dto : TransferToBeneficiaryDto}
    {idemRow : IdempotencyKey} {keys : Table IdempotencyKey} {source destination : Account}
    {sender : CustomerProfile} {beneficiary : Beneficiary} {recipient : Option CustomerProfile}
    (hi : i.Conflicts) (hfresh : i.Fresh db) (hkeys : db.idempotencyKeys.insert idemRow = some keys)
    (hsource : source ∈ db.accounts.rows) (hfunds : dto.amount.value ≤ source.availableBalance)
    (hdestination : db.accounts.find destination.id = some destination) :
    Settles i (postBeneficiaryTransfer userId profileId dto "RON" idemRow source sender beneficiary
      destination recipient)
      { db := { db with idempotencyKeys := keys } } PostsAnswer := by
  unfold postBeneficiaryTransfer
  apply settles_bind
  apply settles_debit hi rfl hsource (decide_eq_true ⟨rfl, hfunds⟩) fun a ha =>
    (of_decide_eq_true ha).1
  rw [if_neg (by simp)]
  apply settles_bind
  apply settles_update hi (by simp) rfl (found_after_debit hdestination)
  intro _
  apply settles_bind
  apply settles_create hi (by simp) rfl (exists_transaction hfresh rfl fun v hv => by cases hv)
  intro transactions _
  apply settles_bind
  apply settles_create hi (by simp) rfl (exists_debit hfresh rfl)
  intro entries hentries
  apply settles_bind
  apply settles_create hi (by simp) rfl
  · exact exists_credit hfresh hentries rfl rfl
  intro entries' _
  apply settles_bind
  apply settles_newDate
  intro completedAt
  apply settles_bind
  apply settles_update hi (by simp) rfl ⟨idemRow, Table.find_inserted hkeys⟩
  intro _
  apply settles_bind
  apply settles_create hi (by simp) rfl (exists_audit hfresh rfl)
  intro auditEvents _
  apply settles_bind
  apply settles_notificationsCreate
  intro ns
  apply settles_bind
  apply settles_notifyRecipient
  intro ns'
  exact settles_pure ⟨rfl, rfl⟩

lemma postMerchantPayment_settles {userId : Uuid} {dto : PayMerchantDto} {idemRow : IdempotencyKey}
    {keys : Table IdempotencyKey} {source settlement : Account} {merchant : Merchant}
    (hi : i.Conflicts) (hfresh : i.Fresh db) (hkeys : db.idempotencyKeys.insert idemRow = some keys)
    (hrow : idemRow.id = i.uuid .keyCreate)
    (hsource : Usable db profileId dto.sourceAccountId source) (hsystem : source.isSystem = false)
    (hfunds : dto.amount.value ≤ source.availableBalance)
    (hsettlement : db.accounts.find merchant.settlementAccountId = some settlement) :
    Settles i (postMerchantPayment userId profileId dto "RON" idemRow source merchant)
      { db := { db with idempotencyKeys := keys } } PostsAnswer := by
  unfold postMerchantPayment
  apply settles_bind
  apply settles_debit hi rfl hsource.mem
    (decide_eq_true ⟨rfl, hsource.owned, hsource.active, hsource.currency, hsystem, hfunds⟩)
    fun a ha => (of_decide_eq_true ha).1
  rw [if_neg (by simp)]
  apply settles_bind
  apply settles_update hi (by simp) rfl (found_after_debit hsettlement)
  intro _
  apply settles_bind
  apply settles_newDate
  intro now
  apply settles_bind
  apply settles_create hi (by simp) rfl (exists_transaction hfresh rfl fun v hv =>
    (Option.some.inj hv).symm.trans hrow)
  intro transactions _
  apply settles_bind
  apply settles_create hi (by simp) rfl (exists_debit hfresh rfl)
  intro entries hentries
  apply settles_bind
  apply settles_create hi (by simp) rfl
  · exact exists_credit hfresh hentries rfl rfl
  intro entries' _
  apply settles_bind
  apply settles_update hi (by simp) rfl ⟨idemRow, Table.find_inserted hkeys⟩
  intro _
  apply settles_bind
  apply settles_create hi (by simp) rfl (exists_audit hfresh rfl)
  intro auditEvents _
  apply settles_bind
  apply settles_create hi (by simp) rfl (exists_notification hfresh rfl)
  intro notifications _
  exact settles_pure ⟨rfl, rfl⟩

lemma settles_findKey {userId : Uuid} {key : String} {f : Option IdempotencyKey → Tx α}
    (hi : i.Conflicts)
    (hQ : i.fault .keyFind = none →
      Settles i (f (db.idempotencyKeys.findAlt (userId, key))) { db } Q) :
    Settles i (findKey userId key .keyFind >>= f) { db } Q := by
  unfold findKey
  apply settles_bind
  cases hf : i.fault .keyFind with
  | none => exact settles_read hi (by simp) rfl (hQ hf)
  | some e =>
    apply ends_fault rfl hf
    obtain rfl : e = .serializationFailure := by simpa using hi.statement _ e hf
    exact ⟨rfl, .inl ⟨_, hf⟩⟩

lemma settles_createKey {userId : Uuid} {key scope requestHash : String}
    {Q : IdempotencyKey → Session Db Notification → Prop} (hi : i.Conflicts) (hfresh : i.Fresh db)
    (hnot : i.fault .keyCreate ≠ some .uniqueViolation)
    (hunused : db.idempotencyKeys.findAlt (userId, key) = none)
    (hQ : ∀ row t, row.id = i.uuid .keyCreate → db.idempotencyKeys.insert row = some t →
      Q row { db := { db with idempotencyKeys := t } }) :
    Settles i (createKey userId key scope requestHash) { db } Q := by
  unfold createKey
  apply Tx.ends_statement rfl
  · rintro e (hf | ⟨_, he⟩)
    · obtain rfl : e = .serializationFailure := by
        rcases hi.statement _ e hf with he | ⟨_, rfl⟩
        · exact he
        · exact absurd hf hnot
      exact ⟨rfl, .inl ⟨_, hf⟩⟩
    · unfold Db.create at he
      split at he
      · cases he
      · rename_i hnone
        exact absurd hunused (unused_of_refused_key hfresh hnone rfl)
  · intro row d h
    obtain ⟨rfl, t, ht, rfl⟩ := Db.create_eq_ok h
    exact hQ _ t rfl ht

lemma settles_reserveTransferKey {userId : Uuid} {key requestHash : String}
    {Q : ServiceResult TransferSuccessResponse ⊕ IdempotencyKey → Session Db Notification → Prop}
    (hi : i.Conflicts) (hfresh : i.Fresh db) (hnot : i.fault .keyCreate ≠ some .uniqueViolation)
    (hunused : db.idempotencyKeys.findAlt (userId, key) = none)
    (hQ : ∀ row t, row.id = i.uuid .keyCreate → db.idempotencyKeys.insert row = some t →
      Q (.inr row) { db := { db with idempotencyKeys := t } }) :
    Settles i (reserveTransferKey userId key requestHash) { db } Q := by
  unfold reserveTransferKey
  apply ends_tryCatch
  have hcreate : Settles i (createKey userId key transferScope requestHash) { db }
      (fun row s => Q (.inr row) s) := settles_createKey hi hfresh hnot hunused hQ
  apply ends_bind
  apply ends_mono hcreate
  · exact fun row s h => h
  · rintro _ s ⟨rfl, hserialized⟩
    exact ends_throw ⟨rfl, hserialized⟩

lemma exists_findFirst {p : Account → Bool} (choice : ℕ) (h : ∃ a ∈ db.accounts.rows, p a = true) :
    ∃ a, db.accounts.findFirst p choice = some a := by
  obtain ⟨a, ha, hp⟩ := h
  apply Option.ne_none_iff_exists'.mp
  intro hnone
  have hfalse := Table.findFirst_eq_none hnone ha
  rw [hp] at hfalse
  cases hfalse

lemma Payable.profile {source destination : Account} (h : Payable db payment source destination)
    (hprofile : ∃ p ∈ db.customerProfiles.rows, p.userId = payment.userId ∧ p.id = profileId) :
    source.customerId = profileId := by
  obtain ⟨p, hp, hpuser, rfl⟩ := hprofile
  obtain ⟨q, hq, hquser, hqid⟩ := h.owner
  obtain rfl : p = q := db.customerProfiles.eq_of_alt_eq hp hq (congrArg some hpuser)
    (congrArg some hquser)
  exact hqid.symm

lemma Payable.usable {source destination : Account} (h : Payable db payment source destination)
    (hcustomer : source.customerId = profileId) :
    Usable db profileId payment.request.sourceAccountId source :=
  ⟨(Table.find_eq_some.mp h.source_found).1, h.source_named, hcustomer, h.source_active,
    h.source_currency⟩

lemma executeTransferTx_settles {userId : Uuid} {dto : CreateTransferDto} {key requestHash : String}
    (hi : i.Conflicts) (hfresh : i.Fresh db)
    (hnot : ¬ i.KeyRefused ⟨userId, .internalTransfer dto, key⟩ db)
    (h : db.Postable ⟨userId, .internalTransfer dto, key⟩) :
    Settles i (executeTransferTx userId dto key "RON" requestHash) { db } PostsAnswer := by
  obtain ⟨⟨source, destination, payable⟩, _⟩ := h
  obtain ⟨profile, hprofile, huser, hid⟩ := payable.owner
  obtain ⟨hnamed, howned⟩ := payable.counterparty
  have hsource := payable.usable rfl
  have hdestination := (Table.find_eq_some.mp payable.destination_found).1
  unfold executeTransferTx
  apply settles_findKey hi
  intro hlookup
  rw [payable.key_unused]
  apply settles_bind
  apply settles_reserveTransferKey hi hfresh
    (fun hrefused => hnot ⟨hlookup, payable.key_unused, hrefused⟩)
    payable.key_unused
  intro idemRow keys hrow hkeys
  apply settles_bind
  apply settles_read hi (by simp) rfl
  rw [show db.customerProfiles.findAlt userId = some profile from
    Table.findAlt_eq_some.mpr ⟨hprofile, congrArg some huser⟩]
  apply settles_bind
  apply settles_read hi (by simp) rfl
  apply settles_bind
  apply settles_read hi (by simp) rfl
  dsimp only
  rw [findFirst_spelled hsource.mem hsource.named
    (decide_eq_true ⟨hsource.named, hid ▸ rfl, hsource.active⟩)
      fun x hx => (of_decide_eq_true hx).1,
    findFirst_spelled hdestination hnamed
      (decide_eq_true ⟨hnamed, howned.trans hid.symm, payable.destination_active⟩)
      fun x hx => (of_decide_eq_true hx).1]
  dsimp only
  rw [if_neg (by simp [hsource.currency, payable.destination_currency])]
  exact postTransfer_settles hi hfresh hkeys hrow
    (hid ▸ hsource) payable.funds payable.destination_found

lemma settles_readWith_none {ρ τ : Type} {l : Statement} {f : ℕ → Db → Option ρ}
    {join : Db → ρ → Option τ} {Q : Option (ρ × τ) → Session Db Notification → Prop}
    (hi : i.Conflicts) (hl : l ≠ .keyCreate) (ha : s.aborted = false)
    (hf : f (i.choice l) s.db = none) (hQ : Q none s) :
    Settles i (Tx.readWith l f join) s Q := by
  apply settles_statement hi hl ha _ hQ
  simp only [hf]

lemma settles_resolveDestination {beneficiary : Beneficiary} {source : Account}
    {sourceAccountId : String}
    {Q : Account × Option CustomerProfile → Session Db Notification → Prop} (hi : i.Conflicts)
    (ha : s.aborted = false) (hnamed : source.id.spelledBy sourceAccountId = true)
    (hcustomer : source.isSystem = false) (hsource : source ∈ s.db.accounts.rows)
    (hinternal : ∀ a ∈ s.db.accounts.rows, a.iban = beneficiary.iban → a.Visible →
      s.db.customerOf a ≠ none ∧ a.id.spelledBy sourceAccountId = false)
    (hexternal : (∀ a ∈ s.db.accounts.rows, a.iban = beneficiary.iban → ¬ a.Visible) →
      ∃ a ∈ s.db.accounts.rows,
      a.accountType = "EXTERNAL_SETTLEMENT" ∧ a.isSystem = true ∧ a.status = .active ∧
        a.currency = "RON")
    (hQ : ∀ destination recipient, s.db.accounts.find destination.id = some destination →
      source.id ≠ destination.id → Q (destination, recipient) s) :
    Settles i (resolveDestination beneficiary "RON") s Q := by
  unfold resolveDestination
  apply settles_bind
  by_cases hvisible : ∃ a ∈ s.db.accounts.rows, a.iban = beneficiary.iban ∧ a.Visible
  · obtain ⟨a, hmem, hiban, hv⟩ := hvisible
    obtain ⟨hcustomerOf, hother⟩ := hinternal a hmem hiban hv
    obtain ⟨customer, hc⟩ := Option.ne_none_iff_exists'.mp hcustomerOf
    have hfound : s.db.accounts.findFirst (fun a => a.iban = beneficiary.iban ∧ a.status = .active ∧
        a.currency = "RON" ∧ a.isSystem = false) (i.choice .internalFind) = some a := by
      apply Table.findFirst_of_unique hmem (decide_eq_true ⟨hiban, hv⟩)
      intro x hx hp
      exact s.db.accounts.eq_of_alt_eq hx hmem (congrArg some (of_decide_eq_true hp).1)
        (congrArg some hiban)
    apply settles_readWith hi (by simp) ha hfound hc
    apply settles_pure
    apply hQ a _ (Table.find_eq_some.mpr ⟨hmem, rfl⟩)
    intro heq
    rw [← heq, hnamed] at hother
    cases hother
  · have hnone : s.db.accounts.findFirst (fun a => a.iban = beneficiary.iban ∧ a.status = .active ∧
        a.currency = "RON" ∧ a.isSystem = false) (i.choice .internalFind) = none := by
      apply Option.eq_none_iff_forall_ne_some.mpr
      intro a ha
      obtain ⟨hmem, hp⟩ := Table.findFirst_eq_some ha
      obtain ⟨hiban, hv⟩ := of_decide_eq_true hp
      exact hvisible ⟨a, hmem, hiban, hv⟩
    apply settles_readWith_none hi (by simp) ha hnone
    apply settles_bind
    apply settles_read hi (by simp) ha
    obtain ⟨a, hmem, hp⟩ := hexternal fun a hmem hiban hv => hvisible ⟨a, hmem, hiban, hv⟩
    obtain ⟨account, haccount⟩ :
        ∃ a, s.db.accounts.findFirst (fun a => a.accountType = "EXTERNAL_SETTLEMENT" ∧
        a.isSystem = true ∧ a.status = .active ∧ a.currency = "RON")
          (i.choice .externalFind) = some a :=
      exists_findFirst (i.choice .externalFind) ⟨a, hmem, decide_eq_true hp⟩
    rw [haccount]
    apply settles_pure
    obtain ⟨hmem', hp'⟩ := Table.findFirst_eq_some haccount
    apply hQ account none (Table.find_eq_some.mpr ⟨hmem', rfl⟩)
    intro heq
    obtain rfl := s.db.accounts.eq_of_key_eq hsource hmem' heq
    rw [(of_decide_eq_true hp').2.1] at hcustomer
    cases hcustomer

lemma executeBeneficiaryTransferTx_settles {userId : Uuid} {dto : TransferToBeneficiaryDto}
    {key requestHash : String} (hi : i.Conflicts) (hfresh : i.Fresh db)
    (hnot : ¬ i.KeyRefused ⟨userId, .beneficiaryTransfer dto, key⟩ db)
    (hprofile : ∃ p ∈ db.customerProfiles.rows, p.userId = userId ∧ p.id = profileId)
    (h : db.Postable ⟨userId, .beneficiaryTransfer dto, key⟩) :
    Settles i (executeBeneficiaryTransferTx userId profileId dto key "RON" requestHash)
      { db } PostsAnswer := by
  obtain ⟨⟨source, destination, payable⟩, hopen⟩ := h
  obtain ⟨hsystem, _, b, hbm, hbn, hbo⟩ := payable.counterparty
  have hcustomer : source.customerId = profileId := payable.profile hprofile
  have hsource := payable.usable hcustomer
  have hfunds : dto.amount.value ≤ source.availableBalance := payable.funds
  obtain ⟨hbactive, hinternal, hexternal⟩ := hopen b hbm hbn
  obtain ⟨profile, hpm, hpuser, hpid⟩ := payable.owner
  have hsender : db.customerOf source = some profile := Table.find_eq_some.mpr ⟨hpm, hpid⟩
  unfold executeBeneficiaryTransferTx
  apply settles_findKey hi
  intro hlookup
  rw [payable.key_unused]
  apply settles_bind
  apply settles_createKey hi hfresh (fun hrefused => hnot ⟨hlookup, payable.key_unused, hrefused⟩)
    payable.key_unused
  intro idemRow keys hrow hkeys
  apply settles_bind
  apply settles_readWith hi (by simp) rfl
    (findFirst_spelled hsource.mem hsource.named
      (decide_eq_true ⟨hsource.named, hcustomer, hsource.active, hsource.currency, hsystem⟩)
      fun x hx => (of_decide_eq_true hx).1) hsender
  dsimp only
  rw [if_neg (not_lt.mpr hfunds)]
  apply settles_bind
  apply settles_read hi (by simp) rfl
  have hfound : db.beneficiaries.findFirst
      (fun b => b.id.spelledBy dto.beneficiaryId ∧ b.customerId = profileId ∧
      b.status = .active) (i.choice .beneficiaryFind) = some b :=
    findFirst_spelled hbm hbn (decide_eq_true ⟨hbn, hbo.trans hcustomer, hbactive⟩)
      fun x hx => (of_decide_eq_true hx).1
  rw [hfound]
  apply settles_bind
  apply settles_resolveDestination hi rfl hsource.named hsystem hsource.mem hinternal hexternal
  intro destination recipient hdestination hne
  dsimp only
  rw [if_neg hne]
  exact postBeneficiaryTransfer_settles hi hfresh hkeys hsource.mem hfunds hdestination

lemma executeMerchantPaymentTx_settles {userId : Uuid} {dto : PayMerchantDto}
    {key requestHash : String} (hi : i.Conflicts) (hfresh : i.Fresh db)
    (hnot : ¬ i.KeyRefused ⟨userId, .merchantPayment dto, key⟩ db)
    (hprofile : ∃ p ∈ db.customerProfiles.rows, p.userId = userId ∧ p.id = profileId)
    (h : db.Postable ⟨userId, .merchantPayment dto, key⟩) :
    Settles i (executeMerchantPaymentTx userId profileId dto key "RON" requestHash)
      { db } PostsAnswer := by
  obtain ⟨⟨source, destination, payable⟩, hopen⟩ := h
  obtain ⟨hsystem, m, hmm, hmn, hsettles⟩ := payable.counterparty
  have hcustomer : source.customerId = profileId := payable.profile hprofile
  have hsource := payable.usable hcustomer
  have hsettlement : db.accounts.find m.settlementAccountId = some destination :=
    hsettles ▸ payable.destination_found
  unfold executeMerchantPaymentTx
  apply settles_findKey hi
  intro hlookup
  rw [payable.key_unused]
  apply settles_bind
  apply settles_createKey hi hfresh (fun hrefused => hnot ⟨hlookup, payable.key_unused, hrefused⟩)
    payable.key_unused
  intro idemRow keys hrow hkeys
  apply settles_bind
  apply settles_read hi (by simp) rfl
  have hfound : findSpendable dto.sourceAccountId profileId "RON" (i.choice .sourceFind) db =
      some source :=
    findFirst_spelled hsource.mem hsource.named
      (decide_eq_true ⟨hsource.named, hcustomer, hsource.active, hsource.currency, hsystem⟩)
      fun x hx => (of_decide_eq_true hx).1
  have hsame : findSpendable dto.sourceAccountId profileId "RON" (i.choice .sourceFind)
      { db with idempotencyKeys := keys } = some source := hfound
  rw [hsame]
  apply settles_bind
  have hmerchant : db.merchants.findFirst
      (fun m => m.id.spelledBy dto.merchantId ∧ m.status = .active)
      (i.choice .merchantFind) = some m :=
    findFirst_spelled hmm hmn (decide_eq_true ⟨hmn, hopen m hmm hmn⟩) fun x hx =>
      (of_decide_eq_true hx).1
  apply settles_readWith hi (by simp) rfl hmerchant hsettlement
  dsimp only
  rw [if_neg (not_not.mpr payable.destination_active),
    if_neg (not_not.mpr payable.destination_currency)]
  exact postMerchantPayment_settles hi hfresh hkeys hrow hsource hsystem payable.funds hsettlement

lemma settles_answer {wrap : β → PaymentBody} {answer : PaymentBody}
    {f : Option IdempotencyKey → Tx (ServiceResult β)} (hi : i.Conflicts)
    (h : db.Answers sha256 payment answer)
    (hf : ∀ row, row.Stores payment (payment.request.hash sha256) answer →
      Settles i (f (some row)) { db } fun r s => s.aborted = false ∧ r.map wrap = ⟨200, answer⟩) :
    Settles i (findKey payment.userId payment.key .keyFind >>= f) { db }
      fun r s => s.aborted = false ∧ r.map wrap = ⟨200, answer⟩ := by
  obtain ⟨row, hfound, stores⟩ := h
  apply settles_findKey hi
  intro _
  rw [hfound]
  exact hf row stores

lemma replayKey_answers {wrap : β → PaymentBody} {answer : PaymentBody}
    {parse : Option Json → Option β} {row : IdempotencyKey} {requestHash : String}
    (stores : row.Stores payment requestHash answer)
    (hparse : (parse (some answer.toJson)).map wrap = some answer) :
    Settles i (replayKey row requestHash parse) { db } fun r s =>
      s.aborted = false ∧ r.map wrap = ⟨200, answer⟩ := by
  obtain ⟨parsed, hparsed, rfl⟩ := Option.map_eq_some_iff.mp hparse
  simp only [replayKey, stores.requestHash, ne_eq, not_true_eq_false, ↓reduceIte, stores.completed,
    stores.responsePayload, hparsed]
  exact settles_pure ⟨rfl, rfl⟩

lemma replayCompletedTransfer_answers {answer : PaymentBody} {row : IdempotencyKey}
    {requestHash : String} (stores : row.Stores payment requestHash answer)
    (hparse : (parseCompletedPayload (some answer.toJson)).map PaymentBody.transfer = some answer) :
    Settles i (replayCompletedTransfer row requestHash) { db }
      fun r s => s.aborted = false ∧ r.map .transfer = ⟨200, answer⟩ := by
  obtain ⟨parsed, hparsed, rfl⟩ := Option.map_eq_some_iff.mp hparse
  simp only [replayCompletedTransfer, hashDiffers, stores.requestHash,
    stores.responsePayload, hparsed]
  simp only [ne_eq, not_true_eq_false, decide_false, Bool.and_false, Bool.false_eq_true, ↓reduceIte]
  exact settles_pure ⟨rfl, rfl⟩

def Db.Answerable (sha256 : String → String) (payment : Payment) (answer : PaymentBody)
    (db : Db) : Prop :=
  db.Answers sha256 payment answer ∧
    parsePayload payment.request.type (some answer.toJson) = some answer ∨
    db.Postable payment

theorem callback_settles {callback : Tx (ServiceResult β)} {body : β → PaymentBody}
    {answer : PaymentBody} (hcallback : PaymentCallback sha256 payment profileId callback body)
    (hi : i.Conflicts) (hfresh : i.Fresh db) (hnot : ¬ i.KeyRefused payment db)
    (hprofile : ∃ p ∈ db.customerProfiles.rows, p.userId = payment.userId ∧ p.id = profileId)
    (h : db.Answerable sha256 payment answer) :
    Settles i callback { db } fun r s => s.aborted = false ∧
      (r.map body = ⟨200, answer⟩ ∨ (r.map body).httpStatus = 201) := by
  rcases h with ⟨hanswers, hreadable⟩ | hpostable
  · have hanswer : Settles i callback { db } fun r s =>
        s.aborted = false ∧ r.map body = ⟨200, answer⟩ := by
      obtain ⟨userId, request, key⟩ := payment
      cases hcallback with
      | transfer dto currency ron hrequest =>
        subst hrequest
        apply settles_answer hi hanswers
        intro row stores
        dsimp only
        rw [if_pos stores.completed]
        exact replayCompletedTransfer_answers stores hreadable
      | beneficiary dto currency ron hrequest =>
        subst hrequest
        exact settles_answer hi hanswers fun row stores => replayKey_answers stores hreadable
      | merchant dto currency ron hrequest =>
        subst hrequest
        exact settles_answer hi hanswers fun row stores => replayKey_answers stores hreadable
    exact ends_mono hanswer (fun r s hr => ⟨hr.1, .inl hr.2⟩) fun _ _ he => he
  · have hposts : Settles i callback { db } PostsAnswer := by
      obtain ⟨userId, request, key⟩ := payment
      cases hcallback with
      | transfer dto currency ron hrequest =>
        subst ron hrequest
        exact executeTransferTx_settles hi hfresh hnot hpostable
      | beneficiary dto currency ron hrequest =>
        subst ron hrequest
        exact executeBeneficiaryTransferTx_settles hi hfresh hnot hprofile hpostable
      | merchant dto currency ron hrequest =>
        subst ron hrequest
        exact executeMerchantPaymentTx_settles hi hfresh hnot hprofile hpostable
    exact ends_mono hposts (fun r s hr => ⟨hr.1, .inr hr.2⟩) fun _ _ he => he

end Attempts

end OnlineBanking
