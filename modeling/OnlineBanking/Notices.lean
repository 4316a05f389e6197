import OnlineBanking.Reconciliation

set_option autoImplicit false

/-! What users are told of posted money, and the transactions they are told of. Notices are written
through the root client from within a transaction, so they outlive an attempt that fails. -/

namespace OnlineBanking

open Library

def Transaction.announced (db : Db) (x : Transaction) : List (Uuid × String) :=
  match x.customerId.bind db.customerProfiles.find, x.toAccountId.bind db.accounts.find with
  | some customer, some destination => announcements db customer.userId destination x.type
  | _, _ => []

def Db.announcedCount (db : Db) (userId : Uuid) (type : String) : ℕ :=
  db.transactions.rows.countP fun x => (userId, type) ∈ x.announced db

/-- No user has more notices of money than there are transactions for them to be told of. -/
def Db.Truthful (db : Db) : Prop :=
  ∀ userId, ∀ type ∈ moneyNotices, db.noticeCount userId type ≤ db.announcedCount userId type

/-- No attempt of the acting thread that can get as far as an announcement fails after it. -/
structure AnnouncesForGood (b : Bank) (a : Action) : Prop where
  payment : ∀ t i c program payment source destination, a = .act t i →
    b.threads t = some (c, program) →
    Due t b.shared c payment → Payable b.db payment source destination →
      LateFailure i payment.request →
      delivered i (announcements b.db payment.userId destination payment.request.type) = []
  credit : ∀ t i adminUserId accountId dto program source target, a = .act t i →
    b.threads t = some (.creditAccount adminUserId accountId dto, program) →
    Creditable b.db accountId source target → i.commitFault ≠ none →
      delivered i (creditAnnouncements b.db target) = []

lemma announcements_nodup (db : Db) (userId : Uuid) (destination : Account)
    (type : TransactionType) :
    (announcements db userId destination type).Nodup := by
  cases type <;> simp only [announcements, List.nodup_nil, List.nodup_singleton]
  split
  · split <;> simp
  · simp

lemma Transaction.announced_nodup (x : Transaction) (db : Db) : (x.announced db).Nodup := by
  unfold Transaction.announced
  split
  · exact announcements_nodup _ _ _ _
  · exact List.nodup_nil

section Growth

variable {db db' : Db}

structure Knows (db db' : Db) : Prop where
  profiles : ∀ id p, db.customerProfiles.find id = some p →
    ∃ p', db'.customerProfiles.find id = some p' ∧ p'.userId = p.userId
  accounts : ∀ id a, db.accounts.find id = some a → ∃ a', db'.accounts.find id = some a' ∧
    a'.customerId = a.customerId ∧ a'.isSystem = a.isSystem

lemma Knows.announcements_sublist (h : Knows db db') {userId : Uuid} {a a' : Account}
    (hcustomer : a'.customerId = a.customerId) (hsystem : a'.isSystem = a.isSystem)
    (type : TransactionType) :
    (announcements db userId a type).Sublist (announcements db' userId a' type) := by
  cases type with
  | beneficiaryTransfer =>
    refine List.Sublist.cons_cons _ ?_
    cases hc : db.customerOf a with
    | none => exact List.nil_sublist _
    | some c =>
      obtain ⟨c', hc', huser⟩ := h.profiles _ _ hc
      have hjoin : db'.customerOf a' = some c' := by rw [Db.customerOf, hcustomer, hc']
      simp [hjoin, hsystem, huser]
  | _ => exact List.Sublist.refl _

lemma Knows.announced_sublist (h : Knows db db') (x : Transaction) :
    (x.announced db).Sublist (x.announced db') := by
  unfold Transaction.announced
  cases hp : x.customerId.bind db.customerProfiles.find with
  | none => exact List.nil_sublist _
  | some p =>
    cases ha : x.toAccountId.bind db.accounts.find with
    | none => exact List.nil_sublist _
    | some a =>
      obtain ⟨customerId, hcustomerId, hp⟩ := Option.bind_eq_some_iff.mp hp
      obtain ⟨accountId, haccountId, ha⟩ := Option.bind_eq_some_iff.mp ha
      obtain ⟨p', hp', huser⟩ := h.profiles _ _ hp
      obtain ⟨a', ha', hcustomer, hsystem⟩ := h.accounts _ _ ha
      simp only [hcustomerId, haccountId, Option.bind_some, hp', ha', huser]
      exact h.announcements_sublist hcustomer hsystem x.type

lemma Knows.announcedCount_le (h : Knows db db') {added : List Transaction}
    (hrows : db'.transactions.rows = db.transactions.rows ++ added) (userId : Uuid)
    (type : String) :
    db.announcedCount userId type + added.countP (fun x => (userId, type) ∈ x.announced db) ≤
      db'.announcedCount userId type := by
  rw [Db.announcedCount, Db.announcedCount, hrows, List.countP_append]
  have hmono : ∀ xs : List Transaction, xs.countP (fun x => (userId, type) ∈ x.announced db) ≤
      xs.countP (fun x => (userId, type) ∈ x.announced db') := fun xs =>
    List.countP_mono_left fun x _ hx =>
      decide_eq_true ((h.announced_sublist x).subset (of_decide_eq_true hx))
  exact Nat.add_le_add (hmono _) (hmono _)

lemma Db.Kept.knows (h : db.Kept db') : Knows db db' := by
  constructor
  · intro id p hp
    obtain ⟨hm, rfl⟩ := Table.find_eq_some.mp hp
    obtain ⟨p', hm', hid, huser⟩ := h.profiles p hm
    exact ⟨p', Table.find_eq_some.mpr ⟨hm', hid⟩, huser⟩
  · intro id a ha
    rcases h.find id with hsame | ⟨hnone, _⟩
    · exact ⟨a, hsame.trans ha, rfl, rfl⟩
    · simp [hnone] at ha

lemma Posting.Applied.knows {p : Posting} (h : p.Applied db db') : Knows db db' :=
  ⟨fun _ q hq => ⟨q, h.customerProfiles ▸ hq, rfl⟩, fun id _ ha =>
    ⟨_, (h.find id).trans (congrArg (Option.map _) ha), rfl, rfl⟩⟩

lemma Db.Truthful.kept (h : db.Truthful) (hkept : db.Kept db') : db'.Truthful := by
  intro userId type htype
  have hrows : db'.transactions.rows = db.transactions.rows ++ [] := by simp [hkept.transactions]
  calc db'.noticeCount userId type = db.noticeCount userId type := hkept.notices userId type htype
    _ ≤ db.announcedCount userId type := h userId type htype
    _ ≤ db'.announcedCount userId type := hkept.knows.announcedCount_le hrows userId type

end Growth

section Steps

variable {sha256 : String → String} {t : ℕ} {c : Call} {i : Inputs} {s s' : State} {db db' : Db}

lemma Posting.Applied.truthful {p : Posting} (applied : p.Applied db db') {ns : List Notification}
    (hnotice : ∀ n ∈ p.notice, n.type ∉ moneyNotices)
    (hns : (addressed ns).Sublist (p.transaction.announced db)) (h : db.Truthful) :
    (db'.addNotifications ns).Truthful := by
  intro userId type htype
  obtain ⟨table, htable, kept, hrows, hkept⟩ := db'.addNotifications_eq ns
  have hknows : Knows db (db'.addNotifications ns) := by
    rw [htable]
    exact ⟨applied.knows.profiles, applied.knows.accounts⟩
  have hinside : (addressed p.notice.toList).count (userId, type) = 0 := by
    refine List.count_eq_zero.mpr fun hm => ?_
    obtain ⟨n, hn, heq⟩ := List.mem_map.mp hm
    exact hnotice n (Option.mem_toList.mp hn) ((Prod.mk.injEq .. ▸ heq).2 ▸ htype)
  have hold : db'.noticeCount userId type = db.noticeCount userId type := by
    rw [Db.noticeCount, applied.notifications, addressed_append, List.count_append, hinside]
    rfl
  have hnew : (p.transaction.announced db).count (userId, type) ≤
      [p.transaction].countP fun x => (userId, type) ∈ x.announced db := by
    by_cases hm : (userId, type) ∈ p.transaction.announced db
    · simpa [hm] using List.nodup_iff_count_le_one.mp (p.transaction.announced_nodup db) _
    · simp [List.count_eq_zero.mpr hm]
  calc (db'.addNotifications ns).noticeCount userId type
      ≤ db'.noticeCount userId type + (p.transaction.announced db).count (userId, type) :=
        Db.noticeCount_le (by rw [htable]; exact hrows) ((hkept.map _).trans hns) userId type
    _ ≤ db.announcedCount userId type + [p.transaction].countP fun x =>
      (userId, type) ∈ x.announced db :=
      Nat.add_le_add (hold ▸ h userId type htype) hnew
    _ ≤ (db'.addNotifications ns).announcedCount userId type :=
      hknows.announcedCount_le (by simp [applied.transactions]) userId type

lemma Posting.Pays.announced {p : Posting} {payment : Payment} {requestHash : String}
    {result : ServiceResult PaymentBody} (h : p.Pays db payment requestHash result) :
    p.transaction.announced db =
      announcements db payment.userId p.destination payment.request.type := by
  obtain ⟨profile, hm, huser, hid⟩ := h.payable.owner
  have hfound : db.customerProfiles.find p.source.customerId = some profile :=
    Table.find_eq_some.mpr ⟨hm, hid⟩
  simp [Transaction.announced, h.customer, p.to_destination, hfound,
    h.payable.destination_found, huser,
    h.type]

lemma Posting.Credits.announced {p : Posting} {accountId : Uuid} {dto : AdminCreditDto}
    (h : p.Credits db accountId dto) (applied : p.Applied db db') :
    p.transaction.announced db = creditAnnouncements db p.destination := by
  simp only [Transaction.announced, creditAnnouncements, h.customer, p.to_destination, h.type,
    Option.bind_some, applied.destination_found, Db.customerOf]
  cases db.customerProfiles.find p.destination.customerId <;> simp

lemma Db.addNotifications_of_nil {ns : List Notification} {sent : List (Uuid × String)}
    (hns : (addressed ns).Sublist sent) (hsent : sent = []) (db : Db) :
    db.addNotifications ns = db := by
  obtain rfl : ns = [] := List.map_eq_nil_iff.mp (List.sublist_nil.mp (hsent ▸ hns))
  rfl

lemma Effect.truthful (h : Effect sha256 t c i s s')
    (hpayment : ∀ payment source destination, Due t s c payment →
      Payable s.world.db payment source destination → LateFailure i payment.request →
      delivered i (announcements s.world.db payment.userId destination payment.request.type) = [])
    (hcredit : ∀ adminUserId accountId dto source target,
      c = .creditAccount adminUserId accountId dto →
      Creditable s.world.db accountId source target → i.commitFault ≠ none →
      delivered i (creditAnnouncements s.world.db target) = [])
    (htruthful : s.world.db.Truthful) : s'.world.db.Truthful := by
  cases h with
  | idle same => rwa [same]
  | challengeStored _ _ _ _ _ world _ => rwa [world]
  | challengeRead _ _ _ _ _ _ _ world _ => rwa [world]
  | challengeDeleted _ _ _ _ world _ => rwa [world]
  | replayed _ _ _ _ _ _ _ _ _ _ world _ => rwa [world]
  | posted payment result p db ns due first applied pays notices world trace =>
    rw [world]
    refine applied.truthful (fun n hn => ?_) (pays.announced ▸ notices) htruthful
    simp [pays.notice n hn, moneyNotices]
  | withdrawn payment source destination ns due payable late notices world trace =>
    rw [world]
    rwa [Db.addNotifications_of_nil notices (hpayment payment source destination due payable late)]
  | credited adminUserId accountId dto p db ns call applied credits notices world trace =>
    rw [world]
    refine applied.truthful ?_ (credits.announced applied ▸ notices) htruthful
    simp [credits.noticeless]
  | creditWithdrawn adminUserId accountId dto source target ns call creditable late notices
    world trace =>
    rw [world]
    rwa [Db.addNotifications_of_nil notices
      (hcredit adminUserId accountId dto source target call creditable late)]
  | kept db call frame world trace =>
    rw [world]
    exact htruthful.kept frame

end Steps

/-- In a run in which no attempt fails after it has announced itself, no user has more notices of
money than there are transactions for them to be told of. -/
theorem notices_truthful {sha256 : String → String} {w : World} {schedule : List Action} {b : Bank}
    (hstart : w.db.Truthful)
    (hm : Config.Meets (handle sha256) environment AnnouncesForGood (Bank.start w) schedule)
    (h : Bank.run sha256 (Bank.start w) schedule = some b) : b.db.Truthful := by
  let D := discipline sha256
  refine (D.shared_invariant (P := fun s : State => s.world.db.Truthful) ?_ ?_ (D.init_holds w)
    hstart hm h).2
  · intro d t i c program s' _ ht hcond htruthful heffect
    refine Effect.truthful heffect ?_ ?_ htruthful
    · exact fun payment source destination =>
        hcond.payment t i c program payment source destination rfl ht
    · rintro adminUserId accountId dto source target rfl
      exact hcond.credit t i adminUserId accountId dto program source target rfl ht
  · exact fun e s htruthful => htruthful.kept (environment_kept e s.world)

lemma demoWorld_truthful : demoWorld.db.Truthful := by
  have hempty : demoWorld.db.notifications.rows.length = 0 := by decide +kernel
  simp [Db.Truthful, Db.noticeCount, addressed, List.eq_nil_of_length_eq_zero hempty]

lemma demoSchedule_announcesForGood :
    Config.Meets (handle demoSha256) environment AnnouncesForGood
      (Bank.start demoWorld) demoSchedule := by
  refine Discipline.meets_of_runs fun ms l b hprefix _ => ?_
  have hm : l ∈ demoSchedule := hprefix.subset (List.mem_append_right _ (List.mem_singleton_self l))
  have hfaultless : ∀ t i, l = .act t i → i.commitFault = none ∧ i.fault .keyComplete = none := by
    rintro t i rfl
    simp only [demoSchedule, List.mem_cons, reduceCtorEq, Label.act.injEq,
      List.not_mem_nil, false_or,
      or_false] at hm
    rcases hm with ⟨_, rfl⟩ | ⟨_, rfl⟩ <;> exact ⟨rfl, rfl⟩
  constructor
  · rintro t i c program payment source destination hl _ _ _ (hlate | ⟨_, hlate⟩)
    · exact absurd (hfaultless t i hl).1 hlate
    · exact absurd (hfaultless t i hl).2 hlate
  · exact fun t i _ _ _ _ _ _ hl _ _ hlate => absurd (hfaultless t i hl).1 hlate

theorem demo_notices_truthful : ∃ b, demoRun = some b ∧ b.db.Truthful := by
  obtain ⟨b, hb⟩ := demoRun_isSome
  exact ⟨b, hb, notices_truthful demoWorld_truthful demoSchedule_announcesForGood hb⟩

def retriedSchedule : List Action :=
  [.spawn 0 (demoPayment .small "k1"), .act 0 (demoInputs 0),
    .act 0 { demoInputs 1 with commitFault := some .serializationFailure }, .act 0 (demoInputs 2)]

/-- One transfer is posted, and its user is told of it twice. -/
theorem retried_transfer_announced_twice : demoWorld.db.Truthful ∧
    ∃ b, Bank.run demoSha256 (Bank.start demoWorld) retriedSchedule = some b ∧
      b.status 0 = some 201 ∧
      b.db.transactions.rows.length = 1 ∧
        b.db.noticeCount (demoIds .user) "PAYMENT_TRANSFER_POSTED" = 2 ∧ ¬ b.db.Truthful := by
  have hrun : (Bank.run demoSha256 (Bank.start demoWorld) retriedSchedule).map (fun b =>
      (b.status 0, b.db.transactions.rows.length,
        b.db.noticeCount (demoIds .user) "PAYMENT_TRANSFER_POSTED")) = some (some 201, 1, 2) := by
    decide +kernel
  obtain ⟨b, hb, hend⟩ := Option.map_eq_some_iff.mp hrun
  obtain ⟨hstatus, hone, htwo⟩ : b.status 0 = some 201 ∧ b.db.transactions.rows.length = 1 ∧
      b.db.noticeCount (demoIds .user) "PAYMENT_TRANSFER_POSTED" = 2 := by simpa using hend
  refine ⟨demoWorld_truthful, b, hb, hstatus, hone, htwo, fun htruthful => ?_⟩
  have hle := htruthful (demoIds .user) "PAYMENT_TRANSFER_POSTED" (by simp [moneyNotices])
  have hcount : b.db.announcedCount (demoIds .user) "PAYMENT_TRANSFER_POSTED" ≤ 1 :=
    hone ▸ List.countP_le_length
  omega

end OnlineBanking
