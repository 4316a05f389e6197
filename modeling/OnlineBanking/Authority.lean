import OnlineBanking.Reconciliation
import OnlineBanking.StepUp

set_option autoImplicit false

/-! Whose money a payment call can move, and what it cannot touch. -/

namespace OnlineBanking

open Library

def Db.OwnsAccount (db : Db) (userId : Uuid) (accountId : String) : Prop :=
  ∃ p ∈ db.customerProfiles.rows, p.userId = userId ∧
    ∃ a ∈ db.accounts.rows, a.id.spelledBy accountId = true ∧ a.customerId = p.id

def Db.OwnsBeneficiary (db : Db) (userId : Uuid) (beneficiaryId : String) : Prop :=
  ∃ p ∈ db.customerProfiles.rows, p.userId = userId ∧
    ∃ b ∈ db.beneficiaries.rows, b.id.spelledBy beneficiaryId = true ∧ b.customerId = p.id

/-- The payment names a source account or a beneficiary that is not its user's own. -/
def Payment.Foreign (payment : Payment) (db : Db) : Prop :=
  ¬ db.OwnsAccount payment.userId payment.request.sourceAccountId ∨
    ∃ dto, payment.request = .beneficiaryTransfer dto ∧
      ¬ db.OwnsBeneficiary payment.userId dto.beneficiaryId

lemma Payable.not_foreign {db : Db} {payment : Payment} {source destination : Account}
    (h : Payable db payment source destination) : ¬ payment.Foreign db := by
  obtain ⟨profile, hprofile, huser, hid⟩ := h.owner
  have hm : source ∈ db.accounts.rows := (Table.find_eq_some.mp h.source_found).1
  rintro (hforeign | ⟨dto, hdto, hforeign⟩)
  · exact hforeign ⟨profile, hprofile, huser, source, hm, h.source_named, hid.symm⟩
  · have hcounterparty := h.counterparty
    rw [hdto] at hcounterparty
    obtain ⟨_, _, b, hb, hnamed, howned⟩ := hcounterparty
    exact hforeign ⟨profile, hprofile, huser, b, hb, hnamed, howned.trans hid.symm⟩

section Steps

variable {sha256 : String → String} {t : ℕ} {c : Call} {i : Inputs} {s s' : State}

structure KeepsOwners (s s' : State) : Prop where
  accounts : ∀ userId accountId, s.world.db.OwnsAccount userId accountId →
    s'.world.db.OwnsAccount userId accountId
  beneficiaries : ∀ userId beneficiaryId, s.world.db.OwnsBeneficiary userId beneficiaryId →
    s'.world.db.OwnsBeneficiary userId beneficiaryId

lemma KeepsOwners.of_rows
    (hp : ∀ p ∈ s.world.db.customerProfiles.rows, ∃ p' ∈ s'.world.db.customerProfiles.rows,
      p'.id = p.id ∧ p'.userId = p.userId)
    (ha : ∀ a ∈ s.world.db.accounts.rows, ∃ a' ∈ s'.world.db.accounts.rows,
      a'.id = a.id ∧ a'.customerId = a.customerId)
    (hb : ∀ b ∈ s.world.db.beneficiaries.rows, ∃ b' ∈ s'.world.db.beneficiaries.rows,
      b'.id = b.id ∧ b'.customerId = b.customerId) : KeepsOwners s s' := by
  constructor
  · rintro _ x ⟨p, hm, rfl, a, ham, hnamed, howned⟩
    obtain ⟨p', hm', hid, huser⟩ := hp p hm
    obtain ⟨a', ham', haid, hcustomer⟩ := ha a ham
    exact ⟨p', hm', huser, a', ham', haid ▸ hnamed, hcustomer.trans (howned.trans hid.symm)⟩
  · rintro _ x ⟨p, hm, rfl, b, hbm, hnamed, howned⟩
    obtain ⟨p', hm', hid, huser⟩ := hp p hm
    obtain ⟨b', hbm', hbid, hcustomer⟩ := hb b hbm
    exact ⟨p', hm', huser, b', hbm', hbid ▸ hnamed, hcustomer.trans (howned.trans hid.symm)⟩

lemma KeepsOwners.of_kept (h : s.world.db.Kept s'.world.db) : KeepsOwners s s' := by
  obtain ⟨opened, hrows, _⟩ := h.accounts
  exact .of_rows h.profiles (fun a ha => ⟨a, hrows ▸ List.mem_append_left _ ha, rfl, rfl⟩)
    h.beneficiaries

lemma Posting.Applied.keepsOwners {p : Posting} {db : Db} (h : p.Applied s.world.db db)
    {ns : List Notification} (hdb : s'.world.db = db.addNotifications ns) : KeepsOwners s s' := by
  refine .of_rows (fun q hq => ⟨q, ?_, rfl, rfl⟩) (fun a ha => ?_) fun b hb => ⟨b, ?_, rfl, rfl⟩
  · simpa [hdb, h.customerProfiles] using hq
  · rw [hdb, Db.addNotifications_accounts, h.accounts]
    -- customerId is no key, but neither update touches it
    refine ⟨_, List.mem_map_of_mem (List.mem_map_of_mem ha), ?_, ?_⟩
    · split <;> split <;> rfl
    · split <;> split <;> rfl
  · simpa [hdb, h.beneficiaries] using hb

theorem Effect.keepsOwners (h : Effect sha256 t c i s s') : KeepsOwners s s' := by
  cases h.onDb with
  | notified ns db _ =>
    refine .of_rows (fun p hm => ⟨p, ?_, rfl, rfl⟩) (fun a hm => ⟨a, ?_, rfl, rfl⟩) fun b hm =>
      ⟨b, ?_, rfl, rfl⟩
    · rwa [db, Db.addNotifications_customerProfiles]
    · rwa [db, Db.addNotifications_accounts]
    · rwa [db, Db.addNotifications_beneficiaries]
  | posted _ _ _ _ _ _ _ applied _ db _ => exact applied.keepsOwners db
  | credited _ _ _ _ _ _ _ applied _ db => exact applied.keepsOwners db
  | kept _ frame => exact .of_kept frame

lemma grows_owners (sha256 : String → String) : (discipline sha256).Grows KeepsOwners where
  refl _ := ⟨fun _ _ => id, fun _ _ => id⟩
  trans _ _ _ h h' := ⟨fun u x hx => h'.accounts u x (h.accounts u x hx),
    fun u x hx => h'.beneficiaries u x (h.beneficiaries u x hx)⟩
  guar _ _ _ _ _ h := Effect.keepsOwners h
  env e s := .of_kept (environment_kept e s.world)

/-- An action of thread `t` that takes the payment's amount from `source` to `destination`; it is
the only one of its thread. -/
structure Spends (t : ℕ) (c : Call) (s s' : State) (source destination : Account) (amount : ℚ) :
    Prop where
  payable : ∃ payment, Executes t s c payment ∧ Payable s.world.db payment source destination
  positive : 0 < amount
  first : Uncommitted t s
  last : ¬ Uncommitted t s'
  balance : ∀ id, s'.world.db.balance id =
    s.world.db.balance id + Book.net (Book.entry source.id destination.id amount) id

lemma Db.balance_addNotifications (db : Db) (ns : List Notification) :
    (db.addNotifications ns).balance = db.balance :=
  congrArg Book.balance (db.book_addNotifications ns)

lemma Effect.spends (h : Effect sha256 t c i s s') (hc : c.payer ≠ none) :
    s'.world.db.balance = s.world.db.balance ∨
      ∃ source destination amount, Spends t c s s' source destination amount := by
  cases h.onDb with
  | notified ns db _ => exact .inl (by rw [db, Db.balance_addNotifications])
  | posted payment result p posted ns due first applied pays db trace =>
    refine .inr ⟨p.source, p.destination, p.transaction.amount,
      ⟨payment, due.executes, pays.payable⟩,
      p.positive, first, fun hu => hu payment result [p.transaction] (by simp [trace]),
      fun id => ?_⟩
    rw [db, Db.balance_addNotifications]
    exact applied.balance id
  | credited _ _ _ _ _ _ call _ _ _ => exact absurd (by rw [call]; rfl) hc
  | kept call _ => exact absurd call hc

lemma Effect.foreign (h : Effect sha256 t c i s s') (hc : c.payer ≠ none)
    (hforeign : ∀ payment, Executes t s c payment → payment.Foreign s.world.db) :
    s'.world.db = s.world.db := by
  cases h.onDb with
  | notified ns db paid =>
    rcases paid hc with rfl | ⟨payment, _, _, due, payable⟩
    · exact db
    · exact absurd (hforeign payment due.executes) payable.not_foreign
  | posted payment _ _ _ _ due _ _ pays _ _ =>
    exact absurd (hforeign payment due.executes) pays.payable.not_foreign
  | credited _ _ _ _ _ _ call _ _ _ => exact absurd (by rw [call]; rfl) hc
  | kept call _ => exact absurd call hc

end Steps

section Runs

variable {sha256 : String → String} {w : World} {schedule : List Action} {b : Bank} {t : ℕ}
variable {call : Call} {program : Service Response} {userId : Uuid}

def actionsOf (sha256 : String → String) (w : World) (schedule : List Action) (t : ℕ) :
    List (State × State) :=
  Config.transitions (handle sha256) environment t (Bank.start w) schedule

def netEffect (sha256 : String → String) (w : World) (schedule : List Action) (t : ℕ) : Uuid → ℚ :=
  ((actionsOf sha256 w schedule t).map fun x => x.2.world.db.balance - x.1.world.db.balance).sum

lemma effect_of_action (h : Bank.run sha256 (Bank.start w) schedule = some b)
    (ht : b.threads t = some (call, program)) {s s' : State}
    (hs : (s, s') ∈ actionsOf sha256 w schedule t) : ∃ i, Effect sha256 t call i s s' :=
  (discipline sha256).guar_of_mem_transitions ((discipline sha256).init_holds w) h ht hs

lemma netEffect_cases (h : Bank.run sha256 (Bank.start w) schedule = some b)
    (ht : b.threads t = some (call, program)) (hc : call.payer ≠ none) :
    netEffect sha256 w schedule t = 0 ∨ ∃ s s' source destination amount,
      (s, s') ∈ actionsOf sha256 w schedule t ∧ Spends t call s s' source destination amount ∧
        netEffect sha256 w schedule t = Book.net (Book.entry source.id destination.id amount) := by
  let D := discipline sha256
  have hspends : ∀ x ∈ actionsOf sha256 w schedule t,
      x.2.world.db.balance - x.1.world.db.balance = 0 ∨
        ∃ source destination amount, Spends t call x.1 x.2 source destination amount := by
    intro x hx
    obtain ⟨i, heffect⟩ := effect_of_action h ht hx
    exact (heffect.spends hc).imp_left sub_eq_zero.mpr
  have hone : (actionsOf sha256 w schedule t).Pairwise fun x y =>
      x.2.world.db.balance - x.1.world.db.balance = 0 ∨
        y.2.world.db.balance - y.1.world.db.balance = 0 := by
    refine ((grows_persists sha256).pairwise (D.init_holds w) h t).imp_of_mem
      fun {x y} hx hy hxy => ?_
    rcases hspends x hx with hzero | ⟨_, _, _, hspend⟩
    · exact .inl hzero
    · rcases hspends y hy with hzero | ⟨_, _, _, hspend'⟩
      · exact .inr hzero
      · -- what the first has logged is still there when the second starts
        refine absurd ?_ hspend.last
        exact fun p r inserted he => hspend'.first p r inserted (hxy.trace.subset he)
  rcases sum_of_one_nonzero hone with hzero | ⟨⟨s, s'⟩, hx, hsum⟩
  · exact .inl hzero
  · rcases hspends _ hx with hzero | ⟨source, destination, amount, hspend⟩
    · exact .inl (hsum.trans hzero)
    · refine .inr ⟨s, s', source, destination, amount, hx, hspend, hsum.trans ?_⟩
      funext id
      simp [hspend.balance id]

structure Db.AllowsSpending (db : Db) (userId : Uuid) (source destination : Account) : Prop where
  source_found : db.accounts.find source.id = some source
  owner : ∃ p ∈ db.customerProfiles.rows, p.userId = userId ∧ p.id = source.customerId
  source_active : source.status = .active
  source_currency : source.currency = "RON"
  destination_found : db.accounts.find destination.id = some destination
  destination_active : destination.status = .active
  destination_currency : destination.currency = "RON"
  distinct : destination.id ≠ source.id

lemma Spends.owner {s s' : State} {source destination : Account} {amount : ℚ}
    (h : Spends t call s s' source destination amount) (hc : call.payer = some userId) :
    ∃ p ∈ s.world.db.customerProfiles.rows, p.userId = userId ∧ p.id = source.customerId := by
  obtain ⟨payment, executes, payable⟩ := h.payable
  obtain ⟨p, hp, huser, hid⟩ := payable.owner
  exact ⟨p, hp, huser.trans (Option.some.inj (executes.payer.symm.trans hc)), hid⟩

lemma netEffect_changes (h : Bank.run sha256 (Bank.start w) schedule = some b)
    (ht : b.threads t = some (call, program)) (hc : call.payer ≠ none) :
    ∃ x y, ∀ id, netEffect sha256 w schedule t id ≠ 0 → id = x ∨ id = y := by
  rcases netEffect_cases h ht hc with hzero | ⟨s, s', source, destination, amount, _, _, hnet⟩
  · exact ⟨⟨0⟩, ⟨0⟩, fun id hid => absurd (congrFun hzero id) hid⟩
  · refine ⟨source.id, destination.id, fun id hid => ?_⟩
    by_contra hne
    obtain ⟨hs, hd⟩ := not_or.mp hne
    rw [hnet, Book.net_entry, if_neg (Ne.symm hs), if_neg (Ne.symm hd), add_zero] at hid
    exact hid rfl

lemma netEffect_neg (h : Bank.run sha256 (Bank.start w) schedule = some b)
    (ht : b.threads t = some (call, program)) (hc : call.payer = some userId) {id : Uuid}
    (hneg : netEffect sha256 w schedule t id < 0) : ∃ s s' source destination,
      (s, s') ∈ actionsOf sha256 w schedule t ∧
        s.world.db.AllowsSpending userId source destination ∧ source.id = id ∧
        netEffect sha256 w schedule t destination.id = -netEffect sha256 w schedule t id ∧
        ∀ other, other ≠ id → other ≠ destination.id → netEffect sha256 w schedule t other = 0 := by
  rcases netEffect_cases h ht (by simp [hc]) with
    hzero | ⟨s, s', source, destination, amount, hs, hspend, hnet⟩
  · simp [hzero] at hneg
  · rw [hnet] at hneg ⊢
    obtain ⟨rfl, hd⟩ := Book.net_entry_neg hspend.positive hneg
    obtain ⟨payment, _, payable⟩ := hspend.payable
    refine ⟨s, s', source, destination, hs, ⟨payable.source_found, hspend.owner hc,
      payable.source_active, payable.source_currency, payable.destination_found,
      payable.destination_active, payable.destination_currency, hd⟩, rfl, ?_,
      fun other ho ho' => ?_⟩
    · simp [Book.net_entry, hd, Ne.symm hd]
    · simp [Book.net_entry, Ne.symm ho, Ne.symm ho']

lemma others_keep (h : Bank.run sha256 (Bank.start w) schedule = some b)
    (ht : b.threads t = some (call, program)) (hc : call.payer = some userId) {s s' : State}
    (hs : (s, s') ∈ actionsOf sha256 w schedule t) {a : Account} (ha : a ∈ s.world.db.accounts.rows)
    (hother : ∀ p ∈ s.world.db.customerProfiles.rows, p.userId = userId → p.id ≠ a.customerId) :
    a.availableBalance ≤ s'.world.db.balance a.id := by
  obtain ⟨i, heffect⟩ := effect_of_action h ht hs
  rw [← Db.balance_of_mem ha]
  rcases heffect.spends (by simp [hc]) with hsame | ⟨source, destination, amount, hspend⟩
  · rw [hsame]
  · rw [hspend.balance]
    obtain ⟨payment, _, payable⟩ := hspend.payable
    have hne : source.id ≠ a.id := by
      intro heq
      obtain ⟨hm, _⟩ := Table.find_eq_some.mp payable.source_found
      obtain rfl := s.world.db.accounts.eq_of_key_eq hm ha heq
      obtain ⟨p, hp, huser, hid⟩ := hspend.owner hc
      exact hother p hp huser hid
    rw [Book.net_entry, if_neg hne, zero_add]
    by_cases hd : destination.id = a.id
    · simp [hd, hspend.positive.le]
    · simp [hd]

lemma foreign_writes_nothing (h : Bank.run sha256 (Bank.start w) schedule = some b)
    (ht : b.threads t = some (call, program)) (hc : call.payer ≠ none)
    (hforeign : ∀ payment, Executes t b.shared call payment → payment.Foreign b.db) {s s' : State}
    (hs : (s, s') ∈ actionsOf sha256 w schedule t) : s'.world.db = s.world.db := by
  let D := discipline sha256
  obtain ⟨i, heffect⟩ := effect_of_action h ht hs
  refine heffect.foreign hc fun payment hx => ?_
  have hpersists := heffect.persists.trans
    ((grows_persists sha256).transition (D.init_holds w) h hs).2
  have howners := (grows_owners sha256).trans _ _ _ (Effect.keepsOwners heffect)
    ((grows_owners sha256).transition (D.init_holds w) h hs).2
  rcases hforeign payment (hx.persists hpersists) with hnot | ⟨dto, hdto, hnot⟩
  · exact .inl fun howns => hnot (howners.accounts _ _ howns)
  · exact .inr ⟨dto, hdto, fun howns => hnot (howners.beneficiaries _ _ howns)⟩

/-- A payment call changes two balances at most. When it lowers one, that is one of the user's own
accounts, and one other account gains the amount; no action of it lowers an account of anybody else.
A call whose payments name an account or a beneficiary that is not the user's, or that names a
challenge that is not the user's, writes to no table. -/
theorem spending_authority (h : Bank.run sha256 (Bank.start w) schedule = some b)
    (ht : b.threads t = some (call, program)) (hc : call.payer = some userId) :
    (∃ x y, ∀ id, netEffect sha256 w schedule t id ≠ 0 → id = x ∨ id = y) ∧
      (∀ id, netEffect sha256 w schedule t id < 0 → ∃ s s' source destination,
        (s, s') ∈ actionsOf sha256 w schedule t ∧
          s.world.db.AllowsSpending userId source destination ∧ source.id = id ∧
          netEffect sha256 w schedule t destination.id = -netEffect sha256 w schedule t id ∧
          ∀ other, other ≠ id → other ≠ destination.id → netEffect sha256 w schedule t other = 0) ∧
      (∀ s s', (s, s') ∈ actionsOf sha256 w schedule t → ∀ a ∈ s.world.db.accounts.rows,
        (∀ p ∈ s.world.db.customerProfiles.rows, p.userId = userId → p.id ≠ a.customerId) →
          a.availableBalance ≤ s'.world.db.balance a.id) ∧
      ((∀ payment, Executes t b.shared call payment → payment.Foreign b.db) →
        ∀ s s', (s, s') ∈ actionsOf sha256 w schedule t → s'.world.db = s.world.db) ∧
      ∀ challengeId otp, call = .confirmStepUp userId challengeId otp → w.redis = [] →
        (∀ t₀ challenge expiresAt,
          (t₀, Event.challengeStored userId challengeId challenge expiresAt) ∉ b.trace) →
        ∀ s s', (s, s') ∈ actionsOf sha256 w schedule t → s'.world.db = s.world.db := by
  have hpayer : call.payer ≠ none := by simp [hc]
  refine ⟨netEffect_changes h ht hpayer, fun id hneg => netEffect_neg h ht hc hneg, ?_, ?_, ?_⟩
  · exact fun s s' hs a ha hother => others_keep h ht hc hs ha hother
  · exact fun hforeign s s' hs => foreign_writes_nothing h ht hpayer hforeign hs
  · rintro challengeId otp rfl hredis hnone s s' hs
    refine foreign_writes_nothing h ht hpayer (fun payment hx => ?_) hs
    -- nothing was stored under the id for this user, so nothing was read and nothing is executed
    cases hx with
    | asked hasked => simp [Call.asked] at hasked
    | confirmed read presented =>
      obtain ⟨_, t₀, expiresAt, _, horder⟩ := (run_challenged hredis h).reads t _ _ _ _ read
      exact absurd (horder.subset List.mem_cons_self) (hnone t₀ _ expiresAt)

end Runs

lemma demo_netEffect : netEffect demoSha256 demoWorld demoSchedule 0
    (demoIds .sourceAccount) = -250 := by
  decide +kernel

theorem demo_spending_authority : ∃ b program, demoRun = some b ∧
    b.threads 0 = some (demoPayment .small " k1 ", program) ∧ ∃ s s' source destination,
      (s, s') ∈ actionsOf demoSha256 demoWorld demoSchedule 0 ∧
        s.world.db.AllowsSpending (demoIds .user) source destination ∧
        source.id = demoIds .sourceAccount ∧
        netEffect demoSha256 demoWorld demoSchedule 0 destination.id = 250 := by
  obtain ⟨b, hb⟩ := demoRun_isSome
  obtain ⟨program, ht⟩ := (discipline demoSha256).call_of_spawn
    ((discipline demoSha256).init_holds demoWorld) hb
  have hneg : netEffect demoSha256 demoWorld demoSchedule 0 (demoIds .sourceAccount) < 0 := by
    rw [demo_netEffect]
    norm_num
  obtain ⟨s, s', source, destination, hs, hallows, hsource, hnet, _⟩ :=
    (spending_authority hb ht rfl).2.1 _ hneg
  rw [demo_netEffect, neg_neg] at hnet
  exact ⟨b, program, hb, ht, s, s', source, destination, hs, hallows, hsource, hnet⟩

end OnlineBanking
