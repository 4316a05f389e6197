import OnlineBanking.Authority
import OnlineBanking.SelfTransfers

set_option autoImplicit false

/-! Payments leave the accounts of the bank itself alone, as long as no own-account transfer is
made by their owner. -/

namespace OnlineBanking

open Library

/-- The transaction neither spends system money nor is an own-account transfer to a system
account. -/
structure Transaction.SparesSystem (x : Transaction) (db : Db) : Prop where
  source : ∀ id, x.fromAccountId = some id → ¬ db.isSystem id
  destination : x.type = .internalTransfer → ∀ id, x.toAccountId = some id → ¬ db.isSystem id

def Db.SparesSystem (db : Db) : Prop :=
  ∀ x ∈ db.transactions.rows, x.type.isPayment = true → x.SparesSystem db

def Payment.NamesSystem (payment : Payment) (db : Db) : Prop :=
  payment.request.type = .internalTransfer ∧ ∃ source destination,
    Payable db payment source destination ∧ (source.isSystem = true ∨ destination.isSystem = true)

def NamesCustomers (b : Bank) (a : Action) : Prop :=
  ∀ t i c program payment, a = .act t i → b.threads t = some (c, program) →
    Due t b.shared c payment → ¬ payment.NamesSystem b.db

lemma Payable.spares_iff {db : Db} {payment : Payment} {source destination : Account}
    (h : Payable db payment source destination) :
    (source.isSystem = false ∧ (payment.request.type = .internalTransfer →
      destination.isSystem = false)) ↔
      ¬ payment.NamesSystem db := by
  constructor
  · rintro ⟨hs, hd⟩ ⟨htype, source', destination', h', hsystem⟩
    obtain ⟨rfl, rfl⟩ := h.accounts_unique h' htype
    simp [hs, hd htype] at hsystem
  · intro hnames
    have hcounterparty := h.counterparty
    cases hrequest : payment.request with
    | internalTransfer dto =>
      have htype : payment.request.type = .internalTransfer := by rw [hrequest]; rfl
      constructor
      · exact Bool.eq_false_iff.mpr fun hs => hnames ⟨htype, source, destination, h, .inl hs⟩
      · exact fun _ => Bool.eq_false_iff.mpr fun hd =>
          hnames ⟨htype, source, destination, h, .inr hd⟩
    | beneficiaryTransfer dto =>
      rw [hrequest] at hcounterparty
      exact ⟨hcounterparty.1, fun htype => by simp [PaymentRequest.type] at htype⟩
    | merchantPayment dto =>
      rw [hrequest] at hcounterparty
      exact ⟨hcounterparty.1, fun htype => by simp [PaymentRequest.type] at htype⟩

section Steps

variable {sha256 : String → String} {t : ℕ} {c : Call} {s : State} {db db' : Db}

lemma Transaction.SparesSystem.of_isSystem {x : Transaction} (h : x.SparesSystem db)
    (hsystem : ∀ id, db'.isSystem id ↔ db.isSystem id) : x.SparesSystem db' :=
  ⟨fun id hid => (hsystem id).not.mpr (h.source id hid),
    fun htype id hid => (hsystem id).not.mpr (h.destination htype id hid)⟩

lemma Db.SparesSystem.sameMoney (h : db.SparesSystem) (same : SameMoney db db') :
    db'.SparesSystem :=
  fun x hx htype => (h x (same.transactions ▸ hx) htype).of_isSystem same.isSystem

lemma Db.SparesSystem.applied {p : Posting} (h : db.SparesSystem) (applied : p.Applied db db')
    (hp : p.transaction.type.isPayment = true → p.transaction.SparesSystem db) :
    db'.SparesSystem := by
  intro x hx htype
  rw [applied.transactions] at hx
  have hspares : x.SparesSystem db := by
    rcases List.mem_append.mp hx with hx | hx
    · exact h x hx htype
    · obtain rfl := List.mem_singleton.mp hx
      exact hp htype
  exact hspares.of_isSystem applied.isSystem_iff

lemma Posting.Pays.sparesSystem {p : Posting} {payment : Payment} {requestHash : String}
    {result : ServiceResult PaymentBody} (h : p.Pays db payment requestHash result)
    (hnames : ¬ payment.NamesSystem db) : p.transaction.SparesSystem db := by
  obtain ⟨hs, hd⟩ := h.payable.spares_iff.mpr hnames
  constructor
  · intro id hid
    obtain rfl : p.source.id = id := Option.some.inj (p.from_source.symm.trans hid)
    exact Db.not_isSystem h.payable.source_found hs
  · intro htype id hid
    obtain rfl : p.destination.id = id := Option.some.inj (p.to_destination.symm.trans hid)
    exact Db.not_isSystem h.payable.destination_found (hd (h.type ▸ htype))

lemma Movement.sparesSystem (hmove : Movement sha256 t c s db')
    (hnames : ∀ payment, Due t s c payment → ¬ payment.NamesSystem s.world.db)
    (h : s.world.db.SparesSystem) : db'.SparesSystem := by
  cases hmove with
  | none same => exact h.sameMoney same
  | paid payment result p posted due applied pays same =>
    exact (h.applied applied fun _ => pays.sparesSystem (hnames payment due)).sameMoney same
  | credited _ _ _ p posted _ applied credits same =>
    refine (h.applied applied fun htype => ?_).sameMoney same
    rw [credits.type] at htype
    simp [TransactionType.isPayment] at htype

lemma Movement.lowers (hmove : Movement sha256 t c s db')
    (hnames : ∀ payment, Due t s c payment → ¬ payment.NamesSystem s.world.db) {id : Uuid}
    (hsystem : s.world.db.isSystem id) (hlow : db'.balance id < s.world.db.balance id) :
    ∃ adminUserId accountId dto, c = .creditAccount adminUserId accountId dto := by
  cases hmove with
  | none same =>
    have hsame : db'.balance = s.world.db.balance := congrArg Book.balance same.book
    simp [hsame] at hlow
  | paid payment result p posted due applied pays same =>
    have hsame : db'.balance = posted.balance := congrArg Book.balance same.book
    rw [hsame, applied.balance] at hlow
    obtain ⟨rfl, _⟩ := Book.net_entry_neg p.positive (neg_of_add_lt_right hlow)
    have hcustomer := (pays.payable.spares_iff.mpr (hnames payment due)).1
    exact absurd hsystem (Db.not_isSystem pays.payable.source_found hcustomer)
  | credited adminUserId accountId dto _ _ call _ _ _ => exact ⟨adminUserId, accountId, dto, call⟩

end Steps

/-- In a run in which no payment that comes to be due names a system account, no payment spends
system money, no own-account transfer reaches a system account, and what lowers the balance of a
system account is a credit by an administrator. -/
theorem system_money_spared {sha256 : String → String} {w : World}
    {schedule : List Action} {b : Bank} (hstart : w.db.SparesSystem)
    (hm : Config.Meets (handle sha256) environment NamesCustomers (Bank.start w) schedule)
    (h : Bank.run sha256 (Bank.start w) schedule = some b) :
    b.db.SparesSystem ∧ ∀ t call program s s' id, b.threads t = some (call, program) →
      (s, s') ∈ actionsOf sha256 w schedule t → s.world.db.isSystem id →
      s'.world.db.balance id < s.world.db.balance id →
        ∃ adminUserId accountId dto, call = .creditAccount adminUserId accountId dto := by
  constructor
  · refine run_movements ?_ (fun _ _ => Db.SparesSystem.sameMoney) hstart hm h
    intro b t i c program db' hcond ht hP hmove
    exact hmove.sparesSystem (fun payment => hcond t i c program payment rfl ht) hP
  · intro t call program s s' id ht hs hsystem hlow
    obtain ⟨d, i, q, rfl, hd, hcond, heffect⟩ := (discipline sha256).action_of_transition
      ((discipline sha256).init_holds w) hm h ht hs
    exact (Effect.movement heffect).lowers
      (fun payment => hcond t i call q payment rfl hd) hsystem hlow

lemma demoWorld_sparesSystem : demoWorld.db.SparesSystem := by
  have hempty : demoWorld.db.transactions.rows.length = 0 := by decide +kernel
  simp [Db.SparesSystem, List.eq_nil_of_length_eq_zero hempty]

lemma demoSchedule_namesCustomers :
    Config.Meets (handle demoSha256) environment NamesCustomers
      (Bank.start demoWorld) demoSchedule := by
  refine Discipline.meets_of_runs fun ms l b hprefix hrun t i c program payment hl ht due => ?_
  have hspawn := hprefix.subset
    (List.mem_append_left _ ((discipline demoSha256).spawn_of_call hrun ht))
  obtain ⟨rfl, rfl⟩ : t = 0 ∧ c = demoPayment .small " k1 " := by simpa [demoSchedule] using hspawn
  cases due.executes with
  | asked hasked =>
    obtain rfl := Option.some.inj hasked
    rintro ⟨_, source, destination, h, hsystem⟩
    have hsource : source.id = demoIds .sourceAccount :=
      Uuid.eq_of_spelledBy h.source_named (by decide +kernel) rfl
    have hdestination : destination.id = demoIds .destAccount :=
      Uuid.eq_of_spelledBy h.counterparty.1 (by decide +kernel) rfl
    have hstart : ∀ row, row = SeedRow.sourceAccount ∨ row = .destAccount →
        ¬ demoWorld.db.isSystem (demoIds row) := by
      unfold Db.isSystem
      rintro _ (rfl | rfl) <;> decide +kernel
    rcases hsystem with hsystem | hsystem
    · refine hstart _ (.inl rfl) (((run_explained hrun).system _).mp ?_)
      exact hsource ▸ ⟨source, h.source_found, hsystem⟩
    · refine hstart _ (.inr rfl) (((run_explained hrun).system _).mp ?_)
      exact hdestination ▸ ⟨destination, h.destination_found, hsystem⟩

theorem demo_system_money_spared : ∃ b, demoRun = some b ∧ b.db.SparesSystem := by
  obtain ⟨b, hb⟩ := demoRun_isSome
  exact ⟨b, hb, (system_money_spared demoWorld_sparesSystem demoSchedule_namesCustomers hb).1⟩

def transferOfReserve : CreateTransferDto where
  sourceAccountId := (demoIds .systemAccount).text
  destinationAccountId := (demoIds .extSystemAccount).text
  amount := DemoAmount.small.decimal
  accepted := by decide +kernel

def transferOfReserveSchedule : List Action :=
  [.spawn 0 (.payment (demoIds .adminUser) (.internalTransfer transferOfReserve) "k1"),
    .act 0 (demoInputs 0), .act 0 (demoInputs 1)]

/-- The seed gives the system accounts to a verified profile, and a transfer does not ask whether an
account is one of them. -/
theorem reserve_spent_by_transfer : Seeded demoIds 0 demoWorld.db ∧ demoWorld.db.SparesSystem ∧
    demoWorld.db.isSystem (demoIds .systemAccount) ∧
      ∃ b, Bank.run demoSha256 (Bank.start demoWorld) transferOfReserveSchedule = some b ∧
        b.status 0 = some 201 ∧ ¬ b.db.SparesSystem ∧
          b.db.balance (demoIds .systemAccount) < demoWorld.db.balance
            (demoIds .systemAccount) := by
  have hposted : (Bank.run demoSha256 (Bank.start demoWorld) transferOfReserveSchedule).map
      (fun b =>
      (b.status 0, b.db.transactions.rows.map fun x => (x.type, x.fromAccountId),
        b.db.balance (demoIds .systemAccount))) =
      some (some 201, [(.internalTransfer, some (demoIds .systemAccount))], 999999750) := by
    decide +kernel
  have hsystem : demoWorld.db.isSystem (demoIds .systemAccount) := by
    unfold Db.isSystem
    decide +kernel
  have hbalance : demoWorld.db.balance (demoIds .systemAccount) = 1000000000 := by decide +kernel
  obtain ⟨b, hb, hend⟩ := Option.map_eq_some_iff.mp hposted
  obtain ⟨hstatus, htransactions, hlower⟩ : b.status 0 = some 201 ∧
      (b.db.transactions.rows.map fun x => (x.type, x.fromAccountId)) =
        [(.internalTransfer, some (demoIds .systemAccount))] ∧
      b.db.balance (demoIds .systemAccount) = 999999750 := by simpa using hend
  refine ⟨demoDb_seeded, demoWorld_sparesSystem, hsystem, b, hb, hstatus, fun hspares => ?_, ?_⟩
  · obtain ⟨x, hx, hfields⟩ := List.mem_map.mp (htransactions ▸ List.mem_singleton_self _)
    obtain ⟨htype, hfrom⟩ := Prod.mk.injEq .. ▸ hfields
    refine (hspares x hx (by simp [htype, TransactionType.isPayment])).source _ hfrom ?_
    exact ((run_explained hb).system _).mpr hsystem
  · rw [hlower, hbalance]
    norm_num

end OnlineBanking
