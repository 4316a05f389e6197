import OnlineBanking.Reconciliation

set_option autoImplicit false

/-! No transaction leads from an account back to itself, as long as no own-account transfer spells
one account in two ways. -/

namespace OnlineBanking

open Library

def Db.Apart (db : Db) : Prop := ∀ x ∈ db.transactions.rows, x.fromAccountId ≠ x.toAccountId

/-- Merchants settle on system accounts. -/
def Db.Settled (db : Db) : Prop := ∀ m ∈ db.merchants.rows, db.isSystem m.settlementAccountId

def Payment.NamesTwice (payment : Payment) (db : Db) : Prop :=
  payment.request.type = .internalTransfer ∧ ∃ account, Payable db payment account account

def NamesApart (b : Bank) (a : Action) : Prop :=
  ∀ t i c program payment, a = .act t i → b.threads t = some (c, program) →
    Due t b.shared c payment → ¬ payment.NamesTwice b.db

lemma Db.not_isSystem {db : Db} {a : Account} (h : db.accounts.find a.id = some a)
    (hcustomer : a.isSystem = false) : ¬ db.isSystem a.id := by
  rintro ⟨a', ha', hsystem⟩
  obtain rfl : a' = a := by simpa [h] using ha'.symm
  simp [hcustomer] at hsystem

lemma Payable.accounts_unique {db : Db} {payment : Payment}
    {source destination source' destination' : Account} (h : Payable db payment source destination)
    (h' : Payable db payment source' destination')
    (htype : payment.request.type = .internalTransfer) :
    source = source' ∧ destination = destination' := by
  have hsource := Uuid.eq_of_spelledBy h.source_named h'.source_named rfl
  have hdestination : destination.id = destination'.id := by
    have hcounterparty := h.counterparty
    have hcounterparty' := h'.counterparty
    cases hrequest : payment.request with
    | internalTransfer dto =>
      rw [hrequest] at hcounterparty hcounterparty'
      exact Uuid.eq_of_spelledBy hcounterparty.1 hcounterparty'.1 rfl
    | beneficiaryTransfer dto => simp [hrequest, PaymentRequest.type] at htype
    | merchantPayment dto => simp [hrequest, PaymentRequest.type] at htype
  have hfound := h.source_found
  have hfound' := h.destination_found
  rw [hsource, h'.source_found] at hfound
  rw [hdestination, h'.destination_found] at hfound'
  exact ⟨(Option.some.inj hfound).symm, (Option.some.inj hfound').symm⟩

lemma Payable.apart_iff {db : Db} {payment : Payment} {source destination : Account}
    (h : Payable db payment source destination) (hsettled : db.Settled) :
    source.id ≠ destination.id ↔ ¬ payment.NamesTwice db := by
  constructor
  · rintro hne ⟨htype, account, htwice⟩
    obtain ⟨rfl, rfl⟩ := h.accounts_unique htwice htype
    exact hne rfl
  · intro honce heq
    have hfound := h.destination_found
    rw [← heq, h.source_found] at hfound
    obtain rfl : source = destination := Option.some.inj hfound
    have hcounterparty := h.counterparty
    cases hrequest : payment.request with
    | internalTransfer dto => exact honce ⟨by rw [hrequest]; rfl, source, h⟩
    | beneficiaryTransfer dto =>
      rw [hrequest] at hcounterparty
      exact hcounterparty.2.1 rfl
    | merchantPayment dto =>
      rw [hrequest] at hcounterparty
      obtain ⟨hcustomer, m, hm, _, hid⟩ := hcounterparty
      exact Db.not_isSystem h.source_found hcustomer (hid ▸ hsettled m hm)

section Steps

variable {sha256 : String → String} {t : ℕ} {c : Call} {s : State} {db db' : Db}

lemma Db.Settled.sameMoney (h : db.Settled) (same : SameMoney db db') : db'.Settled := by
  intro m hm
  rw [same.isSystem]
  exact h m (same.merchants ▸ hm)

lemma Db.Settled.applied {p : Posting} (h : db.Settled) (applied : p.Applied db db') :
    db'.Settled := by
  intro m hm
  rw [applied.isSystem_iff]
  exact h m (applied.merchants ▸ hm)

lemma Db.Apart.applied {p : Posting} (h : db.Apart) (applied : p.Applied db db')
    (hp : p.source.id ≠ p.destination.id) : db'.Apart := by
  intro x hx
  rw [applied.transactions] at hx
  rcases List.mem_append.mp hx with hx | hx
  · exact h x hx
  · obtain rfl := List.mem_singleton.mp hx
    simpa [p.from_source, p.to_destination] using hp

lemma Posting.Credits.apart {p : Posting} {accountId : Uuid} {dto : AdminCreditDto}
    (h : p.Credits db accountId dto) (applied : p.Applied db db') :
    p.source.id ≠ p.destination.id := by
  intro heq
  exact Db.not_isSystem applied.destination_found h.creditable.target_customer
    (heq ▸ ⟨p.source, applied.source_found, h.creditable.source_system⟩)

lemma Movement.apart (hmove : Movement sha256 t c s db')
    (honce : ∀ payment, Due t s c payment → ¬ payment.NamesTwice s.world.db)
    (h : s.world.db.Settled ∧ s.world.db.Apart) : db'.Settled ∧ db'.Apart := by
  obtain ⟨hsettled, hapart⟩ := h
  have hposted : ∀ (p : Posting) posted, p.Applied s.world.db posted →
      p.source.id ≠ p.destination.id → SameMoney posted db' → db'.Settled ∧ db'.Apart :=
    fun p posted applied hne same => ⟨(hsettled.applied applied).sameMoney same, by
      simpa [Db.Apart, same.transactions] using hapart.applied applied hne⟩
  cases hmove with
  | none same =>
    exact ⟨hsettled.sameMoney same, by simpa [Db.Apart, same.transactions] using hapart⟩
  | paid payment result p posted due applied pays same =>
    exact hposted p posted applied ((pays.payable.apart_iff hsettled).mpr (honce payment due)) same
  | credited _ _ _ p posted _ applied credits same =>
    exact hposted p posted applied (credits.apart applied) same

end Steps

/-- In a run in which no payment that comes to be due names one account twice, every transaction
has two accounts. -/
theorem transactions_apart {sha256 : String → String} {w : World}
    {schedule : List Action} {b : Bank} (hsettled : w.db.Settled) (hstart : w.db.Apart)
    (hm : Config.Meets (handle sha256) environment NamesApart (Bank.start w) schedule)
    (h : Bank.run sha256 (Bank.start w) schedule = some b) : b.db.Apart := by
  refine (run_movements (P := fun db => db.Settled ∧ db.Apart) ?_ ?_ ⟨hsettled, hstart⟩ hm h).2
  · intro b t i c program db' hcond ht hP hmove
    exact hmove.apart (fun payment => hcond t i c program payment rfl ht) hP
  · rintro db db' ⟨hs, ha⟩ same
    exact ⟨hs.sameMoney same, by simpa [Db.Apart, same.transactions] using ha⟩

lemma demoWorld_settled : demoWorld.db.Settled := by
  unfold Db.Settled Db.isSystem
  decide +kernel

lemma demoWorld_apart : demoWorld.db.Apart := by
  unfold Db.Apart
  decide +kernel

lemma demoTransfer_names_apart (amount : DemoAmount) (db : Db) (key : String) :
    ¬ Payment.NamesTwice ⟨demoIds .user, .internalTransfer (demoTransfer amount), key⟩ db := by
  have hdiffer : (demoIds .sourceAccount).text.toLower ≠ (demoIds .destAccount).text.toLower := by
    decide +kernel
  rintro ⟨_, account, h⟩
  exact hdiffer (Uuid.lower_eq_of_spelledBy h.source_named h.counterparty.1)

lemma demoSchedule_namesApart :
    Config.Meets (handle demoSha256) environment NamesApart
      (Bank.start demoWorld) demoSchedule := by
  refine Discipline.meets_of_runs fun ms l b hprefix hrun t i c program payment hl ht due => ?_
  have hspawn := hprefix.subset
    (List.mem_append_left _ ((discipline demoSha256).spawn_of_call hrun ht))
  obtain ⟨rfl, rfl⟩ : t = 0 ∧ c = demoPayment .small " k1 " := by simpa [demoSchedule] using hspawn
  cases due.executes with
  | asked hasked =>
    obtain rfl := Option.some.inj hasked
    exact demoTransfer_names_apart .small _ _

theorem demo_transactions_apart : ∃ b, demoRun = some b ∧ b.db.Apart := by
  obtain ⟨b, hb⟩ := demoRun_isSome
  exact ⟨b, hb, transactions_apart demoWorld_settled demoWorld_apart demoSchedule_namesApart hb⟩

/-- Both ids are those of the source account, the second one in capitals. -/
def transferToItself : CreateTransferDto where
  sourceAccountId := (demoIds .sourceAccount).text
  destinationAccountId := (demoIds .sourceAccount).text.toUpper
  amount := DemoAmount.small.decimal
  accepted := by decide +kernel

def transferToItselfSchedule : List Action :=
  [.spawn 0 (.payment (demoIds .user) (.internalTransfer transferToItself) "k1"),
    .act 0 (demoInputs 0), .act 0 (demoInputs 1)]

/-- The comparison in front of the transaction is one of strings, so the transfer is posted. -/
theorem transfer_to_itself_posted : demoWorld.db.Settled ∧ demoWorld.db.Apart ∧
    ∃ b, Bank.run demoSha256 (Bank.start demoWorld) transferToItselfSchedule = some b ∧
      b.status 0 = some 201 ∧ ¬ b.db.Apart := by
  have hposted : (Bank.run demoSha256 (Bank.start demoWorld) transferToItselfSchedule).map (fun b =>
      (b.status 0, b.db.transactions.rows.all fun x => x.fromAccountId ≠ x.toAccountId)) =
        some (some 201, false) := by decide +kernel
  obtain ⟨b, hb, hend⟩ := Option.map_eq_some_iff.mp hposted
  obtain ⟨hstatus, hend⟩ := Prod.mk.injEq .. ▸ hend
  refine ⟨demoWorld_settled, demoWorld_apart, b, hb, hstatus, fun hapart => ?_⟩
  have hall : (b.db.transactions.rows.all fun x => x.fromAccountId ≠ x.toAccountId) = true :=
    List.all_eq_true.mpr fun x hx => decide_eq_true (hapart x hx)
  exact absurd (hall.symm.trans hend) (by decide)

end OnlineBanking
