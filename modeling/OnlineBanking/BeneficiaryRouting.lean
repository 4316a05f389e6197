import OnlineBanking.Attempts
import OnlineBanking.Authority

set_option autoImplicit false

/-! Where the money of a transfer to a beneficiary goes: to the account with the IBAN, as long as
the lookup by IBAN can see it, and else out of the bank. -/

namespace OnlineBanking

open Library Callback

def Account.Visible (a : Account) : Prop :=
  a.status = .active ∧ a.currency = "RON" ∧ a.isSystem = false

/-- How the destination of a transfer was found; the flag is `internalBeneficiary`. -/
inductive Route (accounts : Table Account) (beneficiary : Beneficiary)
    (destination : Account) : Bool → Prop
  | internal (iban : destination.iban = beneficiary.iban) (visible : destination.Visible) :
    Route accounts beneficiary destination true
  | external (missed : ∀ a ∈ accounts.rows, a.iban = beneficiary.iban → ¬ a.Visible)
      (system : destination.isSystem = true)
      (type : destination.accountType = "EXTERNAL_SETTLEMENT") :
    Route accounts beneficiary destination false

/-- A transfer that was posted as transaction `x`, and the row by which its money travelled. -/
structure Routed (db db' : Db) (dto : TransferToBeneficiaryDto) (x : Transaction)
    (body : BeneficiaryTransferSuccessResponse) (beneficiary : Beneficiary)
    (source destination : Account) : Prop where
  beneficiary_mem : beneficiary ∈ db.beneficiaries.rows
  named : beneficiary.id.spelledBy dto.beneficiaryId = true
  active : beneficiary.status = .active
  destination_mem : destination ∈ db.accounts.rows
  apart : source.id ≠ destination.id
  accounts : db'.accounts = (db.accounts.modify source.id
    (Account.decrement dto.amount.value)).modify
    destination.id (Account.increment dto.amount.value)
  transactions : db'.transactions.rows = db.transactions.rows ++ [x]
  from_source : x.fromAccountId = some source.id
  to_destination : x.toAccountId = some destination.id
  route : Route db.accounts beneficiary destination body.internalBeneficiary

/-- The money is credited to the account of this bank with the beneficiary's IBAN, if there is one,
and it goes to external settlement if there is none. -/
structure ReachesIban (db : Db) (beneficiary : Beneficiary) (destination : Account)
    (internalBeneficiary : Bool) : Prop where
  internal : ∀ a ∈ db.accounts.rows, a.iban = beneficiary.iban →
    destination = a ∧ internalBeneficiary = true
  external : internalBeneficiary = false ∨
      destination.isSystem = true ∧ destination.accountType = "EXTERNAL_SETTLEMENT" →
    ∀ a ∈ db.accounts.rows, a.iban ≠ beneficiary.iban
  otherwise : (∀ a ∈ db.accounts.rows, a.iban ≠ beneficiary.iban) → internalBeneficiary = false ∧
    destination.isSystem = true ∧ destination.accountType = "EXTERNAL_SETTLEMENT"

lemma Route.reachesIban_iff {db : Db} {beneficiary : Beneficiary} {destination : Account}
    {internalBeneficiary : Bool} (h : Route db.accounts beneficiary destination internalBeneficiary)
    (hm : destination ∈ db.accounts.rows) :
    ReachesIban db beneficiary destination internalBeneficiary ↔
      ∀ a ∈ db.accounts.rows, a.iban = beneficiary.iban → a.Visible := by
  constructor
  · intro hreach a ha hiban
    obtain ⟨rfl, hflag⟩ := hreach.internal a ha hiban
    cases h with
    | internal _ visible => exact visible
    | external _ _ _ => cases hflag
  · intro hvisible
    cases h with
    | internal iban visible =>
      have hone : ∀ a ∈ db.accounts.rows, a.iban = beneficiary.iban → destination = a :=
        fun a ha hiban =>
        db.accounts.eq_of_alt_eq hm ha (congrArg some iban) (congrArg some hiban)
      refine ⟨fun a ha hiban => ⟨hone a ha hiban, rfl⟩, ?_, fun hnone => absurd iban (hnone _ hm)⟩
      rintro (hflag | ⟨hsystem, _⟩)
      · cases hflag
      · simp [visible.2.2] at hsystem
    | external missed system type =>
      have hnone : ∀ a ∈ db.accounts.rows, a.iban ≠ beneficiary.iban := fun a ha hiban =>
        missed a ha hiban (hvisible a ha hiban)
      exact ⟨fun a ha hiban => absurd hiban (hnone a ha), fun _ => hnone, fun _ =>
        ⟨rfl, system, type⟩⟩

section Callback

variable {i : TxInputs} {db : Db} {userId profileId : Uuid} {dto : TransferToBeneficiaryDto}
variable {key requestHash : String}

lemma resolveDestination_routes {beneficiary : Beneficiary} {s : Session Db Notification}
    (ha : s.aborted = false) :
    Ends i (resolveDestination beneficiary "RON") s
      (fun r s' => s' = s ∧ r.1 ∈ s.db.accounts.rows ∧
          Route s.db.accounts beneficiary r.1 r.2.isSome)
      (fun _ _ => True) := by
  unfold resolveDestination
  refine ends_bind (Tx.ends_readWith ha (fun _ => trivial) (fun hnone => ?_)
    fun account customer hf _ => ?_)
  · refine ends_bind (Tx.ends_read ha (fun _ _ => trivial) fun found hfound => ?_)
    cases found with
    | none => exact ends_throw trivial
    | some account =>
      obtain ⟨hm, hp⟩ := Table.findFirst_eq_some hfound.symm
      obtain ⟨htype, hsystem, _, _⟩ := of_decide_eq_true hp
      refine ends_pure ⟨rfl, hm, .external (fun a ha hiban hvisible => ?_) hsystem htype⟩
      have hmiss := Table.findFirst_eq_none hnone ha
      exact of_decide_eq_false hmiss ⟨hiban, hvisible⟩
  · obtain ⟨hm, hp⟩ := Table.findFirst_eq_some hf
    obtain ⟨hiban, hvisible⟩ := of_decide_eq_true hp
    exact ends_pure ⟨rfl, hm, .internal hiban hvisible⟩

lemma postBeneficiaryTransfer_routes {idemRow : IdempotencyKey} {source destination : Account}
    {sender : CustomerProfile} {recipient : Option CustomerProfile} {beneficiary : Beneficiary}
    {s : Session Db Notification} (ha : s.aborted = false)
    (hsource : s.db.accounts.find source.id = some source) :
    Ends i (postBeneficiaryTransfer userId profileId dto "RON" idemRow source sender beneficiary
        destination recipient) s
      (fun r s' => s'.aborted = false ∧
          ∃ x : Transaction, r.body.internalBeneficiary = recipient.isSome ∧
        s'.db.accounts = (s.db.accounts.modify source.id
            (Account.decrement dto.amount.value)).modify
          destination.id (Account.increment dto.amount.value) ∧
        s'.db.transactions.rows = s.db.transactions.rows ++ [x] ∧
        x.fromAccountId = some source.id ∧ x.toAccountId = some destination.id)
      (fun _ _ => True) := by
  unfold postBeneficiaryTransfer
  refine ends_bind (Tx.ends_updateMany ha (fun _ => trivial) ?_)
  split
  · exact failKey_ends ha fun _ _ _ => trivial
  · rename_i hcount
    obtain ⟨_, hdebited⟩ := debited dto.amount.value hsource
      (fun a h => (of_decide_eq_true h).1) (not_not.mp hcount)
    refine ends_bind (Tx.ends_update ha (fun _ _ => trivial) fun _ _ => ?_)
    refine ends_bind (Tx.ends_create ha (fun _ => trivial) fun txn transactions htxn htxns => ?_)
    refine ends_bind (Tx.ends_create ha (fun _ => trivial) fun debit entries hdebit hentries => ?_)
    refine ends_bind (Tx.ends_create ha (fun _ => trivial)
      fun credit entries' hcredit hentries' => ?_)
    refine ends_bind (Tx.ends_newDate fun now => ?_)
    refine ends_bind (Tx.ends_update ha (fun _ _ => trivial) fun _ _ => ?_)
    refine ends_bind (Tx.ends_create ha (fun _ => trivial)
      fun audit auditEvents haudit haudits => ?_)
    refine ends_bind (Tx.ends_notificationsCreate fun ns hns => ?_)
    refine ends_bind (notifyRecipient_ends fun ms hms => ?_)
    subst htxn
    refine ends_pure ⟨ha, _, rfl, ?_, (Table.insert_eq_some.mp htxns).2.2, rfl, rfl⟩
    exact congrArg (fun t => t.modify destination.id (Account.increment dto.amount.value)) hdebited

variable (i db userId profileId dto key requestHash) in
theorem executeBeneficiaryTransferTx_routes :
    Ends i (executeBeneficiaryTransferTx userId profileId dto key "RON" requestHash) { db }
      (fun r s => s.aborted = false ∧ (s.db = db ∨ ∃ x beneficiary source destination,
        Routed db s.db dto x r.body beneficiary source destination))
      (fun _ _ => True) := by
  unfold executeBeneficiaryTransferTx findKey createKey
  refine ends_bind (Tx.ends_read rfl (fun _ _ => trivial) fun existing _ => ?_)
  cases existing with
  | some row =>
    refine ends_mono replayKey_replays (fun r s h => ?_) fun _ _ h => h
    rw [h.1]
    exact ⟨rfl, .inl rfl⟩
  | none =>
    refine ends_bind (Tx.ends_create rfl (fun _ => trivial) fun idemRow keys _ _ => ?_)
    refine ends_bind (Tx.ends_readWith rfl (fun _ => trivial) (fun _ => ends_throw trivial) ?_)
    intro source sender hs _
    have hsource : db.accounts.find source.id = some source :=
      Table.find_eq_some.mpr ⟨(Table.findFirst_eq_some hs).1, rfl⟩
    dsimp only
    split
    · exact failKey_ends rfl fun _ _ _ => trivial
    · refine ends_bind (Tx.ends_read rfl (fun _ _ => trivial) fun found hfound => ?_)
      cases found with
      | none => exact ends_throw trivial
      | some beneficiary =>
        obtain ⟨hbm, hbp⟩ := Table.findFirst_eq_some hfound.symm
        obtain ⟨hbn, _, hba⟩ := of_decide_eq_true hbp
        refine ends_bind (ends_mono (resolveDestination_routes rfl) ?_ fun _ _ h => h)
        rintro ⟨destination, recipient⟩ _ ⟨rfl, hm, hroute⟩
        dsimp only
        split
        · exact ends_throw trivial
        · rename_i hne
          refine ends_mono (postBeneficiaryTransfer_routes rfl hsource) ?_ fun _ _ h => h
          rintro r s' ⟨halive, x, hflag, haccounts, htransactions, hfrom, hto⟩
          exact ⟨halive, .inr ⟨x, beneficiary, source, destination, hbm, hbn, hba, hm,
            hne, haccounts,
            htransactions, hfrom, hto, hflag ▸ hroute⟩⟩

end Callback

/-- A beneficiary transfer that is logged was replayed or travelled one of the two routes. -/
def Travels (db db' : Db) (payment : Payment) (result : ServiceResult PaymentBody) : Prop :=
  ∀ dto, payment.request = .beneficiaryTransfer dto →
    db' = db ∨ ∃ x body beneficiary source destination, result.body = .beneficiary body ∧
      Routed db db' dto x body beneficiary source destination

lemma callback_travels {sha256 : String → String} {payment : Payment} {profileId : Uuid} {β : Type}
    {callback : Tx (ServiceResult β)} {body : β → PaymentBody}
    (h : PaymentCallback sha256 payment profileId callback body) (i : TxInputs) (db : Db)
    (owner : ∃ profile ∈ db.customerProfiles.rows, profile.userId = payment.userId ∧
      profile.id = profileId) :
    Ends i callback { db }
      (fun r s => s.aborted = false ∧ Travels db s.db payment (r.map body)) fun _ _ => True := by
  refine ends_and (h.alive i db owner) ?_
  obtain ⟨userId, request, key⟩ := payment
  cases h with
  | transfer dto currency ron hrequest =>
    subst ron hrequest
    exact ends_of_all (fun _ _ dto' hdto => by cases hdto) fun _ _ => trivial
  | beneficiary dto currency ron hrequest =>
    subst ron hrequest
    refine ends_mono (executeBeneficiaryTransferTx_routes i db userId profileId dto key _) ?_
      fun _ _ h => h
    rintro r s ⟨_, htravels⟩ dto' hdto
    obtain rfl := PaymentRequest.beneficiaryTransfer.inj hdto
    refine htravels.imp id ?_
    rintro ⟨x, beneficiary, source, destination, hrouted⟩
    exact ⟨x, r.body, beneficiary, source, destination, rfl, hrouted⟩
  | merchant dto currency ron hrequest =>
    subst ron hrequest
    exact ends_of_all (fun _ _ dto' hdto => by cases hdto) fun _ _ => trivial

def routingDiscipline (sha256 : String → String) :
    Discipline (E := Event) (handle sha256) environment :=
  certifiedDiscipline sha256 Travels fun _ _ _ _ _ h i db owner => callback_travels h i db owner

lemma Routed.addNotifications {db db' : Db} {dto : TransferToBeneficiaryDto} {x : Transaction}
    {body : BeneficiaryTransferSuccessResponse} {beneficiary : Beneficiary}
    {source destination : Account} (h : Routed db db' dto x body beneficiary source destination)
    (ns : List Notification) :
    Routed db (db'.addNotifications ns) dto x body beneficiary source destination :=
  { h with
    accounts := by simpa using h.accounts
    transactions := by simpa using h.transactions }

structure TransferRouted (t : ℕ) (s s' : State) (dto : TransferToBeneficiaryDto) (x : Transaction)
    (body : BeneficiaryTransferSuccessResponse) (beneficiary : Beneficiary)
    (source destination : Account) : Prop
    extends Routed s.world.db s'.world.db dto x body beneficiary source destination where
  logged : ∃ payment, payment.request = .beneficiaryTransfer dto ∧
    (t, Event.committed payment ⟨201, .beneficiary body⟩ [x]) ∈ s'.trace

lemma Certified.routed {t : ℕ} {s s' : State} {payment : Payment} {requestHash : String}
    {result : ServiceResult PaymentBody} {p : Posting} {db : Db} {ns : List Notification}
    (hcertified : Certified Travels s s') (applied : p.Applied s.world.db db)
    (pays : p.Pays s.world.db payment requestHash result)
    (hdb : s'.world.db = db.addNotifications ns)
    (trace : s'.trace = s.trace ++ [(t, .committed payment result [p.transaction])])
    {dto : TransferToBeneficiaryDto} (hdto : payment.request = .beneficiaryTransfer dto) :
    ∃ body beneficiary source destination,
      TransferRouted t s s' dto p.transaction body beneficiary source destination := by
  have hrows : s'.world.db.transactions.rows = s.world.db.transactions.rows ++ [p.transaction] := by
    simp [hdb, applied.transactions]
  obtain ⟨db', ms, htravels, hworld⟩ := hcertified t payment result [p.transaction] trace
  rcases htravels dto hdto with hsame | ⟨x, body, beneficiary, source, destination, hbody, hrouted⟩
  · rw [hworld, hsame, Db.addNotifications_transactions] at hrows
    simp at hrows
  · have hrouted := hworld ▸ hrouted.addNotifications ms
    obtain rfl : p.transaction = x := by simpa [hrouted.transactions] using hrows.symm
    have hresult : result = ⟨201, .beneficiary body⟩ := by
      obtain ⟨status, _⟩ := result
      obtain rfl : status = 201 := pays.created
      exact congrArg _ hbody
    exact ⟨body, beneficiary, source, destination, hrouted, payment, hdto, by simp [trace, hresult]⟩

lemma Effect.routed {sha256 : String → String} {t : ℕ} {c : Call} {i : Inputs} {s s' : State}
    (h : Effect sha256 t c i s s') (hc : c.payer ≠ none) (hcertified : Certified Travels s s') :
    s'.world.db.accounts = s.world.db.accounts ∨ ∃ payment, Executes t s c payment ∧
      ¬ Uncommitted t s' ∧
      ∀ dto, payment.request = .beneficiaryTransfer dto → ∃ x body beneficiary source destination,
        TransferRouted t s s' dto x body beneficiary source destination := by
  cases h.onDb with
  | notified ns db _ => exact .inl (by rw [db, Db.addNotifications_accounts])
  | posted payment result p posted ns due first applied pays db trace =>
    refine .inr ⟨payment, due.executes, fun hu =>
      hu payment result [p.transaction] (by simp [trace]), ?_⟩
    exact fun dto hdto => ⟨p.transaction, hcertified.routed applied pays db trace hdto⟩
  | credited _ _ _ _ _ _ call _ _ _ => exact absurd (by rw [call]; rfl) hc
  | kept call _ => exact absurd call hc

/-- A call that pays changes balances by its posting only. A beneficiary transfer among its postings
reaches the beneficiary's IBAN if and only if the lookup sees every account that has it, and a call
that is rejected changes no balance. -/
theorem transfer_reaches_iban_iff {sha256 : String → String} {w : World}
    {schedule : List Action} {b : Bank} (h : Bank.run sha256 (Bank.start w) schedule = some b)
    {t : ℕ} {c : Call} {program : Service Response} (ht : b.threads t = some (c, program))
    (hc : c.payer ≠ none) :
    (∀ s s', (s, s') ∈ actionsOf sha256 w schedule t → s'.world.db.accounts = s.world.db.accounts ∨
      ∃ payment, Executes t s c payment ∧ ∀ dto, payment.request = .beneficiaryTransfer dto →
        ∃ x body beneficiary source destination,
          TransferRouted t s s' dto x body beneficiary source destination ∧
          (ReachesIban s.world.db beneficiary destination body.internalBeneficiary ↔
            ∀ a ∈ s.world.db.accounts.rows, a.iban = beneficiary.iban → a.Visible)) ∧
      ∀ e, program = .done (.error e) → ∀ s s', (s, s') ∈ actionsOf sha256 w schedule t →
        s'.world.db.accounts = s.world.db.accounts := by
  let D := routingDiscipline sha256
  have hroutes : ∀ s s', (s, s') ∈ actionsOf sha256 w schedule t →
      s'.world.db.accounts = s.world.db.accounts ∨ ∃ payment, Executes t s c payment ∧
        ¬ Uncommitted t s' ∧
        ∀ dto, payment.request = .beneficiaryTransfer dto → ∃ x body beneficiary source destination,
          TransferRouted t s s' dto x body beneficiary source destination := by
    intro s s' hs
    obtain ⟨i, heffect, hcertified⟩ := D.guar_of_mem_transitions (D.init_holds w) h ht hs
    exact heffect.routed hc (hcertified hc)
  constructor
  · intro s s' hs
    refine (hroutes s s' hs).imp id ?_
    rintro ⟨payment, hx, _, hroute⟩
    refine ⟨payment, hx, fun dto hdto => ?_⟩
    obtain ⟨x, body, beneficiary, source, destination, hrouted⟩ := hroute dto hdto
    exact ⟨x, body, beneficiary, source, destination, hrouted,
      hrouted.route.reachesIban_iff hrouted.destination_mem⟩
  · rintro e rfl s s' hs
    refine (hroutes s s' hs).resolve_right ?_
    rintro ⟨_, _, hcommitted, _⟩
    have hend : Uncommitted t b.shared := (discipline sha256).post_of_done (holds_of_start h) ht
    have hgrows := ((grows_persists sha256).transition ((discipline sha256).init_holds w) h hs).2
    exact hcommitted fun p r inserted hm => hend p r inserted (hgrows.trace.subset hm)

def demoBeneficiaryDto : CreateBeneficiaryDto where
  name := "Savings"
  iban := "RO49BKCH0000000022220002"
  «alias» := .undefined

def demoBeneficiaryTransfer : TransferToBeneficiaryDto where
  sourceAccountId := (demoIds .sourceAccount).text
  beneficiaryId := ((demoInputs 2).uuid .beneficiaryWrite).text
  amount := DemoAmount.small.decimal
  currency := "RON"
  accepted := by decide +kernel

def demoBeneficiaryCall : Call :=
  .payment (demoIds .user) (.beneficiaryTransfer demoBeneficiaryTransfer) "k1"

def demoBeneficiarySchedule : List Action :=
  [.spawn 0 (.createBeneficiary (demoIds .user) demoBeneficiaryDto), .act 0 (demoInputs 0),
    .act 0 (demoInputs 1), .act 0 (demoInputs 2), .act 0 (demoInputs 3),
    .spawn 1 demoBeneficiaryCall,
    .act 1 (demoInputs 4), .act 1 (demoInputs 5)]

theorem demo_transfer_reaches_iban : ∃ b s s' x body beneficiary source destination,
    Bank.run demoSha256 (Bank.start demoWorld) demoBeneficiarySchedule = some b ∧
    (s, s') ∈ actionsOf demoSha256 demoWorld demoBeneficiarySchedule 1 ∧
    TransferRouted 1 s s' demoBeneficiaryTransfer x body beneficiary source destination ∧
    (ReachesIban s.world.db beneficiary destination body.internalBeneficiary ↔
      ∀ a ∈ s.world.db.accounts.rows, a.iban = beneficiary.iban → a.Visible) := by
  have hrun : ((Bank.run demoSha256 (Bank.start demoWorld) demoBeneficiarySchedule).bind fun b =>
      (b.threads 1).map fun x => decide (x.1.payer = some (demoIds .user)) && decide (x.1.asked.map
        Payment.request = some (.beneficiaryTransfer demoBeneficiaryTransfer))) = some true := by
    decide +kernel
  have hpaid : ((actionsOf demoSha256 demoWorld demoBeneficiarySchedule 1).any fun x =>
      x.2.world.db.balance (demoIds .destAccount) ≠ x.1.world.db.balance (demoIds .destAccount)) =
        true := by
    decide +kernel
  obtain ⟨b, hb, hrun⟩ := Option.bind_eq_some_iff.mp hrun
  obtain ⟨⟨c, program⟩, ht, hc⟩ := Option.map_eq_some_iff.mp hrun
  obtain ⟨hpayer, hasked⟩ := Bool.and_eq_true_iff.mp hc
  obtain ⟨⟨s, s'⟩, hs, hchanged⟩ := List.any_eq_true.mp hpaid
  have hpays : c.payer ≠ none := by simp [of_decide_eq_true hpayer]
  rcases (transfer_reaches_iban_iff hb ht hpays).1 s s' hs with hsame | ⟨payment, hx, hroute⟩
  · simp [Db.balance, hsame] at hchanged
  · cases hx with
    | asked h =>
      have hrequest := of_decide_eq_true hasked
      rw [h] at hrequest
      obtain ⟨x, body, beneficiary, source, destination, hrouted, hiff⟩ :=
        hroute _ (Option.some.inj hrequest)
      exact ⟨b, s, s', x, body, beneficiary, source, destination, hb, hs, hrouted, hiff⟩
    | confirmed _ _ => simp [Call.asked] at hasked

/-- No call freezes an account; the column is there for the bank's staff. -/
def Account.freeze : Patch Account where
  apply a := { a with status := .frozen }
  key_apply _ := rfl
  alt_apply _ := rfl

def frozenWorld : World where
  db := { demoDb with accounts := demoDb.accounts.modify (demoIds .destAccount) Account.freeze }

/-- The account with the beneficiary's IBAN is frozen, and the money leaves the bank instead. -/
theorem frozen_beneficiary_paid_outside : ∃ b beneficiary a,
    Bank.run demoSha256 (Bank.start frozenWorld) demoBeneficiarySchedule = some b ∧
    b.status 1 = some 201 ∧ beneficiary ∈ b.db.beneficiaries.rows ∧
    beneficiary.id.text = demoBeneficiaryTransfer.beneficiaryId ∧
    a ∈ frozenWorld.db.accounts.rows ∧ a.iban = beneficiary.iban ∧ a.status = .frozen ∧
    b.db.balance a.id = frozenWorld.db.balance a.id ∧
    b.db.balance (demoIds .extSystemAccount) =
      frozenWorld.db.balance (demoIds .extSystemAccount) + 250 := by
  have heval : ((Bank.run demoSha256 (Bank.start frozenWorld) demoBeneficiarySchedule).bind fun b =>
      b.db.beneficiaries.rows.head?.bind fun beneficiary =>
        (frozenWorld.db.accounts.findAlt beneficiary.iban).map fun a =>
          decide (b.status 1 = some 201) &&
          (decide (beneficiary.id.text = demoBeneficiaryTransfer.beneficiaryId) &&
          (decide (a.status = .frozen) &&
          (decide (b.db.balance a.id = frozenWorld.db.balance a.id) &&
          decide (b.db.balance (demoIds .extSystemAccount) =
            frozenWorld.db.balance (demoIds .extSystemAccount) + 250))))) = some true := by
    decide +kernel
  obtain ⟨b, hb, heval⟩ := Option.bind_eq_some_iff.mp heval
  obtain ⟨beneficiary, hhead, heval⟩ := Option.bind_eq_some_iff.mp heval
  obtain ⟨a, ha, hall⟩ := Option.map_eq_some_iff.mp heval
  simp only [Bool.and_eq_true, decide_eq_true_eq] at hall
  obtain ⟨hstatus, hid, hfrozen, hkept, houtside⟩ := hall
  obtain ⟨hm, hiban⟩ := Table.findAlt_eq_some.mp ha
  exact ⟨b, beneficiary, a, hb, hstatus, List.mem_of_head? hhead, hid, hm,
    Option.some.inj hiban, hfrozen,
    hkept, houtside⟩

end OnlineBanking
