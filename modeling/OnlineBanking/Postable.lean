import OnlineBanking.BeneficiaryRouting
import OnlineBanking.Repetition

set_option autoImplicit false

/-! A payment that one attempt could post is posted by any other attempt on the same rows, unless a
fault of its own keeps it from that. -/

namespace OnlineBanking

open Library Callback

/-- The rows that only the callback looks at, besides those that `Payable` is about. -/
def Db.Open (db : Db) : PaymentRequest → Prop
  | .internalTransfer _ => True
  | .beneficiaryTransfer dto =>
    ∀ b ∈ db.beneficiaries.rows, b.id.spelledBy dto.beneficiaryId = true →
      b.status = .active ∧
      (∀ a ∈ db.accounts.rows, a.iban = b.iban → a.Visible →
        db.customerOf a ≠ none ∧ a.id.spelledBy dto.sourceAccountId = false) ∧
      ((∀ a ∈ db.accounts.rows, a.iban = b.iban → ¬ a.Visible) → ∃ a ∈ db.accounts.rows,
        a.accountType = "EXTERNAL_SETTLEMENT" ∧ a.isSystem = true ∧ a.status = .active ∧
          a.currency = "RON")
  | .merchantPayment dto =>
    ∀ m ∈ db.merchants.rows, m.id.spelledBy dto.merchantId = true → m.status = .active

def Db.Postable (db : Db) (payment : Payment) : Prop :=
  (∃ source destination, Payable db payment source destination) ∧ db.Open payment.request

section Same

variable {sha256 : String → String} {db db' : Db} {payment payment' : Payment}
    {source destination : Account}

lemma SamePayment.amount (h : SamePayment payment payment') :
    payment.request.amount = payment'.request.amount :=
  congrArg NormalizedRequest.amount h.request

lemma SamePayment.sourceAccountId (h : SamePayment payment payment') :
    payment.request.sourceAccountId = payment'.request.sourceAccountId :=
  congrArg NormalizedRequest.sourceAccountId h.request

lemma SamePayment.counterparty (h : SamePayment payment payment') (source destination : Account) :
    (Counterparty db payment.request source destination ↔
      Counterparty db payment'.request source destination) ∧
      (db.Open payment.request ↔ db.Open payment'.request) := by
  have htype := h.type
  have hsource := h.sourceAccountId
  have hcounterparty := congrArg NormalizedRequest.counterpartyId h.request
  cases hr : payment.request with
  | internalTransfer dto =>
    cases hr' : payment'.request with
    | internalTransfer dto' =>
      rw [hr, hr'] at hcounterparty
      have hdestination : dto.destinationAccountId = dto'.destinationAccountId := hcounterparty
      simp only [Counterparty, Db.Open, hdestination, and_self]
    | _ => simp [hr, hr', PaymentRequest.type] at htype
  | beneficiaryTransfer dto =>
    cases hr' : payment'.request with
    | beneficiaryTransfer dto' =>
      rw [hr, hr'] at hcounterparty hsource
      have hbeneficiary : dto.beneficiaryId = dto'.beneficiaryId := hcounterparty
      have hsource : dto.sourceAccountId = dto'.sourceAccountId := hsource
      simp only [Counterparty, Db.Open, hbeneficiary, hsource, and_self]
    | _ => simp [hr, hr', PaymentRequest.type] at htype
  | merchantPayment dto =>
    cases hr' : payment'.request with
    | merchantPayment dto' =>
      rw [hr, hr'] at hcounterparty
      have hmerchant : dto.merchantId = dto'.merchantId := hcounterparty
      simp only [Counterparty, Db.Open, hmerchant, and_self]
    | _ => simp [hr, hr', PaymentRequest.type] at htype

lemma Payable.same (h : Payable db payment source destination) (hs : SamePayment payment payment') :
    Payable db payment' source destination :=
  { h with
    key_unused := hs.userId ▸ hs.key ▸ h.key_unused
    owner := hs.userId ▸ h.owner
    source_named := hs.sourceAccountId ▸ h.source_named
    funds := hs.amount ▸ h.funds
    counterparty := (hs.counterparty source destination).1.mp h.counterparty }

lemma Db.Postable.same (h : db.Postable payment) (hs : SamePayment payment payment') :
    db.Postable payment' := by
  obtain ⟨⟨source, destination, payable⟩, hopen⟩ := h
  exact ⟨⟨source, destination, payable.same hs⟩, (hs.counterparty source destination).2.mp hopen⟩

lemma Db.Answers.same {answer : PaymentBody} (h : db.Answers sha256 payment answer)
    (hs : SamePayment payment payment') :
    db.Answers sha256 payment' answer := by
  obtain ⟨row, hfound, stores⟩ := h
  have hhash : payment.request.hash sha256 = payment'.request.hash sha256 := hs.hash
  exact ⟨row, hs.userId ▸ hs.key ▸ hfound, hhash ▸ stores.same hs⟩

structure Db.SameFunds (db db' : Db) : Prop where
  accounts : db'.accounts = db.accounts
  customerProfiles : db'.customerProfiles = db.customerProfiles
  beneficiaries : db'.beneficiaries = db.beneficiaries
  merchants : db'.merchants = db.merchants
  idempotencyKeys : db'.idempotencyKeys = db.idempotencyKeys

lemma Db.SameFunds.trans {db'' : Db} (h : db.SameFunds db') (h' : db'.SameFunds db'') :
    db.SameFunds db'' :=
  ⟨h'.accounts.trans h.accounts, h'.customerProfiles.trans h.customerProfiles,
    h'.beneficiaries.trans h.beneficiaries, h'.merchants.trans h.merchants,
    h'.idempotencyKeys.trans h.idempotencyKeys⟩

lemma Db.SameFunds.symm (h : db.SameFunds db') : db'.SameFunds db :=
  ⟨h.accounts.symm, h.customerProfiles.symm, h.beneficiaries.symm, h.merchants.symm,
    h.idempotencyKeys.symm⟩

lemma Db.SameFunds.counterparty (h : db.SameFunds db') (request : PaymentRequest)
    (source destination : Account) :
    (Counterparty db' request source destination ↔ Counterparty db request source destination) ∧
      (db'.Open request ↔ db.Open request) := by
  cases request <;> simp only [Counterparty, Db.Open, Db.customerOf, h.accounts, h.customerProfiles,
    h.beneficiaries,
    h.merchants, and_self]

lemma Db.Postable.sameFunds (h : db.Postable payment) (hs : db.SameFunds db') :
    db'.Postable payment := by
  obtain ⟨⟨source, destination, payable⟩, hopen⟩ := h
  obtain ⟨hcounterparty, hopens⟩ := hs.counterparty payment.request source destination
  have hpayable : Payable db' payment source destination :=
    { payable with
      key_unused := hs.idempotencyKeys ▸ payable.key_unused
      owner := hs.customerProfiles ▸ payable.owner
      source_found := hs.accounts ▸ payable.source_found
      destination_found := hs.accounts ▸ payable.destination_found
      counterparty := hcounterparty.mpr payable.counterparty }
  exact ⟨⟨source, destination, hpayable⟩, hopens.mpr hopen⟩

end Same

section Opens

variable {i : TxInputs} {db : Db} {userId profileId : Uuid} {key requestHash : String}

lemma resolveDestination_opens {beneficiary : Beneficiary} {s : Session Db Notification}
    (ha : s.aborted = false) :
    Ends i (resolveDestination beneficiary "RON") s
      (fun r s' => s' = s ∧
        (∀ a ∈ s.db.accounts.rows, a.iban = beneficiary.iban → a.Visible →
          a = r.1 ∧ s.db.customerOf a ≠ none) ∧
        ((∀ a ∈ s.db.accounts.rows, a.iban = beneficiary.iban → ¬ a.Visible) →
            ∃ a ∈ s.db.accounts.rows,
          a.accountType = "EXTERNAL_SETTLEMENT" ∧ a.isSystem = true ∧ a.status = .active ∧
            a.currency = "RON"))
      (fun _ _ => True) := by
  unfold resolveDestination
  refine ends_bind (Tx.ends_readWith ha (fun _ => trivial) (fun hnone => ?_)
    fun account customer hf hj => ?_)
  · refine ends_bind (Tx.ends_read ha (fun _ _ => trivial) fun found hfound => ?_)
    cases found with
    | none => exact ends_throw trivial
    | some account =>
      obtain ⟨hm, hp⟩ := Table.findFirst_eq_some hfound.symm
      refine ends_pure ⟨rfl, fun a ha hiban hvisible => ?_, fun _ => ?_⟩
      · exact absurd ⟨hiban, hvisible⟩ (of_decide_eq_false (Table.findFirst_eq_none hnone ha))
      · exact ⟨account, hm, of_decide_eq_true hp⟩
  · obtain ⟨hm, hp⟩ := Table.findFirst_eq_some hf
    obtain ⟨hiban, hvisible⟩ := of_decide_eq_true hp
    refine ends_pure ⟨rfl, fun a ha haiban _ => ?_, fun hnone => absurd hvisible (hnone _ hm hiban)⟩
    obtain rfl : a = account :=
      s.db.accounts.eq_of_alt_eq ha hm (congrArg some haiban) (congrArg some hiban)
    exact ⟨rfl, by simp [hj]⟩

lemma executeBeneficiaryTransferTx_opens {dto : TransferToBeneficiaryDto} :
    Ends i (executeBeneficiaryTransferTx userId profileId dto key "RON" requestHash) { db }
      (fun r _ => r.httpStatus = 201 → db.Open (.beneficiaryTransfer dto)) (fun _ _ => True) := by
  unfold executeBeneficiaryTransferTx findKey createKey
  refine ends_bind (Tx.ends_read rfl (fun _ _ => trivial) fun existing _ => ?_)
  cases existing with
  | some row =>
    refine ends_mono replayKey_replays (fun r s h hcreated => ?_) fun _ _ h => h
    cases h.2.symm.trans hcreated
  | none =>
    refine ends_bind (Tx.ends_create rfl (fun _ => trivial) fun idemRow keys _ _ => ?_)
    refine ends_bind (Tx.ends_readWith rfl (fun _ => trivial) (fun _ => ends_throw trivial) ?_)
    intro source sender hs _
    obtain ⟨hsn, _⟩ := of_decide_eq_true (Table.findFirst_eq_some hs).2
    dsimp only
    split
    · exact failKey_ends rfl fun _ _ _ => trivial
    · refine ends_bind (Tx.ends_read rfl (fun _ _ => trivial) fun found hfound => ?_)
      cases found with
      | none => exact ends_throw trivial
      | some beneficiary =>
        obtain ⟨hbm, hbp⟩ := Table.findFirst_eq_some hfound.symm
        obtain ⟨hbn, _, hba⟩ := of_decide_eq_true hbp
        refine ends_bind (ends_mono (resolveDestination_opens rfl) ?_ fun _ _ h => h)
        rintro ⟨destination, recipient⟩ _ ⟨rfl, hinternal, hexternal⟩
        dsimp only
        split
        · exact ends_throw trivial
        · rename_i hne
          refine ends_of_all (fun r s' _ b hb hnamed => ?_) fun _ _ => trivial
          obtain rfl : b = beneficiary :=
            db.beneficiaries.eq_of_key_eq hb hbm (Uuid.eq_of_spelledBy hnamed hbn rfl)
          refine ⟨hba, fun a ha hiban hvisible => ?_, hexternal⟩
          obtain ⟨rfl, hcustomer⟩ := hinternal a ha hiban hvisible
          refine ⟨hcustomer, ?_⟩
          by_contra hsource
          exact hne (Uuid.eq_of_spelledBy hsn (by simpa using hsource) rfl)

lemma executeMerchantPaymentTx_opens {dto : PayMerchantDto} :
    Ends i (executeMerchantPaymentTx userId profileId dto key "RON" requestHash) { db }
      (fun r _ => r.httpStatus = 201 → db.Open (.merchantPayment dto)) (fun _ _ => True) := by
  unfold executeMerchantPaymentTx findKey createKey
  refine ends_bind (Tx.ends_read rfl (fun _ _ => trivial) fun existing _ => ?_)
  cases existing with
  | some row =>
    refine ends_mono replayKey_replays (fun r s h hcreated => ?_) fun _ _ h => h
    cases h.2.symm.trans hcreated
  | none =>
    refine ends_bind (Tx.ends_create rfl (fun _ => trivial) fun idemRow keys _ _ => ?_)
    refine ends_bind (Tx.ends_read rfl (fun _ _ => trivial) fun found _ => ?_)
    cases found with
    | none => exact ends_throw trivial
    | some source =>
      refine ends_bind (Tx.ends_readWith rfl (fun _ => trivial) (fun _ => ends_throw trivial) ?_)
      intro merchant settlement hm _
      obtain ⟨hmm, hmp⟩ := Table.findFirst_eq_some hm
      obtain ⟨hmn, hma⟩ := of_decide_eq_true hmp
      refine ends_of_all (fun r s' _ m hm hnamed => ?_) fun _ _ => trivial
      obtain rfl : m = merchant :=
        db.merchants.eq_of_key_eq hm hmm (Uuid.eq_of_spelledBy hnamed hmn rfl)
      exact hma

lemma callback_opens {sha256 : String → String} {payment : Payment} {β : Type}
    {callback : Tx (ServiceResult β)} {body : β → PaymentBody}
    (h : PaymentCallback sha256 payment profileId callback body)
    (owner : ∃ profile ∈ db.customerProfiles.rows, profile.userId = payment.userId ∧
      profile.id = profileId) :
    Ends i callback { db } (fun r s => s.aborted = false ∧
      ((r.map body).httpStatus = 201 → db.Open payment.request)) fun _ _ => True := by
  refine ends_and (h.alive i db owner) ?_
  obtain ⟨userId, request, key⟩ := payment
  cases h with
  | transfer dto currency ron hrequest =>
    subst ron hrequest
    exact ends_of_all (fun _ _ _ => trivial) fun _ _ => trivial
  | beneficiary dto currency ron hrequest =>
    subst ron hrequest
    exact executeBeneficiaryTransferTx_opens
  | merchant dto currency ron hrequest =>
    subst ron hrequest
    exact executeMerchantPaymentTx_opens

end Opens

end OnlineBanking
