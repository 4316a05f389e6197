import OnlineBanking.Conservation
import OnlineBanking.Library.FixedPoint
import OnlineBanking.PostingRecords

set_option autoImplicit false

/-! What an idempotency row says of a payment, and what the records of the payment say. -/

namespace OnlineBanking

open Library

def scopeOf : TransactionType → String
  | .internalTransfer => transferScope
  | .beneficiaryTransfer => beneficiaryTransferScope
  | _ => merchantPaymentScope

lemma PaymentRequest.scope_eq (r : PaymentRequest) : r.scope = scopeOf r.type := by
  cases r <;> rfl

lemma PaymentBody.transactionId_toJson (body : PaymentBody) :
    body.toJson.strField "transactionId" = some body.transactionId := by
  cases body <;> rfl

lemma parsePayload_exact {type : TransactionType} {body body' : PaymentBody}
    (h : parsePayload type (some body.toJson) = some body') (type' : TransactionType) :
    (parsePayload type' (some body.toJson)).isSome = true ↔ type' = type := by
  have hnone : ∀ (b : PaymentBody) (u v : TransactionType),
      (parsePayload u (some b.toJson)).isSome = true →
      (parsePayload v (some b.toJson)).isSome = true → u = v := by
    intro b u v hu hv
    cases b <;> cases u <;> first | exact absurd hu Bool.false_ne_true | skip
    all_goals cases v <;> first | exact absurd hv Bool.false_ne_true | rfl
  have hread : (parsePayload type (some body.toJson)).isSome = true := by
    rw [h]
    rfl
  constructor
  · intro h'
    exact hnone body type' type h' hread
  · rintro rfl
    exact hread

lemma PaymentRequest.amount_multiple (r : PaymentRequest) : Decimal.Multiple 2 r.amount.value := by
  have htwo : ∀ n : Decimal, 0 < n.value → isNumberWithTwoPlaces n = true →
      Decimal.Multiple 2 n.value := by
    intro n hpos h
    rcases Bool.or_eq_true_iff.mp h with hint | hfraction
    · exact ⟨n.value.num * 100, by
        conv_lhs => rw [← Rat.num_div_den n.value, of_decide_eq_true hint]
        push_cast
        norm_num⟩
    · have hf : fractionPart n = Decimal.fraction n.text := rfl
      rw [hf] at hfraction
      cases hcs : Decimal.fraction n.text with
      | none => simp [hcs] at hfraction
      | some cs => exact Decimal.multiple_of_fraction hpos hcs (by simpa [hcs] using hfraction)
  cases r with
  | internalTransfer dto =>
    have h := dto.accepted
    simp only [CreateTransferBody.valid, Bool.and_eq_true, decide_eq_true_eq] at h
    obtain ⟨⟨⟨_, ⟨hlow, hhigh⟩, htext⟩, _⟩, _⟩ := h
    apply (Decimal.multiple_iff_fraction (hlow.trans' (by norm_num))
      (hhigh.trans (by norm_num))).mpr
    intro cs hcs
    have hf : fractionPart dto.amount = Decimal.fraction dto.amount.text := rfl
    simpa [maxTwoDecimalPlaces, hf, hcs] using htext
  | beneficiaryTransfer dto =>
    have h := dto.accepted
    simp only [TransferToBeneficiaryBody.valid, Bool.and_eq_true, decide_eq_true_eq] at h
    exact htwo _ dto.amount_pos h.1.1.2.1
  | merchantPayment dto =>
    have h := dto.accepted
    simp only [PayMerchantBody.valid, Bool.and_eq_true, decide_eq_true_eq] at h
    exact htwo _ dto.amount_pos h.1.1.2.1.1

lemma PaymentRequest.denoted_toFixed (r : PaymentRequest) :
    Decimal.denoted (r.amount.toFixed 2).toList = r.amount.value :=
  Decimal.denoted_toFixed (Decimal.nonnegative_of_value_pos r.amount_pos)
    (by decide) r.amount_multiple

/-- Transaction `x` is the payment that was posted under the row, and these are its records. -/
structure PostedUnder (db : Db) (row : IdempotencyKey) (x : Transaction) (payment : Payment)
    (requestHash : String) (body : PaymentBody) (debit credit : LedgerEntry) : Prop where
  posted : x.status = .posted
  type : x.type = payment.request.type
  amount : x.amount = payment.request.amount.value
  customer : ∃ profile ∈ db.customerProfiles.rows, profile.userId = row.userId ∧
    x.customerId = some profile.id
  entries : (db.ledgerEntries.rows.filter fun e => e.transactionId = x.id) = [debit, credit]
  debits : ∃ source, x.fromAccountId = some source ∧ body.sourceAccountId = source.text ∧
    debit.Records x source .debit
  credits : ∃ destination, x.toAccountId = some destination ∧ credit.Records x destination .credit
  stores : row.Stores payment requestHash body
  readable : parsePayload payment.request.type (some body.toJson) = some body
  scope : row.scope = payment.request.scope
  transactionId : body.transactionId = x.id.text
  bodyAmount : body.amount = payment.request.amount.toFixed 2
  currency : body.currency = x.currency
  postedAt : x.postedAt = none ↔ payment.request.type = .beneficiaryTransfer
  idempotencyKeyId : x.idempotencyKeyId =
    if payment.request.type = .beneficiaryTransfer then none else some row.id
  sequences : debit.sequence = 0 ∧ credit.sequence = 1

structure CreditFiled (db : Db) (x : Transaction) (debit credit : LedgerEntry) : Prop where
  posted : x.status = .posted
  type : x.type = .adminCredit
  entries : (db.ledgerEntries.rows.filter fun e => e.transactionId = x.id) = [debit, credit]
  postedAt : x.postedAt = none
  sequences : debit.sequence = 0 ∧ credit.sequence = 0

def IdempotencyKey.payloadId (k : IdempotencyKey) : Option String :=
  k.responsePayload.bind (Json.strField "transactionId")

structure Filed (db : Db) : Prop where
  rows : ∀ row ∈ db.idempotencyKeys.rows, ∃ x ∈ db.transactions.rows,
    ∃ payment requestHash body debit credit,
    PostedUnder db row x payment requestHash body debit credit
  payments : ∀ x ∈ db.transactions.rows, x.type.isPayment = true →
    ∃ row ∈ db.idempotencyKeys.rows, ∃ payment requestHash body debit credit,
      PostedUnder db row x payment requestHash body debit credit
  apart : (db.idempotencyKeys.rows.map IdempotencyKey.payloadId).Nodup
  owned : db.EntriesOwned

section Steps

variable {sha256 : String → String} {s s' : State}

lemma PostedUnder.payloadId {db : Db} {row : IdempotencyKey} {x : Transaction} {payment : Payment}
    {requestHash : String} {body : PaymentBody} {debit credit : LedgerEntry}
    (h : PostedUnder db row x payment requestHash body debit credit) :
    row.payloadId = some x.id.text := by
  rw [IdempotencyKey.payloadId, h.stores.responsePayload, Option.bind_some,
    body.transactionId_toJson, h.transactionId]

lemma entries_append {db : Db} {es new : List LedgerEntry} {x : Transaction} {id : Uuid}
    (hrows : db.ledgerEntries.rows = es ++ new) (hnew : ∀ e ∈ new, e.transactionId = id)
    (hne : x.id ≠ id) :
    (db.ledgerEntries.rows.filter fun e => e.transactionId = x.id) = es.filter fun e =>
    e.transactionId = x.id := by
  have hnone : (new.filter fun e => e.transactionId = x.id) = [] := by
    rw [List.filter_eq_nil_iff]
    intro e he heq
    exact hne ((of_decide_eq_true heq).symm.trans (hnew e he))
  rw [hrows, List.filter_append, hnone, List.append_nil]

lemma PostedUnder.grows {row : IdempotencyKey} {x : Transaction} {payment : Payment}
    {requestHash : String} {body : PaymentBody} {debit credit : LedgerEntry}
    (h : PostedUnder s.world.db row x payment requestHash body debit credit) (hs : Persists s s')
    (hentries : (s'.world.db.ledgerEntries.rows.filter fun e => e.transactionId = x.id) =
      s.world.db.ledgerEntries.rows.filter fun e => e.transactionId = x.id) :
    PostedUnder s'.world.db row x payment requestHash body debit credit := by
  obtain ⟨profile, hm, huser, hcustomer⟩ := h.customer
  obtain ⟨profile', hm', hid, huser'⟩ := hs.profiles profile hm
  exact { h with
    customer := ⟨profile', hm', huser'.trans huser, hid ▸ hcustomer⟩
    entries := hentries.trans h.entries }

lemma exists_postedUnder_grows {row : IdempotencyKey} {x : Transaction} (hs : Persists s s')
    (hentries : (s'.world.db.ledgerEntries.rows.filter fun e => e.transactionId = x.id) =
      s.world.db.ledgerEntries.rows.filter fun e => e.transactionId = x.id) :
    (∃ payment requestHash body debit credit,
      PostedUnder s.world.db row x payment requestHash body debit credit) →
    ∃ payment requestHash body debit credit,
      PostedUnder s'.world.db row x payment requestHash body debit credit := by
  rintro ⟨payment, requestHash, body, debit, credit, h⟩
  exact ⟨payment, requestHash, body, debit, credit, h.grows hs hentries⟩

lemma entries_new {db db' : Db} {p : Posting} (howned : db.EntriesOwned)
    (hfresh : ∀ t ∈ db.transactions.rows, t.id ≠ p.transaction.id)
    (hrows : db'.ledgerEntries.rows = db.ledgerEntries.rows ++ [p.debit, p.credit]) :
    (db'.ledgerEntries.rows.filter fun e => e.transactionId = p.transaction.id) =
    [p.debit, p.credit] := by
  have hnone : (db.ledgerEntries.rows.filter fun e => e.transactionId = p.transaction.id) = [] := by
    rw [List.filter_eq_nil_iff]
    intro e he heq
    obtain ⟨t, ht, hid⟩ := howned e he
    exact hfresh t ht (hid.symm.trans (of_decide_eq_true heq))
  rw [hrows, List.filter_append, hnone, List.nil_append, List.filter_eq_self]
  intro e he
  rcases List.mem_pair.mp he with rfl | rfl
  · exact decide_eq_true p.debits.transactionId
  · exact decide_eq_true p.credits.transactionId

lemma Posting.entry_ids (p : Posting) :
    ∀ e ∈ [p.debit, p.credit], e.transactionId = p.transaction.id := by
  intro e he
  rcases List.mem_pair.mp he with rfl | rfl
  · exact p.debits.transactionId
  · exact p.credits.transactionId

lemma entriesOwned_posted {db db' : Db} {p : Posting} (howned : db.EntriesOwned)
    (htransactions : db'.transactions.rows = db.transactions.rows ++ [p.transaction])
    (hentries : db'.ledgerEntries.rows = db.ledgerEntries.rows ++ [p.debit, p.credit]) :
    db'.EntriesOwned := by
  intro e he
  rw [hentries] at he
  rw [htransactions]
  rcases List.mem_append.mp he with he | he
  · obtain ⟨t, ht, hid⟩ := howned e he
    exact ⟨t, List.mem_append_left _ ht, hid⟩
  · exact ⟨p.transaction, by simp, p.entry_ids e he⟩

theorem Filed.files (h : Filed s.world.db) (hpersists : Persists s s')
    (hfiles : Files sha256 s s') :
    Filed s'.world.db := by
  cases hfiles with
  | nothing htransactions hentries hkeys =>
    constructor
    · intro row hrow
      obtain ⟨x, hx, hposted⟩ := h.rows row (hkeys ▸ hrow)
      exact ⟨x, htransactions ▸ hx, exists_postedUnder_grows hpersists (by rw [hentries]) hposted⟩
    · intro x hx hpayment
      obtain ⟨row, hrow, hposted⟩ := h.payments x (htransactions ▸ hx) hpayment
      exact ⟨row, hkeys ▸ hrow, exists_postedUnder_grows hpersists (by rw [hentries]) hposted⟩
    · exact hkeys ▸ h.apart
    · simpa [Db.EntriesOwned, htransactions, hentries] using h.owned
  | credit p accountId dto db applied accounts credits entered =>
    have hfresh := fun t ht => applied.fresh (t := t) ht
    have hgrows := fun x hx => entries_append entered.ledgerEntries p.entry_ids (hfresh x hx)
    constructor
    · intro row hrow
      obtain ⟨x, hx, hposted⟩ := h.rows row (entered.idempotencyKeys ▸ hrow)
      exact ⟨x, by simp [entered.transactions, hx],
          exists_postedUnder_grows hpersists (hgrows x hx) hposted⟩
    · intro x hx hpayment
      rw [entered.transactions] at hx
      rcases List.mem_append.mp hx with hx | hx
      · obtain ⟨row, hrow, hposted⟩ := h.payments x hx hpayment
        exact ⟨row, entered.idempotencyKeys ▸ hrow,
          exists_postedUnder_grows hpersists (hgrows x hx) hposted⟩
      · obtain rfl := List.mem_singleton.mp hx
        simp [credits.type, TransactionType.isPayment] at hpayment
    · exact entered.idempotencyKeys ▸ h.apart
    · exact entriesOwned_posted h.owned entered.transactions entered.ledgerEntries
  | payment t c payment result p db row executes accepted applied accounts pays stores entered
    profiles trace =>
    have hfresh := fun t ht => applied.fresh (t := t) ht
    have hgrows := fun x hx => entries_append entered.ledgerEntries p.entry_ids (hfresh x hx)
    obtain ⟨profile, hprofile, huser, hid⟩ := pays.payable.owner
    have hnew : PostedUnder s'.world.db row p.transaction payment
        (payment.request.hash sha256) result.body
        p.debit p.credit := {
      posted := p.posted
      type := pays.type
      amount := pays.amount
      customer := ⟨profile, profiles ▸ hprofile, huser.trans stores.userId.symm,
        hid ▸ pays.customer⟩
      entries := entries_new h.owned hfresh entered.ledgerEntries
      debits := ⟨p.source.id, p.from_source,
        by simpa [p.from_source] using entered.sourceAccountId, p.debits⟩
      credits := ⟨p.destination.id, p.to_destination, p.credits⟩
      stores := stores
      readable := pays.readable
      scope := entered.scope
      transactionId := entered.transactionId
      bodyAmount := entered.amount
      currency := entered.currency
      postedAt := entered.postedAt
      idempotencyKeyId := entered.idempotencyKeyId
      sequences := entered.sequences }
    constructor
    · intro k hk
      rw [entered.idempotencyKeys] at hk
      rcases List.mem_append.mp hk with hk | hk
      · obtain ⟨x, hx, hposted⟩ := h.rows k hk
        exact ⟨x, by simp [entered.transactions, hx],
          exists_postedUnder_grows hpersists (hgrows x hx) hposted⟩
      · obtain rfl := List.mem_singleton.mp hk
        exact ⟨p.transaction, by simp [entered.transactions], _, _, _, _, _, hnew⟩
    · intro x hx hpayment
      rw [entered.transactions] at hx
      rcases List.mem_append.mp hx with hx | hx
      · obtain ⟨k, hk, hposted⟩ := h.payments x hx hpayment
        exact ⟨k, by simp [entered.idempotencyKeys, hk],
          exists_postedUnder_grows hpersists (hgrows x hx) hposted⟩
      · obtain rfl := List.mem_singleton.mp hx
        exact ⟨row, by simp [entered.idempotencyKeys], _, _, _, _, _, hnew⟩
    · -- older rows name older transactions
      rw [entered.idempotencyKeys, List.map_append, List.nodup_append]
      refine ⟨h.apart, List.nodup_singleton _, ?_⟩
      intro id hid id' hid' heq
      obtain ⟨k, hk, rfl⟩ := List.mem_map.mp hid
      obtain rfl := List.mem_singleton.mp hid'
      obtain ⟨x, hx, _, _, _, _, _, hposted⟩ := h.rows k hk
      rw [hposted.payloadId, hnew.payloadId] at heq
      exact hfresh x hx (Uuid.ext_text (Option.some.inj heq))
    · exact entriesOwned_posted h.owned entered.transactions entered.ledgerEntries

end Steps

theorem run_filed {sha256 : String → String} {w : World} {schedule : List Action} {b : Bank}
    (hkeys : w.db.idempotencyKeys.rows = [])
    (hpayments : ∀ x ∈ w.db.transactions.rows, x.type.isPayment = false)
    (hforeign : w.db.EntriesOwned)
    (h : Bank.run sha256 (Bank.start w) schedule = some b) : Filed b.db := by
  refine run_files (P := fun s => Filed s.world.db) (fun _ _ hs hp hf => hs.files hp hf) ?_ h
  constructor
  · intro row hrow
    simp [hkeys] at hrow
  · intro x hx hpayment
    simp [hpayments x hx] at hpayment
  · simp [hkeys]
  · exact hforeign

structure IdempotencyKey.Names (k : IdempotencyKey) (db : Db) (x : Transaction) : Prop where
  hashed : k.requestHash ≠ none
  payment : x.type.isPayment = true
  scope : k.scope = scopeOf x.type
  parser : ∀ type, (parsePayload type k.responsePayload).isSome = true ↔ type = x.type
  named : k.payloadId = some x.id.text
  posted : x.status = .posted
  customer : ∃ profile ∈ db.customerProfiles.rows, profile.userId = k.userId ∧
    x.customerId = some profile.id
  records : ∃ body debit credit source, parsePayload x.type k.responsePayload = some body ∧
    body.transactionId = x.id.text ∧ x.fromAccountId = some source ∧
      body.sourceAccountId = source.text ∧
    Decimal.denoted body.amount.toList = x.amount ∧ body.currency = x.currency ∧
    (db.ledgerEntries.rows.filter fun e => e.transactionId = x.id) = [debit, credit] ∧
    debit.side = .debit ∧ debit.accountId = source ∧ debit.amount = x.amount ∧
      debit.currency = x.currency ∧
    credit.side = .credit ∧ credit.amount = x.amount ∧ credit.currency = x.currency

lemma PostedUnder.names {db : Db} {row : IdempotencyKey} {x : Transaction} {payment : Payment}
    {requestHash : String} {body : PaymentBody} {debit credit : LedgerEntry}
    (h : PostedUnder db row x payment requestHash body debit credit) : row.Names db x := by
  obtain ⟨source, hfrom, hsource, hdebit⟩ := h.debits
  obtain ⟨destination, _, hcredit⟩ := h.credits
  have hamount : Decimal.denoted body.amount.toList = x.amount := by
    rw [h.bodyAmount, h.amount]
    exact payment.request.denoted_toFixed
  constructor
  · simp [h.stores.requestHash]
  · rw [h.type]
    exact payment.request.isPayment_type
  · rw [h.scope, h.type, payment.request.scope_eq]
  · intro type
    rw [h.stores.responsePayload, h.type]
    exact parsePayload_exact h.readable type
  · exact h.payloadId
  · exact h.posted
  · exact h.customer
  · refine ⟨body, debit, credit, source, ?_, h.transactionId, hfrom, hsource, hamount,
      h.currency, h.entries,
      hdebit.side, hdebit.accountId, hdebit.amount, hdebit.currency, hcredit.side, hcredit.amount,
      hcredit.currency⟩
    rw [h.stores.responsePayload, h.type, h.readable]

/-- From a database without keys and payments on, every row is completed and tells the truth of one
transaction, which no other row names; every payment has its row, and no completed row changes. -/
theorem keys_truthful {sha256 : String → String} {w : World} {schedule : List Action} {b : Bank}
    (hkeys : w.db.idempotencyKeys.rows = [])
    (hpayments : ∀ x ∈ w.db.transactions.rows, x.type.isPayment = false)
    (hforeign : w.db.EntriesOwned) (h : Bank.run sha256 (Bank.start w) schedule = some b) :
    (∀ k ∈ b.db.idempotencyKeys.rows, k.status ≠ .inProgress) ∧
      (∀ k ∈ b.db.idempotencyKeys.rows, k.status = .completed →
        ∃ x ∈ b.db.transactions.rows, k.Names b.db x) ∧
      (∀ k ∈ b.db.idempotencyKeys.rows, ∀ k' ∈ b.db.idempotencyKeys.rows, ∀ x,
        k.Names b.db x → k'.Names b.db x → k = k') ∧
      (∀ x ∈ b.db.transactions.rows, x.type.isPayment = true →
        ∃ k ∈ b.db.idempotencyKeys.rows, k.status = .completed ∧ k.Names b.db x) ∧
      ∀ later b', Bank.run sha256 b later = some b' → ∀ k ∈ b.db.idempotencyKeys.rows,
        k.status = .completed → k ∈ b'.db.idempotencyKeys.rows := by
  have hfiled := run_filed hkeys hpayments hforeign h
  refine ⟨?progress, ?truth, ?apart, ?covered, ?kept⟩
  case progress =>
    intro k hk
    obtain ⟨x, _, _, _, _, _, _, hposted⟩ := hfiled.rows k hk
    simp [hposted.stores.completed]
  case truth =>
    intro k hk _
    obtain ⟨x, hx, _, _, _, _, _, hposted⟩ := hfiled.rows k hk
    exact ⟨x, hx, hposted.names⟩
  case apart =>
    intro k hk k' hk' x hnames hnames'
    exact List.inj_on_of_nodup_map hfiled.apart hk hk' (hnames.named.trans hnames'.named.symm)
  case covered =>
    intro x hx hpayment
    obtain ⟨k, hk, _, _, _, _, _, hposted⟩ := hfiled.payments x hx hpayment
    exact ⟨k, hk, hposted.stores.completed, hposted.names⟩
  case kept =>
    intro later b' h' k hk _
    exact ((grows_persists sha256).run (holds_of_start h) h').keys k hk

theorem demo_keys_truthful : ∃ b, demoRun = some b ∧
    (∀ k ∈ b.db.idempotencyKeys.rows, k.status ≠ .inProgress) ∧
      (∀ k ∈ b.db.idempotencyKeys.rows, k.status = .completed →
        ∃ x ∈ b.db.transactions.rows, k.Names b.db x) ∧
      (∀ k ∈ b.db.idempotencyKeys.rows, ∀ k' ∈ b.db.idempotencyKeys.rows, ∀ x,
        k.Names b.db x → k'.Names b.db x → k = k') ∧
      (∀ x ∈ b.db.transactions.rows, x.type.isPayment = true →
        ∃ k ∈ b.db.idempotencyKeys.rows, k.status = .completed ∧ k.Names b.db x) ∧
      ∀ later b', Bank.run demoSha256 b later = some b' → ∀ k ∈ b.db.idempotencyKeys.rows,
        k.status = .completed → k ∈ b'.db.idempotencyKeys.rows := by
  obtain ⟨b, hb⟩ := demoRun_isSome
  have hkeys : demoWorld.db.idempotencyKeys.rows.length = 0 := by decide +kernel
  have hnone : demoWorld.db.transactions.rows = [] := demoDb_seeded.shape.transactions
  have hentries : demoWorld.db.ledgerEntries.rows = [] := demoDb_seeded.shape.ledgerEntries
  refine ⟨b, hb, keys_truthful (List.eq_nil_of_length_eq_zero hkeys) ?_ ?_ hb⟩
  · simp [hnone]
  · simp [Db.EntriesOwned, hentries]

end OnlineBanking
