import OnlineBanking.TruthfulKeys

set_option autoImplicit false

/-! The amount of a transfer is the decimal that its request renders, wherever it is written
down. -/

namespace OnlineBanking

open Library

lemma maxTwoDecimalPlaces_iff (n : Decimal) :
    maxTwoDecimalPlaces n = true ↔ ∀ cs, Decimal.fraction n.text = some cs → cs.length ≤ 2 := by
  have hf : fractionPart n = Decimal.fraction n.text := rfl
  unfold maxTwoDecimalPlaces
  rw [hf]
  cases Decimal.fraction n.text with
  | none => simp
  | some cs => simp

lemma accepted_iff (n : Decimal) :
    (1 / 100 ≤ n.value ∧ n.value ≤ 10 ^ 12 ∧ maxTwoDecimalPlaces n = true) ↔
      Decimal.Multiple 2 (Decimal.signedDenoted n.text) ∧ 1 / 100 ≤ Decimal.signedDenoted n.text ∧
        Decimal.signedDenoted n.text ≤ 10 ^ 12 := by
  rw [Decimal.signedDenoted_text, maxTwoDecimalPlaces_iff]
  have hcheck : 1 / 100 ≤ n.value → n.value ≤ 10 ^ 12 →
      (Decimal.Multiple 2 n.value ↔ ∀ cs, Decimal.fraction n.text = some cs → cs.length ≤ 2) := by
    intro hlow hhigh
    apply Decimal.multiple_iff_fraction
    · exact le_trans (by norm_num) hlow
    · exact hhigh.trans (by norm_num)
  constructor
  · rintro ⟨hlow, hhigh, hplaces⟩
    exact ⟨(hcheck hlow hhigh).mpr hplaces, hlow, hhigh⟩
  · rintro ⟨hmultiple, hlow, hhigh⟩
    exact ⟨hlow, hhigh, (hcheck hlow hhigh).mp hmultiple⟩

lemma CreateTransferDto.bounds (dto : CreateTransferDto) :
    1 / 100 ≤ dto.amount.value ∧ dto.amount.value ≤ 10 ^ 12 := by
  have h := dto.accepted
  simp only [CreateTransferBody.valid, Bool.and_eq_true, decide_eq_true_eq] at h
  exact h.1.1.2.1

/-- What a posted transfer of `amount` writes, from `db` to `db'`, and what it answers. -/
structure TransfersExactly (db db' : Db) (body : PaymentBody) (x : Transaction)
    (amount : ℚ) : Prop where
  transaction : db'.transactions.rows = db.transactions.rows ++ [x] ∧ x.amount = amount
  entries : ∃ debit credit, db'.ledgerEntries.rows = db.ledgerEntries.rows ++ [debit, credit] ∧
    debit.side = .debit ∧ credit.side = .credit ∧ debit.amount = amount ∧ credit.amount = amount
  balances : ∃ source destination, x.fromAccountId = some source ∧
    x.toAccountId = some destination ∧
    ∀ id, db'.balance id =
      db.balance id - (if id = source then amount else 0) + if id = destination then amount else 0
  audit : ∃ audit text, db'.auditEvents.rows = db.auditEvents.rows ++ [audit] ∧
    audit.metadata.bind (Json.strField "amount") = some text ∧
      Decimal.signedDenoted text.toList = amount
  response : ∃ answer, body = .transfer answer ∧ Decimal.denoted answer.amount.toList = amount
  stored : Decimal.column 19 4 amount = some amount
  unrounded : ∀ given held, Decimal.column 19 4 given = some held →
    Decimal.roundTo 4 (held - amount) = held - amount ∧
      Decimal.roundTo 4 (held + amount) = held + amount

section Columns

variable {amount : ℚ}

lemma column_amount (hmultiple : Decimal.Multiple 2 amount) (hlow : 0 ≤ amount)
    (hhigh : amount ≤ 10 ^ 12) :
    Decimal.column 19 4 amount = some amount := by
  have hfits : |amount| < 10 ^ (19 - 4) := by
    rw [abs_of_nonneg hlow]
    exact lt_of_le_of_lt hhigh (by norm_num)
  rw [Decimal.column_of_multiple (hmultiple.mono (by decide)), if_pos hfits]

lemma unrounded_amount (hmultiple : Decimal.Multiple 2 amount) {given held : ℚ}
    (hheld : Decimal.column 19 4 given = some held) :
    Decimal.roundTo 4 (held - amount) = held - amount ∧
      Decimal.roundTo 4 (held + amount) = held + amount := by
  have hplaces : Decimal.Multiple 4 amount := hmultiple.mono (by decide)
  have hplaces' : Decimal.Multiple 4 held := Decimal.multiple_of_column hheld
  constructor
  · rw [sub_eq_add_neg]
    exact Decimal.roundTo_of_multiple (hplaces'.add hplaces.neg)
  · exact Decimal.roundTo_of_multiple (hplaces'.add hplaces)

end Columns

section Steps

variable {sha256 : String → String} {s s' : State} {x : Transaction}

lemma Files.transfersExactly (h : Files sha256 s s') (hx : x ∈ s'.world.db.transactions.rows)
    (hnew : x ∉ s.world.db.transactions.rows) (htype : x.type = .internalTransfer) :
    ∃ t payment result, ∃ dto : CreateTransferDto, payment.request = .internalTransfer dto ∧
      s'.trace = s.trace ++ [(t, .committed payment result [x])] ∧
      TransfersExactly s.world.db s'.world.db result.body x dto.amount.value := by
  cases h with
  | nothing transactions _ _ => exact absurd (transactions ▸ hx) hnew
  | credit p accountId dto db applied accounts credits entered =>
    rw [entered.transactions, List.mem_append, List.mem_singleton] at hx
    obtain rfl := hx.resolve_left hnew
    rw [credits.type] at htype
    cases htype
  | payment t c payment result p db row executes accepted applied accounts pays stores entered
    profiles trace =>
    rw [entered.transactions, List.mem_append, List.mem_singleton] at hx
    obtain rfl := hx.resolve_left hnew
    rw [pays.type] at htype
    cases hrequest : payment.request with
    | beneficiaryTransfer dto => simp [hrequest, PaymentRequest.type] at htype
    | merchantPayment dto => simp [hrequest, PaymentRequest.type] at htype
    | internalTransfer dto =>
      have hamount : p.transaction.amount = dto.amount.value := by rw [pays.amount, hrequest]; rfl
      have hmultiple : Decimal.Multiple 2 dto.amount.value :=
        PaymentRequest.amount_multiple (.internalTransfer dto)
      refine ⟨t, payment, result, dto, hrequest, trace, ?_⟩
      obtain ⟨hlow, hhigh⟩ := dto.bounds
      constructor
      · exact ⟨entered.transactions, hamount⟩
      · exact ⟨p.debit, p.credit, entered.ledgerEntries, p.debits.side, p.credits.side,
          p.debits.amount.trans hamount, p.credits.amount.trans hamount⟩
      · refine ⟨p.source.id, p.destination.id, p.from_source, p.to_destination, fun id => ?_⟩
        have hbalance : s'.world.db.balance id = db.balance id := by simp [Db.balance, accounts]
        rw [hbalance, applied.balance, Book.net_entry, hamount]
        simp only [eq_comm (a := id)]
        split <;> split <;> ring
      · refine ⟨p.audit, dto.amount.toString, entered.auditEvents, ?_, ?_⟩
        · rw [entered.auditAmount, hrequest]
          rfl
        · rw [Decimal.toString, String.toList_ofList, Decimal.signedDenoted_text]
      · have hreadable := pays.readable
        rw [hrequest, PaymentRequest.type, parsePayload] at hreadable
        obtain ⟨answer, _, hanswer⟩ := Option.map_eq_some_iff.mp hreadable
        refine ⟨answer, hanswer.symm, ?_⟩
        have htext := entered.amount
        rw [← hanswer, hrequest] at htext
        rw [show answer.amount = _ from htext]
        exact PaymentRequest.denoted_toFixed (.internalTransfer dto)
      · exact column_amount hmultiple (le_trans (by norm_num) hlow) hhigh
      · exact fun given held => unrounded_amount hmultiple

end Steps

/-- The checks of the DTO accept exactly the numbers whose rendering denotes a multiple of a cent
within the bounds, and a posted transfer writes and answers exactly what the rendering of its amount
denotes. -/
theorem amounts_exact {sha256 : String → String} {w : World} {schedule : List Action} {a : Action}
    {b b' : Bank} {x : Transaction} (h : Bank.run sha256 (Bank.start w) schedule = some b)
    (hs : Bank.step sha256 b a = some b') (hx : x ∈ b'.db.transactions.rows)
    (hnew : x ∉ b.db.transactions.rows) (htype : x.type = .internalTransfer) :
    (∀ n : Decimal, (1 / 100 ≤ n.value ∧ n.value ≤ 10 ^ 12 ∧ maxTwoDecimalPlaces n = true) ↔
      Decimal.Multiple 2 (Decimal.signedDenoted n.text) ∧ 1 / 100 ≤ Decimal.signedDenoted n.text ∧
        Decimal.signedDenoted n.text ≤ 10 ^ 12) ∧
    ∃ t payment result, ∃ dto : CreateTransferDto, payment.request = .internalTransfer dto ∧
      b'.trace = b.trace ++ [(t, .committed payment result [x])] ∧
      TransfersExactly b.db b'.db result.body x (Decimal.signedDenoted dto.amount.text) := by
  refine ⟨accepted_iff, ?_⟩
  obtain ⟨t, payment, result, dto, hrequest, htrace, hexactly⟩ :=
    (step_files h hs).2.transfersExactly hx hnew htype
  rw [← Decimal.signedDenoted_text] at hexactly
  exact ⟨t, payment, result, dto, hrequest, htrace, hexactly⟩

theorem demo_amounts_exact : ∃ b b' x,
    Bank.run demoSha256 (Bank.start demoWorld)
      [.spawn 0 (demoPayment .small " k1 "), .act 0 (demoInputs 0)] = some b ∧
    Bank.step demoSha256 b (.act 0 (demoInputs 1)) = some b' ∧ x ∈ b'.db.transactions.rows ∧
    (∀ n : Decimal, (1 / 100 ≤ n.value ∧ n.value ≤ 10 ^ 12 ∧ maxTwoDecimalPlaces n = true) ↔
      Decimal.Multiple 2 (Decimal.signedDenoted n.text) ∧ 1 / 100 ≤ Decimal.signedDenoted n.text ∧
        Decimal.signedDenoted n.text ≤ 10 ^ 12) ∧
    ∃ t payment result, ∃ dto : CreateTransferDto, payment.request = .internalTransfer dto ∧
      b'.trace = b.trace ++ [(t, .committed payment result [x])] ∧
      TransfersExactly b.db b'.db result.body x (Decimal.signedDenoted dto.amount.text) := by
  have heval : ((Bank.run demoSha256 (Bank.start demoWorld)
      [.spawn 0 (demoPayment .small " k1 "), .act 0 (demoInputs 0)]).bind fun b =>
        (Bank.step demoSha256 b (.act 0 (demoInputs 1))).bind fun b' =>
          b'.db.transactions.rows.head?.map fun x => decide (b.db.transactions.rows.length = 0) &&
            decide (x.type = .internalTransfer)) = some true := by decide +kernel
  obtain ⟨b, hb, heval⟩ := Option.bind_eq_some_iff.mp heval
  obtain ⟨b', hb', heval⟩ := Option.bind_eq_some_iff.mp heval
  obtain ⟨x, hhead, hall⟩ := Option.map_eq_some_iff.mp heval
  simp only [Bool.and_eq_true, decide_eq_true_eq] at hall
  have hx := List.mem_of_head? hhead
  have hnew : x ∉ b.db.transactions.rows := by simp [List.eq_nil_of_length_eq_zero hall.1]
  exact ⟨b, b', x, hb, hb', hx, amounts_exact hb hb' hx hnew hall.2⟩

end OnlineBanking
