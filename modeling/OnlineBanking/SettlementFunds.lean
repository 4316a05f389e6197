import OnlineBanking.BeneficiaryRouting
import OnlineBanking.SelfTransfers

set_option autoImplicit false

/-! The settlement accounts of the bank: what they hold besides what they started with is what was
paid into them, as long as no credit is funded from one of them. -/

namespace OnlineBanking

open Library Callback

/-- The row that creditAccount's lookup returns: any system account will do. -/
def fundingAccount (choice : ℕ) (db : Db) : Option Account :=
  db.accounts.findFirst (fun a => a.isSystem = true ∧ a.currency = "RON" ∧ a.status = .active)
    choice

section Funding

variable {sha256 : String → String} {t : ℕ} {c : Call} {s : State}

/-- A credit that is posted takes its money from the account that the lookup returned. -/
def FundedBy (i : Inputs) (s s' : State) : Prop :=
  s'.world.db.transactions = s.world.db.transactions ∨ ∃ x system,
    fundingAccount (i.choice .systemFind) s.world.db = some system ∧
      s'.world.db.transactions.rows = s.world.db.transactions.rows ++ [x] ∧
        x.fromAccountId = some system.id

lemma creditAccountTx_funded (i : TxInputs) (db : Db) (adminUserId accountId : Uuid)
    (dto : AdminCreditDto) :
    Ends i (creditAccountTx adminUserId accountId dto) { db }
      (fun _ s => s.aborted = false ∧
          ∃ x system, fundingAccount (i.choice .systemFind) db = some system ∧
        s.db.transactions.rows = db.transactions.rows ++ [x] ∧ x.fromAccountId = some system.id)
      (fun _ _ => True) := by
  unfold creditAccountTx
  refine ends_bind (Tx.ends_readWith rfl (fun _ => trivial) (fun _ => ends_throw trivial) ?_)
  intro target customer _ _
  dsimp only
  split
  · exact ends_throw trivial
  · split
    · exact ends_throw trivial
    · refine ends_bind (Tx.ends_read rfl (fun _ _ => trivial) fun found hfound => ?_)
      cases found with
      | none => exact ends_throw trivial
      | some system =>
        refine ends_bind (Tx.ends_update rfl (fun _ _ => trivial) fun _ _ => ?_)
        refine ends_bind (Tx.ends_update rfl (fun _ _ => trivial) fun _ _ => ?_)
        refine ends_bind (Tx.ends_create rfl (fun _ => trivial)
          fun txn transactions htxn htxns => ?_)
        refine ends_bind (Tx.ends_create rfl (fun _ => trivial) fun _ _ _ _ => ?_)
        refine ends_bind (Tx.ends_create rfl (fun _ => trivial) fun _ _ _ _ => ?_)
        refine ends_bind (Tx.ends_create rfl (fun _ => trivial) fun _ _ _ _ => ?_)
        refine ends_bind (Tx.ends_notificationsCreate fun _ _ => ?_)
        subst htxn
        exact ends_pure ⟨rfl, _, system, hfound.symm, (Table.insert_eq_some.mp htxns).2.2, rfl⟩

lemma creditAccount_funded {adminUserId accountId : Uuid} {dto : AdminCreditDto} :
    (handle sha256 (.creditAccount adminUserId accountId dto)).Safe (Rely t)
    (fun _ _ => True) FundedBy t
      (fun _ _ => True) s := by
  apply (creditAccount_entered
    (P := fun i db db' => ∃ x system, fundingAccount (i.choice .systemFind) db = some system ∧
    db'.transactions.rows = db.transactions.rows ++ [x] ∧ x.fromAccountId = some system.id)
    fun i db => creditAccountTx_funded i db adminUserId accountId dto).guar
  rintro i s s' (hsame | ⟨db, ns, ⟨x, system, hfound, hrows, hfrom⟩, hdb⟩)
  · exact .inl hsame
  · refine .inr ⟨x, system, hfound, ?_, hfrom⟩
    rw [hdb, Db.addNotifications_transactions]
    exact hrows

/-- What the bank guarantees, the routes of beneficiary transfers and the funding of credits
included. -/
def fundsDiscipline (sha256 : String → String) :
    Discipline (E := Event) (handle sha256) environment :=
  (routingDiscipline sha256).strengthen
    (fun _ c i s s' => (∃ adminUserId accountId dto, c = .creditAccount adminUserId accountId dto) →
      FundedBy i s s')
    fun t c s _ => by
      cases c with
      | creditAccount adminUserId accountId dto =>
        exact creditAccount_funded.guar fun _ _ _ h _ => h
      | _ => exact Prog.Safe.of_true (fun _ _ _ ⟨_, _, _, h⟩ => by cases h) fun _ _ => trivial

end Funding

def SystemRows (db db' : Db) : Prop :=
  ∀ a ∈ db'.accounts.rows, a.isSystem = true → ∃ a₀ ∈ db.accounts.rows,
    a₀.isSystem = true ∧ a₀.id = a.id ∧ a₀.accountType = a.accountType ∧
      a₀.customerId = a.customerId

section Rows

variable {sha256 : String → String} {t : ℕ} {c : Call} {i : Inputs} {s s' : State} {db db' : Db}

lemma SystemRows.of_accounts (h : db'.accounts = db.accounts) : SystemRows db db' :=
  fun a ha hsystem => ⟨a, h ▸ ha, hsystem, rfl, rfl, rfl⟩

lemma SystemRows.trans {db'' : Db} (h : SystemRows db db') (h' : SystemRows db' db'') :
    SystemRows db db'' := by
  intro a ha hsystem
  obtain ⟨b, hb, hbs, hbi, hbt, hbc⟩ := h' a ha hsystem
  obtain ⟨a₀, ha₀, hs, hi, htype, hcustomer⟩ := h b hb hbs
  exact ⟨a₀, ha₀, hs, hi.trans hbi, htype.trans hbt, hcustomer.trans hbc⟩

lemma Posting.Applied.systemRows {p : Posting} (h : p.Applied db db') : SystemRows db db' := by
  intro a ha hsystem
  have hfound : db'.accounts.find a.id = some a := Table.find_eq_some.mpr ⟨ha, rfl⟩
  rw [h.find] at hfound
  obtain ⟨a₀, ha₀, hrow⟩ := Option.map_eq_some_iff.mp hfound
  refine ⟨a₀, (Table.find_eq_some.mp ha₀).1, ?_, ?_, ?_, ?_⟩
  · rwa [← hrow] at hsystem
  all_goals rw [← hrow]

lemma Db.Kept.systemRows (h : db.Kept db') : SystemRows db db' := by
  obtain ⟨opened, hrows, hopened⟩ := h.accounts
  intro a ha hsystem
  rcases List.mem_append.mp (hrows ▸ ha) with ha | ha
  · exact ⟨a, ha, hsystem, rfl, rfl, rfl⟩
  · simp [(hopened a ha).1] at hsystem

lemma Effect.systemRows (h : Effect sha256 t c i s s') : SystemRows s.world.db s'.world.db := by
  cases h.onDb with
  | notified ns db _ => exact .of_accounts (by simp [db])
  | posted _ _ _ _ _ _ _ applied _ db _ =>
    exact applied.systemRows.trans (.of_accounts (by simp [db]))
  | credited _ _ _ _ _ _ _ applied _ db =>
    exact applied.systemRows.trans (.of_accounts (by simp [db]))
  | kept _ frame => exact frame.systemRows

end Rows

def Account.IsSettlement (a : Account) : Prop :=
  a.accountType = "MERCHANT_SETTLEMENT" ∨ a.accountType = "EXTERNAL_SETTLEMENT"

def Transaction.isExternal (start : Db) (x : Transaction) : Bool :=
  x.type = .beneficiaryTransfer && x.toAccountId.any fun id =>
    (start.accounts.find id).any Account.isSystem

def Account.receives (start : Db) (a : Account) (x : Transaction) : Bool :=
  if a.accountType = "MERCHANT_SETTLEMENT" then x.type = .merchantPayment ∧
    x.toAccountId = some a.id
  else x.isExternal start

def received (start db : Db) (a : Account) : ℚ :=
  ((db.transactions.rows.filter (a.receives start)).map Transaction.amount).sum

/-- What the seed says of the bank's own accounts; they belong to the profile of `owner`. -/
structure SettlementAccounts (start : Db) (owner : Uuid) : Prop where
  owned : ∀ a ∈ start.accounts.rows, a.isSystem = true →
    ∃ p ∈ start.customerProfiles.rows, p.userId = owner ∧ p.id = a.customerId
  merchants : ∀ m ∈ start.merchants.rows, ∀ a ∈ start.accounts.rows, a.id = m.settlementAccountId →
    a.accountType = "MERCHANT_SETTLEMENT"
  system : ∀ a ∈ start.accounts.rows, a.IsSettlement → a.isSystem = true
  external : ∀ a ∈ start.accounts.rows, ∀ b ∈ start.accounts.rows,
    a.accountType = "EXTERNAL_SETTLEMENT" → b.accountType = "EXTERNAL_SETTLEMENT" → a = b

structure Segregating (start db : Db) : Prop where
  rows : SystemRows start db
  isSystem : ∀ id, db.isSystem id ↔ start.isSystem id
  merchants : db.merchants = start.merchants
  profiles : ∀ p ∈ start.customerProfiles.rows, ∃ p' ∈ db.customerProfiles.rows,
    p'.id = p.id ∧ p'.userId = p.userId
  funds : ∀ a ∈ start.accounts.rows, a.IsSettlement →
    db.balance a.id = a.availableBalance + received start db a

/-- The posting takes nothing from the account, and pays into it what belongs there. -/
structure Posting.RespectsFunds (p : Posting) (start : Db) (a : Account) : Prop where
  source : p.source.id ≠ a.id
  destination : p.destination.id = a.id ↔ a.receives start p.transaction = true

section Step

variable {sha256 : String → String} {t : ℕ} {c : Call} {i : Inputs} {s s' : State}
    {start db db' : Db}
variable {owner : Uuid} {p : Posting} {a : Account}

lemma Posting.RespectsFunds.balance (h : p.RespectsFunds start a) (applied : p.Applied db db') :
    db'.balance a.id = db.balance a.id + if a.receives start p.transaction then p.transaction.amount
      else 0 := by
  rw [applied.balance, Book.net_entry]
  by_cases hd : p.destination.id = a.id
  · simp [h.destination.mp hd, hd, h.source]
  · have hno : a.receives start p.transaction = false := by simpa using mt h.destination.mpr hd
    simp [hno, hd, h.source]

lemma received_applied (applied : p.Applied db db') :
    received start db' a =
      received start db a + if a.receives start p.transaction then p.transaction.amount else 0 := by
  unfold received
  rw [applied.transactions, List.filter_append, List.map_append, List.sum_append]
  by_cases h : a.receives start p.transaction <;> simp [h]

lemma Posting.RespectsFunds.le (h : p.RespectsFunds start a) (applied : p.Applied db db') :
    db.balance a.id ≤ db'.balance a.id := by
  rw [h.balance applied]
  split
  · exact le_add_of_nonneg_right p.positive.le
  · simp

lemma Segregating.start_row (h : Segregating start db) {x : Account}
    (hx : db.accounts.find x.id = some x) (hsystem : x.isSystem = true) :
    ∃ a₀ ∈ start.accounts.rows,
      a₀.isSystem = true ∧ a₀.id = x.id ∧ a₀.accountType = x.accountType ∧
        a₀.customerId = x.customerId :=
  h.rows x (Table.find_eq_some.mp hx).1 hsystem

lemma Segregating.ne_of_customer (h : Segregating start db)
    (hstart : SettlementAccounts start owner) (ha : a ∈ start.accounts.rows)
    (hsettlement : a.IsSettlement) {x : Account} (hx : db.accounts.find x.id = some x)
    (hcustomer : x.isSystem = false) : x.id ≠ a.id := by
  intro hid
  have hsystem : start.isSystem a.id :=
    ⟨a, Table.find_eq_some.mpr ⟨ha, rfl⟩, hstart.system a ha hsettlement⟩
  exact Db.not_isSystem hx hcustomer (hid ▸ (h.isSystem a.id).mpr hsystem)

lemma Segregating.not_external (h : Segregating start db) {x : Account}
    (hx : db.accounts.find x.id = some x) (hcustomer : x.isSystem = false) :
    (start.accounts.find x.id).any Account.isSystem = false := by
  cases hf : start.accounts.find x.id with
  | none => rfl
  | some y =>
    have hnot := mt (h.isSystem x.id).mpr (Db.not_isSystem hx hcustomer)
    simpa using fun hsystem => hnot ⟨y, hf, hsystem⟩

lemma receives_merchant (htype : a.accountType = "MERCHANT_SETTLEMENT") (x : Transaction) :
    a.receives start x = true ↔ x.type = .merchantPayment ∧ x.toAccountId = some a.id := by
  simp [Account.receives, htype]

lemma receives_external (htype : a.accountType = "EXTERNAL_SETTLEMENT") (x : Transaction) :
    a.receives start x = x.isExternal start := by
  simp [Account.receives, htype]

lemma Segregating.respects_of_customers (h : Segregating start db)
    (hstart : SettlementAccounts start owner) (ha : a ∈ start.accounts.rows)
    (hsettlement : a.IsSettlement) (applied : p.Applied db db') (hsource : p.source.id ≠ a.id)
    (hdestination : p.destination.isSystem = false) :
    p.RespectsFunds start a := by
  have hne := h.ne_of_customer hstart ha hsettlement applied.destination_found hdestination
  refine ⟨hsource, fun hd => absurd hd hne, fun hreceives => ?_⟩
  rcases hsettlement with htype | htype
  · obtain ⟨_, hto⟩ := (receives_merchant htype _).mp hreceives
    exact Option.some.inj (p.to_destination.symm.trans hto)
  · rw [receives_external htype, Transaction.isExternal, p.to_destination] at hreceives
    simp [h.not_external applied.destination_found hdestination] at hreceives

lemma Segregating.respects_merchant (h : Segregating start db)
    (hstart : SettlementAccounts start owner) (ha : a ∈ start.accounts.rows)
    (hsettlement : a.IsSettlement) (hsource : p.source.id ≠ a.id)
    (htype : p.transaction.type = .merchantPayment) {m : Merchant} (hm : m ∈ db.merchants.rows)
    (hid : m.settlementAccountId = p.destination.id) : p.RespectsFunds start a := by
  refine ⟨hsource, fun hd => ?_, fun hreceives => ?_⟩
  · have hmerchant := hstart.merchants m (h.merchants ▸ hm) a ha (hd.symm.trans hid.symm)
    exact (receives_merchant hmerchant _).mpr ⟨htype, hd ▸ p.to_destination⟩
  · rcases hsettlement with hmerchant | hexternal
    · obtain ⟨_, hto⟩ := (receives_merchant hmerchant _).mp hreceives
      exact Option.some.inj (p.to_destination.symm.trans hto)
    · rw [receives_external hexternal, Transaction.isExternal, htype] at hreceives
      simp at hreceives

lemma Segregating.respects_external (h : Segregating start db)
    (hstart : SettlementAccounts start owner) (ha : a ∈ start.accounts.rows)
    (hsettlement : a.IsSettlement) (applied : p.Applied db db') (hsource : p.source.id ≠ a.id)
    (htype : p.transaction.type = .beneficiaryTransfer) (hsystem : p.destination.isSystem = true)
    (hexternal : p.destination.accountType = "EXTERNAL_SETTLEMENT") : p.RespectsFunds start a := by
  obtain ⟨a₀, ha₀, hs₀, hid, htype₀, _⟩ := h.start_row applied.destination_found hsystem
  refine ⟨hsource, fun hd => ?_, fun hreceives => ?_⟩
  · obtain rfl : a₀ = a := start.accounts.eq_of_key_eq ha₀ ha (hid.trans hd)
    have hfound : start.accounts.find p.destination.id = some a₀ :=
      Table.find_eq_some.mpr ⟨ha₀, hid⟩
    rw [receives_external (htype₀.trans hexternal), Transaction.isExternal, htype, p.to_destination]
    simp [hfound, hs₀]
  · rcases hsettlement with hmerchant | hexternal'
    · have hpaid := ((receives_merchant hmerchant _).mp hreceives).1
      simp [htype] at hpaid
    · rw [← hstart.external a₀ ha₀ a ha (htype₀.trans hexternal) hexternal', hid]

lemma Segregating.posting (h : Segregating start db) {posted : Db} (applied : p.Applied db posted)
    (same : SameMoney posted db') (hrows : SystemRows db db')
    (hprofiles : ∀ p ∈ db.customerProfiles.rows, ∃ p' ∈ db'.customerProfiles.rows,
      p'.id = p.id ∧ p'.userId = p.userId)
    (hrespects : ∀ a ∈ start.accounts.rows, a.IsSettlement → p.RespectsFunds start a) :
    Segregating start db' ∧ ∀ a ∈ start.accounts.rows, a.IsSettlement →
      db.balance a.id ≤ db'.balance a.id := by
  have hbalance : db'.balance = posted.balance := congrArg Book.balance same.book
  have hreceived : ∀ a, received start db' a = received start posted a := fun a => by
    simp [received, same.transactions]
  refine ⟨⟨h.rows.trans hrows, fun id => ?_, ?_, ?_, fun a ha hsettlement => ?_⟩,
    fun a ha hsettlement => ?_⟩
  · rw [same.isSystem, applied.isSystem_iff, h.isSystem]
  · rw [same.merchants, applied.merchants, h.merchants]
  · intro q hq
    obtain ⟨q', hq', hid, huser⟩ := h.profiles q hq
    obtain ⟨q'', hq'', hid', huser'⟩ := hprofiles q' hq'
    exact ⟨q'', hq'', hid'.trans hid, huser'.trans huser⟩
  · rw [hbalance, hreceived, (hrespects a ha hsettlement).balance applied, received_applied applied,
      h.funds a ha hsettlement, add_assoc]
  · rw [hbalance]
    exact (hrespects a ha hsettlement).le applied

lemma Segregating.quiet (h : Segregating start db) (same : SameMoney db db')
    (hrows : SystemRows db db')
    (hprofiles : ∀ p ∈ db.customerProfiles.rows, ∃ p' ∈ db'.customerProfiles.rows,
      p'.id = p.id ∧ p'.userId = p.userId) :
    Segregating start db' ∧ ∀ a ∈ start.accounts.rows, a.IsSettlement →
      db.balance a.id ≤ db'.balance a.id := by
  have hbalance : db'.balance = db.balance := congrArg Book.balance same.book
  refine ⟨⟨h.rows.trans hrows, fun id => (same.isSystem id).trans (h.isSystem id),
    same.merchants.trans h.merchants, ?_, fun a ha hsettlement => ?_⟩, fun a _ _ =>
      hbalance ▸ le_rfl⟩
  · intro q hq
    obtain ⟨q', hq', hid, huser⟩ := h.profiles q hq
    obtain ⟨q'', hq'', hid', huser'⟩ := hprofiles q' hq'
    exact ⟨q'', hq'', hid'.trans hid, huser'.trans huser⟩
  · rw [hbalance, h.funds a ha hsettlement, received, received, same.transactions]

lemma Segregating.own_transfer (h : Segregating start db) (hstart : SettlementAccounts start owner)
    {payment : Payment} {source destination : Account}
    (payable : Payable db payment source destination) {dto : CreateTransferDto}
    (hrequest : payment.request = .internalTransfer dto) (howner : payment.userId ≠ owner) :
    source.isSystem = false ∧ destination.isSystem = false := by
  obtain ⟨profile, hprofile, huser, hid⟩ := payable.owner
  have hforeign : ∀ x : Account, db.accounts.find x.id = some x → x.customerId = source.customerId →
      x.isSystem = false := by
    intro x hx hcustomer
    by_contra hsystem
    obtain ⟨a₀, ha₀, hs₀, _, _, hcustomer₀⟩ := h.start_row hx (by simpa using hsystem)
    obtain ⟨q, hq, hqu, hqi⟩ := hstart.owned a₀ ha₀ hs₀
    obtain ⟨q', hq', hqi', hqu'⟩ := h.profiles q hq
    have hsame : q'.id = profile.id := by rw [hqi', hqi, hcustomer₀, hcustomer, hid]
    obtain rfl := db.customerProfiles.eq_of_key_eq hq' hprofile hsame
    exact howner (huser.symm.trans (hqu'.trans hqu))
  have hcounterparty := payable.counterparty
  rw [hrequest] at hcounterparty
  exact ⟨hforeign source payable.source_found rfl,
    hforeign destination payable.destination_found hcounterparty.2⟩

theorem Segregating.step (h : Segregating start s.world.db)
    (hstart : SettlementAccounts start owner) (hguar : (fundsDiscipline sha256).Guar t c i s s')
    (howner : ∀ payment dto, Executes t s c payment → payment.request = .internalTransfer dto →
      payment.userId ≠ owner)
    (hcredit : ∀ adminUserId accountId dto system target,
      c = .creditAccount adminUserId accountId dto →
      fundingAccount (i.choice .systemFind) s.world.db = some system →
      Creditable s.world.db accountId system target → ¬ system.IsSettlement) :
    Segregating start s'.world.db ∧ ∀ a ∈ start.accounts.rows, a.IsSettlement →
      s.world.db.balance a.id ≤ s'.world.db.balance a.id := by
  obtain ⟨⟨heffect, hcertified⟩, hfunded⟩ := hguar
  have heffect : Effect sha256 t c i s s' := heffect
  have hrows := heffect.systemRows
  have hprofiles := heffect.persists.profiles
  cases heffect.onDb with
  | notified ns db _ => exact h.quiet (db ▸ .addNotifications _ ns) hrows hprofiles
  | kept _ frame => exact h.quiet frame.sameMoney hrows hprofiles
  | posted payment result p posted ns due first applied pays db trace =>
    refine h.posting applied (db ▸ .addNotifications posted ns) hrows hprofiles ?_
    intro a ha hsettlement
    have hne := h.ne_of_customer hstart ha hsettlement applied.source_found
    have hcounterparty := pays.payable.counterparty
    cases hrequest : payment.request with
    | internalTransfer dto =>
      obtain ⟨hs, hd⟩ := h.own_transfer hstart pays.payable hrequest
        (howner _ _ due.executes hrequest)
      exact h.respects_of_customers hstart ha hsettlement applied (hne hs) hd
    | merchantPayment dto =>
      rw [hrequest] at hcounterparty
      obtain ⟨hs, m, hm, _, hid⟩ := hcounterparty
      exact h.respects_merchant hstart ha hsettlement (hne hs)
        (pays.type.trans (by rw [hrequest]; rfl)) hm hid
    | beneficiaryTransfer dto =>
      rw [hrequest] at hcounterparty
      have hpayer : c.payer ≠ none := by simp [due.executes.payer]
      obtain ⟨body, beneficiary, source, destination, hrouted⟩ :=
        (hcertified hpayer).routed applied pays db trace hrequest
      obtain rfl : p.destination = destination := by
        refine s.world.db.accounts.eq_of_key_eq (Table.find_eq_some.mp applied.destination_found).1
          hrouted.destination_mem (Option.some.inj ?_)
        exact p.to_destination.symm.trans hrouted.to_destination
      have hroute := hrouted.route
      cases hflag : body.internalBeneficiary with
      | true =>
        rw [hflag] at hroute
        cases hroute with
        | internal _ visible =>
          exact h.respects_of_customers hstart ha hsettlement applied
            (hne hcounterparty.1) visible.2.2
      | false =>
        rw [hflag] at hroute
        cases hroute with
        | external _ system type =>
          exact h.respects_external hstart ha hsettlement applied (hne hcounterparty.1)
            (pays.type.trans (by rw [hrequest]; rfl)) system type
  | credited adminUserId accountId dto p posted ns call applied credits db =>
    refine h.posting applied (db ▸ .addNotifications posted ns) hrows hprofiles ?_
    intro a ha hsettlement
    refine h.respects_of_customers hstart ha hsettlement applied ?_
      credits.creditable.target_customer
    have htransactions : s'.world.db.transactions.rows = s.world.db.transactions.rows ++
        [p.transaction] := by
      simp [db, applied.transactions]
    rcases hfunded ⟨adminUserId, accountId, dto, call⟩ with
        hunchanged | ⟨x, system, hfound, hx, hfrom⟩
    · rw [hunchanged] at htransactions
      simp at htransactions
    · obtain rfl : p.transaction = x := by simpa [hx] using htransactions.symm
      obtain rfl : p.source = system := by
        refine s.world.db.accounts.eq_of_key_eq (Table.find_eq_some.mp applied.source_found).1
          (Table.findFirst_eq_some hfound).1 (Option.some.inj ?_)
        exact p.from_source.symm.trans hfrom
      intro hid
      have hnot := hcredit _ _ _ _ _ call hfound credits.creditable
      obtain ⟨a₀, ha₀, _, hid₀, htype₀, _⟩ :=
        h.start_row applied.source_found credits.creditable.source_system
      obtain rfl := start.accounts.eq_of_key_eq ha₀ ha (hid₀.trans hid)
      exact hnot (by simpa [Account.IsSettlement, htype₀] using hsettlement)

end Step

section Runs

variable {sha256 : String → String} {uuid : SeedRow → Uuid} {now : Instant} {w : World}
variable {first second schedule : List Action} {b b₁ b₂ : Bank} {owner : Uuid}

lemma SeedShape.settlementAccounts {db : Db} (h : SeedShape uuid db) :
    SettlementAccounts db (uuid .adminUser) := by
  have hrow : ∀ a ∈ db.accounts.rows, a ∈ seededAccounts uuid := fun a ha => h.accounts ▸ ha
  constructor
  · intro a ha hsystem
    obtain ⟨p, hp, huser, hid⟩ := h.adminProfile
    refine ⟨p, hp, huser, hid.trans ?_⟩
    have ha := hrow a ha
    simp only [seededAccounts, List.mem_cons, List.not_mem_nil, or_false] at ha
    rcases ha with rfl | rfl | rfl | rfl | rfl | rfl | rfl <;> first | rfl | cases hsystem
  · intro m hm a ha hid
    have hmem := List.mem_map_of_mem (f := Merchant.settlementAccountId) hm
    rw [h.merchants, ← hid] at hmem
    have hthat : ∀ n iban, a.id = uuid (.settlementAccount n) →
        seededMerchantAccount uuid n iban ∈ seededAccounts uuid →
          a.accountType = "MERCHANT_SETTLEMENT" := by
      intro n iban hn hin
      obtain rfl := db.accounts.eq_of_key_eq ha (h.accounts ▸ hin) hn
      rfl
    simp only [List.mem_cons, List.not_mem_nil, or_false] at hmem
    rcases hmem with hn | hn | hn
    · exact hthat 0 "RO00MERCH000000000000001" hn (by simp [seededAccounts])
    · exact hthat 1 "RO00MERCH000000000000002" hn (by simp [seededAccounts])
    · exact hthat 2 "RO00MERCH000000000000003" hn (by simp [seededAccounts])
  · intro a ha hsettlement
    have ha := hrow a ha
    simp only [seededAccounts, List.mem_cons, List.not_mem_nil, or_false] at ha
    rcases ha with rfl | rfl | rfl | rfl | rfl | rfl | rfl
    all_goals first | rfl | simp [Account.IsSettlement] at hsettlement
  · intro a ha a' ha' htype htype'
    have hone : ∀ x ∈ seededAccounts uuid, x.accountType = "EXTERNAL_SETTLEMENT" →
        x.id = uuid .extSystemAccount := by
      intro x hx hxt
      simp only [seededAccounts, List.mem_cons, List.not_mem_nil, or_false] at hx
      rcases hx with rfl | rfl | rfl | rfl | rfl | rfl | rfl
      all_goals first | rfl | simp [seededMerchantAccount] at hxt
    exact db.accounts.eq_of_key_eq ha ha'
      ((hone a (hrow a ha) htype).trans (hone a' (hrow a' ha') htype').symm)

lemma Segregating.init (hempty : w.db.transactions.rows = []) : Segregating w.db w.db where
  rows := .of_accounts rfl
  isSystem _ := Iff.rfl
  merchants := rfl
  profiles p hp := ⟨p, hp, rfl, rfl⟩
  funds a ha _ := by
    have hfound : w.db.accounts.find a.id = some a := Table.find_eq_some.mpr ⟨ha, rfl⟩
    simp [Db.balance, hfound, received, hempty]

def CreditsFromReserve (b : Bank) (a : Action) : Prop :=
  ∀ t i adminUserId accountId dto program system target, a = .act t i →
    b.threads t = some (.creditAccount adminUserId accountId dto, program) →
    fundingAccount (i.choice .systemFind) b.db = some system →
    Creditable b.db accountId system target → ¬ system.IsSettlement

def OwnerMakesNoTransfer (owner : Uuid) (b : Bank) (a : Action) : Prop :=
  ∀ t i c program payment dto, a = .act t i → b.threads t = some (c, program) →
    Executes t b.shared c payment → payment.request = .internalTransfer dto → payment.userId ≠ owner

lemma owner_makes_no_transfer (hredis : w.redis = [])
    (howner : ∀ t dto key, .spawn t (.payment owner (.internalTransfer dto) key) ∉ schedule) :
    Config.Meets (handle sha256) environment (OwnerMakesNoTransfer owner)
      (Bank.start w) schedule := by
  refine Discipline.meets_of_runs ?_
  rintro ms l d hprefix hrun t i c program payment dto rfl ht hx hrequest rfl
  have hearlier : ∀ a ∈ ms, a ∈ schedule := fun a ha => hprefix.subset (List.mem_append_left _ ha)
  cases hx with
  | asked h =>
    cases c with
    | payment userId request key =>
      obtain rfl := Option.some.inj h
      obtain rfl : request = .internalTransfer dto := hrequest
      exact howner t dto key (hearlier _ ((discipline sha256).spawn_of_call hrun ht))
    | _ => cases h
  | @confirmed userId challengeId otp challenge at_ read presented =>
    obtain ⟨_, t₀, expiresAt, _, horder⟩ := (run_challenged hredis hrun).reads _ _ _ _ _ read
    obtain ⟨call₀, program₀, ht₀, _, key, rfl, _⟩ :=
      run_accounted hrun (horder.subset List.mem_cons_self)
    have hspawn := (discipline sha256).spawn_of_call hrun ht₀
    rw [show challenge.request = .internalTransfer dto from hrequest] at hspawn
    exact howner t₀ dto key (hearlier _ hspawn)

/-- From the seeded database on, a merchant's settlement account holds the payments to the merchant
and the external settlement account the transfers that left the bank, and neither ever holds
less. -/
theorem settlement_funds_segregated (hseed : Seeded uuid now w.db) (hredis : w.redis = [])
    (howner : ∀ t dto key,
      .spawn t (.payment (uuid .adminUser) (.internalTransfer dto) key) ∉ first ++ second)
    (hm : Config.Meets (handle sha256) environment CreditsFromReserve (Bank.start w)
      (first ++ second))
    (h₁ : Bank.run sha256 (Bank.start w) first = some b₁)
    (h₂ : Bank.run sha256 b₁ second = some b₂) :
    ∀ a ∈ w.db.accounts.rows,
      (a.accountType = "MERCHANT_SETTLEMENT" → b₂.db.balance a.id = a.availableBalance +
        ((b₂.db.transactions.rows.filter fun x =>
          x.type = .merchantPayment ∧ x.toAccountId = some a.id).map Transaction.amount).sum) ∧
      (a.accountType = "EXTERNAL_SETTLEMENT" → b₂.db.balance a.id = a.availableBalance +
        ((b₂.db.transactions.rows.filter (Transaction.isExternal w.db)).map
          Transaction.amount).sum) ∧
      (a.IsSettlement → b₁.db.balance a.id ≤ b₂.db.balance a.id) := by
  let D := fundsDiscipline sha256
  have hstart := hseed.shape.settlementAccounts
  have hboth := Discipline.Meets.and hm (owner_makes_no_transfer hredis howner)
  obtain ⟨hm₁, hm₂⟩ := Discipline.Meets.append hboth h₁
  have hstep : ∀ (c : Bank) t i call p s', D.Holds c → c.threads t = some (call, p) →
      (CreditsFromReserve c (.act t i) ∧ OwnerMakesNoTransfer (uuid .adminUser) c (.act t i)) →
      Segregating w.db c.db → D.Guar t call i c.shared s' → Segregating w.db s'.world.db ∧
        ∀ a ∈ w.db.accounts.rows, a.IsSettlement →
          c.db.balance a.id ≤ s'.world.db.balance a.id := by
    intro c t i call p s' _ ht hcond hc hguar
    refine hc.step hstart hguar ?_ ?_
    · exact fun payment dto hx hrequest => hcond.2 t i call p payment dto rfl ht hx hrequest
    · rintro adminUserId accountId dto system target rfl hfound hcreditable
      exact hcond.1 t i adminUserId accountId dto p system target rfl ht hfound hcreditable
  have henv : ∀ (e : Environment) (s : State), Segregating w.db s.world.db →
      Segregating w.db (environment e s.world).db ∧ ∀ a ∈ w.db.accounts.rows, a.IsSettlement →
        s.world.db.balance a.id ≤ (environment e s.world).db.balance a.id := by
    intro e s hs
    have hkept := environment_kept e s.world
    exact hs.quiet hkept.sameMoney hkept.systemRows hkept.profiles
  obtain ⟨hd₁, hp₁⟩ := D.shared_invariant (P := fun s : State => Segregating w.db s.world.db)
    (fun c t i call p s' hc ht hcond hP hg => (hstep c t i call p s' hc ht hcond hP hg).1)
    (fun e s hs => (henv e s hs).1) (D.init_holds w)
      (Segregating.init hseed.shape.transactions) hm₁ h₁
  obtain ⟨_, hp₂, hle⟩ := D.shared_invariant
    (P := fun s : State => Segregating w.db s.world.db ∧ ∀ a ∈ w.db.accounts.rows, a.IsSettlement →
      b₁.db.balance a.id ≤ s.world.db.balance a.id)
    (fun c t i call p s' hc ht hcond hP hg => by
      obtain ⟨hnext, hmore⟩ := hstep c t i call p s' hc ht hcond hP.1 hg
      exact ⟨hnext, fun a ha hs => (hP.2 a ha hs).trans (hmore a ha hs)⟩)
    (fun e s hs => by
      obtain ⟨hnext, hmore⟩ := henv e s hs.1
      exact ⟨hnext, fun a ha h => (hs.2 a ha h).trans (hmore a ha h)⟩)
    hd₁ ⟨hp₁, fun _ _ _ => le_rfl⟩ hm₂ h₂
  intro a ha
  refine ⟨fun htype => ?_, fun htype => ?_, hle a ha⟩
  · rw [hp₂.funds a ha (.inl htype), received]
    refine congrArg (fun l : List Transaction =>
      a.availableBalance + (l.map Transaction.amount).sum) ?_
    refine List.filter_congr fun x _ => ?_
    rw [Bool.eq_iff_iff, receives_merchant htype, decide_eq_true_eq]
  · rw [hp₂.funds a ha (.inr htype), received]
    refine congrArg (fun l : List Transaction =>
      a.availableBalance + (l.map Transaction.amount).sum) ?_
    exact List.filter_congr fun x _ => receives_external htype x

end Runs

def demoMerchantDto : PayMerchantDto where
  sourceAccountId := (demoIds .sourceAccount).text
  merchantId := (demoIds (.merchant 0)).text
  amount := DemoAmount.small.decimal
  currency := "RON"
  accepted := by decide +kernel

def demoMerchantSchedule : List Action :=
  [.spawn 0 (.payment (demoIds .user) (.merchantPayment demoMerchantDto) "k1"),
    .act 0 (demoInputs 0),
    .act 0 (demoInputs 1)]

/-- Of the five system accounts of the seed, the lookup returns the first, which is the reserve. -/
def creditFromReserveSchedule : List Action :=
  [.spawn 1 (.creditAccount (demoIds .adminUser) (demoIds .destAccount) demoCreditDto),
    .act 1 (demoInputs 4)]

def Bank.fundsByReserve (b : Bank) : Action → Bool
  | .act _ i => (fundingAccount (i.choice .systemFind) b.db).all fun a =>
    a.accountType ≠ "MERCHANT_SETTLEMENT" ∧ a.accountType ≠ "EXTERNAL_SETTLEMENT"
  | _ => true

lemma demo_creditsFromReserve :
    Config.Meets (handle demoSha256) environment CreditsFromReserve (Bank.start demoWorld)
      (demoMerchantSchedule ++ creditFromReserveSchedule) := by
  refine Discipline.meets_of_takes fun k hk l d hnext hrun => ?_
  rintro t i adminUserId accountId dto program system target rfl _ hsystem _
  have hall : ∀ k < 5, ((demoMerchantSchedule ++ creditFromReserveSchedule)[k]?).all fun l =>
      (Bank.run demoSha256 (Bank.start demoWorld)
        ((demoMerchantSchedule ++ creditFromReserveSchedule).take k)).all
        fun d => d.fundsByReserve l := by decide +kernel
  have hfunds := hall k hk
  rw [hnext, show Bank.run demoSha256 (Bank.start demoWorld) _ = some d from hrun] at hfunds
  have hfunds : Bank.fundsByReserve d (.act t i) = true := hfunds
  rw [Bank.fundsByReserve, hsystem] at hfunds
  obtain ⟨hmerchant, hexternal⟩ := of_decide_eq_true hfunds
  exact fun hsettlement => hsettlement.elim hmerchant hexternal

theorem demo_settlement_funds :
    ∃ b₁ b₂, Bank.run demoSha256 (Bank.start demoWorld) demoMerchantSchedule = some b₁ ∧
    b₁.status 0 = some 201 ∧ Bank.run demoSha256 b₁ creditFromReserveSchedule = some b₂ ∧
    b₂.db.balance (demoIds .destAccount) = 250 ∧ ∀ a ∈ demoWorld.db.accounts.rows,
      (a.accountType = "MERCHANT_SETTLEMENT" → b₂.db.balance a.id = a.availableBalance +
        ((b₂.db.transactions.rows.filter fun x =>
          x.type = .merchantPayment ∧ x.toAccountId = some a.id).map Transaction.amount).sum) ∧
      (a.accountType = "EXTERNAL_SETTLEMENT" → b₂.db.balance a.id = a.availableBalance +
        ((b₂.db.transactions.rows.filter (Transaction.isExternal demoWorld.db)).map
            Transaction.amount).sum) ∧
      (a.IsSettlement → b₁.db.balance a.id ≤ b₂.db.balance a.id) := by
  have hrun : (Bank.run demoSha256 (Bank.start demoWorld) demoMerchantSchedule).bind (fun b₁ =>
      (Bank.run demoSha256 b₁ creditFromReserveSchedule).map fun b₂ =>
        (b₁.status 0, b₂.db.balance (demoIds .destAccount))) = some (some 201, 250) := by
          decide +kernel
  obtain ⟨b₁, hb₁, hrun⟩ := Option.bind_eq_some_iff.mp hrun
  obtain ⟨b₂, hb₂, hend⟩ := Option.map_eq_some_iff.mp hrun
  obtain ⟨hstatus, hbalance⟩ := Prod.mk.inj hend
  refine ⟨b₁, b₂, hb₁, hstatus, hb₂, hbalance, ?_⟩
  refine settlement_funds_segregated demoDb_seeded rfl ?_ demo_creditsFromReserve hb₁ hb₂
  intro t dto key hspawn
  simp [demoMerchantSchedule, creditFromReserveSchedule] at hspawn

/-- Of the five system accounts of the seed, the lookup returns the third. -/
def creditFromMerchantSchedule : List Action :=
  [.spawn 0 (.creditAccount (demoIds .adminUser) (demoIds .destAccount) demoCreditDto),
    .act 0 { demoInputs 0 with choice := fun _ => 2 }]

theorem merchant_funds_credit :
    ∃ b a, Bank.run demoSha256 (Bank.start demoWorld) creditFromMerchantSchedule = some b ∧
    a ∈ demoWorld.db.accounts.rows ∧ a.accountType = "MERCHANT_SETTLEMENT" ∧
    (∀ x ∈ b.db.transactions.rows, x.type ≠ .merchantPayment) ∧
    b.db.balance (demoIds .destAccount) = 250 ∧ b.db.balance a.id = a.availableBalance - 250 := by
  have heval : ((Bank.run demoSha256 (Bank.start demoWorld) creditFromMerchantSchedule).bind
      fun b =>
      (demoDb.accounts.find (demoIds (.settlementAccount 0))).map fun a =>
        decide (a.accountType = "MERCHANT_SETTLEMENT") &&
        ((b.db.transactions.rows.all fun x => x.type ≠ .merchantPayment) &&
        (decide (b.db.balance (demoIds .destAccount) = 250) &&
        decide (b.db.balance a.id = a.availableBalance - 250)))) = some true := by
    decide +kernel
  obtain ⟨b, hb, heval⟩ := Option.bind_eq_some_iff.mp heval
  obtain ⟨a, ha, hall⟩ := Option.map_eq_some_iff.mp heval
  simp only [Bool.and_eq_true, decide_eq_true_eq, List.all_eq_true] at hall
  obtain ⟨htype, hnone, hcredited, hpaid⟩ := hall
  exact ⟨b, a, hb, (Table.find_eq_some.mp ha).1, htype, hnone, hcredited, hpaid⟩

end OnlineBanking
