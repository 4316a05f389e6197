import OnlineBanking.Conservation
import OnlineBanking.SettlementFunds

set_option autoImplicit false

/-! The currency of a ledger entry is that of its account and of its transaction, and money never
changes its currency, as long as what is credited is credited to accounts in RON. -/

namespace OnlineBanking

open Library

structure LedgerEntry.Matches (e : LedgerEntry) (db : Db) : Prop where
  account : ∃ a ∈ db.accounts.rows, a.id = e.accountId ∧ a.currency = e.currency
  transaction : ∃ x ∈ db.transactions.rows, x.id = e.transactionId ∧ x.currency = e.currency

instance (e : LedgerEntry) (db : Db) : Decidable (e.Matches db) :=
  decidable_of_iff ((∃ a ∈ db.accounts.rows, a.id = e.accountId ∧ a.currency = e.currency) ∧
    ∃ x ∈ db.transactions.rows, x.id = e.transactionId ∧ x.currency = e.currency)
    ⟨fun h => ⟨h.1, h.2⟩, fun h => ⟨h.account, h.transaction⟩⟩

def Db.CurrencyConsistent (db : Db) : Prop := ∀ e ∈ db.ledgerEntries.rows, e.Matches db

instance (db : Db) : Decidable db.CurrencyConsistent :=
  inferInstanceAs (Decidable (∀ e ∈ db.ledgerEntries.rows, e.Matches db))

def Db.currencyTotal (db : Db) (currency : String) : ℚ :=
  ((db.accounts.rows.filter fun a => a.currency = currency).map Account.availableBalance).sum

/-- A credit that was posted since `start`. -/
structure Transaction.NewCredit (start db : Db) (x : Transaction) : Prop where
  mem : x ∈ db.transactions.rows
  new : x ∉ start.transactions.rows
  type : x.type = .adminCredit

/-- Whatever was credited since `start` was credited to accounts in RON. -/
def RonCredits (start db : Db) : Prop :=
  ∀ x : Transaction, x.NewCredit start db → ∀ a ∈ db.accounts.rows, x.toAccountId = some a.id →
    a.currency = "RON"

def CurrenciesStay (db db' : Db) : Prop :=
  ∀ a ∈ db.accounts.rows, ∃ a' ∈ db'.accounts.rows, a'.id = a.id ∧ a'.currency = a.currency

section Totals

variable {db db' : Db} {p : Posting}

def Account.share (currency : String) (a : Account) : ℚ :=
  if a.currency = currency then a.availableBalance else 0

lemma Db.currencyTotal_eq (db : Db) (currency : String) :
    db.currencyTotal currency = (db.accounts.rows.map (Account.share currency)).sum := by
  unfold currencyTotal
  induction db.accounts.rows with
  | nil => rfl
  | cons a as ih =>
    by_cases h : a.currency = currency
    · simp [Account.share, h, ih]
    · simp [Account.share, h, ih]

lemma share_increment (currency : String) (m : ℚ) (a : Account) :
    ((Account.increment m).apply a).share currency - a.share currency =
      if a.currency = currency then m else 0 := by
  by_cases h : a.currency = currency
  · simp [Account.share, Account.increment, h]
  · simp [Account.share, Account.increment, h]

lemma share_decrement (currency : String) (m : ℚ) (a : Account) :
    ((Account.decrement m).apply a).share currency - a.share currency =
      if a.currency = currency then -m else 0 := by
  by_cases h : a.currency = currency
  · simp [Account.share, Account.decrement, h]
  · simp [Account.share, Account.decrement, h]

lemma Posting.Applied.currencyTotal (h : p.Applied db db')
    (hsame : p.source.currency = p.destination.currency) (currency : String) :
    db'.currencyTotal currency = db.currencyTotal currency := by
  obtain ⟨r, hr, hcurrency⟩ : ∃ r,
      (db.accounts.modify p.source.id (Account.decrement p.transaction.amount)).find
      p.destination.id = some r ∧ r.currency = p.destination.currency := by
    rw [Table.find_modify, h.destination_found]
    split
    · exact ⟨_, rfl, rfl⟩
    · exact ⟨_, rfl, rfl⟩
  rw [Db.currencyTotal_eq, Db.currencyTotal_eq, h.accounts, Table.sum_modify _ _ hr,
    share_increment,
    Table.sum_modify _ _ h.source_found, share_decrement, hcurrency, hsame]
  split
  · ring
  · ring

lemma currencyTotal_opened {opened : List Account}
    (hrows : db'.accounts.rows = db.accounts.rows ++ opened)
    (hzero : ∀ a ∈ opened, a.availableBalance = 0) (currency : String) :
    db'.currencyTotal currency = db.currencyTotal currency := by
  have hnothing : (opened.map (Account.share currency)).sum = 0 := by
    apply List.sum_eq_zero
    intro x hx
    obtain ⟨a, ha, rfl⟩ := List.mem_map.mp hx
    simp [Account.share, hzero a ha]
  rw [Db.currencyTotal_eq, Db.currencyTotal_eq, hrows, List.map_append, List.sum_append,
    hnothing, add_zero]

end Totals

inductive Booked (c : Call) (db db' : Db) : Prop
  | quiet (opened : List Account) (accounts : db'.accounts.rows = db.accounts.rows ++ opened)
      (zero : ∀ a ∈ opened, a.availableBalance = 0)
      (ledgerEntries : db'.ledgerEntries = db.ledgerEntries)
      (transactions : db'.transactions = db.transactions)
  | posting (p : Posting) (posted : Db) (applied : p.Applied db posted)
      (accounts : db'.accounts = posted.accounts)
      (ledgerEntries : db'.ledgerEntries = posted.ledgerEntries)
      (transactions : db'.transactions = posted.transactions)
      (currency : p.transaction.currency = "RON")
      (source : p.source.currency = "RON")
      (destination : p.destination.currency = "RON" ∨ p.transaction.type = .adminCredit ∧
        ∃ adminUserId accountId dto, c = .creditAccount adminUserId accountId dto ∧
          dto.currency = "RON" ∧
          Creditable db accountId p.source p.destination)

section Steps

variable {sha256 : String → String} {t : ℕ} {c : Call} {i : Inputs} {s s' : State}
    {start db db' : Db}

lemma Effect.booked (h : Effect sha256 t c i s s')
    (hron : ∀ adminUserId accountId dto, c = .creditAccount adminUserId accountId dto →
      s'.world.db.transactions = s.world.db.transactions ∨ dto.currency = "RON") :
    Booked c s.world.db s'.world.db := by
  cases h.onDb with
  | notified ns db _ => exact .quiet [] (by simp [db]) (by simp) (by simp [db]) (by simp [db])
  | posted payment result p posted ns due first applied pays db trace =>
    exact .posting p posted applied (by simp [db]) (by simp [db]) (by simp [db]) pays.currency
      pays.payable.source_currency (.inl pays.payable.destination_currency)
  | credited adminUserId accountId dto p posted ns call applied credits db =>
    have hdto : dto.currency = "RON" := by
      apply (hron adminUserId accountId dto call).resolve_left
      intro hnone
      have hrows := congrArg Table.rows hnone
      simp [db, applied.transactions] at hrows
    exact .posting p posted applied (by simp [db]) (by simp [db]) (by simp [db]) credits.currency
      credits.creditable.source_currency
      (.inr ⟨credits.type, adminUserId, accountId, dto, call, hdto, credits.creditable⟩)
  | kept _ frame =>
    obtain ⟨opened, hrows, hopened⟩ := frame.accounts
    exact .quiet opened hrows (fun a ha => (hopened a ha).2) frame.ledgerEntries frame.transactions

lemma Booked.of_kept (h : db.Kept db') : Booked c db db' := by
  obtain ⟨opened, hrows, hopened⟩ := h.accounts
  exact .quiet opened hrows (fun a ha => (hopened a ha).2) h.ledgerEntries h.transactions

lemma Booked.accounts (h : Booked c db db') : CurrenciesStay db db' := by
  cases h with
  | quiet opened accounts _ _ _ =>
    exact fun a ha => ⟨a, accounts ▸ List.mem_append_left _ ha, rfl, rfl⟩
  | posting p posted applied accounts _ _ _ _ _ =>
    intro a ha
    have hfound : db.accounts.find a.id = some a := Table.find_eq_some.mpr ⟨ha, rfl⟩
    have hafter := applied.find a.id
    rw [hfound, Option.map_some, ← accounts, Table.find_eq_some] at hafter
    exact ⟨_, hafter.1, rfl, rfl⟩

lemma Booked.transactions (h : Booked c db db') :
    db.transactions.rows <+: db'.transactions.rows := by
  cases h with
  | quiet _ _ _ _ transactions => rw [transactions]
  | posting p posted applied _ _ transactions _ _ _ =>
    rw [transactions, applied.transactions]
    exact List.prefix_append _ _

lemma LedgerEntry.Matches.booked {e : LedgerEntry} (h : e.Matches db) (hb : Booked c db db') :
    e.Matches db' := by
  obtain ⟨a, ha, hid, hcurrency⟩ := h.account
  obtain ⟨a', ha', hid', hcurrency'⟩ := hb.accounts a ha
  obtain ⟨x, hx, hx'⟩ := h.transaction
  exact ⟨⟨a', ha', hid'.trans hid, hcurrency'.trans hcurrency⟩, x, hb.transactions.subset hx, hx'⟩

lemma Transaction.NewCredit.booked {x : Transaction} (h : x.NewCredit start db)
    (hb : Booked c db db') :
    x.NewCredit start db' := ⟨hb.transactions.subset h.mem, h.new, h.type⟩

lemma RonCredits.before (h : RonCredits start db') (hb : Booked c db db') :
    RonCredits start db := by
  intro x hx a ha hto
  obtain ⟨a', ha', hid, hcurrency⟩ := hb.accounts a ha
  rw [← hcurrency]
  exact h x (hx.booked hb) a' ha' (hid ▸ hto)

end Steps

/-- The entry of an amount in RON that was credited to an account, in whichever currency. -/
structure LedgerEntry.OfNewCredit (start db : Db) (e : LedgerEntry) (x : Transaction) : Prop where
  credit : x.NewCredit start db
  transactionId : x.id = e.transactionId
  accountId : x.toAccountId = some e.accountId
  currency : e.currency = "RON"
  transaction_currency : x.currency = "RON"
  account : ∃ a ∈ db.accounts.rows, a.id = e.accountId

structure Currencies (start db : Db) : Prop where
  transactions : start.transactions.rows <+: db.transactions.rows
  entries : ∀ e ∈ db.ledgerEntries.rows, e.Matches db ∨ ∃ x, e.OfNewCredit start db x
  credits : ∀ x : Transaction, x.NewCredit start db →
    ∃ e ∈ db.ledgerEntries.rows, e.currency = "RON" ∧
    x.toAccountId = some e.accountId
  total : RonCredits start db → ∀ currency, db.currencyTotal currency = start.currencyTotal currency

namespace Currencies

variable {sha256 : String → String} {c : Call} {start db db' : Db}

lemma init (h : db.CurrencyConsistent) : Currencies db db :=
  ⟨List.prefix_refl _, fun e he => .inl (h e he), fun _ hx => absurd hx.mem hx.new, fun _ _ => rfl⟩

lemma entry (h : Currencies start db) (hb : Booked c db db') {e : LedgerEntry}
    (he : e ∈ db.ledgerEntries.rows) :
    e.Matches db' ∨ ∃ x, e.OfNewCredit start db' x := by
  rcases h.entries e he with hmatches | ⟨x, hx⟩
  · exact .inl (hmatches.booked hb)
  · obtain ⟨a, ha, hid⟩ := hx.account
    obtain ⟨a', ha', hid', _⟩ := hb.accounts a ha
    exact .inr ⟨x, { hx with credit := hx.credit.booked hb, account := ⟨a', ha', hid'.trans hid⟩ }⟩

lemma new (h : Currencies start db) {p : Posting} {posted : Db} (applied : p.Applied db posted) :
    p.transaction ∉ start.transactions.rows :=
  fun hm => applied.fresh (h.transactions.subset hm) rfl

lemma booked (h : Currencies start db) (hb : Booked c db db') : Currencies start db' := by
  have hmore := h.transactions.trans hb.transactions
  have hbefore : RonCredits start db' →
      ∀ currency, db.currencyTotal currency = start.currencyTotal currency :=
    fun hron => h.total (hron.before hb)
  have hstay := hb.accounts
  cases hb with
  | quiet opened accounts zero ledgerEntries transactions =>
    have hb : Booked c db db' := .quiet opened accounts zero ledgerEntries transactions
    refine ⟨hmore, fun e he => h.entry hb (ledgerEntries ▸ he), fun x hx => ?_,
      fun hron currency => ?_⟩
    · rw [ledgerEntries]
      exact h.credits x ⟨transactions ▸ hx.mem, hx.new, hx.type⟩
    · rw [currencyTotal_opened accounts zero, hbefore hron]
  | posting p posted applied accounts ledgerEntries transactions currency source destination =>
    have hb : Booked c db db' :=
      .posting p posted applied accounts ledgerEntries transactions currency source destination
    have hmem : p.transaction ∈ db'.transactions.rows := by
      simp [transactions, applied.transactions]
    obtain ⟨src, hsrc, hsrc', hsrcCurrency⟩ :=
      hstay p.source (Table.find_eq_some.mp applied.source_found).1
    obtain ⟨dst, hdst, hdst', hdstCurrency⟩ :=
      hstay p.destination (Table.find_eq_some.mp applied.destination_found).1
    refine ⟨hmore, fun e he => ?_, fun x hx => ?_, fun hron name => ?_⟩
    · rw [ledgerEntries, applied.ledgerEntries, List.mem_append, List.mem_pair] at he
      rcases he with he | rfl | rfl
      · exact h.entry hb he
      · left
        constructor
        · exact ⟨src, hsrc, hsrc'.trans p.debits.accountId.symm,
            hsrcCurrency.trans (source.trans (p.debits.currency.trans currency).symm)⟩
        · exact ⟨p.transaction, hmem, p.debits.transactionId.symm, p.debits.currency.symm⟩
      · rcases destination with destination | ⟨htype, _⟩
        · left
          constructor
          · exact ⟨dst, hdst, hdst'.trans p.credits.accountId.symm,
              hdstCurrency.trans (destination.trans (p.credits.currency.trans currency).symm)⟩
          · exact ⟨p.transaction, hmem, p.credits.transactionId.symm, p.credits.currency.symm⟩
        · exact .inr ⟨p.transaction, ⟨hmem, h.new applied, htype⟩, p.credits.transactionId.symm,
            p.credits.accountId ▸ p.to_destination, p.credits.currency.trans currency, currency,
            dst, hdst, hdst'.trans p.credits.accountId.symm⟩
    · have hx' := hx.mem
      rw [transactions, applied.transactions, List.mem_append, List.mem_singleton] at hx'
      rw [ledgerEntries, applied.ledgerEntries]
      rcases hx' with hx' | rfl
      · obtain ⟨e, he, hrest⟩ := h.credits x ⟨hx', hx.new, hx.type⟩
        exact ⟨e, List.mem_append_left _ he, hrest⟩
      · exact ⟨p.credit, by simp,
          p.credits.currency.trans currency, p.credits.accountId ▸ p.to_destination⟩
    · have hsame : p.source.currency = p.destination.currency := by
        rw [source]
        rcases destination with destination | ⟨htype, _⟩
        · exact destination.symm
        · rw [← hdstCurrency]
          exact (hron p.transaction ⟨hmem, h.new applied, htype⟩ dst hdst
            (hdst' ▸ p.to_destination)).symm
      rw [← hbefore hron, ← applied.currencyTotal hsame, Db.currencyTotal, accounts,
        Db.currencyTotal]

lemma consistent_iff (h : Currencies start db) : db.CurrencyConsistent ↔ RonCredits start db := by
  constructor
  · intro hconsistent x hx a ha hto
    obtain ⟨e, he, hron, hto'⟩ := h.credits x hx
    obtain ⟨a', ha', hid, hcurrency⟩ := (hconsistent e he).account
    have hida : a.id = e.accountId := Option.some.inj (hto.symm.trans hto')
    obtain rfl := db.accounts.eq_of_key_eq ha ha' (hida.trans hid.symm)
    exact hcurrency.trans hron
  · intro hron e he
    rcases h.entries e he with hmatches | ⟨x, hx⟩
    · exact hmatches
    · obtain ⟨a, ha, hid⟩ := hx.account
      have hcurrency := hron x hx.credit a ha (hid ▸ hx.accountId)
      exact ⟨⟨a, ha, hid, hcurrency.trans hx.currency.symm⟩, x, hx.credit.mem, hx.transactionId,
        hx.transaction_currency.trans hx.currency.symm⟩

lemma account_of_credit (h : Currencies start db) (hron : RonCredits start db)
    (hb : Booked c db db') {x : Transaction} (hx : x.NewCredit start db) {a : Account}
    (ha : a ∈ db'.accounts.rows) (hto : x.toAccountId = some a.id) : a.currency = "RON" := by
  obtain ⟨e, he, _, hto'⟩ := h.credits x hx
  have hid : a.id = e.accountId := Option.some.inj (hto.symm.trans hto')
  obtain ⟨a₀, ha₀, hid₀⟩ : ∃ a₀ ∈ db.accounts.rows, a₀.id = e.accountId := by
    rcases h.entries e he with hmatches | ⟨y, hy⟩
    · obtain ⟨a₀, ha₀, hid₀, _⟩ := hmatches.account
      exact ⟨a₀, ha₀, hid₀⟩
    · exact hy.account
  obtain ⟨a', ha', hid', hcurrency⟩ := hb.accounts a₀ ha₀
  obtain rfl := db'.accounts.eq_of_key_eq ha' ha (hid'.trans (hid₀.trans hid.symm))
  exact hcurrency.trans (hron x hx a₀ ha₀ (hto'.trans (congrArg some hid₀.symm)))

lemma ronCredits (h : Currencies start db) (hron : RonCredits start db) (hb : Booked c db db')
    (hcredit : ∀ adminUserId accountId dto source target,
      c = .creditAccount adminUserId accountId dto →
      dto.currency = "RON" → Creditable db accountId source target → target.currency = "RON") :
    RonCredits start db' := by
  intro x hx a ha hto
  have hold := fun hx => h.account_of_credit hron hb (x := x) hx ha hto
  have hstay := hb.accounts
  cases hb with
  | quiet _ _ _ _ transactions => exact hold ⟨transactions ▸ hx.mem, hx.new, hx.type⟩
  | posting p posted applied _ _ transactions _ _ destination =>
    have hx' := hx.mem
    rw [transactions, applied.transactions, List.mem_append, List.mem_singleton] at hx'
    rcases hx' with hx' | rfl
    · exact hold ⟨hx', hx.new, hx.type⟩
    · obtain ⟨dst, hdst, hid, hcurrency⟩ :=
        hstay p.destination (Table.find_eq_some.mp applied.destination_found).1
      have hida : p.destination.id = a.id := Option.some.inj (p.to_destination.symm.trans hto)
      obtain rfl := db'.accounts.eq_of_key_eq hdst ha (hid.trans hida)
      rw [hcurrency]
      rcases destination with destination |
          ⟨_, adminUserId, accountId, dto, hcall, hdto, hcreditable⟩
      · exact destination
      · exact hcredit adminUserId accountId dto p.source p.destination hcall hdto hcreditable

end Currencies

def CreditsInRon (b : Bank) (a : Action) : Prop :=
  ∀ t i adminUserId accountId dto program source target, a = .act t i →
    b.threads t = some (.creditAccount adminUserId accountId dto, program) → dto.currency = "RON" →
    Creditable b.db accountId source target → target.currency = "RON"

section Runs

variable {sha256 : String → String} {w : World} {schedule : List Action} {b : Bank}

lemma creditAccount_ron {t : ℕ} {s : State} {adminUserId accountId : Uuid} {dto : AdminCreditDto} :
    (handle sha256 (.creditAccount adminUserId accountId dto)).Safe (Rely t) (fun _ _ => True)
      (fun _ s s' => s'.world.db.transactions = s.world.db.transactions ∨ dto.currency = "RON") t
      (fun _ _ => True) s := by
  by_cases hdto : dto.currency = "RON"
  · exact Prog.Safe.of_true (fun _ _ _ => .inr hdto) fun _ _ => trivial
  · apply Prog.safe_bind (Rely.refl t)
    unfold creditAccount
    rw [if_pos hdto]
    exact Prog.safe_throw fun _ _ _ _ => trivial

def currencyDiscipline (sha256 : String → String) :
    Discipline (E := Event) (handle sha256) environment :=
  (discipline sha256).strengthen
    (fun _ c _ s s' => ∀ adminUserId accountId dto, c = .creditAccount adminUserId accountId dto →
      s'.world.db.transactions = s.world.db.transactions ∨ dto.currency = "RON") fun t c s _ => by
    cases c with
    | creditAccount adminUserId accountId dto =>
      apply creditAccount_ron.guar
      rintro _ _ _ h _ _ _ ⟨⟩
      exact h
    | _ => exact Prog.Safe.of_true (fun _ _ _ _ _ _ h => by cases h) fun _ _ => trivial

lemma run_currencies (hw : w.db.CurrencyConsistent)
    (h : Bank.run sha256 (Bank.start w) schedule = some b) :
    Currencies w.db b.db := by
  let D := currencyDiscipline sha256
  refine (D.shared_invariant (P := fun s : State => Currencies w.db s.world.db) ?_ ?_
    (D.init_holds w)
    (Currencies.init hw) (Discipline.meets_true _ _) h).2
  · rintro d t i call p s' _ _ _ hP ⟨heffect, hron⟩
    exact hP.booked (heffect.booked hron)
  · intro e s hP
    exact hP.booked (.of_kept (c := .markAllAsRead ⟨0⟩) (environment_kept e s.world))

lemma run_ronCredits (hw : w.db.CurrencyConsistent)
    (hm : Config.Meets (handle sha256) environment CreditsInRon (Bank.start w) schedule)
    (h : Bank.run sha256 (Bank.start w) schedule = some b) : RonCredits w.db b.db := by
  let D := currencyDiscipline sha256
  have hstart : RonCredits w.db w.db := fun _ hx => absurd hx.mem hx.new
  refine (D.shared_invariant (P := fun s : State => Currencies w.db s.world.db ∧
    RonCredits w.db s.world.db)
    ?_ ?_ (D.init_holds w) ⟨Currencies.init hw, hstart⟩ hm h).2.2
  · rintro d t i call p s' _ ht hcond hP ⟨heffect, hron⟩
    have hbooked := heffect.booked hron
    refine ⟨hP.1.booked hbooked, hP.1.ronCredits hP.2 hbooked ?_⟩
    rintro adminUserId accountId dto source target rfl hdto hcreditable
    exact hcond t i adminUserId accountId dto p source target rfl ht hdto hcreditable
  · intro e s hP
    have hbooked : Booked (.markAllAsRead ⟨0⟩) s.world.db (environment e s.world).db :=
      .of_kept (environment_kept e s.world)
    exact ⟨hP.1.booked hbooked, hP.1.ronCredits hP.2 hbooked fun _ _ _ _ _ hcall => by cases hcall⟩

/-- From a consistent ledger on: as long as credits go to accounts in RON, the ledger stays
consistent and every currency keeps its total; and exactly if all of them went to accounts in RON,
it has. -/
theorem currencies_kept (hw : w.db.CurrencyConsistent)
    (h : Bank.run sha256 (Bank.start w) schedule = some b) :
    (Config.Meets (handle sha256) environment CreditsInRon (Bank.start w) schedule →
      b.db.CurrencyConsistent ∧
        ∀ currency, b.db.currencyTotal currency = w.db.currencyTotal currency) ∧
    ((b.db.CurrencyConsistent ∧
        ∀ currency, b.db.currencyTotal currency = w.db.currencyTotal currency) ↔
      RonCredits w.db b.db) := by
  have hend := run_currencies hw h
  have hboth : RonCredits w.db b.db →
      b.db.CurrencyConsistent ∧ ∀ currency, b.db.currencyTotal currency =
        w.db.currencyTotal currency :=
    fun hron => ⟨hend.consistent_iff.mpr hron, hend.total hron⟩
  refine ⟨fun hm => hboth (run_ronCredits hw hm h), fun hkept =>
    hend.consistent_iff.mp hkept.1, hboth⟩

end Runs

def Account.inEuro : Patch Account where
  apply a := { a with currency := "EUR" }
  key_apply _ := rfl
  alt_apply _ := rfl

def euroWorld : World := { db := { demoDb with
      accounts := demoDb.accounts.modify (demoIds .destAccount) Account.inEuro } }

def euroSchedule (accountId : Uuid) : List Action :=
  [.spawn 0 (.creditAccount (demoIds .adminUser) accountId demoCreditDto), .act 0 (demoInputs 0)]

lemma euro_creditsInRon : Config.Meets (handle demoSha256) environment CreditsInRon
    (Bank.start euroWorld) (euroSchedule (demoIds .sourceAccount)) := by
  refine ⟨?_, fun (d : Bank) hd => ⟨?_, fun _ _ => trivial⟩⟩
  · intro t i adminUserId accountId dto program source target ha
    cases ha
  · have hdb : d.db = euroWorld.db := by
      simp [Config.step, Bank.start, Config.init] at hd
      rw [← hd]
    have hron : (euroWorld.db.accounts.find (demoIds .sourceAccount)).map Account.currency =
        some "RON" := by
      decide +kernel
    rintro t i adminUserId accountId dto program source target ⟨⟩ ht _ hcreditable
    obtain rfl : accountId = demoIds .sourceAccount := by
      simp [Config.step, Bank.start, Config.init] at hd
      simp [← hd] at ht
      exact ht.1.2.1.symm
    have hfound := hcreditable.target_found
    rw [hdb] at hfound
    rw [hfound] at hron
    exact Option.some.inj hron

/-- Beside an account in EUR, one in RON is credited. -/
theorem euro_currencies_kept : ∃ b,
    Bank.run demoSha256 (Bank.start euroWorld) (euroSchedule (demoIds .sourceAccount)) = some b ∧
    b.db.transactions.rows.length = 1 ∧ b.db.CurrencyConsistent ∧
    (∀ currency, b.db.currencyTotal currency = euroWorld.db.currencyTotal currency) ∧
    RonCredits euroWorld.db b.db := by
  have hrun : ((Bank.run demoSha256 (Bank.start euroWorld)
      (euroSchedule (demoIds .sourceAccount))).map fun b =>
      b.db.transactions.rows.length) = some 1 := by decide +kernel
  obtain ⟨b, hb, hone⟩ := Option.map_eq_some_iff.mp hrun
  have hconsistent : euroWorld.db.CurrencyConsistent := by decide +kernel
  obtain ⟨hmeets, hiff⟩ := currencies_kept hconsistent hb
  have hkept := hmeets euro_creditsInRon
  exact ⟨b, hb, hone, hkept.1, hkept.2, hiff.mp hkept⟩

theorem credit_in_another_currency : ∃ b, euroWorld.db.CurrencyConsistent ∧
    Bank.run demoSha256 (Bank.start euroWorld) (euroSchedule (demoIds .destAccount)) = some b ∧
    ¬ b.db.CurrencyConsistent ∧ b.db.currencyTotal "EUR" = euroWorld.db.currencyTotal "EUR" + 250 ∧
    b.db.currencyTotal "RON" = euroWorld.db.currencyTotal "RON" - 250 := by
  have heval : ((Bank.run demoSha256 (Bank.start euroWorld)
      (euroSchedule (demoIds .destAccount))).map fun b =>
      decide (¬ b.db.CurrencyConsistent) &&
        (decide (b.db.currencyTotal "EUR" = euroWorld.db.currencyTotal "EUR" + 250) &&
        decide (b.db.currencyTotal "RON" = euroWorld.db.currencyTotal "RON" - 250))) =
          some true := by
    decide +kernel
  obtain ⟨b, hb, hall⟩ := Option.map_eq_some_iff.mp heval
  simp only [Bool.and_eq_true, decide_eq_true_eq] at hall
  exact ⟨b, by decide +kernel, hb, hall.1, hall.2.1, hall.2.2⟩

end OnlineBanking
