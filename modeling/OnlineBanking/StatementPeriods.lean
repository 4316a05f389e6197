import OnlineBanking.Conservation
import OnlineBanking.Statements

set_option autoImplicit false

/-! Statements of consecutive periods, and statements against balances. Both come down to the part
of a day that lies behind its last whole millisecond. -/

namespace OnlineBanking

open Library

lemma endOfDay_midnight (day : ℤ) :
    endOfDay (day * dayLength) = day * dayLength + (dayLength - 1) := by
  unfold endOfDay dayLength
  omega

def InLastMillisecond (day : ℤ) (t : Instant) : Prop :=
  endOfDay (day * dayLength) * 1000 < t ∧ t < (day + 1) * dayLength * 1000

/-- The two statements list each entry of the account from day `a` to day `c` once and nothing
else, and the second opens with what the first closes with. -/
structure Chained (db : Db) (account : Uuid) (a c : ℤ)
    (first second : AccountStatement) : Prop where
  listed : ((first.entries ++ second.entries).map StatementEntry.ledgerEntryId).Perm
    ((db.ledgerEntries.rows.filter fun e =>
      e.accountId = account ∧ a * dayLength * 1000 ≤ e.createdAt ∧
      e.createdAt < (c + 1) * dayLength * 1000).map LedgerEntry.id)
  balances : first.closingBalance = second.openingBalance

section Chain

variable {db : Db} {account : Uuid} {a b c : ℤ} {first second : AccountStatement}

lemma Draws.listed_mem {fromDate toDate : ℤ} {s : AccountStatement}
    (h : Draws db account fromDate toDate s) {e : LedgerEntry} (he : e ∈ db.ledgerEntries.rows)
    (hm : e.id ∈ s.entries.map StatementEntry.ledgerEntryId) :
    fromDate * 1000 ≤ e.createdAt ∧ e.createdAt ≤ endOfDay toDate * 1000 := by
  obtain ⟨e', he', hid⟩ := List.mem_map.mp (h.entries.mem_iff.mp hm)
  obtain ⟨hrow, hp⟩ := List.mem_filter.mp he'
  obtain rfl := db.ledgerEntries.eq_of_key_eq hrow he hid
  exact (of_decide_eq_true hp).2

lemma Chained.no_gap (h₁ : Draws db account (a * dayLength) (b * dayLength) first)
    (h₂ : Draws db account ((b + 1) * dayLength) (c * dayLength) second) (hab : a ≤ b) (hbc : b < c)
    (h : Chained db account a c first second) {e : LedgerEntry} (he : e ∈ db.ledgerEntries.rows)
    (ha : e.accountId = account) :
    ¬ InLastMillisecond b e.createdAt ∧ ¬ InLastMillisecond c e.createdAt := by
  have hrange : a * dayLength * 1000 ≤ e.createdAt ∧ e.createdAt < (c + 1) * dayLength * 1000 →
      (a * dayLength * 1000 ≤ e.createdAt ∧ e.createdAt ≤ endOfDay (b * dayLength) * 1000) ∨
        ((b + 1) * dayLength * 1000 ≤ e.createdAt ∧
          e.createdAt ≤ endOfDay (c * dayLength) * 1000) := by
    intro hin
    have hm : e.id ∈ (first.entries ++ second.entries).map StatementEntry.ledgerEntryId :=
      h.listed.mem_iff.mpr (List.mem_map_of_mem
        (List.mem_filter.mpr ⟨he, decide_eq_true ⟨ha, hin⟩⟩))
    rw [List.map_append, List.mem_append] at hm
    exact hm.imp (h₁.listed_mem he) (h₂.listed_mem he)
  rw [endOfDay_midnight, endOfDay_midnight] at hrange
  unfold InLastMillisecond
  rw [endOfDay_midnight, endOfDay_midnight]
  unfold dayLength at hrange ⊢
  constructor <;> rintro ⟨hlow, hhigh⟩ <;> omega

lemma Chained.of_no_gap (h₁ : Draws db account (a * dayLength) (b * dayLength) first)
    (h₂ : Draws db account ((b + 1) * dayLength) (c * dayLength) second) (hab : a ≤ b) (hbc : b < c)
    (h : ∀ e ∈ db.ledgerEntries.rows, e.accountId = account →
      ¬ InLastMillisecond b e.createdAt ∧ ¬ InLastMillisecond c e.createdAt) :
    Chained db account a c first second := by
  unfold InLastMillisecond at h
  simp only [endOfDay_midnight] at h
  constructor
  · let inFirst : LedgerEntry → Bool := fun e => e.createdAt < (b + 1) * dayLength * 1000
    rw [List.map_append]
    refine (h₁.entries.append h₂.entries).trans ?_
    rw [← List.map_append]
    refine List.Perm.map _ (List.Perm.trans ?_ (List.filter_append_perm inFirst _))
    rw [List.filter_filter, List.filter_filter]
    refine (List.Perm.of_eq (List.filter_congr fun e he => ?_)).append
      (List.Perm.of_eq (List.filter_congr fun e he => ?_))
    · rw [Bool.eq_iff_iff]
      simp only [inFirst, decide_eq_true_eq, Bool.and_eq_true, endOfDay_midnight]
      have hgap := h e he
      unfold dayLength at hgap ⊢
      constructor
      · rintro ⟨ha, hlow, hhigh⟩
        refine ⟨by omega, ha, by omega, by omega⟩
      · rintro ⟨hlt, ha, hlow, hhigh⟩
        have := hgap ha
        exact ⟨ha, by omega, by omega⟩
    · rw [Bool.eq_iff_iff]
      simp only [inFirst, decide_eq_true_eq, Bool.and_eq_true, Bool.not_eq_true',
        decide_eq_false_iff_not,
        endOfDay_midnight]
      have hgap := h e he
      unfold dayLength at hgap ⊢
      constructor
      · rintro ⟨ha, hlow, hhigh⟩
        refine ⟨by omega, ha, by omega, by omega⟩
      · rintro ⟨hlt, ha, hlow, hhigh⟩
        have := hgap ha
        exact ⟨ha, by omega, by omega⟩
  · rw [h₁.closingBalance, h₂.openingBalance]
    refine movement_congr fun e he ha => ?_
    have hgap := h e he ha
    rw [Bool.eq_iff_iff, endOfDay_midnight]
    simp only [decide_eq_true_eq]
    unfold dayLength at hgap ⊢
    omega

end Chain

/-- The statements of two consecutive periods [a, b] and [b + 1, c] can be drawn, and they fit
together if and only if no entry of the account falls behind the last millisecond of day b or c. -/
theorem statements_chain_iff {newDate : String → Option ℤ} {db : Db} {userId : Uuid}
    {account : Account} {accountId from₁ to₁ from₂ to₂ : String} {a b c : ℤ}
    (h₁ : Drawable newDate db userId account accountId from₁ to₁ (a * dayLength) (b * dayLength))
    (h₂ : Drawable newDate db userId account accountId from₂ to₂ ((b + 1) * dayLength)
      (c * dayLength))
    (choice₁ choice₂ : ℕ) :
    ∃ first second, getStatement newDate choice₁ db userId accountId from₁ to₁ = .ok first ∧
      getStatement newDate choice₂ db userId accountId from₂ to₂ = .ok second ∧
      (Chained db account.id a c first second ↔
        ∀ e ∈ db.ledgerEntries.rows, e.accountId = account.id →
          ¬ InLastMillisecond b e.createdAt ∧ ¬ InLastMillisecond c e.createdAt) := by
  have hab : a ≤ b := by
    have := h₁.ordered
    unfold dayLength at this
    omega
  have hbc : b < c := by
    have := h₂.ordered
    unfold dayLength at this
    omega
  obtain ⟨first, hfirst, hd₁⟩ := getStatement_draws h₁ choice₁
  obtain ⟨second, hsecond, hd₂⟩ := getStatement_draws h₂ choice₂
  exact ⟨first, second, hfirst, hsecond, fun h _ he ha => h.no_gap hd₁ hd₂ hab hbc he ha,
    Chained.of_no_gap hd₁ hd₂ hab hbc⟩

lemma movement_always (db : Db) (account : Uuid) :
    movement db account (fun _ => true) = Book.net db.book.journal account := by
  unfold movement Book.net Db.book
  simp [List.filter_map, Function.comp_def]

section Balance

variable {sha256 : String → String} {uuid : SeedRow → Uuid} {now : Instant} {w : World}
variable {schedule : List Action} {b : Bank}

lemma seeded_balance (hseed : Seeded uuid now w.db)
    (h : Bank.run sha256 (Bank.start w) schedule = some b) {a : Account}
    (ha : a ∈ b.db.accounts.rows) :
    a.availableBalance = w.db.balance a.id + movement b.db a.id fun _ => true := by
  obtain ⟨lines, hjournal, hbalance, _⟩ := (run_explained h).reaches.reconciles
  have hnone : w.db.book.journal = [] := by simp [Db.book, hseed.shape.ledgerEntries]
  rw [hnone, List.nil_append] at hjournal
  rw [movement_always, hjournal, ← Db.balance_of_mem ha]
  exact hbalance a.id

lemma seeded_entries (hseed : Seeded uuid now w.db)
    (h : Bank.run sha256 (Bank.start w) schedule = some b) :
    b.db.EntriesOwned := by
  have hstart : w.db.DoubleEntered :=
    ⟨by simp [hseed.shape.transactions], by simp [Db.EntriesOwned, hseed.shape.ledgerEntries]⟩
  exact (run_moves (fun _ _ => Db.DoubleEntered.moves) hstart h).owned

/-- From the seeded database on, the closing balance of any period is the account's balance but for
the money the seed put there and for the entries behind the last millisecond of the last day. -/
theorem closing_balance_iff (hseed : Seeded uuid now w.db)
    (h : Bank.run sha256 (Bank.start w) schedule = some b) {newDate : String → Option ℤ}
    {userId : Uuid} {a : Account} {accountId «from» «to» : String} {fromDate toDate : ℤ}
    (ha : a ∈ b.db.accounts.rows) (hcustomer : a.isSystem = false)
    (howner : ∃ p ∈ b.db.customerProfiles.rows, p.userId = userId ∧ p.id = a.customerId)
    (hnamed : a.id.spelledBy accountId = true) (hfrom : newDate «from» = some fromDate)
    (hto : newDate «to» = some toDate) (hordered : fromDate ≤ toDate) (choice : ℕ) :
    ∃ s, getStatement newDate choice b.db userId accountId «from» «to» = .ok s ∧
      (s.closingBalance = a.availableBalance ↔
        w.db.balance a.id + movement b.db a.id (fun t => endOfDay toDate * 1000 < t) = 0) := by
  obtain ⟨s, hs, draws⟩ := getStatement_draws
    ⟨ha, hcustomer, howner, hnamed, seeded_entries hseed h, hfrom, hto, hordered⟩ choice
  refine ⟨s, hs, ?_⟩
  have hsplit : movement b.db a.id (fun _ => true) =
      s.closingBalance + movement b.db a.id (fun t => endOfDay toDate * 1000 < t) := by
    rw [draws.closingBalance]
    refine movement_add (fun t => ?_) fun t => ?_
    · rw [Bool.eq_iff_iff]
      simp only [decide_eq_true_eq, Bool.or_eq_true, true_iff]
      omega
    · simp only [decide_eq_true_eq]
      omega
  rw [seeded_balance hseed h ha, hsplit]
  constructor
  · intro heq
    linarith
  · intro heq
    linarith

lemma Seeded.balance_eq_zero {db : Db} (hseed : Seeded uuid now db) {id : Uuid}
    (hreserve : id ≠ uuid .systemAccount) (hsource : id ≠ uuid .sourceAccount) :
    db.balance id = 0 := by
  unfold Db.balance
  cases hf : db.accounts.find id with
  | none => rfl
  | some a =>
    obtain ⟨hm, rfl⟩ := Table.find_eq_some.mp hf
    rw [hseed.shape.accounts] at hm
    simp only [seededAccounts, List.mem_cons, List.not_mem_nil, or_false] at hm
    rcases hm with rfl | rfl | rfl | rfl | rfl | rfl | rfl
    · exact absurd rfl hreserve
    · rfl
    · rfl
    · rfl
    · rfl
    · exact absurd rfl hsource
    · rfl

end Balance

/-- The number of the day in the Julian calendar count, by the proleptic Gregorian calendar. -/
def julianDay (year month day : ℕ) : ℕ :=
  let a := (14 - month) / 12
  let y := year + 4800 - a
  day + (153 * (month + 12 * a - 3) + 2) / 5 + 365 * y + y / 4 - y / 100 + y / 400 - 32045

/-- The Date constructor on texts of the form YYYY-MM-DD. -/
def isoDate (text : String) : Option ℤ :=
  match text.toList with
  | [y₁, y₂, y₃, y₄, '-', m₁, m₂, '-', d₁, d₂] =>
    if [y₁, y₂, y₃, y₄, m₁, m₂, d₁, d₂].all Char.isDigit then
      let number := fun cs : List Char => cs.foldl (fun n c => 10 * n + (c.toNat - '0'.toNat)) 0
      some (julianDay (number [y₁, y₂, y₃, y₄]) (number [m₁, m₂]) (number [d₁, d₂]) * dayLength)
    else none
  | _ => none

def demoRunAt (now : Instant) : Option Bank :=
  Bank.run demoSha256 (Bank.start { demoWorld with now }) demoSchedule

def demoStatement (b : Bank) (account : SeedRow) («from» «to» : String) :
    Except Failure AccountStatement :=
  getStatement isoDate 0 b.db (demoIds .user) (demoIds account).text «from» «to»

def demoNoon : Instant := (julianDay 2026 3 31 * 24 + 12) * 60 * 60 * 1000000

def demoLateEvening : Instant := (julianDay 2026 4 1 * 24 * 60 * 60 * 1000000) - 500

lemma ok_of_toOption {ε α : Type} {x : Except ε α} {a : α}
    (h : x.toOption = some a) : x = .ok a := by
  cases x with
  | ok b => exact congrArg Except.ok (Option.some.inj h)
  | error e => cases h

lemma demoRunAt_seeded (now : Instant) : Seeded demoIds 0 ({ demoWorld with now } : World).db :=
  demoDb_seeded

/-- An entry of 23:59:59.9995 is in neither of two consecutive statements. -/
theorem late_entry_in_no_statement : ∃ b first second, demoRunAt demoLateEvening = some b ∧
    demoStatement b .destAccount "2026-03-01" "2026-03-31" = .ok first ∧
    demoStatement b .destAccount "2026-04-01" "2026-04-30" = .ok second ∧
    ¬ Chained b.db (demoIds .destAccount) (julianDay 2026 3 1)
      (julianDay 2026 4 30) first second := by
  have hrun : (demoRunAt demoLateEvening).bind (fun b =>
      (demoStatement b .destAccount "2026-03-01" "2026-03-31").toOption.bind fun first =>
        (demoStatement b .destAccount "2026-04-01" "2026-04-30").toOption.map fun second =>
          decide (first.closingBalance = second.openingBalance)) = some false := by decide +kernel
  obtain ⟨b, hb, hrun⟩ := Option.bind_eq_some_iff.mp hrun
  obtain ⟨first, hfirst, hrun⟩ := Option.bind_eq_some_iff.mp hrun
  obtain ⟨second, hsecond, hne⟩ := Option.map_eq_some_iff.mp hrun
  exact ⟨b, first, second, hb, ok_of_toOption hfirst, ok_of_toOption hsecond,
    fun h => of_decide_eq_false hne h.balances⟩

lemma demoRunAt_drawable {now : Instant} {b : Bank} (h : demoRunAt now = some b) {account : SeedRow}
    {a : Account} {«from» «to» : String} {fromDate toDate : ℤ}
    (ha : b.db.accounts.find (demoIds account) = some a) (hcustomer : a.isSystem = false)
    (hprofile : (b.db.customerProfiles.find a.customerId).map CustomerProfile.userId = some
      (demoIds .user))
    (hfrom : isoDate «from» = some fromDate) (hto : isoDate «to» = some toDate)
    (hordered : fromDate ≤ toDate) (hnamed : a.id.spelledBy (demoIds account).text = true) :
    Drawable isoDate b.db (demoIds .user) a (demoIds account).text «from» «to» fromDate toDate := by
  obtain ⟨p, hp, huser⟩ := Option.map_eq_some_iff.mp hprofile
  obtain ⟨hm, hid⟩ := Table.find_eq_some.mp hp
  exact ⟨(Table.find_eq_some.mp ha).1, hcustomer, ⟨p, hm, huser, hid⟩, hnamed,
    seeded_entries (demoRunAt_seeded now) h, hfrom, hto, hordered⟩

lemma demoRunAt_noon : ∃ b a, demoRunAt demoNoon = some b ∧
    b.db.accounts.find (demoIds .destAccount) = some a ∧
    a.isSystem = false ∧
    (b.db.customerProfiles.find a.customerId).map CustomerProfile.userId = some (demoIds .user) ∧
    ∀ e ∈ b.db.ledgerEntries.rows, e.createdAt = demoNoon := by
  have hrun : (demoRunAt demoNoon).bind
      (fun b => (b.db.accounts.find (demoIds .destAccount)).map fun a =>
      !a.isSystem && (b.db.customerProfiles.find a.customerId).map CustomerProfile.userId = some
        (demoIds .user) &&
        b.db.ledgerEntries.rows.all fun e => e.createdAt = demoNoon) = some true := by
          decide +kernel
  obtain ⟨b, hb, hrun⟩ := Option.bind_eq_some_iff.mp hrun
  obtain ⟨a, ha, hall⟩ := Option.map_eq_some_iff.mp hrun
  simp only [Bool.and_eq_true, Bool.not_eq_true', decide_eq_true_eq, List.all_eq_true] at hall
  exact ⟨b, a, hb, ha, hall.1.1, hall.1.2, hall.2⟩

theorem demo_statements_chain : ∃ b a first second, demoRunAt demoNoon = some b ∧
    demoStatement b .destAccount "2026-03-01" "2026-03-31" = .ok first ∧
    demoStatement b .destAccount "2026-04-01" "2026-04-30" = .ok second ∧
    Chained b.db a (julianDay 2026 3 1) (julianDay 2026 4 30) first second := by
  obtain ⟨b, a, hb, ha, hcustomer, hprofile, hnoon⟩ := demoRunAt_noon
  have hid : a.id = demoIds .destAccount := (Table.find_eq_some.mp ha).2
  have hnamed : a.id.spelledBy (demoIds .destAccount).text = true := by
    rw [hid]
    decide +kernel
  have h₁ : Drawable isoDate b.db (demoIds .user) a
      (demoIds .destAccount).text "2026-03-01" "2026-03-31"
      (julianDay 2026 3 1 * dayLength) (julianDay 2026 3 31 * dayLength) :=
    demoRunAt_drawable hb ha hcustomer hprofile (by decide +kernel) (by decide +kernel)
      (by decide) hnamed
  have h₂ : Drawable isoDate b.db (demoIds .user) a
      (demoIds .destAccount).text "2026-04-01" "2026-04-30"
      ((julianDay 2026 3 31 + 1) * dayLength) (julianDay 2026 4 30 * dayLength) :=
    demoRunAt_drawable hb ha hcustomer hprofile (by decide +kernel) (by decide +kernel)
      (by decide) hnamed
  obtain ⟨first, second, hfirst, hsecond, hchained⟩ := statements_chain_iff h₁ h₂ 0 0
  refine ⟨b, a.id, first, second, hb, hfirst, hsecond, hchained.mpr fun e he _ => ?_⟩
  rw [hnoon e he]
  unfold InLastMillisecond
  decide +kernel

/-- The first account of the demo customer has money before it has entries. -/
theorem seeded_money_in_no_statement :
    ∃ a s, Bank.run demoSha256 (Bank.start demoWorld) [] = some (Bank.start demoWorld) ∧
    a ∈ (Bank.start demoWorld).db.accounts.rows ∧ a.isSystem = false ∧
      a.id = demoIds .sourceAccount ∧
    (∀ e ∈ (Bank.start demoWorld).db.ledgerEntries.rows, e.accountId ≠ a.id) ∧
    demoStatement (Bank.start demoWorld) .sourceAccount "2026-03-01" "2026-03-31" = .ok s ∧
    s.closingBalance ≠ a.availableBalance := by
  have heval : (demoDb.accounts.find (demoIds .sourceAccount)).bind (fun a =>
      (demoStatement (Bank.start demoWorld) .sourceAccount "2026-03-01" "2026-03-31").toOption.map
        fun s =>
        !a.isSystem && !(s.closingBalance = a.availableBalance)) = some true := by decide +kernel
  obtain ⟨a, ha, heval⟩ := Option.bind_eq_some_iff.mp heval
  obtain ⟨s, hs, hall⟩ := Option.map_eq_some_iff.mp heval
  simp only [Bool.and_eq_true, Bool.not_eq_true', decide_eq_false_iff_not] at hall
  obtain ⟨hm, hid⟩ := Table.find_eq_some.mp ha
  refine ⟨a, s, rfl, hm, hall.1, hid, ?_, ok_of_toOption hs, hall.2⟩
  have hnone : demoDb.ledgerEntries.rows = [] := demoDb_seeded.shape.ledgerEntries
  simp [Bank.db, Bank.start, Config.init, demoWorld, hnone]

theorem demo_closing_balance : ∃ b a s, demoRunAt demoNoon = some b ∧ a ∈ b.db.accounts.rows ∧
    demoStatement b .destAccount "2026-03-01" "2026-03-31" = .ok s ∧
      s.closingBalance = a.availableBalance := by
  obtain ⟨b, a, hb, ha, hcustomer, hprofile, hnoon⟩ := demoRunAt_noon
  have hid : a.id = demoIds .destAccount := (Table.find_eq_some.mp ha).2
  have hnamed : a.id.spelledBy (demoIds .destAccount).text = true := by
    rw [hid]
    decide +kernel
  obtain ⟨p, hp, huser⟩ := Option.map_eq_some_iff.mp hprofile
  obtain ⟨hpm, hpid⟩ := Table.find_eq_some.mp hp
  obtain ⟨s, hs, hiff⟩ := closing_balance_iff (demoRunAt_seeded demoNoon) hb
    (Table.find_eq_some.mp ha).1 hcustomer ⟨p, hpm, huser, hpid⟩ hnamed
    (show isoDate "2026-03-01" = some (julianDay 2026 3 1 * dayLength) by decide +kernel)
    (show isoDate "2026-03-31" = some (julianDay 2026 3 31 * dayLength) by decide +kernel)
      (by decide) 0
  refine ⟨b, a, s, hb, (Table.find_eq_some.mp ha).1, hs, hiff.mpr ?_⟩
  have hzero : demoDb.balance a.id = 0 := by
    rw [hid]
    exact Seeded.balance_eq_zero demoDb_seeded (by decide) (by decide)
  have hnone : movement b.db a.id (fun t => endOfDay (julianDay 2026 3 31 * dayLength) * 1000 < t) =
      movement b.db a.id fun _ => false := by
    refine movement_congr fun e he _ => ?_
    rw [hnoon e he]
    decide +kernel
  have hempty : movement b.db a.id (fun _ => false) = 0 := by simp [movement]
  rw [hnone, hempty, add_zero]
  exact hzero

end OnlineBanking
