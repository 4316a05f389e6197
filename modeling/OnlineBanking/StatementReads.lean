import OnlineBanking.Library.Readers
import OnlineBanking.StatementPeriods

set_option autoImplicit false

/-! getStatement read by read. Calls of the bank run between the reads. -/

namespace OnlineBanking

open Library

inductive StatementRead
  | profileFind | accountFind | prevCredits | prevDebits | periodCredits |
    periodDebits | entriesFind
  deriving DecidableEq

structure StatementInputs where
  fault : StatementRead → Option PrismaError := fun _ => none
  choice : ℕ := 0

abbrev StatementsService (α : Type) : Type 1 := Prog StatementInputs Db Empty Failure α

def earlier (fromDate : ℤ) (t : Instant) : Bool := t < fromDate * 1000

def inPeriod (fromDate toDate : ℤ) (t : Instant) : Bool :=
  fromDate * 1000 ≤ t ∧ t ≤ endOfDay toDate * 1000

namespace StatementsService

variable {α β : Type}

def query (l : StatementRead) (f : ℕ → Db → Except Failure α) : StatementsService α :=
  Prog.atomic fun i db =>
    match i.fault l with
    | some e => (.error (.prisma e), db, [])
    | none => (f i.choice db, db, [])

/-- `Promise.all` of two reads; the database may answer the second one first. -/
def all (secondFirst : Bool) (x : StatementsService α) (y : StatementsService β) :
    StatementsService (α × β) :=
  if secondFirst then do
    let b ← y
    let a ← x
    return (a, b)
  else do
    let a ← x
    let b ← y
    return (a, b)

def sum (l : StatementRead) (accountId : String) (side : LedgerSide) (createdAt : Instant → Bool) :
    StatementsService ℚ :=
  query l fun _ db => .ok (aggregate db accountId side createdAt)

/-- `order` says of both pairs of sums whether the debits are answered first. -/
def getStatement (newDate : String → Option ℤ) (order : Bool × Bool) (userId : Uuid)
    (accountId «from» «to» : String) : StatementsService AccountStatement := do
  let found ← query .profileFind fun _ db => .ok (db.customerProfiles.findAlt userId)
  match found with
  | none => throw (.notFound "Customer profile not found")
  | some profile =>
    let found ← query .accountFind fun choice db => .ok (db.accounts.findFirst
      (fun a => a.id.spelledBy accountId ∧ a.customerId = profile.id ∧ a.isSystem = false) choice)
    match found with
    | none => throw (.notFound "Account not found or access denied")
    | some account =>
      match newDate «from», newDate «to» with
      | some fromDate, some toDate =>
        if toDate < fromDate then
          throw (.badRequest "from date must be before or equal to to date")
        else do
          let prev ← all order.1 (sum .prevCredits accountId .credit (earlier fromDate))
            (sum .prevDebits accountId .debit (earlier fromDate))
          let openingBalance := prev.1 - prev.2
          let period ← all order.2 (sum .periodCredits accountId .credit (inPeriod fromDate toDate))
            (sum .periodDebits accountId .debit (inPeriod fromDate toDate))
          let entries ← query .entriesFind fun _ db => ((db.ledgerEntries.rows.filter fun e =>
            e.accountId.spelledBy accountId ∧ inPeriod fromDate toDate e.createdAt).insertionSort
              fun e e' => e'.createdAt ≤ e.createdAt).mapM (statementEntry db)
          return {
            id := account.id
            iban := account.iban
            accountType := account.accountType
            currency := account.currency
            «from»
            «to»
            openingBalance
            closingBalance := openingBalance + period.1 - period.2
            totalDebits := period.2
            totalCredits := period.1
            entries }
      | _, _ => throw (.badRequest "Invalid date format")

end StatementsService

section AtRest

open StatementsService

variable {α β : Type} {i : StatementInputs} {db : Db}

lemma consult_query {n : ℕ} {l : StatementRead} {f : ℕ → Db → Except Failure α}
    {g : α → StatementsService β} (hl : i.fault l = none) :
    Prog.consult (.replicate (n + 1) (i, db)) (query l f >>= g) db =
      match f i.choice db with
      | .ok a => Prog.consult (.replicate n (i, db)) (g a) db
      | .error e => .done (.error e) := by
  rw [Prog.consult, List.replicate_succ, List.map_cons, query, Prog.play_atomic_bind, hl]
  cases f i.choice db with
  | ok a => rfl
  | error e => rfl

lemma consult_all {n : ℕ} {secondFirst : Bool} {l l' : StatementRead} {accountId : String}
    {p : Instant → Bool} {g : ℚ × ℚ → StatementsService β} (hl : i.fault l = none)
    (hl' : i.fault l' = none) :
    Prog.consult (.replicate (n + 2) (i, db))
        (all secondFirst (sum l accountId .credit p) (sum l' accountId .debit p) >>= g) db =
      Prog.consult (.replicate n (i, db))
        (g (aggregate db accountId .credit p, aggregate db accountId .debit p)) db := by
  cases secondFirst with
  | false =>
    simp only [Prog.consult, all, sum, query, Prog.atomic, bind, Prog.finish, List.replicate,
      List.map, Prog.play,
      hl, hl', Bool.false_eq_true, ↓reduceIte]
    rfl
  | true =>
    simp only [Prog.consult, all, sum, query, Prog.atomic, bind, Prog.finish, List.replicate,
      List.map, Prog.play,
      hl, hl', ↓reduceIte]
    rfl

theorem getStatement_at_rest {newDate : String → Option ℤ} {order : Bool × Bool} {userId : Uuid}
    {accountId «from» «to» : String} (hi : ∀ l, i.fault l = none) :
    Prog.consult (.replicate 7 (i, db))
        (StatementsService.getStatement newDate order userId accountId «from» «to») db =
      .done (OnlineBanking.getStatement newDate i.choice db userId accountId «from» «to») := by
  unfold StatementsService.getStatement OnlineBanking.getStatement
  rw [consult_query (hi _)]
  dsimp only
  cases db.customerProfiles.findAlt userId with
  | none => rfl
  | some profile =>
    dsimp only
    rw [consult_query (hi _)]
    dsimp only
    cases db.accounts.findFirst
      (fun a => a.id.spelledBy accountId ∧ a.customerId = profile.id ∧ a.isSystem = false)
        i.choice with
    | none => rfl
    | some account =>
      cases newDate «from» with
      | none => rfl
      | some fromDate =>
        cases newDate «to» with
        | none => rfl
        | some toDate =>
          dsimp only
          split
          · rfl
          · rw [consult_all (hi _) (hi _), consult_all (hi _) (hi _), consult_query (hi _)]
            have hperiod : ∀ t, inPeriod fromDate toDate t =
                decide (fromDate * 1000 ≤ (t : ℤ) ∧ (t : ℤ) ≤ endOfDay toDate * 1000) :=
                  fun _ => rfl
            simp only [hperiod]
            cases List.mapM (statementEntry db) _ with
            | ok entries => rfl
            | error e => rfl

end AtRest

structure LedgerReads where
  prevCredits : Db
  prevDebits : Db
  periodCredits : Db
  periodDebits : Db
  entries : Db

namespace LedgerReads

def of (order : Bool × Bool) : List Db → Option LedgerReads
  | _ :: _ :: prev :: prev' :: period :: period' :: entries :: _ => some {
    prevCredits := if order.1 then prev' else prev
    prevDebits := if order.1 then prev else prev'
    periodCredits := if order.2 then period' else period
    periodDebits := if order.2 then period else period'
    entries }
  | _ => none

end LedgerReads

section Spec

open StatementsService

variable {α β : Type} {Q : α → List (StatementInputs × Db) → Prop}
    {found : List (StatementInputs × Db)}

lemma reads_query {l : StatementRead} {f : ℕ → Db → Except Failure α}
    (h : ∀ i db later a, found = (i, db) :: later → f i.choice db = .ok a → Q a later) :
    Prog.Reads Q (query l f) found := by
  apply Prog.reads_atomic
  intro i db later a hfound ha
  split at ha
  · cases ha
  · exact h i db later a hfound ha

lemma reads_sums {Q : ℚ × ℚ → List (StatementInputs × Db) → Prop} {secondFirst : Bool}
    {l l' : StatementRead} {accountId : String} {p : Instant → Bool}
    (h : ∀ i db i' db' later, found = (i, db) :: (i', db') :: later →
      Q (aggregate (if secondFirst then db' else db) accountId .credit p,
        aggregate (if secondFirst then db else db') accountId .debit p) later) :
    Prog.Reads Q (all secondFirst (sum l accountId .credit p) (sum l' accountId .debit p))
      found := by
  cases secondFirst with
  | false =>
    apply Prog.reads_bind
    apply reads_query
    rintro i db rest _ rfl hcredits
    cases hcredits
    apply Prog.reads_bind
    apply reads_query
    rintro i' db' later _ rfl hdebits
    cases hdebits
    exact h i db i' db' later rfl
  | true =>
    apply Prog.reads_bind
    apply reads_query
    rintro i db rest _ rfl hdebits
    cases hdebits
    apply Prog.reads_bind
    apply reads_query
    rintro i' db' later _ rfl hcredits
    cases hcredits
    exact h i db i' db' later rfl

structure LedgerReads.Gives (r : LedgerReads) (accountId : String) (fromDate toDate : ℤ)
    (s : AccountStatement) :
    Prop where
  ordered : fromDate ≤ toDate
  openingBalance : s.openingBalance = aggregate r.prevCredits accountId .credit (earlier fromDate) -
    aggregate r.prevDebits accountId .debit (earlier fromDate)
  totalCredits : s.totalCredits = aggregate r.periodCredits accountId .credit
    (inPeriod fromDate toDate)
  totalDebits : s.totalDebits = aggregate r.periodDebits accountId .debit (inPeriod fromDate toDate)
  closingBalance : s.closingBalance = s.openingBalance + s.totalCredits - s.totalDebits
  entries : ((r.entries.ledgerEntries.rows.filter fun e => e.accountId.spelledBy accountId ∧
    inPeriod fromDate toDate e.createdAt).insertionSort fun e e' => e'.createdAt ≤ e.createdAt).mapM
      (statementEntry r.entries) = .ok s.entries

theorem reads_getStatement {newDate : String → Option ℤ} {order : Bool × Bool} {userId : Uuid}
    {accountId «from» «to» : String} {fromDate toDate : ℤ} (hfrom : newDate «from» = some fromDate)
    (hto : newDate «to» = some toDate) :
    Prog.Reads (fun s _ => ∃ r, LedgerReads.of order (found.map Prod.snd) = some r ∧
      r.Gives accountId fromDate toDate s)
      (StatementsService.getStatement newDate order userId accountId «from» «to») found := by
  apply Prog.reads_bind
  apply reads_query
  rintro i₁ db₁ found profile? rfl _
  cases profile? with
  | none => exact Prog.reads_throw
  | some profile =>
    apply Prog.reads_bind
    apply reads_query
    rintro i₂ db₂ found account? rfl _
    cases account? with
    | none => exact Prog.reads_throw
    | some account =>
      simp only [hfrom, hto]
      split
      · exact Prog.reads_throw
      · rename_i hordered
        apply Prog.reads_bind
        apply reads_sums
        rintro i₃ db₃ i₄ db₄ found rfl
        apply Prog.reads_bind
        apply reads_sums
        rintro i₅ db₅ i₆ db₆ found rfl
        apply Prog.reads_bind
        apply reads_query
        rintro i₇ db₇ later entries rfl hentries
        apply Prog.reads_pure
        exact ⟨_, rfl, not_lt.mp hordered, rfl, rfl, rfl, rfl, hentries⟩

end Spec

def Db.Grew (db db' : Db) : Prop :=
  ∃ new, db'.ledgerEntries.rows = db.ledgerEntries.rows ++ new ∧ ∀ e ∈ new, 0 < e.amount

namespace Db.Grew

protected lemma refl (db : Db) : db.Grew db := ⟨[], by simp, by simp⟩

lemma trans {db db' db'' : Db} (h : db.Grew db') (h' : db'.Grew db'') : db.Grew db'' := by
  obtain ⟨new, hrows, hpositive⟩ := h
  obtain ⟨new', hrows', hpositive'⟩ := h'
  refine ⟨new ++ new', by rw [hrows', hrows, List.append_assoc], fun e he => ?_⟩
  rcases List.mem_append.mp he with he | he
  · exact hpositive e he
  · exact hpositive' e he

lemma of_moves {start db db' : Db} (h : start.Grew db) (hm : Moves db db') : start.Grew db' := by
  cases hm with
  | none same => exact h.trans ⟨[], by simp [same.ledgerEntries], by simp⟩
  | one p posted applied funds same =>
    apply h.trans
    refine ⟨[p.debit, p.credit], by rw [same.ledgerEntries, applied.ledgerEntries], fun e he => ?_⟩
    rcases List.mem_pair.mp he with rfl | rfl
    · exact p.debits.amount ▸ p.positive
    · exact p.credits.amount ▸ p.positive

lemma subset {db db' : Db} (h : db.Grew db') {e : LedgerEntry} (he : e ∈ db.ledgerEntries.rows) :
    e ∈ db'.ledgerEntries.rows := by
  obtain ⟨new, hrows, _⟩ := h
  rw [hrows]
  exact List.mem_append_left new he

end Db.Grew

lemma grew_of_run {sha256 : String → String} {w : World} {ls ms : List Action} {b b' : Bank}
    (hb : Bank.run sha256 (Bank.start w) ls = some b) (h : Bank.run sha256 b ms = some b') :
    b.db.Grew b'.db := by
  let D := discipline sha256
  have hholds := D.holds_of_run (D.init_holds w) hb
  refine (D.shared_invariant (P := fun s : State => b.db.Grew s.world.db) ?_ ?_ hholds (.refl _)
    (Discipline.meets_true b ms) h).2
  · exact fun d t i c program s' _ _ _ hgrew hg => hgrew.of_moves (Effect.movement hg).moves
  · exact fun e s hgrew => hgrew.of_moves (.none (environment_kept e s.world).sameMoney)

lemma ledgerEntries_nodup (db : Db) : db.ledgerEntries.rows.Nodup :=
  List.Nodup.of_map Record.key db.ledgerEntries.keys_nodup

section Sums

variable {db db' : Db} {accountId : String} {side : LedgerSide} {p : Instant → Bool}

lemma sum_eq_zero_iff {es : List LedgerEntry} (h : ∀ e ∈ es, 0 < e.amount) :
    (es.map LedgerEntry.amount).sum = 0 ↔ es = [] := by
  constructor
  · intro hsum
    cases es with
    | nil => rfl
    | cons e es =>
      have hrest : 0 ≤ (es.map LedgerEntry.amount).sum := by
        apply List.sum_nonneg
        intro x hx
        obtain ⟨e', he', rfl⟩ := List.mem_map.mp hx
        exact (h e' (List.mem_cons_of_mem e he')).le
      have hpositive := h e List.mem_cons_self
      rw [List.map_cons, List.sum_cons] at hsum
      linarith
  · rintro rfl
    rfl

lemma Db.Grew.aggregate_eq_iff (h : db.Grew db') :
    aggregate db accountId side p = aggregate db' accountId side p ↔
      ∀ e ∈ db'.ledgerEntries.rows, e.accountId.spelledBy accountId → e.side = side →
        p e.createdAt →
        e ∈ db.ledgerEntries.rows := by
  have hnodup := ledgerEntries_nodup db'
  obtain ⟨new, hrows, hpositive⟩ := h
  rw [hrows] at hnodup
  have hapart := (List.nodup_append.mp hnodup).2.2
  unfold aggregate
  rw [hrows, List.filter_append, List.map_append, List.sum_append, left_eq_add, sum_eq_zero_iff]
  · constructor
    · intro hnone e he hspelled hside hp
      rcases List.mem_append.mp he with he | he
      · exact he
      · exact absurd (decide_eq_true ⟨hspelled, hside, hp⟩) (List.filter_eq_nil_iff.mp hnone e he)
    · intro hall
      apply List.filter_eq_nil_iff.mpr
      intro e he hcond
      obtain ⟨hspelled, hside, hp⟩ := of_decide_eq_true hcond
      exact hapart e (hall e (List.mem_append_right _ he) hspelled hside hp) e he rfl
  · intro e he
    exact hpositive e (List.mem_filter.mp he).1

lemma aggregate_congr
    (h : ∀ e : LedgerEntry, e.accountId.spelledBy accountId → e.side = side → p e.createdAt →
    (e ∈ db.ledgerEntries.rows ↔ e ∈ db'.ledgerEntries.rows)) :
    aggregate db accountId side p = aggregate db' accountId side p := by
  apply List.Perm.sum_eq
  apply List.Perm.map
  apply (List.perm_ext_iff_of_nodup ((ledgerEntries_nodup db).filter _)
    ((ledgerEntries_nodup db').filter _)).mpr
  intro e
  simp only [List.mem_filter, decide_eq_true_eq]
  constructor
  · rintro ⟨he, hspelled, hside, hp⟩
    exact ⟨(h e hspelled hside hp).mp he, hspelled, hside, hp⟩
  · rintro ⟨he, hspelled, hside, hp⟩
    exact ⟨(h e hspelled hside hp).mpr he, hspelled, hside, hp⟩

end Sums

def AccountStatement.listedSum (s : AccountStatement) (side : LedgerSide) : ℚ :=
  ((s.entries.filter fun e => e.side = side).map StatementEntry.amount).sum

lemma statementEntry_eq_ok {db : Db} {e : LedgerEntry} {x : StatementEntry}
    (h : statementEntry db e = .ok x) :
    x.side = e.side ∧ x.amount = e.amount := by
  unfold statementEntry at h
  split at h
  · cases h
    exact ⟨rfl, rfl⟩
  · cases h

lemma listed_of_mapM {db : Db} {side : LedgerSide} {es : List LedgerEntry}
    {xs : List StatementEntry} (h : es.mapM (statementEntry db) = .ok xs) :
    (xs.filter fun x => x.side = side).map StatementEntry.amount =
      (es.filter fun e => e.side = side).map LedgerEntry.amount := by
  have hall := forall₂_of_mapM h
  clear h
  induction hall with
  | nil => rfl
  | @cons e x es xs hx hrest ih =>
    obtain ⟨hside, hamount⟩ := statementEntry_eq_ok hx
    by_cases he : e.side = side
    · simp [hside, hamount, he, ih]
    · simp [hside, he, ih]

lemma LedgerReads.Gives.listedSum {r : LedgerReads} {accountId : String} {fromDate toDate : ℤ}
    {s : AccountStatement} (h : r.Gives accountId fromDate toDate s) (side : LedgerSide) :
    s.listedSum side = aggregate r.entries accountId side (inPeriod fromDate toDate) := by
  unfold AccountStatement.listedSum aggregate
  rw [listed_of_mapM h.entries]
  apply List.Perm.sum_eq
  apply List.Perm.map
  apply ((List.perm_insertionSort _ _).filter _).trans
  rw [List.filter_filter]
  apply List.Perm.of_eq
  apply List.filter_congr
  intro e _
  rw [Bool.eq_iff_iff]
  simp only [Bool.and_eq_true, decide_eq_true_eq]
  constructor
  · rintro ⟨hside, hspelled, hp⟩
    exact ⟨hspelled, hside, hp⟩
  · rintro ⟨hspelled, hside, hp⟩
    exact ⟨hside, hspelled, hp⟩

def LedgerEntry.Concerns (e : LedgerEntry) (account : Uuid) (toDate : ℤ) : Prop :=
  e.accountId = account ∧ e.createdAt ≤ endOfDay toDate * 1000

def Bank.Holds (account : Uuid) (toDate : ℤ) (b : Bank) (e : LedgerEntry) : Prop :=
  e.Concerns account toDate ∧ e ∈ b.db.ledgerEntries.rows

namespace LedgerReads

def summing (r : LedgerReads) (fromDate : ℤ) (e : LedgerEntry) : Db :=
  match e.side, earlier fromDate e.createdAt with
  | .credit, true => r.prevCredits
  | .debit, true => r.prevDebits
  | .credit, false => r.periodCredits
  | .debit, false => r.periodDebits

def Sees (r : LedgerReads) (account : Uuid) (fromDate toDate : ℤ) (e : LedgerEntry) : Prop :=
  e.Concerns account toDate ∧ e ∈ (r.summing fromDate e).ledgerEntries.rows

def ListsSeen (r : LedgerReads) (account : Uuid) (fromDate toDate : ℤ) : Prop :=
  ∀ e ∈ r.entries.ledgerEntries.rows, e.accountId = account → inPeriod fromDate toDate e.createdAt →
    e ∈ (r.summing fromDate e).ledgerEntries.rows

variable {r : LedgerReads} {order : Bool × Bool} {account : Uuid} {accountId : String}
    {fromDate toDate : ℤ}
  {s : AccountStatement}

lemma summing_of {dbs : List Db} (hr : LedgerReads.of order dbs = some r) {P : Db → Prop}
    (hP : ∀ db ∈ dbs, P db) (e : LedgerEntry) : P (r.summing fromDate e) := by
  match dbs, hr with
  | db₁ :: db₂ :: db₃ :: db₄ :: db₅ :: db₆ :: db₇ :: later, hr =>
    obtain rfl := Option.some.inj hr
    unfold summing
    apply hP
    split
    · cases order.1 with
      | false => simp
      | true => simp
    · cases order.1 with
      | false => simp
      | true => simp
    · cases order.2 with
      | false => simp
      | true => simp
    · cases order.2 with
      | false => simp
      | true => simp

lemma grown_of {dbs : List Db} (hr : LedgerReads.of order dbs = some r)
    (hgrown : dbs.Pairwise Db.Grew) :
    r.periodCredits.Grew r.entries ∧ r.periodDebits.Grew r.entries := by
  match dbs, hr with
  | db₁ :: db₂ :: db₃ :: db₄ :: db₅ :: db₆ :: db₇ :: later, hr =>
    obtain rfl := Option.some.inj hr
    simp only [List.pairwise_cons] at hgrown
    obtain ⟨_, _, _, _, h₅, h₆, _⟩ := hgrown
    have h₅₇ : db₅.Grew db₇ := h₅ db₇ (by simp)
    have h₆₇ : db₆.Grew db₇ := h₆ db₇ (by simp)
    cases order.2 with
    | false => exact ⟨h₅₇, h₆₇⟩
    | true => exact ⟨h₆₇, h₅₇⟩

lemma inPeriod_not_earlier {t : Instant} (h : inPeriod fromDate toDate t) :
    earlier fromDate t = false := by
  simp only [inPeriod, decide_eq_true_eq] at h
  simp only [earlier, decide_eq_false_iff_not]
  omega

theorem Gives.totals_iff (h : r.Gives accountId fromDate toDate s)
    (hnamed : account.spelledBy accountId = true) (hcredits : r.periodCredits.Grew r.entries)
    (hdebits : r.periodDebits.Grew r.entries) :
    s.totalCredits = s.listedSum .credit ∧ s.totalDebits = s.listedSum .debit ↔
      r.ListsSeen account fromDate toDate := by
  have hspelled : ∀ id : Uuid, id.spelledBy accountId = true ↔ id = account :=
    fun _ => Uuid.spelledBy_iff hnamed
  rw [h.listedSum, h.listedSum, h.totalCredits, h.totalDebits, hcredits.aggregate_eq_iff,
    hdebits.aggregate_eq_iff]
  simp only [hspelled]
  constructor
  · rintro ⟨hcredit, hdebit⟩ e he haccount hp
    unfold summing
    rw [inPeriod_not_earlier hp]
    cases hside : e.side with
    | credit => exact hcredit e he haccount hside hp
    | debit => exact hdebit e he haccount hside hp
  · intro hlisted
    constructor
    · intro e he haccount hside hp
      have hseen := hlisted e he haccount hp
      simpa only [summing, hside, inPeriod_not_earlier hp] using hseen
    · intro e he haccount hside hp
      have hseen := hlisted e he haccount hp
      simpa only [summing, hside, inPeriod_not_earlier hp] using hseen

theorem Gives.closingBalance_of_cut (h : r.Gives accountId fromDate toDate s)
    (hnamed : account.spelledBy accountId = true) {db : Db}
    (hcut : ∀ e : LedgerEntry, e.Concerns account toDate ∧ e ∈ db.ledgerEntries.rows ↔
      r.Sees account fromDate toDate e) :
    s.closingBalance = movement db account fun t => t ≤ endOfDay toDate * 1000 := by
  have hspelled : ∀ id : Uuid, id.spelledBy accountId = true ↔ id = account :=
    fun _ => Uuid.spelledBy_iff hnamed
  have hend := le_endOfDay toDate
  have hle := h.ordered
  have hsame : ∀ e : LedgerEntry, e.Concerns account toDate →
      (e ∈ (r.summing fromDate e).ledgerEntries.rows ↔ e ∈ db.ledgerEntries.rows) := by
    intro e he
    have hiff := hcut e
    simp only [Sees, he, true_and] at hiff
    exact hiff.symm
  have hearlier : ∀ t : Instant, earlier fromDate t → t ≤ endOfDay toDate * 1000 := by
    intro t ht
    simp only [earlier, decide_eq_true_eq] at ht
    omega
  have hperiod : ∀ t : Instant, inPeriod fromDate toDate t → t ≤ endOfDay toDate * 1000 := by
    intro t ht
    simp only [inPeriod, decide_eq_true_eq] at ht
    exact ht.2
  have hsum : ∀ (seen : Db) (side : LedgerSide) (p : Instant → Bool),
      (∀ t, p t → t ≤ endOfDay toDate * 1000) →
      (∀ e : LedgerEntry, e.side = side → p e.createdAt → r.summing fromDate e = seen) →
        aggregate seen accountId side p = aggregate db accountId side p := by
    intro seen side p hp hseen
    apply aggregate_congr
    intro e he hside hpe
    rw [← hseen e hside hpe]
    exact hsame e ⟨(hspelled _).mp he, hp _ hpe⟩
  have hprevCredits := hsum r.prevCredits .credit _ hearlier
    fun e hside hp => by simp [summing, hside, hp]
  have hprevDebits := hsum r.prevDebits .debit _ hearlier
    fun e hside hp => by simp [summing, hside, hp]
  have hperiodCredits := hsum r.periodCredits .credit _ hperiod fun e hside hp => by
    simp [summing, hside, inPeriod_not_earlier hp]
  have hperiodDebits := hsum r.periodDebits .debit _ hperiod fun e hside hp => by
    simp [summing, hside, inPeriod_not_earlier hp]
  rw [h.closingBalance, h.openingBalance, h.totalCredits, h.totalDebits, hprevCredits, hprevDebits,
    hperiodCredits,
    hperiodDebits, aggregate_sub hnamed, add_sub_assoc, aggregate_sub hnamed, ← movement_add]
  · intro t
    rw [Bool.eq_iff_iff]
    simp only [earlier, inPeriod, decide_eq_true_eq, Bool.or_eq_true]
    omega
  · intro t ⟨ht, ht'⟩
    rw [inPeriod_not_earlier ht'] at ht
    cases ht

end LedgerReads

section Runs

variable {sha256 : String → String} {newDate : String → Option ℤ} {order : Bool × Bool}
    {userId account : Uuid}
  {accountId «from» «to» : String} {fromDate toDate : ℤ} {w : World} {past : List Action} {b : Bank}
  {reads : List (List Action × StatementInputs)} {found : List (StatementInputs × Bank)}
  {s : AccountStatement}

variable (sha256) in
/-- No call commits an entry that its sum misses before, or with, an entry that its sum counts. -/
def CountedFirst (r : LedgerReads) (account : Uuid) (fromDate toDate : ℤ) : Bank → Action → Prop :=
  Config.SeenFirst (handle sha256) environment (Bank.Holds account toDate)
    (r.Sees account fromDate toDate)

/-- A statement drawn while calls of the bank run: its totals are those of its entries if and only
if no entry of the period came between a sum and the list, and if the entries that were counted came
first, its closing balance is that of one of the databases of the run. -/
theorem getStatement_snapshot (hb : Bank.run sha256 (Bank.start w) past = some b)
    (hfound : Config.readings (handle sha256) environment b reads = some found)
    (hs : Prog.consult (found.map fun x => (x.1, x.2.db))
      (StatementsService.getStatement newDate order userId accountId «from» «to») b.db =
        .done (.ok s))
    (hnamed : account.spelledBy accountId = true) (hfrom : newDate «from» = some fromDate)
    (hto : newDate «to» = some toDate) :
    ∃ r, LedgerReads.of order (found.map fun x => x.2.db) = some r ∧
      (s.totalCredits = s.listedSum .credit ∧ s.totalDebits = s.listedSum .debit ↔
        r.ListsSeen account fromDate toDate) ∧
      s.closingBalance = s.openingBalance + s.totalCredits - s.totalDebits ∧
      (Config.Meets (handle sha256) environment (CountedFirst sha256 r account fromDate toDate)
          (Bank.start w) (past ++ Config.schedule reads) →
        ∃ ms d, ms <+: past ++ Config.schedule reads ∧ Bank.run sha256 (Bank.start w) ms = some d ∧
          s.closingBalance = movement d.db account fun t => t ≤ endOfDay toDate * 1000) := by
  obtain ⟨_, r, hr, hgives⟩ := (reads_getStatement hfrom hto).consult hs
  rw [List.map_map] at hr
  obtain ⟨last, hlast, hstates⟩ :
      ∃ last : Bank, Bank.run sha256 b (Config.schedule reads) = some last ∧
      ∀ x ∈ found, ∃ ls ms, Bank.run sha256 b ls = some x.2 ∧ Bank.run sha256 x.2 ms = some last :=
    Config.readings_run hfound
  have hreached : ∀ (ls : List Action) (d : Bank), Bank.run sha256 b ls = some d →
      Bank.run sha256 (Bank.start w) (past ++ ls) = some d :=
    fun ls d hd => (Config.run_after hb).trans hd
  have hgrown : (found.map fun x => x.2.db).Pairwise Db.Grew := by
    rw [List.pairwise_map]
    apply (Config.readings_pairwise hfound).imp_of_mem
    rintro x y hx _ ⟨ls, hls⟩
    obtain ⟨before, _, hbefore, _⟩ := hstates x hx
    exact grew_of_run (hreached before x.2 hbefore) hls
  obtain ⟨hcredits, hdebits⟩ := LedgerReads.grown_of hr hgrown
  refine ⟨r, hr, hgives.totals_iff hnamed hcredits hdebits, hgives.closingBalance, ?_⟩
  intro hmeets
  -- What a sum saw lies between the first database of the run and the last.
  have hbetween : ∀ e, w.db.Grew (r.summing fromDate e) ∧ (r.summing fromDate e).Grew last.db := by
    intro e
    apply LedgerReads.summing_of hr (P := fun db => w.db.Grew db ∧ db.Grew last.db)
    intro db hdb
    obtain ⟨x, hx, rfl⟩ := List.mem_map.mp hdb
    obtain ⟨before, after, hbefore, hafter⟩ := hstates x hx
    have hx := hreached before x.2 hbefore
    exact ⟨grew_of_run (show Bank.run sha256 (Bank.start w) [] = some _ from rfl) hx,
      grew_of_run hx hafter⟩
  obtain ⟨ms, d, hprefix, hd, hcut⟩ := Config.exists_cut
    (fun e he => ⟨he.1, (hbetween e).1.subset he.2⟩)
      (fun e he => ⟨he.1, (hbetween e).2.subset he.2⟩) hmeets
    (hreached _ last hlast)
  exact ⟨ms, d, hprefix, hd, hgives.closingBalance_of_cut hnamed hcut⟩

lemma countedFirst_of_sees_all {r : LedgerReads} {schedule : List Action} {last : Bank}
    (h : Bank.run sha256 (Bank.start w) schedule = some last)
    (hall : ∀ e, last.Holds account toDate e → r.Sees account fromDate toDate e) :
    Config.Meets (handle sha256) environment (CountedFirst sha256 r account fromDate toDate)
      (Bank.start w) schedule := by
  apply Discipline.meets_of_runs
  intro ms l d hprefix hd d' hd' e he hmissed
  obtain ⟨rest, hrest⟩ := hprefix
  have hstep : Bank.run sha256 (Bank.start w) (ms ++ [l]) = some d' :=
    (Config.run_after hd).trans (Config.run_single hd')
  have hlast : Bank.run sha256 d' rest = some last := by
    rw [← hrest] at h
    exact (Config.run_after hstep).symm.trans h
  exact absurd (hall e ⟨he.1, (grew_of_run hstep hlast).subset he.2⟩) hmissed

end Runs

def demoStart : Bank := Bank.start { demoWorld with now := demoNoon }

def demoReads (n : ℕ) : List (List Action × StatementInputs) :=
  (List.range 7).map fun k => (if k = n then demoSchedule else [], {})

def demoDraw (found : List (StatementInputs × Bank)) : Option AccountStatement :=
  match Prog.consult (found.map fun x => (x.1, x.2.db))
    (StatementsService.getStatement isoDate (false, false)
    (demoIds .user) (demoIds .destAccount).text "2026-03-01" "2026-03-31") demoStart.db with
  | .done (.ok s) => some s
  | _ => none

lemma consult_of_demoDraw {found : List (StatementInputs × Bank)} {s : AccountStatement}
    (h : demoDraw found = some s) :
    Prog.consult (found.map fun x => (x.1, x.2.db))
      (StatementsService.getStatement isoDate (false, false)
      (demoIds .user) (demoIds .destAccount).text "2026-03-01" "2026-03-31") demoStart.db = .done
        (.ok s) := by
  unfold demoDraw at h
  split at h
  · rename_i s' hs
    cases h
    exact hs
  · cases h

/-- The list has the transfer, the totals do not. -/
theorem listed_entry_not_in_totals : ∃ found s,
    Config.readings (handle demoSha256) environment demoStart (demoReads 6) = some found ∧
      demoDraw found = some s ∧
      s.totalCredits ≠ s.listedSum .credit := by
  have hrun : (Config.readings (handle demoSha256) environment demoStart (demoReads 6)).bind
      (fun found =>
      (demoDraw found).map fun s => decide (s.totalCredits = s.listedSum .credit)) =
        some false := by
    decide +kernel
  obtain ⟨found, hfound, hrun⟩ := Option.bind_eq_some_iff.mp hrun
  obtain ⟨s, hs, hsums⟩ := Option.map_eq_some_iff.mp hrun
  exact ⟨found, s, hfound, hs, of_decide_eq_false hsums⟩

/-- Before the sums of the period it does no harm. -/
theorem demo_snapshot : ∃ found s,
    Config.readings (handle demoSha256) environment demoStart (demoReads 4) = some found ∧
      demoDraw found = some s ∧
      s.totalCredits = s.listedSum .credit ∧ s.totalDebits = s.listedSum .debit ∧
      s.closingBalance = s.openingBalance + s.totalCredits - s.totalDebits ∧
      ∃ ms d, ms <+: demoSchedule ∧ Bank.run demoSha256 demoStart ms = some d ∧
        s.closingBalance = movement d.db (demoIds .destAccount) fun t =>
          t ≤ endOfDay (julianDay 2026 3 31 * dayLength) * 1000 := by
  have hdrawn : ((Config.readings (handle demoSha256) environment demoStart (demoReads 4)).bind
      demoDraw).isSome := by
    decide +kernel
  obtain ⟨s, hdrawn⟩ := Option.isSome_iff_exists.mp hdrawn
  obtain ⟨found, hfound, hs⟩ := Option.bind_eq_some_iff.mp hdrawn
  obtain ⟨b, _, hb, _, _, _, hnoon⟩ := demoRunAt_noon
  have hreads : found = [({}, demoStart), ({}, demoStart), ({}, demoStart), ({}, demoStart),
      ({}, b), ({}, b), ({}, b)] := by
    have hrun : Config.run (handle demoSha256) environment demoStart demoSchedule = some b := hb
    simpa [demoReads, List.range_succ, Config.readings, Config.run, hrun, eq_comm] using hfound
  obtain ⟨r, hr, htotals, hbalance, hcut⟩ := getStatement_snapshot
    (show Bank.run demoSha256 (Bank.start { demoWorld with now := demoNoon })
      [] = some demoStart from rfl) hfound
    (consult_of_demoDraw hs) (show (demoIds .destAccount).spelledBy (demoIds .destAccount).text =
      true by decide +kernel)
    (show isoDate "2026-03-01" = some (julianDay 2026 3 1 * dayLength) by decide +kernel)
    (show isoDate "2026-03-31" = some (julianDay 2026 3 31 * dayLength) by decide +kernel)
  subst hreads
  obtain rfl := Option.some.inj hr
  have hsees : ∀ e ∈ b.db.ledgerEntries.rows, e ∈ (LedgerReads.summing
      ⟨demoStart.db, demoStart.db, b.db, b.db, b.db⟩ (julianDay 2026 3 1 * dayLength)
        e).ledgerEntries.rows := by
    intro e he
    have hlate : earlier (julianDay 2026 3 1 * dayLength) e.createdAt = false := by
      rw [hnoon e he]
      decide +kernel
    unfold LedgerReads.summing
    rw [hlate]
    cases e.side with
    | credit => exact he
    | debit => exact he
  obtain ⟨hcredits, hdebits⟩ := htotals.mpr fun e he _ _ => hsees e he
  refine ⟨_, s, hfound, hs, hcredits, hdebits, hbalance, ?_⟩
  have hschedule : Config.schedule (demoReads 4) = demoSchedule := by
    simp [Config.schedule, demoReads, List.range_succ]
  rw [hschedule, List.nil_append] at hcut
  exact hcut (countedFirst_of_sees_all hb fun e he => ⟨he.1, hsees e he.2⟩)

end OnlineBanking
