import Mathlib.Data.List.Sort
import OnlineBanking.Database

set_option autoImplicit false

/-! statements.service.ts. Date values are whole milliseconds; they are counted, like the instants
of the database, from the least value of a timestamp column on, which is a midnight. -/

namespace OnlineBanking

open Library

def dayLength : ℤ := 24 * 60 * 60 * 1000

/-- `setUTCHours(23, 59, 59, 999)` -/
def endOfDay (date : ℤ) : ℤ := date / dayLength * dayLength + (dayLength - 1)

structure StatementEntry where
  ledgerEntryId : Uuid
  transactionId : Uuid
  transactionType : TransactionType
  transactionStatus : TransactionStatus
  side : LedgerSide
  amount : ℚ
  currency : String
  description : Option String
  createdAt : Instant

structure AccountStatement where
  id : Uuid
  iban : String
  accountType : String
  currency : String
  «from» : String
  «to» : String
  openingBalance : ℚ
  closingBalance : ℚ
  totalDebits : ℚ
  totalCredits : ℚ
  entries : List StatementEntry

/-- `ledgerEntry.aggregate` with `_sum: { amount: true }`, and 0 for no entry -/
def aggregate (db : Db) (accountId : String) (side : LedgerSide) (createdAt : Instant → Bool) : ℚ :=
  ((db.ledgerEntries.rows.filter fun e => e.accountId.spelledBy accountId ∧ e.side = side ∧
    createdAt e.createdAt).map LedgerEntry.amount).sum

def statementEntry (db : Db) (e : LedgerEntry) : Except Failure StatementEntry :=
  match db.transactions.find e.transactionId with
  | some transaction => .ok {
      ledgerEntryId := e.id
      transactionId := transaction.id
      transactionType := transaction.type
      transactionStatus := transaction.status
      side := e.side
      amount := e.amount
      currency := e.currency
      description := transaction.description
      createdAt := e.createdAt / 1000 * 1000 }
  | none => .error (.prisma (.other "inconsistent result"))

/-- `newDate` is the Date constructor on a text, `none` an invalid date. -/
def getStatement (newDate : String → Option ℤ) (choice : ℕ) (db : Db) (userId : Uuid)
    (accountId «from» «to» : String) : Except Failure AccountStatement :=
  match db.customerProfiles.findAlt userId with
  | none => .error (.notFound "Customer profile not found")
  | some profile =>
    match db.accounts.findFirst
      (fun a => a.id.spelledBy accountId ∧ a.customerId = profile.id ∧ a.isSystem = false)
        choice with
    | none => .error (.notFound "Account not found or access denied")
    | some account =>
      match newDate «from», newDate «to» with
      | some fromDate, some toDate =>
        if toDate < fromDate then
          .error (.badRequest "from date must be before or equal to to date")
        else do
          let toDate := endOfDay toDate
          let earlier : Instant → Bool := fun t => t < fromDate * 1000
          let inPeriod : Instant → Bool := fun t => fromDate * 1000 ≤ t ∧ t ≤ toDate * 1000
          let openingBalance := aggregate db accountId .credit earlier -
            aggregate db accountId .debit earlier
          let totCredit := aggregate db accountId .credit inPeriod
          let totDebit := aggregate db accountId .debit inPeriod
          let rawEntries := (db.ledgerEntries.rows.filter fun e =>
            e.accountId.spelledBy accountId ∧ inPeriod e.createdAt).insertionSort
              fun e e' => e'.createdAt ≤ e.createdAt
          let entries ← rawEntries.mapM (statementEntry db)
          return {
            id := account.id
            iban := account.iban
            accountType := account.accountType
            currency := account.currency
            «from»
            «to»
            openingBalance
            closingBalance := openingBalance + totCredit - totDebit
            totalDebits := totDebit
            totalCredits := totCredit
            entries }
      | _, _ => .error (.badRequest "Invalid date format")

def movement (db : Db) (accountId : Uuid) (p : Instant → Bool) : ℚ :=
  ((db.ledgerEntries.rows.filter fun e => e.accountId = accountId ∧ p e.createdAt).map
    LedgerEntry.signed).sum

section Movements

variable {db : Db} {account : Uuid} {accountId : String}

lemma aggregate_sub (hid : account.spelledBy accountId = true) (p : Instant → Bool) :
    aggregate db accountId .credit p - aggregate db accountId .debit p = movement db account p := by
  have hspelled : ∀ e : LedgerEntry, e.accountId.spelledBy accountId = true ↔
      e.accountId = account :=
    fun e => ⟨fun h => Uuid.eq_of_spelledBy h hid rfl, fun h => h ▸ hid⟩
  unfold aggregate movement
  induction db.ledgerEntries.rows with
  | nil => simp
  | cons e es ih =>
    by_cases ha : e.accountId = account
    · by_cases hp : p e.createdAt = true
      · cases hs : e.side <;>
          simp only [List.filter_cons, hspelled, ha, hs, hp, and_self, decide_true, ↓reduceIte,
            List.map_cons, List.sum_cons, ← ih, LedgerEntry.signed, reduceCtorEq,
            false_and, and_false,
            decide_false, Bool.false_eq_true] <;> ring
      · simpa [List.filter_cons, hp] using ih
    · simpa [List.filter_cons, hspelled, ha] using ih

lemma movement_add {p q r : Instant → Bool} (hsplit : ∀ t, r t = (p t || q t))
    (hapart : ∀ t, ¬ (p t = true ∧ q t = true)) :
    movement db account r = movement db account p + movement db account q := by
  unfold movement
  induction db.ledgerEntries.rows with
  | nil => simp
  | cons e es ih =>
    have hr := hsplit e.createdAt
    have hne := hapart e.createdAt
    by_cases ha : e.accountId = account
    · cases hp : p e.createdAt <;> cases hq : q e.createdAt <;> simp_all
      · ring
      · ring
    · simpa [List.filter_cons, ha] using ih

lemma movement_congr {p q : Instant → Bool}
    (h : ∀ e ∈ db.ledgerEntries.rows, e.accountId = account → p e.createdAt = q e.createdAt) :
    movement db account p = movement db account q := by
  unfold movement
  refine congrArg (fun es => (es.map LedgerEntry.signed).sum) (List.filter_congr fun e he => ?_)
  by_cases ha : e.accountId = account
  · simp [ha, h e he ha]
  · simp [ha]

end Movements

lemma mapM_ok {ε α β γ : Type} {f : α → Except ε β} {g : β → γ} {h : α → γ} {xs : List α}
    (hf : ∀ x ∈ xs, ∃ y, f x = .ok y ∧ g y = h x) :
    ∃ ys, xs.mapM f = .ok ys ∧ ys.map g = xs.map h := by
  induction xs with
  | nil => exact ⟨[], rfl, rfl⟩
  | cons x xs ih =>
    obtain ⟨y, hy, hgy⟩ := hf x List.mem_cons_self
    obtain ⟨ys, hys, hgys⟩ := ih fun z hz => hf z (List.mem_cons_of_mem x hz)
    refine ⟨y :: ys, ?_, by simp [hgy, hgys]⟩
    rw [List.mapM_cons, hy, hys]
    rfl

lemma forall₂_of_mapM {ε α β : Type} {f : α → Except ε β} {xs : List α} {ys : List β}
    (h : xs.mapM f = .ok ys) :
    List.Forall₂ (fun x y => f x = .ok y) xs ys := by
  induction xs generalizing ys with
  | nil =>
    obtain rfl := Except.ok.inj h
    exact .nil
  | cons x xs ih =>
    rw [List.mapM_cons] at h
    obtain ⟨y, hy, h⟩ := bind_eq_ok h
    obtain ⟨ys, hys, h⟩ := bind_eq_ok h
    obtain rfl := Except.ok.inj h
    exact .cons hy (ih hys)

lemma le_endOfDay (date : ℤ) : date ≤ endOfDay date := by
  unfold endOfDay dayLength
  omega

/-- The statement of an account can be drawn for the period: the caller owns it, no row lacks its
transaction, and the dates are dates in their order. -/
structure Drawable (newDate : String → Option ℤ) (db : Db) (userId : Uuid) (account : Account)
    (accountId «from» «to» : String) (fromDate toDate : ℤ) : Prop where
  mem : account ∈ db.accounts.rows
  customer : account.isSystem = false
  owner : ∃ p ∈ db.customerProfiles.rows, p.userId = userId ∧ p.id = account.customerId
  named : account.id.spelledBy accountId = true
  entries : ∀ e ∈ db.ledgerEntries.rows, ∃ t ∈ db.transactions.rows, e.transactionId = t.id
  «from» : newDate «from» = some fromDate
  «to» : newDate «to» = some toDate
  ordered : fromDate ≤ toDate

structure Draws (db : Db) (account : Uuid) (fromDate toDate : ℤ) (s : AccountStatement) : Prop where
  openingBalance : s.openingBalance = movement db account fun t => t < fromDate * 1000
  closingBalance : s.closingBalance = movement db account fun t => t ≤ endOfDay toDate * 1000
  entries : (s.entries.map StatementEntry.ledgerEntryId).Perm
    ((db.ledgerEntries.rows.filter fun e => e.accountId = account ∧ fromDate * 1000 ≤ e.createdAt ∧
      e.createdAt ≤ endOfDay toDate * 1000).map LedgerEntry.id)

theorem getStatement_draws {newDate : String → Option ℤ} {db : Db} {userId : Uuid}
    {account : Account} {accountId «from» «to» : String} {fromDate toDate : ℤ}
    (h : Drawable newDate db userId account accountId «from» «to» fromDate toDate) (choice : ℕ) :
    ∃ s, getStatement newDate choice db userId accountId «from» «to» = .ok s ∧
      Draws db account.id fromDate toDate s := by
  obtain ⟨p, hp, huser, hpid⟩ := h.owner
  have hprofile : db.customerProfiles.findAlt userId = some p :=
    Table.findAlt_eq_some.mpr ⟨hp, congrArg some huser⟩
  have hspelled : ∀ id : Uuid, id.spelledBy accountId = true ↔ id = account.id :=
    fun _ => Uuid.spelledBy_iff h.named
  have haccount : db.accounts.findFirst
      (fun a => a.id.spelledBy accountId ∧ a.customerId = p.id ∧ a.isSystem = false) choice =
        some account := by
    apply findFirst_spelled h.mem h.named
    · simp [h.named, hpid, h.customer]
    · exact fun a ha => (of_decide_eq_true ha).1
  have hle := h.ordered
  have hend := le_endOfDay toDate
  let raw := (db.ledgerEntries.rows.filter fun e => e.accountId.spelledBy accountId ∧
    (decide (fromDate * 1000 ≤ (e.createdAt : ℤ) ∧ (e.createdAt : ℤ) ≤ endOfDay toDate * 1000)) =
      true)
      |>.insertionSort fun e e' => e'.createdAt ≤ e.createdAt
  obtain ⟨entries, hentries, hids⟩ : ∃ entries, raw.mapM (statementEntry db) = .ok entries ∧
      entries.map StatementEntry.ledgerEntryId = raw.map LedgerEntry.id := by
    refine mapM_ok fun e he => ?_
    have hmem := (List.perm_insertionSort _ _).mem_iff.mp he
    obtain ⟨t, ht, hid⟩ := h.entries e (List.mem_filter.mp hmem).1
    have hfound : db.transactions.find e.transactionId = some t :=
      Table.find_eq_some.mpr ⟨ht, hid.symm⟩
    exact ⟨_, by simp only [statementEntry, hfound]; rfl, rfl⟩
  refine ⟨?statement, ?drawn, ?opening, ?closing, ?listed⟩
  case drawn =>
    simp only [getStatement, hprofile, haccount, h.from, h.to, if_neg (not_lt.mpr hle)]
    rw [hentries]
    rfl
  case opening => exact aggregate_sub h.named _
  case closing =>
    dsimp only
    rw [aggregate_sub h.named, add_sub_assoc, aggregate_sub h.named, ← movement_add]
    · intro t
      rw [Bool.eq_iff_iff]
      simp only [decide_eq_true_eq, Bool.or_eq_true]
      omega
    · intro t
      simp only [decide_eq_true_eq]
      omega
  case listed =>
    dsimp only
    rw [hids]
    refine ((List.perm_insertionSort _ _).map _).trans ?_
    simp only [hspelled, decide_eq_true_eq]
    exact List.Perm.refl _

end OnlineBanking
