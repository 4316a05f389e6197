import OnlineBanking.Bank

set_option autoImplicit false

/-! The database that prisma/seed.ts sets up, less its roles and cards. -/

namespace OnlineBanking

open Library

inductive SeedRow
  | user | profile | adminUser | adminProfile
  | systemAccount | extSystemAccount | settlementAccount (n : ℕ) | merchant (n : ℕ)
  | sourceAccount | destAccount
  deriving DecidableEq

section Upsert

variable {ρ κ ν : Type} [Record ρ κ ν] [DecidableEq κ] [DecidableEq ν]

def upsert (m : Model ρ) (unique : ν) (create : ρ) (update : Patch ρ) (db : Db) :
    Except PrismaError (ρ × Db) :=
  match (m.get db).findAlt unique with
  | some row => Db.update m (Record.key row) update db
  | none => Db.create m create db

end Upsert

def User.reseed : Patch User where
  apply u := u
  key_apply _ := rfl
  alt_apply _ := rfl

def Account.reseedSystem (accountType : Option String) : Patch Account where
  apply a := { a with isSystem := true, accountType := accountType.getD a.accountType }
  key_apply _ := rfl
  alt_apply _ := rfl

def Account.reseedCustomer : Patch Account where
  apply a := { a with status := .active }
  key_apply _ := rfl
  alt_apply _ := rfl

def Merchant.reseed (name category : String) (settlementAccountId : Uuid) : Patch Merchant where
  apply m := { m with name, category, settlementAccountId, status := .active }
  key_apply _ := rfl
  alt_apply _ := rfl

structure DemoMerchant where
  name : String
  merchantCode : String
  category : String
  iban : String

def demoMerchants : List DemoMerchant :=
  [⟨"Mega Market", "MEGA_MARKET", "GROCERY", "RO00MERCH000000000000001"⟩,
    ⟨"Uni Cafe", "UNI_CAFE", "FOOD_DRINK", "RO00MERCH000000000000002"⟩,
    ⟨"BookHub", "BOOKHUB", "BOOKS", "RO00MERCH000000000000003"⟩]

section Seed

variable (uuid : SeedRow → Uuid) (now : Instant)

/-- The turn of one merchant in the loop of the seed: its account comes first. -/
def seedMerchant (adminProfileId : Uuid) (db : Db) : DemoMerchant × ℕ → Except PrismaError Db
  | (m, n) => do
    let (settlementAccount, db) ← upsert Db.account m.iban
      { id := uuid (.settlementAccount n), customerId := adminProfileId, iban := m.iban,
        currency := "RON", accountType := "MERCHANT_SETTLEMENT", isSystem := true }
      (Account.reseedSystem (some "MERCHANT_SETTLEMENT")) db
    let (_, db) ← upsert Db.merchant m.merchantCode
      { id := uuid (.merchant n), name := m.name, merchantCode := m.merchantCode,
        category := m.category, settlementAccountId := settlementAccount.id }
      (Merchant.reseed m.name m.category settlementAccount.id) db
    return db

def seedMerchants (adminProfileId : Uuid) (db : Db) : Except PrismaError Db :=
  demoMerchants.zipIdx.foldlM (seedMerchant uuid adminProfileId) db

def seed (db : Db) : Except PrismaError Db := do
  let verified := CustomerProfile.setKyc .verified (some now)
  let (user, db) ← upsert Db.user "demo@bank.local" { id := uuid .user, email := "demo@bank.local" }
    User.reseed db
  let (profile, db) ← upsert Db.customerProfile user.id
    { id := uuid .profile, userId := user.id, fullLegalName := "Demo Customer", kycStatus :=
      .verified,
      verifiedAt := some now } verified db
  let (adminUser, db) ← upsert Db.user "admin@bank.local"
    { id := uuid .adminUser, email := "admin@bank.local" } User.reseed db
  let (adminProfile, db) ← upsert Db.customerProfile adminUser.id
    { id := uuid .adminProfile, userId := adminUser.id, fullLegalName := "Bank Admin",
      kycStatus := .verified, verifiedAt := some now } verified db
  let (_, db) ← upsert Db.account "RO00SYSBANK0000000000001"
    { id := uuid .systemAccount, customerId := adminProfile.id, iban := "RO00SYSBANK0000000000001",
      currency := "RON", accountType := "SETTLEMENT", availableBalance := 1000000000, isSystem :=
        true }
    (Account.reseedSystem none) db
  let (_, db) ← upsert Db.account "RO00EXTBANK0000000000001"
    { id := uuid .extSystemAccount, customerId := adminProfile.id, iban :=
      "RO00EXTBANK0000000000001",
      currency := "RON", accountType := "EXTERNAL_SETTLEMENT", isSystem := true }
    (Account.reseedSystem (some "EXTERNAL_SETTLEMENT")) db
  let db ← seedMerchants uuid adminProfile.id db
  let (_, db) ← upsert Db.account "RO49BKCH0000000011110001"
    { id := uuid .sourceAccount, customerId := profile.id, iban := "RO49BKCH0000000011110001",
      currency := "RON", accountType := "CHECKING", availableBalance := 50000 }
        Account.reseedCustomer db
  let (_, db) ← upsert Db.account "RO49BKCH0000000022220002"
    { id := uuid .destAccount, customerId := profile.id, iban := "RO49BKCH0000000022220002",
      currency := "RON", accountType := "SAVINGS" } Account.reseedCustomer db
  return db

def Seeded (db : Db) : Prop := seed uuid now {} = .ok db

end Seed

section Shape

variable {ρ κ ν : Type} [Record ρ κ ν] [DecidableEq κ] [DecidableEq ν]

lemma upsert_created {m : Model ρ} {unique : ν} {row : ρ} {f : Patch ρ} {db : Db} {p : ρ × Db}
    (hnew : ∀ r ∈ (m.get db).rows, Record.alt r ≠ some unique)
    (h : upsert m unique row f db = .ok p) :
    p.1 = row ∧ ∃ t, (m.get db).insert row = some t ∧ p.2 = m.set db t := by
  obtain ⟨r, db'⟩ := p
  simp only [upsert, Table.findAlt_eq_none.mpr hnew, Db.create] at h
  split at h
  · rename_i t ht
    cases h
    exact ⟨rfl, t, ht, rfl⟩
  · cases h

end Shape

lemma upsert_account {rows : List Account} {iban : String} {row : Account}
    {f : Patch Account} {db : Db} {p : Account × Db} (h : upsert Db.account iban row f db = .ok p)
    (hrows : db.accounts.rows = rows) (hnew : ∀ a ∈ rows, a.iban ≠ iban) :
    p.1 = row ∧ ∃ t, t.rows = rows ++ [row] ∧ p.2 = { db with accounts := t } := by
  obtain ⟨hrow, t, ht, hp⟩ := upsert_created (by simpa [Db.account, Record.alt, hrows] using hnew) h
  exact ⟨hrow, t, hrows ▸ (Table.insert_eq_some.mp ht).2.2, hp⟩

lemma upsert_merchant {rows : List Merchant} {code : String} {row : Merchant}
    {f : Patch Merchant} {db : Db} {p : Merchant × Db}
    (h : upsert Db.merchant code row f db = .ok p) (hrows : db.merchants.rows = rows)
    (hnew : ∀ m ∈ rows, m.merchantCode ≠ code) :
    ∃ t, t.rows = rows ++ [row] ∧ p.2 = { db with merchants := t } := by
  obtain ⟨_, t, ht, hp⟩ := upsert_created (by simpa [Db.merchant, Record.alt, hrows] using hnew) h
  exact ⟨t, hrows ▸ (Table.insert_eq_some.mp ht).2.2, hp⟩

section SeededRows

variable {uuid : SeedRow → Uuid} {now : Instant} {db : Db}

def seededMerchantAccount (uuid : SeedRow → Uuid) (n : ℕ) (iban : String) : Account where
  id := uuid (.settlementAccount n)
  customerId := uuid .adminProfile
  iban
  currency := "RON"
  accountType := "MERCHANT_SETTLEMENT"
  isSystem := true

def seededAccounts (uuid : SeedRow → Uuid) : List Account :=
  [{ id := uuid .systemAccount, customerId := uuid .adminProfile, iban := "RO00SYSBANK0000000000001",
      currency := "RON", accountType := "SETTLEMENT", availableBalance := 1000000000, isSystem :=
        true },
    { id := uuid .extSystemAccount, customerId := uuid .adminProfile, iban :=
      "RO00EXTBANK0000000000001",
      currency := "RON", accountType := "EXTERNAL_SETTLEMENT", isSystem := true },
    seededMerchantAccount uuid 0 "RO00MERCH000000000000001",
    seededMerchantAccount uuid 1 "RO00MERCH000000000000002",
    seededMerchantAccount uuid 2 "RO00MERCH000000000000003",
    { id := uuid .sourceAccount, customerId := uuid .profile, iban := "RO49BKCH0000000011110001",
      currency := "RON", accountType := "CHECKING", availableBalance := 50000 },
    { id := uuid .destAccount, customerId := uuid .profile, iban := "RO49BKCH0000000022220002",
      currency := "RON", accountType := "SAVINGS" }]

structure SeedShape (uuid : SeedRow → Uuid) (db : Db) : Prop where
  accounts : db.accounts.rows = seededAccounts uuid
  merchants : db.merchants.rows.map Merchant.settlementAccountId =
    [uuid (.settlementAccount 0), uuid (.settlementAccount 1), uuid (.settlementAccount 2)]
  transactions : db.transactions.rows = []
  ledgerEntries : db.ledgerEntries.rows = []
  adminProfile : ∃ p ∈ db.customerProfiles.rows, p.userId = uuid .adminUser ∧
    p.id = uuid .adminProfile

theorem Seeded.shape (h : Seeded uuid now db) : SeedShape uuid db := by
  unfold Seeded seed at h
  obtain ⟨⟨user, db₁⟩, hu, h⟩ := bind_eq_ok h
  obtain ⟨rfl, users, hus, rfl⟩ := upsert_created (by simp [Db.user]) hu
  dsimp only at h
  obtain ⟨⟨profile, db₂⟩, hp, h⟩ := bind_eq_ok h
  obtain ⟨rfl, profiles, hps, rfl⟩ := upsert_created (by simp [Db.customerProfile, Db.user]) hp
  dsimp only at h
  obtain ⟨⟨adminUser, db₃⟩, hau, h⟩ := bind_eq_ok h
  have husers : users.rows = [⟨uuid .user, "demo@bank.local"⟩] := (Table.insert_eq_some.mp hus).2.2
  have hprofiles := (Table.insert_eq_some.mp hps).2.2
  obtain ⟨rfl, users', haus, rfl⟩ :=
    upsert_created (by simp [Db.user, Db.customerProfile, husers, Record.alt]) hau
  dsimp only at h
  have hne : uuid .user ≠ uuid .adminUser := by
    simpa [Db.user, Db.customerProfile, husers, Record.key] using (Table.insert_eq_some.mp haus).1
  obtain ⟨⟨adminProfile, db₄⟩, hap, h⟩ := bind_eq_ok h
  obtain ⟨rfl, profiles', haps, rfl⟩ := upsert_created (by
    simpa [Db.user, Db.customerProfile, hprofiles, Record.alt] using hne) hap
  dsimp only at h
  obtain ⟨⟨_, db₅⟩, hs, h⟩ := bind_eq_ok h
  obtain ⟨_, t₁, h₁, rfl⟩ := upsert_account hs (show _ = [] from rfl) (by simp)
  dsimp only at h
  obtain ⟨⟨_, db₆⟩, hs, h⟩ := bind_eq_ok h
  obtain ⟨_, t₂, h₂, rfl⟩ := upsert_account hs h₁ (by simp)
  dsimp only at h
  obtain ⟨db₇, hm, h⟩ := bind_eq_ok h
  simp only [seedMerchants, seedMerchant, demoMerchants, List.zipIdx_cons, List.zipIdx_nil,
    List.foldlM_cons,
    List.foldlM_nil, zero_add, bind_assoc, pure_bind] at hm
  obtain ⟨⟨_, _⟩, hs, hm⟩ := bind_eq_ok hm
  obtain ⟨rfl, t₃, h₃, rfl⟩ := upsert_account hs h₂ (by simp)
  dsimp only at hm
  obtain ⟨⟨_, _⟩, hs, hm⟩ := bind_eq_ok hm
  obtain ⟨m₁, hm₁, rfl⟩ := upsert_merchant hs (show _ = [] from rfl) (by simp)
  dsimp only at hm
  obtain ⟨⟨_, _⟩, hs, hm⟩ := bind_eq_ok hm
  obtain ⟨rfl, t₄, h₄, rfl⟩ := upsert_account hs h₃ (by simp)
  dsimp only at hm
  obtain ⟨⟨_, _⟩, hs, hm⟩ := bind_eq_ok hm
  obtain ⟨m₂, hm₂, rfl⟩ := upsert_merchant hs hm₁ (by simp)
  dsimp only at hm
  obtain ⟨⟨_, _⟩, hs, hm⟩ := bind_eq_ok hm
  obtain ⟨rfl, t₅, h₅, rfl⟩ := upsert_account hs h₄ (by simp)
  dsimp only at hm
  obtain ⟨⟨_, _⟩, hs, hm⟩ := bind_eq_ok hm
  obtain ⟨m₃, hm₃, rfl⟩ := upsert_merchant hs hm₂ (by simp)
  dsimp only at hm
  obtain rfl := Except.ok.inj hm
  obtain ⟨⟨_, db₈⟩, hs, h⟩ := bind_eq_ok h
  obtain ⟨_, t₆, h₆, rfl⟩ := upsert_account hs h₅ (by simp)
  dsimp only at h
  obtain ⟨⟨_, db₉⟩, hs, h⟩ := bind_eq_ok h
  obtain ⟨_, t₇, h₇, rfl⟩ := upsert_account hs h₆ (by simp)
  obtain rfl := Except.ok.inj h
  have hadmin := (Table.insert_eq_some.mp haps).2.2
  exact ⟨h₇, by simp [hm₃], rfl, rfl, _,
    hadmin ▸ List.mem_append_right _ (List.mem_singleton_self _), rfl, rfl⟩

end SeededRows

def Uuid.numbered (n : ℕ) : Uuid := ⟨Fin.ofNat _ (0x00000000000040008000000000000000 + n)⟩

def demoIds : SeedRow → Uuid
  | .user => .numbered 1
  | .profile => .numbered 2
  | .adminUser => .numbered 3
  | .adminProfile => .numbered 4
  | .systemAccount => .numbered 10
  | .extSystemAccount => .numbered 11
  | .settlementAccount n => .numbered (12 + n)
  | .merchant n => .numbered (20 + n)
  | .sourceAccount => .numbered 30
  | .destAccount => .numbered 31

def demoDb : Db :=
  match seed demoIds 0 {} with
  | .ok db => db
  | .error _ => {}

lemma demoDb_seeded : Seeded demoIds 0 demoDb := by
  have hok : (seed demoIds 0 {}).isOk = true := by decide +kernel
  unfold Seeded demoDb
  cases h : seed demoIds 0 {} with
  | ok db => rfl
  | error e =>
    rw [h] at hok
    cases hok

def demoWorld : World := { db := demoDb }

def demoInputs (n : ℕ) : Inputs where
  uuid l := .numbered (1000 * (n + 1) + l.ctorIdx)
  challengeId := "k3x9"
  otp := "123456"

inductive DemoAmount
  | small | large

def DemoAmount.decimal : DemoAmount → Decimal
  | small => ⟨false, 25, 1, .inl (by decide)⟩
  | large => ⟨false, 25, 2, .inl (by decide)⟩

def demoTransfer (amount : DemoAmount) : CreateTransferDto where
  sourceAccountId := (demoIds .sourceAccount).text
  destinationAccountId := (demoIds .destAccount).text
  amount := amount.decimal
  accepted := by cases amount <;> decide +kernel

def demoCreditDto : AdminCreditDto where
  amount := DemoAmount.small.decimal
  currency := "RON"
  accepted := by decide +kernel

def demoText (amount source destination : String) : String :=
  "\x7b\"amount\":" ++ amount ++
    ",\"currency\":\"RON\",\"description\":null,\"destinationAccountId\":\"" ++
    destination ++ "\",\"sourceAccountId\":\"" ++ source ++ "\"\x7d"

def demoDigests : List (String × String) :=
  [(demoText "250" "00000000-0000-4000-8000-00000000001e" "00000000-0000-4000-8000-00000000001f",
      "23e37028302c49c6c0abf20b2f276814cb015a5c200d9a4b0f0be665ae6ef088"),
    (demoText "2500" "00000000-0000-4000-8000-00000000001e" "00000000-0000-4000-8000-00000000001f",
      "d6d3f5123efb17ee0149284c4a40d5ad92bf87c4be5b76fcf217b855a011119c"),
    (demoText "250" "00000000-0000-4000-8000-00000000001e" "00000000-0000-4000-8000-00000000001E",
      "b28466e31f60bd0ea95adcf704d407adbec87690ece2bf31a24479a86b865876"),
    (demoText "250" "00000000-0000-4000-8000-00000000000a" "00000000-0000-4000-8000-00000000000b",
      "87472bcb8986ba265a0951d2c38f4142b702e6d30323f45b46f48c586997f0a7")]

def demoSha256 (s : String) : String := (demoDigests.lookup s).getD ("x" ++ s)

def demoPayment (amount : DemoAmount) (idempotencyKey : String) : Call :=
  .payment (demoIds .user) (.internalTransfer (demoTransfer amount)) idempotencyKey

def demoSchedule : List Action :=
  [.spawn 0 (demoPayment .small " k1 "), .act 0 (demoInputs 0), .act 0 (demoInputs 1)]

def demoRun : Option Bank := Bank.run demoSha256 (Bank.start demoWorld) demoSchedule

lemma demoRun_isSome : ∃ b, demoRun = some b := Option.isSome_iff_exists.mp (by decide +kernel)

example : demoRun.map (fun b => b.db.balance (demoIds .destAccount)) = some 250 := by decide +kernel

def demoRepetition : List Action :=
  [.spawn 1 (demoPayment .small "k1"), .act 1 (demoInputs 2), .act 1 (demoInputs 3)]

def demoReplayRun : Option Bank :=
  Bank.run demoSha256 (Bank.start demoWorld) (demoSchedule ++ demoRepetition)

end OnlineBanking
