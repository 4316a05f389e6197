import OnlineBanking.ReadIsolation
import OnlineBanking.Registration

set_option autoImplicit false

/-! prisma/seed.ts with its roles, passwords and cards, run again on a database in use. -/

namespace OnlineBanking

open Library

def card1Id : Uuid := ⟨⟨0x11111111111141111111111111111111, by decide⟩⟩

def card2Id : Uuid := ⟨⟨0x22222222222242222222222222222222, by decide⟩⟩

def Card.reseed : Patch Card where
  apply c := { c with status := .active, blockedAt := none, closedAt := none }
  key_apply _ := rfl
  alt_apply _ := rfl

def upsertCard (create : Card) (cards : Table Card) : Except PrismaError (Table Card) :=
  match cards.find create.id with
  | some _ => .ok (cards.modify create.id Card.reseed)
  | none =>
    match cards.insert create with
    | some t => .ok t
    | none => .error .uniqueViolation

def connect (role : String) (roles : List String) : List String :=
  if role ∈ roles then roles else roles ++ [role]

/-- Of the rows that the seed has just upserted only the ids are used, and they are looked up here
by the keys of their upserts. -/
def seedAll (uuid : SeedRow → Uuid) (now : Instant) (passwordHash : String) (w : ApiWorld) :
    Except PrismaError ApiWorld := do
  let db ← seed uuid now w.db
  let some user := db.users.findAlt "demo@bank.local" | .error .recordNotFound
  let some profile := db.customerProfiles.findAlt user.id | .error .recordNotFound
  let some adminUser := db.users.findAlt "admin@bank.local" | .error .recordNotFound
  let some sourceAccount := db.accounts.findAlt "RO49BKCH0000000011110001" | .error .recordNotFound
  let some destAccount := db.accounts.findAlt "RO49BKCH0000000022220002" | .error .recordNotFound
  let cards ← upsertCard
    { id := card1Id, customerId := profile.id, accountId := sourceAccount.id, maskedPan :=
      "**** **** **** 4242",
      demoPan := some "4242 4242 4242 4242", expiryMonth := some 12, expiryYear :=
        some 28, demoCvv := some "123",
      cardType := .debit, createdAt := now } w.cards
  let cards ← upsertCard
    { id := card2Id, customerId := profile.id, accountId := destAccount.id, maskedPan :=
      "**** **** **** 1234",
      demoPan := some "1234 5678 1234 1234", expiryMonth := some 10, expiryYear :=
        some 27, demoCvv := some "456",
      cardType := .virtual, createdAt := now } cards
  return { w with
    db, cards
    credentials := Function.update (Function.update w.credentials user.id ⟨passwordHash, true⟩)
      adminUser.id ⟨passwordHash, true⟩
    roles := fun id =>
      if id = adminUser.id then connect "ADMIN" (w.roles id)
      else if id = user.id then connect "CLIENT" (w.roles id) else w.roles id }

def seedIbans : List (SeedRow × String) :=
  [(.systemAccount, "RO00SYSBANK0000000000001"), (.extSystemAccount, "RO00EXTBANK0000000000001"),
    (.settlementAccount 0, "RO00MERCH000000000000001"),
    (.settlementAccount 1, "RO00MERCH000000000000002"),
    (.settlementAccount 2, "RO00MERCH000000000000003"),
    (.sourceAccount, "RO49BKCH0000000011110001"),
    (.destAccount, "RO49BKCH0000000022220002")]

def SeedRow.Sets : SeedRow → Account → Prop
  | .systemAccount, a => a.isSystem = true
  | .extSystemAccount, a => a.isSystem = true ∧ a.accountType = "EXTERNAL_SETTLEMENT"
  | .settlementAccount _, a => a.isSystem = true ∧ a.accountType = "MERCHANT_SETTLEMENT"
  | _, a => a.status = .active

def HasAccount (T : Table Account) (id : Uuid) (iban : String) (r : SeedRow) : Prop :=
  ∃ a ∈ T.rows, a.id = id ∧ a.iban = iban ∧ r.Sets a

def HasProfile (T : Table CustomerProfile) (id userId : Uuid) : Prop :=
  ∃ p ∈ T.rows, p.id = id ∧ p.userId = userId

structure DemoMerchant.Is (m : DemoMerchant) (settlementAccountId : Uuid)
    (x : Merchant) : Prop where
  merchantCode : x.merchantCode = m.merchantCode
  name : x.name = m.name
  category : x.category = m.category
  settlementAccountId : x.settlementAccountId = settlementAccountId
  status : x.status = .active

structure Seeds (id : SeedRow → Uuid) (db : Db) : Prop where
  user : (⟨id .user, "demo@bank.local"⟩ : User) ∈ db.users.rows
  profile : HasProfile db.customerProfiles (id .profile) (id .user)
  adminUser : (⟨id .adminUser, "admin@bank.local"⟩ : User) ∈ db.users.rows
  adminProfile : HasProfile db.customerProfiles (id .adminProfile) (id .adminUser)
  accounts : ∀ x ∈ seedIbans, HasAccount db.accounts (id x.1) x.2 x.1
  merchants : ∀ x ∈ demoMerchants.zipIdx, ∃ m ∈ db.merchants.rows,
    x.1.Is (id (.settlementAccount x.2)) m

section Upserts

variable {ρ κ ν : Type} [Record ρ κ ν] [DecidableEq κ] [DecidableEq ν]

/-- After an upsert the row stands under its key, and the rows under other keys as they were. -/
structure Upserted (T T' : Table ρ) (unique : ν) (row : ρ) (f : Patch ρ) (r : ρ) : Prop where
  mem : r ∈ T'.rows
  alt : Record.alt r = some unique
  made : r = row ∨ ∃ old, r = f.apply old
  others : ∀ x ∈ T.rows, Record.alt x ≠ some unique → x ∈ T'.rows

lemma upsert_upserted {m : Model ρ} {unique : ν} {row r : ρ} {f : Patch ρ} {db db' : Db}
    (hrow : Record.alt row = some unique) (h : upsert m unique row f db = .ok (r, db')) :
    ∃ T, db' = m.set db T ∧ Upserted (m.get db) T unique row f r := by
  unfold upsert at h
  split at h
  · rename_i old hold
    obtain ⟨hmem, halt⟩ := Table.findAlt_eq_some.mp hold
    obtain ⟨old', hold', rfl, rfl⟩ := Db.update_eq_ok h
    obtain rfl : old = old' := Option.some.inj
      ((Table.find_eq_some.mpr ⟨hmem, rfl⟩).symm.trans hold')
    refine ⟨_, rfl, ?_, (f.alt_apply old).trans halt, .inr ⟨old, rfl⟩, ?_⟩
    · rw [Table.modify_rows]
      exact List.mem_map.mpr ⟨old, hmem, if_pos rfl⟩
    · intro x hx hne
      rw [Table.modify_rows]
      refine List.mem_map.mpr ⟨x, hx, if_neg fun hkey => ?_⟩
      rw [(m.get db).eq_of_key_eq hx hmem hkey] at hne
      exact hne halt
  · obtain ⟨rfl, T, hT, rfl⟩ := Db.create_eq_ok h
    have hrows := (Table.insert_eq_some.mp hT).2.2
    refine ⟨T, rfl, ?_, hrow, .inl rfl, ?_⟩
    · rw [hrows]
      exact List.mem_append_right _ (List.mem_singleton_self _)
    · intro x hx _
      rw [hrows]
      exact List.mem_append_left _ hx

lemma upsert_found {m : Model ρ} {unique : ν} {row r : ρ} {f : Patch ρ} {db : Db}
    (hm : m.set db (m.get db) = db) (hr : r ∈ (m.get db).rows) (halt : Record.alt r = some unique)
    (hf : f.apply r = r) :
    upsert m unique row f db = .ok (r, db) := by
  have hsame : (m.get db).modify (Record.key r) f = m.get db := by
    apply Table.ext
    rw [Table.modify_rows]
    refine (List.map_congr_left fun x hx => ?_).trans (List.map_id _)
    split
    · rename_i hkey
      rw [(m.get db).eq_of_key_eq hx hr hkey, hf]
      rfl
    · rfl
  rw [upsert, Table.findAlt_eq_some.mpr ⟨hr, halt⟩]
  simp only [Db.update, Table.find_eq_some.mpr ⟨hr, rfl⟩, hf, hsame, hm]

end Upserts

section Rows

variable {T T' : Table Account} {M M' : Table Merchant} {iban unique : String} {row a : Account}
    {f : Patch Account}
variable {id : Uuid} {r : SeedRow} {db db' : Db}

lemma Upserted.hasAccount (h : Upserted T T' iban row f a) (hrow : r.Sets row)
    (hf : ∀ old, r.Sets (f.apply old)) :
    HasAccount T' a.id iban r := by
  refine ⟨a, h.mem, rfl, Option.some.inj h.alt, ?_⟩
  rcases h.made with hmade | ⟨old, hmade⟩
  · exact hmade ▸ hrow
  · exact hmade ▸ hf old

lemma HasAccount.upserted (ha : HasAccount T id iban r) (h : Upserted T T' unique row f a)
    (hne : iban ≠ unique) :
    HasAccount T' id iban r := by
  obtain ⟨x, hx, hid, hiban, hsets⟩ := ha
  exact ⟨x, h.others x hx fun halt => hne (hiban ▸ Option.some.inj halt), hid, hiban, hsets⟩

def HasMerchant (M : Table Merchant) (m : DemoMerchant) (settlementAccountId : Uuid) : Prop :=
  ∃ x ∈ M.rows, m.Is settlementAccountId x

lemma merchant_seeded {m : DemoMerchant} {uuid : SeedRow → Uuid} {n : ℕ} {adminProfileId : Uuid}
    (h : seedMerchant uuid adminProfileId db (m, n) = .ok db') :
    ∃ T M sid, db' = { db with accounts := T, merchants := M } ∧
      HasAccount T sid m.iban (.settlementAccount n) ∧
      (∀ id iban r, HasAccount db.accounts id iban r → iban ≠ m.iban → HasAccount T id iban r) ∧
        HasMerchant M m sid ∧
      ∀ m' sid', HasMerchant db.merchants m' sid' → m'.merchantCode ≠ m.merchantCode →
        HasMerchant M m' sid' := by
  obtain ⟨⟨a, _⟩, ha, h⟩ := bind_eq_ok h
  obtain ⟨T, rfl, hT⟩ := upsert_upserted rfl ha
  obtain ⟨⟨x, _⟩, hx, h⟩ := bind_eq_ok h
  obtain ⟨M, rfl, hM⟩ := upsert_upserted rfl hx
  obtain rfl := Except.ok.inj h
  refine ⟨T, M, a.id, rfl, hT.hasAccount ⟨rfl, rfl⟩ fun _ => ⟨rfl, rfl⟩, fun _ _ _ hold =>
    hold.upserted hT, ?_, ?_⟩
  · refine ⟨x, hM.mem, ?_⟩
    have hcode : x.merchantCode = m.merchantCode := Option.some.inj hM.alt
    rcases hM.made with rfl | ⟨old, rfl⟩
    · exact ⟨hcode, rfl, rfl, rfl, rfl⟩
    · exact ⟨hcode, rfl, rfl, rfl, rfl⟩
  · rintro m' sid' ⟨y, hy, his⟩ hne
    exact ⟨y, hM.others y hy fun halt => hne (his.merchantCode ▸ Option.some.inj halt), his⟩

end Rows

def SeedRow.among (user profile adminUser adminProfile system extSystem source dest : Uuid)
    (settlement merchant : ℕ → Uuid) : SeedRow → Uuid
  | .user => user
  | .profile => profile
  | .adminUser => adminUser
  | .adminProfile => adminProfile
  | .systemAccount => system
  | .extSystemAccount => extSystem
  | .settlementAccount n => settlement n
  | .merchant n => merchant n
  | .sourceAccount => source
  | .destAccount => dest

theorem seed_seeds {uuid : SeedRow → Uuid} {now : Instant} {db db' : Db}
    (h : seed uuid now db = .ok db') :
    ∃ id, Seeds id db' := by
  unfold seed at h
  obtain ⟨⟨user, _⟩, hs, h⟩ := bind_eq_ok h
  obtain ⟨U₁, rfl, hU₁⟩ := upsert_upserted rfl hs
  obtain ⟨⟨profile, _⟩, hs, h⟩ := bind_eq_ok h
  obtain ⟨P₁, rfl, hP₁⟩ := upsert_upserted rfl hs
  obtain ⟨⟨adminUser, _⟩, hs, h⟩ := bind_eq_ok h
  obtain ⟨U₂, rfl, hU₂⟩ := upsert_upserted rfl hs
  obtain ⟨⟨adminProfile, _⟩, hs, h⟩ := bind_eq_ok h
  obtain ⟨P₂, rfl, hP₂⟩ := upsert_upserted rfl hs
  have huser : user.email = "demo@bank.local" := Option.some.inj hU₁.alt
  have hadmin : adminUser.email = "admin@bank.local" := Option.some.inj hU₂.alt
  have hprofile : profile.userId = user.id := Option.some.inj hP₁.alt
  have hadminProfile : adminProfile.userId = adminUser.id := Option.some.inj hP₂.alt
  have huser' : user ∈ U₂.rows := hU₂.others user hU₁.mem (by simp [Record.alt, huser])
  have hids : user.id ≠ adminUser.id := fun hid => by
    have hsame := U₂.eq_of_key_eq huser' hU₂.mem hid
    rw [hsame, hadmin] at huser
    exact absurd huser (by decide)
  have hprofile' : profile ∈ P₂.rows :=
    hP₂.others profile hP₁.mem (by simp [Record.alt, hprofile, hids])
  obtain ⟨⟨a₁, _⟩, hs, h⟩ := bind_eq_ok h
  obtain ⟨T₁, rfl, hT₁⟩ := upsert_upserted rfl hs
  have hsystem := hT₁.hasAccount (r := .systemAccount) rfl fun _ => rfl
  obtain ⟨⟨a₂, _⟩, hs, h⟩ := bind_eq_ok h
  obtain ⟨T₂, rfl, hT₂⟩ := upsert_upserted rfl hs
  have hsystem := hsystem.upserted hT₂ (by decide)
  have hext := hT₂.hasAccount (r := .extSystemAccount) ⟨rfl, rfl⟩ fun _ => ⟨rfl, rfl⟩
  obtain ⟨_, hm, h⟩ := bind_eq_ok h
  simp only [seedMerchants, demoMerchants, List.zipIdx_cons, List.zipIdx_nil, List.foldlM_cons,
    List.foldlM_nil,
    zero_add] at hm
  obtain ⟨_, hs, hm⟩ := bind_eq_ok hm
  obtain ⟨T₃, M₃, sid₀, rfl, haccount₀, hold, hmerchant₀, -⟩ := merchant_seeded hs
  have hsystem := hold _ _ _ hsystem (by decide)
  have hext := hold _ _ _ hext (by decide)
  obtain ⟨_, hs, hm⟩ := bind_eq_ok hm
  obtain ⟨T₄, M₄, sid₁, rfl, haccount₁, hold, hmerchant₁, hkept⟩ := merchant_seeded hs
  have hsystem := hold _ _ _ hsystem (by decide)
  have hext := hold _ _ _ hext (by decide)
  have haccount₀ := hold _ _ _ haccount₀ (by decide)
  have hmerchant₀ := hkept _ _ hmerchant₀ (by decide)
  obtain ⟨_, hs, hm⟩ := bind_eq_ok hm
  obtain ⟨T₅, M₅, sid₂, rfl, haccount₂, hold, hmerchant₂, hkept⟩ := merchant_seeded hs
  have hsystem := hold _ _ _ hsystem (by decide)
  have hext := hold _ _ _ hext (by decide)
  have haccount₀ := hold _ _ _ haccount₀ (by decide)
  have haccount₁ := hold _ _ _ haccount₁ (by decide)
  have hmerchant₀ := hkept _ _ hmerchant₀ (by decide)
  have hmerchant₁ := hkept _ _ hmerchant₁ (by decide)
  obtain rfl := Except.ok.inj hm
  obtain ⟨⟨source, _⟩, hs, h⟩ := bind_eq_ok h
  obtain ⟨T₆, rfl, hT₆⟩ := upsert_upserted rfl hs
  obtain ⟨⟨dest, _⟩, hs, h⟩ := bind_eq_ok h
  obtain ⟨T₇, rfl, hT₇⟩ := upsert_upserted rfl hs
  obtain rfl := Except.ok.inj h
  have hsource := hT₆.hasAccount (r := .sourceAccount) rfl fun _ => rfl
  have hdest := hT₇.hasAccount (r := .destAccount) rfl fun _ => rfl
  let settlement : ℕ → Uuid := fun n => if n = 0 then sid₀ else if n = 1 then sid₁ else sid₂
  let id := SeedRow.among user.id profile.id adminUser.id adminProfile.id a₁.id a₂.id source.id
    dest.id settlement
    fun n => uuid (.merchant n)
  refine ⟨id, ?_, ⟨profile, hprofile', rfl, hprofile⟩, ?_,
    ⟨adminProfile, hP₂.mem, rfl, hadminProfile⟩, ?_, ?_⟩
  · exact huser ▸ huser'
  · exact hadmin ▸ hU₂.mem
  · intro x hx
    simp only [seedIbans, List.mem_cons, List.not_mem_nil, or_false] at hx
    rcases hx with rfl | rfl | rfl | rfl | rfl | rfl | rfl
    · exact (hsystem.upserted hT₆ (by decide)).upserted hT₇ (by decide)
    · exact (hext.upserted hT₆ (by decide)).upserted hT₇ (by decide)
    · exact (haccount₀.upserted hT₆ (by decide)).upserted hT₇ (by decide)
    · exact (haccount₁.upserted hT₆ (by decide)).upserted hT₇ (by decide)
    · exact (haccount₂.upserted hT₆ (by decide)).upserted hT₇ (by decide)
    · exact hsource.upserted hT₇ (by decide)
    · exact hdest
  · intro x hx
    simp only [demoMerchants, List.zipIdx_cons, List.zipIdx_nil, zero_add, List.mem_cons,
      List.not_mem_nil,
      or_false] at hx
    rcases hx with rfl | rfl | rfl
    · exact hmerchant₀
    · exact hmerchant₁
    · exact hmerchant₂

def Db.reverified (id : SeedRow → Uuid) (now : Instant) (db : Db) : Db :=
  { db with
    customerProfiles := (db.customerProfiles.modify (id .profile)
      (CustomerProfile.setKyc .verified (some now))).modify
      (id .adminProfile) (CustomerProfile.setKyc .verified (some now)) }

section Again

variable {id uuid : SeedRow → Uuid} {now : Instant} {db : Db}

lemma upsert_profile {profileId userId : Uuid} {f : Patch CustomerProfile}
    (h : HasProfile db.customerProfiles profileId userId) : ∃ p, p.id = profileId ∧ ∀ row,
      upsert Db.customerProfile userId row f db =
        .ok (p, { db with customerProfiles := db.customerProfiles.modify profileId f }) := by
  obtain ⟨p, hp, rfl, huser⟩ := h
  have hfound : db.customerProfiles.findAlt userId = some p :=
    Table.findAlt_eq_some.mpr ⟨hp, congrArg some huser⟩
  refine ⟨f.apply p, f.key_apply p, fun row => ?_⟩
  simp only [upsert, Db.customerProfile, hfound, Db.update, Table.find_eq_some.mpr ⟨hp, rfl⟩]
  rfl

lemma HasProfile.modify {T : Table CustomerProfile} {profileId userId key : Uuid}
    (h : HasProfile T profileId userId) (f : Patch CustomerProfile) :
    HasProfile (T.modify key f) profileId userId := by
  obtain ⟨p, hp, hid, huser⟩ := h
  obtain ⟨p', hp', hid', huser'⟩ := Table.mem_modifyAll hp (fun r => Record.key r = key) f
  exact ⟨p', hp', hid'.trans hid, (Option.some.inj huser').trans huser⟩

lemma upsert_account_found {accountId : Uuid} {iban : String} {r : SeedRow} {f : Patch Account}
    (h : HasAccount db.accounts accountId iban r) (hf : ∀ a, r.Sets a → f.apply a = a) :
    ∃ a, a.id = accountId ∧ ∀ row, upsert Db.account iban row f db = .ok (a, db) := by
  obtain ⟨a, ha, hid, hiban, hsets⟩ := h
  exact ⟨a, hid, fun row => upsert_found rfl ha (congrArg some hiban) (hf a hsets)⟩

lemma reseedSystem_of_sets {accountType : String} (a : Account)
    (h : a.isSystem = true ∧ a.accountType = accountType) :
    (Account.reseedSystem (some accountType)).apply a = a := by
  simp [Account.reseedSystem, ← h.1, ← h.2]

lemma reseedSystem_of_system (a : Account) (h : a.isSystem = true) :
    (Account.reseedSystem none).apply a = a := by
  simp [Account.reseedSystem, ← h]

lemma reseedCustomer_of_active (a : Account) (h : a.status = .active) :
    Account.reseedCustomer.apply a = a := by
  simp [Account.reseedCustomer, ← h]

lemma seedMerchant_found {m : DemoMerchant} {n : ℕ} {accountId adminProfileId : Uuid}
    (haccount : HasAccount db.accounts accountId m.iban (.settlementAccount n))
    (hmerchant : HasMerchant db.merchants m accountId) :
    seedMerchant uuid adminProfileId db (m, n) = .ok db := by
  obtain ⟨a, rfl, ha⟩ := upsert_account_found haccount reseedSystem_of_sets
  obtain ⟨x, hx, his⟩ := hmerchant
  have hsame : (Merchant.reseed m.name m.category a.id).apply x = x := by
    simp [Merchant.reseed, ← his.name, ← his.category, ← his.settlementAccountId, ← his.status]
  have hmerchant : ∀ row, upsert Db.merchant m.merchantCode row
      (Merchant.reseed m.name m.category a.id) db =
      .ok (x, db) := fun row => upsert_found rfl hx (congrArg some his.merchantCode) hsame
  simp only [seedMerchant, ha, hmerchant, bind, Except.bind, pure, Except.pure]

lemma seedMerchants_found {adminProfileId : Uuid}
    (haccounts : ∀ x ∈ seedIbans, HasAccount db.accounts (id x.1) x.2 x.1)
    (hmerchants : ∀ x ∈ demoMerchants.zipIdx, HasMerchant db.merchants x.1
      (id (.settlementAccount x.2))) :
    seedMerchants uuid adminProfileId db = .ok db := by
  have hall : ∀ l : List (DemoMerchant × ℕ),
      (∀ x ∈ l, seedMerchant uuid adminProfileId db x = .ok db) →
      l.foldlM (seedMerchant uuid adminProfileId) db = .ok db := by
    intro l hl
    induction l with
    | nil => rfl
    | cons x l ih =>
      rw [List.foldlM_cons, hl x List.mem_cons_self]
      exact ih fun y hy => hl y (List.mem_cons_of_mem x hy)
  refine hall _ fun x hx => seedMerchant_found ?_ (hmerchants x hx)
  have hiban : ∀ x ∈ demoMerchants.zipIdx, (SeedRow.settlementAccount x.2, x.1.iban) ∈
      seedIbans := by
    simp [demoMerchants, seedIbans]
  exact haccounts _ (hiban x hx)

theorem seed_of_seeds (h : Seeds id db) : seed uuid now db = .ok (db.reverified id now) := by
  have huser : ∀ row, upsert Db.user "demo@bank.local" row User.reseed db =
      .ok (⟨id .user, "demo@bank.local"⟩, db) := fun _ => upsert_found rfl h.user rfl rfl
  obtain ⟨profile, -, hprofile⟩ :=
    upsert_profile (f := CustomerProfile.setKyc .verified (some now)) h.profile
  obtain ⟨db₁, hdb₁⟩ : ∃ d, d = { db with
    customerProfiles := db.customerProfiles.modify (id .profile)
      (CustomerProfile.setKyc .verified (some now)) } :=
    ⟨_, rfl⟩
  have hadmin : ∀ row, upsert Db.user "admin@bank.local" row User.reseed db₁ =
      .ok (⟨id .adminUser, "admin@bank.local"⟩, db₁) := fun _ => by
    rw [hdb₁]
    exact upsert_found rfl h.adminUser rfl rfl
  have hadmins : HasProfile db₁.customerProfiles (id .adminProfile) (id .adminUser) := by
    rw [hdb₁]
    exact h.adminProfile.modify _
  obtain ⟨adminProfile, -, hadminProfile⟩ :=
    upsert_profile (f := CustomerProfile.setKyc .verified (some now)) hadmins
  obtain ⟨db₂, hdb₂⟩ : ∃ d, d = { db₁ with
    customerProfiles := db₁.customerProfiles.modify (id .adminProfile)
      (CustomerProfile.setKyc .verified (some now)) } :=
    ⟨_, rfl⟩
  have haccounts : ∀ x ∈ seedIbans, HasAccount db₂.accounts (id x.1) x.2 x.1 := by
    rw [hdb₂, hdb₁]
    exact h.accounts
  have haccount : ∀ r iban, (r, iban) ∈ seedIbans → HasAccount db₂.accounts (id r) iban r :=
    fun r iban hx => haccounts (r, iban) hx
  have hmerchants : ∀ x ∈ demoMerchants.zipIdx, HasMerchant db₂.merchants x.1
      (id (.settlementAccount x.2)) := by
    rw [hdb₂, hdb₁]
    exact h.merchants
  obtain ⟨system, -, hsystem⟩ := upsert_account_found (f := Account.reseedSystem none)
    (haccount .systemAccount "RO00SYSBANK0000000000001" (by simp [seedIbans]))
      reseedSystem_of_system
  obtain ⟨ext, -, hext⟩ := upsert_account_found
    (haccount .extSystemAccount "RO00EXTBANK0000000000001" (by simp [seedIbans]))
      reseedSystem_of_sets
  obtain ⟨source, -, hsource⟩ := upsert_account_found
    (haccount .sourceAccount "RO49BKCH0000000011110001" (by simp [seedIbans]))
      reseedCustomer_of_active
  obtain ⟨dest, -, hdest⟩ := upsert_account_found
    (haccount .destAccount "RO49BKCH0000000022220002" (by simp [seedIbans]))
      reseedCustomer_of_active
  simp only [← hdb₁] at hprofile
  simp only [← hdb₂] at hadminProfile
  have hresult : db₂ = db.reverified id now := by
    rw [hdb₂, hdb₁]
    rfl
  rw [← hresult]
  simp only [seed, huser, hprofile, hadmin, hadminProfile, hsystem, hext,
    seedMerchants_found haccounts hmerchants,
    hsource, hdest, bind, Except.bind, pure, Except.pure]

end Again

lemma SeedRow.sets_of_opening {r : SeedRow} {a a' : Account} (h : a'.opening = a.opening)
    (hsets : r.Sets a) :
    r.Sets a' := by
  have hsystem : a'.opening.isSystem = a.opening.isSystem := congrArg Account.isSystem h
  have htype : a'.opening.accountType = a.opening.accountType := congrArg Account.accountType h
  have hstatus : a'.opening.status = a.opening.status := congrArg Account.status h
  cases r with
  | systemAccount => exact hsystem.trans hsets
  | extSystemAccount => exact ⟨hsystem.trans hsets.1, htype.trans hsets.2⟩
  | settlementAccount _ => exact ⟨hsystem.trans hsets.1, htype.trans hsets.2⟩
  | _ => exact hstatus.trans hsets

section Runs

variable {id : SeedRow → Uuid} {db db' : Db}

lemma Seeds.of_same (h : Seeds id db) (hsame : SameFolk db db')
    (hmerchants : db'.merchants = db.merchants) :
    Seeds id db' := by
  have hprofiles : ∀ profileId userId, HasProfile db.customerProfiles profileId userId →
      HasProfile db'.customerProfiles profileId userId := by
    rintro profileId userId ⟨p, hp, hid, huser⟩
    obtain ⟨p', hp', hopening⟩ := List.mem_map.mp (hsame.profiles ▸ List.mem_map_of_mem hp :
      p.opening ∈ db'.customerProfiles.rows.map CustomerProfile.opening)
    have hid' : p'.opening.id = p.opening.id := congrArg CustomerProfile.id hopening
    have huser' : p'.opening.userId = p.opening.userId := congrArg CustomerProfile.userId hopening
    exact ⟨p', hp', hid'.trans hid, huser'.trans huser⟩
  refine ⟨hsame.users ▸ h.user, hprofiles _ _ h.profile, hsame.users ▸ h.adminUser,
    hprofiles _ _ h.adminProfile, ?_,
    hmerchants ▸ h.merchants⟩
  intro x hx
  obtain ⟨a, ha, hid, hiban, hsets⟩ := h.accounts x hx
  obtain ⟨a', ha', hopening⟩ := List.mem_map.mp (hsame.accounts ▸ List.mem_map_of_mem ha :
    a.opening ∈ db'.accounts.rows.map Account.opening)
  have hid' : a'.opening.id = a.opening.id := congrArg Account.id hopening
  have hiban' : a'.opening.iban = a.opening.iban := congrArg Account.iban hopening
  exact ⟨a', ha', hid'.trans hid, hiban'.trans hiban, SeedRow.sets_of_opening hopening hsets⟩

lemma Seeds.of_opened {dto : RegisterDto} {x : Customer} (h : Seeds id db)
    (hopens : Opens dto x db db') (hmerchants : db'.merchants = db.merchants) : Seeds id db' := by
  have husers := (Table.insert_eq_some.mp hopens.users).2.2
  have hprofiles := (Table.insert_eq_some.mp hopens.profiles).2.2
  have haccounts := (Table.insert_eq_some.mp hopens.accounts).2.2
  have hprofile : ∀ profileId userId, HasProfile db.customerProfiles profileId userId →
      HasProfile db'.customerProfiles profileId userId :=
    fun _ _ ⟨p, hp, hid⟩ => ⟨p, hprofiles ▸ List.mem_append_left _ hp, hid⟩
  refine ⟨husers ▸ List.mem_append_left _ h.user, hprofile _ _ h.profile,
    husers ▸ List.mem_append_left _ h.adminUser,
    hprofile _ _ h.adminProfile, ?_, hmerchants ▸ h.merchants⟩
  intro y hy
  obtain ⟨a, ha, hid⟩ := h.accounts y hy
  exact ⟨a, haccounts ▸ List.mem_append_left _ ha, hid⟩

lemma Written.seeds {c : Call} (h : Written c db db') (hmerchants : db'.merchants = db.merchants)
    (hs : Seeds id db) :
    Seeds id db' := by
  rcases h.folk with hsame | ⟨dto, x, _, hopens⟩
  · exact hs.of_same hsame hmerchants
  · exact hs.of_opened hopens hmerchants

lemma Effect.merchants {sha256 : String → String} {t : ℕ} {c : Call} {i : Inputs} {s s' : State}
    (h : Effect sha256 t c i s s') : s'.world.db.merchants = s.world.db.merchants := by
  cases h.onDb with
  | notified ns db _ => rw [db, Db.addNotifications_merchants]
  | posted _ _ _ _ _ _ _ applied _ db _ => rw [db, Db.addNotifications_merchants, applied.merchants]
  | credited _ _ _ _ _ _ _ applied _ db => rw [db, Db.addNotifications_merchants, applied.merchants]
  | kept _ frame => exact frame.merchants

lemma run_seeds {sha256 : String → String} {w : World} {schedule : List Action} {b : Bank}
    (hw : Seeds id w.db) (h : Bank.run sha256 (Bank.start w) schedule = some b) :
    Seeds id b.db := by
  refine ((writesDiscipline sha256).shared_invariant
    (P := fun s : State => Seeds id s.world.db) ?_ ?_
    ((writesDiscipline sha256).init_holds w) hw (Discipline.meets_true _ _) h).2
  · rintro c t i call p s' _ _ _ hs ⟨heffect, hwritten⟩
    by_cases hc : call.payer = none
    · exact (hwritten hc).seeds heffect.merchants hs
    · exact (heffect.written hc).seeds heffect.merchants hs
  · intro e s hs
    exact (environment_written (.markAllAsRead ⟨0⟩) e s.world).seeds
      (environment_kept e s.world).merchants hs

end Runs

structure SeedsAll (id : SeedRow → Uuid) (w : ApiWorld) : Prop where
  rows : Seeds id w.db
  card1 : ∃ c ∈ w.cards.rows, c.id = card1Id
  card2 : ∃ c ∈ w.cards.rows, c.id = card2Id
  client : "CLIENT" ∈ w.roles (id .user)
  admin : "ADMIN" ∈ w.roles (id .adminUser)

/-- What the seed changes where all is there: the demo user and the administrator are verified and
have their first password again, and the two cards are open again. -/
def ApiWorld.reseeded (id : SeedRow → Uuid) (now : Instant) (passwordHash : String)
    (w : ApiWorld) : ApiWorld :=
  { w with
    db := w.db.reverified id now
    cards := (w.cards.modify card1Id Card.reseed).modify card2Id Card.reseed
    credentials := Function.update (Function.update w.credentials (id .user) ⟨passwordHash, true⟩)
      (id .adminUser) ⟨passwordHash, true⟩ }

section Whole

variable {host : Host} {id uuid : SeedRow → Uuid} {now : Instant} {passwordHash : String}
    {w w₀ : ApiWorld}
variable {schedule : List ApiAction} {b : Api}

lemma upsertCard_found {create : Card} {cards : Table Card}
    (h : ∃ c ∈ cards.rows, c.id = create.id) :
    upsertCard create cards = .ok (cards.modify create.id Card.reseed) := by
  obtain ⟨c, hc, hid⟩ := h
  have hfound : cards.find create.id = some c := Table.find_eq_some.mpr ⟨hc, hid⟩
  rw [upsertCard, hfound]

lemma upsertCard_seeded {create : Card} {cards cards' : Table Card}
    (h : upsertCard create cards = .ok cards') :
    ∀ id, (id = create.id ∨ ∃ c ∈ cards.rows, c.id = id) → ∃ c ∈ cards'.rows, c.id = id := by
  unfold upsertCard at h
  split at h
  · rename_i old hold
    obtain rfl := Except.ok.inj h
    obtain ⟨hmem, hkey⟩ := Table.find_eq_some.mp hold
    have hkept : ∀ c ∈ cards.rows, ∃ c' ∈ (cards.modify create.id Card.reseed).rows, c'.id = c.id :=
      fun c hc => by
      obtain ⟨c', hc', hid, _⟩ := Table.mem_modifyAll hc
        (fun r => Record.key r = create.id) Card.reseed
      exact ⟨c', hc', hid⟩
    rintro id (rfl | ⟨c, hc, rfl⟩)
    · obtain ⟨c', hc', hid⟩ := hkept old hmem
      exact ⟨c', hc', hid.trans hkey⟩
    · exact hkept c hc
  · split at h
    · rename_i t ht
      obtain rfl := Except.ok.inj h
      have hrows := (Table.insert_eq_some.mp ht).2.2
      rintro id (rfl | ⟨c, hc, rfl⟩)
      · exact ⟨create, by simp [hrows], rfl⟩
      · exact ⟨c, by simp [hrows, hc], rfl⟩
    · cases h

lemma mem_connect (role : String) (roles : List String) : role ∈ connect role roles := by
  unfold connect
  split_ifs with h
  · exact h
  · simp

lemma Seeds.findAlt_user {db : Db} (h : Seeds id db) :
    db.users.findAlt "demo@bank.local" = some ⟨id .user, "demo@bank.local"⟩ :=
  Table.findAlt_eq_some.mpr ⟨h.user, rfl⟩

lemma Seeds.findAlt_adminUser {db : Db} (h : Seeds id db) :
    db.users.findAlt "admin@bank.local" = some ⟨id .adminUser, "admin@bank.local"⟩ :=
  Table.findAlt_eq_some.mpr ⟨h.adminUser, rfl⟩

lemma Seeds.user_ne_adminUser {db : Db} (h : Seeds id db) : id .user ≠ id .adminUser :=
  fun hid => by
  have hsame : "demo@bank.local" = "admin@bank.local" :=
    congrArg User.email (db.users.eq_of_key_eq h.user h.adminUser hid)
  exact absurd hsame (by decide)

theorem seedAll_seedsAll (h : seedAll uuid now passwordHash w₀ = .ok w) : ∃ id, SeedsAll id w := by
  unfold seedAll at h
  obtain ⟨db, hdb, h⟩ := bind_eq_ok h
  obtain ⟨id, hid⟩ := seed_seeds hdb
  simp only [hid.findAlt_user, hid.findAlt_adminUser] at h
  split at h
  · split at h
    · split at h
      · obtain ⟨cards₁, hcards₁, h⟩ := bind_eq_ok h
        obtain ⟨cards₂, hcards₂, h⟩ := bind_eq_ok h
        obtain rfl := Except.ok.inj h
        have hcard1 := upsertCard_seeded hcards₁ card1Id (.inl rfl)
        refine ⟨id, hid, ?_, ?_, ?_, ?_⟩
        · exact upsertCard_seeded hcards₂ card1Id (.inr hcard1)
        · exact upsertCard_seeded hcards₂ card2Id (.inl rfl)
        · change "CLIENT" ∈ if id .user = id .adminUser then _ else if id .user = id .user then _
            else _
          rw [if_neg hid.user_ne_adminUser, if_pos rfl]
          exact mem_connect _ _
        · change "ADMIN" ∈ if id .adminUser = id .adminUser then _ else _
          rw [if_pos rfl]
          exact mem_connect _ _
      · cases h
    · cases h
  · cases h

theorem seedAll_of_seedsAll (h : SeedsAll id w) :
    seedAll uuid now passwordHash w = .ok (w.reseeded id now passwordHash) := by
  have hrows : Seeds id (w.db.reverified id now) :=
    ⟨h.rows.user, (h.rows.profile.modify _).modify _, h.rows.adminUser,
      (h.rows.adminProfile.modify _).modify _,
      h.rows.accounts, h.rows.merchants⟩
  obtain ⟨profile, hprofile, -, huser⟩ := hrows.profile
  obtain ⟨source, hsource, -, hsourceIban, -⟩ :=
    hrows.accounts (.sourceAccount, "RO49BKCH0000000011110001") (by simp [seedIbans])
  obtain ⟨dest, hdest, -, hdestIban, -⟩ :=
    hrows.accounts (.destAccount, "RO49BKCH0000000022220002") (by simp [seedIbans])
  have hprofile' := Table.findAlt_eq_some.mpr ⟨hprofile, congrArg some huser⟩
  have hsource' := Table.findAlt_eq_some.mpr ⟨hsource, congrArg some hsourceIban⟩
  have hdest' := Table.findAlt_eq_some.mpr ⟨hdest, congrArg some hdestIban⟩
  have hcard1 : ∀ create : Card, create.id = card1Id →
      upsertCard create w.cards = .ok (w.cards.modify card1Id Card.reseed) := fun create hid => by
    rw [← hid]
    exact upsertCard_found (hid ▸ h.card1)
  have hcard2 : ∀ create : Card, create.id = card2Id →
      upsertCard create (w.cards.modify card1Id Card.reseed) =
      .ok ((w.cards.modify card1Id Card.reseed).modify card2Id Card.reseed) := fun create hid => by
    obtain ⟨c, hc, hcid⟩ := h.card2
    obtain ⟨c', hc', hid', -⟩ :=
      Table.mem_modifyAll hc (fun r => Record.key r = card1Id) Card.reseed
    rw [← hid]
    exact upsertCard_found ⟨c', hc', hid'.trans (hcid.trans hid.symm)⟩
  have hroles : (fun x => if x = id .adminUser then connect "ADMIN" (w.roles x)
      else if x = id .user then connect "CLIENT" (w.roles x) else w.roles x) = w.roles := by
    funext x
    split_ifs with hadmin hclient
    · exact if_pos (hadmin ▸ h.admin)
    · exact if_pos (hclient ▸ h.client)
    · rfl
  unfold seedAll
  simp only [seed_of_seeds h.rows, hrows.findAlt_user, hrows.findAlt_adminUser, hprofile', hsource',
    hdest', hcard1,
    hcard2, hroles, bind, Except.bind, pure, Except.pure]
  rfl

lemma run_apiSeeds (hw : Seeds id w.db) (h : (Api.start w).run host schedule = some b) :
    Seeds id b.world.db := by
  obtain ⟨ms, d, hrefines⟩ := run_refines h
  obtain ⟨os, c, hview⟩ := run_bankView hrefines.run
  have hseeds := run_seeds hw hview.run
  rwa [Bank.db, hview.world, hrefines.world] at hseeds

lemma run_keepsRole {userId : Uuid} {role : String} (hrole : role ∈ w.roles userId)
    (hfound : ∀ ms d, (Api.start w).run host ms = some d → (d.world.db.users.find userId).isSome)
    (h : (Api.start w).run host schedule = some b) : role ∈ b.world.roles userId := by
  have hmeets : ∀ ms (l : ApiAction) (d : Api), ms ++ [l] <+: schedule →
      (Api.start w).run host ms = some d →
      (d.world.db.users.find userId).isSome := fun ms _ d _ => hfound ms d
  refine ((apiDiscipline host).shared_invariant (P := fun s => role ∈ s.world.roles userId)
    ?_ (fun _ _ hold => hold) ((apiDiscipline host).init_holds w) hrole
      (Discipline.meets_of_runs hmeets) h).2
  intro d t i call p s' _ _ hfound hold hputs
  obtain hsame | ⟨v, hput⟩ : Script.Puts appPart d.shared.world s'.world := hputs
  · exact hsame ▸ hold
  · rw [hput]
    dsimp only [appPart]
    rw [if_neg fun hnew => ?_]
    · exact hold
    · rw [Option.isNone_iff_eq_none] at hnew
      rw [hnew.1] at hfound
      cases hfound

lemma run_seedsAll (hw : SeedsAll id w) (h : (Api.start w).run host schedule = some b) :
    SeedsAll id b.world := by
  have hrows : ∀ ms d, (Api.start w).run host ms = some d → Seeds id d.world.db :=
    fun ms d => run_apiSeeds hw.rows
  obtain ⟨ms, d, hrefines⟩ := run_refines h
  have hcards : ∀ c ∈ w.cards.rows, ∃ c' ∈ d.world.cards.rows, c'.id = c.id ∧
      c'.customerId = c.customerId :=
    ((app_grows host).run ((appDiscipline host).init_holds w.toAppWorld) hrefines.run).cards
  have hkept : ∀ cardId, (∃ c ∈ w.cards.rows, c.id = cardId) →
      ∃ c ∈ b.world.cards.rows, c.id = cardId := by
    rintro cardId ⟨c, hc, rfl⟩
    obtain ⟨c', hc', hid, -⟩ := hcards c hc
    exact ⟨c', by rwa [hrefines.world] at hc', hid⟩
  refine ⟨hrows _ _ h, hkept _ hw.card1, hkept _ hw.card2, ?_, ?_⟩
  · exact run_keepsRole hw.client (fun ms d hms =>
      Option.isSome_iff_exists.mpr ⟨_, Table.find_eq_some.mpr ⟨(hrows ms d hms).user, rfl⟩⟩) h
  · exact run_keepsRole hw.admin (fun ms d hms =>
      Option.isSome_iff_exists.mpr ⟨_, Table.find_eq_some.mpr ⟨(hrows ms d hms).adminUser, rfl⟩⟩) h

/-- Run again after any run of the API on a seeded database, the seed comes to its end, adds no row
and leaves the money alone: it sets back what `reseeded` says. -/
theorem reseed_keeps (hseed : seedAll uuid now passwordHash w₀ = .ok w)
    (h : (Api.start w).run host schedule = some b) : ∃ id, SeedsAll id b.world ∧
      ∀ uuid' now' passwordHash', seedAll uuid' now' passwordHash' b.world =
        .ok (b.world.reseeded id now' passwordHash') := by
  obtain ⟨id, hid⟩ := seedAll_seedsAll hseed
  have hkept := run_seedsAll hid h
  exact ⟨id, hkept, fun _ _ _ => seedAll_of_seedsAll hkept⟩

end Whole

def demoSeedAll (w : ApiWorld) : Except PrismaError ApiWorld := seedAll demoIds 0 "$2b$10$demo" w

def demoClosingSchedule : List ApiAction :=
  demoApiSolo 0 5 demoApiLogin ++ demoApiSolo 1 7 demoApiVerifyMfa ++
    demoApiSolo 2 9 (.request demoAccessToken (.closeCard card1Id))

def ApiWorld.cardStatus (w : ApiWorld) (id : Uuid) : Option CardStatus :=
  (w.cards.find id).map Card.status

lemma demoClosing_closed : ∃ w b, demoSeedAll demoApiWorld = .ok w ∧
    (Api.start w).run demoHost demoClosingSchedule = some b ∧
    b.world.cardStatus card1Id = some .closed := by
  have hrun : ((demoSeedAll demoApiWorld).toOption.bind fun w =>
      ((Api.start w).run demoHost demoClosingSchedule).bind fun b => b.world.cardStatus card1Id) =
        some .closed := by
    decide +kernel
  obtain ⟨w, hw, hrun⟩ := Option.bind_eq_some_iff.mp hrun
  obtain ⟨b, hb, hclosed⟩ := Option.bind_eq_some_iff.mp hrun
  refine ⟨w, b, ?_, hb, hclosed⟩
  cases hseed : demoSeedAll demoApiWorld with
  | ok v =>
    rw [hseed] at hw
    exact congrArg Except.ok (Option.some.inj hw)
  | error e =>
    rw [hseed] at hw
    cases hw

theorem demo_reseed_keeps : ∃ b w : ApiWorld, b.cardStatus card1Id = some .closed ∧
    demoSeedAll b = .ok w ∧
    w.cardStatus card1Id = some .active := by
  obtain ⟨w, b, hseed, hb, hclosed⟩ := demoClosing_closed
  obtain ⟨id, -, hagain⟩ := reseed_keeps hseed hb
  refine ⟨b.world, _, hclosed, hagain _ _ _, ?_⟩
  obtain ⟨c, hc, -⟩ := Option.map_eq_some_iff.mp hclosed
  simp only [ApiWorld.cardStatus, ApiWorld.reseeded, Table.find_modify, hc]
  rfl

end OnlineBanking
