import OnlineBanking.Library.Obligations
import OnlineBanking.TransactionHistory
import OnlineBanking.Writes

set_option autoImplicit false

/-! The customers of a run: those of the start, and one more for each registration that opened
one. -/

namespace OnlineBanking

open Library

def CustomerProfile.opening (p : CustomerProfile) : CustomerProfile :=
  { p with kycStatus := .pending, verifiedAt := none }

def Account.opening (a : Account) : Account := { a with availableBalance := 0 }

structure SameFolk (db db' : Db) : Prop where
  users : db'.users = db.users
  profiles : db'.customerProfiles.rows.map CustomerProfile.opening = db.customerProfiles.rows.map
    CustomerProfile.opening
  accounts : db'.accounts.rows.map Account.opening = db.accounts.rows.map Account.opening

lemma map_modifyAll {ρ κ ν α : Type} [Record ρ κ ν] {T : Table ρ} {p : ρ → Bool}
    {f : Patch ρ} {g : ρ → α} (h : ∀ r, g (f.apply r) = g r) :
    (T.modifyAll p f).rows.map g = T.rows.map g := by
  rw [Table.modifyAll_rows, List.map_map]
  apply List.map_congr_left
  intro r _
  by_cases hp : p r <;> simp [hp, h]

lemma addNotifications_users (db : Db) (ns : List Notification) :
    (db.addNotifications ns).users = db.users := by
  obtain ⟨t, ht, _⟩ := db.addNotifications_eq ns
  rw [ht]

lemma SameFolk.addNotifications (db : Db) (ns : List Notification) :
    SameFolk db (db.addNotifications ns) :=
  ⟨addNotifications_users db ns, by simp, by simp⟩

protected lemma SameFolk.trans {a b c : Db} (h : SameFolk a b) (h' : SameFolk b c) : SameFolk a c :=
  ⟨h'.users.trans h.users, h'.profiles.trans h.profiles, h'.accounts.trans h.accounts⟩

lemma Posting.Applied.sameFolk {p : Posting} {db db' : Db} (h : p.Applied db db') :
    SameFolk db db' where
  users := h.users
  profiles := by rw [h.customerProfiles]
  accounts := by
    rw [h.accounts]
    exact (map_modifyAll fun _ => rfl).trans (map_modifyAll fun _ => rfl)

lemma Written.folk {c : Call} {db db' : Db} (h : Written c db db') :
    SameFolk db db' ∨ ∃ dto x, c = .register dto ∧ Opens dto x db db' := by
  cases h with
  | elsewhere users profiles accounts _ => exact .inl ⟨users, by rw [profiles], by rw [accounts]⟩
  | noticed ns after => exact .inl (after ▸ .addNotifications db ns)
  | posted p posted ns applied after =>
    exact .inl (applied.sameFolk.trans (after ▸ .addNotifications posted ns))
  | opened dto x call opens => exact .inr ⟨dto, x, call, opens⟩
  | verified id status verifiedAt after =>
    exact .inl (after ▸ ⟨rfl, map_modifyAll fun _ => rfl, rfl⟩)
  | marked now after => exact .inl (after ▸ ⟨rfl, rfl, rfl⟩)

lemma environment_folk (e : Environment) (w : World) : SameFolk w.db (environment e w).db := by
  rcases (environment_written (.markAllAsRead ⟨0⟩) e w).folk with hsame | ⟨dto, x, hcall, _⟩
  · exact hsame
  · cases hcall

def HasOpened (dto : RegisterDto) (w w' : World)
    (_ : Prog Inputs World Event Failure Response) : Prop :=
  ∃ x, Opens dto x w.db w'.db

lemma must_register (dto : RegisterDto) :
    (register dto).Must fun w w' _ => ∃ x, Opens dto x w.db w'.db := by
  unfold register
  apply Prog.must_bind
  intro found
  split
  · exact Prog.must_throw
  · apply Prog.must_bind
    intro iban
    refine Prog.Must.bind (Prog.must_atomic fun i w => ?_) fun _ _ _ h => h
    dsimp only
    split
    · exact .inr ⟨_, rfl⟩
    · split
      · exact .inr ⟨_, rfl⟩
      · rename_i user db hcreated
        exact .inl (opens_createCustomer hcreated)

lemma must_handle (sha256 : String → String) (dto : RegisterDto) :
    (handle sha256 (.register dto)).Must (HasOpened dto) :=
  (must_register dto).bind fun _ _ _ h => h

structure Registrations (db : Db) (b : Bank) (made : List (ℕ × Customer)) : Prop where
  users : b.db.users.rows = db.users.rows ++ made.map fun x => x.2.user
  profiles : b.db.customerProfiles.rows.map CustomerProfile.opening =
    db.customerProfiles.rows.map CustomerProfile.opening ++ made.map fun x => x.2.profile
  accounts : b.db.accounts.rows.map Account.opening =
    db.accounts.rows.map Account.opening ++ made.map fun x => x.2.account
  calls : ∀ x ∈ made, ∃ dto p, b.threads x.1 = some (.register dto, p) ∧ x.2.Of dto
  once : (made.map Prod.fst).Nodup

namespace Registrations

variable {db : Db} {b : Bank} {made : List (ℕ × Customer)}

lemma ids (h : Registrations db b made) : (made.map fun x => x.2.user.id).Nodup := by
  have hkeys := b.db.users.keys_nodup
  rw [h.users, List.map_append, List.map_map] at hkeys
  exact (List.nodup_append.mp hkeys).2.1

lemma emails (h : Registrations db b made) {x y : ℕ × Customer} (hx : x ∈ made) (hy : y ∈ made)
    (hemail : x.2.user.email = y.2.user.email) : x = y := by
  have hmem : ∀ z ∈ made, z.2.user ∈ b.db.users.rows := by
    intro z hz
    rw [h.users]
    exact List.mem_append_right _ (List.mem_map_of_mem hz)
  have huser := b.db.users.eq_of_alt_eq (hmem x hx) (hmem y hy) rfl (congrArg some hemail.symm)
  exact List.inj_on_of_nodup_map h.ids hx hy (congrArg User.id huser)

lemma fresh (h : Registrations db b made) {x : ℕ × Customer} (hx : x ∈ made) {u : User}
    (hu : u ∈ db.users.rows) :
    u.email ≠ x.2.user.email := by
  intro hemail
  have halts := b.db.users.alts_nodup
  rw [h.users, List.filterMap_append] at halts
  exact (List.nodup_append.mp halts).2.2 u.email (List.mem_filterMap.mpr ⟨u, hu, rfl⟩)
    x.2.user.email
    (List.mem_filterMap.mpr ⟨x.2.user, List.mem_map_of_mem hx, rfl⟩) hemail

lemma sole (h : Registrations db b made)
    (hkeys : ∀ a ∈ db.accounts.rows, ∃ p ∈ db.customerProfiles.rows, p.id = a.customerId)
    {x : ℕ × Customer} (hx : x ∈ made) {a : Account} (ha : a ∈ b.db.accounts.rows)
    (hcustomer : a.customerId = x.2.profile.id) :
    a.opening = x.2.account := by
  have hprofiles : (db.customerProfiles.rows.map CustomerProfile.id ++ made.map fun x =>
      x.2.profile.id).Nodup := by
    have hids := congrArg (List.map CustomerProfile.id) h.profiles
    rw [List.map_append, List.map_map, List.map_map, List.map_map] at hids
    exact (show _ = _ ++ _ from hids) ▸ b.db.customerProfiles.keys_nodup
  obtain ⟨_, hnew, hdisjoint⟩ := List.nodup_append.mp hprofiles
  rcases List.mem_append.mp (h.accounts ▸ List.mem_map_of_mem ha : a.opening ∈ _ ++ _) with
      hold | hmade
  · obtain ⟨a', ha', hopening⟩ := List.mem_map.mp hold
    obtain ⟨p, hp, hid⟩ := hkeys a' ha'
    have hsame : a'.opening.customerId = a.opening.customerId :=
      congrArg Account.customerId hopening
    have hcustomer' : p.id = x.2.profile.id := (hid.trans hsame).trans hcustomer
    exact absurd hcustomer' (hdisjoint p.id (List.mem_map_of_mem hp) _
      (List.mem_map.mpr ⟨x, hx, rfl⟩))
  · obtain ⟨y, hy, hopening⟩ := List.mem_map.mp hmade
    obtain ⟨dto, _, _, hof⟩ := h.calls y hy
    have hsame : y.2.account.customerId = a.opening.customerId :=
      congrArg Account.customerId hopening
    rw [hof.account] at hsame
    have hcustomer' : y.2.profile.id = x.2.profile.id := hsame.trans hcustomer
    rw [← hopening, List.inj_on_of_nodup_map hnew hy hx hcustomer']

variable {b' : Bank}

lemma of_same (h : Registrations db b made) (hsame : SameFolk b.db b'.db)
    (hthreads : ∀ t call p, b.threads t = some (call, p) → ∃ q, b'.threads t = some (call, q)) :
    Registrations db b' made where
  users := hsame.users ▸ h.users
  profiles := hsame.profiles.trans h.profiles
  accounts := hsame.accounts.trans h.accounts
  calls x hx := by
    obtain ⟨dto, p, hp, hof⟩ := h.calls x hx
    obtain ⟨q, hq⟩ := hthreads x.1 _ p hp
    exact ⟨dto, q, hq, hof⟩
  once := h.once

lemma of_opened (h : Registrations db b made) {t : ℕ} {dto : RegisterDto} {x : Customer}
    (hopens : Opens dto x b.db b'.db) {q : Prog Inputs World Event Failure Response}
    (ht : b'.threads t = some (.register dto, q))
    (hthreads : ∀ t call p, b.threads t = some (call, p) → ∃ q, b'.threads t = some (call, q)) :
    Registrations db b' (made ++ [(t, x)]) := by
  obtain ⟨_, hnew, husers⟩ := Table.insert_eq_some.mp hopens.users
  have hprofiles := (Table.insert_eq_some.mp hopens.profiles).2.2
  have haccounts := (Table.insert_eq_some.mp hopens.accounts).2.2
  have hprofile : x.profile.opening = x.profile := by rw [hopens.of.profile]; rfl
  have haccount : x.account.opening = x.account := by rw [hopens.of.account]; rfl
  refine ⟨?_, ?_, ?_, ?_, ?_⟩
  · rw [husers, h.users, List.map_append, List.append_assoc]
    rfl
  · rw [hprofiles, List.map_append, h.profiles, List.map_append, List.append_assoc,
      List.map_singleton, hprofile]
    rfl
  · rw [haccounts, List.map_append, h.accounts, List.map_append, List.append_assoc,
      List.map_singleton, haccount]
    rfl
  · intro y hy
    rcases List.mem_append.mp hy with hy | hy
    · obtain ⟨dto', p, hp, hof⟩ := h.calls y hy
      obtain ⟨q', hq'⟩ := hthreads y.1 _ p hp
      exact ⟨dto', q', hq', hof⟩
    · obtain rfl := List.mem_singleton.mp hy
      exact ⟨dto, q, ht, hopens.of⟩
  · rw [List.map_append, List.nodup_append]
    refine ⟨h.once, List.nodup_singleton _, ?_⟩
    rintro u hu v hv rfl
    obtain rfl : u = t := by simpa using hv
    obtain ⟨y, hy, rfl⟩ := List.mem_map.mp hu
    obtain ⟨dto', p, hp, hof⟩ := h.calls y hy
    obtain ⟨q', hq'⟩ := hthreads y.1 _ p hp
    obtain ⟨hcall, _⟩ := Prod.mk.injEq .. ▸ Option.some.inj (hq'.symm.trans ht)
    obtain rfl := Call.register.inj hcall
    have hy' : y.2.user ∈ b.db.users.rows := by
      rw [h.users]
      exact List.mem_append_right _ (List.mem_map_of_mem hy)
    refine hnew x.user.email rfl y.2.user hy' ?_
    show some y.2.user.email = some x.user.email
    rw [hof.user, hopens.of.user]

end Registrations

def Registering (b : Bank) (made : List (ℕ × Customer)) : Prop :=
  ∀ t dto p, b.threads t = some (.register dto, p) → (∃ x, (t, x) ∈ made) ∨ p.Must (HasOpened dto)

section Runs

variable {sha256 : String → String} {w : World} {schedule : List Action} {b b' : Bank}

lemma Registrations.step {db : Db} {made : List (ℕ × Customer)} {l : Action}
    (h : Registrations db b made) (hregistering : Registering b made)
    (hb : (writesDiscipline sha256).Holds b) (hstep : Bank.step sha256 b l = some b') :
    ∃ made', Registrations db b' made' ∧ Registering b' made' := by
  have hthreads : ∀ t call p, b.threads t = some (call, p) → ∃ q, b'.threads t = some (call, q) :=
    fun t call p hp => (writesDiscipline sha256).call_persists hb hstep hp
  have hstanding : ∀ made', (∀ x ∈ made, x ∈ made') →
      (∀ t i dto p, l = .act t i → b'.threads t = some (.register dto, p) →
        HasOpened dto b.shared.world b'.shared.world p →
        ∃ x, (t, x) ∈ made') → Registering b' made' := by
    intro made' hsub hopened t dto p hp
    by_cases hdone : ∃ x, (t, x) ∈ made
    · exact .inl (hdone.imp fun x hx => hsub _ hx)
    · have hbefore : ∀ q, b.threads t = some (.register dto, q) → q.Must (HasOpened dto) :=
        fun q hq => (hregistering t dto q hq).resolve_left hdone
      rcases Config.must_step hstep (must_handle sha256 dto) hbefore hp with hmust | ⟨i, rfl, hhas⟩
      · exact .inr hmust
      · exact .inl (hopened t i dto p rfl hp hhas)
  have hsame : SameFolk b.db b'.db → ∃ made', Registrations db b' made' ∧ Registering b' made' := by
    intro hsame
    refine ⟨made, h.of_same hsame hthreads, hstanding made (fun _ hx => hx) ?_⟩
    rintro t i dto p _ _ ⟨x, hopens⟩
    have husers := (Table.insert_eq_some.mp hopens.users).2.2
    rw [hsame.users] at husers
    simp at husers
  rcases (writesDiscipline sha256).step_cases hb hstep with
    ⟨t, call, _, _, hshared, _⟩ | ⟨t, i, call, p, q, rfl, _, ⟨heffect, hwritten⟩, hq, _⟩ |
      ⟨e, _, hshared, _⟩
  · apply hsame
    rw [Bank.db, Bank.db, hshared]
    exact ⟨rfl, rfl, rfl⟩
  · have hcall : Written call b.db b'.db := by
      by_cases hc : call.payer = none
      · exact hwritten hc
      · exact heffect.written hc
    rcases hcall.folk with hfolk | ⟨dto, x, rfl, hopens⟩
    · exact hsame hfolk
    · have ht : b'.threads t = some (.register dto, q) := by simp [hq]
      refine ⟨made ++ [(t, x)], h.of_opened hopens ht hthreads,
        hstanding _ (fun _ hx => List.mem_append_left _ hx) ?_⟩
      rintro u j dto' p' hact _ _
      obtain ⟨rfl, _⟩ := Label.act.inj hact
      exact ⟨x, by simp⟩
  · apply hsame
    rw [Bank.db, Bank.db, hshared]
    exact environment_folk e b.shared.world

theorem run_registrations (h : Bank.run sha256 (Bank.start w) schedule = some b) :
    ∃ made, Registrations w.db b made ∧ Registering b made := by
  refine ((writesDiscipline sha256).run_invariant
    (P := fun b : Bank => ∃ made, Registrations w.db b made ∧ Registering b made) ?_
    ((writesDiscipline sha256).init_holds w) ?_ (Discipline.meets_true _ _) h).2
  · rintro c l c' hc _ ⟨made, hmade, hregistering⟩ hstep
    exact hmade.step hregistering hc hstep
  · refine ⟨[], ⟨?_, ?_, ?_, ?_, ?_⟩, ?_⟩
    · simp [Bank.db, Config.init]
    · simp [Bank.db, Config.init]
    · simp [Bank.db, Config.init]
    · simp
    · simp
    · intro t dto p hp
      simp [Config.init] at hp

/-- The users, profiles and accounts of a run are those of the start and the customers made since,
whose addresses nobody shares. -/
structure Enrolment (db : Db) (b : Bank) (made : List (ℕ × Customer)) :
    Prop extends Registrations db b made where
  answered : ∀ t dto r, b.threads t = some (.register dto, .done (.ok r)) → ∃ x, (t, x) ∈ made
  distinct : ∀ x ∈ made, ∀ y ∈ made, x.2.user.email = y.2.user.email → x = y
  unused : ∀ x ∈ made, ∀ u ∈ db.users.rows, u.email ≠ x.2.user.email
  only : ∀ x ∈ made, ∀ a ∈ b.db.accounts.rows, a.customerId = x.2.profile.id →
    a.opening = x.2.account

theorem registrations_enrol
    (hkeys : ∀ a ∈ w.db.accounts.rows, ∃ p ∈ w.db.customerProfiles.rows, p.id = a.customerId)
    (h : Bank.run sha256 (Bank.start w) schedule = some b) : ∃ made, Enrolment w.db b made := by
  obtain ⟨made, hmade, hregistering⟩ := run_registrations h
  refine ⟨made, hmade, ?_, ?_, ?_, ?_⟩
  · intro t dto r ht
    exact (hregistering t dto _ ht).resolve_right fun hmust => hmust
  · exact fun x hx y hy hemail => hmade.emails hx hy hemail
  · exact fun x hx u hu => hmade.fresh hx hu
  · exact fun x hx a ha hcustomer => hmade.sole hkeys hx ha hcustomer

def niaDto : RegisterDto := { neighbourDto with email := "n@b.ro" }

def nedDto : RegisterDto := { neighbourDto with email := "N@b.ro", firstName := "Ned" }

/-- Both look for the address before either takes it. -/
def raceSchedule : List Action :=
  [.spawn 0 (.register niaDto), .spawn 1 (.register nedDto), .act 0 (neighbourInputs 0),
    .act 1 (neighbourInputs 1), .act 1 (neighbourInputs 2), .act 0 (neighbourInputs 3),
    .act 0 (neighbourInputs 4),
    .act 1 (neighbourInputs 5), .act 0 (neighbourInputs 6), .act 0 (neighbourInputs 7)]

lemma keyed_of_all {db : Db}
    (h : (db.accounts.rows.all fun a => db.customerProfiles.rows.any fun p => p.id = a.customerId) =
      true) :
    ∀ a ∈ db.accounts.rows, ∃ p ∈ db.customerProfiles.rows, p.id = a.customerId := by
  intro a ha
  obtain ⟨p, hp, hid⟩ := List.any_eq_true.mp (List.all_eq_true.mp h a ha)
  exact ⟨p, hp, of_decide_eq_true hid⟩

lemma demoWorld_keyed : ∀ a ∈ demoWorld.db.accounts.rows,
    ∃ p ∈ demoWorld.db.customerProfiles.rows, p.id = a.customerId :=
  keyed_of_all (by decide +kernel)

lemma race_run : (Bank.run demoSha256 (Bank.start demoWorld) raceSchedule).map
    (fun b => b.db.users.rows.length) =
    some (demoWorld.db.users.rows.length + 1) := by
  decide +kernel

theorem demo_registrations_enrol :
    ∃ b made, Bank.run demoSha256 (Bank.start demoWorld) raceSchedule = some b ∧
    Enrolment demoWorld.db b made ∧ made.length = 1 := by
  obtain ⟨b, hb, hlength⟩ := Option.map_eq_some_iff.mp race_run
  obtain ⟨made, hmade⟩ := registrations_enrol demoWorld_keyed hb
  refine ⟨b, made, hb, hmade, ?_⟩
  rw [hmade.users, List.length_append, List.length_map] at hlength
  exact Nat.add_left_cancel hlength

end Runs

end OnlineBanking
