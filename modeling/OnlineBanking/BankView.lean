import OnlineBanking.CardLifecycle
import OnlineBanking.Library.Projections
import OnlineBanking.Notices

set_option autoImplicit false

/-! The backend seen from the bank: what the cards and the sessions do belongs to its
environment. -/

namespace OnlineBanking

open Library

section Growth

variable {sha256 : String → String} {db db' : Db}

protected lemma Knows.refl (db : Db) : Knows db db :=
  ⟨fun _ p h => ⟨p, h, rfl⟩, fun _ a h => ⟨a, h, rfl, rfl⟩⟩

protected lemma Knows.trans {db'' : Db} (h : Knows db db') (h' : Knows db' db'') :
    Knows db db'' := by
  constructor
  · intro id p hp
    obtain ⟨p', hp', huser⟩ := h.profiles id p hp
    obtain ⟨p'', hp'', huser'⟩ := h'.profiles id p' hp'
    exact ⟨p'', hp'', huser'.trans huser⟩
  · intro id a ha
    obtain ⟨a', ha', hcustomer, hsystem⟩ := h.accounts id a ha
    obtain ⟨a'', ha'', hcustomer', hsystem'⟩ := h'.accounts id a' ha'
    exact ⟨a'', ha'', hcustomer'.trans hcustomer, hsystem'.trans hsystem⟩

lemma knows_addNotifications (db : Db) (ns : List Notification) :
    Knows db (db.addNotifications ns) :=
  ⟨fun _ p hp => ⟨p, by rwa [Db.addNotifications_customerProfiles], rfl⟩,
    fun _ a ha => ⟨a, by rwa [Db.addNotifications_accounts], rfl, rfl⟩⟩

lemma Effect.knows {t : ℕ} {c : Call} {i : Inputs} {s s' : State} (h : Effect sha256 t c i s s') :
    Knows s.world.db s'.world.db := by
  cases h.onDb with
  | notified ns db _ => exact db ▸ knows_addNotifications _ ns
  | posted _ _ _ _ ns _ _ applied _ db _ =>
    exact db ▸ applied.knows.trans (knows_addNotifications _ ns)
  | credited _ _ _ _ _ ns _ applied _ db =>
    exact db ▸ applied.knows.trans (knows_addNotifications _ ns)
  | kept _ frame => exact frame.knows

lemma grows_knows (sha256 : String → String) :
    (discipline sha256).Grows fun s s' => Knows s.world.db s'.world.db where
  refl _ := .refl _
  trans _ _ _ := .trans
  guar _ _ _ _ _ h := Effect.knows h
  env e s := (environment_kept e s.world).knows

lemma AppEffect.knows {host : Host} {t : ℕ} {c : AppCall} {i : AppInputs} {s s' : AppState}
    (h : AppEffect host t c i s s') : Knows s.world.db s'.world.db := by
  cases h with
  | idle same => exact same ▸ .refl _
  | bank call _ v es effect after =>
    subst after
    exact effect.knows
  | noted e _ after =>
    subst after
    exact (environment_kept e s.world.toWorld).knows
  | _ =>
    rename_i after
    subst after
    exact .refl _

lemma app_knows (host : Host) : (appDiscipline host).Grows fun s s' =>
    Knows s.world.db s'.world.db where
  refl _ := .refl _
  trans _ _ _ := .trans
  guar _ _ _ _ _ h := AppEffect.knows h
  env e s := by cases e <;> exact .refl _

end Growth

variable {host : Host} {w : AppWorld} {schedule : List AppAction} {b : App}

def bankHosting (host : Host) : Hosting bankPart (handle host.sha256) (handleApp host) where
  call := .bank
  answer := .bank
  injective _ _ h := AppCall.bank.inj h
  handle_call _ := rfl

lemma idles_of_same {t : ℕ} {s : AppState} {v : AppWorld} {es : List AppEvent}
    (hes : ∀ e ∈ es, e.bank? = none) (hv : v.toWorld = s.world.toWorld) :
    Idles bankPart environment s (s.after t v es) := by
  refine .inl ?_
  rw [bank_shared_after t s v hes, hv]
  rfl

lemma AppEffect.idles {t : ℕ} {c : AppCall} {i : AppInputs} {s s' : AppState}
    (hc : ∀ call, c ≠ .bank call) (h : AppEffect host t c i s s') :
    Idles bankPart environment s s' := by
  cases h with
  | idle same => exact .inl (by rw [same])
  | bank call is_call _ _ _ _ => exact absurd is_call (hc call)
  | noted e _ after =>
    subst after
    refine .inr ⟨e, ?_⟩
    rw [bank_shared_after t s _ (by simp)]
    rfl
  | cardChanged _ _ _ _ _ _ _ after => exact after ▸ idles_of_same (by simp) rfl
  | cardIssued _ _ _ _ _ _ _ _ _ _ after => exact after ▸ idles_of_same (by simp) rfl
  | passwordAccepted _ _ _ _ _ _ after => exact after ▸ idles_of_same (by simp [AppEvent.bank?]) rfl
  | otpStored _ _ _ _ after => exact after ▸ idles_of_same (by simp [AppEvent.bank?]) rfl
  | otpRead _ _ _ _ _ _ after => exact after ▸ idles_of_same (by simp [AppEvent.bank?]) rfl
  | otpDeleted _ _ _ _ _ after => exact after ▸ idles_of_same (by simp [AppEvent.bank?]) rfl
  | sessionCreated _ _ _ _ _ _ _ _ _ _ _ _ _ _ after =>
    exact after ▸ idles_of_same (by simp [AppEvent.bank?]) rfl
  | tokenSigned _ _ _ after => exact after ▸ idles_of_same (by simp [AppEvent.bank?]) rfl
  | sessionRead _ _ _ after => exact after ▸ idles_of_same (by simp [AppEvent.bank?]) rfl
  | sessionsListed _ _ _ after => exact after ▸ idles_of_same (by simp [AppEvent.bank?]) rfl
  | sessionRevoked _ _ _ _ _ _ _ _ after => exact after ▸ idles_of_same (by simp) rfl
  | passed _ _ _ _ after => exact after ▸ idles_of_same (by simp [AppEvent.bank?]) rfl

lemma environment_idles (e : AppEnvironment) (s : AppState) :
    Idles bankPart environment s { s with world := appEnvironment e s.world } := by
  cases e with
  | tick elapsed => exact .inr ⟨.tick elapsed, rfl⟩
  | credentialSet userId credential => exact .inl rfl

/-- The run `ms` of the bank to `c` is what the run of the backend to `b` comes down to for the
bank. -/
structure BankView (host : Host) (w : AppWorld) (b : App) (ms : List Action) (c : Bank) : Prop where
  run : Bank.run host.sha256 (Bank.start w.toWorld) ms = some c
  world : c.shared.world = b.world.toWorld
  trace : c.trace = b.trace.filterMap fun e => e.2.bank?.map (e.1, ·)
  threads : ∀ t call p, c.threads t = some (call, p) → ∃ p', b.threads t = some (.bank call, p')
  calls : ∀ t call p', b.threads t = some (.bank call, p') → ∃ p, c.threads t = some (call, p)
  results : ∀ t call r, b.threads t = some (.bank call, .done r) →
    ∃ r₀, c.threads t = some (call, .done r₀) ∧ r = (r₀.map AppResponse.bank).mapError .service

lemma run_bankView (h : (App.start w).run host schedule = some b) :
    ∃ ms c, BankView host w b ms c := by
  have hother : ∀ t c i s s', (∀ call, c ≠ (bankHosting host).call call) →
      (appDiscipline host).Guar t c i s s' → Idles bankPart environment s s' :=
    fun _ _ _ _ _ hc heffect => AppEffect.idles hc heffect
  obtain ⟨ms, c, hrun, hprojects⟩ := projected (appDiscipline host) hother environment_idles h
  refine ⟨ms, c, hrun, congrArg Shared.world hprojects.shared,
    congrArg Shared.trace hprojects.shared, ?_,
    ?_, ?_⟩
  · exact fun t call p ht => ⟨_, hprojects.threads t call p ht⟩
  · exact fun t call p' ht => hprojects.calls t call p' ht
  · exact fun t call r ht => hprojects.done ht

/-- Every run of the backend is a run of the bank on its own world, with the same events, calls and
answers: whatever holds of every run of the bank holds of it. -/
theorem app_refines_bank (h : (App.start w).run host schedule = some b) :
    ∃ ms c, BankView host w b ms c :=
  run_bankView h

def demoBankSchedule : List AppAction :=
  [.spawn 0 (.bank (demoPayment .small " k1 ")), .act 0 (demoAppInputs 0)] ++
    demoTurn 1 6 (.blockCard (demoIds .user) (.numbered 501)) ++
    [.spawn 2 (.bank (demoPayment .small "k2")), .act 0 (demoAppInputs 7), .act 2 (demoAppInputs 8)]

lemma demoBankSchedule_calls {t : ℕ} {c : AppCall} (h : .spawn t c ∈ demoBankSchedule) :
    (t = 0 ∧ c = .bank (demoPayment .small " k1 ")) ∨
      (t = 1 ∧ c = .blockCard (demoIds .user) (.numbered 501)) ∨
        (t = 2 ∧ c = .bank (demoPayment .small "k2")) := by
  simpa [demoBankSchedule, demoTurn, Label.solo] using h

def App.demoTold (b : App) : ℚ × List String × Bool :=
  (b.world.db.balance (demoIds .destAccount), b.world.db.auditEvents.rows.map AuditEvent.action,
    (b.threads 2).isSome)

theorem demo_app_refines_bank : ∃ b ms c, BankView demoHost demoAppWorld b ms c ∧
    c.db.balance (demoIds .destAccount) = 250 ∧
    c.db.auditEvents.rows.map AuditEvent.action = ["CARD_BLOCKED", "PAYMENT_TRANSFER_POSTED"] ∧
    (∃ p, c.threads 2 = some (demoPayment .small "k2", p)) ∧ c.threads 1 = none := by
  have hrun : ((App.start demoAppWorld).run demoHost demoBankSchedule).map App.demoTold =
      some (250, ["CARD_BLOCKED", "PAYMENT_TRANSFER_POSTED"], true) := by decide +kernel
  obtain ⟨b, hb, htold⟩ := Option.map_eq_some_iff.mp hrun
  obtain ⟨hbalance, haudits, hcalled⟩ : _ ∧ _ ∧ _ := by simpa [App.demoTold] using htold
  have hcalls : ∀ {t : ℕ} {call p}, b.threads t = some (call, p) →
      .spawn t call ∈ demoBankSchedule :=
    fun ht => (appDiscipline demoHost).spawn_of_call hb ht
  obtain ⟨ms, c, hview⟩ := app_refines_bank hb
  refine ⟨b, ms, c, hview, ?_, ?_, ?_, ?_⟩
  · rw [Bank.db, hview.world, hbalance]
  · rw [Bank.db, hview.world, haudits]
  · obtain ⟨⟨call, p⟩, ht⟩ := Option.isSome_iff_exists.mp hcalled
    obtain rfl : call = .bank (demoPayment .small "k2") := by
      simpa using demoBankSchedule_calls (hcalls ht)
    exact hview.calls 2 _ p ht
  · refine Option.eq_none_iff_forall_not_mem.mpr ?_
    rintro ⟨call, p⟩ ht
    obtain ⟨p', ht'⟩ := hview.threads 1 call p ht
    simpa using demoBankSchedule_calls (hcalls ht')

end OnlineBanking
