import OnlineBanking.Library.Plays
import OnlineBanking.Attempts
import OnlineBanking.ChallengeAnswers
import OnlineBanking.Repetition

set_option autoImplicit false

/-! A payment that takes the detour over a step-up challenge does what it would have done without
it. -/

namespace OnlineBanking

open Library

def World.wait (elapsed : ℕ) (w : World) : World := { w with now := w.now + elapsed }

/-- A call by itself: before each of its actions nothing happens but that time passes. -/
def alone {α : Type} (moves : List (Inputs × ℕ)) (p : Service α) (w : World) : Service α × World :=
  p.play (moves.map fun m => (m.1, World.wait m.2)) w

lemma wait_wait {w : World} {m n : ℕ} : (w.wait m).wait n = w.wait (m + n) := by
  simp [World.wait, Nat.add_assoc]

def Waits (w u : World) : Prop := ∃ n, u = w.wait n

section Alone

variable {α : Type} {moves : List (Inputs × ℕ)} {p : Service α} {w : World} {r : Except Failure α}

lemma waits_of_mem {m : Inputs × (World → World)}
    (hm : m ∈ moves.map fun m => (m.1, World.wait m.2)) (u : World) :
    Waits u (m.2 u) := by
  obtain ⟨⟨i, n⟩, _, rfl⟩ := List.mem_map.mp hm
  exact ⟨n, rfl⟩

lemma alone_meets {Q : Except Failure α → World → Prop} (hp : p.Plays Waits Q w)
    (hdone : (alone moves p w).1 = .done r) : Q r (alone moves p w).2 :=
  hp.play (fun _ hm u => waits_of_mem hm u) hdone

@[simp] lemma alone_nil : alone [] p w = (p, w) := rfl

@[simp] lemma alone_done : alone moves (.done r) w = (.done r, w) := Prog.play_done

end Alone

/-- After an answer that asks for a challenge: the database is as before, the checks have let the
request through, and Redis holds it until the challenge expires. -/
structure Raised (db : Db) (userId : Uuid) (request : PaymentRequest)
    (idempotencyKey challengeId otp : String) (w : World) : Prop where
  db : w.db = db
  accepted : Payment.Accepted ⟨userId, request, trim idempotencyKey⟩
  stored : ∀ now, w.redis.get (stepUpKey userId challengeId) now =
    if now < w.now + stepUpTtl then some ⟨userId, request, trim idempotencyKey, otp⟩ else none

section Challenge

variable (db : Db) (userId : Uuid) (request : PaymentRequest) (idempotencyKey : String)

def Raises {α : Type} (r : Except Failure α) (w : World) : Prop :=
  ∀ e challengeId, r = .error e → e.challengeId = some challengeId →
    ∃ otp, Raised db userId request idempotencyKey challengeId otp w

variable {db userId request idempotencyKey} {α β : Type} {w : World}

lemma raises_of_throws {p : Service α} (hp : p.Throws Unchallenged) :
    p.Plays Waits (Raises db userId request idempotencyKey) w := by
  apply hp.plays.mono
  intro r u hr e challengeId he hid
  rw [hr e he] at hid
  cases hid

variable (db userId request idempotencyKey) in
/-- A check before the payment: it leaves the database alone, and raises a challenge at most. -/
def Checks (r : Except Failure α) (w : World) : Prop :=
  w.db = db ∧ Raises db userId request idempotencyKey r w

lemma Checks.raises {r : Except Failure α} (h : Checks db userId request idempotencyKey r w) :
    Raises db userId request idempotencyKey r w := h.2

lemma checks_of_throws {p : Service α} (hkeeps : p.Plays Waits (fun _ u => u.db = db) w)
    (hp : p.Throws Unchallenged) :
    p.Plays Waits (Checks db userId request idempotencyKey) w := hkeeps.and (raises_of_throws hp)

lemma checks_bind {x : Service α} {f : α → Service β} {Q : Except Failure β → World → Prop}
    (hx : x.Plays Waits (Checks db userId request idempotencyKey) w)
    (hf : ∀ a u, u.db = db → (f a).Plays Waits Q u)
    (hQ : ∀ e u, Checks db userId request idempotencyKey (.error e : Except Failure β) u →
      Q (.error e) u) :
    (x >>= f).Plays Waits Q w := by
  apply Prog.plays_bind
  apply hx.mono
  rintro r u ⟨hdb, hr⟩
  refine ⟨fun a _ => hf a u hdb, fun e he => hQ e u ⟨hdb, ?_⟩⟩
  intro e' challengeId he' hid
  obtain rfl := Except.error.inj he'
  exact hr e challengeId he hid

lemma checks_throw {e : Failure} (hdb : w.db = db) (he : Unchallenged e) :
    (throw e : Service α).Plays Waits (Checks db userId request idempotencyKey) w :=
  checks_of_throws hdb (Prog.throws_throw he)

lemma checks_pure {a : α} (hdb : w.db = db) :
    (pure a : Service α).Plays Waits (Checks db userId request idempotencyKey) w :=
  checks_of_throws hdb Prog.throws_pure

lemma checks_read {l : Statement} {f : ℕ → Db → α} (hdb : w.db = db) :
    (Service.read l f).Plays Waits (Checks db userId request idempotencyKey) w := by
  apply checks_of_throws _ Service.throws_statement
  apply Prog.plays_atomic
  rintro _ ⟨n, rfl⟩ i
  cases i.fault l with
  | some e => exact hdb
  | none => exact hdb

lemma checks_requireVerified {message : String} (hdb : w.db = db) :
    (requireVerified userId message).Plays Waits (Checks db userId request idempotencyKey) w := by
  apply checks_bind (checks_read hdb) _ fun _ _ h => h
  intro found u hu
  cases found with
  | none => exact checks_throw hu (show Unchallenged (.forbidden _ _) from rfl)
  | some profile =>
    dsimp only
    split
    · exact checks_throw hu (show Unchallenged (.forbidden _ _) from rfl)
    · exact checks_pure hu

lemma plays_redisSet (hdb : w.db = db)
    (haccepted : Payment.Accepted ⟨userId, request, trim idempotencyKey⟩) :
    (redisSet userId request (trim idempotencyKey)).Plays Waits (fun r u => u.db = db ∧
      (∀ e, r = .error e → Unchallenged e) ∧
      ∀ challengeId, r = .ok challengeId →
          ∃ otp, Raised db userId request idempotencyKey challengeId otp u) w := by
  apply Prog.plays_atomic
  rintro _ ⟨n, rfl⟩ i
  cases hf : i.fault .redisSet with
  | some f =>
    refine ⟨hdb, fun e he => ?_, fun challengeId h => ?_⟩
    · obtain rfl := Except.error.inj he
      rfl
    · cases h
  | none =>
    refine ⟨hdb, fun e he => ?_, fun challengeId h => ?_⟩
    · cases he
    · obtain rfl := Except.ok.inj h
      exact ⟨i.otp, hdb, haccepted, fun now => Expiring.get_set_self⟩

lemma checks_mockFraudCheck {amount : ℚ} (hdb : w.db = db)
    (haccepted : Payment.Accepted ⟨userId, request, trim idempotencyKey⟩) :
    (runMockFraudCheck userId (trim idempotencyKey) amount request).Plays Waits
      (Checks db userId request idempotencyKey) w := by
  unfold runMockFraudCheck
  split
  · apply checks_bind (checks_read hdb) _ fun _ _ h => h
    intro existing u hu
    split
    · exact checks_pure hu
    · apply Prog.plays_bind
      apply (plays_redisSet hu haccepted).mono
      rintro r v ⟨hdb, hthrows, hraised⟩
      refine ⟨fun challengeId hid => ⟨hdb, ?_⟩, fun e he => ⟨hdb, ?_⟩⟩
      · intro e id he hid'
        obtain rfl := Except.error.inj he
        obtain rfl := Option.some.inj hid'
        exact hraised challengeId hid
      · intro e' id he' hid
        obtain rfl := Except.error.inj he'
        rw [hthrows e he] at hid
        cases hid
  · exact checks_pure hdb

lemma raises_rejectIf {cond : Bool} {failure : Failure} {f : Unit → Service β}
    (hfailure : Unchallenged failure)
    (hf : cond = false → (f ()).Plays Waits (Raises db userId request idempotencyKey) w) :
    (rejectIf cond failure >>= f).Plays Waits (Raises db userId request idempotencyKey) w := by
  cases cond with
  | true => exact raises_of_throws (Prog.throws_throw hfailure)
  | false => exact hf rfl

lemma raises_pay {endpoint : Endpoint β} (hdb : w.db = db)
    (hpre : Unchallenged endpoint.precheckFailure) (hpost : Unchallenged endpoint.postcheckFailure)
    (hexhausted : Unchallenged endpoint.exhausted)
    (hexecute : ∀ profileId, (endpoint.execute profileId).Throws Unchallenged)
    (hdistinct : endpoint.precheck = false →
      ∀ dto, request = .internalTransfer dto → dto.sourceAccountId ≠ dto.destinationAccountId) :
    (pay userId request idempotencyKey false endpoint).Plays Waits
    (Raises db userId request idempotencyKey) w := by
  apply raises_rejectIf (show Unchallenged (.badRequest _) from rfl)
  intro hkey
  apply checks_bind (checks_requireVerified hdb) _ fun _ _ h => h.raises
  intro profile u hu
  apply raises_rejectIf hpre
  intro hprecheck
  apply raises_rejectIf (show Unchallenged (.badRequest _) from rfl)
  intro hcurrency
  apply raises_rejectIf hpost
  intro _
  have haccepted : Payment.Accepted ⟨userId, request, trim idempotencyKey⟩ :=
    ⟨by simpa using hkey, by simpa using hcurrency, hdistinct hprecheck⟩
  apply checks_bind (checks_mockFraudCheck hu haccepted) _ fun _ _ h => h.raises
  intro _ v _
  exact raises_of_throws (Service.throws_retrying hexhausted
    (Service.throws_transaction (hexecute profile.id)) _)

lemma raises_answer {endpoint : Service (ServiceResult β)} {body : β → PaymentBody}
    (h : endpoint.Plays Waits (Raises db userId request idempotencyKey) w) :
    Prog.Plays Waits (Raises db userId request idempotencyKey)
      (do return (← endpoint).map body) w := by
  apply Prog.plays_bind
  apply h.mono
  intro r u hr
  refine ⟨fun a _ => raises_of_throws Prog.throws_pure, fun e he => ?_⟩
  intro e' challengeId he' hid
  obtain rfl := Except.error.inj he'
  exact hr e challengeId he hid

variable {sha256 : String → String}

attribute [local irreducible] Prog.Plays in
theorem raises_runRequest (hdb : w.db = db) :
    (runRequest sha256 userId request idempotencyKey false).Plays Waits
    (Raises db userId request idempotencyKey) w := by
  cases request with
  | internalTransfer dto =>
    have h : (transfer sha256 userId dto idempotencyKey false).Plays Waits
        (Raises db userId (.internalTransfer dto) idempotencyKey) w := by
      refine raises_pay hdb rfl rfl rfl (fun _ => Tx.throws_executeTransferTx)
        fun hpre dto' hdto => ?_
      obtain rfl := PaymentRequest.internalTransfer.inj hdto
      simpa using hpre
    exact raises_answer h
  | beneficiaryTransfer dto =>
    have h : (transferToBeneficiary sha256 userId dto idempotencyKey false).Plays Waits
        (Raises db userId (.beneficiaryTransfer dto) idempotencyKey) w :=
      raises_pay hdb rfl rfl rfl (fun _ => Tx.throws_executeBeneficiaryTransferTx)
        fun _ dto' hdto => by cases hdto
    exact raises_answer h
  | merchantPayment dto =>
    have h : (payMerchant sha256 userId dto idempotencyKey false).Plays Waits
        (Raises db userId (.merchantPayment dto) idempotencyKey) w :=
      raises_pay hdb rfl rfl rfl (fun _ => Tx.throws_executeMerchantPaymentTx)
        fun _ dto' hdto => by cases hdto
    exact raises_answer h

end Challenge

section Confirmation

variable {sha256 : String → String} {userId : Uuid} {request : PaymentRequest}
    {idempotencyKey challengeId : String}
variable {challenge : StepUpChallenge} {w : World}

lemma alone_confirmStepUp {otp : String} {i : Inputs} {n : ℕ} {moves : List (Inputs × ℕ)} :
    alone ((i, n) :: moves) (confirmStepUp sha256 userId challengeId otp) w =
      match i.fault .redisGet, w.redis.get (stepUpKey userId challengeId) (w.now + n) with
      | some e, _ => (.done (.error (.error e.code)), w.wait n)
      | none, none => (.done (.error (.badRequest "Challenge expired or not found")), w.wait n)
      | none, some stored =>
        if stored.otp ≠ otp then (.done (.error (.badRequest "Invalid OTP")), w.wait n)
        else alone moves (do
          redisDel userId challengeId
          runRequest sha256 userId stored.request stored.idempotencyKey true) (w.wait n) := by
  unfold alone confirmStepUp redisGet
  rw [List.map_cons, Prog.play_atomic_bind]
  have hredis : (w.wait n).redis.get (stepUpKey userId challengeId) (w.wait n).now =
      w.redis.get (stepUpKey userId challengeId) (w.now + n) := rfl
  cases hfault : i.fault .redisGet with
  | some e => rfl
  | none =>
    simp only [hredis]
    cases hget : w.redis.get (stepUpKey userId challengeId) (w.now + n) with
    | none => exact Prog.play_done
    | some stored =>
      have hotp : stored.toJson.strField "otp" = some stored.otp := rfl
      simp only [hotp, storedPayload_toJson, ne_eq, Option.some.injEq, ite_not]
      split
      · rfl
      · exact Prog.play_done

lemma alone_redisDel {p : Service (ServiceResult PaymentBody)} {i : Inputs} {n : ℕ}
    {moves : List (Inputs × ℕ)} (hfault : i.fault .redisDel = none) :
    alone ((i, n) :: moves) (do redisDel userId challengeId; p) w =
      alone moves p { w.wait n with redis := w.redis.del (stepUpKey userId challengeId) } := by
  unfold alone redisDel
  rw [List.map_cons, Prog.play_atomic_bind]
  simp only [hfault]
  rfl

def attempted (sha256 : String → String) (userId : Uuid) (challengeId : String) :
    List (String × List (Inputs × ℕ)) → World → World
  | [], w => w
  | (otp, moves) :: later, w =>
    attempted sha256 userId challengeId later
      (alone moves (confirmStepUp sha256 userId challengeId otp) w).2

lemma wrong_attempt {otp : String} (moves : List (Inputs × ℕ)) (hwrong : ∀ now stored,
      w.redis.get (stepUpKey userId challengeId) now = some stored → stored.otp ≠ otp) :
    Waits w (alone moves (confirmStepUp sha256 userId challengeId otp) w).2 := by
  cases moves with
  | nil => exact ⟨0, rfl⟩
  | cons m moves =>
    obtain ⟨i, n⟩ := m
    refine ⟨n, ?_⟩
    rw [alone_confirmStepUp]
    cases i.fault .redisGet with
    | some e => rfl
    | none =>
      cases hget : w.redis.get (stepUpKey userId challengeId) (w.now + n) with
      | none => rfl
      | some stored =>
        dsimp only
        rw [if_pos (hwrong _ stored hget)]

lemma wrong_attempts {attempts : List (String × List (Inputs × ℕ))}
    (hwrong : ∀ a ∈ attempts, ∀ now stored,
      w.redis.get (stepUpKey userId challengeId) now = some stored → stored.otp ≠ a.1) :
    Waits w (attempted sha256 userId challengeId attempts w) := by
  induction attempts generalizing w with
  | nil => exact ⟨0, rfl⟩
  | cons a attempts ih =>
    obtain ⟨n, hn⟩ : Waits w (alone a.2 (confirmStepUp sha256 userId challengeId a.1) w).2 :=
      wrong_attempt a.2 (hwrong a List.mem_cons_self)
    obtain ⟨m, hm⟩ := ih (w := w.wait n) fun b hb => hwrong b (List.mem_cons_of_mem a hb)
    refine ⟨n + m, ?_⟩
    simp only [attempted, hn, hm, wait_wait]

lemma runRequest_trim {skipFraudCheck : Bool} :
    runRequest sha256 userId request (trim idempotencyKey) skipFraudCheck =
      runRequest sha256 userId request idempotencyKey skipFraudCheck := by
  cases request with
  | internalTransfer dto => simp only [runRequest, transfer, pay, trim_trim]
  | beneficiaryTransfer dto => simp only [runRequest, transferToBeneficiary, pay, trim_trim]
  | merchantPayment dto => simp only [runRequest, payMerchant, pay, trim_trim]

lemma right_attempt {otp : String} {i₁ i₂ : Inputs} {n₁ n₂ : ℕ} {moves : List (Inputs × ℕ)}
    (hget : w.redis.get (stepUpKey userId challengeId) (w.now + n₁) =
      some ⟨userId, request, trim idempotencyKey, otp⟩)
    (hread : i₁.fault .redisGet = none) (hdel : i₂.fault .redisDel = none) :
    alone ((i₁, n₁) :: (i₂, n₂) :: moves) (confirmStepUp sha256 userId challengeId otp) w =
      alone moves (runRequest sha256 userId request idempotencyKey true)
        { w.wait (n₁ + n₂) with redis := w.redis.del (stepUpKey userId challengeId) } := by
  rw [alone_confirmStepUp, hread, hget]
  simp only [ne_eq, not_true_eq_false, ↓reduceIte, runRequest_trim]
  rw [alone_redisDel hdel, wait_wait]
  rfl

end Confirmation

section Direct

variable {α : Type}

def BesidesRedis (w w' : World) : Prop := w'.db = w.db ∧ w'.now = w.now

abbrev Heedless (p : Service α) : Prop := p.Alike (fun i i' => i' = i) BesidesRedis

lemma heedless_statement {l : Statement}
    {body : Inputs → Instant → Db → Except PrismaError (α × Db)} :
    Heedless (Service.statement l body) := by
  apply Prog.alike_atomic
  rintro i _ w w' rfl ⟨hdb, hnow⟩
  rw [hdb, hnow]
  split
  · exact ⟨rfl, ⟨hdb, hnow⟩, rfl⟩
  · split
    · exact ⟨rfl, ⟨hdb, hnow⟩, rfl⟩
    · exact ⟨rfl, ⟨rfl, rfl⟩, rfl⟩

lemma heedless_transaction {callback : Tx α} {log : α → List Transaction → List Event} :
    Heedless (Service.transaction callback log) := by
  apply Prog.alike_atomic
  rintro i _ w w' rfl ⟨hdb, hnow⟩
  rw [hdb, hnow]
  exact ⟨rfl, ⟨rfl, rfl⟩, rfl⟩

lemma heedless_requireVerified {userId : Uuid} {message : String} :
    Heedless (requireVerified userId message) := by
  apply Prog.alike_bind heedless_statement
  intro found
  split
  · exact Prog.alike_throw
  · split
    · exact Prog.alike_throw
    · exact Prog.alike_pure

lemma heedless_pay {β : Type} {userId : Uuid} {request : PaymentRequest} {idempotencyKey : String}
    {endpoint : Endpoint β} : Heedless (pay userId request idempotencyKey true endpoint) := by
  apply Prog.alike_bind alike_rejectIf
  intro _
  apply Prog.alike_bind heedless_requireVerified
  intro profile
  apply Prog.alike_bind alike_rejectIf
  intro _
  apply Prog.alike_bind alike_rejectIf
  intro _
  apply Prog.alike_bind alike_rejectIf
  intro _
  exact alike_retrying heedless_transaction _

attribute [local irreducible] Prog.Alike in
theorem heedless_runRequest {sha256 : String → String} {userId : Uuid} {request : PaymentRequest}
    {idempotencyKey : String} : Heedless
    (runRequest sha256 userId request idempotencyKey true) := by
  cases request with
  | internalTransfer dto =>
    have h : Heedless (transfer sha256 userId dto idempotencyKey true) := heedless_pay
    exact Prog.alike_bind h fun _ => Prog.alike_pure
  | beneficiaryTransfer dto =>
    have h : Heedless (transferToBeneficiary sha256 userId dto idempotencyKey true) := heedless_pay
    exact Prog.alike_bind h fun _ => Prog.alike_pure
  | merchantPayment dto =>
    have h : Heedless (payMerchant sha256 userId dto idempotencyKey true) := heedless_pay
    exact Prog.alike_bind h fun _ => Prog.alike_pure

lemma Heedless.alone {p : Service α} (hp : Heedless p) (moves : List (Inputs × ℕ)) {w w' : World}
    (h : BesidesRedis w w') :
    (alone moves p w').1 = (alone moves p w).1 ∧ BesidesRedis (alone moves p w).2
    (alone moves p w').2 := by
  have hothers : ∀ m ∈ moves.map (fun m => (m.1, World.wait m.2)), ∀ u u', BesidesRedis u u' →
      BesidesRedis (m.2 u) (m.2 u') := by
    rintro m hm u u' ⟨hdb, hnow⟩
    obtain ⟨⟨i, n⟩, _, rfl⟩ := List.mem_map.mp hm
    exact ⟨hdb, congrArg (· + n) hnow⟩
  have hplay := Prog.Alike.play (f := id) hp (fun _ _ => rfl) hothers h
  have hsame : ∀ ms : List (Inputs × (World → World)), ms.map (fun m => (id m.1, m.2)) = ms :=
    List.map_id
  rw [hsame] at hplay
  exact hplay

end Direct

section Executed

variable {sha256 : String → String} {userId : Uuid} {request : PaymentRequest}
    {idempotencyKey : String} {w : World}

variable (sha256) in
def Kept (payment : Payment) (body : PaymentBody) (db : Db) : Prop :=
  db.Answers sha256 payment body ∧
    parsePayload payment.request.type (some body.toJson) = some body ∧
    db.Verified payment.userId

lemma Attempt.kept {i : TxInputs} {db : Db} {payment : Payment} {result : ServiceResult PaymentBody}
    {s : Session Db Notification} (h : Attempt i db payment (payment.request.hash sha256) result s)
    (hverified : db.Verified payment.userId) (hcreated : result.httpStatus = 201) :
    Kept sha256 payment result.body s.db := by
  cases h with
  | replayed _ _ _ _ _ ok _ => simp [ok] at hcreated
  | posted p applied pays _ _ =>
    obtain ⟨k, hk, stores⟩ := pays.key
    have hm : k ∈ s.db.idempotencyKeys.rows := by simp [applied.idempotencyKeys, hk]
    have hkey : (k.userId, k.key) = (payment.userId, payment.key) :=
      Prod.ext stores.userId stores.key
    refine ⟨⟨k, Table.findAlt_eq_some.mpr ⟨hm, congrArg some hkey⟩, stores⟩, pays.readable, ?_⟩
    simpa only [Db.Verified, applied.customerProfiles] using hverified

lemma Kept.addNotifications {payment : Payment} {body : PaymentBody} {db : Db}
    (h : Kept sha256 payment body db) (ns : List Notification) :
    Kept sha256 payment body (db.addNotifications ns) := by
  simpa [Kept, Db.Answers, Db.Verified] using h

def SameDb (s s' : State) : Prop := s'.world.db = s.world.db

def Profiled (userId : Uuid) (profile : CustomerProfile) (db : Db) : Prop :=
  profile ∈ db.customerProfiles.rows ∧ profile.userId = userId ∧ profile.kycStatus = .verified

lemma way_sameDb (I : Db → Prop) :
    Way SameDb (fun _ _ => True) (fun _ _ _ => True) 0 fun s => I s.world.db where
  refl _ := rfl
  trans _ _ _ h h' := h'.trans h
  rely _ _ h hr := hr ▸ h
  aside _ _ _ _ h _ hdb _ := ⟨trivial, hdb ▸ h⟩

lemma kept_runRequest {skipFraudCheck : Bool} {s : State} :
    (runRequest sha256 userId request idempotencyKey skipFraudCheck).Safe SameDb (fun _ _ => True)
      (fun _ _ _ => True) 0 (fun r u => ∀ result, r = .ok result → result.httpStatus = 201 →
        Kept sha256 ⟨userId, request, trim idempotencyKey⟩ result.body u.world.db) s := by
  refine (way_sameDb fun _ => True).runRequest
    (J := fun profile u => Profiled userId profile u.world.db)
    (fun profile => way_sameDb (Profiled userId profile)) trivial
    (fun profile u _ hfound hverified => ?_) (fun _ _ _ h => by cases h) ?_
  · obtain ⟨hm, huser⟩ := Table.findAlt_eq_some.mp hfound
    exact ⟨hm, Option.some.inj huser, hverified⟩
  · intro β callback body profile u hcallback hu
    refine Prog.safe_atomic fun v hv i _ => ⟨trivial, ?_⟩
    have hrow : Profiled userId profile v.world.db := by
      have hsame : v.world.db = u.world.db := hv
      exact ⟨hsame ▸ hu.1, hu.2⟩
    have hends := hcallback.ends { i with now := v.world.now } v.world.db
      ⟨profile, hrow.1, hrow.2.1, rfl⟩
    dsimp only
    rcases Callback.transact_cases (.prisma .transactionAborted)
        (fun i => i.commitFault.map .prisma) hends
      (fun _ _ h => by cases h <;> simp_all) with
      ⟨a, session, hattempt, _, ho⟩ | ⟨_, session, _, _, _, ho⟩ | ⟨_, session, _, ho⟩
    · rw [ho]
      intro x hx y hy result hresult hcreated
      obtain rfl := Except.ok.inj hresult
      have hsame : y.world.db = session.db.addNotifications session.outside := Eq.trans hy hx
      rw [hsame]
      exact (hattempt.kept ⟨profile, hrow⟩ hcreated).addNotifications _
    · rw [ho]
      intro x hx
      have hsame : x.world.db = v.world.db.addNotifications session.outside := hx
      show Profiled userId profile x.world.db
      simpa [Profiled, hsame] using hrow
    · rw [ho]
      intro x hx
      have hsame : x.world.db = v.world.db.addNotifications session.outside := hx
      show Profiled userId profile x.world.db
      simpa [Profiled, hsame] using hrow

lemma executed_kept {skipFraudCheck : Bool} {moves : List (Inputs × ℕ)}
    {result : ServiceResult PaymentBody}
    (hdone : (alone moves (runRequest sha256 userId request idempotencyKey skipFraudCheck) w).1 =
      .done (.ok result))
    (hcreated : result.httpStatus = 201) :
    Kept sha256 ⟨userId, request, trim idempotencyKey⟩ result.body
      (alone moves (runRequest sha256 userId request idempotencyKey skipFraudCheck) w).2.db := by
  have hothers : ∀ m ∈ moves.map (fun m => (m.1, World.wait m.2)), ∀ u : State, True →
      SameDb u { u with world := m.2 u.world } ∧ True := by
    intro m hm u _
    obtain ⟨n, hn⟩ := waits_of_mem hm u.world
    refine ⟨?_, trivial⟩
    show (m.2 u.world).db = u.world.db
    rw [hn]
    rfl
  obtain ⟨u, hu, _, hsafe⟩ := (kept_runRequest (s := ⟨w, []⟩)).play (I := fun _ => True) trivial
    (fun _ _ _ _ => trivial) (fun _ _ _ _ _ => trivial) hothers
  have hworld : u.world = (alone moves
      (runRequest sha256 userId request idempotencyKey skipFraudCheck) w).2 := hu
  unfold alone at hdone
  rw [hdone] at hsafe
  rw [← hworld]
  exact hsafe u rfl result rfl hcreated

/-- Whoever sends the request again gets the answer of the body and posts nothing; only a failing
statement keeps the answer back. -/
def AnswersAgain (sha256 : String → String) (userId : Uuid) (request : PaymentRequest)
    (idempotencyKey : String) (body : PaymentBody) (w : World) : Prop :=
  (∀ moves, let again := alone moves (runRequest sha256 userId request idempotencyKey false) w
    again.2.db = w.db ∧ (∀ result, again.1 = .done (.ok result) → result = ⟨200, body⟩) ∧
      ((∀ m ∈ moves, m.1.Faultless) → ∀ e, again.1 ≠ .done (.error e))) ∧
  ∀ moves : ℕ → Inputs × ℕ, (∀ n, (moves n).1.Faultless) → ∃ n,
    (alone ((List.range n).map moves) (runRequest sha256 userId request idempotencyKey false) w).1 =
      .done (.ok ⟨200, body⟩)

lemma rely_wait {t : ℕ} {s : State} {n : ℕ} : Rely t s { s with world := s.world.wait n } :=
  ⟨⟨List.prefix_refl _, fun p hp => ⟨p, hp, rfl, rfl⟩, fun _ hk => hk⟩, rfl⟩

lemma Repeats.alone {α : Type} {payment : Payment} {body : PaymentBody} {undisturbed : Prop}
    {p : Service α} {Q : α → Prop} (hp : Repeats sha256 payment body undisturbed 0 p Q)
    (answers : w.db.Answers sha256 payment body) {moves : List (Inputs × ℕ)}
    (hmoves : undisturbed → (∀ m ∈ moves, m.1.Faultless) ∧ w.db.Verified payment.userId) :
    (alone moves p w).2.db = w.db ∧ (∀ a, (alone moves p w).1 = .done (.ok a) → Q a) ∧
      ∀ e, (alone moves p w).1 = .done (.error e) → ¬ undisturbed := by
  let I : State → Prop := fun s => s.world.db = w.db
  have hothers : ∀ m ∈ moves.map (fun m => (m.1, World.wait m.2)), ∀ u : State, I u →
      Rely 0 u { u with world := m.2 u.world } ∧ I { u with world := m.2 u.world } := by
    intro m hm u hu
    obtain ⟨n, hn⟩ := waits_of_mem hm u.world
    rw [hn]
    exact ⟨rely_wait, hu⟩
  have hgiven : ∀ m ∈ moves.map (fun m => (m.1, World.wait m.2)), ∀ u : State, I u → undisturbed →
      m.1.Faultless ∧ u.world.db.Verified payment.userId := by
    intro m hm u hu hundisturbed
    obtain ⟨m', hm', rfl⟩ := List.mem_map.mp hm
    have hsame : u.world.db = w.db := hu
    exact ⟨(hmoves hundisturbed).1 m' hm', hsame ▸ (hmoves hundisturbed).2⟩
  obtain ⟨u, hu, hdb, hsafe⟩ := (hp.safe ⟨w, []⟩ answers).play (I := I) rfl hgiven
    (fun _ _ v hu (hv : v.world = _) => (congrArg World.db hv).trans hu) hothers
  refine ⟨?_, fun a ha => ?_, fun e he => ?_⟩
  · exact (congrArg World.db hu).symm.trans hdb
  · unfold OnlineBanking.alone at ha
    rw [ha] at hsafe
    exact (hsafe u (Rely.refl 0 u)).2
  · unfold OnlineBanking.alone at he
    rw [he] at hsafe
    exact (hsafe u (Rely.refl 0 u)).2

theorem answersAgain_of_kept {body : PaymentBody}
    (accepted : Payment.Accepted ⟨userId, request, trim idempotencyKey⟩)
    (h : Kept sha256 ⟨userId, request, trim idempotencyKey⟩ body w.db) :
    AnswersAgain sha256 userId request idempotencyKey body w := by
  obtain ⟨answers, readable, verified⟩ := h
  have hrepeats : ∀ undisturbed, Repeats sha256 ⟨userId, request, trim idempotencyKey⟩ body
      undisturbed 0
      (runRequest sha256 userId request idempotencyKey false) (· = ⟨200, body⟩) :=
    fun _ => repeats_runRequest rfl accepted readable
  have hmoves : ∀ moves,
      let again := alone moves (runRequest sha256 userId request idempotencyKey false) w
      again.2.db = w.db ∧ (∀ result, again.1 = .done (.ok result) → result = ⟨200, body⟩) ∧
        ((∀ m ∈ moves, m.1.Faultless) → ∀ e, again.1 ≠ .done (.error e)) := by
    intro moves
    dsimp only
    have hquiet : False → (∀ m ∈ moves, m.1.Faultless) ∧ w.db.Verified userId := False.elim
    obtain ⟨hdb, hok, _⟩ := (hrepeats False).alone answers hquiet
    refine ⟨hdb, hok, fun hfaultless e he => ?_⟩
    exact ((hrepeats True).alone answers fun _ => ⟨hfaultless, verified⟩).2.2 e he trivial
  refine ⟨hmoves, fun moves hfaultless => ?_⟩
  obtain ⟨n, r, hr⟩ := Prog.play_ends (runRequest sha256 userId request idempotencyKey false)
    (fun k => ((moves k).1, World.wait (moves k).2)) w
  have hdone : (alone ((List.range n).map moves)
      (runRequest sha256 userId request idempotencyKey false) w).1 =
      .done r := by
    unfold alone
    rw [List.map_map]
    exact hr
  obtain ⟨_, hok, herror⟩ := hmoves ((List.range n).map moves)
  refine ⟨n, ?_⟩
  cases r with
  | ok result =>
    obtain rfl := hok result hdone
    exact hdone
  | error e =>
    refine absurd hdone (herror (fun m hm => ?_) e)
    obtain ⟨k, _, rfl⟩ := List.mem_map.mp hm
    exact hfaultless k

end Executed

section Detour

variable {sha256 : String → String} {userId : Uuid} {request : PaymentRequest}
    {idempotencyKey challengeId : String}
variable {expiresInSeconds : ℕ} {moves : List (Inputs × ℕ)} {w : World}

/-- A payment that is answered with a challenge is done by the right OTP as it would have been done
at that time without the check, whatever wrong ones were tried before; and then it answers again as
any other. -/
theorem detour_preserves
    (hraised : (alone moves (runRequest sha256 userId request idempotencyKey false) w).1 =
      .done (.error (.stepUpRequired challengeId expiresInSeconds))) :
    let raised := (alone moves (runRequest sha256 userId request idempotencyKey false) w).2
    ∃ otp, raised.redis.get (stepUpKey userId challengeId) raised.now =
        some ⟨userId, request, trim idempotencyKey, otp⟩ ∧
      ∀ attempts, (∀ a ∈ attempts, a.1 ≠ otp) →
        ∀ (i₁ i₂ : Inputs) (n₁ n₂ : ℕ) (rest : List (Inputs × ℕ)),
        i₁.fault .redisGet = none → i₂.fault .redisDel = none →
        let tried := attempted sha256 userId challengeId attempts raised
        tried.now + n₁ < raised.now + stepUpTtl →
        let detour := alone ((i₁, n₁) :: (i₂, n₂) :: rest)
          (confirmStepUp sha256 userId challengeId otp) tried
        let direct := alone rest (runRequest sha256 userId request idempotencyKey true)
          { w with now := tried.now + (n₁ + n₂) }
        detour.1 = direct.1 ∧ BesidesRedis direct.2 detour.2 ∧
          ∀ result, detour.1 = .done (.ok result) → result.httpStatus = 201 →
            AnswersAgain sha256 userId request idempotencyKey result.body detour.2 := by
  intro raised
  obtain ⟨otp, hdb, accepted, hstored⟩ :
      ∃ otp, Raised w.db userId request idempotencyKey challengeId otp raised :=
    alone_meets (raises_runRequest rfl) hraised _ challengeId rfl rfl
  refine ⟨otp, ?_, ?_⟩
  · rw [hstored, if_pos (Nat.lt_add_of_pos_right (by decide))]
  · intro attempts hwrong i₁ i₂ n₁ n₂ rest hread hdel tried htime detour direct
    obtain ⟨n, htried⟩ : Waits raised tried := by
      apply wrong_attempts
      intro a ha now stored hget
      rw [hstored] at hget
      split at hget
      · obtain rfl := Option.some.inj hget
        exact (hwrong a ha).symm
      · cases hget
    have hget : tried.redis.get (stepUpKey userId challengeId) (tried.now + n₁) =
        some ⟨userId, request, trim idempotencyKey, otp⟩ := by
      have hredis : tried.redis = raised.redis := by
        rw [htried]
        rfl
      rw [hredis, hstored, if_pos htime]
    have hdetour : detour = alone rest (runRequest sha256 userId request idempotencyKey true)
        { tried.wait (n₁ + n₂) with redis := tried.redis.del (stepUpKey userId challengeId) } :=
      right_attempt hget hread hdel
    have hworld : BesidesRedis { w with now := tried.now + (n₁ + n₂) }
        { tried.wait (n₁ + n₂) with redis := tried.redis.del (stepUpKey userId challengeId) } :=
      ⟨by
        rw [htried]
        exact hdb, rfl⟩
    obtain ⟨hsame, hbesides⟩ := heedless_runRequest.alone rest hworld
    refine ⟨hdetour ▸ hsame, hdetour ▸ hbesides, fun result hdone hcreated => ?_⟩
    apply answersAgain_of_kept accepted
    rw [hdetour] at hdone ⊢
    exact executed_kept hdone hcreated

end Detour

def demoMoney : PaymentRequest := .internalTransfer (demoTransfer .large)

def demoRaised : Service (ServiceResult PaymentBody) × World :=
  alone [(demoInputs 0, 0), (demoInputs 1, 5), (demoInputs 2, 7)]
    (runRequest demoSha256 (demoIds .user) demoMoney "k2" false) demoWorld

def demoTried : World :=
  attempted demoSha256 (demoIds .user) "k3x9" [("000000", [(demoInputs 3, 900)])] demoRaised.2

def demoDetour : Service (ServiceResult PaymentBody) × World :=
  alone [(demoInputs 4, 0), (demoInputs 5, 0), (demoInputs 6, 0), (demoInputs 7, 0)]
    (confirmStepUp demoSha256 (demoIds .user) "k3x9" "123456") demoTried

lemma demoRaised_challenge : (match demoRaised.1 with
    | .done (.error (.stepUpRequired challengeId expiresInSeconds)) =>
      some (challengeId, expiresInSeconds)
    | _ => none) = some ("k3x9", 300) := by decide +kernel

lemma demoDetour_created : (match demoDetour.1 with
    | .done (.ok result) => some result.httpStatus
    | _ => none) = some 201 := by decide +kernel

lemma demoRaised_otp : (demoRaised.2.redis.get (stepUpKey (demoIds .user) "k3x9")
      demoRaised.2.now).map
    StepUpChallenge.otp = some "123456" := by decide +kernel

theorem demo_detour_preserves : ∃ result, demoDetour.1 = .done (.ok result) ∧
    result.httpStatus = 201 ∧
    let direct := alone [(demoInputs 6, 0), (demoInputs 7, 0)]
      (runRequest demoSha256 (demoIds .user) demoMoney "k2" true)
        { demoWorld with now := demoTried.now + (0 + 0) }
    demoDetour.1 = direct.1 ∧ BesidesRedis direct.2 demoDetour.2 ∧
      AnswersAgain demoSha256 (demoIds .user) demoMoney "k2" result.body demoDetour.2 := by
  have hraised : demoRaised.1 = .done (.error (.stepUpRequired "k3x9" 300)) := by
    have h := demoRaised_challenge
    split at h
    · rename_i challengeId expiresInSeconds hdone
      obtain ⟨rfl, rfl⟩ := Prod.mk.injEq .. ▸ Option.some.inj h
      exact hdone
    · cases h
  obtain ⟨result, hdone, hcreated⟩ : ∃ result, demoDetour.1 = .done (.ok result) ∧
      result.httpStatus = 201 := by
    have h := demoDetour_created
    split at h
    · rename_i result hdone
      exact ⟨result, hdone, Option.some.inj h⟩
    · cases h
  obtain ⟨otp, hget, hpreserves⟩ := detour_preserves hraised
  obtain rfl : otp = "123456" := by
    have h : demoRaised.2.redis.get (stepUpKey (demoIds .user) "k3x9") demoRaised.2.now = some _ :=
      hget
    simpa [h] using demoRaised_otp
  obtain ⟨hsame, hbesides, hagain⟩ := hpreserves [("000000", [(demoInputs 3, 900)])] (by decide)
    (demoInputs 4) (demoInputs 5) 0 0 [(demoInputs 6, 0), (demoInputs 7, 0)]
      rfl rfl (by decide +kernel)
  exact ⟨result, hdone, hcreated, hsame, hbesides, hagain result hdone hcreated⟩

end OnlineBanking
