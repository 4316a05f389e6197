import OnlineBanking.Replay

set_option autoImplicit false

/-! A payment repeated under its completed key gets its first answer again, whatever has happened
since and whatever goes on beside it, and leaves the world as it is. -/

namespace OnlineBanking

open Library Callback

def Inputs.Faultless (i : Inputs) : Prop := (∀ l, i.fault l = none) ∧ i.commitFault = none

def Db.Verified (db : Db) (userId : Uuid) : Prop :=
  ∃ p ∈ db.customerProfiles.rows, p.userId = userId ∧ p.kycStatus = .verified

def Db.Answers (sha256 : String → String) (payment : Payment) (body : PaymentBody)
    (db : Db) : Prop :=
  ∃ row, db.idempotencyKeys.findAlt (payment.userId, payment.key) = some row ∧
    row.Stores payment (payment.request.hash sha256) body

lemma Db.Answers.of_keys {sha256 : String → String} {payment : Payment} {body : PaymentBody}
    {db db' : Db} (h : db.Answers sha256 payment body)
    (hkeys : ∀ k ∈ db.idempotencyKeys.rows, k ∈ db'.idempotencyKeys.rows) :
    db'.Answers sha256 payment body := by
  obtain ⟨row, hfound, stores⟩ := h
  obtain ⟨hm, hkey⟩ := Table.findAlt_eq_some.mp hfound
  exact ⟨row, Table.findAlt_eq_some.mpr ⟨hkeys row hm, hkey⟩, stores⟩

section Callbacks

variable {sha256 : String → String} {i : TxInputs} {db : Db} {userId : Uuid} {key currency : String}
variable {body : PaymentBody}

/-- The callback gives the stored answer and writes nothing; only a fault keeps it from that. -/
def Repeated {β : Type} (i : TxInputs) (db : Db) (wrap : β → PaymentBody) (body : PaymentBody)
    (x : Tx (ServiceResult β)) : Prop :=
  Ends i x { db } (fun r s => r.map wrap = ⟨200, body⟩ ∧ s = { db })
    (fun _ s => s.outside = [] ∧ ∃ l, i.fault l ≠ none)

lemma repeated_findKey {β : Type} {wrap : β → PaymentBody} {payment : Payment}
    {f : Option IdempotencyKey → Tx (ServiceResult β)} (h : db.Answers sha256 payment body)
    (hf : ∀ row, row.Stores payment (payment.request.hash sha256) body →
      Repeated i db wrap body (f (some row))) :
    Repeated i db wrap body (findKey payment.userId payment.key .keyFind >>= f) := by
  obtain ⟨row, hfound, stores⟩ := h
  unfold findKey
  refine ends_bind (Tx.ends_read rfl (fun _ hfault => ⟨rfl, _, hfault⟩)
    fun existing hexisting => ?_)
  rw [hexisting, hfound]
  exact hf row stores

lemma repeated_replayKey {β : Type} {wrap : β → PaymentBody} {parse : Option Json → Option β}
    {payment : Payment} {row : IdempotencyKey} {requestHash : String}
    (stores : row.Stores payment requestHash body)
    (hparse : (parse (some body.toJson)).map wrap = some body) :
    Repeated i db wrap body (replayKey row requestHash parse) := by
  obtain ⟨parsed, hparsed, rfl⟩ := Option.map_eq_some_iff.mp hparse
  simp only [replayKey, stores.requestHash, ne_eq, not_true_eq_false, ↓reduceIte, stores.completed,
    stores.responsePayload, hparsed]
  exact ends_pure ⟨rfl, rfl⟩

lemma executeTransferTx_repeated {dto : CreateTransferDto}
    (h : db.Answers sha256 ⟨userId, .internalTransfer dto, key⟩ body)
    (hread : parsePayload .internalTransfer (some body.toJson) = some body) :
    Repeated i db .transfer body
      (executeTransferTx userId dto key currency
          (PaymentRequest.hash sha256 (.internalTransfer dto))) := by
  refine repeated_findKey h fun row stores => ?_
  obtain ⟨parsed, hparsed, rfl⟩ := Option.map_eq_some_iff.mp hread
  simp only [stores.completed, ↓reduceIte, replayCompletedTransfer, hashDiffers, stores.requestHash,
    stores.responsePayload, hparsed]
  simp only [ne_eq, not_true_eq_false, decide_false, Bool.and_false, Bool.false_eq_true, ↓reduceIte]
  exact ends_pure ⟨rfl, rfl⟩

lemma executeBeneficiaryTransferTx_repeated {profileId : Uuid} {dto : TransferToBeneficiaryDto}
    (h : db.Answers sha256 ⟨userId, .beneficiaryTransfer dto, key⟩ body)
    (hread : parsePayload .beneficiaryTransfer (some body.toJson) = some body) :
    Repeated i db .beneficiary body (executeBeneficiaryTransferTx userId profileId dto key currency
      (PaymentRequest.hash sha256 (.beneficiaryTransfer dto))) :=
  repeated_findKey h fun _ stores => repeated_replayKey stores hread

lemma executeMerchantPaymentTx_repeated {profileId : Uuid} {dto : PayMerchantDto}
    (h : db.Answers sha256 ⟨userId, .merchantPayment dto, key⟩ body)
    (hread : parsePayload .merchantPayment (some body.toJson) = some body) :
    Repeated i db .merchant body (executeMerchantPaymentTx userId profileId dto key currency
      (PaymentRequest.hash sha256 (.merchantPayment dto))) :=
  repeated_findKey h fun _ stores => repeated_replayKey stores hread

end Callbacks

section Repeats

variable (sha256 : String → String) (payment : Payment) (body : PaymentBody)
    (undisturbed : Prop) (t : ℕ)

/-- Started when the answer is stored, the program changes nothing and returns in `Q`; it fails
only when it was disturbed: by a fault, or by the user not being verified. -/
structure Repeats {α : Type} (x : Service α) (Q : α → Prop) : Prop where
  safe : ∀ s : State, s.world.db.Answers sha256 payment body →
    Prog.Safe (Rely t)
      (fun i (s : State) => undisturbed → i.Faultless ∧ s.world.db.Verified payment.userId)
      (fun _ s s' => s'.world = s.world) t
      (Ended (fun a s => s.world.db.Answers sha256 payment body ∧ Q a)
        (fun s => s.world.db.Answers sha256 payment body ∧ ¬ undisturbed)) x s

variable {sha256 payment body undisturbed t} {α β : Type} {Q : α → Prop}

lemma Db.Answers.rely {s s' : State} (h : s.world.db.Answers sha256 payment body)
    (hs : Rely t s s') :
    s'.world.db.Answers sha256 payment body := h.of_keys hs.keys

lemma repeats_pure {a : α} (h : Q a) :
    Repeats sha256 payment body undisturbed t (pure a) Q :=
  ⟨fun _ hs => Prog.safe_pure fun _ hr => ⟨hs.rely hr, h⟩⟩

lemma repeats_throw {e : Failure} (h : ¬ undisturbed) :
    Repeats sha256 payment body undisturbed t (throw e : Service α) Q :=
  ⟨fun _ hs => Prog.safe_throw fun _ hr => ⟨hs.rely hr, h⟩⟩

lemma repeats_bind {x : Service α} {f : α → Service β} {R : β → Prop}
    (h : Repeats sha256 payment body undisturbed t x Q)
    (hf : ∀ a, Q a → Repeats sha256 payment body undisturbed t (f a) R) :
    Repeats sha256 payment body undisturbed t (x >>= f) R := by
  refine ⟨fun s hs => Prog.safe_bind (Rely.refl t) ((h.safe s hs).mono fun r u hr => ?_)⟩
  cases r with
  | ok a => exact (hf a hr.2).safe u hr.1
  | error e => exact fun v hv => ⟨Db.Answers.rely hr.1 hv, hr.2⟩

lemma repeats_atomic {a : Inputs → World → Except Failure α × World × List Event}
    (h : ∀ i w, w.db.Answers sha256 payment body →
      (undisturbed → i.Faultless ∧ w.db.Verified payment.userId) → (a i w).2.1 = w ∧
        (∀ x, (a i w).1 = .ok x → Q x) ∧ ∀ e, (a i w).1 = .error e → ¬ undisturbed) :
    Repeats sha256 payment body undisturbed t (Prog.atomic a) Q := by
  refine ⟨fun s hs => Prog.safe_atomic fun u hu i hi => ?_⟩
  have hanswers := hs.rely hu
  obtain ⟨hworld, hok, herror⟩ := h i u.world hanswers hi
  refine ⟨hworld, fun v hv => ?_⟩
  have hv' : v.world.db.Answers sha256 payment body := by
    refine Db.Answers.rely ?_ hv
    simpa [Shared.after, hworld] using hanswers
  cases hr : (a i u.world).1 with
  | ok x => exact ⟨hv', hok x hr⟩
  | error e => exact ⟨hv', herror e hr⟩

lemma repeats_read {l : Statement} {f : ℕ → Db → α}
    (h : ∀ n db, db.Answers sha256 payment body → (undisturbed → db.Verified payment.userId) →
      Q (f n db)) :
    Repeats sha256 payment body undisturbed t (Service.read l f) Q := by
  refine repeats_atomic fun i w hw hi => ?_
  cases hf : i.fault l with
  | some e =>
    refine ⟨rfl, by simp, fun _ _ hu => ?_⟩
    simp [(hi hu).1.1 l] at hf
  | none =>
    refine ⟨rfl, ?_, by simp⟩
    rintro _ ⟨⟩
    exact h _ _ hw fun hu => (hi hu).2

lemma repeats_transaction {callback : Tx α} {log : α → List Transaction → List Event}
    (h : ∀ i db, db.Answers sha256 payment body →
      Ends i callback { db } (fun a s => Q a ∧ s = { db }) (fun _ s => s.outside = [] ∧
        ∃ l, i.fault l ≠ none)) :
    Repeats sha256 payment body undisturbed t (Service.transaction callback log) Q := by
  refine repeats_atomic fun i w hw hi => ?_
  dsimp only
  rcases transact_cases (.prisma .transactionAborted) (fun i => i.commitFault.map .prisma)
    (h { i with now := w.now } w.db hw) (fun a s hs => by rw [hs.2]) with
    ⟨a, s, ⟨ha, hs⟩, _, ho⟩ | ⟨a, s, e, ⟨_, hs⟩, hfault, ho⟩ | ⟨e, s, ⟨hs, l, hfault⟩, ho⟩
  · rw [ho, hs]
    refine ⟨rfl, ?_, by simp⟩
    rintro _ ⟨⟩
    exact ha
  · rw [ho, hs]
    refine ⟨rfl, by simp, fun _ _ hu => ?_⟩
    simp [(hi hu).1.2] at hfault
  · rw [ho, hs]
    exact ⟨rfl, by simp, fun _ _ hu => hfault ((hi hu).1.1 l)⟩

lemma repeats_retrying {exhausted : Failure} {attempt : Service α} (n : ℕ)
    (h : Repeats sha256 payment body undisturbed t attempt Q) (hn : n = 0 → ¬ undisturbed) :
    Repeats sha256 payment body undisturbed t (Service.retrying exhausted attempt n) Q := by
  induction n with
  | zero => exact repeats_throw (hn rfl)
  | succ n ih =>
    refine ⟨fun s hs => Prog.safe_finish ((h.safe s hs).mono fun r u hr => ?_) (Rely.refl t)⟩
    cases r with
    | ok a => exact fun v hv => ⟨Db.Answers.rely hr.1 hv, hr.2⟩
    | error e =>
      dsimp only
      split
      · exact (ih fun _ => hr.2).safe u hr.1
      · exact (repeats_throw hr.2).safe u hr.1

lemma repeats_rejectIf {cond : Bool} {failure : Failure} (h : cond = false) :
    Repeats sha256 payment body undisturbed t (rejectIf cond failure) fun _ => True := by
  subst h
  exact repeats_pure trivial

lemma repeats_requireVerified {message : String} :
    Repeats sha256 payment body undisturbed t (requireVerified payment.userId message) fun _ =>
      True := by
  unfold requireVerified
  refine repeats_bind (Q := fun found : Option CustomerProfile => undisturbed →
    ∃ p, found = some p ∧ p.kycStatus = .verified) (repeats_read fun _ db _ hdb hu => ?_)
      fun found h => ?_
  · obtain ⟨p, hp, huser, hstatus⟩ := hdb hu
    exact ⟨p, Table.findAlt_eq_some.mpr ⟨hp, congrArg some huser⟩, hstatus⟩
  · split
    · refine repeats_throw fun hu => ?_
      obtain ⟨p, hp, _⟩ := h hu
      cases hp
    · rename_i profile
      split
      · rename_i hstatus
        refine repeats_throw fun hu => ?_
        obtain ⟨p, hp, hverified⟩ := h hu
        exact hstatus (Option.some.inj hp ▸ hverified)
      · exact repeats_pure trivial

lemma repeats_mockFraudCheck (amount : ℚ) (request : PaymentRequest) :
    Repeats sha256 payment body undisturbed t
      (runMockFraudCheck payment.userId payment.key amount request) fun _ => True := by
  unfold runMockFraudCheck
  split
  · refine repeats_bind (Q := fun existing =>
      Option.map IdempotencyKey.status existing = some .completed)
      (repeats_read fun _ db hdb _ => ?_) fun existing h => ?_
    · obtain ⟨row, hfound, stores⟩ := hdb
      simp [hfound, stores.completed]
    · rw [if_pos h]
      exact repeats_pure trivial
  · exact repeats_pure trivial

lemma repeats_pay {userId : Uuid} {request : PaymentRequest} {idempotencyKey : String}
    {endpoint : Endpoint β} (hpayment : payment = ⟨userId, request, trim idempotencyKey⟩)
    (accepted : payment.Accepted) (hpre : endpoint.precheck = false)
    (hpost : endpoint.postcheck = false) (hends : ∀ profileId i db, db.Answers sha256 payment body →
      Repeated i db endpoint.body body (endpoint.execute profileId)) :
    Repeats sha256 payment body undisturbed t (pay userId request idempotencyKey false endpoint)
      fun r => r.map endpoint.body = ⟨200, body⟩ := by
  subst hpayment
  have hkey : trim idempotencyKey ≠ "" := accepted.key
  have hcurrency : request.currency = "RON" := accepted.currency
  unfold pay
  refine repeats_bind (repeats_rejectIf (by simpa using hkey)) fun _ _ => ?_
  refine repeats_bind repeats_requireVerified fun profile _ => ?_
  refine repeats_bind (repeats_rejectIf hpre) fun _ _ => ?_
  refine repeats_bind (repeats_rejectIf (by simpa using hcurrency)) fun _ _ => ?_
  refine repeats_bind (repeats_rejectIf hpost) fun _ _ => ?_
  refine repeats_bind (repeats_mockFraudCheck _ request) fun _ _ => ?_
  exact repeats_retrying _ (repeats_transaction (hends profile.id)) (by simp [serializableRetries])

theorem repeats_runRequest {userId : Uuid} {request : PaymentRequest} {idempotencyKey : String}
    (hpayment : payment = ⟨userId, request, trim idempotencyKey⟩) (accepted : payment.Accepted)
    (hread : parsePayload request.type (some body.toJson) = some body) :
    Repeats sha256 payment body undisturbed t
      (runRequest sha256 userId request idempotencyKey false)
      (· = ⟨200, body⟩) := by
  cases request with
  | internalTransfer dto =>
    have hdistinct : dto.sourceAccountId ≠ dto.destinationAccountId :=
      accepted.distinct dto (by rw [hpayment])
    refine repeats_bind (repeats_pay hpayment accepted (by simpa using hdistinct) rfl
      fun _ i db h => ?_) fun r hr => repeats_pure hr
    exact executeTransferTx_repeated (hpayment ▸ h) hread
  | beneficiaryTransfer dto =>
    refine repeats_bind (repeats_pay hpayment accepted rfl rfl fun _ i db h => ?_)
      fun r hr => repeats_pure hr
    exact executeBeneficiaryTransferTx_repeated (hpayment ▸ h) hread
  | merchantPayment dto =>
    refine repeats_bind (repeats_pay hpayment accepted rfl (by simpa using dto.amount_pos)
      fun _ i db h => ?_) fun r hr => repeats_pure hr
    exact executeMerchantPaymentTx_repeated (hpayment ▸ h) hread

theorem repeats_handle {userId : Uuid} {request : PaymentRequest} {idempotencyKey : String}
    (hpayment : payment = ⟨userId, request, trim idempotencyKey⟩) (accepted : payment.Accepted)
    (hread : parsePayload request.type (some body.toJson) = some body) :
    Repeats sha256 payment body undisturbed t
      (handle sha256 (.payment userId request idempotencyKey))
      (· = .payment ⟨200, body⟩) := by
  refine repeats_bind (repeats_runRequest hpayment accepted hread) fun r hr => ?_
  rw [hr]
  exact repeats_pure rfl

end Repeats

section Runs

variable {sha256 : String → String} {w : World} {schedule : List Action} {b : Bank}

def Undisturbed (t : ℕ) (userId : Uuid) (b : Bank) (a : Action) : Prop :=
  ∀ i, a = .act t i → i.Faultless ∧ b.db.Verified userId

/-- Whoever repeats a payment that was answered with 201 changes nothing, and gets the same body
with 200 and nothing else, unless the call is disturbed. -/
def RepliesComplete (sha256 : String → String) (b : Bank) : Prop :=
  ∀ t₀ payment body inserted, (t₀, Event.committed payment ⟨201, body⟩ inserted) ∈ b.trace →
    ∀ t request idempotencyKey later b',
      SamePayment ⟨payment.userId, request, trim idempotencyKey⟩ payment →
      Bank.run sha256 b (.spawn t (.payment payment.userId request idempotencyKey) :: later) =
        some b' →
      (∀ s s', (s, s') ∈ Config.transitions (handle sha256) environment t b
          (.spawn t (.payment payment.userId request idempotencyKey) :: later) →
            s'.world = s.world) ∧
        ∃ program, b'.threads t = some (.payment payment.userId request idempotencyKey, program) ∧
          (∀ response, program = .done (.ok response) → response = .payment ⟨200, body⟩) ∧
          (Config.Meets (handle sha256) environment (Undisturbed t payment.userId) b
              (.spawn t (.payment payment.userId request idempotencyKey) :: later) →
            (∀ failure, program ≠ .done (.error failure)) ∧
            ∀ inputs : ℕ → Inputs, (∀ n, (inputs n).Faultless) → b'.db.Verified payment.userId →
              ∃ n b'', Bank.run sha256 b' (Label.solo t inputs n) = some b'' ∧
                b''.threads t = some (.payment payment.userId request idempotencyKey,
                  .done (.ok (.payment ⟨200, body⟩))))

lemma Payment.Accepted.same {payment payment' : Payment} (h : payment.Accepted)
    (hs : SamePayment payment' payment) : payment'.Accepted := by
  refine ⟨hs.key ▸ h.key, (congrArg NormalizedRequest.currency hs.request).trans h.currency, ?_⟩
  intro dto hdto
  have hcounterparty := congrArg NormalizedRequest.counterpartyId hs.request
  have hsource := congrArg NormalizedRequest.sourceAccountId hs.request
  have htype := hs.type
  rw [hdto] at hcounterparty hsource htype
  cases hr : payment.request with
  | internalTransfer dto' =>
    rw [hr] at hcounterparty hsource
    exact fun heq => h.distinct dto' hr (hsource.symm.trans (heq.trans hcounterparty))
  | beneficiaryTransfer dto' =>
    rw [hr] at htype
    cases htype
  | merchantPayment dto' =>
    rw [hr] at htype
    cases htype

theorem run_repliesComplete (hsha : CollisionFree sha256) (hempty : w.db.idempotencyKeys.rows = [])
    (h : Bank.run sha256 (Bank.start w) schedule = some b) : RepliesComplete sha256 b := by
  intro t₀ payment body inserted he t request idempotencyKey later b' hsame hrun
  let D := discipline sha256
  let call : Call := .payment payment.userId request idempotencyKey
  obtain ⟨accepted, readable, answers⟩ : payment.Accepted ∧
      parsePayload payment.request.type (some body.toJson) = some body ∧
      b.db.Answers sha256 ⟨payment.userId, request, trim idempotencyKey⟩ body := by
    cases (run_keysLogged hsha hempty h).events _ _ _ _ he with
    | first transaction row accepted created mem stores readable =>
      refine ⟨accepted, readable, row, ?_, hsame.hash ▸ stores.same hsame.symm⟩
      have hkey : (row.userId, row.key) = (payment.userId, trim idempotencyKey) :=
        Prod.ext stores.userId (stores.key.trans hsame.key.symm)
      exact Table.findAlt_eq_some.mpr ⟨mem, congrArg some hkey⟩
    | again _ _ _ _ ok _ => cases ok
  have hrepeats : ∀ undisturbed, Repeats sha256 ⟨payment.userId, request, trim idempotencyKey⟩ body
      undisturbed t (handle sha256 call) (· = .payment ⟨200, body⟩) :=
    fun undisturbed => repeats_handle rfl (accepted.same hsame) (hsame.type ▸ readable)
  obtain ⟨b₁, hspawn, hlater⟩ := Option.bind_eq_some_iff.mp hrun
  obtain ⟨hshared, hthread⟩ := Discipline.spawned hspawn
  have holds₁ := D.step_holds (holds_of_start h) hspawn
  have htransitions : Config.transitions (handle sha256) environment t b (.spawn t call :: later) =
      Config.transitions (handle sha256) environment t b₁ later := by
    simp [Config.transitions, show Config.step (handle sha256) environment b (.spawn t call) =
      some b₁ from hspawn,
      Label.actor]
  have hfollow := fun (undisturbed : Prop) hmeets =>
    D.thread_run holds₁ hthread ((hrepeats undisturbed).safe b₁.shared (hshared ▸ answers))
      hmeets hlater
  obtain ⟨⟨program, hprogram, hsafe⟩, hsteps⟩ := hfollow False
    (Discipline.Meets.mono (fun _ _ _ _ _ hfalse => hfalse.elim) (Discipline.meets_true b₁ later))
  refine ⟨fun s s' hs => ?_, program, hprogram, ?_, fun hmeets => ?_⟩
  · obtain ⟨_, hworld⟩ := hsteps s s' (htransitions ▸ hs)
    exact hworld
  · rintro response rfl
    exact (hsafe b'.shared (Rely.refl t _)).2
  · obtain ⟨⟨program', hprogram', hsafe'⟩, _⟩ := hfollow True
      (Discipline.Meets.mono (fun _ _ hu i hi _ => hu i hi) (hmeets.2 b₁ hspawn))
    obtain rfl : program' = program := by simpa [hprogram] using hprogram'.symm
    refine ⟨?_, fun inputs hinputs hverified => ?_⟩
    · rintro failure rfl
      exact (hsafe' b'.shared (Rely.refl t _)).2 trivial
    · obtain ⟨n, b'', r, hsolo, hdone, hend⟩ := D.solo_ends inputs
        (I := fun s => s.world.db.Verified payment.userId) (fun k _ hs _ => ⟨hinputs k, hs⟩)
        (fun _ s s' (hw : s'.world = s.world) hs => by rwa [hw]) hverified hprogram hsafe'
      cases r with
      | ok response => exact ⟨n, b'', hsolo, hend.2 ▸ hdone⟩
      | error failure => exact absurd trivial hend.2

theorem replay_sound_and_complete (hsha : CollisionFree sha256)
    (hempty : w.db.idempotencyKeys.rows = [])
    (h : Bank.run sha256 (Bank.start w) schedule = some b) :
    RepliesSound b ∧ RejectsDiffering sha256 w schedule b ∧ RepliesComplete sha256 b :=
  ⟨run_repliesSound hsha hempty h, run_rejectsDiffering hsha hempty h,
    run_repliesComplete hsha hempty h⟩

lemma demoDigests_injective : ∀ d ∈ demoDigests, ∀ d' ∈ demoDigests, d.2 = d'.2 → d.1 = d'.1 := by
  decide +kernel

lemma demoDigests_head : ∀ d ∈ demoDigests, d.2 ≠ "" ∧ d.2.toList.head? ≠ some 'x' := by
  decide +kernel

lemma demoSha256_cases (s : String) :
    (s, demoSha256 s) ∈ demoDigests ∨ demoSha256 s = "x" ++ s := by
  unfold demoSha256
  cases h : demoDigests.lookup s with
  | none => exact .inr rfl
  | some d =>
    obtain ⟨before, after, hsplit, _⟩ := List.lookup_eq_some_iff.mp h
    exact .inl (by simp [hsplit])

lemma demoSha256_collisionFree : CollisionFree demoSha256 where
  injective := by
    have hx : ∀ s, ("x" ++ s).toList.head? = some 'x' := fun s => by simp
    intro a b h
    rcases demoSha256_cases a with ha | ha <;> rcases demoSha256_cases b with hb | hb
    · exact demoDigests_injective _ ha _ hb h
    · exact absurd (h ▸ hb ▸ hx b) (demoDigests_head _ ha).2
    · exact absurd (h ▸ ha ▸ hx a) (demoDigests_head _ hb).2
    · simpa [ha, hb] using h
  nonempty s := by
    rcases demoSha256_cases s with hs | hs
    · exact (demoDigests_head _ hs).1
    · simp [hs]

lemma demoReplayRun_statuses :
    demoReplayRun.map (fun b => (b.status 0, b.status 1)) = some (some 201, some 200) := by
      decide +kernel

theorem demo_replay_sound_and_complete : ∃ b, demoReplayRun = some b ∧ b.status 0 = some 201 ∧
    b.status 1 = some 200 ∧ RepliesSound b ∧
      RejectsDiffering demoSha256 demoWorld (demoSchedule ++ demoRepetition) b ∧
        RepliesComplete demoSha256 b := by
  obtain ⟨b, hb, hstatuses⟩ := Option.map_eq_some_iff.mp demoReplayRun_statuses
  have hempty : demoWorld.db.idempotencyKeys.rows.length = 0 := by decide +kernel
  exact ⟨b, hb, (Prod.mk.injEq .. ▸ hstatuses).1, (Prod.mk.injEq .. ▸ hstatuses).2,
    replay_sound_and_complete demoSha256_collisionFree (List.eq_nil_of_length_eq_zero hempty) hb⟩

end Runs

end OnlineBanking
