import OnlineBanking.Log
import OnlineBanking.Library.Failures

set_option autoImplicit false

/-! A call that answers with a step-up challenge has stored this challenge. -/

namespace OnlineBanking

open Library

def Failure.challengeId : Failure → Option String
  | .stepUpRequired challengeId _ => some challengeId
  | _ => none

def Unchallenged (e : Failure) : Prop := e.challengeId = none

namespace Tx

open Callback

variable {α : Type}

lemma throws_statement {l : Statement} {body : TxInputs → Db → Except PrismaError (α × Db)} :
    Throws Unchallenged (statement l body) := by
  apply Callback.throws_statement
  · intro i e he
    obtain ⟨f, _, rfl⟩ := Option.map_eq_some_iff.mp he
    rfl
  · rfl
  · intro i db e he
    cases hb : body i db with
    | ok p => simp [hb, Except.mapError] at he
    | error f =>
      obtain rfl : .prisma f = e := by simpa [hb, Except.mapError] using he
      rfl

lemma throws_findKey {userId : Uuid} {idempotencyKey : String} {l : Statement} :
    Throws Unchallenged (findKey userId idempotencyKey l) := by
  unfold findKey
  exact throws_statement

lemma throws_findOwnAccount {accountId : String} {customerId : Uuid} {l : Statement} :
    Throws Unchallenged (findOwnAccount l accountId customerId) := by
  unfold findOwnAccount
  exact throws_statement

lemma throws_failKey {idemRow : IdempotencyKey} {failure : Failure} (h : Unchallenged failure) :
    Throws Unchallenged (failKey (α := α) idemRow failure) :=
  throws_bind throws_statement fun _ => throws_throw h

lemma throws_replayKey {existingKey : IdempotencyKey} {requestHash : String}
    {parse : Option Json → Option α} :
    Throws Unchallenged (replayKey existingKey requestHash parse) := by
  unfold replayKey
  split
  · exact throws_throw rfl
  · split
    · exact throws_pure
    · split
      · exact throws_throw rfl
      · exact throws_throw rfl

lemma throws_replayCompletedTransfer {row : IdempotencyKey} {requestHash : String} :
    Throws Unchallenged (replayCompletedTransfer row requestHash) := by
  unfold replayCompletedTransfer
  split
  · exact throws_throw rfl
  · split
    · exact throws_throw rfl
    · exact throws_pure

lemma throws_reserveTransferKey {userId : Uuid} {idempotencyKey requestHash : String} :
    Throws Unchallenged (reserveTransferKey userId idempotencyKey requestHash) := by
  refine throws_tryCatch (throws_bind throws_statement fun _ => throws_pure) fun err herr => ?_
  split
  · refine throws_bind throws_findKey fun found => ?_
    split
    · exact throws_throw rfl
    · split
      · exact throws_bind throws_replayCompletedTransfer fun _ => throws_pure
      · split
        · exact throws_throw rfl
        · exact throws_throw rfl
  · exact throws_throw herr

lemma throws_postTransfer {userId profileId : Uuid} {dto : CreateTransferDto}
    {idempotencyKey currency : String} {idemRow : IdempotencyKey} {source destination : Account} :
    Throws Unchallenged (postTransfer userId profileId dto idempotencyKey currency idemRow source
      destination) := by
  refine throws_bind throws_statement fun count => ?_
  split
  · exact throws_throw rfl
  · refine throws_bind throws_statement fun _ => throws_bind throws_input fun now => ?_
    refine throws_bind throws_statement fun txn => ?_
    refine throws_bind throws_statement fun _ => throws_bind throws_statement fun _ => ?_
    refine throws_bind throws_statement fun _ => throws_bind throws_emit fun _ => ?_
    exact throws_bind throws_statement fun _ => throws_pure

theorem throws_executeTransferTx {userId : Uuid} {dto : CreateTransferDto}
    {idempotencyKey currency requestHash : String} :
    Throws Unchallenged (executeTransferTx userId dto idempotencyKey currency requestHash) := by
  refine throws_bind throws_findKey fun found => ?_
  split
  · split
    · exact throws_replayCompletedTransfer
    · exact throws_throw rfl
  · refine throws_bind throws_reserveTransferKey fun reserved => ?_
    split
    · exact throws_pure
    · refine throws_bind throws_statement fun profile => ?_
      split
      · exact throws_throw rfl
      · refine throws_bind throws_findOwnAccount fun source =>
          throws_bind throws_findOwnAccount fun destination => ?_
        split
        · exact throws_throw rfl
        · exact throws_throw rfl
        · split
          · exact throws_throw rfl
          · exact throws_postTransfer

lemma throws_resolveDestination {beneficiary : Beneficiary} {currency : String} :
    Throws Unchallenged (resolveDestination beneficiary currency) := by
  refine throws_bind throws_statement fun matched => ?_
  split
  · exact throws_pure
  · refine throws_bind throws_statement fun external => ?_
    split
    · exact throws_throw rfl
    · exact throws_pure

lemma throws_notifyRecipient {userId : Uuid} {amount currency : String} {sender : CustomerProfile}
    {recipient : Option CustomerProfile} :
    Throws Unchallenged (notifyRecipient userId amount currency sender recipient) := by
  unfold notifyRecipient
  split
  · exact throws_pure
  · split
    · exact throws_emit
    · exact throws_pure

lemma throws_postBeneficiaryTransfer {userId profileId : Uuid} {dto : TransferToBeneficiaryDto}
    {currency : String} {idemRow : IdempotencyKey} {sourceAccount : Account}
    {sender : CustomerProfile} {beneficiary : Beneficiary} {destination : Account}
    {recipient : Option CustomerProfile} :
    Throws Unchallenged (postBeneficiaryTransfer userId profileId dto currency idemRow
      sourceAccount sender
      beneficiary destination recipient) := by
  refine throws_bind throws_statement fun count => ?_
  split
  · exact throws_failKey rfl
  · refine throws_bind throws_statement fun _ => throws_bind throws_statement fun transaction => ?_
    refine throws_bind throws_statement fun _ => throws_bind throws_statement fun _ => ?_
    refine throws_bind throws_input fun completedAt => ?_
    refine throws_bind throws_statement fun _ => throws_bind throws_statement fun _ => ?_
    exact throws_bind throws_emit fun _ => throws_bind throws_notifyRecipient fun _ => throws_pure

theorem throws_executeBeneficiaryTransferTx {userId profileId : Uuid}
    {dto : TransferToBeneficiaryDto} {idempotencyKey currency requestHash : String} :
    Throws Unchallenged
      (executeBeneficiaryTransferTx userId profileId dto idempotencyKey currency requestHash) := by
  refine throws_bind throws_findKey fun found => ?_
  split
  · exact throws_replayKey
  · refine throws_bind throws_statement fun idemRow => throws_bind throws_statement fun source => ?_
    split
    · exact throws_throw rfl
    · split
      · exact throws_failKey rfl
      · refine throws_bind throws_statement fun beneficiary => ?_
        split
        · exact throws_throw rfl
        · refine throws_bind throws_resolveDestination fun destination => ?_
          split
          split
          · exact throws_throw rfl
          · exact throws_postBeneficiaryTransfer

lemma throws_postMerchantPayment {userId profileId : Uuid} {dto : PayMerchantDto}
    {currency : String} {idemRow : IdempotencyKey} {sourceAccount : Account} {merchant : Merchant} :
    Throws Unchallenged (postMerchantPayment userId profileId dto currency idemRow sourceAccount
      merchant) := by
  refine throws_bind throws_statement fun count => ?_
  split
  · exact throws_failKey rfl
  · refine throws_bind throws_statement fun _ => throws_bind throws_input fun now => ?_
    refine throws_bind throws_statement fun transaction => ?_
    refine throws_bind throws_statement fun _ => throws_bind throws_statement fun _ => ?_
    refine throws_bind throws_statement fun _ => throws_bind throws_statement fun _ => ?_
    exact throws_bind throws_statement fun _ => throws_pure

theorem throws_executeMerchantPaymentTx {userId profileId : Uuid} {dto : PayMerchantDto}
    {idempotencyKey currency requestHash : String} :
    Throws Unchallenged (executeMerchantPaymentTx userId profileId dto idempotencyKey currency
      requestHash) := by
  refine throws_bind throws_findKey fun found => ?_
  split
  · exact throws_replayKey
  · refine throws_bind throws_statement fun idemRow => throws_bind throws_statement fun source => ?_
    split
    · exact throws_throw rfl
    · refine throws_bind throws_statement fun found => ?_
      split
      · exact throws_throw rfl
      · split
        · exact throws_throw rfl
        · split
          · exact throws_throw rfl
          · exact throws_postMerchantPayment

end Tx

namespace Service

variable {α : Type}

lemma throws_statement {l : Statement}
    {body : Inputs → Instant → Db → Except PrismaError (α × Db)} :
    (statement l body).Throws Unchallenged := by
  apply Prog.throws_atomic
  intro i w e he
  split at he
  · obtain rfl := Except.error.inj he
    rfl
  · split at he
    · obtain rfl := Except.error.inj he
      rfl
    · cases he

lemma throws_transaction {callback : Tx α} {log : α → List Transaction → List Event}
    (h : callback.Throws Unchallenged) : (transaction callback log).Throws Unchallenged := by
  apply Prog.throws_atomic
  intro i w e he
  have hcommit : ∀ (j : TxInputs) f, j.commitFault.map Failure.prisma = some f →
      Unchallenged f := by
    intro j f hf
    obtain ⟨g, _, rfl⟩ := Option.map_eq_some_iff.mp hf
    rfl
  exact h.transact (show Unchallenged (.prisma .transactionAborted) from rfl) hcommit he

lemma throws_retrying {exhausted : Failure} {attempt : Service α}
    (hexhausted : Unchallenged exhausted) (h : attempt.Throws Unchallenged) (n : ℕ) :
    (retrying exhausted attempt n).Throws Unchallenged := by
  induction n with
  | zero => exact Prog.throws_throw hexhausted
  | succ n ih =>
    refine Prog.throws_finish h (fun a => Prog.throws_pure) fun e he => ?_
    dsimp only
    split
    · exact ih
    · exact Prog.throws_throw he

end Service

def ChallengeLogged {α : Type} (t : ℕ) (userId : Uuid) (r : Except Failure α) (s : State) : Prop :=
  ∀ e challengeId, r = .error e → e.challengeId = some challengeId →
    ∃ challenge expiresAt, (t, Event.challengeStored userId challengeId challenge expiresAt) ∈
      s.trace

section Calls

variable {sha256 : String → String} {t : ℕ} {userId : Uuid} {α β : Type} {s s' : State}

lemma ChallengeLogged.rely {r : Except Failure α} (h : ChallengeLogged t userId r s)
    (hs : Rely t s s') :
    ChallengeLogged t userId r s' := by
  intro e id hr hid
  obtain ⟨challenge, expiresAt, hm⟩ := h e id hr hid
  exact ⟨challenge, expiresAt, hs.trace.subset hm⟩

variable (t userId) in
def LogsChallenge (x : Service α) (s : State) : Prop :=
  x.Safe (Rely t) (fun _ _ => True) (fun _ _ _ => True) t (ChallengeLogged t userId) s

lemma logsChallenge_of_throws {x : Service α} (h : x.Throws Unchallenged) :
    LogsChallenge t userId x s := by
  refine h.safe.mono fun r u hr e id he hid => ?_
  rw [hr e he] at hid
  cases hid

lemma logsChallenge_bind {x : Service α} {f : α → Service β} (hx : LogsChallenge t userId x s)
    (hf : ∀ a u, LogsChallenge t userId (f a) u) : LogsChallenge t userId (x >>= f) s := by
  refine Prog.safe_bind (Rely.refl t) (hx.mono fun r u hr => ?_)
  cases r with
  | ok a => exact hf a u
  | error e =>
    intro v hv e' id he hid
    obtain rfl := Except.error.inj he
    exact hr.rely hv e id rfl hid

lemma logsChallenge_redisSet {request : PaymentRequest} {idempotencyKey : String} :
    LogsChallenge t userId (do
      let challengeId ← redisSet userId request idempotencyKey
      throw (.stepUpRequired challengeId 300) : Service Unit) s := by
  have hstored : (redisSet userId request idempotencyKey).Safe (Rely t) (fun _ _ => True)
      (fun _ _ _ => True) t
      (fun r u => ChallengeLogged t userId r u ∧ ∀ id, r = .ok id →
        ∃ challenge expiresAt, (t, Event.challengeStored userId id challenge expiresAt) ∈ u.trace)
          s := by
    refine Prog.safe_atomic fun u hu i _ => ⟨trivial, fun v hv => ?_⟩
    cases hf : i.fault .redisSet with
    | some f =>
      refine ⟨fun e id he hid => ?_, fun id hid => ?_⟩
      · obtain rfl := Except.error.inj he
        cases hid
      · cases hid
    | none =>
      refine ⟨fun e id he hid => ?_, fun id hid => ?_⟩
      · cases he
      · obtain rfl := Except.ok.inj hid
        refine ⟨⟨userId, request, idempotencyKey, i.otp⟩, u.world.now + stepUpTtl,
          hv.trace.subset ?_⟩
        simp [hf, Shared.after]
  refine Prog.safe_bind (Rely.refl t) (hstored.mono fun r u hr => ?_)
  cases r with
  | error e =>
    intro v hv e' id he hid
    obtain rfl := Except.error.inj he
    exact hr.1.rely hv e id rfl hid
  | ok id =>
    refine Prog.safe_throw fun v hv e id' he hid => ?_
    obtain rfl := Except.error.inj he
    obtain rfl := Option.some.inj hid
    obtain ⟨challenge, expiresAt, hm⟩ := hr.2 id rfl
    exact ⟨challenge, expiresAt, hv.trace.subset hm⟩

lemma logsChallenge_mockFraudCheck {request : PaymentRequest} {idempotencyKey : String}
    {amount : ℚ} :
    LogsChallenge t userId (runMockFraudCheck userId idempotencyKey amount request) s := by
  unfold runMockFraudCheck
  split
  · refine logsChallenge_bind (logsChallenge_of_throws Service.throws_statement)
      fun existing u => ?_
    split
    · exact logsChallenge_of_throws Prog.throws_pure
    · exact logsChallenge_redisSet
  · exact logsChallenge_of_throws Prog.throws_pure

lemma logsChallenge_rejectIf {cond : Bool} {failure : Failure} (h : Unchallenged failure) :
    LogsChallenge t userId (rejectIf cond failure) s := by
  unfold rejectIf
  cases cond with
  | true => exact logsChallenge_of_throws (Prog.throws_throw h)
  | false => exact logsChallenge_of_throws Prog.throws_pure

lemma logsChallenge_requireVerified {message : String} :
    LogsChallenge t userId (requireVerified userId message) s := by
  refine logsChallenge_bind (logsChallenge_of_throws Service.throws_statement) fun found u => ?_
  cases found with
  | none => exact logsChallenge_of_throws (Prog.throws_throw rfl)
  | some profile =>
    dsimp only
    split
    · exact logsChallenge_of_throws (Prog.throws_throw rfl)
    · exact logsChallenge_of_throws Prog.throws_pure

lemma logsChallenge_pay {request : PaymentRequest} {idempotencyKey : String} {skipFraudCheck : Bool}
    {endpoint : Endpoint β} (hpre : Unchallenged endpoint.precheckFailure)
    (hpost : Unchallenged endpoint.postcheckFailure) (hexhausted : Unchallenged endpoint.exhausted)
    (hexecute : ∀ profileId, (endpoint.execute profileId).Throws Unchallenged) :
    LogsChallenge t userId (pay userId request idempotencyKey skipFraudCheck endpoint) s := by
  refine logsChallenge_bind (logsChallenge_rejectIf rfl) fun _ u => ?_
  refine logsChallenge_bind logsChallenge_requireVerified fun profile u => ?_
  refine logsChallenge_bind (logsChallenge_rejectIf hpre) fun _ u => ?_
  refine logsChallenge_bind (logsChallenge_rejectIf rfl) fun _ u => ?_
  refine logsChallenge_bind (logsChallenge_rejectIf hpost) fun _ u => ?_
  have hloop : ∀ v, LogsChallenge t userId (Service.retrying endpoint.exhausted
      (Service.transaction (endpoint.execute profile.id) fun result inserted =>
        [.committed ⟨userId, request, trim idempotencyKey⟩ (result.map endpoint.body) inserted])
      serializableRetries) v :=
    fun _ => logsChallenge_of_throws
      (Service.throws_retrying hexhausted (Service.throws_transaction (hexecute profile.id)) _)
  cases skipFraudCheck with
  | true => exact hloop u
  | false => exact logsChallenge_bind logsChallenge_mockFraudCheck fun _ v => hloop v

attribute [local irreducible] LogsChallenge in
lemma logsChallenge_runRequest {request : PaymentRequest} {idempotencyKey : String}
    {skipFraudCheck : Bool} :
    LogsChallenge t userId (runRequest sha256 userId request idempotencyKey skipFraudCheck) s := by
  cases request with
  | internalTransfer dto =>
    have h : LogsChallenge t userId (transfer sha256 userId dto idempotencyKey skipFraudCheck) s :=
      logsChallenge_pay rfl rfl rfl fun _ => Tx.throws_executeTransferTx
    exact logsChallenge_bind h fun _ _ => logsChallenge_of_throws Prog.throws_pure
  | beneficiaryTransfer dto =>
    have h : LogsChallenge t userId
        (transferToBeneficiary sha256 userId dto idempotencyKey skipFraudCheck) s :=
      logsChallenge_pay rfl rfl rfl fun _ => Tx.throws_executeBeneficiaryTransferTx
    exact logsChallenge_bind h fun _ _ => logsChallenge_of_throws Prog.throws_pure
  | merchantPayment dto =>
    have h : LogsChallenge t userId
        (payMerchant sha256 userId dto idempotencyKey skipFraudCheck) s :=
      logsChallenge_pay rfl rfl rfl fun _ => Tx.throws_executeMerchantPaymentTx
    exact logsChallenge_bind h fun _ _ => logsChallenge_of_throws Prog.throws_pure

end Calls

def challengeDiscipline (sha256 : String → String) :
    Discipline (E := Event) (handle sha256) environment :=
  (discipline sha256).ensure
    (fun t c r s => ∀ userId request idempotencyKey, c = .payment userId request idempotencyKey →
      ChallengeLogged t userId r s) fun t c s _ => by
    cases c with
    | payment userId request idempotencyKey =>
      have hsafe : LogsChallenge t userId
          (handle sha256 (.payment userId request idempotencyKey)) s :=
        logsChallenge_bind logsChallenge_runRequest fun _ _ =>
          logsChallenge_of_throws Prog.throws_pure
      refine hsafe.mono fun r u hr userId' request' key' hc => ?_
      obtain ⟨rfl, -, -⟩ := Call.payment.inj hc
      exact hr
    | _ => exact Prog.Safe.of_true (fun _ _ _ => trivial) fun _ _ _ _ _ hc => by cases hc

theorem challenge_of_answer {sha256 : String → String} {w : World}
    {schedule : List Action} {b : Bank} (h : Bank.run sha256 (Bank.start w) schedule = some b)
    {t : ℕ} {userId : Uuid} {request : PaymentRequest} {idempotencyKey : String} {e : Failure}
    {challengeId : String}
    (ht : b.threads t = some (.payment userId request idempotencyKey, .done (.error e)))
    (hid : e.challengeId = some challengeId) :
    ∃ challenge expiresAt, (t, Event.challengeStored userId challengeId challenge expiresAt) ∈
      b.trace ∧
      challenge.idempotencyKey = trim idempotencyKey := by
  let D := challengeDiscipline sha256
  obtain ⟨challenge, expiresAt, hm⟩ :=
    (D.post_of_done (D.holds_of_run (D.init_holds w) h) ht).2 userId request idempotencyKey rfl e
      challengeId rfl hid
  obtain ⟨call, program, ht', _, key, rfl, _, hkey⟩ := run_accounted h hm
  have hcall : Call.payment userId request idempotencyKey = .payment userId challenge.request key :=
    congrArg Prod.fst (Option.some.inj (ht.symm.trans ht'))
  obtain ⟨-, -, rfl⟩ := Call.payment.inj hcall
  exact ⟨challenge, expiresAt, hm, hkey⟩

end OnlineBanking
