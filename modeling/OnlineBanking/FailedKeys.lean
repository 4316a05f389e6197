import OnlineBanking.ChallengeAnswers
import OnlineBanking.PostingRecords
import OnlineBanking.SettlementFunds

set_option autoImplicit false

/-! A payment refused for want of funds marks its idempotency key as failed, and the refusal takes
the mark back with everything else that the transaction wrote. -/

namespace OnlineBanking

open Library Callback

def Failure.Shortage (e : Failure) : Prop :=
  e = .badRequest "Insufficient funds" ∨ e = .conflict "Insufficient funds or concurrent update"

lemma not_shortage_prisma (e : PrismaError) : ¬ (Failure.prisma e).Shortage := by
  simp [Failure.Shortage]

def Short (db : Db) (userId : Uuid) (key : String) (e : Failure)
    (s : Session Db Notification) : Prop :=
  e.Shortage → s.outside = [] ∧ db.idempotencyKeys.findAlt (userId, key) = none

section Callbacks

variable {i : TxInputs} {db : Db} {userId profileId : Uuid} {key requestHash : String}

variable (db userId key) in
lemma short_prisma (e : PrismaError) (s : Session Db Notification) :
    Short db userId key (.prisma e) s :=
  fun h => absurd h (not_shortage_prisma e)

lemma short_badRequest {message : String} {s : Session Db Notification}
    (h : message ≠ "Insufficient funds") :
    Short db userId key (.badRequest message) s := by
  rintro (heq | heq)
  · exact absurd (Failure.badRequest.inj heq) h
  · cases heq

lemma short_conflict {message : String} {s : Session Db Notification}
    (h : message ≠ "Insufficient funds or concurrent update") :
    Short db userId key (.conflict message) s := by
  rintro (heq | heq)
  · cases heq
  · exact absurd (Failure.conflict.inj heq) h

lemma failKey_short {α : Type} {idemRow : IdempotencyKey} {failure : Failure}
    {s : Session Db Notification} {Q : α → Session Db Notification → Prop} (ha : s.aborted = false)
    (hs : s.outside = []) (hkey : db.idempotencyKeys.findAlt (userId, key) = none) :
    Ends i (failKey idemRow failure) s Q (Short db userId key) :=
  failKey_ends ha fun _ _ hsame _ => ⟨hsame.trans hs, hkey⟩

lemma replayKey_short {β : Type} {row : IdempotencyKey} {parse : Option Json → Option β} :
    Ends i (replayKey row requestHash parse) { db } (fun _ s => s.aborted = false)
      (Short db userId key) := by
  unfold replayKey
  split
  · exact ends_throw (short_conflict (by decide))
  · split
    · exact ends_pure rfl
    · split
      · exact ends_throw (short_badRequest (by decide))
      · exact ends_throw (short_conflict (by decide))

lemma resolveDestination_short {beneficiary : Beneficiary} {currency : String}
    {s : Session Db Notification} (ha : s.aborted = false) :
    Ends i (resolveDestination beneficiary currency) s (fun _ s' => s' = s)
      (Short db userId key) := by
  have hp := short_prisma db userId key
  unfold resolveDestination
  refine ends_bind (Tx.ends_readWith ha (fun _ => hp _ _) (fun _ => ?_) fun account customer _ _ =>
    ends_pure rfl)
  refine ends_bind (Tx.ends_read ha (fun _ _ => hp _ _) fun found _ => ?_)
  cases found with
  | none => exact ends_throw (short_badRequest (by decide))
  | some account => exact ends_pure rfl

lemma postBeneficiaryTransfer_short {dto : TransferToBeneficiaryDto} {currency : String}
    {idemRow : IdempotencyKey} {source destination : Account} {sender : CustomerProfile}
    {beneficiary : Beneficiary} {recipient : Option CustomerProfile} {s : Session Db Notification}
    (ha : s.aborted = false) (hs : s.outside = [])
    (hkey : db.idempotencyKeys.findAlt (userId, key) = none) :
    Ends i (postBeneficiaryTransfer userId profileId dto currency idemRow source sender
      beneficiary destination
      recipient) s (fun _ s => s.aborted = false) (Short db userId key) := by
  have hp := short_prisma db userId key
  unfold postBeneficiaryTransfer
  apply ends_bind
  apply Tx.ends_updateMany ha (fun _ => hp _ _)
  split
  · exact failKey_short ha hs hkey
  · refine ends_bind (Tx.ends_update ha (fun _ _ => hp _ _) fun _ _ => ?_)
    refine ends_bind (Tx.ends_create ha (fun _ => hp _ _) fun txn _ _ _ => ?_)
    refine ends_bind (Tx.ends_create ha (fun _ => hp _ _) fun _ _ _ _ => ?_)
    refine ends_bind (Tx.ends_create ha (fun _ => hp _ _) fun _ _ _ _ => ?_)
    refine ends_bind (Tx.ends_newDate fun now => ?_)
    refine ends_bind (Tx.ends_update ha (fun _ _ => hp _ _) fun _ _ => ?_)
    refine ends_bind (Tx.ends_create ha (fun _ => hp _ _) fun _ _ _ _ => ?_)
    refine ends_bind (Tx.ends_notificationsCreate fun ns _ => ?_)
    exact ends_bind (notifyRecipient_ends fun ms _ => ends_pure ha)

theorem executeBeneficiaryTransferTx_short {dto : TransferToBeneficiaryDto} {currency : String} :
    Ends i (executeBeneficiaryTransferTx userId profileId dto key currency requestHash) { db }
      (fun _ s => s.aborted = false) (Short db userId key) := by
  have hp := short_prisma db userId key
  unfold executeBeneficiaryTransferTx findKey createKey
  refine ends_bind (Tx.ends_read rfl (fun _ _ => hp _ _) fun existing hexisting => ?_)
  cases existing with
  | some row => exact replayKey_short
  | none =>
    refine ends_bind (Tx.ends_create rfl (fun _ => hp _ _) fun idemRow keys hrow hkeys => ?_)
    refine ends_bind (Tx.ends_readWith rfl (fun _ => hp _ _) (fun _ => ?_)
      fun source sender _ _ => ?_)
    · exact ends_throw (short_badRequest (by decide))
    · dsimp only
      split
      · exact failKey_short rfl rfl hexisting.symm
      · refine ends_bind (Tx.ends_read rfl (fun _ _ => hp _ _) fun found _ => ?_)
        cases found with
        | none => exact ends_throw (short_badRequest (by decide))
        | some beneficiary =>
          refine ends_bind (ends_mono (resolveDestination_short rfl) ?_ fun _ _ h => h)
          rintro ⟨destination, recipient⟩ _ rfl
          dsimp only
          split
          · exact ends_throw (short_badRequest (by decide))
          · exact postBeneficiaryTransfer_short rfl rfl hexisting.symm

lemma postMerchantPayment_short {dto : PayMerchantDto} {currency : String}
    {idemRow : IdempotencyKey} {source : Account} {merchant : Merchant}
    {s : Session Db Notification} (ha : s.aborted = false) (hs : s.outside = [])
    (hkey : db.idempotencyKeys.findAlt (userId, key) = none) :
    Ends i (postMerchantPayment userId profileId dto currency idemRow source merchant) s
      (fun _ s => s.aborted = false) (Short db userId key) := by
  have hp := short_prisma db userId key
  unfold postMerchantPayment
  apply ends_bind
  apply Tx.ends_updateMany ha (fun _ => hp _ _)
  split
  · exact failKey_short ha hs hkey
  · refine ends_bind (Tx.ends_update ha (fun _ _ => hp _ _) fun _ _ => ?_)
    refine ends_bind (Tx.ends_newDate fun now => ?_)
    refine ends_bind (Tx.ends_create ha (fun _ => hp _ _) fun txn _ _ _ => ?_)
    refine ends_bind (Tx.ends_create ha (fun _ => hp _ _) fun _ _ _ _ => ?_)
    refine ends_bind (Tx.ends_create ha (fun _ => hp _ _) fun _ _ _ _ => ?_)
    refine ends_bind (Tx.ends_update ha (fun _ _ => hp _ _) fun _ _ => ?_)
    refine ends_bind (Tx.ends_create ha (fun _ => hp _ _) fun _ _ _ _ => ?_)
    exact ends_bind (Tx.ends_create ha (fun _ => hp _ _) fun _ _ _ _ => ends_pure ha)

theorem executeMerchantPaymentTx_short {dto : PayMerchantDto} {currency : String} :
    Ends i (executeMerchantPaymentTx userId profileId dto key currency requestHash) { db }
      (fun _ s => s.aborted = false) (Short db userId key) := by
  have hp := short_prisma db userId key
  unfold executeMerchantPaymentTx findKey createKey
  refine ends_bind (Tx.ends_read rfl (fun _ _ => hp _ _) fun existing hexisting => ?_)
  cases existing with
  | some row => exact replayKey_short
  | none =>
    refine ends_bind (Tx.ends_create rfl (fun _ => hp _ _) fun idemRow keys hrow hkeys => ?_)
    refine ends_bind (Tx.ends_read rfl (fun _ _ => hp _ _) fun source _ => ?_)
    cases source with
    | none => exact ends_throw (short_badRequest (by decide))
    | some source =>
      refine ends_bind (Tx.ends_readWith rfl (fun _ => hp _ _) (fun _ => ?_)
        fun merchant settlement _ _ => ?_)
      · exact ends_throw (short_badRequest (by decide))
      · dsimp only
        split
        · exact ends_throw (short_badRequest (by decide))
        · split
          · exact ends_throw (short_badRequest (by decide))
          · exact postMerchantPayment_short rfl rfl hexisting.symm

end Callbacks

/-- A failure for want of funds leaves the world as it was, and the key unused. -/
def KeyUnused (userId : Uuid) (key : String) (e : Failure) (w w' : World) : Prop :=
  e.Shortage → w' = w ∧ w.db.idempotencyKeys.findAlt (userId, key) = none

section Calls

variable {sha256 : String → String} {userId : Uuid} {key : String} {α : Type}

lemma not_shortage_statement {l : Statement}
    {body : Inputs → Instant → Db → Except PrismaError (α × Db)} :
    (Service.statement l body).Throws fun e => ¬ e.Shortage := by
  apply Prog.throws_atomic
  intro i w e he
  split at he
  · obtain rfl := Except.error.inj he
    exact not_shortage_prisma _
  · split at he
    · obtain rfl := Except.error.inj he
      exact not_shortage_prisma _
    · cases he

lemma not_shortage_rejectIf {cond : Bool} {failure : Failure} (h : ¬ failure.Shortage) :
    (rejectIf cond failure).Throws fun e => ¬ e.Shortage := by
  unfold rejectIf
  cases cond with
  | true => exact Prog.throws_throw h
  | false => exact Prog.throws_pure

lemma not_shortage_requireVerified {message : String} :
    (requireVerified userId message).Throws fun e => ¬ e.Shortage := by
  apply Prog.throws_bind not_shortage_statement
  intro found
  cases found with
  | none => exact Prog.throws_throw (by simp [Failure.Shortage])
  | some profile =>
    dsimp only
    split
    · exact Prog.throws_throw (by simp [Failure.Shortage])
    · exact Prog.throws_pure

lemma not_shortage_mockFraudCheck {amount : ℚ} {request : PaymentRequest} :
    (runMockFraudCheck userId key amount request).Throws fun e => ¬ e.Shortage := by
  unfold runMockFraudCheck
  split
  · apply Prog.throws_bind not_shortage_statement
    intro existing
    split
    · exact Prog.throws_pure
    · apply Prog.throws_bind
      · apply Prog.throws_atomic
        intro i w e he
        split at he
        · obtain rfl := Except.error.inj he
          simp [Failure.Shortage]
        · cases he
      · exact fun challengeId => Prog.throws_throw (by simp [Failure.Shortage])
  · exact Prog.throws_pure

lemma transaction_keyUnused {callback : Tx α} {log : α → List Transaction → List Event}
    (h : ∀ i db, Ends i callback { db } (fun _ s => s.aborted = false) (Short db userId key)) :
    (Service.transaction callback log).Rejects (KeyUnused userId key) := by
  apply Prog.rejects_atomic
  intro i w e he hshort
  dsimp only at he ⊢
  rcases transact_cases (.prisma .transactionAborted) (fun i => i.commitFault.map .prisma)
    (h { i with now := w.now } w.db) (fun _ _ ha => ha) with
    ⟨_, _, _, _, ho⟩ | ⟨_, _, f, _, hfault, ho⟩ | ⟨f, s, hs, ho⟩
  · rw [ho] at he
    cases he
  · rw [ho] at he
    obtain rfl := Except.error.inj he
    obtain ⟨g, _, rfl⟩ := Option.map_eq_some_iff.mp hfault
    exact absurd hshort (not_shortage_prisma g)
  · rw [ho] at he ⊢
    obtain rfl := Except.error.inj he
    obtain ⟨hnothing, hkey⟩ := hs hshort
    rw [hnothing]
    exact ⟨rfl, hkey⟩

lemma retrying_keyUnused {exhausted : Failure} {attempt : Service α}
    (hexhausted : ¬ exhausted.Shortage) (h : attempt.Rejects (KeyUnused userId key)) (n : ℕ) :
    (Service.retrying exhausted attempt n).Rejects (KeyUnused userId key) := by
  induction n with
  | zero =>
    intro e he w w' hshort
    obtain rfl := Except.error.inj he
    exact absurd hshort hexhausted
  | succ n ih =>
    apply Prog.rejects_finish h
    · exact fun a => Prog.rejects_pure
    · intro e
      dsimp only
      split
      · exact .inr ih
      · exact .inl rfl

lemma pay_keyUnused {request : PaymentRequest} {idempotencyKey : String} {skipFraudCheck : Bool}
    {endpoint : Endpoint α} (hpre : ¬ endpoint.precheckFailure.Shortage)
    (hpost : ¬ endpoint.postcheckFailure.Shortage) (hexhausted : ¬ endpoint.exhausted.Shortage)
    (hexecute : ∀ profileId i db, Ends i (endpoint.execute profileId) { db }
      (fun _ s => s.aborted = false)
      (Short db userId (trim idempotencyKey))) :
    (pay userId request idempotencyKey skipFraudCheck endpoint).Rejects
      (KeyUnused userId (trim idempotencyKey)) := by
  have hother : ∀ {β : Type} {x : Service β}, (x.Throws fun e => ¬ e.Shortage) →
      x.Rejects (KeyUnused userId (trim idempotencyKey)) := by
    intro β x hx
    exact hx.rejects fun _ he _ _ hs => absurd hs he
  have hloop : ∀ profileId, (Service.retrying endpoint.exhausted
      (Service.transaction (endpoint.execute profileId) fun result inserted =>
        [.committed ⟨userId, request, trim idempotencyKey⟩ (result.map endpoint.body) inserted])
      serializableRetries).Rejects (KeyUnused userId (trim idempotencyKey)) :=
    fun profileId => retrying_keyUnused hexhausted (transaction_keyUnused (hexecute profileId)) _
  apply Prog.rejects_bind (hother (not_shortage_rejectIf (by simp [Failure.Shortage])))
  intro _
  apply Prog.rejects_bind (hother not_shortage_requireVerified)
  intro profile
  apply Prog.rejects_bind (hother (not_shortage_rejectIf hpre))
  intro _
  apply Prog.rejects_bind (hother (not_shortage_rejectIf (by simp [Failure.Shortage])))
  intro _
  apply Prog.rejects_bind (hother (not_shortage_rejectIf hpost))
  intro _
  cases skipFraudCheck with
  | true => exact hloop profile.id
  | false =>
    apply Prog.rejects_bind (hother not_shortage_mockFraudCheck)
    exact fun _ => hloop profile.id

attribute [local irreducible] Prog.Rejects in
lemma runRequest_keyUnused {request : PaymentRequest} {idempotencyKey : String}
    {skipFraudCheck : Bool} (htype : request.type ≠ .internalTransfer) :
    (runRequest sha256 userId request idempotencyKey skipFraudCheck).Rejects
      (KeyUnused userId (trim idempotencyKey)) := by
  cases request with
  | internalTransfer dto => exact absurd rfl htype
  | beneficiaryTransfer dto =>
    have h : (transferToBeneficiary sha256 userId dto idempotencyKey skipFraudCheck).Rejects
        (KeyUnused userId (trim idempotencyKey)) :=
      pay_keyUnused (by simp [Failure.Shortage]) (by simp [Failure.Shortage])
        (by simp [Failure.Shortage])
        fun _ _ _ => executeBeneficiaryTransferTx_short
    exact Prog.rejects_bind h fun _ => Prog.rejects_pure
  | merchantPayment dto =>
    have h : (payMerchant sha256 userId dto idempotencyKey skipFraudCheck).Rejects
        (KeyUnused userId (trim idempotencyKey)) :=
      pay_keyUnused (by simp [Failure.Shortage]) (by simp [Failure.Shortage])
        (by simp [Failure.Shortage])
        fun _ _ _ => executeMerchantPaymentTx_short
    exact Prog.rejects_bind h fun _ => Prog.rejects_pure

end Calls

/-- What a refusal for want of funds means for the key of the call, given the events of the call: a
confirmation has its key from the challenge it read. -/
def Call.ShortOf (c : Call) (es : List Event) (e : Failure) (w w' : World) : Prop :=
  match c with
  | .payment userId request idempotencyKey =>
    request.type ≠ .internalTransfer → KeyUnused userId (trim idempotencyKey) e w w'
  | .confirmStepUp userId challengeId _ =>
    e.Shortage → ∃ challenge at_, Event.challengeRead userId challengeId challenge at_ ∈ es ∧
      (challenge.request.type ≠ .internalTransfer →
        KeyUnused userId (trim challenge.idempotencyKey) e w w')
  | _ => True

section Runs

variable {sha256 : String → String} {w : World} {schedule : List Action} {b b' : Bank}

lemma confirmStepUp_shortOf (userId : Uuid) (challengeId otp : String) :
    (confirmStepUp sha256 userId challengeId otp).RejectsAfter
      (Call.ShortOf (.confirmStepUp userId challengeId otp)) [] := by
  have hother : ∀ {es : List Event} {e : Failure} {w w' : World}, ¬ e.Shortage →
      Call.ShortOf (.confirmStepUp userId challengeId otp) es e w w' :=
        fun hnot he => absurd he hnot
  unfold confirmStepUp redisGet
  apply Prog.rejectsAfter_atomic_bind
  · intro i w e he
    apply hother
    split at he
    · obtain rfl := Except.error.inj he
      simp [Failure.Shortage]
    · split at he <;> cases he
  · intro i u found hfound
    split at hfound
    · cases hfound
    · split at hfound
      · obtain rfl := Except.ok.inj hfound
        exact Prog.rejectsAfter_throw fun _ _ => hother (by simp [Failure.Shortage])
      · rename_i challenge _
        obtain rfl := Except.ok.inj hfound
        dsimp only
        split
        · exact Prog.rejectsAfter_throw fun _ _ => hother (by simp [Failure.Shortage])
        · unfold redisDel
          apply Prog.rejectsAfter_atomic_bind
          · intro j v e he
            apply hother
            split at he
            · obtain rfl := Except.error.inj he
              simp [Failure.Shortage]
            · cases he
          · intro j v _ _
            rw [storedPayload_toJson]
            -- from here on the call runs the request of the challenge that it has read
            by_cases htype : challenge.request.type = .internalTransfer
            · apply (Prog.rejects_of_all (P := fun _ _ _ => True) (fun _ _ _ => trivial) _).after
              intro es' hes e w w' _ _
              exact ⟨challenge, u.now, hes.subset (by simp), fun hne => absurd htype hne⟩
            · apply (runRequest_keyUnused htype).after
              intro es' hes e w w' hkey _
              exact ⟨challenge, u.now, hes.subset (by simp), fun _ => hkey⟩

lemma handle_shortOf (c : Call) : (handle sha256 c).RejectsAfter c.ShortOf [] := by
  cases c with
  | payment userId request idempotencyKey =>
    refine Prog.RejectsAfter.map ?_
    by_cases htype : request.type = .internalTransfer
    · exact (Prog.rejects_of_all (P := fun _ _ _ => True) (fun _ _ _ => trivial) _).after
        fun _ _ _ _ _ _ hne => absurd htype hne
    · exact (runRequest_keyUnused htype).after fun _ _ _ _ _ hkey _ => hkey
  | confirmStepUp userId challengeId otp => exact (confirmStepUp_shortOf userId challengeId otp).map
  | _ =>
    exact (Prog.rejects_of_all (P := fun _ _ _ => True) (fun _ _ _ => trivial) _).after
      fun _ _ _ _ _ _ => trivial

lemma Executes.keyUnused {t : ℕ} {call : Call} {payment : Payment} {e : Failure} {v v' : World}
    (h : Bank.run sha256 (Bank.start w) schedule = some b) (hx : Executes t b.shared call payment)
    (hshort : call.ShortOf (Config.own t b.shared) e v v')
    (htype : payment.request.type ≠ .internalTransfer) (he : e.Shortage) :
    KeyUnused payment.userId payment.key e v v' := by
  cases hx with
  | asked hasked =>
    cases call with
    | payment userId request idempotencyKey =>
      obtain rfl := Option.some.inj hasked
      exact hshort htype
    | _ => cases hasked
  | confirmed read presented =>
    obtain ⟨challenge, at_, hread, hkey⟩ := hshort he
    have hsame := (run_readsFirst h).unique read (Config.mem_own.mp hread) rfl rfl
    simp only [Event.challengeRead.injEq] at hsame
    obtain ⟨-, -, rfl, -⟩ := hsame
    exact hkey htype

lemma failed_keys_of_start (h : Bank.run sha256 (Bank.start w) schedule = some b) :
    ∀ k ∈ b.db.idempotencyKeys.rows, k.status = .failed → k ∈ w.db.idempotencyKeys.rows := by
  refine run_files (P := fun s => ∀ k ∈ s.world.db.idempotencyKeys.rows, k.status = .failed →
    k ∈ w.db.idempotencyKeys.rows) ?_ (fun _ hk _ => hk) h
  intro s s' hP _ hfiles k hk hfailed
  cases hfiles with
  | nothing _ _ keys => exact hP k (keys ▸ hk) hfailed
  | payment t c payment result p db row _ _ _ _ _ stores entered _ _ =>
    rw [entered.idempotencyKeys, List.mem_append, List.mem_singleton] at hk
    rcases hk with hk | rfl
    · exact hP k hk hfailed
    · rw [stores.completed] at hfailed
      cases hfailed
  | credit p accountId dto db _ _ _ entered => exact hP k (entered.idempotencyKeys ▸ hk) hfailed

lemma keys_of_start (h : Bank.run sha256 (Bank.start w) schedule = some b) :
    ∀ k ∈ w.db.idempotencyKeys.rows, k ∈ b.db.idempotencyKeys.rows :=
  run_files (P := fun s => ∀ k ∈ w.db.idempotencyKeys.rows, k ∈ s.world.db.idempotencyKeys.rows)
    (fun _ _ hP hpersists _ k hk => hpersists.keys k (hP k hk)) (fun _ hk => hk) h

/-- Whenever a beneficiary transfer or a merchant payment, a confirmed one included, is refused for
want of funds, the refusal changes nothing: its key is as unused as before, and at no later time is
it marked as failed. -/
theorem shortage_never_fails_key {t : ℕ} {i : Inputs} {call : Call} {payment : Payment}
    {e : Failure} (h : Bank.run sha256 (Bank.start w) schedule = some b)
    (hs : Bank.step sha256 b (.act t i) = some b')
    (ht : b'.threads t = some (call, .done (.error e))) (hx : Executes t b'.shared call payment)
    (htype : payment.request.type ≠ .internalTransfer) (he : e.Shortage) :
    b'.shared.world = b.shared.world ∧
      b'.db.idempotencyKeys.findAlt (payment.userId, payment.key) = none ∧
      ∀ later b'', Bank.run sha256 b' later = some b'' → ∀ k ∈ b''.db.idempotencyKeys.rows,
        k.userId = payment.userId → k.key = payment.key → k.status ≠ .failed := by
  have hafter : Bank.run sha256 (Bank.start w) (schedule ++ [.act t i]) = some b' :=
    (Config.run_after h).trans (Config.run_single hs)
  have hshort := Config.rejects_step handle_shortOf h hs ht
  obtain ⟨hworld, hunused⟩ := hx.keyUnused hafter hshort htype he he
  have hnow : b'.db.idempotencyKeys.findAlt (payment.userId, payment.key) = none := by
    rw [show b'.db = b.db from congrArg World.db hworld]
    exact hunused
  refine ⟨hworld, hnow, ?_⟩
  intro later b'' hlater k hk huser hkey hfailed
  have hb'' : Bank.run sha256 (Bank.start w) ((schedule ++ [.act t i]) ++ later) = some b'' :=
    (Config.run_after hafter).trans hlater
  have hstart := failed_keys_of_start hb'' k hk hfailed
  have hthere := keys_of_start hafter k hstart
  exact Table.findAlt_eq_none.mp hnow k hthere (by simp [← huser, ← hkey]; rfl)

end Runs

/-- The savings account is empty. -/
def shortDto : PayMerchantDto where
  sourceAccountId := (demoIds .destAccount).text
  merchantId := (demoIds (.merchant 0)).text
  amount := DemoAmount.small.decimal
  currency := "RON"
  accepted := by decide +kernel

def shortCall : Call := .payment (demoIds .user) (.merchantPayment shortDto) "k1"

def shortSchedule : List Action := [.spawn 0 shortCall, .act 0 (demoInputs 0)]

def toppedUpSchedule : List Action :=
  [.spawn 1 (.creditAccount (demoIds .adminUser) (demoIds .destAccount) demoCreditDto),
    .act 1 (demoInputs 2),
    .spawn 2 shortCall, .act 2 (demoInputs 3), .act 2 (demoInputs 4)]

def Bank.failure (b : Bank) (t : ℕ) : Option Failure :=
  match b.threads t with
  | some (_, .done (.error e)) => some e
  | _ => none

lemma demo_short : ∃ b b', Bank.run demoSha256 (Bank.start demoWorld) shortSchedule = some b ∧
    Bank.step demoSha256 b (.act 0 (demoInputs 1)) = some b' ∧
    b'.threads 0 = some (shortCall, .done (.error (.badRequest "Insufficient funds"))) := by
  have heval : ((Bank.run demoSha256 (Bank.start demoWorld) shortSchedule).bind fun b =>
      (Bank.step demoSha256 b (.act 0 (demoInputs 1))).bind (Bank.failure · 0)) =
        some (.badRequest "Insufficient funds") := by decide +kernel
  obtain ⟨b, hb, heval⟩ := Option.bind_eq_some_iff.mp heval
  obtain ⟨b', hb', hfailure⟩ := Option.bind_eq_some_iff.mp heval
  refine ⟨b, b', hb, hb', ?_⟩
  have hall : Bank.run demoSha256 (Bank.start demoWorld)
      (shortSchedule ++ [.act 0 (demoInputs 1)]) = some b' :=
    (Config.run_after hb).trans (Config.run_single hb')
  let D := discipline demoSha256
  obtain ⟨program, hprogram⟩ := D.call_of_spawn (D.init_holds demoWorld) hall
  rw [Bank.failure, hprogram] at hfailure
  rw [hprogram]
  split at hfailure
  · rename_i heq
    obtain ⟨rfl, rfl⟩ := Prod.mk.inj (Option.some.inj heq)
    rw [Option.some.inj hfailure]
  · cases hfailure

theorem demo_shortage_never_fails_key :
    ∃ b b', Bank.run demoSha256 (Bank.start demoWorld) shortSchedule = some b ∧
    Bank.step demoSha256 b (.act 0 (demoInputs 1)) = some b' ∧ b'.shared.world = b.shared.world ∧
    b'.db.idempotencyKeys.findAlt (demoIds .user, trim "k1") = none ∧
      ∀ later b'', Bank.run demoSha256 b' later = some b'' → ∀ k ∈ b''.db.idempotencyKeys.rows,
        k.userId = demoIds .user → k.key = trim "k1" → k.status ≠ .failed := by
  obtain ⟨b, b', hb, hb', ht⟩ := demo_short
  exact ⟨b, b', hb, hb', shortage_never_fails_key hb hb' ht (.asked rfl) (by decide) (.inl rfl)⟩

/-- The key is not failed after the refusal, and the same call posts under it once the account is
topped up. -/
theorem refused_key_posts : ∃ b b' : Bank,
    Bank.run demoSha256 (Bank.start demoWorld) (shortSchedule ++ [.act 0 (demoInputs 1)]) = some b ∧
    b.failure 0 = some (.badRequest "Insufficient funds") ∧
    (∀ k ∈ b.db.idempotencyKeys.rows, k.status ≠ .failed) ∧
    Bank.run demoSha256 b toppedUpSchedule = some b' ∧ b'.status 2 = some 201 ∧
    (b'.db.transactions.rows.map Transaction.type) = [.adminCredit, .merchantPayment] := by
  have heval : ((Bank.run demoSha256 (Bank.start demoWorld)
      (shortSchedule ++ [.act 0 (demoInputs 1)])).bind fun b =>
      (Bank.run demoSha256 b toppedUpSchedule).map fun b' =>
        decide (b.failure 0 = some (.badRequest "Insufficient funds")) &&
        ((b.db.idempotencyKeys.rows.all fun k => k.status ≠ .failed) &&
        (decide (b'.status 2 = some 201) &&
        decide ((b'.db.transactions.rows.map Transaction.type) =
          [.adminCredit, .merchantPayment])))) =
          some true := by decide +kernel
  obtain ⟨b, hb, heval⟩ := Option.bind_eq_some_iff.mp heval
  obtain ⟨b', hb', hall⟩ := Option.map_eq_some_iff.mp heval
  simp only [Bool.and_eq_true, decide_eq_true_eq, List.all_eq_true] at hall
  obtain ⟨hfailure, hkeys, hstatus, htypes⟩ := hall
  exact ⟨b, b', hb, hfailure, hkeys, hb', hstatus, htypes⟩

end OnlineBanking
