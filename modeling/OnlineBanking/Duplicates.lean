import OnlineBanking.ConflictAttempts
import OnlineBanking.Library.Histories

set_option autoImplicit false

/-! Concurrent requests for one payment under one key, of which one posts: what the others are
answered. -/

namespace OnlineBanking

open Library Callback

abbrev Sight : Type := Inputs × World

open Classical in
noncomputable def serializedCount (seen : List Sight) : ℕ :=
  seen.countP fun o => decide o.1.Serialized

lemma serializedCount_concat {seen : List Sight} {o : Sight} (h : o.1.Serialized) :
    serializedCount (seen ++ [o]) = serializedCount seen + 1 := by
  simp [serializedCount, h]

def Refusing (payment : Payment) (o : Sight) : Prop := o.1.KeyRefused payment o.2.db

/-- The first action reads the profile, and the database does not fail it. The others are
attempts. -/
def Reported : List Sight → Sight → Prop
  | [], o => o.1.fault .profileRead = none
  | _ :: attempts, o =>
    o.1.Conflicts ∧ o.1.Fresh o.2.db ∧ serializedCount (attempts ++ [o]) < serializableRetries

section Requests

-- `apply` would run the program of a goal to look for more premises
attribute [local irreducible] Prog.After

variable (sha256 : String → String) (profiles : Table CustomerProfile) (payment : Payment)
    (answer : PaymentBody)

def Contended (seen : List Sight) (o : Sight) : Prop :=
  o.2.db.customerProfiles = profiles ∧ o.2.db.Answerable sha256 payment answer ∧ Reported seen o

/-- The request comes to the answer or posts, and fails only where the insert of its key was
refused. -/
def Settled {α : Type} (body : α → ServiceResult PaymentBody) (seen : List Sight) :
    Except Failure α → Prop
  | .ok a =>
    (body a = ⟨200, answer⟩ ∨ (body a).httpStatus = 201) ∧ ∀ o ∈ seen.tail, ¬ Refusing payment o
  | .error e => KeyFailure e ∧ ∃ o ∈ seen.tail, Refusing payment o

def AttemptSettled {α : Type} (body : α → ServiceResult PaymentBody) (seen : List Sight)
    (seen' : List Sight) (r : Except Failure α) : Prop :=
  ∃ o, seen' = seen ++ [o] ∧ Reported seen o ∧
    match r with
    | .ok a => (body a = ⟨200, answer⟩ ∨ (body a).httpStatus = 201) ∧ ¬ Refusing payment o
    | .error e => KeyFailure e ∧ Refusing payment o ∨
      e = .prisma .serializationFailure ∧ o.1.Serialized ∧ ¬ Refusing payment o

variable {sha256 profiles payment answer} {α β : Type} {seen : List Sight}

lemma after_attempt {callback : Tx (ServiceResult β)} {body : β → PaymentBody} {profileId : Uuid}
    {log : ServiceResult β → List Transaction → List Event}
    (hcallback : PaymentCallback sha256 payment profileId callback body) (hseen : seen ≠ [])
    (hprofile : ∃ p ∈ profiles.rows, p.userId = payment.userId ∧ p.id = profileId) :
    (Service.transaction callback log).After (Contended sha256 profiles payment answer)
      (AttemptSettled payment answer (ServiceResult.map body) seen) seen := by
  apply Prog.after_atomic
  rintro i w ⟨hprofiles, hanswerable, hreported⟩
  refine ⟨(i, w), rfl, hreported, ?_⟩
  obtain ⟨first, attempts, rfl⟩ := List.exists_cons_of_ne_nil hseen
  obtain ⟨hconflicts, hfresh, _⟩ := hreported
  dsimp only
  by_cases hrefused : i.KeyRefused payment w.db
  · rcases transact_cases (.prisma .transactionAborted)
        (fun i : TxInputs => i.commitFault.map .prisma)
      (callback_refused (i := { i with now := w.now }) hcallback hrefused)
        (fun _ _ h => h.elim) with
      ⟨_, _, hfalse, _⟩ | ⟨_, _, _, hfalse, _⟩ | ⟨e, s, he, ho⟩
    · exact hfalse.elim
    · exact hfalse.elim
    · rw [ho]
      exact .inl ⟨he, hrefused⟩
  · rcases transact_cases (.prisma .transactionAborted)
        (fun i : TxInputs => i.commitFault.map .prisma)
      (callback_settles (i := { i with now := w.now }) hcallback hconflicts hfresh hrefused
        (hprofiles ▸ hprofile)
        hanswerable) (fun _ _ h => h.1) with
      ⟨a, s, ha, _, ho⟩ | ⟨a, s, e, _, hfault, ho⟩ | ⟨e, s, he, ho⟩
    · rw [ho]
      exact ⟨ha.2, hrefused⟩
    · rw [ho]
      obtain ⟨e', he', rfl⟩ := Option.map_eq_some_iff.mp hfault
      obtain rfl := hconflicts.commit e' he'
      exact .inr ⟨rfl, .inr he', hrefused⟩
    · rw [ho]
      exact .inr ⟨he.1, he.2, hrefused⟩

lemma retried_iff {e : Failure} (h : KeyFailure e) : isSerializationFailure e = false := by
  rcases h with rfl | rfl
  · decide
  · decide

lemma after_retrying {body : α → ServiceResult PaymentBody} {exhausted : Failure}
    {attempt : Service α} {n : ℕ}
    (hattempt : ∀ seen, seen ≠ [] → attempt.After (Contended sha256 profiles payment answer)
      (AttemptSettled payment answer body seen) seen) (hseen : seen ≠ [])
    (hnone : ∀ o ∈ seen.tail, ¬ Refusing payment o)
    (hcount : serializableRetries ≤ n + serializedCount seen.tail)
    (hless : serializedCount seen.tail < serializableRetries) :
    (Service.retrying exhausted attempt n).After (Contended sha256 profiles payment answer)
      (Settled payment answer body) seen := by
  induction n generalizing seen with
  | zero => omega
  | succ n ih =>
    apply (hattempt seen hseen).finish
    rintro _ r ⟨o, rfl, hreported, hr⟩
    obtain ⟨first, attempts, rfl⟩ := List.exists_cons_of_ne_nil hseen
    obtain ⟨_, _, hlater⟩ := hreported
    have htail : (first :: attempts ++ [o]).tail = attempts ++ [o] := rfl
    cases r with
    | ok a =>
      apply Prog.after_pure
      refine ⟨hr.1, fun x hx => ?_⟩
      rw [htail] at hx
      rcases List.mem_append.mp hx with hx | hx
      · exact hnone x hx
      · obtain rfl := List.mem_singleton.mp hx
        exact hr.2
    | error e =>
      dsimp only
      rcases hr with ⟨hfailure, hrefused⟩ | ⟨rfl, hserialized, hrefused⟩
      · rw [if_neg (by simp [retried_iff hfailure])]
        exact Prog.after_throw ⟨hfailure, o, by simp, hrefused⟩
      · simp only [List.tail_cons] at hcount hnone
        have hmore : serializedCount (attempts ++ [o]) = serializedCount attempts + 1 :=
          serializedCount_concat hserialized
        rw [if_pos ⟨by decide, by omega⟩]
        apply ih (by simp)
        · intro x hx
          rw [htail] at hx
          rcases List.mem_append.mp hx with hx | hx
          · exact hnone x hx
          · obtain rfl := List.mem_singleton.mp hx
            exact hrefused
        · rw [htail]
          omega
        · rw [htail]
          exact hlater

lemma after_requireVerified {message : String}
    (hverified : ∃ p ∈ profiles.rows, p.userId = payment.userId ∧ p.kycStatus = .verified) :
    (requireVerified payment.userId message).After (Contended sha256 profiles payment answer)
      (fun seen r => ∃ profile, r = .ok profile ∧ ∃ o, seen = [o] ∧
        ∃ p ∈ profiles.rows, p.userId = payment.userId ∧ p.id = profile.id) [] := by
  obtain ⟨p, hp, huser, hstatus⟩ := hverified
  have hfound : profiles.findAlt payment.userId = some p :=
    Table.findAlt_eq_some.mpr ⟨hp, congrArg some huser⟩
  unfold requireVerified
  apply Prog.After.passes (P := fun seen found => found = some p ∧ ∃ o, seen = [o])
  · apply Prog.after_atomic
    rintro i w ⟨hprofiles, _, hreported⟩
    have hfault : i.fault .profileRead = none := hreported
    have hread : w.db.customerProfiles.findAlt payment.userId = some p := hprofiles ▸ hfound
    exact ⟨some p, by simp [hfault, hread], rfl, (i, w), rfl⟩
  · rintro _ _ ⟨rfl, o, rfl⟩
    dsimp only
    rw [if_neg (not_not.mpr hstatus)]
    exact Prog.after_pure ⟨p, rfl, o, rfl, p, hp, huser, rfl⟩

lemma after_rejectIf {cond : Bool} {failure : Failure} {f : Unit → Service α}
    {Q : List Sight → Except Failure α → Prop} {Given : List Sight → Sight → Prop}
    (h : cond = false) (hf : (f ()).After Given Q seen) :
    (rejectIf cond failure >>= f).After Given Q seen := by
  subst h
  exact hf

lemma after_pay {userId : Uuid} {request : PaymentRequest} {idempotencyKey : String}
    {endpoint : Endpoint β} {body : β → PaymentBody}
    (hpayment : payment = ⟨userId, request, trim idempotencyKey⟩) (accepted : payment.Accepted)
    (hsmall : request.amount.value ≤ stepUpThreshold)
    (hverified : ∃ p ∈ profiles.rows, p.userId = userId ∧ p.kycStatus = .verified)
    (hpre : endpoint.precheck = false) (hpost : endpoint.postcheck = false)
    (hbody : endpoint.body = body)
    (hcallback : ∀ profileId, PaymentCallback sha256 payment profileId
      (endpoint.execute profileId) body) :
    (pay userId request idempotencyKey false endpoint).After
    (Contended sha256 profiles payment answer)
      (Settled payment answer (ServiceResult.map body)) [] := by
  subst hpayment hbody
  have hkey : trim idempotencyKey ≠ "" := accepted.key
  have hcurrency : request.currency = "RON" := accepted.currency
  unfold pay
  apply after_rejectIf (by simpa using hkey)
  apply (after_requireVerified hverified).passes
  rintro _ profile ⟨o, rfl, hprofile⟩
  apply after_rejectIf hpre
  apply after_rejectIf (by simpa using hcurrency)
  apply after_rejectIf hpost
  simp only [Bool.false_eq_true, ↓reduceIte, runMockFraudCheck, if_neg (not_lt.mpr hsmall)]
  apply after_retrying
  · intro seen hseen
    exact after_attempt (hcallback profile.id) hseen hprofile
  · simp
  · simp
  · simp [serializedCount]
  · simp [serializedCount, serializableRetries]

def Duplicate (payment : Payment) (call : Call) : Prop :=
  ∃ request idempotencyKey, call = .payment payment.userId request idempotencyKey ∧
    SamePayment ⟨payment.userId, request, trim idempotencyKey⟩ payment

/-- What the caller is answered, after the actions of the request have seen `seen`. -/
def CallSettled (payment : Payment) (answer : PaymentBody) (seen : List Sight) :
    Except Failure Response → Prop
  | .ok r =>
    (r = .payment ⟨200, answer⟩ ∨ ∃ result, r = .payment result ∧ result.httpStatus = 201) ∧
      ∀ o ∈ seen.tail, ¬ Refusing payment o
  | .error e => KeyFailure e ∧ ∃ o ∈ seen.tail, Refusing payment o

lemma after_transfer {userId : Uuid} {dto : CreateTransferDto} {idempotencyKey : String}
    (hpayment : payment = ⟨userId, .internalTransfer dto, trim idempotencyKey⟩)
    (accepted : payment.Accepted)
    (hsmall : (PaymentRequest.internalTransfer dto).amount.value ≤ stepUpThreshold)
    (hverified : ∃ p ∈ profiles.rows, p.userId = userId ∧ p.kycStatus = .verified) :
    (transfer sha256 userId dto idempotencyKey false).After
    (Contended sha256 profiles payment answer)
      (Settled payment answer (ServiceResult.map .transfer)) [] := by
  have hdistinct : dto.sourceAccountId ≠ dto.destinationAccountId :=
    accepted.distinct dto (by rw [hpayment])
  have hcurrency := (hpayment ▸ accepted).currency
  unfold transfer
  apply after_pay hpayment accepted hsmall hverified
  · simpa using hdistinct
  · rfl
  · rfl
  · intro profileId
    subst hpayment
    exact .transfer dto _ hcurrency rfl

lemma after_transferToBeneficiary {userId : Uuid} {dto : TransferToBeneficiaryDto}
    {idempotencyKey : String}
    (hpayment : payment = ⟨userId, .beneficiaryTransfer dto, trim idempotencyKey⟩)
    (accepted : payment.Accepted)
    (hsmall : (PaymentRequest.beneficiaryTransfer dto).amount.value ≤ stepUpThreshold)
    (hverified : ∃ p ∈ profiles.rows, p.userId = userId ∧ p.kycStatus = .verified) :
    (transferToBeneficiary sha256 userId dto idempotencyKey false).After
    (Contended sha256 profiles payment answer)
      (Settled payment answer (ServiceResult.map .beneficiary)) [] := by
  have hcurrency := (hpayment ▸ accepted).currency
  unfold transferToBeneficiary
  apply after_pay hpayment accepted hsmall hverified
  · rfl
  · rfl
  · rfl
  · intro profileId
    subst hpayment
    exact .beneficiary dto _ hcurrency rfl

lemma after_payMerchant {userId : Uuid} {dto : PayMerchantDto} {idempotencyKey : String}
    (hpayment : payment = ⟨userId, .merchantPayment dto, trim idempotencyKey⟩)
    (accepted : payment.Accepted)
    (hsmall : (PaymentRequest.merchantPayment dto).amount.value ≤ stepUpThreshold)
    (hverified : ∃ p ∈ profiles.rows, p.userId = userId ∧ p.kycStatus = .verified) :
    (payMerchant sha256 userId dto idempotencyKey false).After
    (Contended sha256 profiles payment answer)
      (Settled payment answer (ServiceResult.map .merchant)) [] := by
  have hcurrency := (hpayment ▸ accepted).currency
  unfold payMerchant
  apply after_pay hpayment accepted hsmall hverified
  · rfl
  · simpa using dto.amount_pos
  · rfl
  · intro profileId
    subst hpayment
    exact .merchant dto _ hcurrency rfl

lemma after_runRequest {userId : Uuid} {request : PaymentRequest} {idempotencyKey : String}
    (hpayment : payment = ⟨userId, request, trim idempotencyKey⟩) (accepted : payment.Accepted)
    (hsmall : request.amount.value ≤ stepUpThreshold)
    (hverified : ∃ p ∈ profiles.rows, p.userId = userId ∧ p.kycStatus = .verified) :
    (runRequest sha256 userId request idempotencyKey false).After
    (Contended sha256 profiles payment answer)
      (Settled payment answer id) [] := by
  have hanswer : ∀ {β : Type} {body : β → PaymentBody} {endpoint : Service (ServiceResult β)},
      endpoint.After (Contended sha256 profiles payment answer)
        (Settled payment answer (ServiceResult.map body)) [] →
      Prog.After (Contended sha256 profiles payment answer) (Settled payment answer id) []
        (do return (← endpoint).map body) := by
    intro β body endpoint h
    exact h.bind (fun _ _ ha => Prog.after_pure ha) fun _ _ he => he
  cases request with
  | internalTransfer dto => exact hanswer (after_transfer hpayment accepted hsmall hverified)
  | beneficiaryTransfer dto =>
    exact hanswer (after_transferToBeneficiary hpayment accepted hsmall hverified)
  | merchantPayment dto => exact hanswer (after_payMerchant hpayment accepted hsmall hverified)

lemma after_handle {request : PaymentRequest} {idempotencyKey : String}
    (accepted : Payment.Accepted ⟨payment.userId, request, trim idempotencyKey⟩)
    (hsmall : request.amount.value ≤ stepUpThreshold)
    (hverified : ∃ p ∈ profiles.rows, p.userId = payment.userId ∧ p.kycStatus = .verified) :
    (handle sha256 (.payment payment.userId request idempotencyKey)).After
      (Contended sha256 profiles ⟨payment.userId, request, trim idempotencyKey⟩ answer)
      (CallSettled ⟨payment.userId, request, trim idempotencyKey⟩ answer) [] := by
  apply (after_runRequest rfl accepted hsmall hverified).bind
  · rintro seen a ⟨ha, hnone⟩
    refine Prog.after_pure ⟨?_, hnone⟩
    rcases ha with rfl | ha
    · exact .inl rfl
    · exact .inr ⟨a, rfl, ha⟩
  · exact fun _ _ he => he

end Requests

section Races

variable {sha256 : String → String} {payment payment' : Payment} {t : ℕ} {c : Call} {i : Inputs}
    {s s' : State}

lemma Duplicate.executed (h : Duplicate payment c) (hx : Executes t s c payment') :
    SamePayment payment' payment := by
  obtain ⟨request, idempotencyKey, rfl, same⟩ := h
  cases hx with
  | asked hasked =>
    obtain rfl := Option.some.inj hasked
    exact same

lemma Duplicate.payer (h : Duplicate payment c) : c.payer ≠ none := by
  obtain ⟨request, idempotencyKey, rfl, _⟩ := h
  simp [Call.payer]

def Unanswered (s s' : State) : Prop :=
  ∃ events, s'.trace = s.trace ++ events ∧
    ∀ t payment result inserted, (t, Event.committed payment result inserted) ∈ events →
      result.httpStatus ≠ 201

structure Posts (sha256 : String → String) (t : ℕ) (payment : Payment)
    (result : ServiceResult PaymentBody) (s s' : State) :
    Prop where
  accepted : payment.Accepted
  postable : s.world.db.Postable payment
  created : result.httpStatus = 201
  readable : parsePayload payment.request.type (some result.body.toJson) = some result.body
  answers : s'.world.db.Answers sha256 payment result.body
  profiles : s'.world.db.customerProfiles = s.world.db.customerProfiles
  trace : ∃ transaction, s'.trace = s.trace ++ [(t, Event.committed payment result [transaction])]

lemma Effect.unanswered_or_posts (h : Effect sha256 t c i s s') (hc : c.payer ≠ none)
    (hopens : Certified (fun db _ payment result => result.httpStatus = 201 →
      db.Open payment.request) s s') :
    s.world.db.SameFunds s'.world.db ∧ Unanswered s s' ∨
      ∃ payment result, Executes t s c payment ∧ Posts sha256 t payment result s s' := by
  have hrefl : ∀ db : Db, db.SameFunds db := fun db => ⟨rfl, rfl, rfl, rfl, rfl⟩
  cases h with
  | idle same =>
    subst same
    exact .inl ⟨hrefl _, [], by simp, by simp⟩
  | challengeStored _ _ _ _ _ world trace => exact .inl ⟨world ▸ hrefl _, _, trace, by simp⟩
  | challengeRead _ _ _ _ _ _ _ world trace => exact .inl ⟨world ▸ hrefl _, _, trace, by simp⟩
  | challengeDeleted _ _ _ _ world trace =>
    exact .inl ⟨world ▸ hrefl _, [], by simp [trace], by simp⟩
  | replayed payment result row _ _ _ _ _ _ ok world trace =>
    refine .inl ⟨world ▸ hrefl _, _, trace, ?_⟩
    intro u p r inserted he
    obtain ⟨_, _, rfl, _⟩ : u = t ∧ p = payment ∧ r = result ∧ inserted = [] := by simpa using he
    simp [ok]
  | withdrawn _ _ _ ns _ _ _ _ world trace =>
    refine .inl ⟨?_, [], by simp [trace], by simp⟩
    rw [world]
    exact ⟨by simp, by simp, by simp, by simp, by simp⟩
  | credited _ _ _ _ _ _ call _ _ _ _ _ => exact absurd (by rw [call]; rfl) hc
  | creditWithdrawn _ _ _ _ _ _ call _ _ _ _ _ => exact absurd (by rw [call]; rfl) hc
  | kept _ call _ _ _ => exact absurd call hc
  | posted payment result p db ns due first applied pays notices world trace =>
    refine .inr ⟨payment, result, due.executes, due.accepted, ?_, pays.created,
      pays.readable, ?_, ?_, _, trace⟩
    · obtain ⟨_, _, hopen, _⟩ := hopens t payment result [p.transaction] trace
      exact ⟨⟨p.source, p.destination, pays.payable⟩, hopen pays.created⟩
    · obtain ⟨k, hk, stores⟩ := pays.key
      have hkey : (k.userId, k.key) = (payment.userId, payment.key) :=
        Prod.ext stores.userId stores.key
      refine ⟨k, Table.findAlt_eq_some.mpr ⟨?_, congrArg some hkey⟩, stores⟩
      simp [world, applied.idempotencyKeys, hk]
    · simp [world, applied.customerProfiles]

/-- The payment has not been posted since the start, or thread `t₀` has posted it and no other. -/
inductive Race (sha256 : String → String) (payment : Payment) (w : World) (s : State) : Prop
  | open (same : w.db.SameFunds s.world.db)
      (none : ∀ t payment result inserted, (t, Event.committed payment result inserted) ∈ s.trace →
        result.httpStatus ≠ 201)
  | won (t₀ : ℕ) (answer : PaymentBody) (postable : w.db.Postable payment)
      (accepted : payment.Accepted)
      (readable : parsePayload payment.request.type (some answer.toJson) = some answer)
      (answers : s.world.db.Answers sha256 payment answer)
      (profiles : s.world.db.customerProfiles = w.db.customerProfiles)
      (logged : ∃ payment inserted, (t₀, Event.committed payment ⟨201, answer⟩ inserted) ∈ s.trace)
      (only : ∀ t payment result inserted, (t, Event.committed payment result inserted) ∈ s.trace →
        result.httpStatus = 201 → t = t₀ ∧ result.body = answer)

variable {w : World}

lemma Race.unanswered (h : Race sha256 payment w s) (hsame : s.world.db.SameFunds s'.world.db)
    (hevents : Unanswered s s') : Race sha256 payment w s' := by
  obtain ⟨events, htrace, hnew⟩ := hevents
  have hold : ∀ {u p r inserted}, (u, Event.committed p r inserted) ∈ s'.trace →
      r.httpStatus = 201 →
      (u, Event.committed p r inserted) ∈ s.trace := by
    intro u p r inserted he hr
    rcases List.mem_append.mp (htrace ▸ he) with he | he
    · exact he
    · exact absurd hr (hnew _ _ _ _ he)
  cases h with
  | «open» same none =>
    exact .open (same.trans hsame) fun u p r inserted he hr => none u p r inserted (hold he hr) hr
  | won t₀ answer postable accepted readable answers profiles logged only =>
    obtain ⟨p, inserted, hlogged⟩ := logged
    apply Race.won t₀ answer postable accepted readable
    · exact answers.of_keys fun k hk => hsame.idempotencyKeys ▸ hk
    · exact hsame.customerProfiles.trans profiles
    · exact ⟨p, inserted, htrace ▸ List.mem_append_left _ hlogged⟩
    · exact fun u p r inserted he hr => only u p r inserted (hold he hr) hr

lemma Race.posts {result : ServiceResult PaymentBody} (h : Race sha256 payment w s)
    (hsame : SamePayment payment' payment) (hposts : Posts sha256 t payment' result s s') :
    Race sha256 payment w s' := by
  obtain ⟨transaction, htrace⟩ := hposts.trace
  obtain ⟨status, answer⟩ := result
  obtain rfl : status = 201 := hposts.created
  have hpostable := hposts.postable.same hsame
  cases h with
  | «open» same none =>
    apply Race.won t answer (hpostable.sameFunds same.symm) (hposts.accepted.same hsame.symm)
      (hsame.type ▸ hposts.readable) (hposts.answers.same hsame)
        (hposts.profiles.trans same.customerProfiles)
    · exact ⟨payment', [transaction], by simp [htrace]⟩
    · intro u p r inserted he hr
      rcases List.mem_append.mp (htrace ▸ he) with he | he
      · exact absurd hr (none u p r inserted he)
      · obtain ⟨rfl, _, rfl, _⟩ : u = t ∧ p = payment' ∧ r = ⟨201, answer⟩ ∧
            inserted = [transaction] := by simpa using he
        exact ⟨rfl, rfl⟩
  | won t₀ answer' postable accepted readable answers profiles logged only =>
    obtain ⟨⟨source, destination, payable⟩, _⟩ := hpostable
    obtain ⟨row, hfound, _⟩ := answers
    rw [payable.key_unused] at hfound
    cases hfound

lemma Race.environment (h : Race sha256 payment w s) (e : Environment) :
    Race sha256 payment w { s with world := environment e s.world } := by
  refine h.unanswered ?_ ⟨[], by simp, by simp⟩
  cases e with
  | tick elapsed => exact ⟨rfl, rfl, rfl, rfl, rfl⟩
  | audit event =>
    dsimp only [OnlineBanking.environment]
    cases hdb : Db.create Db.auditEvent event s.world.db with
    | error e => exact ⟨rfl, rfl, rfl, rfl, rfl⟩
    | ok x =>
      obtain ⟨event, db⟩ := x
      obtain ⟨_, t, _, rfl⟩ := Db.create_eq_ok hdb
      exact ⟨rfl, rfl, rfl, rfl, rfl⟩
  | cardNotice notice =>
    constructor <;> simp [OnlineBanking.environment]

end Races

section Runs

variable {sha256 : String → String} {payment : Payment} {w : World}
    {schedule : List Action} {b : Bank}

def openDiscipline (sha256 : String → String) :
    Discipline (E := Event) (handle sha256) environment :=
  certifiedDiscipline sha256 (fun db _ payment result => result.httpStatus = 201 →
    db.Open payment.request)
    fun _ _ _ _ _ h _ _ owner => callback_opens h owner

def Duplicates (payment : Payment) (schedule : List Action) : Prop :=
  ∀ t call, Label.spawn t call ∈ schedule → Duplicate payment call

lemma run_race (hduplicates : Duplicates payment schedule)
    (h : Bank.run sha256 (Bank.start w) schedule = some b) :
    Race sha256 payment w b.shared := by
  let D := openDiscipline sha256
  have hmeets : Config.Meets (handle sha256) environment
      (fun c l => ∀ t i call p, l = .act t i → c.threads t = some (call, p) →
        Duplicate payment call)
      (Bank.start w) schedule := by
    apply Discipline.meets_of_runs
    rintro ms _ d hprefix hms t i call p rfl ht
    apply hduplicates t call
    exact hprefix.subset (List.mem_append_left _ (D.spawn_of_call hms ht))
  refine (D.shared_invariant (P := Race sha256 payment w) ?_ (fun e s hs => hs.environment e)
    (D.init_holds w) ?_
    hmeets h).2
  · intro c t i call p s' _ ht hcond hrace hguar
    have hcall := hcond t i call p rfl ht
    obtain ⟨heffect, hopens⟩ := hguar
    rcases heffect.unanswered_or_posts hcall.payer (hopens hcall.payer) with
      ⟨hsame, hevents⟩ | ⟨payment', result, hx, hposts⟩
    · exact hrace.unanswered hsame hevents
    · exact hrace.posts (hcall.executed hx) hposts
  · exact .open ⟨rfl, rfl, rfl, rfl, rfl⟩ fun _ _ _ _ he => absurd he (by simp [Config.init])

lemma SamePayment.refusing_iff {payment' : Payment} (hs : SamePayment payment' payment)
    (o : Sight) :
    Refusing payment' o ↔ Refusing payment o := by
  have hkey : (payment'.userId, payment'.key) = (payment.userId, payment.key) :=
    Prod.ext hs.userId hs.key
  constructor
  · rintro ⟨hlookup, hunused, hrefused⟩
    exact ⟨hlookup, hkey ▸ hunused, hrefused⟩
  · rintro ⟨hlookup, hunused, hrefused⟩
    exact ⟨hlookup, hkey ▸ hunused, hrefused⟩

/-- Of the requests for a payment, run side by side, thread `t₀` has posted it. Another request
whose conflicts the database reports as serialization failures, or at the insert of the key, is
answered with the stored answer or a conflict if and only if that insert is never refused. -/
theorem duplicate_answered_iff (hduplicates : Duplicates payment schedule)
    (hverified : w.db.Verified payment.userId)
    (hsmall : payment.request.amount.value ≤ stepUpThreshold)
    (h : Bank.run sha256 (Bank.start w) schedule = some b) {t₀ t : ℕ} {posted : Payment}
    {answer : PaymentBody} {inserted : List Transaction}
    (hposted : (t₀, Event.committed posted ⟨201, answer⟩ inserted) ∈ b.trace) {call : Call}
    {r : Except Failure Response} (hother : t ≠ t₀) (ht : b.threads t = some (call, .done r))
    (hreported : ∀ pre o post,
      Config.observed (handle sha256) environment t (Bank.start w) schedule =
        pre ++ o :: post → Reported pre o) :
    (r = .ok (.payment ⟨200, answer⟩) ∨ ∃ message, r = .error (.conflict message)) ↔
      ∀ o ∈ (Config.observed (handle sha256) environment t (Bank.start w) schedule).tail,
        ¬ Refusing payment o := by
  cases run_race hduplicates h with
  | «open» _ none => exact absurd rfl (none _ _ _ _ hposted)
  | won t₁ answer₁ postable accepted readable _ _ _ only =>
    obtain ⟨rfl, rfl⟩ := only _ _ _ _ hposted rfl
    dsimp only at readable only
    obtain ⟨request, idempotencyKey, rfl, hsame⟩ :=
      hduplicates t call ((discipline sha256).spawn_of_call h ht)
    have hgiven : ∀ pre o post, Config.observed (handle sha256) environment t
        (Bank.start w) schedule =
        pre ++ o :: post → Contended sha256 w.db.customerProfiles
          ⟨payment.userId, request, trim idempotencyKey⟩ answer pre o := by
      intro pre o post heq
      have hmem : o ∈ Config.observed (handle sha256) environment t (Bank.start w) schedule := by
        simp [heq]
      obtain ⟨ms, ns, e, rfl, hms, hworld⟩ := Config.mem_observed h hmem
      have hbefore : Duplicates payment ms :=
        fun u c hc => hduplicates u c (List.mem_append_left _ hc)
      have hanswerable : w.db.SameFunds e.shared.world.db →
          e.shared.world.db.customerProfiles = w.db.customerProfiles ∧
            e.shared.world.db.Answerable sha256
              ⟨payment.userId, request, trim idempotencyKey⟩ answer :=
        fun same => ⟨same.customerProfiles, .inr ((postable.sameFunds same).same hsame.symm)⟩
      rw [Contended, ← hworld]
      refine and_assoc.mp ⟨?_, hreported pre o post heq⟩
      cases run_race hbefore hms with
      | «open» same _ => exact hanswerable same
      | won t₂ answer₂ _ _ _ answers profiles logged _ =>
        obtain ⟨_, _, hlogged⟩ := logged
        have hlater := (run_later hms ((Config.run_after hms).symm.trans h)).2.trace.subset hlogged
        obtain ⟨_, rfl⟩ := only _ _ _ _ hlater rfl
        exact ⟨profiles, .inl ⟨answers.same hsame.symm, hsame.type ▸ readable⟩⟩
    have hsettled : CallSettled ⟨payment.userId, request, trim idempotencyKey⟩ answer
        (Config.observed (handle sha256) environment t (Bank.start w) schedule) r :=
      Config.after_run (after_handle (accepted.same hsame) (hsame.amount ▸ hsmall) hverified) h
        hgiven ht
    cases r with
    | error e =>
      obtain ⟨hfailure, o, ho, hrefusing⟩ := hsettled
      constructor
      · rintro (⟨⟨⟩⟩ | ⟨message, ⟨⟩⟩)
        rcases hfailure with hfailure | hfailure <;> cases hfailure
      · exact fun hnone => absurd ((hsame.refusing_iff o).mp hrefusing) (hnone o ho)
    | ok response =>
      obtain ⟨hresponse, hnone⟩ := hsettled
      constructor
      · exact fun _ o ho hrefusing => hnone o ho ((hsame.refusing_iff o).mpr hrefusing)
      · rintro -
        rcases hresponse with rfl | ⟨result, rfl, hcreated⟩
        · exact .inl rfl
        · obtain ⟨_, _, _, hlogged⟩ : ∃ paid, Committed t _ paid result b.shared :=
            (discipline sha256).post_of_done (holds_of_start h) ht
          exact absurd (only _ _ _ _ hlogged hcreated).1 hother

instance {i : Inputs} {db : Db} : Decidable (i.Fresh db) :=
  decidable_of_iff ((∀ k ∈ db.idempotencyKeys.rows, k.id ≠ i.uuid .keyCreate) ∧
      (∀ x ∈ db.transactions.rows, x.idempotencyKeyId ≠ some (i.uuid .keyCreate)) ∧
      (∀ x ∈ db.transactions.rows, x.id ≠ i.uuid .transactionCreate) ∧
      (∀ e ∈ db.ledgerEntries.rows, e.id ≠ i.uuid .debitCreate) ∧
      (∀ e ∈ db.ledgerEntries.rows, e.id ≠ i.uuid .creditCreate) ∧
        i.uuid .debitCreate ≠ i.uuid .creditCreate ∧
      (∀ e ∈ db.auditEvents.rows, e.id ≠ i.uuid .auditCreate) ∧
        ∀ n ∈ db.notifications.rows, n.id ≠ i.uuid .notify)
    ⟨fun ⟨h₁, h₂, h₃, h₄, h₅, h₆, h₇, h₈⟩ => ⟨h₁, h₂, h₃, h₄, h₅, h₆, h₇, h₈⟩,
      fun ⟨h₁, h₂, h₃, h₄, h₅, h₆, h₇, h₈⟩ => ⟨h₁, h₂, h₃, h₄, h₅, h₆, h₇, h₈⟩⟩

lemma reported_of_few {seen : List Sight}
    (hinputs : ∀ o ∈ seen, o.1.fault .profileRead = none ∧ o.1.Conflicts)
    (hfresh : seen.all (fun o => decide (o.1.Fresh o.2.db)) = true)
    (hfew : seen.length ≤ serializableRetries) :
    ∀ pre o post, seen = pre ++ o :: post → Reported pre o := by
  rintro pre o post rfl
  obtain ⟨hread, hconflicts⟩ := hinputs o (by simp)
  cases pre with
  | nil => exact hread
  | cons first attempts =>
    refine ⟨hconflicts, of_decide_eq_true (List.all_eq_true.mp hfresh o (by simp)), ?_⟩
    have hlength : serializedCount (attempts ++ [o]) ≤ (attempts ++ [o]).length :=
      List.countP_le_length
    simp only [List.length_append, List.length_cons, List.length_nil] at hlength hfew
    omega

def conflicting (n : ℕ) (l : Statement) (e : PrismaError) : Inputs :=
  { demoInputs n with fault := fun l' => if l' = l then some e else none }

def demoSmall : Payment := ⟨demoIds .user, .internalTransfer (demoTransfer .small), "k1"⟩

/-- The second request meets a serialization failure at its lookup, and tries again. -/
def demoDuplicates : List Action :=
  [.spawn 0 (demoPayment .small "k1"), .spawn 1 (demoPayment .small "k1"), .act 1 (demoInputs 0),
    .act 0 (demoInputs 1), .act 0 (demoInputs 2),
    .act 1 (conflicting 3 .keyFind .serializationFailure),
    .act 1 (demoInputs 4)]

/-- The insert of its key is refused, for the first one's that is about to be committed. -/
def demoRefusal : List Action :=
  [.spawn 0 (demoPayment .small "k1"), .spawn 1 (demoPayment .small "k1"), .act 0 (demoInputs 0),
    .act 1 (demoInputs 1), .act 1 (conflicting 2 .keyCreate .uniqueViolation),
    .act 0 (demoInputs 3)]

abbrev demoSights (schedule : List Action) : List Sight :=
  Config.observed (handle demoSha256) environment 1 (Bank.start demoWorld) schedule

lemma demo_conflicts {n : ℕ} {l : Statement} {e : PrismaError}
    (h : e = .serializationFailure ∨ l = .keyCreate ∧ e = .uniqueViolation) :
    (conflicting n l e).Conflicts where
  statement l' e' hfault := by
    dsimp only [conflicting] at hfault
    split at hfault
    · rename_i heq
      obtain rfl := Option.some.inj hfault
      exact heq ▸ h
    · cases hfault
  commit e' hfault := by cases hfault

lemma demo_undisturbed (n : ℕ) : (demoInputs n).Conflicts where
  statement l e hfault := by cases hfault
  commit e hfault := by cases hfault

def Event.isCreated : Event → Bool
  | .committed _ result _ => result.httpStatus = 201
  | _ => false

def replied : Except Failure Response → Bool
  | .ok (.payment result) => result.httpStatus = 200
  | _ => false

def failedWith (failure : Failure) : Except Failure Response → Bool
  | .error e => e = failure
  | .ok _ => false

lemma Event.eq_of_isCreated {e : Event} (h : e.isCreated = true) :
    ∃ payment answer inserted, e = .committed payment ⟨201, answer⟩ inserted := by
  cases e with
  | committed payment result inserted =>
    obtain ⟨status, answer⟩ := result
    obtain rfl : status = 201 := of_decide_eq_true h
    exact ⟨payment, answer, inserted, rfl⟩
  | _ => cases h

lemma demo_race {schedule : List Action} {p : Except Failure Response → Bool}
    (h : ((Bank.run demoSha256 (Bank.start demoWorld) schedule).bind fun b =>
      (b.outcome 1).map fun r =>
      b.trace.any (fun e => e.1 = 0 && e.2.isCreated) && p r) = some true) :
    ∃ b posted answer inserted call r, Bank.run demoSha256
      (Bank.start demoWorld) schedule = some b ∧
      (0, Event.committed posted ⟨201, answer⟩ inserted) ∈ b.trace ∧
        b.threads 1 = some (call, .done r) ∧ p r = true := by
  obtain ⟨b, hb, h⟩ := Option.bind_eq_some_iff.mp h
  obtain ⟨r, hr, hall⟩ := Option.map_eq_some_iff.mp h
  obtain ⟨hwon, hlost⟩ := Bool.and_eq_true_iff.mp hall
  obtain ⟨⟨t, e⟩, he, hcreated⟩ := List.any_eq_true.mp hwon
  obtain ⟨ht, hcreated⟩ := Bool.and_eq_true_iff.mp hcreated
  obtain rfl : t = 0 := of_decide_eq_true ht
  obtain ⟨posted, answer, inserted, rfl⟩ := Event.eq_of_isCreated hcreated
  obtain ⟨call, hthread⟩ := Bank.thread_of_outcome hr
  exact ⟨b, posted, answer, inserted, call, r, hb, he, hthread, hlost⟩

lemma demo_duplicate : Duplicate demoSmall (demoPayment .small "k1") :=
  ⟨_, "k1", rfl, rfl, by decide +kernel, rfl⟩

lemma demo_verified : demoWorld.db.Verified demoSmall.userId := by
  have hprofile : ((demoWorld.db.customerProfiles.findAlt (demoIds .user)).map
      CustomerProfile.kycStatus) =
      some .verified := by decide +kernel
  obtain ⟨p, hp, hstatus⟩ := Option.map_eq_some_iff.mp hprofile
  obtain ⟨hm, huser⟩ := Table.findAlt_eq_some.mp hp
  exact ⟨p, hm, Option.some.inj huser, hstatus⟩

theorem demo_duplicate_answered : ∃ b answer call r,
    Bank.run demoSha256 (Bank.start demoWorld) demoDuplicates = some b ∧
      b.threads 1 = some (call, .done r) ∧
    b.status 1 = some 200 ∧
    ((r = .ok (.payment ⟨200, answer⟩) ∨ ∃ message, r = .error (.conflict message)) ↔
      ∀ o ∈ (demoSights demoDuplicates).tail, ¬ Refusing demoSmall o) := by
  have heval : ((Bank.run demoSha256 (Bank.start demoWorld) demoDuplicates).bind fun b =>
      (b.outcome 1).map fun r =>
      b.trace.any (fun e => e.1 = 0 && e.2.isCreated) && replied r) = some true := by decide +kernel
  obtain ⟨b, posted, answer, inserted, call, r, hb, hposted, ht, hr⟩ := demo_race heval
  have hstatus : b.status 1 = some 200 := by
    unfold replied at hr
    split at hr
    · rw [Bank.status, ht]
      simpa using hr
    · cases hr
  have hinputs : ∀ o ∈ demoSights demoDuplicates, o.1.fault .profileRead = none ∧
      o.1.Conflicts := by
    intro o ho
    obtain ⟨ms, ns, e, hsplit, _⟩ := Config.mem_observed hb ho
    have hmem : Label.act 1 o.1 ∈ demoDuplicates := by simp [hsplit]
    simp only [demoDuplicates, List.mem_cons, List.not_mem_nil, or_false, Label.act.injEq,
      reduceCtorEq, false_or,
      Nat.one_ne_zero, false_and, true_and] at hmem
    rcases hmem with h | h | h
    · exact h ▸ ⟨rfl, demo_undisturbed 0⟩
    · exact h ▸ ⟨by decide, demo_conflicts (.inl rfl)⟩
    · exact h ▸ ⟨rfl, demo_undisturbed 4⟩
  refine ⟨b, answer, call, r, hb, ht, hstatus,
    duplicate_answered_iff ?_ demo_verified (by decide +kernel) hb hposted
    (by decide) ht (reported_of_few hinputs (by decide +kernel) (by decide +kernel))⟩
  intro t c hc
  obtain rfl : c = demoPayment .small "k1" := by
    simp only [demoDuplicates, List.mem_cons, List.not_mem_nil, or_false, Label.spawn.injEq,
      reduceCtorEq] at hc
    rcases hc with ⟨_, h⟩ | ⟨_, h⟩ <;> exact h
  exact demo_duplicate

/-- The second request's conflict is reported at the insert of its key. The lookup that is to handle
it runs in the aborted transaction, and the caller gets the database's error. -/
theorem duplicate_unhandled : ∃ b posted answer inserted call,
    Duplicates demoSmall demoRefusal ∧ demoWorld.db.Verified demoSmall.userId ∧
    demoSmall.request.amount.value ≤ stepUpThreshold ∧
    Bank.run demoSha256 (Bank.start demoWorld) demoRefusal = some b ∧
    (0, Event.committed posted ⟨201, answer⟩ inserted) ∈ b.trace ∧
    (∀ pre o post, demoSights demoRefusal = pre ++ o :: post → Reported pre o) ∧
    b.threads 1 = some (call, .done (.error (.prisma .transactionAborted))) := by
  have heval : ((Bank.run demoSha256 (Bank.start demoWorld) demoRefusal).bind fun b =>
      (b.outcome 1).map fun r =>
      b.trace.any (fun e => e.1 = 0 && e.2.isCreated) && failedWith
        (.prisma .transactionAborted) r) = some true := by
    decide +kernel
  obtain ⟨b, posted, answer, inserted, call, r, hb, hposted, ht, hr⟩ := demo_race heval
  have hinputs : ∀ o ∈ demoSights demoRefusal, o.1.fault .profileRead = none ∧ o.1.Conflicts := by
    intro o ho
    obtain ⟨ms, ns, e, hsplit, _⟩ := Config.mem_observed hb ho
    have hmem : Label.act 1 o.1 ∈ demoRefusal := by simp [hsplit]
    simp only [demoRefusal, List.mem_cons, List.not_mem_nil, or_false, Label.act.injEq,
      reduceCtorEq, false_or,
      Nat.one_ne_zero, false_and, true_and] at hmem
    rcases hmem with h | h
    · exact h ▸ ⟨rfl, demo_undisturbed 1⟩
    · exact h ▸ ⟨by decide, demo_conflicts (.inr ⟨rfl, rfl⟩)⟩
  refine ⟨b, posted, answer, inserted, call, ?_, demo_verified, by decide +kernel, hb, hposted,
    reported_of_few hinputs (by decide +kernel) (by decide +kernel), ?_⟩
  · intro t c hc
    obtain rfl : c = demoPayment .small "k1" := by
      simp only [demoRefusal, List.mem_cons, List.not_mem_nil, or_false, Label.spawn.injEq,
        reduceCtorEq] at hc
      rcases hc with ⟨_, h⟩ | ⟨_, h⟩ <;> exact h
    exact demo_duplicate
  · cases r with
    | error e =>
      obtain rfl : e = .prisma .transactionAborted := of_decide_eq_true hr
      exact ht
    | ok response => cases hr

end Runs

end OnlineBanking
