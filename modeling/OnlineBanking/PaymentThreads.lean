import OnlineBanking.Threads

set_option autoImplicit false

/-! The payment calls: what they know when they enter their retry loop, and one effect for each
action of the way there and of each attempt. -/

namespace OnlineBanking

open Library

section Payments

variable {sha256 : String → String} {t : ℕ} {c : Call} {s s' : State}

def KnownProfile (userId profileId : Uuid) (s : State) : Prop :=
  ∃ p ∈ s.world.db.customerProfiles.rows, p.userId = userId ∧ p.id = profileId

def KeyCompleted (userId : Uuid) (key : String) (s : State) : Prop :=
  ∃ k ∈ s.world.db.idempotencyKeys.rows, k.userId = userId ∧ k.key = key ∧ k.status = .completed

structure Committed (t : ℕ) (c : Call) (payment : Payment) (result : ServiceResult PaymentBody)
    (s : State) : Prop where
  executes : Executes t s c payment
  logged : ∃ inserted, (t, Event.committed payment result inserted) ∈ s.trace

lemma KnownProfile.persists {userId profileId : Uuid} (h : KnownProfile userId profileId s)
    (hs : Persists s s') : KnownProfile userId profileId s' := by
  obtain ⟨p, hp, hu, hi⟩ := h
  obtain ⟨q, hq, hqi, hqu⟩ := hs.profiles p hp
  exact ⟨q, hq, hqu.trans hu, hqi.trans hi⟩

lemma KeyCompleted.of_keys {userId : Uuid} {key : String} (h : KeyCompleted userId key s)
    (hkeys : ∀ k ∈ s.world.db.idempotencyKeys.rows, k ∈ s'.world.db.idempotencyKeys.rows) :
    KeyCompleted userId key s' := by
  obtain ⟨k, hk, hrow⟩ := h
  exact ⟨k, hkeys k hk, hrow⟩

lemma KeyCompleted.used {userId : Uuid} {key : String} (h : KeyCompleted userId key s) :
    s.world.db.idempotencyKeys.findAlt (userId, key) ≠ none := by
  obtain ⟨k, hk, hu, hkey, _⟩ := h
  intro hnone
  exact Table.findAlt_eq_none.mp hnone k hk (congrArg some (Prod.ext hu hkey))

/-- What a payment call knows when it enters its retry loop, and at each later attempt. -/
structure Ready (t : ℕ) (c : Call) (payment : Payment) (profileId : Uuid) (s : State) : Prop where
  uncommitted : Uncommitted t s
  executes : Executes t s c payment
  accepted : payment.Accepted
  profile : KnownProfile payment.userId profileId s
  allowed : c.asked ≠ none →
    payment.request.amount.value ≤ stepUpThreshold ∨ KeyCompleted payment.userId payment.key s

lemma Ready.rely {payment : Payment} {profileId : Uuid} (h : Ready t c payment profileId s)
    (hs : Rely t s s') : Ready t c payment profileId s' :=
  ⟨h.uncommitted.rely hs, h.executes.persists hs.toPersists, h.accepted,
    h.profile.persists hs.toPersists,
    fun hc => (h.allowed hc).imp id fun hk => hk.of_keys hs.keys⟩

lemma Ready.due {payment : Payment} {profileId : Uuid} {source destination : Account}
    (h : Ready t c payment profileId s) (payable : Payable s.world.db payment source destination) :
    Due t s c payment :=
  ⟨h.executes, h.accepted, fun hc => (h.allowed hc).resolve_right fun hk =>
    hk.used payable.key_unused⟩

lemma Effect.untraced {w : World} {i : Inputs} (h : Effect sha256 t c i s (s.after t w [])) :
    Rely t s (s.after t w []) :=
  ⟨h.persists, by simp [ownTrace, Shared.after]⟩

lemma attempt_safe {β : Type} {body : β → PaymentBody} {payment : Payment} {profileId : Uuid}
    {callback : Tx (ServiceResult β)}
    (hends : ∀ i db, (∃ profile ∈ db.customerProfiles.rows,
        profile.userId = payment.userId ∧ profile.id = profileId) →
      Callback.Ends i callback { db }
        (fun r session => Attempt i db payment (payment.request.hash sha256) (r.map body) session)
        (Refused i db payment))
    (hs : Ready t c payment profileId s) :
    Prog.Safe (Rely t) (fun _ _ => True) (Effect sha256 t c) t
      (Ended (fun a => Committed t c payment (a.map body)) (Ready t c payment profileId))
      (Service.transaction callback fun result inserted =>
        [.committed payment (result.map body) inserted]) s := by
  refine Prog.safe_atomic fun u hu i _ => ?_
  have ready := hs.rely hu
  dsimp only
  rcases Callback.transact_cases (.prisma .transactionAborted) (fun i => i.commitFault.map .prisma)
    (hends { i with now := u.world.now } u.world.db ready.profile)
    (fun a session h => by cases h <;> simp_all) with
    ⟨a, session, hattempt, _, ho⟩ | ⟨a, session, e, hattempt, hfault, ho⟩ |
      ⟨e, session, hrefused, ho⟩
  · rw [ho]
    dsimp only
    have heffect : Effect sha256 t c i u
        (u.after t { u.world with db := session.db.addNotifications session.outside }
          [.committed payment (a.map body)
            (session.db.transactions.rows.drop u.world.db.transactions.rows.length)]) := ?_
    · exact ⟨heffect, fun v hv =>
        ⟨(ready.executes.persists heffect.persists).persists hv.toPersists,
        session.db.transactions.rows.drop u.world.db.transactions.rows.length,
        hv.trace.subset (by simp [Shared.after])⟩⟩
    cases hattempt with
    | replayed row found completed hash hbody ok unchanged =>
      subst unchanged
      exact .replayed payment _ row ready.executes ready.uncommitted found completed
        hash hbody ok rfl
        (by simp [Shared.after])
    | posted p applied pays alive notices =>
      exact .posted payment _ p session.db session.outside
        (ready.due pays.payable) ready.uncommitted applied
        pays (notices.trans List.filter_sublist) rfl (by simp [Shared.after, applied.transactions])
  · rw [ho]
    dsimp only
    have hlate : i.commitFault ≠ none := by
      intro hnone
      simp [hnone] at hfault
    have heffect : Effect sha256 t c i u
        (u.after t { u.world with db := u.world.db.addNotifications session.outside } []) := by
      cases hattempt with
      | replayed row found completed hash hbody ok unchanged =>
        subst unchanged
        exact .idle (after_same rfl)
      | posted p applied pays alive notices =>
        exact .withdrawn payment p.source p.destination session.outside
          (ready.due pays.payable) pays.payable
          (.inl hlate) notices rfl (by simp [Shared.after])
    exact ⟨heffect, fun v hv => ready.rely (heffect.untraced.trans hv)⟩
  · rw [ho]
    dsimp only
    have heffect : Effect sha256 t c i u
        (u.after t { u.world with db := u.world.db.addNotifications session.outside } []) := by
      rcases hrefused with hnone | ⟨source, destination, payable, htype, hfault, notices⟩
      · rw [hnone]
        exact .idle (after_same rfl)
      · exact .withdrawn payment source destination session.outside (ready.due payable) payable
          (.inr ⟨htype, hfault⟩) notices rfl (by simp [Shared.after])
    exact ⟨heffect, fun v hv => ready.rely (heffect.untraced.trans hv)⟩

lemma runs_rejectIf {cond : Bool} {failure : Failure} {Q : Unit → State → Prop}
    (hs : Uncommitted t s) (hQ : cond = false → ∀ u, Rely t s u → Q () u) :
    Runs sha256 t c (rejectIf cond failure) s Q := by
  unfold rejectIf
  cases cond with
  | true => exact runs_throw hs
  | false => exact runs_pure (hQ rfl)

lemma runs_requireVerified {userId : Uuid} {message : String} {Q : CustomerProfile → State → Prop}
    (hs : Uncommitted t s)
    (hQ : ∀ profile u, Rely t s u → KnownProfile userId profile.id u → Q profile u) :
    Runs sha256 t c (requireVerified userId message) s Q := by
  unfold requireVerified
  refine runs_bind (runs_read hs fun _ u v hu hv => ?_)
  have hv' := (hs.rely hu).rely hv
  cases hf : u.world.db.customerProfiles.findAlt userId with
  | none => exact runs_throw hv'
  | some profile =>
    obtain ⟨hm, huser⟩ := Table.findAlt_eq_some.mp hf
    have hknown : KnownProfile userId profile.id u := ⟨profile, hm, Option.some.inj huser, rfl⟩
    dsimp only
    split
    · exact runs_throw hv'
    · exact runs_pure fun w hw => hQ profile w ((hu.trans hv).trans hw)
        (hknown.persists (hv.trans hw).toPersists)

lemma runs_redisSet {userId : Uuid} {request : PaymentRequest} {idempotencyKey : String}
    {Q : String → State → Prop} (hs : Uncommitted t s)
    (hc : c = .payment userId request idempotencyKey)
    (hlarge : stepUpThreshold < request.amount.value) (hQ : ∀ id u, Uncommitted t u → Q id u) :
    Runs sha256 t c (redisSet userId request (trim idempotencyKey)) s Q := by
  refine runs_atomic fun u hu i => ?_
  have hu' := hs.rely hu
  cases hf : i.fault .redisSet with
  | some e =>
    rw [after_same rfl]
    exact ⟨.idle rfl, fun v hv => hu'.rely hv⟩
  | none =>
    refine ⟨.challengeStored userId request idempotencyKey hc hlarge rfl rfl, fun v hv => hQ _ v ?_⟩
    refine Uncommitted.rely ?_ hv
    intro payment result inserted hm
    simp only [Shared.after, List.map_cons, List.map_nil, List.mem_append, List.mem_singleton,
      Prod.mk.injEq, reduceCtorEq, and_false, or_false] at hm
    exact hu' _ _ _ hm

lemma runs_mockFraudCheck {userId : Uuid} {request : PaymentRequest} {idempotencyKey : String}
    {Q : Unit → State → Prop} (hs : Uncommitted t s)
    (hc : c = .payment userId request idempotencyKey)
    (hQ : ∀ u, Rely t s u → request.amount.value ≤ stepUpThreshold ∨
      KeyCompleted userId (trim idempotencyKey) u → Q () u) :
    Runs sha256 t c (runMockFraudCheck userId (trim idempotencyKey) request.amount.value request) s
      Q := by
  unfold runMockFraudCheck
  split
  · rename_i hlarge
    refine runs_bind (runs_read hs fun _ u v hu hv => ?_)
    have hv' := (hs.rely hu).rely hv
    split
    · rename_i hcompleted
      obtain ⟨k, hk, hstatus⟩ := Option.map_eq_some_iff.mp hcompleted
      obtain ⟨hm, hkey⟩ := Table.findAlt_eq_some.mp hk
      obtain ⟨huser, hkey⟩ := Prod.mk.injEq .. ▸ Option.some.inj hkey
      have hdone : KeyCompleted userId (trim idempotencyKey) u := ⟨k, hm, huser, hkey, hstatus⟩
      exact runs_pure fun w hw => hQ w ((hu.trans hv).trans hw)
        (.inr (hdone.of_keys (hv.trans hw).keys))
    · exact runs_bind (runs_redisSet hv' hc hlarge fun _ _ hw => runs_throw hw)
  · rename_i hsmall
    exact runs_pure fun u hu => hQ u hu (.inl (not_lt.mp hsmall))

theorem runs_pay {β : Type} {userId : Uuid} {request : PaymentRequest} {idempotencyKey : String}
    {skipFraudCheck : Bool} {endpoint : Endpoint β} (hs : Uncommitted t s)
    (hx : Executes t s c ⟨userId, request, trim idempotencyKey⟩)
    (hskip : skipFraudCheck = true → c.asked = none)
    (hcheck : skipFraudCheck = false → c = .payment userId request idempotencyKey)
    (hdistinct : endpoint.precheck = false → ∀ dto, request = .internalTransfer dto →
      dto.sourceAccountId ≠ dto.destinationAccountId)
    (hends : request.currency = "RON" → ∀ profileId i db, (∃ profile ∈ db.customerProfiles.rows,
        profile.userId = userId ∧ profile.id = profileId) →
      Callback.Ends i (endpoint.execute profileId) { db }
        (fun r session => Attempt i db ⟨userId, request, trim idempotencyKey⟩ (request.hash sha256)
          (r.map endpoint.body) session)
        (Refused i db ⟨userId, request, trim idempotencyKey⟩)) :
    Runs sha256 t c (pay userId request idempotencyKey skipFraudCheck endpoint) s
      (fun r u => Committed t c ⟨userId, request, trim idempotencyKey⟩
          (r.map endpoint.body) u) := by
  unfold pay
  refine runs_bind (runs_rejectIf hs fun hkey a ha => ?_)
  refine runs_bind (runs_requireVerified (hs.rely ha) fun profile b hb hprofile => ?_)
  have hsb := ha.trans hb
  refine runs_bind (runs_rejectIf (hs.rely hsb) fun hprecheck d hd => ?_)
  have hsd := hsb.trans hd
  refine runs_bind (runs_rejectIf (hs.rely hsd) fun hcurrency e he => ?_)
  have hse := hsd.trans he
  refine runs_bind (runs_rejectIf (hs.rely hse) fun _ f hf => ?_)
  have hsf := hse.trans hf
  have hron : request.currency = "RON" := by simpa using hcurrency
  have haccepted : Payment.Accepted ⟨userId, request, trim idempotencyKey⟩ :=
    ⟨by simpa using hkey, hron, hdistinct hprecheck⟩
  have hknown := hprofile.persists (hd.trans (he.trans hf)).toPersists
  have hloop : ∀ u, Rely t f u → (c.asked ≠ none → request.amount.value ≤ stepUpThreshold ∨
      KeyCompleted userId (trim idempotencyKey) u) →
      Runs sha256 t c
        (Service.retrying endpoint.exhausted
          (Service.transaction (endpoint.execute profile.id) fun result inserted =>
            [.committed ⟨userId, request, trim idempotencyKey⟩ (result.map endpoint.body) inserted])
          serializableRetries) u
        (fun r v => Committed t c ⟨userId, request, trim idempotencyKey⟩ (r.map endpoint.body) v) :=
    fun u hu hallowed => runs_retrying
      (I := Ready t c ⟨userId, request, trim idempotencyKey⟩ profile.id) (fun _ h => h.uncommitted)
      (fun v hv => attempt_safe (hends hron profile.id) hv) _
      ⟨hs.rely (hsf.trans hu), hx.persists (hsf.trans hu).toPersists, haccepted,
        hknown.persists hu.toPersists,
        hallowed⟩
  cases skipFraudCheck with
  | true =>
    exact runs_bind (runs_pure fun u hu => hloop u hu fun hasked => absurd (hskip rfl) hasked)
  | false =>
    exact runs_bind (runs_mockFraudCheck (hs.rely hsf) (hcheck rfl) fun u hu hpass =>
      hloop u hu fun _ => hpass)

section Endpoints

variable {userId : Uuid} {idempotencyKey : String} {skipFraudCheck : Bool}

lemma runs_transfer {dto : CreateTransferDto} (hs : Uncommitted t s)
    (hx : Executes t s c ⟨userId, .internalTransfer dto, trim idempotencyKey⟩)
    (hskip : skipFraudCheck = true → c.asked = none)
    (hcheck : skipFraudCheck = false → c = .payment userId (.internalTransfer dto) idempotencyKey) :
    Runs sha256 t c (transfer sha256 userId dto idempotencyKey skipFraudCheck) s
      (fun r u => Committed t c ⟨userId, .internalTransfer dto, trim idempotencyKey⟩
          (r.map .transfer) u) := by
  refine runs_pay hs hx hskip hcheck ?_ fun hcurrency _ i db _ => ?_
  · rintro hne _ ⟨⟩
    simpa using hne
  have hron : normalizeCurrency (dto.currency.orElse "RON") = "RON" := hcurrency
  have h := executeTransferTx_ends i db userId dto (trim idempotencyKey)
    (PaymentRequest.hash sha256 (.internalTransfer dto))
  rw [← hron] at h
  exact h

lemma runs_transferToBeneficiary {dto : TransferToBeneficiaryDto} (hs : Uncommitted t s)
    (hx : Executes t s c ⟨userId, .beneficiaryTransfer dto, trim idempotencyKey⟩)
    (hskip : skipFraudCheck = true → c.asked = none)
    (hcheck : skipFraudCheck = false →
      c = .payment userId (.beneficiaryTransfer dto) idempotencyKey) :
    Runs sha256 t c (transferToBeneficiary sha256 userId dto idempotencyKey skipFraudCheck) s
      (fun r u =>
        Committed t c ⟨userId, .beneficiaryTransfer dto, trim idempotencyKey⟩
            (r.map .beneficiary) u) := by
  refine runs_pay hs hx hskip hcheck (by simp) fun hcurrency profileId i db owner => ?_
  have hron : normalizeCurrency dto.currency = "RON" := hcurrency
  have h := executeBeneficiaryTransferTx_ends i db userId dto (trim idempotencyKey)
    (PaymentRequest.hash sha256 (.beneficiaryTransfer dto)) owner
  rw [← hron] at h
  exact h

lemma runs_payMerchant {dto : PayMerchantDto} (hs : Uncommitted t s)
    (hx : Executes t s c ⟨userId, .merchantPayment dto, trim idempotencyKey⟩)
    (hskip : skipFraudCheck = true → c.asked = none)
    (hcheck : skipFraudCheck = false → c = .payment userId (.merchantPayment dto) idempotencyKey) :
    Runs sha256 t c (payMerchant sha256 userId dto idempotencyKey skipFraudCheck) s
      (fun r u => Committed t c ⟨userId, .merchantPayment dto, trim idempotencyKey⟩
          (r.map .merchant) u) := by
  refine runs_pay hs hx hskip hcheck (by simp) fun hcurrency profileId i db owner => ?_
  have hron : normalizeCurrency dto.currency = "RON" := hcurrency
  have h := executeMerchantPaymentTx_ends i db userId dto (trim idempotencyKey)
    (PaymentRequest.hash sha256 (.merchantPayment dto)) owner
  rw [← hron] at h
  exact h

lemma runs_runRequest {request : PaymentRequest} (hs : Uncommitted t s)
    (hx : Executes t s c ⟨userId, request, trim idempotencyKey⟩)
    (hskip : skipFraudCheck = true → c.asked = none)
    (hcheck : skipFraudCheck = false → c = .payment userId request idempotencyKey) :
    Runs sha256 t c (runRequest sha256 userId request idempotencyKey skipFraudCheck) s
      (fun r u => Committed t c ⟨userId, request, trim idempotencyKey⟩ r u) := by
  have hpersists : ∀ {r u v}, Committed t c ⟨userId, request, trim idempotencyKey⟩ r u →
      Rely t u v →
      Committed t c ⟨userId, request, trim idempotencyKey⟩ r v :=
    fun ⟨hx, inserted, hl⟩ hv => ⟨hx.persists hv.toPersists, inserted, hv.trace.subset hl⟩
  cases request with
  | internalTransfer dto =>
    exact runs_bind (runs_mono (runs_transfer hs hx hskip hcheck) fun r u hu =>
      runs_pure fun v hv => hpersists hu hv)
  | beneficiaryTransfer dto =>
    exact runs_bind (runs_mono (runs_transferToBeneficiary hs hx hskip hcheck) fun r u hu =>
      runs_pure fun v hv => hpersists hu hv)
  | merchantPayment dto =>
    exact runs_bind (runs_mono (runs_payMerchant hs hx hskip hcheck) fun r u hu =>
      runs_pure fun v hv => hpersists hu hv)

end Endpoints

lemma runs_redisGet {userId : Uuid} {challengeId otp : String}
    {Q : Option StepUpChallenge → State → Prop} (hs : ownTrace t s = [])
    (hc : c = .confirmStepUp userId challengeId otp) (hnone : ∀ u, Rely t s u → Q none u)
    (hsome : ∀ challenge u at_, Uncommitted t u →
      (t, Event.challengeRead userId challengeId challenge at_) ∈ u.trace → Q (some challenge) u) :
    Runs sha256 t c (redisGet userId challengeId) s Q := by
  refine runs_atomic fun u hu i => ?_
  have hown : ownTrace t u = [] := hu.own.trans hs
  have hu' := uncommitted_of_own_nil hown
  cases hf : i.fault .redisGet with
  | some e =>
    rw [after_same rfl]
    exact ⟨.idle rfl, fun v hv => hu'.rely hv⟩
  | none =>
    cases hg : u.world.redis.get (stepUpKey userId challengeId) u.world.now with
    | none =>
      dsimp only
      rw [after_same rfl]
      exact ⟨.idle rfl, fun v hv => hnone v (hu.trans hv)⟩
    | some challenge =>
      refine ⟨.challengeRead userId challengeId otp challenge hc hown hg rfl rfl, fun v hv => ?_⟩
      refine hsome challenge v u.world.now (Uncommitted.rely ?_ hv)
        (hv.trace.subset (by simp [Shared.after]))
      intro payment result inserted hm
      simp only [Shared.after, List.map_cons, List.map_nil, List.mem_append, List.mem_singleton,
        Prod.mk.injEq, reduceCtorEq, and_false, or_false] at hm
      exact hu' _ _ _ hm

lemma runs_redisDel {userId : Uuid} {challengeId otp : String} {Q : Unit → State → Prop}
    (hs : Uncommitted t s) (hc : c = .confirmStepUp userId challengeId otp)
    (hQ : ∀ u, Rely t s u → Q () u) : Runs sha256 t c (redisDel userId challengeId) s Q := by
  refine runs_atomic fun u hu i => ?_
  cases hf : i.fault .redisDel with
  | some e =>
    rw [after_same rfl]
    exact ⟨.idle rfl, fun v hv => (hs.rely hu).rely hv⟩
  | none =>
    have heffect : Effect sha256 t c i u
        (u.after t { u.world with redis := u.world.redis.del (stepUpKey userId challengeId) } []) :=
      .challengeDeleted userId challengeId otp hc rfl (by simp [Shared.after])
    exact ⟨heffect, fun v hv => hQ v (hu.trans (heffect.untraced.trans hv))⟩

theorem runs_confirmStepUp {userId : Uuid} {challengeId otp : String} (hs : ownTrace t s = [])
    (hc : c = .confirmStepUp userId challengeId otp) :
    Runs sha256 t c (confirmStepUp sha256 userId challengeId otp) s
      (fun r u => ∃ payment, Committed t c payment r u) := by
  unfold confirmStepUp
  refine runs_bind (runs_redisGet hs hc (fun u hu => ?_) fun challenge u at_ hu hread => ?_)
  · exact runs_throw ((uncommitted_of_own_nil hs).rely hu)
  · dsimp only
    split
    · exact runs_throw hu
    · rename_i hotp
      have hpresented : challenge.otp = otp := by
        have hstored : challenge.toJson.strField "otp" = some challenge.otp := rfl
        simpa [hstored] using hotp
      refine runs_bind (runs_redisDel hu hc fun v hv => ?_)
      have hx : Executes t v c ⟨userId, challenge.request, trim challenge.idempotencyKey⟩ :=
        hc ▸ .confirmed (hv.trace.subset hread) hpresented
      simp only [storedPayload_toJson]
      refine runs_mono (runs_runRequest (hu.rely hv) hx ?_ (by simp)) fun r w hw => ⟨_, hw⟩
      intro _
      rw [hc]
      rfl

end Payments

end OnlineBanking
