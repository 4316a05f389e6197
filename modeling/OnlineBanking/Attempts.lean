import OnlineBanking.AllThreads
import OnlineBanking.Library.TwoRuns

set_option autoImplicit false

/-! The way of a payment call to its transaction, for any rely and guarantee: reads and commands of
Redis, then a loop of attempts. What is proved of one attempt is carried over to the calls here. -/

namespace OnlineBanking

open Library

def Event.IsCommitted : Event → Prop
  | .committed _ _ _ => True
  | _ => False

section Ways

-- the rules below are all that is used of it
attribute [local irreducible] Prog.Safe

variable {sha256 : String → String} {Rely : State → State → Prop} {Given : Inputs → State → Prop}
variable {G : Inputs → State → State → Prop} {t : ℕ}

/-- `I` is kept by the others and by every action that leaves the database alone and commits
nothing; such an action is also within the guarantee. -/
structure Way (Rely : State → State → Prop) (Given : Inputs → State → Prop)
    (G : Inputs → State → State → Prop) (t : ℕ) (I : State → Prop) : Prop where
  refl : ∀ u, Rely u u
  trans : ∀ u v w, Rely u v → Rely v w → Rely u w
  rely : ∀ u v, I u → Rely u v → I v
  aside : ∀ i u w es, I u → Given i u → w.db = u.world.db → (∀ e ∈ es, ¬ e.IsCommitted) →
    G i u (u.after t w es) ∧ I (u.after t w es)

variable {α β : Type} {I : State → Prop} {s : State}
variable {Q : Except Failure α → State → Prop} {R : Except Failure β → State → Prop}

lemma Way.bind (hI : Way Rely Given G t I) {x : Service α} {f : α → Service β}
    (hfail : ∀ e u, R (.error e) u)
    (h : x.Safe Rely Given G t (fun r u => ∀ a, r = .ok a → (f a).Safe Rely Given G t R u) s) :
    (x >>= f).Safe Rely Given G t R s := by
  refine Prog.safe_bind hI.refl (h.mono fun r u hr => ?_)
  cases r with
  | ok a => exact hr a rfl
  | error e => exact fun v _ => hfail e v

lemma Way.pure (hI : Way Rely Given G t I) (hs : I s) {a : α} (hQ : ∀ u, I u → Q (.ok a) u) :
    (pure a : Service α).Safe Rely Given G t Q s :=
  Prog.safe_pure fun u hu => hQ u (hI.rely s u hs hu)

lemma Way.throw {e : Failure} (hfail : ∀ e u, Q (.error e) u) :
    (throw e : Service α).Safe Rely Given G t Q s := Prog.safe_throw fun u _ => hfail e u

lemma Way.atomic (hI : Way Rely Given G t I) (hs : I s)
    {a : Inputs → World → Except Failure α × World × List Event}
    (hdb : ∀ i w, (a i w).2.1.db = w.db) (hes : ∀ i w, ∀ e ∈ (a i w).2.2, ¬ e.IsCommitted)
    (hQ : ∀ i w u, I u → Q (a i w).1 u) : (Prog.atomic a).Safe Rely Given G t Q s := by
  refine Prog.safe_atomic fun u hu i hi => ?_
  obtain ⟨hg, hk⟩ := hI.aside i u _ _ (hI.rely s u hs hu) hi (hdb i u.world) (hes i u.world)
  exact ⟨hg, fun v hv => hQ i u.world v (hI.rely _ v hk hv)⟩

lemma Way.read (hI : Way Rely Given G t I) (hs : I s) {l : Statement} {f : ℕ → Db → α}
    (hfail : ∀ e u, Q (.error e) u)
    (hQ : ∀ n u, I u → ∀ v, Rely u v → Q (.ok (f n u.world.db)) v) :
    (Service.read l f).Safe Rely Given G t Q s := by
  refine Prog.safe_atomic fun u hu i hi => ?_
  have hIu := hI.rely s u hs hu
  obtain ⟨hg, hk⟩ := hI.aside i u u.world [] hIu hi rfl (by simp)
  have hsame : u.after t u.world [] = u := after_same rfl
  cases hf : i.fault l with
  | some e => exact ⟨hg, fun v _ => hfail _ v⟩
  | none =>
    refine ⟨hg, fun v hv => hQ (i.choice l) u hIu v ?_⟩
    rwa [← hsame]

lemma Way.rejectIf (hI : Way Rely Given G t I) (hs : I s) {cond : Bool} {failure : Failure}
    {Q : Except Failure Unit → State → Prop} (hfail : ∀ e u, Q (.error e) u)
    (hQ : cond = false → ∀ u, I u → Q (.ok ()) u) :
    (rejectIf cond failure).Safe Rely Given G t Q s := by
  unfold OnlineBanking.rejectIf
  cases cond with
  | true => exact Way.throw hfail
  | false => exact hI.pure hs (hQ rfl)

lemma Way.mockFraudCheck (hI : Way Rely Given G t I) (hs : I s) {userId : Uuid}
    {idempotencyKey : String} {amount : ℚ} {request : PaymentRequest}
    {Q : Except Failure Unit → State → Prop} (hfail : ∀ e u, Q (.error e) u)
    (hQ : ∀ u, I u → Q (.ok ()) u) :
    (runMockFraudCheck userId idempotencyKey amount request).Safe Rely Given G t Q s := by
  unfold runMockFraudCheck
  split
  · refine hI.bind hfail (hI.read hs (fun _ _ _ h => by cases h) fun _ u hu v hv row hrow => ?_)
    have hIv := hI.rely u v hu hv
    split
    · exact hI.pure hIv hQ
    · refine hI.bind hfail (hI.atomic hIv ?_ ?_ fun i w x _ a _ => Way.throw hfail)
      · intro i w
        cases i.fault .redisSet <;> simp
      · intro i w e he
        cases hf : i.fault .redisSet <;> simp [hf] at he
        simp [he, Event.IsCommitted]
  · exact hI.pure hs hQ

lemma Way.retrying (hI : Way Rely Given G t I) {exhausted : Failure} {attempt : Service α}
    (hfail : ∀ e u, Q (.error e) u)
    (h : ∀ u, I u → attempt.Safe Rely Given G t
      (Ended (fun a v => ∀ u, Rely v u → Q (.ok a) u) I) u) (n : ℕ) (hs : I s) :
    (Service.retrying exhausted attempt n).Safe Rely Given G t Q s := by
  induction n generalizing s with
  | zero => exact Way.throw hfail
  | succ n ih =>
    refine Prog.safe_finish ((h s hs).mono fun r u hr => ?_) hI.refl
    cases r with
    | ok a => exact Prog.safe_pure fun v hv => hr v hv
    | error e =>
      dsimp only
      split
      · exact ih hr
      · exact Way.throw hfail

lemma Way.requireVerified (hI : Way Rely Given G t I) {J : CustomerProfile → State → Prop}
    (hJ : ∀ profile, Way Rely Given G t (J profile)) (hs : I s) {userId : Uuid} {message : String}
    (hread : ∀ profile u, I u → u.world.db.customerProfiles.findAlt userId = some profile →
      profile.kycStatus = .verified → J profile u)
    {Q : Except Failure CustomerProfile → State → Prop} (hfail : ∀ e u, Q (.error e) u)
    (hQ : ∀ profile u, J profile u → Q (.ok profile) u) :
    (OnlineBanking.requireVerified userId message).Safe Rely Given G t Q s := by
  unfold OnlineBanking.requireVerified
  refine hI.bind hfail (hI.read hs (fun _ _ _ h => by cases h) fun _ u hu v hv row hrow => ?_)
  obtain rfl := Except.ok.inj hrow
  cases hf : u.world.db.customerProfiles.findAlt userId with
  | none => exact Way.throw hfail
  | some profile =>
    dsimp only
    split
    · exact Way.throw hfail
    · rename_i hverified
      have hprofile := hread profile u hu hf (not_not.mp hverified)
      exact (hJ profile).pure ((hJ profile).rely u v hprofile hv) fun w hw => hQ profile w hw

theorem Way.pay (hI : Way Rely Given G t I) {J : CustomerProfile → State → Prop}
    (hJ : ∀ profile, Way Rely Given G t (J profile)) (hs : I s) {userId : Uuid}
    {request : PaymentRequest} {idempotencyKey : String} {skipFraudCheck : Bool}
    {endpoint : Endpoint β}
    (hread : ∀ profile u, I u → u.world.db.customerProfiles.findAlt userId = some profile →
      profile.kycStatus = .verified → J profile u)
    {Q : Except Failure (ServiceResult β) → State → Prop} (hfail : ∀ e u, Q (.error e) u)
    (hattempt : ∀ profile u, J profile u → request.currency = "RON" →
      Prog.Safe Rely Given G t (Ended (fun a v => ∀ u, Rely v u → Q (.ok a) u) (J profile))
        (Service.transaction (endpoint.execute profile.id) fun result inserted =>
          [.committed ⟨userId, request, trim idempotencyKey⟩ (result.map endpoint.body) inserted])
              u) :
    (OnlineBanking.pay userId request idempotencyKey skipFraudCheck endpoint).Safe Rely Given
    G t Q s := by
  unfold OnlineBanking.pay
  refine hI.bind hfail (hI.rejectIf hs (fun _ _ _ h => by cases h) fun _ u hu _ _ => ?_)
  refine hI.bind hfail (hI.requireVerified hJ hu hread (fun _ _ _ h => by cases h)
    fun profile u hu _ hp => ?_)
  obtain rfl := Except.ok.inj hp
  have hP := hJ profile
  refine hP.bind hfail (hP.rejectIf hu (fun _ _ _ h => by cases h) fun _ u hu _ _ => ?_)
  refine hP.bind hfail (hP.rejectIf hu (fun _ _ _ h => by cases h) fun hcurrency u hu _ _ => ?_)
  refine hP.bind hfail (hP.rejectIf hu (fun _ _ _ h => by cases h) fun _ u hu _ _ => ?_)
  have hron : request.currency = "RON" := by simpa using hcurrency
  have hloop : ∀ v, J profile v → Prog.Safe Rely Given G t Q
      (Service.retrying endpoint.exhausted
        (Service.transaction (endpoint.execute profile.id) fun result inserted =>
          [.committed ⟨userId, request, trim idempotencyKey⟩ (result.map endpoint.body) inserted])
        serializableRetries) v :=
    fun v hv => hP.retrying hfail (fun x hx => hattempt profile x hx hron) serializableRetries hv
  cases skipFraudCheck with
  | true => exact hloop u hu
  | false =>
    refine hP.bind hfail ?_
    exact hP.mockFraudCheck hu (fun _ _ _ h => by cases h) fun u hu _ _ => hloop u hu

inductive PaymentCallback (sha256 : String → String) (payment : Payment) (profileId : Uuid) :
    {β : Type} → Tx (ServiceResult β) → (β → PaymentBody) → Prop
  | transfer (dto : CreateTransferDto) (currency : String) (ron : currency = "RON")
      (request : payment.request = .internalTransfer dto) :
    PaymentCallback sha256 payment profileId
      (executeTransferTx payment.userId dto payment.key currency (payment.request.hash sha256))
        .transfer
  | beneficiary (dto : TransferToBeneficiaryDto) (currency : String) (ron : currency = "RON")
      (request : payment.request = .beneficiaryTransfer dto) :
    PaymentCallback sha256 payment profileId
      (executeBeneficiaryTransferTx payment.userId profileId dto payment.key currency
        (payment.request.hash sha256)) .beneficiary
  | merchant (dto : PayMerchantDto) (currency : String) (ron : currency = "RON")
      (request : payment.request = .merchantPayment dto) :
    PaymentCallback sha256 payment profileId
      (executeMerchantPaymentTx payment.userId profileId dto payment.key currency
        (payment.request.hash sha256)) .merchant

lemma PaymentCallback.ends {payment : Payment} {profileId : Uuid} {callback : Tx (ServiceResult β)}
    {body : β → PaymentBody} (h : PaymentCallback sha256 payment profileId callback body)
    (i : TxInputs) (db : Db)
    (owner : ∃ profile ∈ db.customerProfiles.rows, profile.userId = payment.userId ∧
      profile.id = profileId) :
    Callback.Ends i callback { db }
      (fun r s => Attempt i db payment (payment.request.hash sha256) (r.map body) s)
        (Refused i db payment) := by
  obtain ⟨userId, request, key⟩ := payment
  cases h with
  | transfer dto currency ron hrequest =>
    subst ron hrequest
    exact executeTransferTx_ends i db userId dto key _
  | beneficiary dto currency ron hrequest =>
    subst ron hrequest
    exact executeBeneficiaryTransferTx_ends i db userId dto key _ owner
  | merchant dto currency ron hrequest =>
    subst ron hrequest
    exact executeMerchantPaymentTx_ends i db userId dto key _ owner

lemma PaymentCallback.alive {payment : Payment} {profileId : Uuid} {callback : Tx (ServiceResult β)}
    {body : β → PaymentBody} (h : PaymentCallback sha256 payment profileId callback body)
    (i : TxInputs) (db : Db)
    (owner : ∃ profile ∈ db.customerProfiles.rows, profile.userId = payment.userId ∧
      profile.id = profileId) :
    Callback.Ends i callback { db } (fun _ s => s.aborted = false) fun _ _ => True := by
  refine Callback.ends_mono (h.ends i db owner) (fun r s hr => ?_) fun _ _ _ => trivial
  cases hr with
  | replayed _ _ _ _ _ _ unchanged => rw [unchanged]
  | posted _ _ _ alive _ => exact alive

section Calls

variable {J : CustomerProfile → State → Prop} {userId : Uuid}

theorem Way.runRequest (hI : Way Rely Given G t I) (hJ : ∀ profile, Way Rely Given G t (J profile))
    (hs : I s) {request : PaymentRequest} {idempotencyKey : String} {skipFraudCheck : Bool}
    (hread : ∀ profile u, I u → u.world.db.customerProfiles.findAlt userId = some profile →
      profile.kycStatus = .verified → J profile u)
    {Q : Except Failure (ServiceResult PaymentBody) → State → Prop} (hfail : ∀ e u, Q (.error e) u)
    (hattempt : ∀ (β : Type) (callback : Tx (ServiceResult β)) body profile u,
      PaymentCallback sha256 ⟨userId, request, trim idempotencyKey⟩ profile.id callback body →
        J profile u →
      Prog.Safe Rely Given G t (Ended (fun a v => ∀ u, Rely v u → Q (.ok (a.map body)) u)
          (J profile))
        (Service.transaction callback fun result inserted =>
          [.committed ⟨userId, request, trim idempotencyKey⟩ (result.map body) inserted]) u) :
    (runRequest sha256 userId request idempotencyKey skipFraudCheck).Safe Rely Given G t Q s := by
  have hanswer : ∀ {β : Type} {body : β → PaymentBody} {endpoint : Service (ServiceResult β)},
      endpoint.Safe Rely Given G t (Ended (fun a v => Q (.ok (a.map body)) v) fun _ => True) s →
      Prog.Safe Rely Given G t Q (do return (← endpoint).map body) s := by
    intro β body endpoint h
    refine hI.bind hfail ((h.stable hI.trans).mono fun r u hr a ha => ?_)
    subst ha
    exact Prog.safe_pure fun v hv => hr v hv
  cases request with
  | internalTransfer dto =>
    have h : (transfer sha256 userId dto idempotencyKey skipFraudCheck).Safe Rely Given G t
        (Ended (fun a v => Q (.ok (a.map .transfer)) v) fun _ => True) s :=
      hI.pay hJ hs hread (fun _ _ => trivial) fun profile u hu hcurrency =>
        hattempt _ _ _ profile u (.transfer dto _ hcurrency rfl) hu
    exact hanswer h
  | beneficiaryTransfer dto =>
    have h : (transferToBeneficiary sha256 userId dto idempotencyKey skipFraudCheck).Safe
        Rely Given G t
        (Ended (fun a v => Q (.ok (a.map .beneficiary)) v) fun _ => True) s :=
      hI.pay hJ hs hread (fun _ _ => trivial) fun profile u hu hcurrency =>
        hattempt _ _ _ profile u (.beneficiary dto _ hcurrency rfl) hu
    exact hanswer h
  | merchantPayment dto =>
    have h : (payMerchant sha256 userId dto idempotencyKey skipFraudCheck).Safe Rely Given G t
        (Ended (fun a v => Q (.ok (a.map .merchant)) v) fun _ => True) s :=
      hI.pay hJ hs hread (fun _ _ => trivial) fun profile u hu hcurrency =>
        hattempt _ _ _ profile u (.merchant dto _ hcurrency rfl) hu
    exact hanswer h

lemma Way.redisGet (hI : Way Rely Given G t I) (hs : I s) {challengeId : String}
    {Q : Except Failure (Option StepUpChallenge) → State → Prop} (hQ : ∀ r u, I u → Q r u) :
    (OnlineBanking.redisGet userId challengeId).Safe Rely Given G t Q s := by
  refine hI.atomic hs ?_ ?_ fun _ _ u hu => hQ _ u hu
  · intro i w
    cases i.fault .redisGet with
    | some e => rfl
    | none => cases w.redis.get (stepUpKey userId challengeId) w.now <;> simp
  · intro i w e he
    cases hf : i.fault .redisGet with
    | some _ => simp [hf] at he
    | none =>
      cases h : w.redis.get (stepUpKey userId challengeId) w.now with
      | none => simp [hf, h] at he
      | some challenge =>
        obtain rfl : e = .challengeRead userId challengeId challenge w.now := by
          simpa [hf, h] using he
        exact id

lemma Way.redisDel (hI : Way Rely Given G t I) (hs : I s) {challengeId : String}
    {Q : Except Failure Unit → State → Prop} (hQ : ∀ r u, I u → Q r u) :
    (OnlineBanking.redisDel userId challengeId).Safe Rely Given G t Q s := by
  refine hI.atomic hs ?_ ?_ fun _ _ u hu => hQ _ u hu
  · intro i w
    cases i.fault .redisDel <;> rfl
  · intro i w e he
    cases hf : i.fault .redisDel <;> simp [hf] at he

theorem Way.confirmStepUp (hI : Way Rely Given G t I)
    (hJ : ∀ profile, Way Rely Given G t (J profile)) (hs : I s) {challengeId otp : String}
    (hread : ∀ profile u, I u → u.world.db.customerProfiles.findAlt userId = some profile →
      profile.kycStatus = .verified → J profile u)
    {Q : Except Failure (ServiceResult PaymentBody) → State → Prop} (hfail : ∀ e u, Q (.error e) u)
    (hattempt : ∀ payment, payment.userId = userId →
      ∀ (β : Type) (callback : Tx (ServiceResult β)) body profile u,
        PaymentCallback sha256 payment profile.id callback body → J profile u →
        Prog.Safe Rely Given G t (Ended (fun a v => ∀ u, Rely v u → Q (.ok (a.map body)) u)
            (J profile))
          (Service.transaction callback fun result inserted =>
            [.committed payment (result.map body) inserted]) u) :
    (OnlineBanking.confirmStepUp sha256 userId challengeId otp).Safe Rely Given G t Q s := by
  unfold OnlineBanking.confirmStepUp
  refine hI.bind hfail (hI.redisGet hs fun _ u hu stored _ => ?_)
  cases stored with
  | none => exact Way.throw hfail
  | some stored =>
    dsimp only
    split
    · exact Way.throw hfail
    · refine hI.bind hfail (hI.redisDel hu fun _ v hv _ _ => ?_)
      simp only [storedPayload_toJson]
      exact hI.runRequest hJ hv hread hfail (hattempt _ rfl)

theorem Way.handle (hI : Way Rely Given G t I) (hJ : ∀ profile, Way Rely Given G t (J profile))
    (hs : I s) {c : Call} (hc : c.payer = some userId)
    (hread : ∀ profile u, I u → u.world.db.customerProfiles.findAlt userId = some profile →
      profile.kycStatus = .verified → J profile u)
    (hattempt : ∀ payment, payment.userId = userId →
      ∀ (β : Type) (callback : Tx (ServiceResult β)) body profile u,
        PaymentCallback sha256 payment profile.id callback body → J profile u →
        Prog.Safe Rely Given G t (Ended (fun _ _ => True) (J profile))
          (Service.transaction callback fun result inserted =>
            [.committed payment (result.map body) inserted]) u) :
    (handle sha256 c).Safe Rely Given G t (fun _ _ => True) s := by
  have hanswer : ∀ {endpoint : Service (ServiceResult PaymentBody)},
      endpoint.Safe Rely Given G t (fun _ _ => True) s →
      Prog.Safe Rely Given G t (fun _ _ => True) (do return Response.payment (← endpoint)) s :=
    fun h => hI.bind (fun _ _ => trivial)
      (h.mono fun _ _ _ _ _ => Prog.safe_pure fun _ _ => trivial)
  have hstep : ∀ payment, payment.userId = userId →
      ∀ (β : Type) (callback : Tx (ServiceResult β)) body profile u,
        PaymentCallback sha256 payment profile.id callback body → J profile u →
        Prog.Safe Rely Given G t (Ended (fun _ v => ∀ u, Rely v u → True) (J profile))
          (Service.transaction callback fun result inserted =>
            [.committed payment (result.map body) inserted]) u := by
    intro payment hp β callback body profile u hcallback hu
    refine (hattempt payment hp β callback body profile u hcallback hu).mono fun r _ hr => ?_
    cases r with
    | ok a => exact fun _ _ => trivial
    | error e => exact hr
  cases c with
  | payment _ request idempotencyKey =>
    obtain rfl := Option.some.inj hc
    exact hanswer (hI.runRequest hJ hs hread (fun _ _ => trivial) (hstep _ rfl))
  | confirmStepUp _ challengeId otp =>
    obtain rfl := Option.some.inj hc
    exact hanswer (hI.confirmStepUp hJ hs hread (fun _ _ => trivial) hstep)
  | _ => cases hc

end Calls

end Ways

section Logged

variable {sha256 : String → String} (P : Db → Db → Payment → ServiceResult PaymentBody → Prop)

/-- A payment that the step commits meets `P`, apart from notices of the root client. -/
def Certified (s s' : State) : Prop :=
  ∀ t payment result inserted,
    s'.trace = s.trace ++ [(t, Event.committed payment result inserted)] →
    ∃ db ns, P s.world.db db payment result ∧ s'.world.db = db.addNotifications ns

variable {P}

lemma Certified.of_quiet {s s' : State} {es : List (ℕ × Event)} (htrace : s'.trace = s.trace ++ es)
    (h : ∀ e ∈ es, ¬ e.2.IsCommitted) : Certified P s s' := by
  intro t payment result inserted hlogged
  obtain rfl : es = [(t, .committed payment result inserted)] :=
    List.append_cancel_left (htrace.symm.trans hlogged)
  exact absurd trivial (h _ (List.mem_singleton_self _))

lemma Certified.aside {t : ℕ} {u : State} {w : World} {es : List Event}
    (hes : ∀ e ∈ es, ¬ e.IsCommitted) :
    Certified P u (u.after t w es) := by
  refine .of_quiet rfl fun e he => ?_
  obtain ⟨x, hx, rfl⟩ := List.mem_map.mp he
  exact hes x hx

lemma way_certified (t : ℕ) : Way (Rely t) (fun _ _ => True) (fun _ => Certified P) t fun _ =>
    True where
  refl := Rely.refl t
  trans _ _ _ := Rely.trans
  rely _ _ _ _ := trivial
  aside _ _ _ _ _ _ _ hes := ⟨.aside hes, trivial⟩

lemma way_known (t : ℕ) (userId profileId : Uuid) :
    Way (Rely t) (fun _ _ => True) (fun _ => Certified P) t (KnownProfile userId profileId) where
  refl := Rely.refl t
  trans _ _ _ := Rely.trans
  rely _ _ h hr := h.persists hr.toPersists
  aside _ _ _ _ h _ hdb hes := ⟨.aside hes, by simpa [KnownProfile, Shared.after, hdb] using h⟩

lemma attempt_certified {β : Type} {callback : Tx (ServiceResult β)} {body : β → PaymentBody}
    {payment : Payment} {t : ℕ} {u : State} {profileId : Uuid}
    (hu : KnownProfile payment.userId profileId u)
    (h : ∀ i db, (∃ profile ∈ db.customerProfiles.rows, profile.userId = payment.userId ∧
      profile.id = profileId) →
      Callback.Ends i callback { db }
        (fun r session => session.aborted = false ∧ P db session.db payment (r.map body)) fun _ _ =>
            True) :
    Prog.Safe (Rely t) (fun _ _ => True) (fun _ => Certified P) t
      (Ended (fun _ _ => True) (KnownProfile payment.userId profileId))
      (Service.transaction callback fun result inserted =>
          [.committed payment (result.map body) inserted]) u := by
  refine Prog.safe_atomic fun v hv i _ => ?_
  have hknown := hu.persists hv.toPersists
  have hfailed : ∀ ns, Certified P v
      (v.after t { v.world with db := v.world.db.addNotifications ns } []) ∧
      ∀ w, Rely t (v.after t { v.world with db := v.world.db.addNotifications ns } []) w →
        KnownProfile payment.userId profileId w := by
    refine fun ns => ⟨.aside (by simp), fun w hw => ?_⟩
    obtain ⟨p, hp, hrow⟩ := hknown
    have hafter : KnownProfile payment.userId profileId
        (v.after t { v.world with db := v.world.db.addNotifications ns } []) :=
      ⟨p, by simpa [Shared.after] using hp, hrow⟩
    exact hafter.persists hw.toPersists
  dsimp only
  rcases Callback.transact_cases (.prisma .transactionAborted) (fun i => i.commitFault.map .prisma)
    (h { i with now := v.world.now } v.world.db hknown) (fun _ _ h => h.1) with
    ⟨a, session, hP, _, ho⟩ | ⟨_, _, _, _, _, ho⟩ | ⟨_, _, _, ho⟩
  · rw [ho]
    refine ⟨?_, fun _ _ => trivial⟩
    intro t' payment' result inserted htrace
    have hlogged := List.append_cancel_left htrace
    simp only [List.map_cons, List.map_nil, List.cons.injEq, Prod.mk.injEq, Event.committed.injEq,
      and_true] at hlogged
    obtain ⟨_, rfl, rfl, _⟩ := hlogged
    exact ⟨session.db, session.outside, hP.2, rfl⟩
  · rw [ho]
    exact hfailed _
  · rw [ho]
    exact hfailed _

/-- The discipline of the bank, with `P` guaranteed of every payment that a call logs. -/
def certifiedDiscipline (sha256 : String → String)
    (P : Db → Db → Payment → ServiceResult PaymentBody → Prop)
    (h : ∀ payment profileId (β : Type) (callback : Tx (ServiceResult β)) body,
      PaymentCallback sha256 payment profileId callback body → ∀ i db,
        (∃ profile ∈ db.customerProfiles.rows, profile.userId = payment.userId ∧
            profile.id = profileId) →
        Callback.Ends i callback { db }
          (fun r session => session.aborted = false ∧ P db session.db payment (r.map body))
              fun _ _ => True) :
    Discipline (E := Event) (handle sha256) environment :=
  (discipline sha256).strengthen (fun _ c _ s s' => c.payer ≠ none → Certified P s s')
    fun t c s _ => by
    cases hc : c.payer with
    | none => exact Prog.Safe.of_true (fun _ _ _ hne => absurd rfl hne) fun _ _ => trivial
    | some userId =>
      have hsafe : (handle sha256 c).Safe (Rely t) (fun _ _ => True) (fun _ => Certified P) t
          (fun _ _ => True) s := by
        refine (way_certified t).handle (fun profile => way_known t userId profile.id)
          trivial hc ?_ ?_
        · intro profile u _ hfound _
          obtain ⟨hm, huser⟩ := Table.findAlt_eq_some.mp hfound
          exact ⟨profile, hm, Option.some.inj huser, rfl⟩
        · rintro payment rfl β callback body profile u hcallback hu
          exact attempt_certified hu (h payment profile.id β callback body hcallback)
      exact hsafe.guar fun _ _ _ hlogged _ => hlogged

end Logged

lemma creditAccount_entered {sha256 : String → String} {t : ℕ} {s : State}
    {adminUserId accountId : Uuid} {dto : AdminCreditDto} {P : TxInputs → Db → Db → Prop}
    (hends : ∀ i db, Callback.Ends i (creditAccountTx adminUserId accountId dto) { db }
      (fun _ session => session.aborted = false ∧ P i db session.db) fun _ _ => True) :
    (handle sha256 (.creditAccount adminUserId accountId dto)).Safe (Rely t) (fun _ _ => True)
      (fun i s s' => s'.world.db.transactions = s.world.db.transactions ∨
        ∃ db ns, P { i with now := s.world.now } s.world.db db ∧
          s'.world.db = db.addNotifications ns)
      t (fun _ _ => True) s := by
  have hcredit : (creditAccount adminUserId accountId dto).Safe (Rely t) (fun _ _ => True)
      (fun i s s' => s'.world.db.transactions = s.world.db.transactions ∨
        ∃ db ns, P { i with now := s.world.now } s.world.db db ∧
          s'.world.db = db.addNotifications ns)
      t (fun _ _ => True) s := by
    unfold creditAccount
    split
    · exact Prog.safe_throw fun _ _ => trivial
    · apply Prog.safe_atomic
      refine fun u _ i _ => ⟨?_, fun _ _ => trivial⟩
      dsimp only
      rcases Callback.transact_cases (.prisma .transactionAborted)
          (fun i => i.commitFault.map .prisma)
        (hends { i with now := u.world.now } u.world.db) (fun _ _ h => h.1) with
        ⟨_, session, ⟨_, hP⟩, _, ho⟩ | ⟨_, _, _, _, _, ho⟩ | ⟨_, _, _, ho⟩
      · rw [ho]
        exact .inr ⟨session.db, session.outside, hP, rfl⟩
      · rw [ho]
        exact .inl (by simp [Shared.after])
      · rw [ho]
        exact .inl (by simp [Shared.after])
  apply Prog.safe_bind (Rely.refl t)
  refine hcredit.mono fun r _ _ => ?_
  cases r with
  | ok a => exact Prog.safe_pure fun _ _ => trivial
  | error e => exact fun _ _ => trivial

section Alike

variable {α : Type} {S : Inputs → Inputs → Prop} {N : World → World → Prop}

lemma alike_retrying {exhausted : Failure} {attempt : Service α} (h : attempt.Alike S N) (n : ℕ) :
    Prog.Alike S N (Service.retrying exhausted attempt n) := by
  induction n with
  | zero => exact Prog.alike_throw
  | succ n ih =>
    apply Prog.alike_finish h
    intro r
    cases r with
    | ok a => exact Prog.alike_pure
    | error e =>
      dsimp only
      split
      · exact ih
      · exact Prog.alike_throw

lemma alike_rejectIf {cond : Bool} {failure : Failure} :
    Prog.Alike S N (rejectIf cond failure) := by
  unfold rejectIf
  cases cond with
  | true => exact Prog.alike_throw
  | false => exact Prog.alike_pure

end Alike

end OnlineBanking
