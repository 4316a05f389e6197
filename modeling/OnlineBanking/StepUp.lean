import OnlineBanking.Idempotency

set_option autoImplicit false

/-! Large payments go through a step-up challenge of their own user. -/

namespace OnlineBanking

open Library

lemma stepUpKey_injective {u v : Uuid} {challengeId challengeId' : String}
    (h : stepUpKey u challengeId = stepUpKey v challengeId') :
    u = v ∧ challengeId = challengeId' := by
  have hlist : ("stepup:transfer:" ++ u.text ++ ":" ++ challengeId).toList =
      ("stepup:transfer:" ++ v.text ++ ":" ++ challengeId').toList := congrArg String.toList h
  simp only [String.toList_append, List.append_assoc] at hlist
  rw [List.append_cancel_left_eq] at hlist
  obtain ⟨hu, hrest⟩ := List.append_inj hlist (u.text_length.trans v.text_length.symm)
  rw [List.append_cancel_left_eq] at hrest
  exact ⟨Uuid.ext_text (String.ext hu), String.ext hrest⟩

section Steps

variable {sha256 : String → String} {t : ℕ} {c : Call} {i : Inputs} {s s' : State}

/-- Whatever Redis holds was stored, whatever was read was stored before, and every large payment
was read before. -/
structure Challenged (s : State) : Prop where
  entries : ∀ e ∈ s.world.redis, ∃ t userId challengeId, e.key = stepUpKey userId challengeId ∧
    e.value.userId = userId ∧
      (t, Event.challengeStored userId challengeId e.value e.expiresAt) ∈ s.trace
  reads : ∀ t userId challengeId challenge at_,
    (t, Event.challengeRead userId challengeId challenge at_) ∈ s.trace →
      challenge.userId = userId ∧
      ∃ t₀ expiresAt, at_ < expiresAt ∧
        List.Sublist [(t₀, Event.challengeStored userId challengeId challenge expiresAt),
          (t, .challengeRead userId challengeId challenge at_)] s.trace
  large : ∀ t payment result x, (t, Event.committed payment result [x]) ∈ s.trace →
    stepUpThreshold < payment.request.amount.value → ∃ t₀ challengeId challenge expiresAt at_,
      at_ < expiresAt ∧ List.Sublist
        [(t₀, Event.challengeStored payment.userId challengeId challenge expiresAt),
          (t, .challengeRead payment.userId challengeId challenge at_),
          (t, .committed payment result [x])] s.trace

lemma Challenged.grows {events : List (ℕ × Event)} (hs : Challenged s)
    (htrace : s'.trace = s.trace ++ events)
    (hentries : ∀ e ∈ s'.world.redis, e ∉ s.world.redis → ∃ t userId challengeId,
      e.key = stepUpKey userId challengeId ∧ e.value.userId = userId ∧
        (t, Event.challengeStored userId challengeId e.value e.expiresAt) ∈ s'.trace)
    (hreads : ∀ t userId challengeId challenge at_,
      (t, Event.challengeRead userId challengeId challenge at_) ∈ events →
        challenge.userId = userId ∧
        ∃ t₀ expiresAt, at_ < expiresAt ∧
          (t₀, Event.challengeStored userId challengeId challenge expiresAt) ∈ s.trace ∧
            events = [(t, .challengeRead userId challengeId challenge at_)])
    (hlarge : ∀ t payment result x, (t, Event.committed payment result [x]) ∈ events →
      stepUpThreshold < payment.request.amount.value → ∃ challengeId challenge at_,
        (t, Event.challengeRead payment.userId challengeId challenge at_) ∈ s.trace ∧
          events = [(t, .committed payment result [x])]) : Challenged s' := by
  have hold : s.trace.Sublist s'.trace := htrace ▸ List.sublist_append_left _ _
  constructor
  · intro e he
    by_cases hm : e ∈ s.world.redis
    · obtain ⟨t, u, id, hkey, huser, hstored⟩ := hs.entries e hm
      exact ⟨t, u, id, hkey, huser, hold.subset hstored⟩
    · exact hentries e he hm
  · intro t u id challenge at_ he
    rcases List.mem_append.mp (htrace ▸ he) with he | he
    · obtain ⟨huser, t₀, expiresAt, hlt, horder⟩ := hs.reads t u id challenge at_ he
      exact ⟨huser, t₀, expiresAt, hlt, horder.trans hold⟩
    · obtain ⟨huser, t₀, expiresAt, hlt, hstored, rfl⟩ := hreads t u id challenge at_ he
      refine ⟨huser, t₀, expiresAt, hlt, ?_⟩
      rw [htrace]
      exact (List.singleton_sublist.mpr hstored).append (List.Sublist.refl _)
  · intro t payment result x he hlt
    rcases List.mem_append.mp (htrace ▸ he) with he | he
    · obtain ⟨t₀, id, challenge, expiresAt, at_, hlt', horder⟩ := hs.large t payment result x he hlt
      exact ⟨t₀, id, challenge, expiresAt, at_, hlt', horder.trans hold⟩
    · obtain ⟨id, challenge, at_, hread, rfl⟩ := hlarge t payment result x he hlt
      obtain ⟨_, t₀, expiresAt, hlt', horder⟩ := hs.reads t _ id challenge at_ hread
      refine ⟨t₀, id, challenge, expiresAt, at_, hlt', ?_⟩
      rw [htrace]
      exact horder.append (List.Sublist.refl [(t, Event.committed payment result [x])])

theorem Effect.challenged (h : Effect sha256 t c i s s') (hs : Challenged s) : Challenged s' := by
  have hsame : s'.trace = s.trace → (∀ e ∈ s'.world.redis, e ∈ s.world.redis) → Challenged s' :=
    fun htrace hredis => hs.grows (show s'.trace = s.trace ++ [] by simp [htrace])
      (fun e he hn => absurd (hredis e he) hn) (by simp) (by simp)
  cases h with
  | idle same => exact same ▸ hs
  | challengeStored userId request key call large world trace =>
    refine hs.grows trace (fun e he hn => ?_) (by simp) (by simp)
    rw [world] at he
    rcases List.mem_cons.mp he with rfl | he
    · exact ⟨t, userId, i.challengeId, rfl, rfl, by simp [trace]⟩
    · exact absurd (Expiring.mem_of_mem_del he) hn
  | challengeRead userId id otp challenge call first found world trace =>
    refine hs.grows trace (fun e he hn => absurd (world ▸ he) hn) ?_ (by simp)
    intro t' u id' challenge' at_ he
    obtain ⟨rfl, rfl, rfl, rfl, rfl⟩ : t' = t ∧ u = userId ∧ id' = id ∧ challenge' = challenge ∧
        at_ = s.world.now := by simpa using he
    obtain ⟨e, hm, hkey, hlt, rfl⟩ := Expiring.mem_of_get found
    obtain ⟨t₀, u', id'', hkey', huser, hstored⟩ := hs.entries e hm
    obtain ⟨rfl, rfl⟩ := stepUpKey_injective (hkey'.symm.trans hkey)
    exact ⟨huser, t₀, e.expiresAt, hlt, hstored, rfl⟩
  | challengeDeleted userId id otp call world trace =>
    exact hsame trace fun e he => Expiring.mem_of_mem_del (by simpa [world] using he)
  | replayed payment result row executes first found completed hash body ok world trace =>
    exact hs.grows trace (fun e he hn => absurd (world ▸ he) hn) (by simp) (by simp)
  | posted payment result p db ns due first applied pays notices world trace =>
    refine hs.grows trace (fun e he hn => absurd (by simpa [world] using he) hn) (by simp) ?_
    intro t' payment' result' x he hlt
    obtain ⟨rfl, rfl, rfl, rfl⟩ : t' = t ∧ payment' = payment ∧ result' = result ∧
        x = p.transaction := by
      simpa using he
    cases due.executes with
    | asked hasked => exact absurd hlt (not_lt.mpr (due.small (by simp [hasked])))
    | confirmed read presented => exact ⟨_, _, _, read, rfl⟩
  | withdrawn _ _ _ _ _ _ _ _ world trace => exact hsame trace (by simp [world])
  | credited _ _ _ _ _ _ _ _ _ _ world trace => exact hsame trace (by simp [world])
  | creditWithdrawn _ _ _ _ _ _ _ _ _ _ world trace => exact hsame trace (by simp [world])
  | kept _ _ _ world trace => exact hsame trace (by simp [world])

lemma Effect.others_redis (h : Effect sha256 t c i s s') {userId : Uuid}
    (hc : c.payer ≠ some userId) (challengeId : String) (now : Instant) :
    s'.world.redis.get (stepUpKey userId challengeId) now =
      s.world.redis.get (stepUpKey userId challengeId) now := by
  have hother : ∀ {u id}, c.payer = some u → stepUpKey u id ≠ stepUpKey userId challengeId := by
    intro u id hu he
    exact hc (hu.trans (congrArg some (stepUpKey_injective he).1))
  cases h with
  | idle same => rw [same]
  | challengeStored u request key call _ world _ =>
    rw [world]
    exact Expiring.get_set (hother (by rw [call]; rfl))
  | challengeRead _ _ _ _ _ _ _ world _ => rw [world]
  | challengeDeleted u id otp call world _ =>
    rw [world]
    exact Expiring.get_del (hother (by rw [call]; rfl))
  | replayed _ _ _ _ _ _ _ _ _ _ world _ => rw [world]
  | posted _ _ _ _ _ _ _ _ _ _ world _ => rw [world]
  | withdrawn _ _ _ _ _ _ _ _ world _ => rw [world]
  | credited _ _ _ _ _ _ _ _ _ _ world _ => rw [world]
  | creditWithdrawn _ _ _ _ _ _ _ _ _ _ world _ => rw [world]
  | kept _ _ _ world _ => rw [world]

end Steps

theorem run_challenged {sha256 : String → String} {w : World} {schedule : List Action} {b : Bank}
    (hredis : w.redis = []) (h : Bank.run sha256 (Bank.start w) schedule = some b) :
    Challenged b.shared := by
  let D := discipline sha256
  refine (D.shared_invariant (P := Challenged) ?_ ?_ (D.init_holds w) ?_
    (Discipline.meets_true _ _) h).2
  · exact fun _ _ _ _ _ _ _ _ _ hP hg => Effect.challenged hg hP
  · intro e s hP
    have hsame : (environment e s.world).redis = s.world.redis := by
      cases e with
      | audit event =>
        dsimp only [environment]
        split <;> rfl
      | _ => rfl
    exact ⟨fun x hx => hP.entries x (hsame ▸ hx), hP.reads, hP.large⟩
  · exact ⟨by simp [Config.init, hredis], by simp [Config.init], by simp [Config.init]⟩

def Event.storedId : Event → Option String
  | .challengeStored _ challengeId _ _ => some challengeId
  | _ => none

def Event.readsChallenge (userId : Uuid) (challengeId : String) : Event → Bool
  | .challengeRead u id _ _ => u = userId ∧ id = challengeId
  | _ => false

def postedFrom (trace : List (ℕ × Event)) (userId : Uuid) (challengeId : String) :
    List Transaction :=
  trace.flatMap fun e =>
    if trace.any (fun r => r.1 = e.1 && r.2.readsChallenge userId challengeId) then e.2.inserted
      else []

/-- Thread `t` posted the transaction for a challenge that thread `t₀` had stored for the same user,
request and key, and to which the user presented its OTP in time. -/
structure Bank.Confirmed (b : Bank) (x : Transaction) (t₀ t : ℕ) (payment : Payment)
    (challengeId : String) (challenge : StepUpChallenge) : Prop where
  type : x.type = payment.request.type
  amount : x.amount = payment.request.amount.value
  order : ∃ result expiresAt at_, at_ < expiresAt ∧ List.Sublist
    [(t₀, Event.challengeStored payment.userId challengeId challenge expiresAt),
      (t, .challengeRead payment.userId challengeId challenge at_),
      (t, .committed payment result [x])]
    b.trace
  owner : challenge.userId = payment.userId
  request : challenge.request = payment.request
  key : challenge.idempotencyKey = payment.key
  stored : ∃ idempotencyKey program, trim idempotencyKey = payment.key ∧
    b.threads t₀ = some (.payment payment.userId payment.request idempotencyKey, program)
  presented : ∃ program,
    b.threads t = some (.confirmStepUp payment.userId challengeId challenge.otp, program)

section Runs

variable {sha256 : String → String} {w : World} {schedule : List Action} {b : Bank}

lemma executes_of_read (h : Bank.run sha256 (Bank.start w) schedule = some b) {t : ℕ}
    {userId : Uuid} {challengeId : String} {challenge : StepUpChallenge} {at_ : Instant}
    {payment : Payment} {result : ServiceResult PaymentBody} {inserted : List Transaction}
    (hread : (t, Event.challengeRead userId challengeId challenge at_) ∈ b.trace)
    (he : (t, Event.committed payment result inserted) ∈ b.trace) :
    payment = ⟨userId, challenge.request, trim challenge.idempotencyKey⟩ ∧
      ∃ program, b.threads t = some (.confirmStepUp userId challengeId challenge.otp, program) := by
  obtain ⟨call, program, ht, otp, rfl⟩ := run_accounted h hread
  obtain ⟨call', program', ht', hx⟩ := run_accounted h he
  obtain ⟨rfl, rfl⟩ : call' = .confirmStepUp userId challengeId otp ∧ program' = program := by
    simpa [ht] using ht'.symm
  have hx' : Executes t b.shared (.confirmStepUp userId challengeId otp) payment := hx
  cases hx' with
  | asked hasked => simp [Call.asked] at hasked
  | confirmed read presented =>
    have hsame := (run_readsFirst h).unique read hread rfl rfl
    simp only [Event.challengeRead.injEq] at hsame
    obtain ⟨-, -, rfl, -⟩ := hsame
    exact ⟨rfl, program', presented ▸ ht⟩

lemma large_confirmed (hredis : w.redis = []) (h : Bank.run sha256 (Bank.start w) schedule = some b)
    {t : ℕ} {payment : Payment} {result : ServiceResult PaymentBody} {x : Transaction}
    (he : (t, Event.committed payment result [x]) ∈ b.trace)
    (hlarge : stepUpThreshold < payment.request.amount.value) :
    ∃ t₀ challengeId challenge, b.Confirmed x t₀ t payment challengeId challenge := by
  obtain ⟨t₀, id, challenge, expiresAt, at_, hlt, horder⟩ :=
    (run_challenged hredis h).large t payment result x he hlarge
  have hread : (t, Event.challengeRead payment.userId id challenge at_) ∈ b.trace :=
    horder.subset (by simp)
  obtain ⟨hpayment, hpresented⟩ := executes_of_read h hread he
  obtain ⟨call₀, program₀, ht₀, _, key, rfl, howner, hkey⟩ :=
    run_accounted h (horder.subset (by simp) :
    (t₀, Event.challengeStored payment.userId id challenge expiresAt) ∈ b.trace)
  have hrequest : challenge.request = payment.request := (congrArg Payment.request hpayment).symm
  have hpkey : payment.key = trim key := by
    rw [congrArg Payment.key hpayment, hkey, trim_trim]
  obtain ⟨-, htype, hamount⟩ := run_inserted h he x (by simp)
  exact ⟨t₀, id, challenge, htype, hamount, ⟨result, expiresAt, at_, hlt, horder⟩, howner, hrequest,
    hkey.trans hpkey.symm, ⟨key, program₀, hpkey.symm, hrequest ▸ ht₀⟩, hpresented⟩

lemma postedFrom_length (hredis : w.redis = [])
    (h : Bank.run sha256 (Bank.start w) schedule = some b)
    (hfresh : (b.trace.filterMap fun e => e.2.storedId).Nodup) (userId : Uuid)
    (challengeId : String) :
    (postedFrom b.trace userId challengeId).length ≤ 1 := by
  have hread : ∀ {t : ℕ}, b.trace.any (fun r => r.1 = t && r.2.readsChallenge userId challengeId) =
      true →
      ∃ challenge at_, (t, Event.challengeRead userId challengeId challenge at_) ∈ b.trace := by
    intro t ht
    obtain ⟨⟨u, e⟩, hm, hp⟩ := List.any_eq_true.mp ht
    cases e with
    | challengeRead v id challenge at_ =>
      obtain ⟨rfl, rfl, rfl⟩ : u = t ∧ v = userId ∧ id = challengeId := by
        simpa [Event.readsChallenge] using hp
      exact ⟨challenge, at_, hm⟩
    | _ => simp [Event.readsChallenge] at hp
  by_cases hnone : ∃ t, b.trace.any (fun r => r.1 = t && r.2.readsChallenge userId challengeId) =
    true
  · obtain ⟨t, ht⟩ := hnone
    obtain ⟨challenge, at_, hm⟩ := hread ht
    obtain ⟨_, t₀, expiresAt, _, horder⟩ := (run_challenged hredis h).reads t _ _ _ _ hm
    -- ids are fresh, so all who read the id read one challenge, and post under its one key
    have hsub : (postedFrom b.trace userId challengeId).Sublist
        (postings b.trace userId (trim challenge.idempotencyKey)) := by
      refine List.Sublist.flatMap_right _ ?_
      rintro ⟨u, e⟩ he
      split
      · rename_i hu
        obtain ⟨challenge', at', hm'⟩ := hread hu
        obtain ⟨_, t₀', expiresAt', _, horder'⟩ := (run_challenged hredis h).reads u _ _ _ _ hm'
        have hstored := eq_of_filterMap_nodup hfresh (horder.subset List.mem_cons_self)
          (horder'.subset List.mem_cons_self) (v := challengeId) rfl rfl
        simp only [Prod.mk.injEq, Event.challengeStored.injEq] at hstored
        obtain ⟨-, -, -, rfl, -⟩ := hstored
        cases e with
        | committed payment result inserted =>
          obtain ⟨rfl, _⟩ := executes_of_read h hm' he
          simp [Event.inserted, Event.postedUnder]
        | _ => exact List.nil_sublist _
      · exact List.nil_sublist _
    exact hsub.length_le.trans ((run_oncePosted h).once _ _)
  · have hempty : postedFrom b.trace userId challengeId = [] := by
      refine List.flatMap_eq_nil_iff.mpr fun e _ => if_neg fun ht => hnone ⟨_, ht⟩
    simp [hempty]

/-- Every large payment executes a challenge of its user, each challenge leads to one payment at
most, and no call reads or changes the challenges of another user. -/
theorem step_up_not_bypassed (hredis : w.redis = [])
    (h : Bank.run sha256 (Bank.start w) schedule = some b)
    (hfresh : (b.trace.filterMap fun e => e.2.storedId).Nodup) :
    (∃ added, b.db.transactions.rows = w.db.transactions.rows ++ added ∧
        ∀ x ∈ added, x.type.isPayment = true → 1000 < x.amount →
          ∃ t₀ t payment challengeId challenge, b.Confirmed x t₀ t payment challengeId challenge) ∧
      (∀ userId challengeId, (postedFrom b.trace userId challengeId).length ≤ 1) ∧
      ∀ t call program userId, b.threads t = some (call, program) → call.payer ≠ some userId →
        ∀ challengeId,
          (∀ challenge at_, (t, Event.challengeRead userId challengeId challenge at_) ∉ b.trace) ∧
          ∀ s s', (s, s') ∈ Config.transitions (handle sha256) environment t
            (Bank.start w) schedule →
            ∀ now, s'.world.redis.get (stepUpKey userId challengeId) now =
              s.world.redis.get (stepUpKey userId challengeId) now := by
  refine ⟨?_, postedFrom_length hredis h hfresh, ?_⟩
  · obtain ⟨added, hadded, hlog⟩ := run_logComplete h
    refine ⟨added, hadded, fun x hx hpayment hlarge => ?_⟩
    have hm : x ∈ b.trace.flatMap fun e => e.2.inserted := hlog ▸ List.mem_filter.mpr ⟨hx, hpayment⟩
    obtain ⟨⟨t, e⟩, he, hxe⟩ := List.mem_flatMap.mp hm
    cases e with
    | committed payment result inserted =>
      obtain ⟨hone, _, hamount⟩ := run_inserted h he x hxe
      obtain ⟨t₀, id, challenge, hconfirmed⟩ := large_confirmed hredis h (hone ▸ he)
        (by rw [← hamount]; exact hlarge)
      exact ⟨t₀, t, payment, id, challenge, hconfirmed⟩
    | _ => simp [Event.inserted] at hxe
  · intro t call program userId ht hc challengeId
    refine ⟨fun challenge at_ he => ?_, fun s s' hs now => ?_⟩
    · obtain ⟨call', program', ht', otp, rfl⟩ := run_accounted h he
      obtain ⟨rfl, -⟩ : call = .confirmStepUp userId challengeId otp ∧ program = program' := by
        simpa [ht] using ht'
      exact hc rfl
    · obtain ⟨i, heffect⟩ := (discipline sha256).guar_of_mem_transitions
        ((discipline sha256).init_holds w) h ht hs
      exact heffect.others_redis hc challengeId now

def demoStepUpSchedule : List Action :=
  [.spawn 0 (demoPayment .large "k2"), .act 0 (demoInputs 0), .act 0 (demoInputs 1),
    .act 0 (demoInputs 2),
    .spawn 1 (.confirmStepUp (demoIds .user) "k3x9" "123456"), .act 1 (demoInputs 3),
    .act 1 (demoInputs 4), .act 1 (demoInputs 5), .act 1 (demoInputs 6)]

def demoStepUpRun : Option Bank := Bank.run demoSha256 (Bank.start demoWorld) demoStepUpSchedule

lemma demoStepUpRun_confirmed :
    demoStepUpRun.map (fun b => (b.status 1, b.trace.filterMap fun e => e.2.storedId)) =
      some (some 201, ["k3x9"]) := by decide +kernel

theorem demo_step_up_not_bypassed : ∃ b, demoStepUpRun = some b ∧ b.status 1 = some 201 ∧
    (∃ added, b.db.transactions.rows = demoWorld.db.transactions.rows ++ added ∧
        ∀ x ∈ added, x.type.isPayment = true → 1000 < x.amount →
          ∃ t₀ t payment challengeId challenge, b.Confirmed x t₀ t payment challengeId challenge) ∧
      (∀ userId challengeId, (postedFrom b.trace userId challengeId).length ≤ 1) ∧
      ∀ t call program userId, b.threads t = some (call, program) → call.payer ≠ some userId →
        ∀ challengeId,
          (∀ challenge at_, (t, Event.challengeRead userId challengeId challenge at_) ∉ b.trace) ∧
          ∀ s s', (s, s') ∈
              Config.transitions (handle demoSha256) environment t
                (Bank.start demoWorld) demoStepUpSchedule →
            ∀ now, s'.world.redis.get (stepUpKey userId challengeId) now =
              s.world.redis.get (stepUpKey userId challengeId) now := by
  obtain ⟨b, hb, hends⟩ := Option.map_eq_some_iff.mp demoStepUpRun_confirmed
  obtain ⟨hstatus, hids⟩ := Prod.mk.injEq .. ▸ hends
  exact ⟨b, hb, hstatus, step_up_not_bypassed rfl hb (by simp [hids])⟩

end Runs

end OnlineBanking
