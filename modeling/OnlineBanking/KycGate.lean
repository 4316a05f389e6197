import OnlineBanking.Attempts
import OnlineBanking.CardLifecycle
import OnlineBanking.Log
import OnlineBanking.Library.Stages

set_option autoImplicit false

/-! Payments and active cards of customers whose identity is verified: the status is read in an
action of its own, so all rests on what the admin does between that action and the one it stands in
front of. -/

namespace OnlineBanking

open Library AppService

def World.Verified (w : World) (userId : Uuid) : Prop :=
  ∃ profile ∈ w.db.customerProfiles.rows, profile.userId = userId ∧ profile.kycStatus = .verified

/-- The calls behind a KYC check, with the user they check, and the numbers of actions after which
the status has been read and the payment or the card is still to come. -/
inductive Gated : AppCall → Uuid → Set ℕ → Prop
  | payment (userId : Uuid) (request : PaymentRequest) (idempotencyKey : String) :
    Gated (.bank (.payment userId request idempotencyKey)) userId (Set.Ici 1)
  | confirmStepUp (userId : Uuid) (challengeId otp : String) :
    Gated (.bank (.confirmStepUp userId challengeId otp)) userId (Set.Ici 3)
  | issueCard (userId : Uuid) (dto : IssueCardDto) :
    Gated (.issueCard userId dto) userId (Set.Ico 1 3)
  | unblockCard (userId cardId : Uuid) : Gated (.unblockCard userId cardId) userId (Set.Ico 1 3)

/-- Between the states a payment of the user is committed or a card of the user becomes ACTIVE. -/
inductive Activates (s s' : AppState) (userId : Uuid) : Prop
  | payment (t : ℕ) (payment : Payment) (result : ServiceResult PaymentBody) (x : Transaction)
      (logged : s'.trace = s.trace ++ [(t, .bank (.committed payment result [x]))])
      (user : payment.userId = userId)
  | card (card : Card) (mem : card ∈ s'.world.cards.rows) (active : card.status = .active)
      (changed : ∀ x ∈ s.world.cards.rows, x.id = card.id → x.status ≠ .active)
      (owner : Owns s userId card.customerId)

/-- Nobody loses the status VERIFIED while one of their requests stands between its check and its
end, or the card it is about. -/
def KycHeld (host : Host) (w : AppWorld) (schedule : List AppAction) : Prop :=
  ∀ ms l, ∀ d d' : App, ∀ userId t call p window, ms ++ [l] <+: schedule →
    (App.start w).run host ms = some d →
    d.step host l = some d' → d.world.Verified userId → ¬ d'.world.Verified userId →
      d.threads t = some (call, p) → (∀ r, p ≠ .done r) → Gated call userId window →
        Label.acts t ms ∉ window

section Payments

variable {userId : Uuid} {t : ℕ}

def StaysVerified (userId : Uuid) (s s' : State) : Prop :=
  s.world.Verified userId → s'.world.Verified userId

def PaysVerified (userId : Uuid) (_ : Inputs) (s s' : State) : Prop :=
  (∃ es, s'.trace = s.trace ++ es ∧ ∀ e ∈ es, ¬ e.2.IsCommitted) ∨ s.world.Verified userId

lemma paysVerified_aside {i : Inputs} {u : State} {w : World} {es : List Event}
    (hes : ∀ e ∈ es, ¬ e.IsCommitted) :
    PaysVerified userId i u (u.after t w es) := by
  refine .inl ⟨es.map (t, ·), rfl, fun e he => ?_⟩
  obtain ⟨x, hx, rfl⟩ := List.mem_map.mp he
  exact hes x hx

lemma way_unchecked : Way (StaysVerified userId) (fun _ _ => True) (PaysVerified userId) t fun _ =>
    True where
  refl _ := id
  trans _ _ _ h h' := h' ∘ h
  rely _ _ _ _ := trivial
  aside _ _ _ _ _ _ _ hes := ⟨paysVerified_aside hes, trivial⟩

lemma way_checked : Way (StaysVerified userId) (fun _ _ => True) (PaysVerified userId) t
    fun u => u.world.Verified userId where
  refl _ := id
  trans _ _ _ h h' := h' ∘ h
  rely _ _ h hr := hr h
  aside _ u w es h _ hdb hes := by
    refine ⟨paysVerified_aside hes, ?_⟩
    simpa [World.Verified, Shared.after, hdb] using h

lemma attempt_paysVerified {β : Type} {callback : Tx (ServiceResult β)}
    {log : ServiceResult β → List Transaction → List Event} {u : State}
    (hu : u.world.Verified userId) :
    Prog.Safe (StaysVerified userId) (fun _ _ => True) (PaysVerified userId) t
      (Ended (fun _ _ => True) fun u => u.world.Verified userId)
        (Service.transaction callback log) u := by
  refine Prog.safe_atomic fun v hv i _ => ⟨.inr (hv hu), fun x hx => ?_⟩
  have hrolled := Callback.transact_db_of_error (.prisma .transactionAborted)
    (fun i => i.commitFault.map .prisma)
    callback { i with now := v.world.now } v.world.db
  revert hrolled hx
  generalize callback.transact (.prisma .transactionAborted) (fun i => i.commitFault.map .prisma)
    { i with now := v.world.now } v.world.db = o
  intro hx hrolled
  dsimp only at hx ⊢
  cases hr : o.result with
  | ok a => trivial
  | error e =>
    refine hx ?_
    simpa [World.Verified, Shared.after, hrolled e hr] using hv hu

lemma bank_paysVerified {sha256 : String → String} {c : Call} (hc : c.payer = some userId)
    (s : State) :
    (handle sha256 c).Safe (StaysVerified userId) (fun _ _ => True) (PaysVerified userId) t
    (fun _ _ => True) s := by
  refine way_unchecked.handle (fun _ => way_checked) trivial hc ?_ fun _ _ _ _ _ _ _ _ hu =>
    attempt_paysVerified hu
  intro profile u _ hfound hverified
  obtain ⟨hmem, huser⟩ := Table.findAlt_eq_some.mp hfound
  exact ⟨profile, hmem, Option.some.inj huser, hverified⟩

lemma runRequest_paysVerified {sha256 : String → String} {request : PaymentRequest}
    {idempotencyKey : String} (s : State) :
    (runRequest sha256 userId request idempotencyKey true).Safe (StaysVerified userId)
      (fun _ _ => True) (PaysVerified userId) t (fun _ _ => True) s := by
  refine way_unchecked.runRequest (fun _ => way_checked) trivial ?_ (fun _ _ => trivial) ?_
  · intro profile u _ hfound hverified
    obtain ⟨hmem, huser⟩ := Table.findAlt_eq_some.mp hfound
    exact ⟨profile, hmem, Option.some.inj huser, hverified⟩
  · exact fun _ _ _ _ u _ hu =>
      (attempt_paysVerified hu).mono fun r _ hr => by cases r <;> simp_all [Ended]

def Held (userId : Uuid) (window : Set ℕ) (n : ℕ) (s s' : State) : Prop :=
  n ∈ window → StaysVerified userId s s'

lemma staged_payment {sha256 : String → String} {request : PaymentRequest} {idempotencyKey : String}
    (s : State) :
    (handle sha256 (.payment userId request idempotencyKey)).Staged (Held userId (Set.Ici 1))
    (PaysVerified userId)
      t 0 s :=
  Prog.staged_of_safe_everywhere (fun _ => id) (fun _ hm _ _ hr => hr hm) (bank_paysVerified rfl)

lemma staged_confirmStepUp {sha256 : String → String} {challengeId otp : String} (s : State) :
    (handle sha256 (.confirmStepUp userId challengeId otp)).Staged (Held userId (Set.Ici 3))
    (PaysVerified userId)
      t 0 s := by
  refine Prog.Staged.map (Prog.staged_bind_of_safe (R := StaysVerified userId) (fun _ => id)
    fun u => ?_)
  refine way_unchecked.redisGet trivial fun r v _ stored _ => ?_
  cases stored with
  | none => exact Prog.staged_throw
  | some stored =>
    dsimp only
    split
    · exact Prog.staged_throw
    · refine Prog.staged_bind_of_safe (R := StaysVerified userId) (fun _ => id) fun x => ?_
      refine way_unchecked.redisDel trivial fun _ y _ _ _ => ?_
      simp only [storedPayload_toJson]
      exact Prog.staged_of_safe_everywhere (fun _ => id)
        (fun _ hm _ _ hr => hr hm) runRequest_paysVerified

end Payments

section Cards

variable {userId : Uuid} {window : Set ℕ} {t n : ℕ} {s : AppState} {α β : Type}

def Aside (s s' : AppState) : Prop :=
  s'.world.cards = s.world.cards ∧ ∃ es, s'.trace = s.trace ++ es ∧
    ∀ e ∈ es, ∀ payment result inserted, e.2 ≠ .bank (.committed payment result inserted)

def KycRely (userId : Uuid) (window : Set ℕ) (n : ℕ) (s s' : AppState) : Prop :=
  n ∈ window → s.world.Verified userId → s'.world.Verified userId

def KycGuar (userId : Uuid) (_ : AppInputs) (s s' : AppState) : Prop :=
  Aside s s' ∨ s.world.Verified userId

lemma aside_bank {u : AppState} {w : World} {es : List Event} (hes : ∀ e ∈ es, ¬ e.IsCommitted) :
    Aside u (u.after t (bankPart.put w u.world) (es.map .bank)) := by
  refine ⟨rfl, _, rfl, fun e he payment result inserted heq => ?_⟩
  obtain ⟨x, hx, rfl⟩ := List.mem_map.mp he
  obtain ⟨y, hy, rfl⟩ := List.mem_map.mp hx
  obtain rfl : y = .committed payment result inserted := by simpa using heq
  exact hes _ hy trivial

lemma staged_lift {a : Inputs → World → Except Failure α × World × List Event}
    {f : α → AppService β} (hes : ∀ i w, ∀ e ∈ (a i w).2.2, ¬ e.IsCommitted)
    (h : ∀ u, KycRely userId window n s u → ∀ i r, (a i u.world.toWorld).1 = .ok r →
      (f r).Staged (KycRely userId window) (KycGuar userId) t (n + 1)
        (u.after t (bankPart.put (a i u.world.toWorld).2.1 u.world)
            ((a i u.world.toWorld).2.2.map .bank))) :
    (lift (Prog.atomic a) >>= f).Staged (KycRely userId window) (KycGuar userId) t n s := by
  intro u hu i
  refine ⟨.inl (aside_bank (hes _ _)), ?_⟩
  have hf := h u hu i.toInputs
  change (Prog.finish (.done ((a i.toInputs u.world.toWorld).1.mapError _)) _).Staged _ _ _ _ _
  cases hr : (a i.toInputs u.world.toWorld).1 with
  | ok r => exact hf r hr
  | error e => trivial

lemma staged_liftRead {l : Statement} {g : ℕ → Db → α} {f : α → AppService β}
    (h : ∀ u, KycRely userId window n s u → ∀ k,
      (f (g k u.world.db)).Staged (KycRely userId window) (KycGuar userId) t (n + 1) u) :
    (lift (Service.read l g) >>= f).Staged (KycRely userId window) (KycGuar userId) t n s := by
  refine staged_lift (fun i w => ?_) fun u hu i r hr => ?_
  · cases i.fault l <;> simp
  · cases hf : i.fault l with
    | some e => simp [hf] at hr
    | none =>
      obtain rfl : g (i.choice l) u.world.db = r := by simpa [hf] using hr
      simp only
      exact (appAfter_bank (t := t) u).symm ▸ h u hu (i.choice l)

lemma staged_read {l : AppStatement} {g : AppInputs → AppWorld → α} {f : α → AppService β}
    (h : ∀ u, KycRely userId window n s u → ∀ i,
      (f (g i u.world)).Staged (KycRely userId window) (KycGuar userId) t (n + 1) u) :
    (AppService.read l g >>= f).Staged (KycRely userId window) (KycGuar userId) t n s := by
  refine Prog.staged_atomic_bind fun u hu i => ?_
  have hidle : u.after t u.world [] = u := appAfter_same rfl
  cases hf : i.outage l with
  | some e => exact ⟨.inl (hidle.symm ▸ ⟨rfl, [], by simp⟩), fun _ hr => by cases hr⟩
  | none =>
    refine ⟨.inl (hidle.symm ▸ ⟨rfl, [], by simp⟩), fun r hr => ?_⟩
    obtain rfl := Except.ok.inj hr
    exact hidle.symm ▸ h u hu i

lemma staged_statement {l : AppStatement}
    {body : AppInputs → AppWorld → Except PrismaError (α × AppWorld × List AppEvent)}
    {f : α → AppService β} (hn : n ∈ window) (hs : s.world.Verified userId)
    (h : ∀ r u, (f r).Staged (KycRely userId window) (KycGuar userId) t (n + 1) u) :
    (AppService.statement l body >>= f).Staged (KycRely userId window) (KycGuar userId) t n s :=
  Prog.staged_atomic_bind fun _ hu _ => ⟨.inr (hu hn hs), fun r _ => h r _⟩

lemma staged_audit {row : Uuid → Instant → AuditEvent} {f : AuditEvent → AppService β}
    (h : ∀ r u, (f r).Staged (KycRely userId window) (KycGuar userId) t (n + 1) u) :
    (audit row >>= f).Staged (KycRely userId window) (KycGuar userId) t n s := by
  refine staged_lift (fun i w => ?_) fun _ _ _ r _ => h r _
  cases i.fault .auditCreate with
  | some e => simp
  | none =>
    dsimp only
    split <;> simp

lemma staged_notify {user : Uuid} {type title message : String} {f : Unit → AppService β}
    (h : ∀ u, (f ()).Staged (KycRely userId window) (KycGuar userId) t (n + 1) u) :
    (notify user type title message >>= f).Staged (KycRely userId window)
    (KycGuar userId) t n s := by
  refine staged_lift (fun i w => ?_) fun _ _ _ _ _ => h _
  cases i.fault .notify <;> simp

lemma staged_check {message : String} {missing : AppFailure} {f : CustomerProfile → AppService β}
    (h : ∀ profile u, u.world.Verified userId →
      (f profile).Staged (KycRely userId window) (KycGuar userId) t (n + 1) u) :
    Prog.Staged (KycRely userId window) (KycGuar userId) t n (do
      match ← findProfile userId with
      | none => throw missing
      | some profile =>
        if profile.kycStatus ≠ .verified then fail (.forbidden "KYC_REQUIRED" message)
            else f profile) s := by
  refine staged_liftRead fun u _ _ => ?_
  cases hp : u.world.db.customerProfiles.findAlt userId with
  | none => exact Prog.staged_throw
  | some profile =>
    dsimp only
    split
    · exact Prog.staged_throw
    · rename_i hverified
      obtain ⟨hmem, huser⟩ := Table.findAlt_eq_some.mp hp
      exact h profile u ⟨profile, hmem, Option.some.inj huser, not_not.mp hverified⟩

lemma staged_unblockCard {cardId : Uuid} :
    (unblockCard userId cardId).Staged (KycRely userId (Set.Ico 1 3)) (KycGuar userId) t 0 s := by
  refine staged_check fun profile u hu => staged_read fun v hv i => ?_
  have hverified : v.world.Verified userId := hv (by simp) hu
  split
  · exact Prog.staged_throw
  · refine staged_statement (by simp) hverified fun _ _ => staged_audit fun _ _ =>
      staged_notify fun _ => ?_
    trivial

lemma staged_issueCard {dto : IssueCardDto} :
    (issueCard userId dto).Staged (KycRely userId (Set.Ico 1 3)) (KycGuar userId) t 0 s := by
  refine staged_check fun profile u hu => staged_read fun v hv i => ?_
  have hverified : v.world.Verified userId := hv (by simp) hu
  split
  · exact Prog.staged_throw
  · refine staged_statement (by simp) hverified fun _ _ => staged_audit fun _ _ =>
      staged_notify fun _ => ?_
    trivial

theorem staged_gated {host : Host} {c : AppCall} (hc : Gated c userId window) (s : AppState) :
    (handleApp host c).Staged (KycRely userId window) (KycGuar userId) t 0 s := by
  have hbank : ∀ {call : Call},
      (∀ u, (handle host.sha256 call).Staged (Held userId window) (PaysVerified userId) t 0 u) →
      (handleApp host (.bank call)).Staged (KycRely userId window) (KycGuar userId) t 0 s := by
    intro call hcall
    refine Prog.Staged.map ((hcall (bankPart.shared s)).embed (fun _ _ _ h => h)
      fun i a v es hg => ?_)
    rcases hg with ⟨es', htrace, hes⟩ | hverified
    · refine .inl (aside_bank fun e he => ?_)
      have hsame : es.map (t, ·) = es' := List.append_cancel_left htrace
      exact hes (t, e) (hsame ▸ List.mem_map_of_mem he)
    · exact .inr hverified
  cases hc with
  | payment _ request idempotencyKey => exact hbank staged_payment
  | confirmStepUp _ challengeId otp => exact hbank staged_confirmStepUp
  | issueCard _ dto => exact staged_issueCard.map
  | unblockCard _ cardId => exact staged_unblockCard.map

end Cards

section Runs

variable {host : Host} {w : AppWorld} {schedule : List AppAction} {t : ℕ} {userId : Uuid}
    {s s' : AppState}

lemma Activates.not_aside (h : Activates s s' userId) : ¬ Aside s s' := by
  rintro ⟨hcards, es, htrace, hes⟩
  cases h with
  | payment t payment result x logged user =>
    obtain rfl : es = [(t, .bank (.committed payment result [x]))] :=
      List.append_cancel_left (htrace.symm.trans logged)
    exact hes _ (List.mem_singleton_self _) payment result [x] rfl
  | card card mem active changed owner => exact changed card (hcards ▸ mem) rfl active

lemma not_activates_of_eq (h : s'.world.cards = s.world.cards) (htrace : s'.trace = s.trace) :
    ¬ Activates s s' userId :=
  fun ha => ha.not_aside ⟨h, [], by simp [htrace], by simp⟩

lemma Effect.payer_of_committed {sha256 : String → String} {c : Call} {i : Inputs} {s s' : State}
    (h : Effect sha256 t c i s s') {payment : Payment} {result : ServiceResult PaymentBody}
    {inserted : List Transaction}
    (hlogged : s'.trace = s.trace ++ [(t, .committed payment result inserted)]) :
    c.payer = some payment.userId := by
  have hsame : s'.trace ≠ s.trace := by simp [hlogged]
  have hone : ∀ {x : Event}, s'.trace = s.trace ++ [(t, x)] →
      x = .committed payment result inserted := by
    intro x hx
    simpa using hx.symm.trans hlogged
  cases h with
  | idle same => exact absurd (by rw [same]) hsame
  | challengeStored _ _ _ _ _ _ trace => cases hone trace
  | challengeRead _ _ _ _ _ _ _ _ trace => cases hone trace
  | challengeDeleted _ _ _ _ _ trace => exact absurd trace hsame
  | replayed payment' _ _ executes _ _ _ _ _ _ _ trace =>
    obtain ⟨rfl, _, _⟩ : payment' = payment ∧ _ := by simpa using hone trace
    exact executes.payer
  | posted payment' _ _ _ _ due _ _ _ _ _ trace =>
    obtain ⟨rfl, _, _⟩ : payment' = payment ∧ _ := by simpa using hone trace
    exact due.executes.payer
  | withdrawn _ _ _ _ _ _ _ _ _ trace => exact absurd trace hsame
  | credited _ _ _ _ _ _ _ _ _ _ _ trace => exact absurd trace hsame
  | creditWithdrawn _ _ _ _ _ _ _ _ _ _ _ trace => exact absurd trace hsame
  | kept _ _ _ _ trace => exact absurd trace hsame

lemma gated_of_payer {call : Call} (h : call.payer = some userId) :
    ∃ window, Gated (.bank call) userId window := by
  cases call with
  | payment user request idempotencyKey =>
    obtain rfl := Option.some.inj h
    exact ⟨_, .payment _ request idempotencyKey⟩
  | confirmStepUp user challengeId otp =>
    obtain rfl := Option.some.inj h
    exact ⟨_, .confirmStepUp _ challengeId otp⟩
  | _ => cases h

lemma Owns.unique {user customerId : Uuid} (h : Owns s userId customerId)
    (h' : Owns s user customerId) : user = userId := by
  obtain ⟨p, hp, hid, rfl⟩ := h
  obtain ⟨q, hq, hid', rfl⟩ := h'
  rw [s.world.db.customerProfiles.eq_of_key_eq hp hq (hid.trans hid'.symm)]

lemma AppEffect.gated {c : AppCall} {i : AppInputs} (h : AppEffect host t c i s s')
    (ha : Activates s s' userId) :
    ∃ window, Gated c userId window := by
  have haside : ∀ {w : AppWorld} {es : List AppEvent}, s' = s.after t w es →
      w.cards = s.world.cards →
      (∀ e ∈ es, e.bank? = none) → ∃ window, Gated c userId window := by
    rintro w es rfl hcards hes
    refine absurd ⟨hcards, es.map (t, ·), rfl, fun e he payment result inserted heq => ?_⟩
      ha.not_aside
    obtain ⟨x, hx, rfl⟩ := List.mem_map.mp he
    obtain rfl : x = .bank (.committed payment result inserted) := heq
    cases hes _ hx
  cases h with
  | idle same => exact absurd ha (not_activates_of_eq (by rw [same]) (by rw [same]))
  | bank call is_call v es effect after =>
    subst after is_call
    cases ha with
    | payment u payment result x logged user =>
      have hes : (es.map AppEvent.bank).map (t, ·) = [(u, .bank (.committed payment result [x]))] :=
        List.append_cancel_left logged
      obtain ⟨e, rfl⟩ : ∃ e, es = [e] :=
        List.length_eq_one_iff.mp (by simpa using congrArg List.length hes)
      obtain ⟨rfl, rfl⟩ : t = u ∧ e = .committed payment result [x] := by simpa using hes
      exact gated_of_payer (user ▸ effect.payer_of_committed rfl)
    | card card mem active changed owner => exact absurd active (changed card mem rfl)
  | noted _ _ after => exact haside after rfl (by simp)
  | cardChanged user id f found change hfound owner after =>
    cases ha with
    | payment u payment result x logged _ => simp [after, Shared.after] at logged
    | card card mem active changed howner =>
      subst after
      rw [Shared.after, Table.modify_rows] at mem
      obtain ⟨x, hx, rfl⟩ := List.mem_map.mp mem
      by_cases hid : x.id = id
      · obtain rfl : x = found := s.world.cards.eq_of_key_eq hx (Table.find_eq_some.mp hfound).1
          (hid.trans (Table.find_eq_some.mp hfound).2.symm)
        have hkey : Record.key x = id := hid
        simp only [hkey, if_true] at active howner
        cases change with
        | block _ _ _ => cases active
        | unblock _ _ =>
          obtain rfl := Owns.unique howner owner
          exact ⟨_, .unblockCard _ _⟩
        | close _ _ _ => cases active
      · have hkey : ¬ Record.key x = id := hid
        simp only [hkey, if_false] at active changed
        exact absurd active (changed x hx rfl)
  | cardIssued user dto issued cards call inserted _ _ _ owner after =>
    cases ha with
    | payment u payment result x logged _ => simp [after, Shared.after] at logged
    | card card mem active changed howner =>
      subst after
      rcases List.mem_append.mp ((Table.insert_eq_some.mp inserted).2.2 ▸ mem) with hold | hnew
      · exact absurd active (changed card hold rfl)
      · obtain rfl := List.mem_singleton.mp hnew
        obtain rfl := howner.unique owner
        subst call
        exact ⟨_, .issueCard _ dto⟩
  | passwordAccepted _ _ _ _ _ _ after => exact haside after rfl (by simp [AppEvent.bank?])
  | otpStored _ _ _ _ after => exact haside after rfl (by simp [AppEvent.bank?])
  | otpRead _ _ _ _ _ _ after => exact haside after rfl (by simp [AppEvent.bank?])
  | otpDeleted _ _ _ _ _ after => exact haside after rfl (by simp [AppEvent.bank?])
  | sessionCreated _ _ _ _ _ _ _ _ _ _ _ _ _ _ after =>
    exact haside after rfl (by simp [AppEvent.bank?])
  | tokenSigned _ _ _ after => exact haside after rfl (by simp [AppEvent.bank?])
  | sessionRead _ _ _ after => exact haside after rfl (by simp [AppEvent.bank?])
  | sessionsListed _ _ _ after => exact haside after rfl (by simp [AppEvent.bank?])
  | sessionRevoked _ _ _ _ _ _ _ _ after => exact haside after rfl (by simp)
  | passed _ _ _ _ after => exact haside after rfl (by simp [AppEvent.bank?])

lemma others_hold {window : Set ℕ} {c : AppCall} (hheld : KycHeld host w schedule)
    (hc : Gated c userId window) {ms : List AppAction} (hms : ms <+: schedule) :
    Config.Respects (handleApp host) appEnvironment (KycRely userId window) t c w ms := by
  intro ns l d d' p hns hd hd' _ hp hrunning hmem hverified
  by_contra hlost
  exact hheld ns l d d' userId t c p window (hns.trans hms) hd hd' hverified hlost hp
    hrunning hc hmem

/-- In a run where nobody loses the status VERIFIED under a request that has seen it, every payment
is committed and every card made active with the owner verified at that moment. -/
theorem kyc_gate (hheld : KycHeld host w schedule) :
    ∀ ms l, ∀ d d' : App, ∀ userId, ms ++ [l] <+: schedule →
      (App.start w).run host ms = some d → d.step host l = some d' →
        Activates d.shared d'.shared userId → d.world.Verified userId := by
  intro ms l d d' userId hprefix hd hd' hactivates
  rcases (appDiscipline host).step_cases
      ((appDiscipline host).holds_of_run ((appDiscipline host).init_holds w) hd) hd' with
    ⟨_, _, _, _, hs, _⟩ | ⟨t, i, c, p, _, rfl, hcall, heffect, _, _⟩ | ⟨e, _, hs, _⟩
  · exact absurd hactivates (not_activates_of_eq (by rw [hs]) (by rw [hs]))
  · obtain ⟨window, hc⟩ := AppEffect.gated heffect hactivates
    have hothers := others_hold (t := t) hheld hc ((List.prefix_append ms _).trans hprefix)
    have hguar := Config.staged_step (fun _ _ _ h => h) (fun _ _ _ _ h h' hn hv => h' hn (h hn hv))
      (staged_gated hc) hothers hd hcall hd'
    exact hguar.resolve_left hactivates.not_aside
  · refine absurd hactivates (not_activates_of_eq ?_ ?_)
    · rw [hs]
      cases e <;> rfl
    · rw [hs]

end Runs

def demoAppTransfer : AppCall := .bank (demoPayment .small "k1")

def demoRejection : AppCall := .bank (.updateKycStatus (demoIds .user) (demoIds .profile) .rejected)

def demoTransferStart : List AppAction := [.spawn 0 demoAppTransfer, .act 0 (demoAppInputs 0)]

def demoTransferEnd : AppAction := .act 0 (demoAppInputs 6)

def App.statuses (b : App) : List (Uuid × KycStatus) :=
  b.world.db.customerProfiles.rows.map fun p => (p.userId, p.kycStatus)

def App.onlyPayer (b : App) : Option Uuid :=
  match b.trace with
  | [(_, .bank (.committed payment _ [_]))] => some payment.userId
  | _ => none

lemma verified_iff {b : App} {userId : Uuid} :
    b.world.Verified userId ↔ (userId, .verified) ∈ b.statuses := by
  simp [World.Verified, App.statuses]

lemma activates_of_onlyPayer {d d' : App} {userId : Uuid} (hd : d.trace = [])
    (hd' : d'.onlyPayer = some userId) :
    Activates d.shared d'.shared userId := by
  simp only [App.onlyPayer] at hd'
  split at hd'
  · rename_i t payment result x htrace
    refine .payment t payment result x ?_ (Option.some.inj hd')
    rw [show d.shared.trace = [] from hd]
    exact htrace
  · cases hd'

theorem rejected_customer_pays : ∃ d d', (App.start demoAppWorld).run demoHost
      (demoTransferStart ++ demoSolo 1 5 demoRejection) = some d ∧
        d.step demoHost demoTransferEnd = some d' ∧
      Activates d.shared d'.shared (demoIds .user) ∧ ¬ d.world.Verified (demoIds .user) := by
  have hrun : ((App.start demoAppWorld).run demoHost
      (demoTransferStart ++ demoSolo 1 5 demoRejection)).bind (fun d =>
      (d.step demoHost demoTransferEnd).map fun d' =>
        (d.trace.length, d'.onlyPayer, decide ((demoIds .user, KycStatus.verified) ∈ d.statuses))) =
      some (0, some (demoIds .user), false) := by decide +kernel
  obtain ⟨d, hd, hrun⟩ := Option.bind_eq_some_iff.mp hrun
  obtain ⟨d', hd', hend⟩ := Option.map_eq_some_iff.mp hrun
  obtain ⟨hempty, hpayer, hrejected⟩ : d.trace.length = 0 ∧ d'.onlyPayer = some (demoIds .user) ∧
      (demoIds .user, KycStatus.verified) ∉ d.statuses := by
        simpa only [Prod.mk.injEq, decide_eq_false_iff_not] using hend
  refine ⟨d, d', hd, hd', activates_of_onlyPayer (List.length_eq_zero_iff.mp hempty) hpayer, ?_⟩
  rwa [verified_iff]

/-- The customer is rejected between the two payments, as the second is yet to read the status. -/
def demoRejectedBetween : List AppAction :=
  demoTransferStart ++ [demoTransferEnd, .spawn 2 (.bank (demoPayment .small "k2"))] ++
    demoSolo 1 5 demoRejection ++ [.act 2 (demoAppInputs 9)]

def demoBefore (k : ℕ) : Option App :=
  (App.start demoAppWorld).run demoHost (demoRejectedBetween.take k)

lemma demo_statuses : ∀ k < 11, k ≠ 7 →
    (demoBefore k).map App.statuses = (demoBefore (k + 1)).map App.statuses := by
  decide +kernel

def App.isEnded (b : App) (t : ℕ) : Bool :=
  match b.threads t with
  | some (_, .done _) => true
  | _ => false

lemma App.done_of_isEnded {b : App} {t : ℕ} {call : AppCall}
    {p : Prog AppInputs AppWorld AppEvent AppFailure AppResponse} (h : b.isEnded t = true)
    (ht : b.threads t = some (call, p)) : ∃ r, p = .done r := by
  simp only [App.isEnded, ht] at h
  cases p with
  | done r => exact ⟨r, rfl⟩
  | act a k => cases h

lemma demo_kycHeld : KycHeld demoHost demoAppWorld demoRejectedBetween := by
  intro ms l d d' userId t call p window hprefix hd hd' hverified hlost ht hrunning hgated
  obtain ⟨hk, hms, hnext, _⟩ := Discipline.split_concat_prefix hprefix
  have hbefore : demoBefore ms.length = some d := by rw [demoBefore, hms, hd]
  have hafter : demoBefore (ms.length + 1) = some d' := by
    rw [demoBefore, hnext]
    exact (Config.run_after hd).trans (Config.run_single hd')
  generalize ms.length = k at *
  rw [verified_iff] at hverified hlost
  obtain rfl : k = 7 := by
    by_contra hk7
    have hsame := demo_statuses k hk hk7
    rw [hbefore, hafter] at hsame
    exact hlost (Option.some.inj hsame ▸ hverified)
  have hspawned : .spawn t call ∈ demoRejectedBetween :=
    hprefix.subset (List.mem_append_left _ ((appDiscipline demoHost).spawn_of_call hd ht))
  have hcall : (t, call) = (0, demoAppTransfer) ∨ (t, call) = (2, .bank (demoPayment .small "k2")) ∨
      (t, call) = (1, demoRejection) := by
    simpa [demoRejectedBetween, demoTransferStart, demoTransferEnd, demoSolo,
      Label.solo] using hspawned
  rcases hcall with hcall | hcall | hcall
  · -- the first payment has ended
    obtain ⟨rfl, rfl⟩ := Prod.mk.inj hcall
    have hended : (demoBefore 7).map (App.isEnded · 0) = some true := by decide +kernel
    rw [hbefore] at hended
    obtain ⟨r, rfl⟩ := App.done_of_isEnded (Option.some.inj hended) ht
    exact absurd rfl (hrunning r)
  · -- the second has not begun
    obtain ⟨rfl, rfl⟩ := Prod.mk.inj hcall
    cases hgated
    rw [← hms]
    have hacts : Label.acts 2 (demoRejectedBetween.take 7) = 0 := by decide +kernel
    rw [hacts]
    simp
  · obtain ⟨rfl, rfl⟩ := Prod.mk.inj hcall
    cases hgated

theorem demo_kyc_gate : ∃ d d', (App.start demoAppWorld).run demoHost demoTransferStart = some d ∧
    d.step demoHost demoTransferEnd = some d' ∧ Activates d.shared d'.shared (demoIds .user) ∧
      d.world.Verified (demoIds .user) ∧
        ∃ b, (App.start demoAppWorld).run demoHost demoRejectedBetween = some b ∧
          ¬ b.world.Verified (demoIds .user) := by
  have hrun : ((App.start demoAppWorld).run demoHost demoTransferStart).bind (fun d =>
      (d.step demoHost demoTransferEnd).map fun d' => (d.trace.length, d'.onlyPayer)) =
      some (0, some (demoIds .user)) := by decide +kernel
  obtain ⟨d, hd, hrun⟩ := Option.bind_eq_some_iff.mp hrun
  obtain ⟨d', hd', hend⟩ := Option.map_eq_some_iff.mp hrun
  obtain ⟨hempty, hpayer⟩ : d.trace.length = 0 ∧ d'.onlyPayer = some (demoIds .user) := by
    simpa only [Prod.mk.injEq] using hend
  have hactivates := activates_of_onlyPayer (List.length_eq_zero_iff.mp hempty) hpayer
  have hrejected : ((App.start demoAppWorld).run demoHost demoRejectedBetween).map (fun b =>
      decide ((demoIds .user, KycStatus.verified) ∈ b.statuses)) = some false := by decide +kernel
  obtain ⟨b, hb, hstatus⟩ := Option.map_eq_some_iff.mp hrejected
  have hprefix : demoTransferStart ++ [demoTransferEnd] <+: demoRejectedBetween := ⟨_, rfl⟩
  refine ⟨d, d', hd, hd', hactivates, ?_, b, hb, ?_⟩
  · exact kyc_gate demo_kycHeld demoTransferStart demoTransferEnd d d' _ hprefix hd hd' hactivates
  · rw [verified_iff]
    exact of_decide_eq_false hstatus

end OnlineBanking
