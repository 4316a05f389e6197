import OnlineBanking.AllThreads

set_option autoImplicit false

/-! The trace of a run as a log of its payments: who logged each event, and what the rows of the
database have to do with it. -/

namespace OnlineBanking

open Library

lemma grows_persists (sha256 : String → String) : (discipline sha256).Grows Persists where
  refl := Persists.refl
  trans _ _ _ := Persists.trans
  guar _ _ _ _ _ h := Effect.persists h
  env e s := .of_kept (environment_kept e s.world)

lemma holds_of_start {sha256 : String → String} {w : World} {schedule : List Action} {b : Bank}
    (h : Bank.run sha256 (Bank.start w) schedule = some b) : (discipline sha256).Holds b :=
  (discipline sha256).holds_of_run ((discipline sha256).init_holds w) h

def Accounted (t : ℕ) (c : Call) : Event → State → Prop
  | .committed payment _ _, s => Executes t s c payment
  | .challengeStored userId _ challenge _, _ =>
    stepUpThreshold < challenge.request.amount.value ∧ ∃ idempotencyKey,
      c = .payment userId challenge.request idempotencyKey ∧ challenge.userId = userId ∧
        challenge.idempotencyKey = trim idempotencyKey
  | .challengeRead userId challengeId _ _, _ => ∃ otp, c = .confirmStepUp userId challengeId otp

section Steps

variable {sha256 : String → String} {t : ℕ} {c : Call} {i : Inputs} {s s' : State}

lemma Effect.accounted (h : Effect sha256 t c i s s') (u : ℕ) (e : Event) (he : (u, e) ∈ s'.trace) :
    (u, e) ∈ s.trace ∨ u = t ∧ Accounted t c e s' := by
  have hp := h.persists
  have hsame : s'.trace = s.trace → (u, e) ∈ s.trace ∨ u = t ∧ Accounted t c e s' :=
    fun htrace => .inl (htrace ▸ he)
  have hone : ∀ x, s'.trace = s.trace ++ [(t, x)] → Accounted t c x s' →
      (u, e) ∈ s.trace ∨ u = t ∧ Accounted t c e s' := by
    intro x htrace hx
    rcases List.mem_append.mp (htrace ▸ he) with he | he
    · exact .inl he
    · obtain ⟨rfl, rfl⟩ := Prod.mk.injEq .. ▸ List.mem_singleton.mp he
      exact .inr ⟨rfl, hx⟩
  cases h with
  | idle same => exact .inl (same ▸ he)
  | challengeStored userId request key call large world trace =>
    exact hone _ trace ⟨large, key, call, rfl, rfl⟩
  | challengeRead userId id otp challenge call first found world trace =>
    exact hone _ trace ⟨otp, call⟩
  | challengeDeleted _ _ _ _ _ trace => exact hsame trace
  | replayed _ _ _ executes _ _ _ _ _ _ _ trace => exact hone _ trace (executes.persists hp)
  | posted _ _ _ _ _ due _ _ _ _ _ trace => exact hone _ trace (due.executes.persists hp)
  | withdrawn _ _ _ _ _ _ _ _ _ trace => exact hsame trace
  | credited _ _ _ _ _ _ _ _ _ _ _ trace => exact hsame trace
  | creditWithdrawn _ _ _ _ _ _ _ _ _ _ _ trace => exact hsame trace
  | kept _ _ _ _ trace => exact hsame trace

lemma Accounted.persists {e : Event} (h : Persists s s') (ha : Accounted t c e s) :
    Accounted t c e s' := by
  cases e with
  | committed payment result inserted => exact Executes.persists ha h
  | challengeStored _ _ _ _ => exact ha
  | challengeRead _ _ _ _ => exact ha

end Steps

theorem run_accounted {sha256 : String → String} {w : World} {schedule : List Action} {b : Bank}
    (h : Bank.run sha256 (Bank.start w) schedule = some b) {t : ℕ} {e : Event}
    (he : (t, e) ∈ b.trace) : ∃ call p, b.threads t = some (call, p) ∧
    Accounted t call e b.shared :=
  (grows_persists sha256).accounted (fun _ _ _ _ _ hg => hg.accounted)
    (fun _ _ _ _ _ hs ha => ha.persists hs) h he

lemma Executes.payer {t : ℕ} {s : State} {c : Call} {payment : Payment}
    (h : Executes t s c payment) :
    c.payer = some payment.userId := by
  cases h with
  | asked h =>
    cases c with
    | payment userId request key =>
      obtain rfl := Option.some.inj h
      rfl
    | _ => simp [Call.asked] at h
  | confirmed _ _ => rfl

def Event.isRead : Event → Bool
  | .challengeRead _ _ _ _ => true
  | _ => false

def ReadsFirst (s : State) : Prop := ∀ t, ∀ e ∈ (ownTrace t s).tail, e.2.isRead = false

lemma Effect.readsFirst {sha256 : String → String} {t : ℕ} {c : Call} {i : Inputs} {s s' : State}
    (h : Effect sha256 t c i s s') (hs : ReadsFirst s) : ReadsFirst s' := by
  intro u
  by_cases hu : u = t
  · subst hu
    have hsame : s'.trace = s.trace → ∀ e ∈ (ownTrace u s').tail, e.2.isRead = false := by
      intro htrace
      simpa [ownTrace, htrace] using hs u
    have hone : ∀ x : Event, s'.trace = s.trace ++ [(u, x)] →
        (ownTrace u s = [] ∨ x.isRead = false) →
          ∀ e ∈ (ownTrace u s').tail, e.2.isRead = false := by
      intro x htrace hx e he
      have hown : ownTrace u s' = ownTrace u s ++ [(u, x)] := by simp [ownTrace, htrace]
      rw [hown] at he
      cases ho : ownTrace u s with
      | nil => simp [ho] at he
      | cons y ys =>
        have hnot : x.isRead = false := hx.resolve_left (by simp [ho])
        rcases List.mem_append.mp (by simpa [ho] using he : e ∈ ys ++ [(u, x)]) with he | he
        · exact hs u e (by simpa [ho] using he)
        · obtain rfl := List.mem_singleton.mp he
          exact hnot
    cases h with
    | idle same => exact same ▸ hs u
    | challengeStored _ _ _ _ _ _ trace => exact hone _ trace (.inr rfl)
    | challengeRead _ _ _ _ _ first _ _ trace => exact hone _ trace (.inl first)
    | challengeDeleted _ _ _ _ _ trace => exact hsame trace
    | replayed _ _ _ _ _ _ _ _ _ _ _ trace => exact hone _ trace (.inr rfl)
    | posted _ _ _ _ _ _ _ _ _ _ _ trace => exact hone _ trace (.inr rfl)
    | withdrawn _ _ _ _ _ _ _ _ _ trace => exact hsame trace
    | credited _ _ _ _ _ _ _ _ _ _ _ trace => exact hsame trace
    | creditWithdrawn _ _ _ _ _ _ _ _ _ _ _ trace => exact hsame trace
    | kept _ _ _ _ trace => exact hsame trace
  · rw [h.own hu]
    exact hs u

theorem run_readsFirst {sha256 : String → String} {w : World} {schedule : List Action} {b : Bank}
    (h : Bank.run sha256 (Bank.start w) schedule = some b) : ReadsFirst b.shared := by
  let D := discipline sha256
  refine (D.shared_invariant (P := ReadsFirst) ?_ (fun _ _ hP => hP) (D.init_holds w) ?_
    (Discipline.meets_true _ _) h).2
  · exact fun _ _ _ _ _ _ _ _ _ hP hg => Effect.readsFirst hg hP
  · simp [ReadsFirst, ownTrace, Config.init]

lemma ReadsFirst.unique {s : State} (hs : ReadsFirst s) {t : ℕ} {e e' : Event}
    (he : (t, e) ∈ s.trace) (he' : (t, e') ∈ s.trace) (hr : e.isRead = true)
    (hr' : e'.isRead = true) : e = e' := by
  rw [← mem_ownTrace] at he he'
  have h := hs t
  cases ho : ownTrace t s with
  | nil => simp [ho] at he
  | cons x xs =>
    simp only [ho, List.tail_cons] at h
    have hfirst : ∀ y : Event, (t, y) ∈ ownTrace t s → y.isRead = true → (t, y) = x := by
      intro y hy hread
      rcases List.mem_cons.mp (ho ▸ hy) with hy | hy
      · exact hy
      · exact absurd (h _ hy) (by simp [hread])
    exact (Prod.mk.injEq .. ▸ (hfirst e he hr).trans (hfirst e' he' hr').symm).2

lemma Executes.unique {s : State} (hs : ReadsFirst s) {t : ℕ} {c : Call}
    {payment payment' : Payment} (h : Executes t s c payment) (h' : Executes t s c payment') :
    payment = payment' := by
  cases h with
  | asked h =>
    cases h' with
    | asked h' => exact Option.some.inj (h.symm.trans h')
    | confirmed _ _ => simp [Call.asked] at h
  | confirmed read presented =>
    cases h' with
    | asked h' => simp [Call.asked] at h'
    | confirmed read' presented' =>
      have := hs.unique read read' rfl rfl
      simp only [Event.challengeRead.injEq] at this
      rw [this.2.2.1]

def TransactionType.isPayment : TransactionType → Bool
  | internalTransfer | beneficiaryTransfer | merchantPayment => true
  | _ => false

lemma PaymentRequest.isPayment_type (r : PaymentRequest) : r.type.isPayment = true := by
  cases r <;> rfl

/-- An action that logs no payment, creates no key and posts none but administrators' credits. -/
structure Quiet (s s' : State) : Prop where
  trace : ∃ events, s'.trace = s.trace ++ events ∧
    ∀ t payment result inserted, (t, Event.committed payment result inserted) ∉ events
  keys : s'.world.db.idempotencyKeys = s.world.db.idempotencyKeys
  transactions : ∃ credits, s'.world.db.transactions.rows =
    s.world.db.transactions.rows ++ credits ∧
    ∀ x ∈ credits, x.type.isPayment = false

inductive Logs (sha256 : String → String) (s s' : State) : Prop
  | quiet (same : Quiet s s')
  | replayed (t : ℕ) (c : Call) (payment : Payment) (result : ServiceResult PaymentBody)
      (row : IdempotencyKey) (executes : Executes t s c payment)
      (found : s.world.db.idempotencyKeys.findAlt (payment.userId, payment.key) = some row)
      (completed : row.status = .completed)
      (hash : hashDiffers row (payment.request.hash sha256) = false)
      (body : parsePayload payment.request.type row.responsePayload = some result.body)
      (ok : result.httpStatus = 200) (world : s'.world = s.world)
      (trace : s'.trace = s.trace ++ [(t, .committed payment result [])])
  | posted (t : ℕ) (c : Call) (payment : Payment) (result : ServiceResult PaymentBody)
      (transaction : Transaction) (row : IdempotencyKey) (executes : Executes t s c payment)
      (accepted : payment.Accepted)
      (unused : s.world.db.idempotencyKeys.findAlt (payment.userId, payment.key) = none)
      (stores : row.Stores payment (payment.request.hash sha256) result.body)
      (created : result.httpStatus = 201)
      (readable : parsePayload payment.request.type (some result.body.toJson) = some result.body)
      (type : transaction.type = payment.request.type)
      (amount : transaction.amount = payment.request.amount.value)
      (keys : s'.world.db.idempotencyKeys.rows = s.world.db.idempotencyKeys.rows ++ [row])
      (transactions :
        s'.world.db.transactions.rows = s.world.db.transactions.rows ++ [transaction])
      (trace : s'.trace = s.trace ++ [(t, .committed payment result [transaction])])

lemma Effect.logs {sha256 : String → String} {t : ℕ} {c : Call} {i : Inputs} {s s' : State}
    (h : Effect sha256 t c i s s') : Logs sha256 s s' := by
  have hquiet : ∀ events, s'.trace = s.trace ++ events →
      (∀ t payment result inserted, (t, Event.committed payment result inserted) ∉ events) →
      s'.world.db.idempotencyKeys = s.world.db.idempotencyKeys →
      s'.world.db.transactions = s.world.db.transactions → Logs sha256 s s' :=
    fun events htrace hnone hkeys htxns =>
      .quiet ⟨⟨events, htrace, hnone⟩, hkeys, [], by simp [htxns], by simp⟩
  have hsame : s'.trace = s.trace → s'.world.db.idempotencyKeys = s.world.db.idempotencyKeys →
      s'.world.db.transactions = s.world.db.transactions → Logs sha256 s s' :=
    fun htrace hkeys htxns => hquiet [] (by simp [htrace]) (by simp) hkeys htxns
  cases h with
  | idle same => exact hsame (by rw [same]) (by rw [same]) (by rw [same])
  | challengeStored _ _ _ _ _ world trace =>
    exact hquiet _ trace (by simp) (by rw [world]) (by rw [world])
  | challengeRead _ _ _ _ _ _ _ world trace =>
    exact hquiet _ trace (by simp) (by rw [world]) (by rw [world])
  | challengeDeleted _ _ _ _ world trace => exact hsame trace (by rw [world]) (by rw [world])
  | replayed payment result row executes _ found completed hash body ok world trace =>
    exact .replayed t c payment result row executes found completed hash body ok world trace
  | posted payment result p db ns due _ applied pays _ world trace =>
    obtain ⟨k, hk, stores⟩ := pays.key
    refine .posted t c payment result p.transaction k due.executes due.accepted
      pays.payable.key_unused stores
      pays.created pays.readable pays.type pays.amount ?_ ?_ trace
    · simp [world, applied.idempotencyKeys, hk]
    · simp [world, applied.transactions]
  | withdrawn _ _ _ _ _ _ _ _ world trace => exact hsame trace (by simp [world]) (by simp [world])
  | credited _ _ _ p db ns _ applied credits _ world trace =>
    refine .quiet ⟨⟨[], by simp [trace], by simp⟩, ?_, [p.transaction], ?_, ?_⟩
    · refine Table.ext ?_
      simp [world, applied.idempotencyKeys, credits.keyless]
    · simp [world, applied.transactions]
    · intro x hx
      obtain rfl := List.mem_singleton.mp hx
      simp [credits.type, TransactionType.isPayment]
  | creditWithdrawn _ _ _ _ _ _ _ _ _ _ world trace =>
    exact hsame trace (by simp [world]) (by simp [world])
  | kept db _ frame world trace =>
    exact hsame trace (by simp [world, frame.idempotencyKeys]) (by simp [world, frame.transactions])

theorem run_logs {sha256 : String → String} {P : State → Prop}
    (hlogs : ∀ s s', P s → Logs sha256 s s' → P s') {w : World} {schedule : List Action} {b : Bank}
    (hstart : P ⟨w, []⟩) (h : Bank.run sha256 (Bank.start w) schedule = some b) : P b.shared := by
  let D := discipline sha256
  refine (D.shared_invariant (P := P) ?_ ?_ (D.init_holds w) hstart (Discipline.meets_true _ _) h).2
  · exact fun _ _ _ _ _ _ _ _ _ hP hg => hlogs _ _ hP (Effect.logs hg)
  · intro e s hP
    have hkept := environment_kept e s.world
    exact hlogs _ _ hP (.quiet ⟨⟨[], by simp, by simp⟩, hkept.idempotencyKeys, [],
      by simp [hkept.transactions], by simp⟩)

theorem run_inserted {sha256 : String → String} {w : World} {schedule : List Action} {b : Bank}
    (h : Bank.run sha256 (Bank.start w) schedule = some b) {t : ℕ} {payment : Payment}
    {result : ServiceResult PaymentBody} {inserted : List Transaction}
    (he : (t, Event.committed payment result inserted) ∈ b.trace) :
    ∀ x ∈ inserted, inserted = [x] ∧ x.type = payment.request.type ∧
      x.amount = payment.request.amount.value := by
  refine run_logs (P := fun s => ∀ t payment result inserted,
    (t, Event.committed payment result inserted) ∈ s.trace →
      ∀ x ∈ inserted, inserted = [x] ∧ x.type = payment.request.type ∧
        x.amount = payment.request.amount.value) ?_
    (by simp) h t payment result inserted he
  intro s s' hs hl t payment result inserted he
  cases hl with
  | quiet same =>
    obtain ⟨events, htrace, hnone⟩ := same.trace
    exact hs t payment result inserted
      ((List.mem_append.mp (htrace ▸ he)).resolve_right (hnone _ _ _ _))
  | replayed _ _ _ _ _ _ _ _ _ _ _ _ trace =>
    rcases List.mem_append.mp (trace ▸ he) with he | he
    · exact hs _ _ _ _ he
    · simp only [List.mem_singleton, Prod.mk.injEq, Event.committed.injEq] at he
      simp [he]
  | posted _ _ _ _ transaction _ _ _ _ _ _ _ type amount _ _ trace =>
    rcases List.mem_append.mp (trace ▸ he) with he | he
    · exact hs _ _ _ _ he
    · simp only [List.mem_singleton, Prod.mk.injEq, Event.committed.injEq] at he
      obtain ⟨-, rfl, -, rfl⟩ := he
      simp [type, amount]

end OnlineBanking
