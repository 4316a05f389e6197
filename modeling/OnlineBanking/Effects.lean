import OnlineBanking.OtherSpecs

set_option autoImplicit false

/-! Every action of a call has one of a few effects on the shared state. What the other threads
may rely on is read off from them. -/

namespace OnlineBanking

open Library

/-- The payment a call asks for itself; a confirmation takes its payment from the challenge. -/
def Call.asked : Call → Option Payment
  | .payment userId request idempotencyKey => some ⟨userId, request, trim idempotencyKey⟩
  | _ => none

def Call.payer : Call → Option Uuid
  | .payment userId _ _ => some userId
  | .confirmStepUp userId _ _ => some userId
  | _ => none

/-- Thread `t`, which runs call `c`, executes the payment. -/
inductive Executes (t : ℕ) (s : State) : Call → Payment → Prop
  | asked {c : Call} {payment : Payment} (h : c.asked = some payment) : Executes t s c payment
  | confirmed {userId : Uuid} {challengeId otp : String} {challenge : StepUpChallenge}
      {at_ : Instant}
      (read : (t, Event.challengeRead userId challengeId challenge at_) ∈ s.trace)
      (presented : challenge.otp = otp) :
      Executes t s (.confirmStepUp userId challengeId otp)
        ⟨userId, challenge.request, trim challenge.idempotencyKey⟩

structure Payment.Accepted (payment : Payment) : Prop where
  key : payment.key ≠ ""
  currency : payment.request.currency = "RON"
  distinct : ∀ dto, payment.request = .internalTransfer dto →
    dto.sourceAccountId ≠ dto.destinationAccountId

structure Due (t : ℕ) (s : State) (c : Call) (payment : Payment) : Prop where
  executes : Executes t s c payment
  accepted : payment.Accepted
  small : c.asked ≠ none → payment.request.amount.value ≤ stepUpThreshold

def ownTrace (t : ℕ) (s : State) : List (ℕ × Event) := s.trace.filter fun e => e.1 = t

def Uncommitted (t : ℕ) (s : State) : Prop :=
  ∀ payment result inserted, (t, Event.committed payment result inserted) ∉ s.trace

/-- What only grows: the trace, the profiles of users, and the committed idempotency rows. -/
structure Persists (s s' : State) : Prop where
  trace : s.trace <+: s'.trace
  profiles : ∀ p ∈ s.world.db.customerProfiles.rows, ∃ p' ∈ s'.world.db.customerProfiles.rows,
    p'.id = p.id ∧ p'.userId = p.userId
  keys : ∀ k ∈ s.world.db.idempotencyKeys.rows, k ∈ s'.world.db.idempotencyKeys.rows

structure Rely (t : ℕ) (s s' : State) : Prop extends Persists s s' where
  own : ownTrace t s' = ownTrace t s

section Effects

variable (sha256 : String → String) (t : ℕ) (c : Call) (i : Inputs)

def LateFailure (request : PaymentRequest) : Prop :=
  i.commitFault ≠ none ∨ request.type = .internalTransfer ∧ i.fault .keyComplete ≠ none

inductive Effect (s s' : State) : Prop
  | idle (same : s' = s)
  | challengeStored (userId : Uuid) (request : PaymentRequest) (idempotencyKey : String)
      (call : c = .payment userId request idempotencyKey)
      (large : stepUpThreshold < request.amount.value)
      (world : s'.world = { s.world with
        redis := s.world.redis.set (stepUpKey userId i.challengeId)
          ⟨userId, request, trim idempotencyKey, i.otp⟩ (s.world.now + stepUpTtl) })
      (trace : s'.trace = s.trace ++ [(t, .challengeStored userId i.challengeId
        ⟨userId, request, trim idempotencyKey, i.otp⟩ (s.world.now + stepUpTtl))])
  | challengeRead (userId : Uuid) (challengeId otp : String) (challenge : StepUpChallenge)
      (call : c = .confirmStepUp userId challengeId otp) (first : ownTrace t s = [])
      (found : s.world.redis.get (stepUpKey userId challengeId) s.world.now = some challenge)
      (world : s'.world = s.world)
      (trace : s'.trace = s.trace ++ [(t, .challengeRead userId challengeId challenge s.world.now)])
  | challengeDeleted (userId : Uuid) (challengeId otp : String)
      (call : c = .confirmStepUp userId challengeId otp)
      (world : s'.world = { s.world with
        redis := s.world.redis.del (stepUpKey userId challengeId) })
      (trace : s'.trace = s.trace)
  | replayed (payment : Payment) (result : ServiceResult PaymentBody) (row : IdempotencyKey)
      (executes : Executes t s c payment) (first : Uncommitted t s)
      (found : s.world.db.idempotencyKeys.findAlt (payment.userId, payment.key) = some row)
      (completed : row.status = .completed)
      (hash : hashDiffers row (payment.request.hash sha256) = false)
      (body : parsePayload payment.request.type row.responsePayload = some result.body)
      (ok : result.httpStatus = 200) (world : s'.world = s.world)
      (trace : s'.trace = s.trace ++ [(t, .committed payment result [])])
  | posted (payment : Payment) (result : ServiceResult PaymentBody) (p : Posting) (db : Db)
      (ns : List Notification) (due : Due t s c payment) (first : Uncommitted t s)
      (applied : p.Applied s.world.db db)
      (pays : p.Pays s.world.db payment (payment.request.hash sha256) result)
      (notices : (addressed ns).Sublist
        (announcements s.world.db payment.userId p.destination payment.request.type))
      (world : s'.world = { s.world with db := db.addNotifications ns })
      (trace : s'.trace = s.trace ++ [(t, .committed payment result [p.transaction])])
  | withdrawn (payment : Payment) (source destination : Account) (ns : List Notification)
      (due : Due t s c payment) (payable : Payable s.world.db payment source destination)
      (late : LateFailure i payment.request)
      (notices : (addressed ns).Sublist (delivered i
        (announcements s.world.db payment.userId destination payment.request.type)))
      (world : s'.world = { s.world with db := s.world.db.addNotifications ns })
      (trace : s'.trace = s.trace)
  | credited (adminUserId accountId : Uuid) (dto : AdminCreditDto) (p : Posting) (db : Db)
      (ns : List Notification) (call : c = .creditAccount adminUserId accountId dto)
      (applied : p.Applied s.world.db db) (credits : p.Credits s.world.db accountId dto)
      (notices : (addressed ns).Sublist (creditAnnouncements s.world.db p.destination))
      (world : s'.world = { s.world with db := db.addNotifications ns })
      (trace : s'.trace = s.trace)
  | creditWithdrawn (adminUserId accountId : Uuid) (dto : AdminCreditDto) (source target : Account)
      (ns : List Notification) (call : c = .creditAccount adminUserId accountId dto)
      (creditable : Creditable s.world.db accountId source target) (late : i.commitFault ≠ none)
      (notices : (addressed ns).Sublist (delivered i (creditAnnouncements s.world.db target)))
      (world : s'.world = { s.world with db := s.world.db.addNotifications ns })
      (trace : s'.trace = s.trace)
  | kept (db : Db) (call : c.payer = none) (frame : s.world.db.Kept db)
      (world : s'.world = { s.world with db }) (trace : s'.trace = s.trace)

/-- What is left of an effect in the database: a payment that leaves notices only, is one that could
be posted. -/
inductive DbEffect (s s' : State) : Prop
  | notified (ns : List Notification) (db : s'.world.db = s.world.db.addNotifications ns)
      (payment : c.payer ≠ none → ns = [] ∨ ∃ payment source destination, Due t s c payment ∧
        Payable s.world.db payment source destination)
  | posted (payment : Payment) (result : ServiceResult PaymentBody) (p : Posting) (posted : Db)
      (ns : List Notification) (due : Due t s c payment) (first : Uncommitted t s)
      (applied : p.Applied s.world.db posted)
      (pays : p.Pays s.world.db payment (payment.request.hash sha256) result)
      (db : s'.world.db = posted.addNotifications ns)
      (trace : s'.trace = s.trace ++ [(t, .committed payment result [p.transaction])])
  | credited (adminUserId accountId : Uuid) (dto : AdminCreditDto) (p : Posting) (posted : Db)
      (ns : List Notification) (call : c = .creditAccount adminUserId accountId dto)
      (applied : p.Applied s.world.db posted) (credits : p.Credits s.world.db accountId dto)
      (db : s'.world.db = posted.addNotifications ns)
  | kept (call : c.payer = none) (frame : s.world.db.Kept s'.world.db)

end Effects

lemma Effect.onDb {sha256 : String → String} {t : ℕ} {c : Call} {i : Inputs} {s s' : State}
    (h : Effect sha256 t c i s s') : DbEffect sha256 t c s s' := by
  have hsame : s'.world.db = s.world.db → DbEffect sha256 t c s s' :=
    fun hdb => .notified [] hdb fun _ => .inl rfl
  cases h with
  | idle same => exact hsame (by rw [same])
  | challengeStored _ _ _ _ _ world _ => exact hsame (by rw [world])
  | challengeRead _ _ _ _ _ _ _ world _ => exact hsame (by rw [world])
  | challengeDeleted _ _ _ _ world _ => exact hsame (by rw [world])
  | replayed _ _ _ _ _ _ _ _ _ _ world _ => exact hsame (by rw [world])
  | posted payment result p db ns due first applied pays _ world trace =>
    exact .posted payment result p db ns due first applied pays (by rw [world]) trace
  | withdrawn payment source destination ns due payable _ _ world _ =>
    exact .notified ns (by rw [world]) fun _ => .inr ⟨payment, source, destination, due, payable⟩
  | credited adminUserId accountId dto p db ns call applied credits _ world _ =>
    exact .credited adminUserId accountId dto p db ns call applied credits (by rw [world])
  | creditWithdrawn _ _ _ _ _ ns call _ _ _ world _ =>
    exact .notified ns (by rw [world]) fun hpayer => absurd (by rw [call]; rfl) hpayer
  | kept db call frame world _ => exact .kept call (by rw [world]; exact frame)

section Stability

variable {t : ℕ} {s s' s'' : State}

lemma mem_ownTrace {e : Event} : (t, e) ∈ ownTrace t s ↔ (t, e) ∈ s.trace := by simp [ownTrace]

lemma Persists.refl (s : State) : Persists s s :=
  ⟨List.prefix_refl _, fun p hp => ⟨p, hp, rfl, rfl⟩, fun _ hk => hk⟩

lemma Persists.trans (h : Persists s s') (h' : Persists s' s'') : Persists s s'' := by
  refine ⟨h.trace.trans h'.trace, fun p hp => ?_, fun k hk => h'.keys k (h.keys k hk)⟩
  obtain ⟨q, hq, hqi, hqu⟩ := h.profiles p hp
  obtain ⟨r, hr, hri, hru⟩ := h'.profiles q hq
  exact ⟨r, hr, hri.trans hqi, hru.trans hqu⟩

lemma Rely.refl (t : ℕ) (s : State) : Rely t s s := ⟨Persists.refl s, rfl⟩

lemma Rely.trans (h : Rely t s s') (h' : Rely t s' s'') : Rely t s s'' :=
  ⟨h.toPersists.trans h'.toPersists, h'.own.trans h.own⟩

lemma Executes.persists {c : Call} {payment : Payment} (h : Executes t s c payment)
    (hs : Persists s s') : Executes t s' c payment := by
  cases h with
  | asked h => exact .asked h
  | confirmed read presented => exact .confirmed (hs.trace.subset read) presented

lemma Uncommitted.rely (h : Uncommitted t s) (hs : Rely t s s') : Uncommitted t s' := by
  intro payment result inserted hm
  rw [← mem_ownTrace, hs.own, mem_ownTrace] at hm
  exact h _ _ _ hm

lemma uncommitted_of_own_nil (h : ownTrace t s = []) : Uncommitted t s := by
  intro payment result inserted hm
  rw [← mem_ownTrace, h] at hm
  simp at hm

end Stability

namespace Db

@[simp] lemma addNotifications_accounts (db : Db) (ns : List Notification) :
    (db.addNotifications ns).accounts = db.accounts := by
  obtain ⟨t, ht, _⟩ := db.addNotifications_eq ns
  rw [ht]

@[simp] lemma addNotifications_customerProfiles (db : Db) (ns : List Notification) :
    (db.addNotifications ns).customerProfiles = db.customerProfiles := by
  obtain ⟨t, ht, _⟩ := db.addNotifications_eq ns
  rw [ht]

@[simp] lemma addNotifications_beneficiaries (db : Db) (ns : List Notification) :
    (db.addNotifications ns).beneficiaries = db.beneficiaries := by
  obtain ⟨t, ht, _⟩ := db.addNotifications_eq ns
  rw [ht]

@[simp] lemma addNotifications_transactions (db : Db) (ns : List Notification) :
    (db.addNotifications ns).transactions = db.transactions := by
  obtain ⟨t, ht, _⟩ := db.addNotifications_eq ns
  rw [ht]

@[simp] lemma addNotifications_ledgerEntries (db : Db) (ns : List Notification) :
    (db.addNotifications ns).ledgerEntries = db.ledgerEntries := by
  obtain ⟨t, ht, _⟩ := db.addNotifications_eq ns
  rw [ht]

@[simp] lemma addNotifications_idempotencyKeys (db : Db) (ns : List Notification) :
    (db.addNotifications ns).idempotencyKeys = db.idempotencyKeys := by
  obtain ⟨t, ht, _⟩ := db.addNotifications_eq ns
  rw [ht]

@[simp] lemma addNotifications_merchants (db : Db) (ns : List Notification) :
    (db.addNotifications ns).merchants = db.merchants := by
  obtain ⟨t, ht, _⟩ := db.addNotifications_eq ns
  rw [ht]

end Db

section Guarantee

variable {sha256 : String → String} {t u : ℕ} {c : Call} {i : Inputs} {s s' : State}

lemma Effect.own (h : Effect sha256 t c i s s') (hu : u ≠ t) : ownTrace u s' = ownTrace u s := by
  cases h with
  | idle same => rw [same]
  | challengeStored _ _ _ _ _ _ trace => simp [ownTrace, trace, hu.symm]
  | challengeRead _ _ _ _ _ _ _ _ trace => simp [ownTrace, trace, hu.symm]
  | replayed _ _ _ _ _ _ _ _ _ _ _ trace => simp [ownTrace, trace, hu.symm]
  | posted _ _ _ _ _ _ _ _ _ _ _ trace => simp [ownTrace, trace, hu.symm]
  | challengeDeleted _ _ _ _ _ trace => simp [ownTrace, trace]
  | withdrawn _ _ _ _ _ _ _ _ _ trace => simp [ownTrace, trace]
  | credited _ _ _ _ _ _ _ _ _ _ _ trace => simp [ownTrace, trace]
  | creditWithdrawn _ _ _ _ _ _ _ _ _ _ _ trace => simp [ownTrace, trace]
  | kept _ _ _ _ trace => simp [ownTrace, trace]

lemma Posting.Applied.persists {p : Posting} {db : Db} (h : p.Applied s.world.db db)
    {ns : List Notification} (world : s'.world = { s.world with db := db.addNotifications ns })
    (trace : s.trace <+: s'.trace) : Persists s s' := by
  refine ⟨trace, fun q hq => ⟨q, ?_, rfl, rfl⟩, fun k hk => ?_⟩
  · simpa [world, h.customerProfiles] using hq
  · simp [world, h.idempotencyKeys, hk]

theorem Effect.persists (h : Effect sha256 t c i s s') : Persists s s' := by
  have hsame : s'.world.db.customerProfiles = s.world.db.customerProfiles →
      s'.world.db.idempotencyKeys = s.world.db.idempotencyKeys → s.trace <+: s'.trace →
      Persists s s' :=
    fun hp hk ht => ⟨ht, fun p hm => ⟨p, hp ▸ hm, rfl, rfl⟩, fun k hm => hk ▸ hm⟩
  cases h with
  | idle same => exact same ▸ Persists.refl s
  | challengeStored _ _ _ _ _ world trace =>
    exact hsame (by rw [world]) (by rw [world]) (trace ▸ List.prefix_append _ _)
  | challengeRead _ _ _ _ _ _ _ world trace =>
    exact hsame (by rw [world]) (by rw [world]) (trace ▸ List.prefix_append _ _)
  | challengeDeleted _ _ _ _ world trace =>
    exact hsame (by rw [world]) (by rw [world]) (trace ▸ List.prefix_refl _)
  | replayed _ _ _ _ _ _ _ _ _ _ world trace =>
    exact hsame (by rw [world]) (by rw [world]) (trace ▸ List.prefix_append _ _)
  | posted _ _ _ _ _ _ _ applied _ _ world trace =>
    exact applied.persists world (trace ▸ List.prefix_append _ _)
  | withdrawn _ _ _ _ _ _ _ _ world trace =>
    exact hsame (by simp [world]) (by simp [world]) (trace ▸ List.prefix_refl _)
  | credited _ _ _ _ _ _ _ applied _ _ world trace =>
    exact applied.persists world (trace ▸ List.prefix_refl _)
  | creditWithdrawn _ _ _ _ _ _ _ _ _ _ world trace =>
    exact hsame (by simp [world]) (by simp [world]) (trace ▸ List.prefix_refl _)
  | kept db _ frame world trace =>
    refine ⟨trace ▸ List.prefix_refl _, ?_, fun k hm => ?_⟩
    · simpa [world] using frame.profiles
    · simpa [world, frame.idempotencyKeys] using hm

lemma Effect.rely (h : Effect sha256 t c i s s') (hu : u ≠ t) : Rely u s s' :=
  ⟨h.persists, h.own hu⟩

end Guarantee

end OnlineBanking
