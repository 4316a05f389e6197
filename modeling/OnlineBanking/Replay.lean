import OnlineBanking.Idempotency

set_option autoImplicit false

/-! Every answer of a payment call is the one its key was completed with, and a key that was
completed rejects every other request. -/

namespace OnlineBanking

open Library

structure CollisionFree (sha256 : String → String) : Prop where
  injective : Function.Injective sha256
  nonempty : ∀ s, sha256 s ≠ ""

structure SamePayment (payment payment' : Payment) : Prop where
  userId : payment.userId = payment'.userId
  key : payment.key = payment'.key
  request : payment.request.normalized = payment'.request.normalized

section Same

variable {payment payment' : Payment} {sha256 : String → String} {body : PaymentBody}

lemma SamePayment.refl (payment : Payment) : SamePayment payment payment := ⟨rfl, rfl, rfl⟩

lemma SamePayment.symm (h : SamePayment payment payment') : SamePayment payment' payment :=
  ⟨h.userId.symm, h.key.symm, h.request.symm⟩

lemma SamePayment.trans {payment'' : Payment} (h : SamePayment payment payment')
    (h' : SamePayment payment' payment'') : SamePayment payment payment'' :=
  ⟨h.userId.trans h'.userId, h.key.trans h'.key, h.request.trans h'.request⟩

lemma SamePayment.type (h : SamePayment payment payment') :
    payment.request.type = payment'.request.type := congrArg NormalizedRequest.type h.request

lemma SamePayment.hash (h : SamePayment payment payment') :
    payment.request.hash sha256 = payment'.request.hash sha256 :=
  congrArg sha256 (PaymentRequest.canonical_text_eq_iff.mpr h.request)

lemma IdempotencyKey.Stores.same {k : IdempotencyKey} {requestHash : String}
    (hk : k.Stores payment requestHash body) (h : SamePayment payment payment') :
    k.Stores payment' requestHash body :=
  ⟨hk.userId.trans h.userId, hk.key.trans h.key, hk.completed, hk.requestHash, hk.responsePayload⟩

end Same

section Log

variable (sha256 : String → String) (s : State)

/-- The answer to a payment and its record: the first posts and keeps the answer in a row, and all
others repeat the answer of an earlier posting. -/
inductive Recorded (t : ℕ) (payment : Payment) (result : ServiceResult PaymentBody) :
    List Transaction → Prop
  | first (transaction : Transaction) (row : IdempotencyKey) (accepted : payment.Accepted)
      (created : result.httpStatus = 201) (mem : row ∈ s.world.db.idempotencyKeys.rows)
      (stores : row.Stores payment (payment.request.hash sha256) result.body)
      (readable : parsePayload payment.request.type (some result.body.toJson) = some result.body) :
      Recorded t payment result [transaction]
  | again (t' : ℕ) (payment' : Payment) (transaction : Transaction)
      (same : SamePayment payment' payment)
      (ok : result.httpStatus = 200)
      (order : List.Sublist [(t', Event.committed payment' ⟨201, result.body⟩ [transaction]),
        (t, .committed payment result [])] s.trace) :
      Recorded t payment result []

structure KeysLogged : Prop where
  events : ∀ t payment result inserted, (t, Event.committed payment result inserted) ∈ s.trace →
    Recorded sha256 s t payment result inserted
  rows : ∀ row ∈ s.world.db.idempotencyKeys.rows, ∃ t payment body transaction,
    (t, Event.committed payment ⟨201, body⟩ [transaction]) ∈ s.trace ∧
      row.Stores payment (payment.request.hash sha256) body

variable {sha256 s} {s' : State}

lemma Recorded.grows {t : ℕ} {payment : Payment} {result : ServiceResult PaymentBody}
    {inserted : List Transaction} (h : Recorded sha256 s t payment result inserted)
    (htrace : s.trace.Sublist s'.trace)
    (hkeys : s.world.db.idempotencyKeys.rows ⊆ s'.world.db.idempotencyKeys.rows) :
    Recorded sha256 s' t payment result inserted := by
  cases h with
  | first transaction row accepted created mem stores readable =>
    exact .first transaction row accepted created (hkeys mem) stores readable
  | again t' payment' transaction same ok order =>
    exact .again t' payment' transaction same ok (order.trans htrace)

lemma KeysLogged.grows {trace : List (ℕ × Event)} (hs : KeysLogged sha256 s)
    (htrace : s'.trace = s.trace ++ trace)
    (hkeys : s'.world.db.idempotencyKeys.rows = s.world.db.idempotencyKeys.rows)
    (hnew : ∀ t payment result inserted, (t, Event.committed payment result inserted) ∈ trace →
      Recorded sha256 s' t payment result inserted) : KeysLogged sha256 s' := by
  constructor
  · intro t payment result inserted he
    rcases List.mem_append.mp (htrace ▸ he) with he | he
    · exact (hs.events _ _ _ _ he).grows (htrace ▸ List.sublist_append_left _ _) (by simp [hkeys])
    · exact hnew _ _ _ _ he
  · intro row hrow
    obtain ⟨t, payment, body, transaction, he, stores⟩ := hs.rows row (hkeys ▸ hrow)
    exact ⟨t, payment, body, transaction, htrace ▸ List.mem_append_left _ he, stores⟩

lemma KeysLogged.found (hsha : CollisionFree sha256) (hs : KeysLogged sha256 s) {payment : Payment}
    {row : IdempotencyKey} {body : PaymentBody}
    (found : s.world.db.idempotencyKeys.findAlt (payment.userId, payment.key) = some row)
    (hash : hashDiffers row (payment.request.hash sha256) = false)
    (hbody : parsePayload payment.request.type row.responsePayload = some body) :
    ∃ t payment' transaction, SamePayment payment' payment ∧
      (t, Event.committed payment' ⟨201, body⟩ [transaction]) ∈ s.trace := by
  obtain ⟨hm, hkey⟩ := Table.findAlt_eq_some.mp found
  obtain ⟨huser, hkey⟩ := Prod.mk.injEq .. ▸ Option.some.inj hkey
  obtain ⟨t, payment', body', transaction, he, stores⟩ := hs.rows row hm
  have hne : payment'.request.hash sha256 ≠ "" := hsha.nonempty _
  have heq : payment'.request.hash sha256 = payment.request.hash sha256 := by
    simpa [hashDiffers, stores.requestHash, hne] using hash
  have same : SamePayment payment' payment :=
    ⟨stores.userId.symm.trans huser, stores.key.symm.trans hkey,
      (PaymentRequest.hash_eq_iff hsha.injective).mp heq⟩
  obtain rfl : body' = body := by
    cases hs.events _ _ _ _ he with
    | first _ _ _ _ _ _ readable =>
      rw [stores.responsePayload, ← same.type, readable] at hbody
      exact Option.some.inj hbody
  exact ⟨t, payment', transaction, same, he⟩

theorem KeysLogged.logs (hsha : CollisionFree sha256) (hs : KeysLogged sha256 s)
    (h : Logs sha256 s s') : KeysLogged sha256 s' := by
  cases h with
  | quiet same =>
    obtain ⟨events, htrace, hnone⟩ := same.trace
    exact hs.grows htrace (by rw [same.keys]) fun _ _ _ _ he => absurd he (hnone _ _ _ _)
  | replayed t c payment result row executes found completed hash body ok world trace =>
    refine hs.grows trace (by rw [world]) fun u p r inserted he => ?_
    obtain ⟨rfl, rfl, rfl, rfl⟩ : u = t ∧ p = payment ∧ r = result ∧ inserted = [] := by
      simpa using he
    obtain ⟨t', payment', transaction, same, hfirst⟩ := hs.found hsha found hash body
    refine .again t' payment' transaction same ok ?_
    rw [trace]
    exact (List.singleton_sublist.mpr hfirst).append (List.Sublist.refl _)
  | posted t c payment result transaction row executes accepted unused stores created
    readable type amount
      keys transactions trace =>
    obtain ⟨status, body⟩ := result
    obtain rfl : status = 201 := created
    have hnew : (t, Event.committed payment ⟨201, body⟩ [transaction]) ∈ s'.trace := by simp [trace]
    constructor
    · intro u p r inserted he
      rcases List.mem_append.mp (trace ▸ he) with he | he
      · exact (hs.events _ _ _ _ he).grows (trace ▸ List.sublist_append_left _ _) (by simp [keys])
      · obtain ⟨rfl, rfl, rfl, rfl⟩ :
            u = t ∧ p = payment ∧ r = ⟨201, body⟩ ∧ inserted = [transaction] := by simpa using he
        exact .first transaction row accepted rfl (by simp [keys]) stores readable
    · intro k hk
      rcases List.mem_append.mp (keys ▸ hk) with hk | hk
      · obtain ⟨u, p, b, x, he, hstores⟩ := hs.rows k hk
        exact ⟨u, p, b, x, trace ▸ List.mem_append_left _ he, hstores⟩
      · obtain rfl := List.mem_singleton.mp hk
        exact ⟨t, payment, body, transaction, hnew, stores⟩

end Log

section Runs

variable {sha256 : String → String} {w : World} {schedule : List Action} {b : Bank}

theorem run_keysLogged (hsha : CollisionFree sha256) (hempty : w.db.idempotencyKeys.rows = [])
    (h : Bank.run sha256 (Bank.start w) schedule = some b) : KeysLogged sha256 b.shared :=
  run_logs (fun _ _ hs hl => hs.logs hsha hl) ⟨by simp, by simp [hempty]⟩ h

/-- A payment call that has answered has posted the payment and given its first answer, or repeats
the first answer to the same payment. -/
def RepliesSound (b : Bank) : Prop :=
  ∀ t call result, b.threads t = some (call, .done (.ok (.payment result))) →
    ∃ payment, Executes t b.shared call payment ∧
      ((result.httpStatus = 201 ∧ ∃ transaction,
          (t, Event.committed payment result [transaction]) ∈ b.trace) ∨
        (result.httpStatus = 200 ∧ ∃ t' call' program' payment' transaction,
          b.threads t' = some (call', program') ∧ Executes t' b.shared call' payment' ∧
            SamePayment payment' payment ∧
            List.Sublist [(t', Event.committed payment' ⟨201, result.body⟩ [transaction]),
              (t, .committed payment result [])] b.trace))

theorem run_repliesSound (hsha : CollisionFree sha256) (hempty : w.db.idempotencyKeys.rows = [])
    (h : Bank.run sha256 (Bank.start w) schedule = some b) : RepliesSound b := by
  intro t call result hdone
  obtain ⟨payment, executes, inserted, hlogged⟩ :
      ∃ payment, Committed t call payment result b.shared :=
    (discipline sha256).post_of_done (holds_of_start h) hdone
  refine ⟨payment, executes, ?_⟩
  cases (run_keysLogged hsha hempty h).events t payment result inserted hlogged with
  | first transaction row accepted created mem stores readable =>
    exact .inl ⟨created, transaction, hlogged⟩
  | again t' payment' transaction same ok order =>
    obtain ⟨call', program', hthread, hexecutes⟩ :=
      run_accounted h (order.subset List.mem_cons_self)
    exact .inr ⟨ok, t', call', program', payment', transaction, hthread, hexecutes, same, order⟩

lemma run_samePayment (hsha : CollisionFree sha256) (hempty : w.db.idempotencyKeys.rows = [])
    (h : Bank.run sha256 (Bank.start w) schedule = some b) {t t' : ℕ} {payment payment' : Payment}
    {result result' : ServiceResult PaymentBody} {inserted inserted' : List Transaction}
    (he : (t, Event.committed payment result inserted) ∈ b.trace)
    (he' : (t', Event.committed payment' result' inserted') ∈ b.trace)
    (huser : payment.userId = payment'.userId) (hkey : payment.key = payment'.key) :
    SamePayment payment payment' := by
  have logged := run_keysLogged hsha hempty h
  -- both go back to a row under the key, and there is one row under a key
  have hrow : ∀ {u p r ins}, (u, Event.committed p r ins) ∈ b.trace → ∃ q, SamePayment q p ∧
      ∃ row body, row ∈ b.db.idempotencyKeys.rows ∧ row.Stores q (q.request.hash sha256) body := by
    intro u p r ins he
    cases logged.events u p r ins he with
    | first transaction row accepted created mem stores readable =>
      exact ⟨p, .refl p, row, r.body, mem, stores⟩
    | again v q transaction same ok order =>
      cases logged.events v q _ _ (order.subset List.mem_cons_self) with
      | first _ row _ _ mem stores _ => exact ⟨q, same, row, _, mem, stores⟩
  obtain ⟨q, same, row, body, mem, stores⟩ := hrow he
  obtain ⟨q', same', row', body', mem', stores'⟩ := hrow he'
  have huser' : row.userId = row'.userId := by
    rw [stores.userId, stores'.userId, same.userId, same'.userId, huser]
  have hkey' : row.key = row'.key := by rw [stores.key, stores'.key, same.key, same'.key, hkey]
  obtain rfl : row = row' := b.db.idempotencyKeys.eq_of_alt_eq mem mem' rfl
    (congrArg some (Prod.ext huser' hkey').symm)
  have hhash := Option.some.inj (stores.requestHash.symm.trans stores'.requestHash)
  have hqq : SamePayment q q' :=
    ⟨stores.userId.symm.trans stores'.userId, stores.key.symm.trans stores'.key,
      (PaymentRequest.hash_eq_iff hsha.injective).mp hhash⟩
  exact same.symm.trans (hqq.trans same')

lemma Effect.transactions_of_uncommitted {t : ℕ} {c : Call} {i : Inputs} {s s' : State}
    (h : Effect sha256 t c i s s') (hc : c.payer ≠ none) (hu : Uncommitted t s') :
    s'.world.db.transactions = s.world.db.transactions := by
  cases h.onDb with
  | notified ns db _ => rw [db, Db.addNotifications_transactions]
  | posted payment result p _ _ _ _ _ _ _ trace =>
    exact absurd (by simp [trace]) (hu payment result [p.transaction])
  | credited _ _ _ _ _ _ call _ _ _ => exact absurd (by rw [call]; rfl) hc
  | kept call _ => exact absurd call hc

lemma run_later {b' : Bank} {later : List Action}
    (h : Bank.run sha256 (Bank.start w) schedule = some b)
    (h' : Bank.run sha256 b later = some b') :
    Bank.run sha256 (Bank.start w) (schedule ++ later) = some b' ∧ Persists b.shared b'.shared := by
  exact ⟨(Config.run_after h).trans h', (grows_persists sha256).run (holds_of_start h) h'⟩

lemma differing_fails (hsha : CollisionFree sha256) (hempty : w.db.idempotencyKeys.rows = [])
    (h : Bank.run sha256 (Bank.start w) schedule = some b) {t₀ t : ℕ} {payment₀ payment : Payment}
    {result₀ : ServiceResult PaymentBody} {inserted₀ : List Transaction} {call : Call}
    {program : Service Response} (he₀ : (t₀, Event.committed payment₀ result₀ inserted₀) ∈ b.trace)
    (ht : b.threads t = some (call, program)) (hx : Executes t b.shared call payment)
    (huser : payment.userId = payment₀.userId) (hkey : payment.key = payment₀.key)
    (hne : payment.request.normalized ≠ payment₀.request.normalized) :
    Uncommitted t b.shared ∧ ∀ response, program ≠ .done (.ok response) := by
  have huncommitted : Uncommitted t b.shared := by
    intro payment' result inserted he
    obtain ⟨call', program', ht', hx'⟩ := run_accounted h he
    obtain ⟨rfl, rfl⟩ : call' = call ∧ program' = program := by simpa [ht] using ht'.symm
    obtain rfl := hx.unique (run_readsFirst h) hx'
    exact hne (run_samePayment hsha hempty h he he₀ huser hkey).request
  refine ⟨huncommitted, ?_⟩
  rintro response rfl
  have hend : Answered t call response b.shared :=
    (discipline sha256).post_of_done (holds_of_start h) ht
  cases response with
  | payment result =>
    obtain ⟨payment', _, inserted, hlogged⟩ := hend
    exact huncommitted payment' result inserted hlogged
  | _ =>
    have hpayer : call.payer = none := hend
    simp [hx.payer] at hpayer

/-- Once a key is completed, a call under it whose endpoint or normalised fields differ posts
nothing and gets no answer; it comes to a failure. -/
def RejectsDiffering (sha256 : String → String) (w : World) (schedule : List Action)
    (b : Bank) : Prop :=
  ∀ t₀ payment₀ result₀ inserted₀, (t₀, Event.committed payment₀ result₀ inserted₀) ∈ b.trace →
    ∀ t call program payment, b.threads t = some (call, program) →
      Executes t b.shared call payment →
      payment.userId = payment₀.userId → payment.key = payment₀.key →
      payment.request.normalized ≠ payment₀.request.normalized →
      (∀ s s', (s, s') ∈ Config.transitions (handle sha256) environment t (Bank.start w) schedule →
          s'.world.db.transactions = s.world.db.transactions) ∧
        (∀ response, program ≠ .done (.ok response)) ∧
        ∀ inputs, ∃ n b' failure, Bank.run sha256 b (Label.solo t inputs n) = some b' ∧
          b'.threads t = some (call, .done (.error failure))

theorem run_rejectsDiffering (hsha : CollisionFree sha256) (hempty : w.db.idempotencyKeys.rows = [])
    (h : Bank.run sha256 (Bank.start w) schedule = some b) :
    RejectsDiffering sha256 w schedule b := by
  intro t₀ payment₀ result₀ inserted₀ he₀ t call program payment ht hx huser hkey hne
  let D := discipline sha256
  obtain ⟨huncommitted, hfails⟩ := differing_fails hsha hempty h he₀ ht hx huser hkey hne
  refine ⟨fun s s' hs => ?_, hfails, fun inputs => ?_⟩
  · obtain ⟨i, heffect⟩ := D.guar_of_mem_transitions (D.init_holds w) h ht hs
    refine Effect.transactions_of_uncommitted heffect (by simp [hx.payer]) ?_
    have hpersists := ((grows_persists sha256).transition (D.init_holds w) h hs).2
    exact fun p r inserted he => huncommitted p r inserted (hpersists.trace.subset he)
  · obtain ⟨n, b', r, hrun, hdone, _⟩ := D.solo_ends inputs (I := fun _ => True)
      (fun _ _ _ => trivial) (fun _ _ _ _ _ => trivial) trivial ht
        ((holds_of_start h).safe t call program ht)
    obtain ⟨h', hpersists⟩ := run_later h hrun
    have hend := (differing_fails hsha hempty h' (hpersists.trace.subset he₀) hdone
      (hx.persists hpersists) huser hkey hne).2
    cases r with
    | ok response => exact absurd rfl (hend response)
    | error failure => exact ⟨n, b', failure, hrun, hdone⟩

end Runs

end OnlineBanking
