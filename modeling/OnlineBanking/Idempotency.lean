import OnlineBanking.Log
import OnlineBanking.Seed

set_option autoImplicit false

/-! At most one payment is ever posted under a user's key. -/

namespace OnlineBanking

open Library

def Event.inserted : Event → List Transaction
  | .committed _ _ inserted => inserted
  | _ => []

def Event.postedUnder (userId : Uuid) (key : String) : Event → List Transaction
  | .committed payment _ inserted =>
    if payment.userId = userId ∧ payment.key = key then inserted else []
  | _ => []

def postings (trace : List (ℕ × Event)) (userId : Uuid) (key : String) : List Transaction :=
  trace.flatMap fun e => e.2.postedUnder userId key

section Trace

variable {trace : List (ℕ × Event)} {userId : Uuid} {key : String}

lemma postings_quiet {events : List (ℕ × Event)}
    (h : ∀ t payment result inserted, (t, Event.committed payment result inserted) ∉ events) :
    postings (trace ++ events) userId key = postings trace userId key := by
  have hnone : events.flatMap (fun e => e.2.postedUnder userId key) = [] := by
    rw [List.flatMap_eq_nil_iff]
    rintro ⟨t, e⟩ he
    cases e with
    | committed payment result inserted => exact absurd he (h _ _ _ _)
    | _ => rfl
  simp [postings, hnone]

lemma postings_committed {t : ℕ} {payment : Payment} {result : ServiceResult PaymentBody}
    {inserted : List Transaction} :
    postings (trace ++ [(t, .committed payment result inserted)]) userId key =
      postings trace userId key ++
        if payment.userId = userId ∧ payment.key = key then inserted else [] := by
  simp [postings, Event.postedUnder]

lemma inserted_quiet {events : List (ℕ × Event)}
    (h : ∀ t payment result inserted, (t, Event.committed payment result inserted) ∉ events) :
    (trace ++ events).flatMap (fun e => e.2.inserted) = trace.flatMap fun e => e.2.inserted := by
  have hnone : events.flatMap (fun e => e.2.inserted) = [] := by
    rw [List.flatMap_eq_nil_iff]
    rintro ⟨t, e⟩ he
    cases e with
    | committed payment result inserted => exact absurd he (h _ _ _ _)
    | _ => rfl
  simp [hnone]

end Trace

section Steps

variable {sha256 : String → String} {s s' : State}

/-- A key has at most one posting, and with it a completed row, which keeps others out. -/
structure OncePosted (s : State) : Prop where
  once : ∀ userId key, (postings s.trace userId key).length ≤ 1
  completed : ∀ userId key, postings s.trace userId key ≠ [] → KeyCompleted userId key s

theorem OncePosted.logs (hs : OncePosted s) (h : Logs sha256 s s') : OncePosted s' := by
  cases h with
  | quiet same =>
    obtain ⟨events, htrace, hnone⟩ := same.trace
    refine ⟨fun u k => ?_, fun u k hne => ?_⟩
    · rw [htrace, postings_quiet hnone]
      exact hs.once u k
    · rw [htrace, postings_quiet hnone] at hne
      exact (hs.completed u k hne).of_keys fun row hrow => same.keys ▸ hrow
  | replayed t c payment result row executes found completed hash body ok world trace =>
    refine ⟨fun u k => ?_, fun u k hne => ?_⟩
    · rw [trace, postings_committed, ite_self, List.append_nil]
      exact hs.once u k
    · rw [trace, postings_committed, ite_self, List.append_nil] at hne
      exact (hs.completed u k hne).of_keys fun row hrow => world ▸ hrow
  | posted t c payment result transaction row executes accepted unused stores created
    readable type amount
      keys transactions trace =>
    -- a posting takes an unused key, so nothing was posted under it before
    have hfirst : postings s.trace payment.userId payment.key = [] := by
      by_contra hne
      exact (hs.completed _ _ hne).used unused
    refine ⟨fun u k => ?_, fun u k hne => ?_⟩
    · rw [trace, postings_committed]
      by_cases hk : payment.userId = u ∧ payment.key = k
      · obtain ⟨rfl, rfl⟩ := hk
        simp [hfirst]
      · simpa [hk] using hs.once u k
    · rw [trace, postings_committed] at hne
      by_cases hk : payment.userId = u ∧ payment.key = k
      · obtain ⟨rfl, rfl⟩ := hk
        exact ⟨row, by simp [keys], stores.userId, stores.key, stores.completed⟩
      · exact (hs.completed u k (by simpa [hk] using hne)).of_keys fun row hrow =>
          keys ▸ List.mem_append_left _ hrow

def LogComplete (start : Db) (s : State) : Prop :=
  ∃ added, s.world.db.transactions.rows = start.transactions.rows ++ added ∧
    added.filter (fun x => x.type.isPayment) = s.trace.flatMap fun e => e.2.inserted

lemma LogComplete.logs {start : Db} (hs : LogComplete start s) (h : Logs sha256 s s') :
    LogComplete start s' := by
  obtain ⟨added, hrows, hlog⟩ := hs
  cases h with
  | quiet same =>
    obtain ⟨events, htrace, hnone⟩ := same.trace
    obtain ⟨credits, hcredits, htype⟩ := same.transactions
    have hfilter : credits.filter (fun x => x.type.isPayment) = [] := by
      rw [List.filter_eq_nil_iff]
      exact fun x hx => by simp [htype x hx]
    refine ⟨added ++ credits, by rw [hcredits, hrows, List.append_assoc], ?_⟩
    rw [List.filter_append, hfilter, List.append_nil, hlog, htrace, inserted_quiet hnone]
  | replayed t c payment result row executes found completed hash body ok world trace =>
    exact ⟨added, world ▸ hrows, by simp [hlog, trace, Event.inserted]⟩
  | posted t c payment result transaction row executes accepted unused stores created
    readable type amount
      keys transactions trace =>
    refine ⟨added ++ [transaction], by rw [transactions, hrows, List.append_assoc], ?_⟩
    simp [hlog, trace, Event.inserted, type, payment.request.isPayment_type]

end Steps

theorem run_oncePosted {sha256 : String → String} {w : World} {schedule : List Action} {b : Bank}
    (h : Bank.run sha256 (Bank.start w) schedule = some b) : OncePosted b.shared :=
  run_logs (fun _ _ => OncePosted.logs) ⟨by simp [postings], by simp [postings]⟩ h

theorem run_logComplete {sha256 : String → String} {w : World} {schedule : List Action} {b : Bank}
    (h : Bank.run sha256 (Bank.start w) schedule = some b) : LogComplete w.db b.shared :=
  run_logs (fun _ _ => LogComplete.logs) ⟨[], by simp, by simp⟩ h

/-- Under one key of a user at most one payment is posted. All payments posted are in the log, and
each is there under the user and the key of a call that executes it. -/
theorem at_most_one_posting {sha256 : String → String} {w : World}
    {schedule : List Action} {b : Bank} (h : Bank.run sha256 (Bank.start w) schedule = some b) :
    (∀ userId idempotencyKey, (postings b.trace userId (trim idempotencyKey)).length ≤ 1) ∧
      (∃ added, b.db.transactions.rows = w.db.transactions.rows ++ added ∧
        added.filter (fun x => x.type.isPayment) = b.trace.flatMap fun e => e.2.inserted) ∧
      ∀ t payment result inserted, (t, Event.committed payment result inserted) ∈ b.trace →
        ∃ call program, b.threads t = some (call, program) ∧ Executes t b.shared call payment := by
  refine ⟨fun userId key => (run_oncePosted h).once userId (trim key), run_logComplete h, ?_⟩
  exact fun t payment result inserted he => run_accounted h he

theorem demo_at_most_one_posting : ∃ b, demoReplayRun = some b ∧
    (postings b.trace (demoIds .user) (trim "k1")).length = 1 ∧
    (∀ userId idempotencyKey, (postings b.trace userId (trim idempotencyKey)).length ≤ 1) ∧
      (∃ added, b.db.transactions.rows = demoWorld.db.transactions.rows ++ added ∧
        added.filter (fun x => x.type.isPayment) = b.trace.flatMap fun e => e.2.inserted) ∧
      ∀ t payment result inserted, (t, Event.committed payment result inserted) ∈ b.trace →
        ∃ call program, b.threads t = some (call, program) ∧ Executes t b.shared call payment := by
  have hrun : demoReplayRun.map (fun b => (postings b.trace (demoIds .user) (trim "k1")).length) =
      some 1 := by
    decide +kernel
  obtain ⟨b, hb, hone⟩ := Option.map_eq_some_iff.mp hrun
  exact ⟨b, hb, hone, at_most_one_posting hb⟩

end OnlineBanking
