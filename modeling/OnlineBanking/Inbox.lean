import OnlineBanking.Registration

set_option autoImplicit false

/-! The inbox of a user over a run: what is delivered stays as it was, and only its owner reads
it. -/

namespace OnlineBanking

open Library

def Notification.sent (n : Notification) : Notification := { n with readAt := none }

@[simp] lemma Notification.sent_read (now : Instant) (n : Notification) :
    ((Notification.read now).apply n).sent = n.sent :=
  rfl

def MarksWithin (c : Call) (T T' : Table Notification) : Prop :=
  ∃ (m : Notification → Bool) (now : Instant) (added : List Notification),
    (∀ n, m n = true → c.marks n = true) ∧
    T'.rows = T.rows.map (fun n => if m n then (Notification.read now).apply n else n) ++ added

lemma MarksWithin.delivered {c : Call} {T T' : Table Notification} (added : List Notification)
    (h : T'.rows = T.rows ++ added) : MarksWithin c T T' :=
  ⟨fun _ => false, 0, added, fun _ hn => absurd hn Bool.false_ne_true, by simpa using h⟩

lemma addNotifications_rows (db : Db) (ns : List Notification) :
    ∃ kept, (db.addNotifications ns).notifications.rows = db.notifications.rows ++ kept := by
  obtain ⟨t, ht, kept, hrows, _⟩ := db.addNotifications_eq ns
  exact ⟨kept, by rw [ht, hrows]⟩

lemma Written.inbox {c : Call} {db db' : Db} (h : Written c db db') :
    MarksWithin c db.notifications db'.notifications := by
  cases h with
  | elsewhere _ _ _ notifications => exact .delivered [] (by rw [notifications, List.append_nil])
  | noticed ns after =>
    obtain ⟨kept, hrows⟩ := addNotifications_rows db ns
    exact .delivered kept (after ▸ hrows)
  | posted p posted ns applied after =>
    obtain ⟨kept, hrows⟩ := addNotifications_rows posted ns
    exact .delivered (p.notice.toList ++ kept)
      (by rw [after, hrows, applied.notifications, List.append_assoc])
  | opened dto x call opens => exact .delivered [] (by rw [opens.notifications, List.append_nil])
  | verified id status verifiedAt after => exact .delivered [] (by rw [after, List.append_nil])
  | marked now after =>
    exact ⟨c.marks, now, [], fun _ hn => hn, by rw [after, Table.modifyAll_rows, List.append_nil]⟩

def Call.Marking : Call → Prop
  | .markAsRead _ _ => True
  | .markAllAsRead _ => True
  | _ => False

def HasMarked (c : Call) (w w' : World) (p : Prog Inputs World Event Failure Response) : Prop :=
  (∃ now, w'.db.notifications = w.db.notifications.modifyAll c.marks (Notification.read now)) ∧
    p = .done (.ok (.marked (w.db.notifications.rows.filter c.marks).length))

lemma must_marks (c : Call) {l : Statement} {now : Instant} :
    (Service.updateMany Db.notification l c.marks (Notification.read now)).Must fun w w' p =>
      (∃ now, w'.db.notifications = w.db.notifications.modifyAll c.marks (Notification.read now)) ∧
        p = .done (.ok (w.db.notifications.rows.filter c.marks).length) := by
  apply Prog.must_atomic
  intro i w
  dsimp only
  split
  · exact .inr ⟨_, rfl⟩
  · exact .inl ⟨⟨now, rfl⟩, rfl⟩

lemma must_marking (sha256 : String → String) {c : Call} (hc : c.Marking) :
    (handle sha256 c).Must (HasMarked c) := by
  have hanswer : ∀ w w' p, ((∃ now, w'.db.notifications = w.db.notifications.modifyAll c.marks
      (Notification.read now)) ∧
      p = .done (.ok (w.db.notifications.rows.filter c.marks).length)) →
        HasMarked c w w' (do return Response.marked (← (p : Service ℕ))) := by
    rintro w w' p ⟨hmarked, rfl⟩
    exact ⟨hmarked, rfl⟩
  cases c with
  | markAsRead id userId =>
    refine Prog.Must.bind (Prog.must_bind fun now => ?_) hanswer
    cases hid : Uuid.ofText id with
    | none => exact Prog.must_throw
    | some notificationId =>
      dsimp only
      rw [← Call.marks_markAsRead hid]
      exact must_marks (.markAsRead id userId)
  | markAllAsRead userId =>
    exact Prog.Must.bind (Prog.must_bind fun now => must_marks (.markAllAsRead userId)) hanswer
  | _ => exact hc.elim

def Marked (d b : Bank) (n : Notification) : Prop :=
  ∃ t c p, b.threads t = some (c, p) ∧ c.marks n = true ∧ ∀ r, d.threads t ≠ some (c, .done r)

/-- What has become of the notifications of `d`: the texts stay, and whoever has read one is its
owner. -/
structure InboxKept (d b : Bank) : Prop where
  sent : ∃ added, b.db.notifications.rows.map Notification.sent =
    d.db.notifications.rows.map Notification.sent ++ added
  rows : ∀ n ∈ d.db.notifications.rows, ∃ n' ∈ b.db.notifications.rows, n'.sent = n.sent ∧
    (n' = n ∨ n'.readAt.isSome ∧ Marked d b n)

section Runs

variable {sha256 : String → String} {w : World} {schedule ms ns : List Action} {b b' d : Bank}

lemma InboxKept.refl (d : Bank) : InboxKept d d :=
  ⟨⟨[], by simp⟩, fun n hn => ⟨n, hn, rfl, .inl rfl⟩⟩

lemma InboxKept.step {c : Call} (h : InboxKept d b)
    (hwritten : MarksWithin c b.db.notifications b'.db.notifications)
    (hthreads : ∀ t call p, b.threads t = some (call, p) → ∃ q, b'.threads t = some (call, q))
    (hacting : (∃ t p, b'.threads t = some (c, p) ∧ ∀ r, d.threads t ≠ some (c, .done r)) ∨
      ∀ n, c.marks n = false) :
    InboxKept d b' := by
  obtain ⟨m, now, new, hm, hrows⟩ := hwritten
  constructor
  · obtain ⟨added, hadded⟩ := h.sent
    refine ⟨added ++ new.map Notification.sent, ?_⟩
    rw [hrows, List.map_append, List.map_map, ← List.append_assoc, ← hadded]
    congr 1
    apply List.map_congr_left
    intro n _
    by_cases hn : m n <;> simp [hn]
  · intro n hn
    obtain ⟨n', hn', hsent, hread⟩ := h.rows n hn
    refine ⟨_, by rw [hrows]; exact List.mem_append_left _ (List.mem_map_of_mem hn'), ?_⟩
    have hkept : n' = n ∨ n'.readAt.isSome ∧ Marked d b' n := by
      apply hread.imp_right
      rintro ⟨hsome, t, call, p, hp, hmarks, hlive⟩
      obtain ⟨q, hq⟩ := hthreads t call p hp
      exact ⟨hsome, t, call, q, hq, hmarks, hlive⟩
    by_cases hmarked : m n' = true
    · rw [if_pos hmarked]
      refine ⟨hsent, .inr ⟨rfl, ?_⟩⟩
      rcases hkept with rfl | ⟨_, hbefore⟩
      · rcases hacting with ⟨t, p, hp, hlive⟩ | hnone
        · exact ⟨t, c, p, hp, hm n' hmarked, hlive⟩
        · exact absurd (hm n' hmarked) (by simp [hnone n'])
      · exact hbefore
    · rw [if_neg hmarked]
      exact ⟨hsent, hkept⟩

lemma run_inboxKept (hd : (writesDiscipline sha256).Holds d) (h : Bank.run sha256 d ns = some b) :
    InboxKept d b := by
  refine ((writesDiscipline sha256).run_invariant
    (P := fun b : Bank => InboxKept d b ∧ ∀ t c r, d.threads t = some (c, .done r) →
      b.threads t = some (c, .done r)) ?_ hd
    ⟨.refl d, fun _ _ _ h => h⟩ (Discipline.meets_true _ _) h).2.1
  rintro e l e' he _ ⟨hkept, hdone⟩ hstep
  refine ⟨?_, fun t c r ht => Config.done_step hstep (hdone t c r ht)⟩
  have hthreads : ∀ t call p, e.threads t = some (call, p) → ∃ q, e'.threads t = some (call, q) :=
    fun t call p hp => (writesDiscipline sha256).call_persists he hstep hp
  rcases (writesDiscipline sha256).step_cases he hstep with
    ⟨t, call, _, _, hshared, _⟩ | ⟨t, i, call, p, q, rfl, hp, ⟨heffect, hwritten⟩, hq, _⟩ |
      ⟨v, _, hshared, _⟩
  · refine hkept.step (c := .removeBeneficiary ⟨0⟩ ⟨0⟩) (.delivered [] ?_) hthreads
      (.inr fun _ => rfl)
    rw [Bank.db, Bank.db, hshared, List.append_nil]
  · have hcall : Written call e.shared.world.db e'.shared.world.db := by
      by_cases hc : call.payer = none
      · exact hwritten hc
      · exact heffect.written hc
    refine hkept.step hcall.inbox hthreads (.inl ⟨t, q, by simp [hq], fun r hr => ?_⟩)
    have hfinished := hdone t call r hr
    obtain ⟨_, rfl⟩ : call = call ∧ p = .done r := by simpa [hp] using hfinished
    simp [Config.step, hp] at hstep
  · refine hkept.step (c := .removeBeneficiary ⟨0⟩ ⟨0⟩) ?_ hthreads (.inr fun _ => rfl)
    rw [Bank.db, Bank.db, hshared]
    exact (environment_written _ v e.shared.world).inbox

/-- What a call has answered that marks notifications: it has counted and marked them all at one
moment, and they are read ever since. -/
def Answered.Counted (sha256 : String → String) (d b : Bank) (ns : List Action) (t : ℕ) (c : Call)
    (count : ℕ) : Prop :=
  ∃ ns₁ i ns₂ e, ns = ns₁ ++ .act t i :: ns₂ ∧ Bank.run sha256 d ns₁ = some e ∧
    count = (e.db.notifications.rows.filter c.marks).length ∧
    ∀ n ∈ e.db.notifications.rows, c.marks n = true ∨ n.readAt.isSome →
      ∃ n' ∈ b.db.notifications.rows, n'.sent = n.sent ∧ n'.readAt.isSome

lemma run_counted (hd : (writesDiscipline sha256).Holds d) (h : Bank.run sha256 d ns = some b)
    {t : ℕ} {c : Call} (hc : c.Marking) (hnone : d.threads t = none) {r : Response}
    (ht : b.threads t = some (c, .done (.ok r))) :
    ∃ count, r = .marked count ∧ Answered.Counted sha256 d b ns t c count := by
  obtain ⟨ns₁, i, ns₂, e, e', p, hacts⟩ := Config.acts_of_must (must_marking sha256 hc) h hnone ht
  obtain ⟨⟨now, hmarked⟩, rfl⟩ := hacts.meets
  have hdone := Config.done_run hacts.after hacts.thread
  obtain rfl : Response.marked _ = r := by simpa [ht] using hdone.symm
  refine ⟨_, rfl, ns₁, i, ns₂, e, hacts.split, hacts.before, rfl, ?_⟩
  intro n hn hread
  have he' := (writesDiscipline sha256).step_holds
    ((writesDiscipline sha256).holds_of_run hd hacts.before) hacts.action
  obtain ⟨x, hx, hxsent, hxread⟩ : ∃ x ∈ e'.shared.world.db.notifications.rows, x.sent = n.sent ∧
      x.readAt.isSome := by
    rw [hmarked, Table.modifyAll_rows]
    refine ⟨_, List.mem_map_of_mem hn, ?_⟩
    by_cases hmarks : c.marks n = true
    · rw [if_pos hmarks]
      exact ⟨rfl, rfl⟩
    · rw [if_neg hmarks]
      exact ⟨rfl, hread.resolve_left hmarks⟩
  obtain ⟨n', hn', hsent, hkept⟩ := (run_inboxKept he' hacts.after).rows x hx
  refine ⟨n', hn', hsent.trans hxsent, ?_⟩
  rcases hkept with rfl | ⟨hsome, _⟩
  · exact hxread
  · exact hsome

structure Inbox (sha256 : String → String) (d b : Bank) (ns : List Action) :
    Prop extends InboxKept d b where
  counted : ∀ t c r, c.Marking → d.threads t = none → b.threads t = some (c, .done (.ok r)) →
    ∃ count, r = .marked count ∧ Answered.Counted sha256 d b ns t c count

theorem inbox_kept (hms : Bank.run sha256 (Bank.start w) ms = some d)
    (hns : Bank.run sha256 d ns = some b) : Inbox sha256 d b ns := by
  have hd := (writesDiscipline sha256).holds_of_run ((writesDiscipline sha256).init_holds w) hms
  exact ⟨run_inboxKept hd hns, fun t c r hc hnone ht => run_counted hd hns hc hnone ht⟩

end Runs

def welcomeSchedule : List Action := neighbourSchedule.take 6

def welcomedUser : Uuid := (neighbourInputs 2).uuid .userCreate

/-- The database reads the first id without its hyphens, and refuses the second. -/
def readSchedule : List Action :=
  [.spawn 1 (.markAsRead "0000000000004000800000000000139F" welcomedUser),
    .spawn 2 (.markAsRead "the-welcome" welcomedUser), .act 1 (neighbourInputs 5),
    .act 2 (neighbourInputs 6),
    .act 1 (neighbourInputs 7)]

def Bank.markedCount (b : Bank) (t : ℕ) : Option ℕ :=
  match b.threads t with
  | some (_, .done (.ok (.marked count))) => some count
  | _ => none

def Bank.isFailed (b : Bank) (t : ℕ) : Bool :=
  match b.threads t with
  | some (_, .done (.error (.prisma _))) => true
  | _ => false

lemma welcome_run : ((Bank.run demoSha256 (Bank.start demoWorld) welcomeSchedule).bind fun d =>
    (Bank.run demoSha256 d readSchedule).map fun b =>
      ((b.db.notifications.rows.any fun n => n.readAt.isSome), b.markedCount 1, b.isFailed 2)) =
        some (true, some 1, true) := by
  decide +kernel

theorem demo_inbox_kept : ∃ d b, Bank.run demoSha256 (Bank.start demoWorld) welcomeSchedule =
    some d ∧
    Bank.run demoSha256 d readSchedule = some b ∧ Inbox demoSha256 d b readSchedule ∧
    (∃ n ∈ b.db.notifications.rows, n.readAt.isSome) ∧ b.markedCount 1 = some 1 ∧
    b.isFailed 2 = true := by
  obtain ⟨d, hd, heval⟩ := Option.bind_eq_some_iff.mp welcome_run
  obtain ⟨b, hb, hread⟩ := Option.map_eq_some_iff.mp heval
  obtain ⟨hany, hends⟩ := Prod.mk.inj hread
  obtain ⟨hcount, hfailed⟩ := Prod.mk.inj hends
  exact ⟨d, b, hd, hb, inbox_kept hd hb, List.any_eq_true.mp hany, hcount, hfailed⟩

end OnlineBanking
