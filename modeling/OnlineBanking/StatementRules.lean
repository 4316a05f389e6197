import OnlineBanking.PaymentsService

set_option autoImplicit false

/-! What each statement of a transaction callback does to its session. -/

namespace OnlineBanking

open Library Callback

section Lenses

variable {ρ κ ν : Type} [Record ρ κ ν] [DecidableEq κ] [DecidableEq ν]

lemma Db.create_eq_ok {m : Model ρ} {row r : ρ} {db db' : Db}
    (h : Db.create m row db = .ok (r, db')) :
    r = row ∧ ∃ t, (m.get db).insert row = some t ∧ db' = m.set db t := by
  unfold Db.create at h
  split at h
  · rename_i t ht
    cases h
    exact ⟨rfl, t, ht, rfl⟩
  · cases h

omit [DecidableEq ν] in
lemma Db.update_eq_ok {m : Model ρ} {k : κ} {f : Patch ρ} {r : ρ} {db db' : Db}
    (h : Db.update m k f db = .ok (r, db')) :
    ∃ row, (m.get db).find k = some row ∧ r = f.apply row ∧
      db' = m.set db ((m.get db).modify k f) := by
  unfold Db.update at h
  split at h
  · rename_i row hrow
    cases h
    exact ⟨row, hrow, rfl, rfl⟩
  · cases h

omit [DecidableEq ν] in
lemma Db.update_eq_error {m : Model ρ} {k : κ} {f : Patch ρ} {e : PrismaError} {db : Db}
    (h : Db.update m k f db = .error e) : (m.get db).find k = none := by
  unfold Db.update at h
  split at h
  · cases h
  · assumption

end Lenses

namespace Tx

variable {i : TxInputs} {s : Session Db Notification} {E : Failure → Session Db Notification → Prop}

lemma ends_statement {α : Type} {l : Statement} {body : TxInputs → Db → Except PrismaError (α × Db)}
    {Q : α → Session Db Notification → Prop} (ha : s.aborted = false)
    (hE : ∀ e, i.fault l = some e ∨ i.fault l = none ∧ body i s.db = .error e →
      E (.prisma e) { s with aborted := true })
    (hQ : ∀ a d, body i s.db = .ok (a, d) → Q a { s with db := d }) :
    Ends i (statement l body) s Q E := by
  refine Callback.ends_statement ha ?_ ?_ ?_
  · intro f hf
    obtain ⟨e, he, rfl⟩ := Option.map_eq_some_iff.mp hf
    exact hE e (.inl he)
  · intro f hf hb
    cases hbody : body i s.db with
    | ok p => simp [hbody, Except.mapError] at hb
    | error e =>
      obtain rfl : Failure.prisma e = f := by simpa [hbody, Except.mapError] using hb
      exact hE e (.inr ⟨by simpa using hf, hbody⟩)
  · intro a d hf hb
    cases hbody : body i s.db with
    | ok p =>
      obtain rfl : p = (a, d) := by simpa [hbody, Except.mapError] using hb
      exact hQ a d hbody
    | error e => simp [hbody, Except.mapError] at hb

lemma ends_read {α : Type} {l : Statement} {f : ℕ → Db → α} {Q : α → Session Db Notification → Prop}
    (ha : s.aborted = false) (hE : ∀ e, i.fault l ≠ none → E (.prisma e) { s with aborted := true })
    (hQ : ∀ a, a = f (i.choice l) s.db → Q a s) : Ends i (read l f) s Q E := by
  refine ends_statement ha (fun e he => hE _ ?_) ?_
  · rcases he with he | ⟨_, he⟩
    · simp [he]
    · cases he
  · intro a d h
    simp only [Except.ok.injEq, Prod.mk.injEq] at h
    obtain ⟨rfl, rfl⟩ := h
    exact hQ _ rfl

lemma ends_read_aborted {α : Type} {l : Statement} {f : ℕ → Db → α}
    {Q : α → Session Db Notification → Prop} (ha : s.aborted = true)
    (hE : E (.prisma .transactionAborted) s) : Ends i (read l f) s Q E := by
  unfold read statement
  exact ends_aborted ha hE

lemma ends_readWith {ρ τ : Type} {l : Statement} {f : ℕ → Db → Option ρ} {join : Db → ρ → Option τ}
    {Q : Option (ρ × τ) → Session Db Notification → Prop} (ha : s.aborted = false)
    (hE : ∀ e, E (.prisma e) { s with aborted := true })
    (hnone : f (i.choice l) s.db = none → Q none s)
    (hsome : ∀ r t, f (i.choice l) s.db = some r → join s.db r = some t → Q (some (r, t)) s) :
    Ends i (readWith l f join) s Q E := by
  refine ends_statement ha (fun e _ => hE _) ?_
  intro a d h
  cases hf : f (i.choice l) s.db with
  | none =>
    simp only [hf, Except.ok.injEq, Prod.mk.injEq] at h
    obtain ⟨rfl, rfl⟩ := h
    exact hnone hf
  | some r =>
    cases hj : join s.db r with
    | none => simp [hf, hj] at h
    | some t =>
      simp only [hf, hj, Except.ok.injEq, Prod.mk.injEq] at h
      obtain ⟨rfl, rfl⟩ := h
      exact hsome r t hf hj

section Writes

variable {ρ κ ν : Type} [Record ρ κ ν] [DecidableEq κ] [DecidableEq ν] {m : Model ρ} {l : Statement}

lemma ends_create {row : Uuid → Instant → ρ} {Q : ρ → Session Db Notification → Prop}
    (ha : s.aborted = false) (hE : ∀ e, E (.prisma e) { s with aborted := true })
    (hQ : ∀ r t, r = row (i.uuid l) i.now → (m.get s.db).insert r = some t →
      Q r { s with db := m.set s.db t }) :
    Ends i (create m l row) s Q E := by
  refine ends_statement ha (fun e _ => hE _) ?_
  intro r d h
  obtain ⟨rfl, t, ht, rfl⟩ := Db.create_eq_ok h
  exact hQ _ t rfl ht

omit [DecidableEq ν] in
lemma ends_update {k : κ} {f : Patch ρ} {Q : ρ → Session Db Notification → Prop}
    (ha : s.aborted = false)
    (hE : ∀ e, i.fault l ≠ none ∨ (m.get s.db).find k = none →
      E (.prisma e) { s with aborted := true })
    (hQ : ∀ r, (m.get s.db).find k = some r →
      Q (f.apply r) { s with db := m.set s.db ((m.get s.db).modify k f) }) :
    Ends i (update m l k f) s Q E := by
  refine ends_statement ha (fun e he => hE _ ?_) ?_
  · rcases he with he | ⟨_, he⟩
    · exact .inl (by simp [he])
    · exact .inr (Db.update_eq_error he)
  · intro r d h
    obtain ⟨row, hrow, rfl, rfl⟩ := Db.update_eq_ok h
    exact hQ row hrow

omit [DecidableEq κ] [DecidableEq ν] in
lemma ends_updateMany {p : ρ → Bool} {f : Patch ρ} {Q : ℕ → Session Db Notification → Prop}
    (ha : s.aborted = false) (hE : ∀ e, E (.prisma e) { s with aborted := true })
    (hQ : Q ((m.get s.db).rows.filter p).length
      { s with db := m.set s.db ((m.get s.db).modifyAll p f) }) :
    Ends i (updateMany m l p f) s Q E := by
  refine ends_statement ha (fun e _ => hE _) ?_
  intro n d h
  simp only [Db.updateMany, Except.ok.injEq, Prod.mk.injEq] at h
  obtain ⟨rfl, rfl⟩ := h
  exact hQ

end Writes

lemma ends_newDate {Q : Instant → Session Db Notification → Prop} (h : ∀ now, Q now s) :
    Ends i newDate s Q E := ends_input (h _)

lemma ends_notificationsCreate {l : Statement} {userId : Uuid} {type title message : String}
    {Q : Unit → Session Db Notification → Prop}
    (hQ : ∀ ns, (ns = [] ∨ i.fault l = none ∧ ∃ n : Notification, n.userId = userId ∧
      n.type = type ∧
        ns = [n]) → Q () { s with outside := s.outside ++ ns }) :
    Ends i (notificationsCreate l userId type title message) s Q E := by
  refine ends_emit (hQ _ ?_)
  cases hf : i.fault l with
  | some e => exact .inl rfl
  | none => exact .inr ⟨rfl, _, rfl, rfl, rfl⟩

end Tx

end OnlineBanking
