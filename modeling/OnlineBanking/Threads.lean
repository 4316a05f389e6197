import OnlineBanking.Effects

set_option autoImplicit false

/-! Every call keeps to the effects, whatever the other calls do between its actions. -/

namespace OnlineBanking

open Library

def Ended {α : Type} (Q : α → State → Prop) (E : State → Prop) : Except Failure α → State → Prop
  | .ok a, u => Q a u
  | .error _, u => E u

section Runs

variable (sha256 : String → String) (t : ℕ) (c : Call)

/-- From `s` on, each action of the program has an effect that call `c` allows; it ends in `Q`, or
throws with nothing committed. -/
structure Runs {α : Type} (x : Service α) (s : State) (Q : α → State → Prop) : Prop where
  safe : Prog.Safe (Rely t) (fun _ _ => True) (Effect sha256 t c) t (Ended Q (Uncommitted t)) x s

variable {sha256 t c} {α β : Type} {s : State} {Q : α → State → Prop} {R : β → State → Prop}

lemma runs_pure {a : α} (h : ∀ u, Rely t s u → Q a u) : Runs sha256 t c (pure a) s Q :=
  ⟨Prog.safe_pure h⟩

lemma runs_throw {e : Failure} (h : Uncommitted t s) : Runs sha256 t c (throw e) s Q :=
  ⟨Prog.safe_throw fun _ hu => h.rely hu⟩

lemma runs_mono {x : Service α} {P : α → State → Prop} (h : Runs sha256 t c x s P)
    (hQ : ∀ a u, P a u → Q a u) : Runs sha256 t c x s Q := by
  refine ⟨h.safe.mono fun r u hr => ?_⟩
  cases r with
  | ok a => exact hQ a u hr
  | error e => exact hr

lemma runs_bind {x : Service α} {f : α → Service β}
    (h : Runs sha256 t c x s fun a u => Runs sha256 t c (f a) u R) :
    Runs sha256 t c (x >>= f) s R := by
  refine ⟨Prog.safe_bind (Rely.refl t) (h.safe.mono fun r u hr => ?_)⟩
  cases r with
  | ok a => exact hr.safe
  | error e => exact fun v hv => Uncommitted.rely hr hv

lemma runs_atomic {a : Inputs → World → Except Failure α × World × List Event}
    (h : ∀ u, Rely t s u → ∀ i, Effect sha256 t c i u
      (u.after t (a i u.world).2.1 (a i u.world).2.2) ∧
      ∀ v, Rely t (u.after t (a i u.world).2.1 (a i u.world).2.2) v →
        Ended Q (Uncommitted t) (a i u.world).1 v) :
    Runs sha256 t c (Prog.atomic a) s Q := ⟨Prog.safe_atomic fun u hu i _ => h u hu i⟩

lemma after_same {w : World} (h : w = s.world) : s.after t w [] = s := by
  subst h
  simp [Shared.after]

lemma uncommitted_after {w : World} (h : Uncommitted t s) : Uncommitted t (s.after t w []) := by
  simpa [Uncommitted, Shared.after] using h

lemma runs_retrying {exhausted : Failure} {attempt : Service α} {I : State → Prop}
    (hU : ∀ u, I u → Uncommitted t u)
    (h : ∀ u, I u → Prog.Safe (Rely t) (fun _ _ => True) (Effect sha256 t c) t
      (Ended Q I) attempt u) (n : ℕ)
    (hs : I s) :
    Runs sha256 t c (Service.retrying exhausted attempt n) s Q := by
  induction n generalizing s with
  | zero => exact runs_throw (hU s hs)
  | succ n ih =>
    have hattempt := (h s hs).stable fun a b c (hab : Rely t a b) (hbc : Rely t b c) =>
      hab.trans hbc
    refine ⟨Prog.safe_finish (hattempt.mono fun r u hr => ?_) (Rely.refl t)⟩
    cases r with
    | ok a => exact hr
    | error e =>
      have hu : I u := hr u (Rely.refl t u)
      dsimp only
      split
      · exact (ih hu).safe
      · exact (runs_throw (hU u hu)).safe

lemma runs_read {l : Statement} {f : ℕ → Db → α} (hs : Uncommitted t s)
    (hQ : ∀ n u v, Rely t s u → Rely t u v → Q (f n u.world.db) v) :
    Runs sha256 t c (Service.read l f) s Q := by
  refine runs_atomic fun u hu i => ?_
  cases hf : i.fault l with
  | some e =>
    rw [after_same rfl]
    exact ⟨.idle rfl, fun v hv => (hs.rely hu).rely hv⟩
  | none =>
    rw [after_same rfl]
    exact ⟨.idle rfl, fun v hv => hQ _ u v hu hv⟩

lemma runs_write {l : Statement} {body : Inputs → Instant → Db → Except PrismaError (α × Db)}
    (hs : Uncommitted t s) (hc : c.payer = none)
    (hbody : ∀ i now db a db', body i now db = .ok (a, db') → db.Kept db')
    (hQ : ∀ a u, Uncommitted t u → Q a u) : Runs sha256 t c (Service.statement l body) s Q := by
  refine runs_atomic fun u hu i => ?_
  cases hf : i.fault l with
  | some e =>
    rw [after_same rfl]
    exact ⟨.idle rfl, fun v hv => (hs.rely hu).rely hv⟩
  | none =>
    cases hb : body i u.world.now u.world.db with
    | error e =>
      rw [after_same rfl]
      exact ⟨.idle rfl, fun v hv => (hs.rely hu).rely hv⟩
    | ok p =>
      refine ⟨.kept p.2 hc (hbody _ _ _ p.1 p.2 hb) rfl (by simp [Shared.after]), fun v hv => ?_⟩
      exact hQ _ v ((uncommitted_after (hs.rely hu)).rely hv)

lemma runs_newDate {Q : Instant → State → Prop} (hQ : ∀ now u, Rely t s u → Q now u) :
    Runs sha256 t c Service.newDate s Q := by
  refine runs_atomic fun u hu i => ?_
  rw [after_same rfl]
  exact ⟨.idle rfl, fun v hv => hQ _ v (hu.trans hv)⟩

lemma runs_notificationsCreate {l : Statement} {userId : Uuid} {type title message : String}
    {Q : Unit → State → Prop} (hs : Uncommitted t s) (hc : c.payer = none)
    (htype : type ∉ moneyNotices) (hQ : ∀ u, Uncommitted t u → Q () u) :
    Runs sha256 t c (Service.notificationsCreate l userId type title message) s Q := by
  refine runs_atomic fun u hu i => ?_
  cases hf : i.fault l with
  | some e =>
    rw [after_same rfl]
    exact ⟨.idle rfl, fun v hv => hQ v ((hs.rely hu).rely hv)⟩
  | none =>
    refine ⟨.kept _ hc (.of_notification htype) rfl (by simp [Shared.after]), fun v hv => ?_⟩
    exact hQ v ((uncommitted_after (hs.rely hu)).rely hv)

end Runs

end OnlineBanking
