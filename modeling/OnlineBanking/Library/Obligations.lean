import OnlineBanking.Library.Turns

set_option autoImplicit false

/-! Programs that cannot come to a result without an action of a kind, and that action in a run. -/

namespace OnlineBanking.Library

variable {ι W E ε α β C V R : Type}

namespace Prog

variable {P : W → W → Prog ι W E ε α → Prop}

/-- Whoever comes to a result has taken an action that meets `P`: it is given the world before, the
world after and what is left of the program. -/
def Must (P : W → W → Prog ι W E ε α → Prop) : Prog ι W E ε α → Prop
  | .done (.ok _) => False
  | .done (.error _) => True
  | .act a k => ∀ i w, P w (a i w).2.1 (k (a i w).1) ∨ Must P (k (a i w).1)

lemma must_throw {e : ε} : (throw e : Prog ι W E ε α).Must P := trivial

lemma Must.bind {P' : W → W → Prog ι W E ε β → Prop} {p : Prog ι W E ε α} {f : α → Prog ι W E ε β}
    (hp : p.Must P) (h : ∀ w w' q, P w w' q → P' w w' (q >>= f)) : (p >>= f).Must P' := by
  induction p with
  | done r =>
    cases r with
    | ok a => exact hp.elim
    | error e => trivial
  | act a k ih =>
    intro i w
    rcases hp i w with hP | hk
    · exact .inl (h _ _ _ hP)
    · exact .inr (ih _ hk)

lemma must_bind {p : Prog ι W E ε β} {f : β → Prog ι W E ε α} (hf : ∀ a, (f a).Must P) :
    (p >>= f).Must P := by
  induction p with
  | done r =>
    cases r with
    | ok a => exact hf a
    | error e => trivial
  | act a k ih => exact fun i w => .inr (ih _)

lemma must_atomic {a : ι → W → Except ε α × W × List E}
    (h : ∀ i w, P w (a i w).2.1 (.done (a i w).1) ∨ ∃ e, (a i w).1 = .error e) :
    (atomic a).Must P := by
  intro i w
  rcases h i w with hP | ⟨e, he⟩
  · exact .inl hP
  · refine .inr ?_
    rw [he]
    trivial

end Prog

namespace Config

variable {handle : C → Prog ι W E ε R} {envStep : V → W → W} {c c' : Config ι W E ε C R}
variable {ls : List (Label ι C V)} {P : W → W → Prog ι W E ε R → Prop} {t : ℕ} {call : C}
    {p : Prog ι W E ε R}

lemma must_step {l : Label ι C V} (h : step handle envStep c l = some c')
    (hmust : (handle call).Must P) (hbefore : ∀ q, c.threads t = some (call, q) → q.Must P)
    (ht : c'.threads t = some (call, p)) :
    p.Must P ∨ ∃ i, l = .act t i ∧ P c.shared.world c'.shared.world p := by
  rcases thread_cases h ht with ⟨_, _, rfl⟩ | ⟨i, β, a, k, rfl, hact, rfl, hshared⟩ | ⟨_, hsame⟩
  · exact .inl hmust
  · rcases hbefore _ hact i c.shared.world with hP | hk
    · exact .inr ⟨i, rfl, by rw [hshared]; exact hP⟩
    · exact .inl hk
  · exact .inl (hbefore p hsame)

lemma done_step {l : Label ι C V} {r : Except ε R} (h : step handle envStep c l = some c')
    (ht : c.threads t = some (call, .done r)) : c'.threads t = some (call, .done r) := by
  rcases step_eq_some h with ⟨u, call', rfl, hu, rfl⟩ | ⟨u, i, call', β, a, k, rfl, hu, rfl⟩ |
      ⟨v, rfl, rfl⟩
  · have hne : t ≠ u := by
      rintro rfl
      simp [hu] at ht
    simpa [hne] using ht
  · have hne : t ≠ u := by
      rintro rfl
      simp [hu] at ht
    simpa [hne] using ht
  · exact ht

lemma done_run {r : Except ε R} (h : run handle envStep c ls = some c')
    (ht : c.threads t = some (call, .done r)) :
    c'.threads t = some (call, .done r) := by
  induction ls generalizing c with
  | nil => exact Option.some.inj h ▸ ht
  | cons l ls ih =>
    obtain ⟨d, hd, hrest⟩ := Option.bind_eq_some_iff.mp h
    exact ih hrest (done_step hd ht)

structure ActsAt (handle : C → Prog ι W E ε R) (envStep : V → W → W)
    (P : W → W → Prog ι W E ε R → Prop) (c₀ c : Config ι W E ε C R) (ls : List (Label ι C V))
    (t : ℕ) (call : C) (ms : List (Label ι C V)) (i : ι) (ns : List (Label ι C V))
    (d d' : Config ι W E ε C R) (p : Prog ι W E ε R) : Prop where
  split : ls = ms ++ .act t i :: ns
  before : run handle envStep c₀ ms = some d
  action : step handle envStep d (.act t i) = some d'
  after : run handle envStep d' ns = some c
  thread : d'.threads t = some (call, p)
  meets : P d.shared.world d'.shared.world p

theorem acts_of_must {c₀ : Config ι W E ε C R} (hmust : (handle call).Must P)
    (h : run handle envStep c₀ ls = some c) (hnone : c₀.threads t = none) {r : R}
    (ht : c.threads t = some (call, .done (.ok r))) :
    ∃ ms i ns d d' p, ActsAt handle envStep P c₀ c ls t call ms i ns d d' p := by
  have hfrom : ∀ (d : Config ι W E ε C R) (ls : List (Label ι C V)),
      run handle envStep d ls = some c →
      (∀ p, d.threads t = some (call, p) → p.Must P) →
        ∃ ms i ns e e' p, ActsAt handle envStep P d c ls t call ms i ns e e' p := by
    intro d ls hrun hd
    induction ls generalizing d with
    | nil =>
      obtain rfl := Option.some.inj hrun
      exact (hd _ ht).elim
    | cons l ls ih =>
      obtain ⟨e, he, hrest⟩ := Option.bind_eq_some_iff.mp hrun
      by_cases hnow : ∃ i p, l = .act t i ∧ e.threads t = some (call, p) ∧
        P d.shared.world e.shared.world p
      · obtain ⟨i, p, rfl, hp, hP⟩ := hnow
        exact ⟨[], i, ls, d, e, p, rfl, rfl, he, hrest, hp, hP⟩
      · obtain ⟨ms, i, ns, f, f', p, hacts⟩ := ih e hrest fun p hp =>
          (must_step he hmust hd hp).resolve_right fun ⟨i, hl, hP⟩ => hnow ⟨i, p, hl, hp, hP⟩
        refine ⟨l :: ms, i, ns, f, f', p, ?_, ?_, hacts.action, hacts.after,
          hacts.thread, hacts.meets⟩
        · rw [hacts.split, List.cons_append]
        · rw [run, he]
          exact hacts.before
  exact hfrom c₀ ls h fun p hp => by simp [hnone] at hp

end Config

end OnlineBanking.Library
