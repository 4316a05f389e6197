import Mathlib.Data.List.Induction
import OnlineBanking.Library.Embedding

set_option autoImplicit false

/-! Rely–guarantee for programs that rely on more at some of their actions than at others. -/

namespace OnlineBanking.Library

variable {ι W E ε ι' W' E' ε' α β C V R : Type}

def Label.acts (t : ℕ) (ls : List (Label ι C V)) : ℕ := ls.countP fun l => l.actor = some t

lemma Label.acts_concat (t : ℕ) (ls : List (Label ι C V)) (l : Label ι C V) :
    Label.acts t (ls ++ [l]) = Label.acts t ls + if l.actor = some t then 1 else 0 := by
  simp [acts, List.countP_append, List.countP_cons]

namespace Prog

/-- Thread `t`, which has taken `n` actions, may go on with the program from `s`: while the others
stay within `Rely m` after its `m`th action, each of its actions stays within `Guar`. -/
def Staged (Rely : ℕ → Shared W E → Shared W E → Prop) (Guar : ι → Shared W E → Shared W E → Prop)
    (t : ℕ) :
    ℕ → Prog ι W E ε α → Shared W E → Prop
  | _, .done _, _ => True
  | n, .act a k, s => ∀ s', Rely n s s' → ∀ i,
      Guar i s' (s'.after t (a i s'.world).2.1 (a i s'.world).2.2) ∧
        Staged Rely Guar t (n + 1) (k (a i s'.world).1)
          (s'.after t (a i s'.world).2.1 (a i s'.world).2.2)

section Rules

variable {Rely : ℕ → Shared W E → Shared W E → Prop} {Guar : ι → Shared W E → Shared W E → Prop}
    {t n : ℕ}
variable {R : Shared W E → Shared W E → Prop} {Q : Except ε α → Shared W E → Prop}
    {s s' : Shared W E}
variable {p : Prog ι W E ε α}

lemma Staged.rely (htrans : ∀ a b c, Rely n a b → Rely n b c → Rely n a c)
    (h : p.Staged Rely Guar t n s) (hs : Rely n s s') : p.Staged Rely Guar t n s' := by
  cases p with
  | done r => trivial
  | act a k => exact fun u hu => h u (htrans _ _ _ hs hu)

lemma staged_of_safe (hR : ∀ m, n ≤ m → ∀ a b, Rely m a b → R a b)
    (h : p.Safe R (fun _ _ => True) Guar t Q s) : p.Staged Rely Guar t n s := by
  induction p generalizing n s with
  | done r => trivial
  | act a k ih =>
    intro u hu i
    obtain ⟨hg, hk⟩ := h u (hR n (Nat.le_refl n) _ _ hu) i trivial
    exact ⟨hg, ih _ (fun m hm => hR m (by omega)) hk⟩

lemma staged_of_safe_everywhere (hrefl : ∀ a, R a a) (hR : ∀ m, n < m → ∀ a b, Rely m a b → R a b)
    (h : ∀ u, p.Safe R (fun _ _ => True) Guar t Q u) : p.Staged Rely Guar t n s := by
  cases p with
  | done r => trivial
  | act a k =>
    intro u _ i
    obtain ⟨hg, hk⟩ := h u u (hrefl u) i trivial
    exact ⟨hg, staged_of_safe (fun m hm => hR m hm) hk⟩

lemma staged_throw {e : ε} : (throw e : Prog ι W E ε α).Staged Rely Guar t n s := trivial

lemma staged_atomic_bind {a : ι → W → Except ε α × W × List E} {f : α → Prog ι W E ε β}
    (h : ∀ u, Rely n s u → ∀ i, Guar i u (u.after t (a i u.world).2.1 (a i u.world).2.2) ∧
      ∀ r, (a i u.world).1 = .ok r →
        (f r).Staged Rely Guar t (n + 1) (u.after t (a i u.world).2.1 (a i u.world).2.2)) :
    (atomic a >>= f).Staged Rely Guar t n s := by
  intro u hu i
  obtain ⟨hg, hf⟩ := h u hu i
  refine ⟨hg, ?_⟩
  cases hr : (a i u.world).1 with
  | ok r => exact hf r hr
  | error e => trivial

lemma staged_bind_of_safe (hrefl : ∀ a, R a a) {x : ι → W → Except ε α × W × List E}
    {f : α → Prog ι W E ε β} (h : ∀ u, (atomic x).Safe R (fun _ _ => True) Guar t
      (fun r v => ∀ a, r = .ok a → (f a).Staged Rely Guar t (n + 1) v) u) :
    (atomic x >>= f).Staged Rely Guar t n s := by
  refine staged_atomic_bind fun u _ i => ?_
  obtain ⟨hg, hk⟩ := h u u (hrefl u) i trivial
  exact ⟨hg, hk _ (hrefl _)⟩

lemma Staged.map {f : α → β} (h : p.Staged Rely Guar t n s) :
    (p >>= fun a => pure (f a)).Staged Rely Guar t n s := by
  induction p generalizing n s with
  | done r => cases r <;> trivial
  | act a k ih => exact fun u hu i => ⟨(h u hu i).1, ih _ (h u hu i).2⟩

lemma Staged.embed {P : Part ι W E ε ι' W' E' ε'} {Rely' : ℕ → Shared W' E' → Shared W' E' → Prop}
    {Guar' : ι' → Shared W' E' → Shared W' E' → Prop} {s : Shared W' E'}
    (hrely : ∀ m a b, Rely' m a b → Rely m (P.shared a) (P.shared b))
    (hguar : ∀ i a (v : W) (es : List E), Guar (P.input i) (P.shared a)
      ((P.shared a).after t v es) →
      Guar' i a (a.after t (P.put v a.world) (es.map P.event)))
    (h : p.Staged Rely Guar t n (P.shared s)) : (p.embed P).Staged Rely' Guar' t n s := by
  induction p generalizing n s with
  | done r => trivial
  | act a k ih =>
    intro u hu i
    obtain ⟨hg, hk⟩ := h _ (hrely n _ _ hu) (P.input i)
    refine ⟨hguar i u _ _ hg, ih _ ?_⟩
    rw [P.shared_action]
    exact hk

end Rules

end Prog

namespace Config

variable {handle : C → Prog ι W E ε R} {envStep : V → W → W} {w : W} {t : ℕ} {call : C}

lemma acts_of_unspawned {c : Config ι W E ε C R} {ls : List (Label ι C V)}
    (h : run handle envStep (init w) ls = some c) (ht : c.threads t = none) :
    Label.acts t ls = 0 := by
  induction ls using List.reverseRecOn generalizing c with
  | nil => rfl
  | append_singleton ls l ih =>
    obtain ⟨d, hd, hl⟩ := run_concat h
    obtain ⟨hactor, hu⟩ := unspawned_before hl ht
    rw [Label.acts_concat, if_neg hactor, ih hd hu]

variable {Rely : ℕ → Shared W E → Shared W E → Prop} {Guar : ι → Shared W E → Shared W E → Prop}

/-- While a call is in progress, the other threads and the environment keep to what its stage relies
on. -/
def Respects (handle : C → Prog ι W E ε R) (envStep : V → W → W)
    (Rely : ℕ → Shared W E → Shared W E → Prop) (t : ℕ) (call : C) (w : W)
    (ls : List (Label ι C V)) : Prop :=
  ∀ ms l d d' p, ms ++ [l] <+: ls → run handle envStep (init w) ms = some d →
    step handle envStep d l = some d' →
    l.actor ≠ some t → d.threads t = some (call, p) → (∀ r, p ≠ .done r) →
      Rely (Label.acts t ms) d.shared d'.shared

theorem staged_run (hrefl : ∀ m a, Rely m a a)
    (htrans : ∀ m a b c, Rely m a b → Rely m b c → Rely m a c)
    (hcall : ∀ s, (handle call).Staged Rely Guar t 0 s) {c : Config ι W E ε C R}
    {ls : List (Label ι C V)} (hothers : Respects handle envStep Rely t call w ls)
    (h : run handle envStep (init w) ls = some c) {p : Prog ι W E ε R}
    (ht : c.threads t = some (call, p)) : p.Staged Rely Guar t (Label.acts t ls) c.shared := by
  induction ls using List.reverseRecOn generalizing c p with
  | nil =>
    obtain rfl := Option.some.inj h
    simp [init] at ht
  | append_singleton ls l ih =>
    obtain ⟨d, hd, hl⟩ := run_concat h
    have hbefore : Respects handle envStep Rely t call w ls :=
      fun ms m d d' q hms => hothers ms m d d' q (hms.trans (List.prefix_append ls [l]))
    rw [Label.acts_concat]
    rcases thread_cases hl ht with
        ⟨rfl, hu, rfl⟩ | ⟨i, β, a, k, rfl, hu, rfl, hshared⟩ | ⟨hactor, hu⟩
    · rw [if_neg (by simp [Label.actor]), acts_of_unspawned hd hu]
      exact hcall _
    · rw [if_pos (by simp [Label.actor]), hshared]
      exact (ih hbefore hd hu d.shared (hrefl _ _) i).2
    · rw [if_neg hactor, Nat.add_zero]
      cases p with
      | done r => trivial
      | act a k =>
        refine (ih hbefore hd hu).rely (htrans _) ?_
        exact hothers ls l d c _ (List.prefix_refl _) hd hl hactor hu (by simp)

theorem staged_step (hrefl : ∀ m a, Rely m a a)
    (htrans : ∀ m a b c, Rely m a b → Rely m b c → Rely m a c)
    (hcall : ∀ s, (handle call).Staged Rely Guar t 0 s) {c c' : Config ι W E ε C R}
    {ls : List (Label ι C V)} (hothers : Respects handle envStep Rely t call w ls)
    (h : run handle envStep (init w) ls = some c) {p : Prog ι W E ε R}
    (ht : c.threads t = some (call, p)) {i : ι}
    (hstep : step handle envStep c (.act t i) = some c') : Guar i c.shared c'.shared := by
  have hp := staged_run hrefl htrans hcall hothers h ht
  cases p with
  | done r => simp [step, ht] at hstep
  | act a k =>
    simp only [step, ht, Option.some.injEq] at hstep
    subst hstep
    exact (hp c.shared (hrefl _ _) i).1

end Config

end OnlineBanking.Library
