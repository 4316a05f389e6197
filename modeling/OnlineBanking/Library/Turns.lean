import OnlineBanking.Library.Interleaving

set_option autoImplicit false

/-! Programs whose actions keep to a relation wherever they are taken, and threads whose turn it is:
no other thread acts until they are done. -/

namespace OnlineBanking.Library

variable {ι W E ε α β C V R : Type}

namespace Prog

variable {G : W → W → Prop}

def Within (G : W → W → Prop) : Prog ι W E ε α → Prop
  | .done _ => True
  | .act a k => ∀ i w, G w (a i w).2.1 ∧ Within G (k (a i w).1)

lemma within_pure {a : α} : (pure a : Prog ι W E ε α).Within G := trivial

lemma within_throw {e : ε} : (throw e : Prog ι W E ε α).Within G := trivial

lemma within_bind {p : Prog ι W E ε α} {f : α → Prog ι W E ε β} (hp : p.Within G)
    (hf : ∀ a, (f a).Within G) :
    (p >>= f).Within G := by
  induction p with
  | done r =>
    cases r with
    | ok a => exact hf a
    | error e => trivial
  | act a k ih => exact fun i w => ⟨(hp i w).1, ih _ (hp i w).2⟩

lemma within_atomic {a : ι → W → Except ε α × W × List E} (h : ∀ i w, G w (a i w).2.1) :
    (atomic a).Within G := fun i w => ⟨h i w, trivial⟩

lemma Within.safe {Rely : Shared W E → Shared W E → Prop} {Given : ι → Shared W E → Prop} {t : ℕ}
    {p : Prog ι W E ε α} {s : Shared W E} (h : p.Within G) :
    p.Safe Rely Given (fun _ s s' => G s.world s'.world) t (fun _ _ => True) s := by
  induction p generalizing s with
  | done r => exact fun _ _ => trivial
  | act a k ih => exact fun u _ i _ => ⟨(h i u.world).1, ih _ (h i u.world).2⟩

end Prog

def Label.Alone (t : ℕ) (ls : List (Label ι C V)) : Prop :=
  ∀ l ∈ ls, (∃ i, l = .act t i) ∨ ∃ v, l = .env v

namespace Config

variable {handle : C → Prog ι W E ε R} {envStep : V → W → W} {t : ℕ} {call : C}
variable {Rely : Shared W E → Shared W E → Prop} {Given : ι → Shared W E → Prop}
variable {Guar : ι → Shared W E → Shared W E → Prop} {Q : Except ε R → Shared W E → Prop}

theorem alone_run (htrans : ∀ a b c, Rely a b → Rely b c → Rely a c) (hrefl : ∀ a, Rely a a)
    (henv : ∀ v s, Rely s { s with world := envStep v s.world }) {c c' : Config ι W E ε C R}
    {ls : List (Label ι C V)} (halone : Label.Alone t ls)
    (hgiven : Meets handle envStep (fun d l => ∀ i, l = .act t i → Given i d.shared) c ls)
    (h : run handle envStep c ls = some c') {p : Prog ι W E ε R} (ht : c.threads t = some (call, p))
    (hp : p.Safe Rely Given Guar t Q c.shared) :
    ∃ q, c'.threads t = some (call, q) ∧ q.Safe Rely Given Guar t Q c'.shared := by
  induction ls generalizing c p with
  | nil =>
    obtain rfl := Option.some.inj h
    exact ⟨p, ht, hp⟩
  | cons l ls ih =>
    obtain ⟨d, hd, hr⟩ := Option.bind_eq_some_iff.mp h
    have hrest : Label.Alone t ls := fun m hm => halone m (List.mem_cons_of_mem l hm)
    rcases halone l List.mem_cons_self with ⟨i, rfl⟩ | ⟨v, rfl⟩
    · cases p with
      | done r => simp [step, ht] at hd
      | act a k =>
        have hstep := hd
        simp only [step, ht, Option.some.injEq] at hd
        obtain ⟨-, hk⟩ := hp c.shared (hrefl _) i (hgiven.1 i rfl)
        refine ih hrest (hgiven.2 d hstep) hr (p := k (a i c.shared.world).1) (by simp [← hd]) ?_
        rw [← hd]
        exact hk
    · have hstep := hd
      obtain rfl := Option.some.inj hd
      exact ih hrest (hgiven.2 _ hstep) hr ht (hp.rely htrans (henv v c.shared))

theorem alone_call (htrans : ∀ a b c, Rely a b → Rely b c → Rely a c) (hrefl : ∀ a, Rely a a)
    (henv : ∀ v s, Rely s { s with world := envStep v s.world }) {c c' : Config ι W E ε C R}
    {ls : List (Label ι C V)} (halone : Label.Alone t ls)
    (hgiven : Meets handle envStep (fun d l => ∀ i, l = .act t i → Given i d.shared) c
      (.spawn t call :: ls))
    (h : run handle envStep c (.spawn t call :: ls) = some c')
    (hp : (handle call).Safe Rely Given Guar t Q c.shared) {r : Except ε R}
    (hdone : c'.threads t = some (call, .done r)) : Q r c'.shared := by
  obtain ⟨d, hd, hr⟩ := Option.bind_eq_some_iff.mp h
  obtain ⟨hshared, hthread⟩ := Discipline.spawned hd
  obtain ⟨q, hq, hsafe⟩ := alone_run htrans hrefl henv halone (hgiven.2 d hd) hr hthread
    (hshared ▸ hp)
  obtain rfl : Prog.done r = q := by simpa [hdone] using hq
  exact hsafe c'.shared (hrefl _)

theorem alone_ends (inputs : ℕ → ι) {c : Config ι W E ε C R} {p : Prog ι W E ε R}
    (ht : c.threads t = some (call, p)) :
    ∃ n c' r, run handle envStep c (Label.solo t inputs n) = some c' ∧
      c'.threads t = some (call, .done r) := by
  induction p generalizing c inputs with
  | done r => exact ⟨0, c, r, rfl, ht⟩
  | act a k ih =>
    obtain ⟨d, hd, hq⟩ : ∃ d, step handle envStep c (.act t (inputs 0)) = some d ∧
        d.threads t = some (call, k (a (inputs 0) c.shared.world).1) := by
      simp [step, ht]
    obtain ⟨n, c', r, hr, hdone⟩ := ih _ (fun j => inputs (j + 1)) hq
    refine ⟨n + 1, c', r, ?_, hdone⟩
    simpa [Label.solo_succ, run, hd] using hr

end Config

end OnlineBanking.Library
