import OnlineBanking.Library.Embedding

set_option autoImplicit false

/-! A system that runs the programs of a part among others, seen from the part: there, what the
others do belongs to the environment. -/

namespace OnlineBanking.Library

open Config

variable {ι W E ε ι' W' E' ε' C C' R R' V V' : Type}

namespace Prog

def hosted (P : Part ι W E ε ι' W' E' ε') (answer : R → R') (p : Prog ι W E ε R) :
    Prog ι' W' E' ε' R' :=
  p.embed P >>= fun r => pure (answer r)

variable {P : Part ι W E ε ι' W' E' ε'} {answer : R → R'}

lemma hosted_ok
    (r : R) : hosted P answer (.done (.ok r) : Prog ι W E ε R) = .done (.ok (answer r)) := rfl

lemma hosted_error (e : ε) :
    hosted P answer (.done (.error e) : Prog ι W E ε R) = .done (.error (P.failure e)) := rfl

lemma hosted_act {β : Type} (a : ι → W → β × W × List E) (k : β → Prog ι W E ε R) :
    hosted P answer (.act a k) = .act (P.action a) fun x => (k x).hosted P answer := rfl

lemma act_of_hosted {p : Prog ι W E ε R} {β : Type} {a : ι' → W' → β × W' × List E'}
    {k : β → Prog ι' W' E' ε' R'} (h : p.hosted P answer = .act a k) :
    ∃ (γ : Type) (a₀ : ι → W → γ × W × List E) (k₀ : γ → Prog ι W E ε R),
      p = .act a₀ k₀ := by
  cases p with
  | done r =>
    cases r with
    | ok r => rw [hosted_ok] at h; cases h
    | error e => rw [hosted_error] at h; cases h
  | act a₀ k₀ => exact ⟨_, a₀, k₀, rfl⟩

lemma done_of_hosted {p : Prog ι W E ε R} {r : Except ε' R'} (h : p.hosted P answer = .done r) :
    ∃ r₀, p = .done r₀ ∧ r = (r₀.map answer).mapError P.failure := by
  cases p with
  | done r₀ =>
    cases r₀ with
    | ok x =>
      rw [hosted_ok] at h
      cases h
      exact ⟨.ok x, rfl, rfl⟩
    | error e =>
      rw [hosted_error] at h
      cases h
      exact ⟨.error e, rfl, rfl⟩
  | act a₀ k₀ => rw [hosted_act] at h; cases h

end Prog

structure Hosting (P : Part ι W E ε ι' W' E' ε') (handle : C → Prog ι W E ε R)
    (handle' : C' → Prog ι' W' E' ε' R')
    where
  call : C → C'
  answer : R → R'
  injective : Function.Injective call
  handle_call : ∀ c, handle' (call c) = (handle c).hosted P answer

section Projection

variable {P : Part ι W E ε ι' W' E' ε'} {handle : C → Prog ι W E ε R}
    {handle' : C' → Prog ι' W' E' ε' R'}
variable (H : Hosting P handle handle') (envStep : V → W → W)

def Idles (P : Part ι W E ε ι' W' E' ε') (envStep : V → W → W) (s s' : Shared W' E') : Prop :=
  P.shared s' = P.shared s ∨
    ∃ v, P.shared s' = { P.shared s with world := envStep v (P.shared s).world }

structure Projects (b : Config ι' W' E' ε' C' R') (c : Config ι W E ε C R) : Prop where
  shared : c.shared = P.shared b.shared
  threads : ∀ t call p, c.threads t = some (call, p) →
    b.threads t = some (H.call call, p.hosted P H.answer)
  calls : ∀ t call p', b.threads t = some (H.call call, p') → ∃ p, c.threads t = some (call, p)

variable {H} {envStep} {envStep' : V' → W' → W'} {b b' : Config ι' W' E' ε' C' R'}
    {c c' : Config ι W E ε C R}

lemma Projects.unspawned (h : Projects H b c) {t : ℕ}
    (ht : ∀ call p', b.threads t ≠ some (H.call call, p')) :
    c.threads t = none := by
  rcases hc : c.threads t with _ | ⟨call, p⟩
  · rfl
  · exact absurd (h.threads t call p hc) (ht call _)

lemma Projects.done (h : Projects H b c) {t : ℕ} {call : C} {r : Except ε' R'}
    (ht : b.threads t = some (H.call call, .done r)) :
    ∃ r₀, c.threads t = some (call, .done r₀) ∧ r = (r₀.map H.answer).mapError P.failure := by
  obtain ⟨p, hp⟩ := h.calls t call _ ht
  have hdone : p.hosted P H.answer = .done r := by simpa [ht, eq_comm] using h.threads t call p hp
  obtain ⟨r₀, rfl, hr⟩ := Prog.done_of_hosted hdone
  exact ⟨r₀, hp, hr⟩

lemma Projects.idle (h : Projects H b c) (hidle : Idles P envStep b.shared b'.shared)
    (hthreads : ∀ t call p', b'.threads t = some (H.call call, p') ↔
      b.threads t = some (H.call call, p')) :
    ∃ (ms : List (Label ι C V)) (c' : Config ι W E ε C R), run handle envStep c ms = some c' ∧
      Projects H b' c' := by
  have hkept : ∀ d : Config ι W E ε C R, d.threads = c.threads → d.shared = P.shared b'.shared →
      Projects H b' d := by
    refine fun d hd hshared => ⟨hshared, fun t call p ht => ?_, fun t call p' ht => ?_⟩
    · exact (hthreads t call _).mpr (h.threads t call p (hd ▸ ht))
    · obtain ⟨p, hp⟩ := h.calls t call p' ((hthreads t call p').mp ht)
      exact ⟨p, hd ▸ hp⟩
  rcases hidle with hsame | ⟨v, henv⟩
  · exact ⟨[], c, rfl, hkept c rfl (h.shared.trans hsame.symm)⟩
  · refine ⟨[.env v], _, run_single rfl, hkept _ rfl ?_⟩
    rw [henv, h.shared]

lemma Projects.spawn (h : Projects H b c) {t : ℕ} {call : C} (ht : b.threads t = none)
    (hb : b' = { b with
      threads := Function.update b.threads t (some (H.call call, handle' (H.call call))) }) :
    ∃ (ms : List (Label ι C V)) (c' : Config ι W E ε C R), run handle envStep c ms = some c' ∧
      Projects H b' c' := by
  subst hb
  have hc : c.threads t = none := h.unspawned fun call p' => by simp [ht]
  have hstep : step handle envStep c (.spawn t call) =
      some { c with threads := Function.update c.threads t (some (call, handle call)) } := by
    simp only [step, hc]
  refine ⟨[.spawn t call], _, run_single hstep, h.shared, fun u call' p hu => ?_,
    fun u call' p' hu => ?_⟩
  · by_cases hut : u = t
    · subst hut
      obtain ⟨rfl, rfl⟩ : call = call' ∧ handle call = p := by simpa using hu
      simp [H.handle_call]
    · simp only [Function.update_of_ne hut] at hu ⊢
      exact h.threads u call' p hu
  · by_cases hut : u = t
    · subst hut
      obtain ⟨hcall, _⟩ : H.call call = H.call call' ∧ handle' (H.call call) = p' := by
        simpa using hu
      obtain rfl := H.injective hcall
      exact ⟨handle call, by simp⟩
    · simp only [Function.update_of_ne hut] at hu ⊢
      exact h.calls u call' p' hu

lemma Projects.act (h : Projects H b c) {t : ℕ} {i : ι'} {call : C} {β : Type}
    {a : ι' → W' → β × W' × List E'} {k : β → Prog ι' W' E' ε' R'}
    (ht : b.threads t = some (H.call call, .act a k))
    (hb : b' = ⟨b.shared.after t (a i b.shared.world).2.1 (a i b.shared.world).2.2,
      Function.update b.threads t (some (H.call call, k (a i b.shared.world).1))⟩) :
    ∃ (ms : List (Label ι C V)) (c' : Config ι W E ε C R), run handle envStep c ms = some c' ∧
      Projects H b' c' := by
  subst hb
  obtain ⟨p, hp⟩ := h.calls t call _ ht
  have hprogram := h.threads t call p hp
  rw [ht] at hprogram
  obtain ⟨_, hact⟩ := Prod.mk.inj (Option.some.inj hprogram)
  obtain ⟨γ, a₀, k₀, rfl⟩ := Prog.act_of_hosted hact.symm
  rw [Prog.hosted_act] at hact
  cases hact
  have hworld : P.get b.shared.world = c.shared.world := (congrArg Shared.world h.shared).symm
  have hstep : step handle envStep c (.act t (P.input i)) =
      some ⟨c.shared.after t (a₀ (P.input i) c.shared.world).2.1
        (a₀ (P.input i) c.shared.world).2.2,
        Function.update c.threads t (some (call, k₀ (a₀ (P.input i) c.shared.world).1))⟩ := by
    simp only [step, hp]
  refine ⟨[.act t (P.input i)], _, run_single hstep, ?_, fun u call' q hu => ?_,
    fun u call' p' hu => ?_⟩
  · rw [P.shared_action, h.shared]
    rfl
  · by_cases hut : u = t
    · subst hut
      obtain ⟨rfl, rfl⟩ : call = call' ∧ k₀ (a₀ (P.input i) c.shared.world).1 = q := by
        simpa using hu
      simp [Part.action, hworld]
    · simp only [Function.update_of_ne hut] at hu ⊢
      exact h.threads u call' q hu
  · by_cases hut : u = t
    · subst hut
      obtain ⟨hcall, _⟩ : H.call call = H.call call' ∧ _ := by simpa using hu
      obtain rfl := H.injective hcall
      exact ⟨k₀ (a₀ (P.input i) c.shared.world).1, by simp⟩
    · simp only [Function.update_of_ne hut] at hu ⊢
      exact h.calls u call' p' hu

variable (D : Discipline (E := E') handle' envStep')

theorem Projects.step (hD : D.Holds b) (h : Projects H b c)
    (hother : ∀ t call i s s', (∀ c₀, call ≠ H.call c₀) → D.Guar t call i s s' →
      Idles P envStep s s')
    (henv : ∀ v s, Idles P envStep s { s with world := envStep' v s.world })
    {l : Label ι' C' V'} (hstep : step handle' envStep' b l = some b') :
    ∃ (ms : List (Label ι C V)) (c' : Config ι W E ε C R), run handle envStep c ms = some c' ∧
      Projects H b' c' := by
  have hguar := D.step_cases hD hstep
  have hupdate : ∀ t call p, (∀ c₀, call ≠ H.call c₀) →
      (∀ c₀ p', b.threads t ≠ some (H.call c₀, p')) →
      ∀ u c₀ p', Function.update b.threads t (some (call, p)) u = some (H.call c₀, p') ↔
        b.threads u = some (H.call c₀, p') := by
    intro t call p hcall hnone u c₀ p'
    by_cases hut : u = t
    · subst hut
      simp only [Function.update_self, Option.some.injEq, Prod.mk.injEq]
      exact ⟨fun heq => absurd heq.1 (hcall c₀), fun heq => absurd heq (hnone c₀ p')⟩
    · rw [Function.update_of_ne hut]
  rcases step_eq_some hstep with
      ⟨t, call, rfl, ht, rfl⟩ | ⟨t, i, call, β, a, k, rfl, ht, rfl⟩ | ⟨v, rfl, rfl⟩
  · by_cases hcall : ∃ c₀, call = H.call c₀
    · obtain ⟨c₀, rfl⟩ := hcall
      exact h.spawn ht rfl
    · exact h.idle (.inl rfl) (hupdate t call _ (not_exists.mp hcall) fun c₀ p' => by simp [ht])
  · by_cases hcall : ∃ c₀, call = H.call c₀
    · obtain ⟨c₀, rfl⟩ := hcall
      exact h.act ht rfl
    · have hcall := not_exists.mp hcall
      refine h.idle ?_ (hupdate t call _ hcall fun c₀ p' hp => hcall c₀ ?_)
      · exact hother t call i _ _ hcall (hD.safe t call _ ht b.shared (D.refl t _) i trivial).1
      · exact congrArg Prod.fst (Option.some.inj (ht.symm.trans hp))
  · exact h.idle (henv v b.shared) fun _ _ _ => Iff.rfl

theorem projected
    (hother : ∀ t call i s s', (∀ c₀, call ≠ H.call c₀) → D.Guar t call i s s' →
      Idles P envStep s s')
    (henv : ∀ v s, Idles P envStep s { s with world := envStep' v s.world }) {w : W'}
    {ls : List (Label ι' C' V')} (h : run handle' envStep' (init w) ls = some b) :
    ∃ (ms : List (Label ι C V)) (c : Config ι W E ε C R),
      run handle envStep (init (P.get w)) ms = some c ∧
      Projects H b c := by
  refine (D.run_invariant (P := fun d => ∃ (ms : List (Label ι C V)) (c : Config ι W E ε C R),
    run handle envStep (init (P.get w)) ms = some c ∧ Projects H d c) ?_ (D.init_holds w) ?_
      (Discipline.meets_true _ _) h).2
  · rintro d l d' hd - ⟨ms, c, hrun, hprojects⟩ hstep
    obtain ⟨ns, c', hrun', hprojects'⟩ := hprojects.step D hd hother henv hstep
    exact ⟨ms ++ ns, c', (run_after hrun).trans hrun', hprojects'⟩
  · exact ⟨[], _, rfl, rfl, fun t call p ht => by simp [init] at ht,
      fun t call p' ht => by simp [init] at ht⟩

end Projection

end OnlineBanking.Library
