import OnlineBanking.Library.Callbacks
import OnlineBanking.Library.Stages

set_option autoImplicit false

/-! The failures that callbacks and programs may end in, whatever they run on. -/

namespace OnlineBanking.Library

variable {ι σ ω ε α β W V : Type} {E : ε → Prop}

namespace Callback

def Throws (E : ε → Prop) (x : Callback ι σ ω ε α) : Prop :=
  ∀ i s, Ends i x s (fun _ _ => True) fun e _ => E e

lemma throws_pure {a : α} : Throws E (pure a : Callback ι σ ω ε α) := fun _ _ => trivial

lemma throws_throw {e : ε} (h : E e) : Throws E (throw e : Callback ι σ ω ε α) := fun _ _ => h

lemma throws_bind {x : Callback ι σ ω ε α} {f : α → Callback ι σ ω ε β} (hx : Throws E x)
    (hf : ∀ a, Throws E (f a)) : Throws E (x >>= f) := by
  intro i s
  apply ends_bind
  exact ends_mono (hx i s) (fun a s' _ => hf a i s') fun _ _ he => he

lemma throws_tryCatch {x : Callback ι σ ω ε α} {g : ε → Callback ι σ ω ε α} (hx : Throws E x)
    (hg : ∀ e, E e → Throws E (g e)) : Throws E (tryCatch x g) := by
  intro i s
  apply ends_tryCatch
  exact ends_mono (hx i s) (fun _ _ _ => trivial) fun e s' he => hg e he i s'

lemma throws_statement {fault : ι → Option ε} {dead : ε} {body : ι → σ → Except ε (α × σ)}
    (hfault : ∀ i e, fault i = some e → E e) (hdead : E dead)
    (hbody : ∀ i d e, body i d = .error e → E e) :
    Throws E (statement fault dead body : Callback ι σ ω ε α) := by
  intro i s
  cases ha : s.aborted with
  | true => exact ends_aborted ha hdead
  | false =>
    exact ends_statement ha (fun e he => hfault i e he) (fun e _ he => hbody i s.db e he)
      fun _ _ _ _ => trivial

lemma throws_emit {writes : ι → List ω} : Throws E (emit writes : Callback ι σ ω ε Unit) :=
  fun _ _ => trivial

lemma throws_input {f : ι → α} : Throws E (input f : Callback ι σ ω ε α) := fun _ _ => trivial

lemma Throws.transact {x : Callback ι σ ω ε α} (hx : Throws E x) {dead : ε}
    {commitFault : ι → Option ε} (hdead : E dead) (hcommit : ∀ i e, commitFault i = some e → E e)
    {i : ι} {d : σ} {e : ε} (h : (x.transact dead commitFault i d).result = .error e) : E e := by
  have hends := hx i { db := d }
  unfold Ends at hends
  unfold Callback.transact at h
  rcases hr : x i { db := d } with ⟨r, s⟩
  rw [hr] at h hends
  cases r with
  | error e' =>
    obtain rfl := Except.error.inj h
    exact hends
  | ok a =>
    dsimp only at h
    split at h
    · obtain rfl := Except.error.inj h
      exact hdead
    · cases hc : commitFault i with
      | none => simp [hc] at h
      | some e' =>
        simp only [hc, Except.error.injEq] at h
        exact hcommit i e (h ▸ hc)

end Callback

namespace Prog

def Throws (E : ε → Prop) : Prog ι W V ε α → Prop
  | .done r => ∀ e, r = .error e → E e
  | .act a k => ∀ i w, Throws E (k (a i w).1)

lemma throws_pure {a : α} : (pure a : Prog ι W V ε α).Throws E := by
  intro e he
  cases he

lemma throws_throw {e : ε} (h : E e) : (throw e : Prog ι W V ε α).Throws E := by
  intro e' he
  obtain rfl := Except.error.inj he
  exact h

lemma throws_finish {p : Prog ι W V ε α} {f : Except ε α → Prog ι W V ε β} (hp : p.Throws E)
    (hok : ∀ a, (f (.ok a)).Throws E) (herror : ∀ e, E e → (f (.error e)).Throws E) :
    (p.finish f).Throws E := by
  induction p with
  | done r =>
    cases r with
    | ok a => exact hok a
    | error e => exact herror e (hp e rfl)
  | act a k ih => exact fun i w => ih _ (hp i w)

lemma throws_bind {p : Prog ι W V ε α} {f : α → Prog ι W V ε β} (hp : p.Throws E)
    (hf : ∀ a, (f a).Throws E) : (p >>= f).Throws E :=
  throws_finish hp hf fun _ he => throws_throw he

lemma throws_atomic {a : ι → W → Except ε α × W × List V}
    (h : ∀ i w e, (a i w).1 = .error e → E e) :
    (atomic a).Throws E := h

lemma Throws.safe {p : Prog ι W V ε α} (hp : p.Throws E) {Rely : Shared W V → Shared W V → Prop}
    {Given : ι → Shared W V → Prop} {t : ℕ} {s : Shared W V} :
    p.Safe Rely Given (fun _ _ _ => True) t (fun r _ => ∀ e, r = .error e → E e) s := by
  induction p generalizing s with
  | done r => exact fun _ _ => hp
  | act a k ih => exact fun u _ i _ => ⟨trivial, ih _ (hp i u.world)⟩

/-- If the program ends in a failure, the failure and the worlds before and after its last action
meet `P`; a failure without an action meets it whatever the worlds. -/
def Rejects (P : ε → W → W → Prop) : Prog ι W V ε α → Prop
  | .done r => ∀ e, r = .error e → ∀ w w', P e w w'
  | .act a k =>
    ∀ i w, (∃ e, k (a i w).1 = .done (.error e) ∧ P e w (a i w).2.1) ∨ Rejects P (k (a i w).1)

section Rejects

variable {P : ε → W → W → Prop}

lemma rejects_of_all (hP : ∀ e w w', P e w w') (p : Prog ι W V ε α) : p.Rejects P := by
  induction p with
  | done r => exact fun e _ w w' => hP e w w'
  | act a k ih => exact fun i w => .inr (ih _)

lemma Throws.rejects {p : Prog ι W V ε α} (hp : p.Throws E) (hE : ∀ e, E e → ∀ w w', P e w w') :
    p.Rejects P := by
  induction p with
  | done r => exact fun e he => hE e (hp e he)
  | act a k ih => exact fun i w => .inr (ih _ (hp i w))

lemma rejects_pure {a : α} : (pure a : Prog ι W V ε α).Rejects P := by
  intro e he
  cases he

lemma Rejects.mono {p : Prog ι W V ε α} {Q : ε → W → W → Prop} (hp : p.Rejects P)
    (hPQ : ∀ e w w', P e w w' → Q e w w') : p.Rejects Q := by
  induction p with
  | done r => exact fun e he w w' => hPQ e w w' (hp e he w w')
  | act a k ih =>
    intro i w
    rcases hp i w with ⟨e, he, hP⟩ | hlater
    · exact .inl ⟨e, he, hPQ _ _ _ hP⟩
    · exact .inr (ih _ hlater)

lemma rejects_atomic {a : ι → W → Except ε α × W × List V}
    (h : ∀ i w e, (a i w).1 = .error e → P e w (a i w).2.1) : (atomic a).Rejects P := by
  intro i w
  cases hr : (a i w).1 with
  | ok b =>
    right
    intro e he
    cases he
  | error e => exact .inl ⟨e, rfl, h i w e hr⟩

lemma rejects_finish {p : Prog ι W V ε α} {f : Except ε α → Prog ι W V ε β} (hp : p.Rejects P)
    (hok : ∀ a, (f (.ok a)).Rejects P)
    (herror : ∀ e, f (.error e) = .done (.error e) ∨ (f (.error e)).Rejects P) :
    (p.finish f).Rejects P := by
  induction p with
  | done r =>
    cases r with
    | ok a => exact hok a
    | error e =>
      rcases herror e with hsame | hlater
      · show (f (.error e)).Rejects P
        rw [hsame]
        intro e' he'
        exact hp e' (by cases he'; rfl)
      · exact hlater
  | act a k ih =>
    intro i w
    rcases hp i w with ⟨e, he, hP⟩ | hlater
    · show (∃ e', (k (a i w).1).finish f = _ ∧ _) ∨ ((k (a i w).1).finish f).Rejects P
      rw [he]
      exact (herror e).imp_left fun hsame => ⟨e, hsame, hP⟩
    · exact .inr (ih _ hlater)

lemma rejects_bind {p : Prog ι W V ε α} {f : α → Prog ι W V ε β} (hp : p.Rejects P)
    (hf : ∀ a, (f a).Rejects P) : (p >>= f).Rejects P :=
  rejects_finish hp hf fun _ => .inl rfl

/-- As `Rejects`, where `P` may speak of what the program has written to the trace, `es` before it
starts. -/
def RejectsAfter (P : List V → ε → W → W → Prop) : List V → Prog ι W V ε α → Prop
  | es, .done r => ∀ e, r = .error e → ∀ w w', P es e w w'
  | es, .act a k => ∀ i w,
      (∃ e, k (a i w).1 = .done (.error e) ∧ P (es ++ (a i w).2.2) e w (a i w).2.1) ∨
        RejectsAfter P (es ++ (a i w).2.2) (k (a i w).1)

variable {Q : List V → ε → W → W → Prop} {es : List V}

lemma Rejects.after {p : Prog ι W V ε α} (hp : p.Rejects P)
    (hPQ : ∀ es', es <+: es' → ∀ e w w', P e w w' → Q es' e w w') : p.RejectsAfter Q es := by
  induction p generalizing es with
  | done r => exact fun e he w w' => hPQ es (List.prefix_refl es) e w w' (hp e he w w')
  | act a k ih =>
    intro i w
    have hgrows := List.prefix_append es (a i w).2.2
    rcases hp i w with ⟨e, he, hP⟩ | hlater
    · exact .inl ⟨e, he, hPQ _ hgrows _ _ _ hP⟩
    · exact .inr (ih _ hlater fun es' h => hPQ es' (hgrows.trans h))

lemma rejectsAfter_throw {e : ε} (h : ∀ w w', Q es e w w') :
    (throw e : Prog ι W V ε α).RejectsAfter Q es := by
  intro e' he'
  obtain rfl := Except.error.inj he'
  exact h

lemma rejectsAfter_atomic_bind {a : ι → W → Except ε α × W × List V} {f : α → Prog ι W V ε β}
    (herror : ∀ i w e, (a i w).1 = .error e → Q (es ++ (a i w).2.2) e w (a i w).2.1)
    (hok : ∀ i w b, (a i w).1 = .ok b → (f b).RejectsAfter Q (es ++ (a i w).2.2)) :
    (atomic a >>= f).RejectsAfter Q es := by
  intro i w
  cases hr : (a i w).1 with
  | error e => exact .inl ⟨e, rfl, herror i w e hr⟩
  | ok b => exact .inr (hok i w b hr)

lemma RejectsAfter.map {p : Prog ι W V ε α} {f : α → β} (hp : p.RejectsAfter Q es) :
    (p >>= fun a => pure (f a)).RejectsAfter Q es := by
  induction p generalizing es with
  | done r =>
    cases r with
    | ok a => exact fun e he => by cases he
    | error e => exact fun e' he' => hp e' (by cases he'; rfl)
  | act a k ih =>
    intro i w
    rcases hp i w with ⟨e, he, hQ⟩ | hlater
    · exact .inl ⟨e, congrArg (Prog.finish · _) he, hQ⟩
    · exact .inr (ih _ hlater)

end Rejects

end Prog

namespace Config

def own (t : ℕ) (s : Shared W V) : List V := (s.trace.filter fun e => e.1 = t).map Prod.snd

variable {C R U : Type} {handle : C → Prog ι W V ε R} {envStep : U → W → W}
    {P : C → List V → ε → W → W → Prop}
variable {w : W} {c c' : Config ι W V ε C R} {l : Label ι C U} {ls : List (Label ι C U)}
    {t : ℕ} {call : C}

lemma mem_own {s : Shared W V} {e : V} : e ∈ own t s ↔ (t, e) ∈ s.trace := by simp [own]

lemma own_after (s : Shared W V) (v : W) (es : List V) :
    own t (s.after t v es) = own t s ++ es := by
  simp [own, Shared.after, List.filter_map, Function.comp_def]

lemma own_of_others (h : step handle envStep c l = some c') (hl : l.actor ≠ some t) :
    own t c'.shared = own t c.shared := by
  rcases step_eq_some h with ⟨u, call', rfl, _, rfl⟩ | ⟨u, i, call', β, a, k, rfl, _, rfl⟩ |
      ⟨v, rfl, rfl⟩
  · rfl
  · have hu : u ≠ t := fun h => hl (by simp [Label.actor, h])
    simp [own, Shared.after, List.filter_map, Function.comp_def, hu]
  · rfl

lemma own_of_unspawned (h : run handle envStep (init w) ls = some c) (ht : c.threads t = none) :
    own t c.shared = [] := by
  induction ls using List.reverseRecOn generalizing c with
  | nil =>
    obtain rfl := Option.some.inj h
    rfl
  | append_singleton ls l ih =>
    obtain ⟨d, hd, hl⟩ := run_concat h
    obtain ⟨hactor, hu⟩ := unspawned_before hl ht
    rw [own_of_others hl hactor, ih hd hu]

lemma rejects_run (hcall : ∀ call, (handle call).RejectsAfter (P call) [])
    (h : run handle envStep (init w) ls = some c) {p : Prog ι W V ε R}
    (ht : c.threads t = some (call, p)) :
    p.RejectsAfter (P call) (own t c.shared) ∨ ∃ r, p = .done r := by
  induction ls using List.reverseRecOn generalizing c p with
  | nil =>
    obtain rfl := Option.some.inj h
    simp [init] at ht
  | append_singleton ls l ih =>
    obtain ⟨d, hd, hl⟩ := run_concat h
    rcases thread_cases hl ht with
        ⟨rfl, hu, rfl⟩ | ⟨i, β, a, k, rfl, hu, rfl, hshared⟩ | ⟨hactor, hu⟩
    · rw [own_of_others hl (by simp [Label.actor]), own_of_unspawned hd hu]
      exact .inl (hcall call)
    · rw [hshared, own_after]
      rcases ih hd hu with hrejects | ⟨r, hr⟩
      · rcases hrejects i d.shared.world with ⟨e, he, _⟩ | hlater
        · exact .inr ⟨.error e, he⟩
        · exact .inl hlater
      · cases hr
    · rw [own_of_others hl hactor]
      exact ih hd hu

theorem rejects_step (hcall : ∀ call, (handle call).RejectsAfter (P call) [])
    (h : run handle envStep (init w) ls = some c) {i : ι}
    (hs : step handle envStep c (.act t i) = some c') {e : ε}
    (ht : c'.threads t = some (call, .done (.error e))) :
    P call (own t c'.shared) e c.shared.world c'.shared.world := by
  rcases thread_cases hs ht with ⟨hspawn, _⟩ | ⟨i', β, a, k, hact, hu, hdone, hshared⟩ | ⟨hactor, _⟩
  · cases hspawn
  · cases hact
    rw [hshared, own_after]
    rcases rejects_run hcall h hu with hrejects | ⟨r, hr⟩
    · rcases hrejects i c.shared.world with ⟨e', he', hP⟩ | hlater
      · rw [← hdone] at he'
        cases he'
        exact hP
      · rw [← hdone] at hlater
        exact hlater e rfl _ _
    · cases hr
  · exact absurd rfl hactor

end Config

end OnlineBanking.Library
