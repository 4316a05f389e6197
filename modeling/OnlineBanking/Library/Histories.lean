import OnlineBanking.Library.Stages

set_option autoImplicit false

/-! What a program comes to, by what its own actions have seen: their inputs and the worlds they
met. -/

namespace OnlineBanking.Library

variable {ι W E ε α β C V R : Type}

namespace Prog

/-- Once its actions have seen `seen`, the program ends in a result that meets `Q` with all they
have seen by then, as long as each of them sees what `Given` admits after those before it. -/
def After (Given : List (ι × W) → ι × W → Prop) (Q : List (ι × W) → Except ε α → Prop) :
    List (ι × W) → Prog ι W E ε α → Prop
  | seen, .done r => Q seen r
  | seen, .act a k => ∀ i w, Given seen (i, w) → After Given Q (seen ++ [(i, w)]) (k (a i w).1)

section Rules

variable {Given : List (ι × W) → ι × W → Prop} {seen : List (ι × W)}
variable {P : List (ι × W) → Except ε α → Prop} {Q : List (ι × W) → Except ε β → Prop}

lemma after_pure {a : α} (h : P seen (.ok a)) : (pure a : Prog ι W E ε α).After Given P seen := h

lemma after_throw {e : ε} (h : P seen (.error e)) : (throw e : Prog ι W E ε α).After Given P seen :=
  h

lemma after_atomic {a : ι → W → Except ε α × W × List E}
    (h : ∀ i w, Given seen (i, w) → P (seen ++ [(i, w)]) (a i w).1) :
    (atomic a).After Given P seen := h

lemma After.finish {x : Prog ι W E ε α} {f : Except ε α → Prog ι W E ε β}
    (hx : x.After Given P seen) (hf : ∀ seen r, P seen r → (f r).After Given Q seen) :
    (x.finish f).After Given Q seen := by
  induction x generalizing seen with
  | done r => exact hf seen r hx
  | act a k ih => exact fun i w hi => ih _ (hx i w hi)

lemma After.bind {x : Prog ι W E ε α} {f : α → Prog ι W E ε β} (hx : x.After Given P seen)
    (hok : ∀ seen a, P seen (.ok a) → (f a).After Given Q seen)
    (herror : ∀ seen e, P seen (.error e) → Q seen (.error e)) : (x >>= f).After Given Q seen := by
  apply hx.finish
  intro seen r hr
  cases r with
  | ok a => exact hok seen a hr
  | error e => exact herror seen e hr

lemma After.passes {x : Prog ι W E ε α} {f : α → Prog ι W E ε β} {P : List (ι × W) → α → Prop}
    (hx : x.After Given (fun seen r => ∃ a, r = .ok a ∧ P seen a) seen)
    (hf : ∀ seen a, P seen a → (f a).After Given Q seen) : (x >>= f).After Given Q seen := by
  apply hx.bind
  · rintro seen a ⟨b, h, hb⟩
    obtain rfl := Except.ok.inj h
    exact hf seen a hb
  · rintro seen e ⟨a, h, _⟩
    cases h

end Rules

end Prog

def Label.sees (t : ℕ) (w : W) : Label ι C V → List (ι × W)
  | act u i => if u = t then [(i, w)] else []
  | _ => []

namespace Config

variable (handle : C → Prog ι W E ε R) (envStep : V → W → W)

def observed (t : ℕ) : Config ι W E ε C R → List (Label ι C V) → List (ι × W)
  | _, [] => []
  | c, l :: ls =>
    l.sees t c.shared.world ++
      match step handle envStep c l with
      | none => []
      | some c' => observed t c' ls

variable {handle envStep} {t : ℕ} {w : W} {c d : Config ι W E ε C R} {ls ms : List (Label ι C V)}

lemma observed_append (h : run handle envStep c ls = some d) :
    observed handle envStep t c (ls ++ ms) =
      observed handle envStep t c ls ++ observed handle envStep t d ms := by
  induction ls generalizing c with
  | nil =>
    obtain rfl := Option.some.inj h
    rfl
  | cons l ls ih =>
    obtain ⟨e, he, hr⟩ := Option.bind_eq_some_iff.mp h
    simp [observed, he, ih hr]

lemma observed_concat {l : Label ι C V} (h : run handle envStep c ls = some d) :
    observed handle envStep t c (ls ++ [l]) =
      observed handle envStep t c ls ++ l.sees t d.shared.world := by
  rw [observed_append h]
  cases hl : step handle envStep d l <;> simp [observed, hl]

lemma mem_observed (h : run handle envStep c ls = some d) {o : ι × W}
    (ho : o ∈ observed handle envStep t c ls) :
    ∃ ms ns e, ls = ms ++ .act t o.1 :: ns ∧ run handle envStep c ms = some e ∧
      e.shared.world = o.2 := by
  induction ls generalizing c with
  | nil => simp [observed] at ho
  | cons l ls ih =>
    obtain ⟨e, he, hr⟩ := Option.bind_eq_some_iff.mp h
    simp only [observed, he] at ho
    rcases List.mem_append.mp ho with ho | ho
    · cases l with
      | act u i =>
        by_cases hu : u = t
        · subst hu
          obtain rfl : o = (i, c.shared.world) := by simpa [Label.sees] using ho
          exact ⟨[], ls, c, rfl, rfl, rfl⟩
        · simp [Label.sees, hu] at ho
      | _ => simp [Label.sees] at ho
    · obtain ⟨ms, ns, e', rfl, hms, hworld⟩ := ih hr ho
      exact ⟨l :: ms, ns, e', rfl, by simp [run, he, hms], hworld⟩

lemma sees_of_actor {l : Label ι C V} (h : l.actor ≠ some t) : l.sees t w = [] := by
  cases l with
  | act u i =>
    have hu : u ≠ t := fun heq => h (congrArg some heq)
    simp [Label.sees, hu]
  | _ => rfl

lemma observed_of_unspawned (h : run handle envStep (init w) ls = some c)
    (ht : c.threads t = none) :
    observed handle envStep t (init w) ls = [] := by
  apply List.eq_nil_iff_forall_not_mem.mpr
  intro o ho
  obtain ⟨ms, ns, e, rfl, -, -⟩ := mem_observed h ho
  have hacts := acts_of_unspawned h ht
  simp [Label.acts, List.countP_append, Label.actor] at hacts

variable {Given : List (ι × W) → ι × W → Prop} {Q : List (ι × W) → Except ε R → Prop} {call : C}

theorem after_run (hcall : (handle call).After Given Q [])
    (h : run handle envStep (init w) ls = some c)
    (hgiven : ∀ pre o post, observed handle envStep t (init w) ls = pre ++ o :: post → Given pre o)
    {p : Prog ι W E ε R} (ht : c.threads t = some (call, p)) :
    p.After Given Q (observed handle envStep t (init w) ls) := by
  induction ls using List.reverseRecOn generalizing c p with
  | nil =>
    obtain rfl := Option.some.inj h
    simp [init] at ht
  | append_singleton ls l ih =>
    obtain ⟨d, hd, hl⟩ := run_concat h
    rw [observed_concat hd] at hgiven ⊢
    have hbefore : ∀ {q}, d.threads t = some (call, q) →
        q.After Given Q (observed handle envStep t (init w) ls) :=
      fun hq => ih hd (fun pre o post heq =>
        hgiven pre o (post ++ l.sees t d.shared.world) (by simp [heq])) hq
    rcases thread_cases hl ht with ⟨rfl, hu, rfl⟩ | ⟨i, β, a, k, rfl, hu, rfl, _⟩ | ⟨hactor, hu⟩
    · rw [sees_of_actor (by simp [Label.actor]), List.append_nil, observed_of_unspawned hd hu]
      exact hcall
    · have hsees : (Label.act t i : Label ι C V).sees t d.shared.world = [(i, d.shared.world)] := by
        simp [Label.sees]
      rw [hsees] at hgiven ⊢
      exact hbefore hu i d.shared.world (hgiven _ _ [] rfl)
    · rw [sees_of_actor hactor, List.append_nil]
      exact hbefore hu

end Config

end OnlineBanking.Library
