import OnlineBanking.Library.Interleaving

set_option autoImplicit false

/-! Where in a run the events of its log come from. -/

namespace OnlineBanking.Library

lemma append_eq_append_cons {α : Type} {xs ys pre post : List α} {a : α}
    (h : xs ++ ys = pre ++ a :: post) :
    (∃ post', xs = pre ++ a :: post' ∧ post = post' ++ ys) ∨ ∃ pre', ys = pre' ++ a :: post ∧
    pre = xs ++ pre' := by
  rcases List.append_eq_append_iff.mp h with ⟨zs, hpre, hys⟩ | ⟨zs, hxs, hpost⟩
  · exact .inr ⟨zs, hys, hpre⟩
  · cases zs with
    | nil => exact .inr ⟨[], by simpa using hpost.symm, by simpa using hxs.symm⟩
    | cons z zs =>
      obtain ⟨rfl, htail⟩ := List.cons.inj hpost
      exact .inl ⟨zs, hxs, htail⟩

lemma filterMap_sublist {α : Type} {f : α → Option α} {l : List α}
    (h : ∀ x y, f x = some y → y = x) :
    (l.filterMap f).Sublist l := by
  induction l with
  | nil => exact List.Sublist.slnil
  | cons x l ih =>
    cases hx : f x with
    | none =>
      rw [List.filterMap_cons_none hx]
      exact ih.cons x
    | some y =>
      rw [List.filterMap_cons_some hx, h x y hx]
      exact ih.cons_cons x

lemma sublist_concat_of_prefix {α : Type} {l xs ys : List α} {a : α} (hl : l.Sublist xs)
    (h : xs <+: ys) (ha : a ∈ ys) (hnew : a ∉ xs) : (l ++ [a]).Sublist ys := by
  obtain ⟨zs, rfl⟩ := h
  have hmem : a ∈ zs := (List.mem_append.mp ha).resolve_left hnew
  exact hl.append (List.singleton_sublist.mpr hmem)

namespace Discipline

open Config

variable {ι W E ε C V R : Type} {handle : C → Prog ι W E ε R} {envStep : V → W → W}

theorem logged_at {c c' : Config ι W E ε C R} {ls : List (Label ι C V)}
    (h : run handle envStep c ls = some c') {t : ℕ} {e : E} (he : (t, e) ∈ c'.shared.trace)
    (hnew : (t, e) ∉ c.shared.trace) :
    ∃ ms i ns d d', ls = ms ++ .act t i :: ns ∧ run handle envStep c ms = some d ∧
      step handle envStep d (.act t i) = some d' ∧ run handle envStep d' ns = some c' ∧
        (t, e) ∉ d.shared.trace ∧ (t, e) ∈ d'.shared.trace := by
  induction ls generalizing c with
  | nil =>
    obtain rfl := Option.some.inj h
    exact absurd he hnew
  | cons l ls ih =>
    obtain ⟨d, hd, hr⟩ := Option.bind_eq_some_iff.mp h
    by_cases hnow : (t, e) ∈ d.shared.trace
    · rcases step_eq_some hd with ⟨_, _, _, _, heq⟩ | ⟨u, i, _, _, _, _, rfl, _, heq⟩ | ⟨_, _, heq⟩
      · rw [heq] at hnow
        exact absurd hnow hnew
      · rw [heq] at hnow
        rcases List.mem_append.mp hnow with hold | hmem
        · exact absurd hold hnew
        · obtain ⟨x, _, hx⟩ := List.mem_map.mp hmem
          obtain rfl : u = t := congrArg Prod.fst hx
          exact ⟨[], i, ls, c, d, rfl, rfl, hd, hr, hnew, heq ▸ hnow⟩
      · rw [heq] at hnow
        exact absurd hnow hnew
    · obtain ⟨ms, i, ns, d', d'', rfl, hms, hrest⟩ := ih hr hnow
      exact ⟨l :: ms, i, ns, d', d'', rfl, by simp [run, hd, hms], hrest⟩

variable (D : Discipline (E := E) handle envStep)

lemma rely_of_done {c c' : Config ι W E ε C R} {ls : List (Label ι C V)} (hc : D.Holds c)
    (h : run handle envStep c ls = some c') {t : ℕ} {call : C} {r : Except ε R}
    (ht : c.threads t = some (call, .done r)) :
    c'.threads t = some (call, .done r) ∧ D.Rely t c.shared c'.shared := by
  refine (D.run_invariant
    (P := fun d => d.threads t = some (call, .done r) ∧ D.Rely t c.shared d.shared) ?_ hc
    ⟨ht, D.refl t _⟩ (meets_true c ls) h).2
  rintro d l d' hd _ ⟨hdone, hrely⟩ hs
  have hl : ∀ i, l ≠ .act t i := by
    rintro i rfl
    simp [step, hdone] at hs
  refine ⟨?_, D.trans t _ _ _ hrely (D.step_rely hd hs hl)⟩
  rcases D.step_cases hd hs with
    ⟨u, _, _, hu, _, hth⟩ | ⟨u, i, _, _, _, hact, _, _, hth, _⟩ | ⟨_, _, _, hth⟩
  · rw [hth, Function.update_of_ne ?_, hdone]
    rintro rfl
    simp [hu] at hdone
  · rw [hth, Function.update_of_ne ?_, hdone]
    rintro rfl
    exact hl i hact
  · exact hth ▸ hdone

end Discipline

end OnlineBanking.Library
