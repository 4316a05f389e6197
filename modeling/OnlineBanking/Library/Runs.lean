import Mathlib.Data.List.Basic

set_option autoImplicit false

/-! Runs of a machine whose steps are functions of the state and the action, and may be refused. -/

namespace OnlineBanking.Library.Runs

variable {S A : Type} (step : S → A → Option S)

def run : S → List A → Option S
  | s, [] => some s
  | s, a :: as => (step s a).bind fun s' => run s' as

def Meets (cond : S → A → Prop) : S → List A → Prop
  | _, [] => True
  | s, a :: as => cond s a ∧ ∀ s', step s a = some s' → Meets cond s' as

variable {step} {cond : S → A → Prop} {Inv : S → Prop} {s s' : S} {as : List A}

theorem run_invariant (hstep : ∀ s a s', Inv s → cond s a → step s a = some s' → Inv s')
    (hs : Inv s) (hm : Meets step cond s as) (h : run step s as = some s') : Inv s' := by
  induction as generalizing s with
  | nil =>
    obtain rfl := Option.some.inj h
    exact hs
  | cons a as ih =>
    obtain ⟨hcond, hrest⟩ := hm
    obtain ⟨t, ht, hrun⟩ := Option.bind_eq_some_iff.mp h
    exact ih (hstep s a t hs hcond ht) (hrest t ht) hrun

lemma meets_true (s : S) (as : List A) : Meets step (fun _ _ => True) s as := by
  induction as generalizing s with
  | nil => trivial
  | cons a as ih => exact ⟨trivial, fun s' _ => ih s'⟩

lemma Meets.imp {cond' : S → A → Prop} (h : ∀ s a, cond s a → cond' s a)
    (hm : Meets step cond s as) :
    Meets step cond' s as := by
  induction as generalizing s with
  | nil => trivial
  | cons a as ih => exact ⟨h s a hm.1, fun s' hs' => ih (hm.2 s' hs')⟩

instance decidableMeets [∀ s a, Decidable (cond s a)] : ∀ s as, Decidable (Meets step cond s as)
  | _, [] => isTrue trivial
  | s, a :: as =>
    have (s' : S) : Decidable (Meets step cond s' as) := decidableMeets s' as
    inferInstanceAs (Decidable (cond s a ∧ ∀ s' ∈ step s a, Meets step cond s' as))

end OnlineBanking.Library.Runs
