import Mathlib.Data.Nat.Notation
import Mathlib.Logic.Function.Basic
import Mathlib.Tactic.SplitIfs

set_option autoImplicit false

/-! Programs made of atomic actions on a shared world, run by any number of threads
under a schedule, and a rely–guarantee rule for them. -/

namespace OnlineBanking.Library

inductive Prog (ι W E ε α : Type) : Type 1
  | done (r : Except ε α)
  | act {β : Type} (a : ι → W → β × W × List E) (k : β → Prog ι W E ε α)

structure Shared (W E : Type) where
  world : W
  trace : List (ℕ × E)

variable {ι W E ε α β C V R : Type}

def Shared.after (t : ℕ) (s : Shared W E) (w : W) (es : List E) : Shared W E :=
  ⟨w, s.trace ++ es.map (t, ·)⟩

namespace Prog

def finish : Prog ι W E ε α → (Except ε α → Prog ι W E ε β) → Prog ι W E ε β
  | .done r, f => f r
  | .act a k, f => .act a (fun b => finish (k b) f)

instance : Monad (Prog ι W E ε) where
  pure a := .done (.ok a)
  bind x f := x.finish fun r =>
    match r with
    | .ok a => f a
    | .error e => .done (.error e)

instance : MonadExceptOf ε (Prog ι W E ε) where
  throw e := .done (.error e)
  tryCatch x h := x.finish fun r =>
    match r with
    | .ok a => .done (.ok a)
    | .error e => h e

def atomic (a : ι → W → Except ε α × W × List E) : Prog ι W E ε α := .act a .done

lemma atomic_injective {a b : ι → W → Except ε α × W × List E}
    (h : atomic a = atomic b) : a = b := by
  simpa [atomic] using h

def exec (i : ι) : Prog ι W E ε α → W → Except ε α × W
  | .done r, w => (r, w)
  | .act a k, w => exec i (k (a i w).1) (a i w).2.1

lemma exec_bind (i : ι) (x : Prog ι W E ε α) (f : α → Prog ι W E ε β) (w : W) :
    (x >>= f).exec i w =
      match x.exec i w with
      | (.ok a, w') => (f a).exec i w'
      | (.error e, w') => (.error e, w') := by
  induction x generalizing w with
  | done r => cases r <;> rfl
  | act a k ih => exact ih _ _

/-- Thread `t` may go on with the program from `s`: whatever the others do within `Rely`, each
of its actions that is given a fitting input stays within `Guar`, and its result meets `Q`. -/
def Safe (Rely : Shared W E → Shared W E → Prop) (Given : ι → Shared W E → Prop)
    (Guar : ι → Shared W E → Shared W E → Prop) (t : ℕ) (Q : Except ε α → Shared W E → Prop) :
    Prog ι W E ε α → Shared W E → Prop
  | .done r, s => ∀ s', Rely s s' → Q r s'
  | .act a k, s => ∀ s', Rely s s' → ∀ i, Given i s' →
      Guar i s' (s'.after t (a i s'.world).2.1 (a i s'.world).2.2) ∧
        Safe Rely Given Guar t Q (k (a i s'.world).1)
          (s'.after t (a i s'.world).2.1 (a i s'.world).2.2)

section Rules

variable {Rely : Shared W E → Shared W E → Prop} {Given : ι → Shared W E → Prop}
variable {Guar : ι → Shared W E → Shared W E → Prop}
variable {t : ℕ} {Q : Except ε α → Shared W E → Prop} {s s' : Shared W E}

lemma Safe.rely (htrans : ∀ a b c, Rely a b → Rely b c → Rely a c) {p : Prog ι W E ε α}
    (h : Safe Rely Given Guar t Q p s) (hr : Rely s s') : Safe Rely Given Guar t Q p s' := by
  cases p with
  | done r => exact fun u hu => h u (htrans _ _ _ hr hu)
  | act a k => exact fun u hu => h u (htrans _ _ _ hr hu)

lemma Safe.mono {p : Prog ι W E ε α} {P : Except ε α → Shared W E → Prop}
    (h : Safe Rely Given Guar t Q p s) (hQ : ∀ r u, Q r u → P r u) :
    Safe Rely Given Guar t P p s := by
  induction p generalizing s with
  | done r => exact fun u hu => hQ r u (h u hu)
  | act a k ih => exact fun u hu i hi => ⟨(h u hu i hi).1, ih _ (h u hu i hi).2⟩

lemma Safe.and {p : Prog ι W E ε α} {Guar' : ι → Shared W E → Shared W E → Prop}
    {Q' : Except ε α → Shared W E → Prop} (h : Safe Rely Given Guar t Q p s)
    (h' : Safe Rely Given Guar' t Q' p s) :
    Safe Rely Given (fun i a b => Guar i a b ∧ Guar' i a b) t (fun r u => Q r u ∧ Q' r u) p s := by
  induction p generalizing s with
  | done r => exact fun u hu => ⟨h u hu, h' u hu⟩
  | act a k ih =>
    intro u hu i hi
    exact ⟨⟨(h u hu i hi).1, (h' u hu i hi).1⟩, ih _ (h u hu i hi).2 (h' u hu i hi).2⟩

lemma Safe.guar {p : Prog ι W E ε α} {Guar' : ι → Shared W E → Shared W E → Prop}
    (h : Safe Rely Given Guar t Q p s) (hG : ∀ i a b, Guar i a b → Guar' i a b) :
    Safe Rely Given Guar' t Q p s := by
  induction p generalizing s with
  | done r => exact h
  | act a k ih => exact fun u hu i hi => ⟨hG i _ _ (h u hu i hi).1, ih _ (h u hu i hi).2⟩

lemma Safe.relying {p : Prog ι W E ε α} {Rely' : Shared W E → Shared W E → Prop}
    (h : Safe Rely Given Guar t Q p s) (hrely : ∀ a b, Rely' a b → Rely a b) :
    Safe Rely' Given Guar t Q p s := by
  induction p generalizing s with
  | done r => exact fun u hu => h u (hrely _ _ hu)
  | act a k ih =>
    exact fun u hu i hi => ⟨(h u (hrely _ _ hu) i hi).1, ih _ (h u (hrely _ _ hu) i hi).2⟩

lemma Safe.of_true {p : Prog ι W E ε α} (hG : ∀ i a b, Guar i a b) (hQ : ∀ r u, Q r u) :
    Safe Rely Given Guar t Q p s := by
  induction p generalizing s with
  | done r => exact fun u _ => hQ r u
  | act a k ih => exact fun u _ i _ => ⟨hG i _ _, ih _⟩

lemma Safe.stable (htrans : ∀ a b c, Rely a b → Rely b c → Rely a c) {p : Prog ι W E ε α}
    (h : Safe Rely Given Guar t Q p s) :
    Safe Rely Given Guar t (fun r u => ∀ v, Rely u v → Q r v) p s := by
  induction p generalizing s with
  | done r => exact fun u hu v hv => h v (htrans _ _ _ hu hv)
  | act a k ih => exact fun u hu i hi => ⟨(h u hu i hi).1, ih _ (h u hu i hi).2⟩

lemma safe_pure {a : α} (h : ∀ s', Rely s s' → Q (.ok a) s') :
    Safe Rely Given Guar t Q (pure a : Prog ι W E ε α) s := h

lemma safe_throw {e : ε} (h : ∀ s', Rely s s' → Q (.error e) s') :
    Safe Rely Given Guar t Q (throw e : Prog ι W E ε α) s := h

lemma safe_finish {P : Except ε β → Shared W E → Prop} {p : Prog ι W E ε α}
    {f : Except ε α → Prog ι W E ε β}
    (h : Safe Rely Given Guar t (fun r u => Safe Rely Given Guar t P (f r) u) p s)
    (hrefl : ∀ a, Rely a a) : Safe Rely Given Guar t P (p.finish f) s := by
  induction p generalizing s with
  | done r => exact h s (hrefl s)
  | act a k ih => exact fun u hu i hi => ⟨(h u hu i hi).1, ih _ (h u hu i hi).2⟩

lemma safe_bind {P : Except ε β → Shared W E → Prop} {p : Prog ι W E ε α} {f : α → Prog ι W E ε β}
    (hrefl : ∀ a, Rely a a)
    (h : Safe Rely Given Guar t (fun r u =>
      match r with
      | .ok a => Safe Rely Given Guar t P (f a) u
      | .error e => ∀ u', Rely u u' → P (.error e) u') p s) :
    Safe Rely Given Guar t P (p >>= f) s := by
  refine safe_finish (h.mono fun r u hr => ?_) hrefl
  cases r with
  | ok a => exact hr
  | error e => exact hr

lemma safe_atomic {a : ι → W → Except ε α × W × List E}
    (h : ∀ u, Rely s u → ∀ i, Given i u → Guar i u (u.after t (a i u.world).2.1 (a i u.world).2.2) ∧
      ∀ v, Rely (u.after t (a i u.world).2.1 (a i u.world).2.2) v → Q (a i u.world).1 v) :
    Safe Rely Given Guar t Q (atomic a) s := h

end Rules

end Prog

structure Config (ι W E ε C R : Type) where
  shared : Shared W E
  threads : ℕ → Option (C × Prog ι W E ε R)

inductive Label (ι C V : Type)
  | spawn (t : ℕ) (c : C)
  | act (t : ℕ) (i : ι)
  | env (v : V)

def Label.actor : Label ι C V → Option ℕ
  | act t _ => some t
  | _ => none

def Label.solo (t : ℕ) (inputs : ℕ → ι) (n : ℕ) : List (Label ι C V) :=
  (List.range n).map fun k => .act t (inputs k)

lemma Label.solo_succ (t : ℕ) (inputs : ℕ → ι) (n : ℕ) :
    Label.solo (C := C) (V := V) t inputs (n + 1) =
      .act t (inputs 0) :: Label.solo t (fun k => inputs (k + 1)) n := by
  simp [solo, List.range_succ_eq_map, Function.comp_def]

namespace Config

def init (w : W) : Config ι W E ε C R := ⟨⟨w, []⟩, fun _ => none⟩

variable (handle : C → Prog ι W E ε R) (envStep : V → W → W)

def step (c : Config ι W E ε C R) : Label ι C V → Option (Config ι W E ε C R)
  | .spawn t call =>
    match c.threads t with
    | none => some { c with threads := Function.update c.threads t (some (call, handle call)) }
    | some _ => none
  | .act t i =>
    match c.threads t with
    | some (call, .act a k) =>
      some {
        shared := c.shared.after t (a i c.shared.world).2.1 (a i c.shared.world).2.2
        threads := Function.update c.threads t (some (call, k (a i c.shared.world).1)) }
    | _ => none
  | .env v => some { c with shared := { c.shared with world := envStep v c.shared.world } }

def run : Config ι W E ε C R → List (Label ι C V) → Option (Config ι W E ε C R)
  | c, [] => some c
  | c, l :: ls => (step handle envStep c l).bind fun c' => run c' ls

def transitions (t : ℕ) : Config ι W E ε C R → List (Label ι C V) → List (Shared W E × Shared W E)
  | _, [] => []
  | c, l :: ls =>
    match step handle envStep c l with
    | none => []
    | some c' =>
      if l.actor = some t then (c.shared, c'.shared) :: transitions t c' ls else transitions t c' ls

def Meets (cond : Config ι W E ε C R → Label ι C V → Prop) :
    Config ι W E ε C R → List (Label ι C V) → Prop
  | _, [] => True
  | c, l :: ls => cond c l ∧ ∀ c', step handle envStep c l = some c' → Meets cond c' ls

lemma run_append {c : Config ι W E ε C R} {ls ms : List (Label ι C V)} :
    run handle envStep c (ls ++ ms) =
      (run handle envStep c ls).bind fun c' => run handle envStep c' ms := by
  induction ls generalizing c with
  | nil => rfl
  | cons l ls ih =>
    simp only [List.cons_append, run]
    cases step handle envStep c l with
    | none => rfl
    | some d => exact ih

variable {handle envStep}

lemma run_concat {c c' : Config ι W E ε C R} {ls : List (Label ι C V)} {l : Label ι C V}
    (h : run handle envStep c (ls ++ [l]) = some c') :
    ∃ d, run handle envStep c ls = some d ∧ step handle envStep d l = some c' := by
  rw [run_append] at h
  obtain ⟨d, hd, hl⟩ := Option.bind_eq_some_iff.mp h
  exact ⟨d, hd, by simpa [run] using hl⟩

lemma run_after {c d : Config ι W E ε C R} {ls ms : List (Label ι C V)}
    (h : run handle envStep c ls = some d) :
    run handle envStep c (ls ++ ms) = run handle envStep d ms := by
  rw [run_append, h, Option.bind_some]

lemma run_single {c d : Config ι W E ε C R} {l : Label ι C V}
    (h : step handle envStep c l = some d) :
    run handle envStep c [l] = some d := by
  rw [run, h]
  rfl

lemma step_eq_some {c c' : Config ι W E ε C R} {l : Label ι C V}
    (h : step handle envStep c l = some c') :
    (∃ t call, l = .spawn t call ∧ c.threads t = none ∧
      c' = { c with threads := Function.update c.threads t (some (call, handle call)) }) ∨
    (∃ t i call, ∃ (β : Type) (a : ι → W → β × W × List E) (k : β → Prog ι W E ε R), l = .act t i ∧
      c.threads t = some (call, .act a k) ∧
      c' = ⟨c.shared.after t (a i c.shared.world).2.1 (a i c.shared.world).2.2,
        Function.update c.threads t (some (call, k (a i c.shared.world).1))⟩) ∨
    ∃ v, l = .env v ∧ c' = { c with
      shared := { c.shared with world := envStep v c.shared.world } } := by
  cases l with
  | spawn t call =>
    cases ht : c.threads t with
    | some p => simp [step, ht] at h
    | none =>
      simp only [step, ht, Option.some.injEq] at h
      exact .inl ⟨t, call, rfl, ht, h.symm⟩
  | act t i =>
    rcases ht : c.threads t with _ | ⟨call, r | ⟨a, k⟩⟩
    · simp [step, ht] at h
    · simp [step, ht] at h
    · simp only [step, ht, Option.some.injEq] at h
      exact .inr (.inl ⟨t, i, call, _, a, k, rfl, ht, h.symm⟩)
  | env v => exact .inr (.inr ⟨v, rfl, (Option.some.inj h).symm⟩)

lemma thread_cases {c c' : Config ι W E ε C R} {l : Label ι C V}
    (h : step handle envStep c l = some c') {t : ℕ} {call : C} {p : Prog ι W E ε R}
    (ht : c'.threads t = some (call, p)) :
    (l = .spawn t call ∧ c.threads t = none ∧ p = handle call) ∨
    (∃ i, ∃ (β : Type) (a : ι → W → β × W × List E) (k : β → Prog ι W E ε R), l = .act t i ∧
      c.threads t = some (call, .act a k) ∧ p = k (a i c.shared.world).1 ∧
      c'.shared = c.shared.after t (a i c.shared.world).2.1 (a i c.shared.world).2.2) ∨
    (l.actor ≠ some t ∧ c.threads t = some (call, p)) := by
  rcases step_eq_some h with ⟨u, call', rfl, hu, rfl⟩ | ⟨u, i, call', β, a, k, rfl, hu, rfl⟩ |
      ⟨v, rfl, rfl⟩
  · by_cases htu : t = u
    · subst htu
      obtain ⟨rfl, rfl⟩ : call' = call ∧ handle call' = p := by simpa using ht
      exact .inl ⟨rfl, hu, rfl⟩
    · exact .inr (.inr ⟨by simp [Label.actor], by simpa [htu] using ht⟩)
  · by_cases htu : t = u
    · subst htu
      obtain ⟨rfl, rfl⟩ : call' = call ∧ k (a i c.shared.world).1 = p := by simpa using ht
      exact .inr (.inl ⟨i, β, a, k, rfl, hu, rfl, rfl⟩)
    · exact .inr (.inr ⟨by simp [Label.actor, Ne.symm htu], by simpa [htu] using ht⟩)
  · exact .inr (.inr ⟨by simp [Label.actor], ht⟩)

lemma unspawned_before {c c' : Config ι W E ε C R} {l : Label ι C V}
    (h : step handle envStep c l = some c') {t : ℕ} (ht : c'.threads t = none) :
    l.actor ≠ some t ∧ c.threads t = none := by
  rcases step_eq_some h with ⟨u, call, rfl, _, rfl⟩ | ⟨u, i, call, β, a, k, rfl, _, rfl⟩ |
      ⟨v, rfl, rfl⟩
  · by_cases htu : t = u
    · simp [htu] at ht
    · exact ⟨by simp [Label.actor], by simpa [htu] using ht⟩
  · by_cases htu : t = u
    · simp [htu] at ht
    · exact ⟨by simp [Label.actor, Ne.symm htu], by simpa [htu] using ht⟩
  · exact ⟨by simp [Label.actor], ht⟩

end Config

/-- What the threads rely on and guarantee, with the proof that every program keeps to it.
`Fresh t` holds as long as thread `t` has not been started. -/
structure Discipline (handle : C → Prog ι W E ε R) (envStep : V → W → W) where
  Rely : ℕ → Shared W E → Shared W E → Prop
  Guar : ℕ → C → ι → Shared W E → Shared W E → Prop
  Post : ℕ → C → Except ε R → Shared W E → Prop
  Fresh : ℕ → Shared W E → Prop
  refl : ∀ t s, Rely t s s
  trans : ∀ t a b c, Rely t a b → Rely t b c → Rely t a c
  guar_rely : ∀ t u c i s s', u ≠ t → Guar t c i s s' → Rely u s s'
  env_rely : ∀ u v s, Rely u s { s with world := envStep v s.world }
  fresh_init : ∀ t w, Fresh t ⟨w, []⟩
  fresh_rely : ∀ t s s', Fresh t s → Rely t s s' → Fresh t s'
  handle_safe : ∀ t c s, Fresh t s →
    (handle c).Safe (Rely t) (fun _ _ => True) (Guar t c) t (Post t c) s

namespace Discipline

open Config

variable {handle : C → Prog ι W E ε R} {envStep : V → W → W}
    (D : Discipline (E := E) handle envStep)

def strengthen (Extra : ℕ → C → ι → Shared W E → Shared W E → Prop)
    (hextra : ∀ t c s, D.Fresh t s →
      (handle c).Safe (D.Rely t) (fun _ _ => True) (Extra t c) t (fun _ _ => True) s) :
    Discipline (E := E) handle envStep where
  Rely := D.Rely
  Guar t c i s s' := D.Guar t c i s s' ∧ Extra t c i s s'
  Post := D.Post
  Fresh := D.Fresh
  refl := D.refl
  trans := D.trans
  guar_rely t u c i s s' hu h := D.guar_rely t u c i s s' hu h.1
  env_rely := D.env_rely
  fresh_init := D.fresh_init
  fresh_rely := D.fresh_rely
  handle_safe t c s hs := ((D.handle_safe t c s hs).and (hextra t c s hs)).mono fun _ _ h => h.1

def ensure (Extra : ℕ → C → Except ε R → Shared W E → Prop)
    (hextra : ∀ t c s, D.Fresh t s →
      (handle c).Safe (D.Rely t) (fun _ _ => True) (fun _ _ _ => True) t (Extra t c) s) :
    Discipline (E := E) handle envStep where
  Rely := D.Rely
  Guar := D.Guar
  Post t c r s := D.Post t c r s ∧ Extra t c r s
  Fresh := D.Fresh
  refl := D.refl
  trans := D.trans
  guar_rely := D.guar_rely
  env_rely := D.env_rely
  fresh_init := D.fresh_init
  fresh_rely := D.fresh_rely
  handle_safe t c s hs := ((D.handle_safe t c s hs).and (hextra t c s hs)).guar fun _ _ _ h => h.1

structure Holds (c : Config ι W E ε C R) : Prop where
  fresh : ∀ t, c.threads t = none → D.Fresh t c.shared
  safe : ∀ t call p, c.threads t = some (call, p) →
    p.Safe (D.Rely t) (fun _ _ => True) (D.Guar t call) t (D.Post t call) c.shared

lemma init_holds (w : W) : D.Holds (Config.init w) where
  fresh t _ := D.fresh_init t w
  safe t call p h := by simp [Config.init] at h

lemma post_of_done {c : Config ι W E ε C R} (hc : D.Holds c) {t : ℕ} {call : C} {r : Except ε R}
    (ht : c.threads t = some (call, .done r)) : D.Post t call r c.shared :=
  hc.safe t call _ ht c.shared (D.refl t _)

lemma step_cases {c c' : Config ι W E ε C R} {l : Label ι C V} (hc : D.Holds c)
    (h : step handle envStep c l = some c') :
    (∃ t call, l = .spawn t call ∧ c.threads t = none ∧ c'.shared = c.shared ∧
        c'.threads = Function.update c.threads t (some (call, handle call))) ∨
      (∃ t i call p p', l = .act t i ∧ c.threads t = some (call, p) ∧
        D.Guar t call i c.shared c'.shared ∧
        c'.threads = Function.update c.threads t (some (call, p')) ∧
        p'.Safe (D.Rely t) (fun _ _ => True) (D.Guar t call) t (D.Post t call) c'.shared) ∨
      (∃ v, l = .env v ∧ c'.shared = { c.shared with world := envStep v c.shared.world } ∧
        c'.threads = c.threads) := by
  rcases step_eq_some h with ⟨t, call, rfl, ht, rfl⟩ | ⟨t, i, call, β, a, k, rfl, ht, rfl⟩ |
      ⟨v, rfl, rfl⟩
  · exact .inl ⟨t, call, rfl, ht, rfl, rfl⟩
  · have hs := hc.safe t call _ ht c.shared (D.refl t _) i trivial
    exact .inr (.inl ⟨t, i, call, _, _, rfl, ht, hs.1, rfl, hs.2⟩)
  · exact .inr (.inr ⟨v, rfl, rfl, rfl⟩)

lemma step_rely {c c' : Config ι W E ε C R} {l : Label ι C V} (hc : D.Holds c)
    (h : step handle envStep c l = some c') {u : ℕ} (hu : ∀ i, l ≠ .act u i) :
    D.Rely u c.shared c'.shared := by
  rcases D.step_cases hc h with
      ⟨t, call, _, _, hs, _⟩ | ⟨t, i, call, _, _, hl, _, hg, _⟩ | ⟨v, _, hs, _⟩
  · exact hs ▸ D.refl u _
  · refine D.guar_rely t u _ _ _ _ ?_ hg
    rintro rfl
    exact hu i hl
  · exact hs ▸ D.env_rely u v _

lemma step_holds {c c' : Config ι W E ε C R} {l : Label ι C V} (hc : D.Holds c)
    (h : step handle envStep c l = some c') : D.Holds c' := by
  have hrely := fun u => D.step_rely hc h (u := u)
  have hold : ∀ u call p, (∀ i, l ≠ .act u i) → c.threads u = some (call, p) →
      p.Safe (D.Rely u) (fun _ _ => True) (D.Guar u call) u (D.Post u call) c'.shared :=
    fun u call p hl hu => (hc.safe u call p hu).rely (D.trans u) (hrely u hl)
  have hfresh : ∀ u, (∀ i, l ≠ .act u i) → c.threads u = none → D.Fresh u c'.shared :=
    fun u hl hu => D.fresh_rely u _ _ (hc.fresh u hu) (hrely u hl)
  rcases D.step_cases hc h with
    ⟨t, call, rfl, hnone, hs, ht⟩ | ⟨t, i, call, p, p', rfl, _, _, ht, hp⟩ | ⟨v, rfl, _, ht⟩
  · constructor
    · intro u hu
      by_cases hut : u = t
      · simp [ht, hut] at hu
      · exact hfresh u (by simp) (by rwa [ht, Function.update_of_ne hut] at hu)
    · intro u call' q hu
      by_cases hut : u = t
      · subst hut
        simp only [ht, Function.update_self, Option.some.injEq, Prod.mk.injEq] at hu
        obtain ⟨rfl, rfl⟩ := hu
        exact D.handle_safe u call _ (hs ▸ hc.fresh u hnone)
      · exact hold u call' q (by simp) (by rwa [ht, Function.update_of_ne hut] at hu)
  · have hne : ∀ u, u ≠ t → ∀ j, Label.act (V := V) (C := C) t i ≠ .act u j := by
      rintro u hut j hj
      cases hj
      exact hut rfl
    constructor
    · intro u hu
      by_cases hut : u = t
      · simp [ht, hut] at hu
      · exact hfresh u (hne u hut) (by rwa [ht, Function.update_of_ne hut] at hu)
    · intro u call' q hu
      by_cases hut : u = t
      · subst hut
        simp only [ht, Function.update_self, Option.some.injEq, Prod.mk.injEq] at hu
        obtain ⟨rfl, rfl⟩ := hu
        exact hp
      · exact hold u call' q (hne u hut) (by rwa [ht, Function.update_of_ne hut] at hu)
  · constructor
    · exact fun u hu => hfresh u (by simp) (ht ▸ hu)
    · exact fun u call' q hu => hold u call' q (by simp) (ht ▸ hu)

theorem run_invariant {P : Config ι W E ε C R → Prop}
    {cond : Config ι W E ε C R → Label ι C V → Prop}
    (hstep : ∀ c l c', D.Holds c → cond c l → P c → step handle envStep c l = some c' → P c')
    {c c' : Config ι W E ε C R} {ls : List (Label ι C V)} (hc : D.Holds c) (hP : P c)
    (hm : Meets handle envStep cond c ls) (h : run handle envStep c ls = some c') :
    D.Holds c' ∧ P c' := by
  induction ls generalizing c with
  | nil =>
    simp only [run, Option.some.injEq] at h
    subst h
    exact ⟨hc, hP⟩
  | cons l ls ih =>
    simp only [run, Option.bind_eq_some_iff] at h
    obtain ⟨d, hd, hr⟩ := h
    exact ih (D.step_holds hc hd) (hstep c l d hc hm.1 hP hd) (hm.2 d hd) hr

theorem shared_invariant {P : Shared W E → Prop}
    {cond : Config ι W E ε C R → Label ι C V → Prop}
    (hguar : ∀ c t i call p s', D.Holds c → c.threads t = some (call, p) → cond c (.act t i) →
      P c.shared → D.Guar t call i c.shared s' → P s')
    (henv : ∀ v s, P s → P { s with world := envStep v s.world })
    {c c' : Config ι W E ε C R} {ls : List (Label ι C V)} (hc : D.Holds c) (hP : P c.shared)
    (hm : Meets handle envStep cond c ls) (h : run handle envStep c ls = some c') :
    D.Holds c' ∧ P c'.shared := by
  refine D.run_invariant (P := fun c => P c.shared) ?_ hc hP hm h
  intro d l d' hd hcond hPd hs
  rcases D.step_cases hd hs with
    ⟨t, call, _, _, hsh, _⟩ | ⟨t, i, call, p, _, rfl, ht, hg, _⟩ | ⟨v, _, hsh, _⟩
  · exact hsh ▸ hPd
  · exact hguar d t i call p _ hd ht hcond hPd hg
  · exact hsh ▸ henv v _ hPd

lemma meets_true (c : Config ι W E ε C R) (ls : List (Label ι C V)) :
    Meets handle envStep (fun _ _ => True) c ls := by
  induction ls generalizing c with
  | nil => trivial
  | cons l ls ih => exact ⟨trivial, fun c' _ => ih c'⟩

omit D in
lemma Meets.mono {cond cond' : Config ι W E ε C R → Label ι C V → Prop}
    (himp : ∀ c l, cond c l → cond' c l) {c : Config ι W E ε C R} {ls : List (Label ι C V)}
    (h : Meets handle envStep cond c ls) : Meets handle envStep cond' c ls := by
  induction ls generalizing c with
  | nil => trivial
  | cons l ls ih => exact ⟨himp c l h.1, fun c' hc' => ih (h.2 c' hc')⟩

omit D in
lemma Meets.and {cond cond' : Config ι W E ε C R → Label ι C V → Prop} {c : Config ι W E ε C R}
    {ls : List (Label ι C V)} (h : Meets handle envStep cond c ls)
    (h' : Meets handle envStep cond' c ls) :
    Meets handle envStep (fun c l => cond c l ∧ cond' c l) c ls := by
  induction ls generalizing c with
  | nil => trivial
  | cons l ls ih => exact ⟨⟨h.1, h'.1⟩, fun d hd => ih (h.2 d hd) (h'.2 d hd)⟩

omit D in
lemma Meets.append {cond : Config ι W E ε C R → Label ι C V → Prop} {c d : Config ι W E ε C R}
    {ls ms : List (Label ι C V)} (h : Meets handle envStep cond c (ls ++ ms))
    (hrun : run handle envStep c ls = some d) :
    Meets handle envStep cond c ls ∧ Meets handle envStep cond d ms := by
  induction ls generalizing c with
  | nil =>
    obtain rfl := Option.some.inj hrun
    exact ⟨trivial, h⟩
  | cons l ls ih =>
    obtain ⟨e, he, hrun⟩ := Option.bind_eq_some_iff.mp hrun
    refine ⟨⟨h.1, fun e' he' => ?_⟩, (ih (h.2 e he) hrun).2⟩
    obtain rfl : e = e' := Option.some.inj (he.symm.trans he')
    exact (ih (h.2 e he) hrun).1

lemma holds_of_run {c c' : Config ι W E ε C R} {ls : List (Label ι C V)} (hc : D.Holds c)
    (h : run handle envStep c ls = some c') : D.Holds c' :=
  (D.run_invariant (P := fun _ => True) (fun _ _ _ _ _ _ _ => trivial) hc
    trivial (meets_true c ls) h).1

section Transitions

lemma spawned {c c' : Config ι W E ε C R} {t : ℕ} {call : C}
    (h : step handle envStep c (.spawn t call) = some c') :
    c'.shared = c.shared ∧ c'.threads t = some (call, handle call) := by
  cases ht : c.threads t with
  | some p => simp [step, ht] at h
  | none =>
    simp only [step, ht, Option.some.injEq] at h
    simp [← h]

lemma call_persists {c c' : Config ι W E ε C R} {l : Label ι C V} (hc : D.Holds c)
    (h : step handle envStep c l = some c') {t : ℕ} {call : C} {p : Prog ι W E ε R}
    (ht : c.threads t = some (call, p)) : ∃ q, c'.threads t = some (call, q) := by
  rcases D.step_cases hc h with
    ⟨u, call', _, hu, _, hth⟩ | ⟨u, i, call', q, q', _, hu, _, hth, _⟩ | ⟨v, _, _, hth⟩
  · have hne : t ≠ u := by
      rintro rfl
      simp [hu] at ht
    exact ⟨p, by rw [hth, Function.update_of_ne hne, ht]⟩
  · by_cases htu : t = u
    · subst htu
      obtain ⟨rfl, rfl⟩ : call' = call ∧ q = p := by simpa [hu] using ht
      exact ⟨q', by simp [hth]⟩
    · exact ⟨p, by rw [hth, Function.update_of_ne htu, ht]⟩
  · exact ⟨p, hth ▸ ht⟩

lemma call_persists_run {c c' : Config ι W E ε C R} {ls : List (Label ι C V)} (hc : D.Holds c)
    (h : run handle envStep c ls = some c') {t : ℕ} {call : C} {p : Prog ι W E ε R}
    (ht : c.threads t = some (call, p)) : ∃ q, c'.threads t = some (call, q) :=
  (D.run_invariant (P := fun d => ∃ q, d.threads t = some (call, q))
    (fun _ _ _ hd _ ⟨_, hq⟩ hs => D.call_persists hd hs hq) hc ⟨p, ht⟩ (meets_true c ls) h).2

lemma call_of_spawn {c c' : Config ι W E ε C R} {ls : List (Label ι C V)} {t : ℕ} {call : C}
    (hc : D.Holds c) (h : run handle envStep c (.spawn t call :: ls) = some c') :
    ∃ q, c'.threads t = some (call, q) := by
  obtain ⟨d, hd, hr⟩ := Option.bind_eq_some_iff.mp h
  exact D.call_persists_run (D.step_holds hc hd) hr (spawned hd).2

lemma action_of_transition {cond : Config ι W E ε C R → Label ι C V → Prop}
    {c c' : Config ι W E ε C R} {ls : List (Label ι C V)} (hc : D.Holds c)
    (hm : Meets handle envStep cond c ls) (h : run handle envStep c ls = some c') {t : ℕ} {call : C}
    {p : Prog ι W E ε R} (ht : c'.threads t = some (call, p)) {s s' : Shared W E}
    (hs : (s, s') ∈ transitions handle envStep t c ls) :
    ∃ d i q, d.shared = s ∧ d.threads t = some (call, q) ∧ cond d (.act t i) ∧
      D.Guar t call i s s' := by
  induction ls generalizing c with
  | nil => simp [transitions] at hs
  | cons l ls ih =>
    simp only [run, Option.bind_eq_some_iff] at h
    obtain ⟨d, hd, hr⟩ := h
    simp only [transitions, hd] at hs
    have hlater := fun hs => ih (D.step_holds hc hd) (hm.2 d hd) hr hs
    split_ifs at hs with hl
    · rcases List.mem_cons.mp hs with hs | hs
      · obtain ⟨rfl, rfl⟩ := Prod.mk.injEq .. ▸ hs
        rcases D.step_cases hc hd with
          ⟨_, _, rfl, _⟩ | ⟨u, j, call', q, q', rfl, hu, hg, hth, _⟩ | ⟨_, rfl, _⟩
        · simp [Label.actor] at hl
        · obtain rfl : u = t := by simpa [Label.actor] using hl
          obtain ⟨r, hr'⟩ := D.call_persists_run (D.step_holds hc hd) hr
            (show d.threads u = some (call', q') by
            simp [hth])
          obtain ⟨rfl, _⟩ : call' = call ∧ r = p := by simpa [hr'] using ht
          exact ⟨c, j, q, rfl, hu, hm.1, hg⟩
        · simp [Label.actor] at hl
      · exact hlater hs
    · exact hlater hs

lemma guar_of_mem_transitions {c c' : Config ι W E ε C R} {ls : List (Label ι C V)}
    (hc : D.Holds c) (h : run handle envStep c ls = some c') {t : ℕ} {call : C}
    {p : Prog ι W E ε R} (ht : c'.threads t = some (call, p)) {s s' : Shared W E}
    (hs : (s, s') ∈ transitions handle envStep t c ls) : ∃ i, D.Guar t call i s s' := by
  obtain ⟨_, i, _, _, _, _, hg⟩ := D.action_of_transition hc (meets_true c ls) h ht hs
  exact ⟨i, hg⟩

lemma meets_of_runs {cond : Config ι W E ε C R → Label ι C V → Prop} {c : Config ι W E ε C R}
    {ls : List (Label ι C V)}
    (hcond : ∀ ms l d, ms ++ [l] <+: ls → run handle envStep c ms = some d → cond d l) :
    Meets handle envStep cond c ls := by
  induction ls generalizing c with
  | nil => trivial
  | cons l ls ih =>
    refine ⟨hcond [] l c ((List.prefix_append [l] ls)) rfl, fun d hd => ih fun ms m e hp hr => ?_⟩
    refine hcond (l :: ms) m e ?_ (by simp [run, hd, hr])
    exact List.cons_prefix_cons.mpr ⟨rfl, hp⟩

lemma split_concat_prefix {α : Type} {ms ls : List α} {l : α} (h : ms ++ [l] <+: ls) :
    ms.length < ls.length ∧ ls.take ms.length = ms ∧ ls.take (ms.length + 1) = ms ++ [l] ∧
      ls[ms.length]? = some l := by
  obtain ⟨rest, rfl⟩ := h
  simp [List.take_append, List.take_of_length_le]

lemma meets_of_takes {cond : Config ι W E ε C R → Label ι C V → Prop} {c : Config ι W E ε C R}
    {ls : List (Label ι C V)}
    (hcond : ∀ k < ls.length, ∀ l d, ls[k]? = some l → run handle envStep c (ls.take k) = some d →
      cond d l) :
    Meets handle envStep cond c ls := by
  refine meets_of_runs fun ms l d hprefix hd => ?_
  obtain ⟨hlength, htake, _, hnext⟩ := split_concat_prefix hprefix
  exact hcond ms.length hlength l d hnext (htake.symm ▸ hd)

include D in
lemma spawn_of_call {w : W} {c : Config ι W E ε C R} {ls : List (Label ι C V)}
    (h : run handle envStep (Config.init w) ls = some c) {t : ℕ} {call : C} {p : Prog ι W E ε R}
    (ht : c.threads t = some (call, p)) : .spawn t call ∈ ls := by
  have hfrom : ∀ (c₀ : Config ι W E ε C R) (ls : List (Label ι C V)), D.Holds c₀ →
      run handle envStep c₀ ls = some c →
      (∃ q, c₀.threads t = some (call, q)) ∨ .spawn t call ∈ ls := by
    intro c₀ ls hc₀ h
    induction ls generalizing c₀ with
    | nil =>
      obtain rfl := Option.some.inj h
      exact .inl ⟨p, ht⟩
    | cons l ls ih =>
      obtain ⟨d, hd, hr⟩ := Option.bind_eq_some_iff.mp h
      rcases ih d (D.step_holds hc₀ hd) hr with ⟨q, hq⟩ | hm
      · rcases D.step_cases hc₀ hd with
          ⟨u, call', rfl, _, _, hth⟩ | ⟨u, i, call', q', q'', _, hu, _, hth, _⟩ | ⟨_, _, _, hth⟩
        · by_cases htu : t = u
          · subst htu
            obtain ⟨rfl, _⟩ : call' = call ∧ handle call' = q := by simpa [hth] using hq
            exact .inr List.mem_cons_self
          · exact .inl ⟨q, by rwa [hth, Function.update_of_ne htu] at hq⟩
        · by_cases htu : t = u
          · subst htu
            obtain ⟨rfl, _⟩ : call' = call ∧ q'' = q := by simpa [hth] using hq
            exact .inl ⟨q', hu⟩
          · exact .inl ⟨q, by rwa [hth, Function.update_of_ne htu] at hq⟩
        · exact .inl ⟨q, hth ▸ hq⟩
      · exact .inr (List.mem_cons_of_mem l hm)
  rcases hfrom _ ls (D.init_holds w) h with ⟨q, hq⟩ | hm
  · simp [Config.init] at hq
  · exact hm

end Transitions

section Growth

structure Grows (T : Shared W E → Shared W E → Prop) : Prop where
  refl : ∀ s, T s s
  trans : ∀ a b c, T a b → T b c → T a c
  guar : ∀ t call i s s', D.Guar t call i s s' → T s s'
  env : ∀ v s, T s { s with world := envStep v s.world }

variable {D} {T : Shared W E → Shared W E → Prop} (hT : D.Grows T)
include hT

lemma Grows.step {c c' : Config ι W E ε C R} {l : Label ι C V} (hc : D.Holds c)
    (h : step handle envStep c l = some c') : T c.shared c'.shared := by
  rcases D.step_cases hc h with
      ⟨t, call, _, _, hs, _⟩ | ⟨t, i, call, _, _, _, _, hg, _⟩ | ⟨v, _, hs, _⟩
  · exact hs ▸ hT.refl _
  · exact hT.guar t call i _ _ hg
  · exact hs ▸ hT.env v _

lemma Grows.run {c c' : Config ι W E ε C R} {ls : List (Label ι C V)} (hc : D.Holds c)
    (h : run handle envStep c ls = some c') : T c.shared c'.shared :=
  (D.run_invariant (P := fun d => T c.shared d.shared)
    (fun _ _ _ hd _ hP hs => hT.trans _ _ _ hP (hT.step hd hs)) hc (hT.refl _)
      (meets_true c ls) h).2

lemma Grows.transition {c c' : Config ι W E ε C R} {ls : List (Label ι C V)} (hc : D.Holds c)
    (h : Config.run handle envStep c ls = some c') {t : ℕ} {s s' : Shared W E}
    (hs : (s, s') ∈ transitions handle envStep t c ls) : T c.shared s ∧ T s' c'.shared := by
  induction ls generalizing c with
  | nil => simp [transitions] at hs
  | cons l ls ih =>
    simp only [Config.run, Option.bind_eq_some_iff] at h
    obtain ⟨d, hd, hr⟩ := h
    simp only [transitions, hd] at hs
    have hnext := D.step_holds hc hd
    have hlater := fun hs => (ih hnext hr hs).imp_left (hT.trans _ _ _ (hT.step hc hd))
    split_ifs at hs with hl
    · rcases List.mem_cons.mp hs with hs | hs
      · obtain ⟨rfl, rfl⟩ := Prod.mk.injEq .. ▸ hs
        exact ⟨hT.refl _, hT.run hnext hr⟩
      · exact hlater hs
    · exact hlater hs

lemma Grows.pairwise {c c' : Config ι W E ε C R} {ls : List (Label ι C V)} (hc : D.Holds c)
    (h : Config.run handle envStep c ls = some c') (t : ℕ) :
    (transitions handle envStep t c ls).Pairwise fun a b => T a.2 b.1 := by
  induction ls generalizing c with
  | nil => simp [transitions]
  | cons l ls ih =>
    simp only [Config.run, Option.bind_eq_some_iff] at h
    obtain ⟨d, hd, hr⟩ := h
    have hnext := D.step_holds hc hd
    simp only [transitions, hd]
    split_ifs
    · exact List.pairwise_cons.mpr ⟨fun b hb => (hT.transition hnext hr hb).1, ih hnext hr⟩
    · exact ih hnext hr

def Grows.discipline : Discipline (E := E) handle envStep where
  Rely t s s' := D.Rely t s s' ∧ T s s'
  Guar := D.Guar
  Post := D.Post
  Fresh := D.Fresh
  refl t s := ⟨D.refl t s, hT.refl s⟩
  trans t a b c h h' := ⟨D.trans t a b c h.1 h'.1, hT.trans a b c h.2 h'.2⟩
  guar_rely t u c i s s' hu h := ⟨D.guar_rely t u c i s s' hu h, hT.guar t c i s s' h⟩
  env_rely u v s := ⟨D.env_rely u v s, hT.env v s⟩
  fresh_init := D.fresh_init
  fresh_rely t s s' h hr := D.fresh_rely t s s' h hr.1
  handle_safe t c s hs := (D.handle_safe t c s hs).relying fun _ _ h => h.1

theorem Grows.accounted {A : ℕ → C → E → Shared W E → Prop}
    (hguar : ∀ t call i s s', D.Guar t call i s s' → ∀ u e, (u, e) ∈ s'.trace →
      (u, e) ∈ s.trace ∨ u = t ∧ A t call e s')
    (hstable : ∀ t call e s s', T s s' → A t call e s → A t call e s')
    {w : W} {c : Config ι W E ε C R} {ls : List (Label ι C V)}
    (h : Config.run handle envStep (Config.init w) ls = some c) {t : ℕ} {e : E}
    (he : (t, e) ∈ c.shared.trace) : ∃ call p, c.threads t = some (call, p) ∧
    A t call e c.shared := by
  refine (D.run_invariant (P := fun d => ∀ u x, (u, x) ∈ d.shared.trace →
    ∃ call p, d.threads u = some (call, p) ∧ A u call x d.shared) ?_ (D.init_holds w)
      (by simp [Config.init]) (meets_true _ _) h).2 t e he
  intro d l d' hd _ hP hs u x hx
  have hold : (u, x) ∈ d.shared.trace →
      ∃ call p, d'.threads u = some (call, p) ∧ A u call x d'.shared := by
    intro hx
    obtain ⟨call, p, hu, ha⟩ := hP u x hx
    obtain ⟨q, hq⟩ := D.call_persists hd hs hu
    exact ⟨call, q, hq, hstable u call x _ _ (hT.step hd hs) ha⟩
  rcases D.step_cases hd hs with
    ⟨_, _, _, _, hsh, _⟩ | ⟨v, i, call, p, p', _, _, hg, hth, _⟩ | ⟨_, _, hsh, _⟩
  · exact hold (hsh ▸ hx)
  · rcases hguar v call i _ _ hg u x hx with hx | ⟨rfl, ha⟩
    · exact hold hx
    · exact ⟨call, p', by simp [hth], ha⟩
  · exact hold (by simpa [hsh] using hx)

end Growth

section OneThread

variable {Given : ι → Shared W E → Prop} {G : ι → Shared W E → Shared W E → Prop} {t : ℕ}
variable {Q : Except ε R → Shared W E → Prop} {call : C} {p : Prog ι W E ε R}

theorem thread_run {c c' : Config ι W E ε C R} {ls : List (Label ι C V)} (hc : D.Holds c)
    (ht : c.threads t = some (call, p)) (hp : p.Safe (D.Rely t) Given G t Q c.shared)
    (hm : Meets handle envStep (fun d l => ∀ i, l = .act t i → Given i d.shared) c ls)
    (h : run handle envStep c ls = some c') :
    (∃ q, c'.threads t = some (call, q) ∧ q.Safe (D.Rely t) Given G t Q c'.shared) ∧
      ∀ s s', (s, s') ∈ transitions handle envStep t c ls → ∃ i, G i s s' := by
  induction ls generalizing c p with
  | nil =>
    simp only [run, Option.some.injEq] at h
    subst h
    exact ⟨⟨p, ht, hp⟩, fun s s' hs => by simp [transitions] at hs⟩
  | cons l ls ih =>
    simp only [run, Option.bind_eq_some_iff] at h
    obtain ⟨d, hd, hr⟩ := h
    have hnext := D.step_holds hc hd
    by_cases hl : ∃ i, l = .act t i
    · obtain ⟨i, rfl⟩ := hl
      cases p with
      | done r => simp [step, ht] at hd
      | act a k =>
        have hstep := hd
        simp only [step, ht, Option.some.injEq] at hd
        obtain ⟨hg, hk⟩ := hp c.shared (D.refl t _) i (hm.1 i rfl)
        have hq : d.threads t = some (call, k (a i c.shared.world).1) := by simp [← hd]
        have hs : d.shared = c.shared.after t (a i c.shared.world).2.1
            (a i c.shared.world).2.2 := by
          rw [← hd]
        obtain ⟨hend, hmem⟩ := ih hnext hq (hs ▸ hk) (hm.2 d hstep) hr
        refine ⟨hend, fun s s' hs' => ?_⟩
        simp only [transitions, hstep, Label.actor, ↓reduceIte, List.mem_cons, Prod.mk.injEq] at hs'
        rcases hs' with ⟨rfl, rfl⟩ | hs'
        · exact ⟨i, hs ▸ hg⟩
        · exact hmem s s' hs'
    · have hother : ∀ i, l ≠ .act t i := fun i hi => hl ⟨i, hi⟩
      have hq : d.threads t = some (call, p) := by
        rcases D.step_cases hc hd with
          ⟨u, call', _, hu, _, hth⟩ | ⟨u, i, call', q, q', hact, hu, _, hth, _⟩ | ⟨v, _, _, hth⟩
        · rw [hth, Function.update_of_ne ?_, ht]
          rintro rfl
          simp [hu] at ht
        · rw [hth, Function.update_of_ne ?_, ht]
          rintro rfl
          exact hother i hact
        · exact hth ▸ ht
      obtain ⟨hend, hmem⟩ := ih hnext hq (hp.rely (D.trans t) (D.step_rely hc hd hother))
        (hm.2 d hd) hr
      refine ⟨hend, fun s s' hs => hmem s s' ?_⟩
      have hactor : l.actor ≠ some t := by
        cases l with
        | act u i =>
          intro hu
          exact hother i (by simpa [Label.actor] using hu)
        | _ => simp [Label.actor]
      simpa [transitions, hd, hactor] using hs

theorem solo_ends (inputs : ℕ → ι) {I : Shared W E → Prop}
    (hgiven : ∀ k s, I s → Given (inputs k) s) (hkeep : ∀ i s s', G i s s' → I s → I s')
    {c : Config ι W E ε C R} (hI : I c.shared) (ht : c.threads t = some (call, p))
    (hp : p.Safe (D.Rely t) Given G t Q c.shared) :
    ∃ n c' r, run handle envStep c (Label.solo t inputs n) = some c' ∧
      c'.threads t = some (call, .done r) ∧ Q r c'.shared := by
  induction p generalizing c inputs with
  | done r => exact ⟨0, c, r, rfl, ht, hp c.shared (D.refl t _)⟩
  | act a k ih =>
    obtain ⟨hg, hk⟩ := hp c.shared (D.refl t _) (inputs 0) (hgiven 0 _ hI)
    obtain ⟨d, hd, hs, hq⟩ : ∃ d, step handle envStep c (.act t (inputs 0)) = some d ∧
        d.shared = c.shared.after t (a (inputs 0) c.shared.world).2.1
          (a (inputs 0) c.shared.world).2.2 ∧
        d.threads t = some (call, k (a (inputs 0) c.shared.world).1) := by
      simp [step, ht]
    obtain ⟨n, c', r, hr, hdone, hQ⟩ := ih _ (fun j => inputs (j + 1))
      (fun j => hgiven (j + 1)) (hs ▸ hkeep _ _ _ hg hI) hq (hs ▸ hk)
    refine ⟨n + 1, c', r, ?_, hdone, hQ⟩
    simpa [Label.solo_succ, run, hd] using hr

end OneThread

end Discipline

end OnlineBanking.Library
