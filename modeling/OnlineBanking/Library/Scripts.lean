import OnlineBanking.Library.Embedding
import Mathlib.Data.List.Induction
import Mathlib.Data.Nat.Pairing

set_option autoImplicit false

/-! Requests that call a part of the system, one call after the other. A run of them is a run of the
part in which every call has a thread of its own. -/

namespace OnlineBanking.Library

inductive Script (ι' W' ε' C R R' : Type) : Type 1
  | done (r : Except ε' R')
  | look {β : Type} (a : ι' → W' → β) (k : β → Script ι' W' ε' C R R')
  | call (c : C) (k : Except ε' R → Script ι' W' ε' C R R')

variable {ι W E ε ι' W' E' ε' C R Q R' V V' : Type}

namespace Script

section Programs

variable (P : Part ι W E ε ι' W' E' ε') (handle : C → Prog ι W E ε R)

def prog : Script ι' W' ε' C R R' → Prog ι' W' E' ε' R'
  | done r => .done r
  | look a k => .act (fun i w => (a i w, w, [])) fun b => prog (k b)
  | call c k => ((handle c).embed P).finish fun r => prog (k r)

variable {P} {handle} {Rely : Shared W' E' → Shared W' E' → Prop} {t : ℕ}

def Puts (P : Part ι W E ε ι' W' E' ε') (w w' : W') : Prop := w' = w ∨ ∃ v, w' = P.put v w

lemma safe_embed {α : Type} (p : Prog ι W E ε α) (s : Shared W' E') :
    (p.embed P).Safe Rely (fun _ _ => True) (fun _ a b => Puts P a.world b.world) t
    (fun _ _ => True) s := by
  induction p generalizing s with
  | done r => exact fun _ _ => trivial
  | act a k ih => exact fun u _ i _ => ⟨.inr ⟨_, rfl⟩, ih _ _⟩

lemma safe_prog (hrefl : ∀ a, Rely a a) (script : Script ι' W' ε' C R R') (s : Shared W' E') :
    (script.prog P handle).Safe Rely (fun _ _ => True) (fun _ a b => Puts P a.world b.world) t
    (fun _ _ => True) s := by
  induction script generalizing s with
  | done r => exact fun _ _ => trivial
  | look a k ih => exact fun u _ i _ => ⟨.inl rfl, ih _ _⟩
  | call c k ih => exact Prog.safe_finish ((safe_embed (handle c) s).mono fun r u _ => ih _ u) hrefl

end Programs

/-- The script `s₀` comes to `s` after `n` calls: `Was` are the worlds it may have looked at, and
`ended` says how its calls have ended. -/
inductive Path (P : Part ι W E ε ι' W' E' ε') (Was : W' → Prop) (ended : ℕ → C → Except ε R → Prop)
    (s₀ : Script ι' W' ε' C R R') : ℕ → Script ι' W' ε' C R R' → Prop
  | start : Path P Was ended s₀ 0 s₀
  | looked {n : ℕ} {β : Type} {a : ι' → W' → β} {k : β → Script ι' W' ε' C R R'}
      (h : Path P Was ended s₀ n (look a k)) (i : ι') (w : W') (was : Was w) :
        Path P Was ended s₀ n (k (a i w))
  | called {n : ℕ} {c : C} {k : Except ε' R → Script ι' W' ε' C R R'} {r : Except ε R}
      (h : Path P Was ended s₀ n (call c k)) (e : ended n c r) :
      Path P Was ended s₀ (n + 1) (k (r.mapError P.failure))

section Paths

variable {P : Part ι W E ε ι' W' E' ε'} {Was Was' : W' → Prop}
    {ended ended' : ℕ → C → Except ε R → Prop}
variable {s₀ s : Script ι' W' ε' C R R'} {n : ℕ}

lemma Path.mono (hwas : ∀ w, Was w → Was' w) (hended : ∀ k c r, k < n → ended k c r → ended' k c r)
    (h : Path P Was ended s₀ n s) : Path P Was' ended' s₀ n s := by
  induction h with
  | start => exact .start
  | looked _ i w was ih => exact .looked (ih hended) i w (hwas w was)
  | called _ e ih =>
    exact .called (ih fun k c r hk => hended k c r (Nat.lt_succ_of_lt hk))
      (hended _ _ _ (Nat.lt_succ_self _) e)

lemma Path.call_of_lt (h : Path P Was ended s₀ n s) {j : ℕ} (hj : j < n) :
    ∃ c k r, Path P Was ended s₀ j (call c k) ∧ ended j c r := by
  induction h with
  | start => exact absurd hj (Nat.not_lt_zero j)
  | looked _ _ _ _ ih => exact ih hj
  | @called m c k r h e ih =>
    rcases Nat.lt_succ_iff_lt_or_eq.mp hj with hj | rfl
    · exact ih hj
    · exact ⟨c, k, r, h, e⟩

lemma Path.of_done {r : Except ε' R'} (h : Path P Was ended (done r) n s) : n = 0 ∧ s = done r := by
  induction h with
  | start => exact ⟨rfl, rfl⟩
  | looked h i w was ih => cases ih.2
  | called h e ih => cases ih.2

lemma Path.of_look {β : Type} {a : ι' → W' → β} {k : β → Script ι' W' ε' C R R'}
    (h : Path P Was ended (look a k) n s) :
    (n = 0 ∧ s = look a k) ∨ ∃ i w, Was w ∧ Path P Was ended (k (a i w)) n s := by
  induction h with
  | start => exact .inl ⟨rfl, rfl⟩
  | looked h i w was ih =>
    rcases ih with ⟨rfl, hlook⟩ | ⟨j, v, hv, hpath⟩
    · cases hlook
      exact .inr ⟨i, w, was, .start⟩
    · exact .inr ⟨j, v, hv, hpath.looked i w was⟩
  | called h e ih =>
    rcases ih with ⟨_, hlook⟩ | ⟨j, v, hv, hpath⟩
    · cases hlook
    · exact .inr ⟨j, v, hv, hpath.called e⟩

lemma Path.of_call {c : C} {k : Except ε' R → Script ι' W' ε' C R R'}
    (h : Path P Was ended (call c k) n s) :
    (n = 0 ∧ s = call c k) ∨ ∃ r m, n = m + 1 ∧ ended 0 c r ∧
      Path P Was (fun j => ended (j + 1)) (k (r.mapError P.failure)) m s := by
  induction h with
  | start => exact .inl ⟨rfl, rfl⟩
  | looked h i w was ih =>
    rcases ih with ⟨_, hcall⟩ | ⟨r, m, rfl, hended, hpath⟩
    · cases hcall
    · exact .inr ⟨r, m, rfl, hended, hpath.looked i w was⟩
  | called h e ih =>
    rcases ih with ⟨rfl, hcall⟩ | ⟨r, m, rfl, hended, hpath⟩
    · cases hcall
      exact .inr ⟨_, 0, rfl, e, .start⟩
    · exact .inr ⟨r, m + 1, rfl, hended, hpath.called e⟩

end Paths

end Script

open Config

def Config.InProgress (f : Config ι' W' E' ε' Q R') (t : ℕ) : Prop :=
  ∃ (β : Type) (q : Q) (a : ι' → W' → β × W' × List E') (k : β → Prog ι' W' E' ε' R'),
    f.threads t = some (q, .act a k)

def Config.ended (b : Config ι W E ε C R) (t n : ℕ) (c : C) (r : Except ε R) : Prop :=
  b.threads (Nat.pair t n) = some (c, .done r)

section Simulation

variable (P : Part ι W E ε ι' W' E' ε') (handle : C → Prog ι W E ε R)

inductive Stands (b : Config ι W E ε C R) (t n : ℕ) :
    Script ι' W' ε' C R R' → Prog ι' W' E' ε' R' → Prop
  | done (r : Except ε' R') (later : ∀ j, n ≤ j → b.threads (Nat.pair t j) = none) :
    Stands b t n (.done r) (.done r)
  | look {β : Type} (a : ι' → W' → β) (k : β → Script ι' W' ε' C R R')
      (later : ∀ j, n ≤ j → b.threads (Nat.pair t j) = none) :
      Stands b t n (.look a k) (.act (fun i w => (a i w, w, [])) fun x => (k x).prog P handle)
  | calling {β : Type} (c : C) (k : Except ε' R → Script ι' W' ε' C R R')
      (a : ι → W → β × W × List E)
      (x : β → Prog ι W E ε R) (now : b.threads (Nat.pair t n) = some (c, .act a x))
      (later : ∀ j, n < j → b.threads (Nat.pair t j) = none) :
      Stands b t n (.call c k) (.act (P.action a) fun y => ((x y).embed P).finish fun r =>
        (k r).prog P handle)

variable (script : Q → Script ι' W' ε' C R R')

/-- The run of requests and the run of the part have come to the same world, and to the same
places. -/
structure Simulates (Was : ℕ → W' → Prop) (f : Config ι' W' E' ε' Q R')
    (b : Config ι W E ε C R) : Prop where
  shared : P.shared f.shared = ⟨b.shared.world, b.shared.trace.map fun e =>
    ((Nat.unpair e.1).1, e.2)⟩
  unspawned : ∀ t, f.threads t = none → ∀ n, b.threads (Nat.pair t n) = none
  stands : ∀ t q p, f.threads t = some (q, p) →
    ∃ n s, (script q).Path P (Was t) (b.ended t) n s ∧ Stands P handle b t n s p

end Simulation

section Steps

variable {P : Part ι W E ε ι' W' E' ε'} {handle : C → Prog ι W E ε R} {envStep : V → W → W}
variable {script : Q → Script ι' W' ε' C R R'} {Was Was' : ℕ → W' → Prop}
    {b b' : Config ι W E ε C R} {t n : ℕ}

lemma Stands.congr {s : Script ι' W' ε' C R R'} {p : Prog ι' W' E' ε' R'}
    (h : Stands P handle b t n s p)
    (hb : ∀ j, b'.threads (Nat.pair t j) = b.threads (Nat.pair t j)) :
    Stands P handle b' t n s p := by
  cases h with
  | done r later => exact .done r fun j hj => (hb j).trans (later j hj)
  | look a k later => exact .look a k fun j hj => (hb j).trans (later j hj)
  | calling c k a x now later =>
    exact .calling c k a x ((hb n).trans now) fun j hj => (hb j).trans (later j hj)

structure Opened (t : ℕ) (b b' : Config ι W E ε C R) : Prop where
  shared : b'.shared = b.shared
  others : ∀ u, u ≠ t → ∀ j, b'.threads (Nat.pair u j) = b.threads (Nat.pair u j)
  kept : ∀ u c p, b.threads u = some (c, p) → b'.threads u = some (c, p)

lemma Opened.trans {b'' : Config ι W E ε C R} (h : Opened t b b') (h' : Opened t b' b'') :
    Opened t b b'' :=
  ⟨h'.shared.trans h.shared, fun u hu j => (h'.others u hu j).trans (h.others u hu j),
    fun u c p hp => h'.kept u c p (h.kept u c p hp)⟩

variable (handle) (envStep)

lemma spawn_pair (c : C) (hnone : b.threads (Nat.pair t n) = none) :
    ∃ b', step handle envStep b (.spawn (Nat.pair t n) c) = some b' ∧ Opened t b b' ∧
      b'.threads (Nat.pair t n) = some (c, handle c) ∧
        ∀ j, j ≠ n → b'.threads (Nat.pair t j) = b.threads (Nat.pair t j) := by
  have hstep : step handle envStep b (.spawn (Nat.pair t n) c) =
      some { b with threads := Function.update b.threads (Nat.pair t n) (some (c, handle c)) } := by
    simp only [step, hnone]
  refine ⟨_, hstep, ⟨rfl, fun u hu j => ?_, fun u c' p hp => ?_⟩, by simp, fun j hj => ?_⟩
  · exact Function.update_of_ne (fun h => hu (Nat.pair_eq_pair.mp h).1) _ _
  · refine (Function.update_of_ne ?_ _ _).trans hp
    rintro rfl
    simp [hnone] at hp
  · exact Function.update_of_ne (fun h => hj (Nat.pair_eq_pair.mp h).2) _ _

/-- From `b`, request `t` is brought to the place where `p` is left to run, by starting threads
only. -/
def Opens (P : Part ι W E ε ι' W' E' ε') (Was : ℕ → W' → Prop) (b : Config ι W E ε C R) (t : ℕ)
    (s₀ : Script ι' W' ε' C R R') (p : Prog ι' W' E' ε' R') : Prop :=
  ∃ (ms : List (Label ι C V)) (b' : Config ι W E ε C R) (m : ℕ) (s' : Script ι' W' ε' C R R'),
    run handle envStep b ms = some b' ∧ (∀ l ∈ ms, ∃ u c, l = .spawn u c) ∧ Opened t b b' ∧
      s₀.Path P (Was t) (b'.ended t) m s' ∧ Stands P handle b' t m s' p

lemma Opens.here {s₀ s : Script ι' W' ε' C R R'} {p : Prog ι' W' E' ε' R'}
    (hpath : s₀.Path P (Was t) (b.ended t) n s) (h : Stands P handle b t n s p) :
    Opens handle envStep P Was b t s₀ p :=
  ⟨[], b, n, s, rfl, by simp, ⟨rfl, fun _ _ _ => rfl, fun _ _ _ h => h⟩, hpath, h⟩

variable {handle} {envStep}

lemma Opens.after {s₀ : Script ι' W' ε' C R R'} {p : Prog ι' W' E' ε' R'} {c : C} {u : ℕ}
    (hstep : step handle envStep b (.spawn u c) = some b') (hopened : Opened t b b')
    (h : Opens handle envStep P Was b' t s₀ p) : Opens handle envStep P Was b t s₀ p := by
  obtain ⟨ms, d, m, s', hrun, hspawns, hopened', hpath, hstands⟩ := h
  refine ⟨.spawn u c :: ms, d, m, s', ?_, ?_, hopened.trans hopened', hpath, hstands⟩
  · rw [run, hstep]
    exact hrun
  · exact List.forall_mem_cons.mpr ⟨⟨u, c, rfl⟩, hspawns⟩

lemma Opens.resume {s₀ : Script ι' W' ε' C R R'} {c : C} {k : Except ε' R → Script ι' W' ε' C R R'}
    {y : Prog ι W E ε R}
    (hk : ∀ r {d : Config ι W E ε C R} {m : ℕ}, s₀.Path P (Was t) (d.ended t) m (k r) →
      (∀ j, m ≤ j → d.threads (Nat.pair t j) = none) → Opens handle envStep P Was d t s₀
        ((k r).prog P handle))
    (hpath : s₀.Path P (Was t) (b.ended t) n (.call c k))
    (hnow : b.threads (Nat.pair t n) = some (c, y))
    (hlater : ∀ j, n < j → b.threads (Nat.pair t j) = none) :
    Opens handle envStep P Was b t s₀ ((y.embed P).finish fun r => (k r).prog P handle) := by
  cases y with
  | done r => exact hk _ (hpath.called hnow) hlater
  | act a x => exact .here handle envStep hpath (.calling c k a x hnow hlater)

lemma settle {s₀ : Script ι' W' ε' C R R'} (s : Script ι' W' ε' C R R')
    (hpath : s₀.Path P (Was t) (b.ended t) n s)
    (hnone : ∀ j, n ≤ j → b.threads (Nat.pair t j) = none) :
    Opens handle envStep P Was b t s₀ (s.prog P handle) := by
  induction s generalizing b n with
  | done r => exact .here handle envStep hpath (.done r hnone)
  | look a k _ => exact .here handle envStep hpath (.look a k hnone)
  | call c k ih =>
    obtain ⟨d, hd, hopened, hnow, hothers⟩ := spawn_pair handle envStep c (hnone n le_rfl)
    have hpath' : s₀.Path P (Was t) (d.ended t) n (.call c k) :=
      hpath.mono (fun _ h => h) fun j c' r _ he => hopened.kept _ _ _ he
    have hlater : ∀ j, n < j → d.threads (Nat.pair t j) = none :=
      fun j hj => (hothers j (Nat.ne_of_gt hj)).trans (hnone j hj.le)
    exact .after hd hopened (.resume (fun r _ _ => ih r) hpath' hnow hlater)

lemma run_spawns {ms : List (Label ι C V)} (hspawns : ∀ l ∈ ms, ∃ u c, l = .spawn u c)
    (h : run handle envStep b ms = some b') : b'.shared = b.shared := by
  induction ms generalizing b with
  | nil => exact congrArg Config.shared (Option.some.inj h).symm
  | cons l ms ih =>
    obtain ⟨d, hd, hrun⟩ := Option.bind_eq_some_iff.mp h
    obtain ⟨u, c, rfl⟩ := hspawns l List.mem_cons_self
    exact (ih (fun m hm => hspawns m (List.mem_cons_of_mem _ hm)) hrun).trans
      (Discipline.spawned hd).1

lemma Simulates.of_opened {f f' : Config ι' W' E' ε' Q R'} (h : Simulates P handle script Was f b)
    (hwas : ∀ u w, Was u w → Was' u w) {q : Q} {p : Prog ι' W' E' ε' R'}
    (hothers : ∀ u, u ≠ t → ∀ j, b'.threads (Nat.pair u j) = b.threads (Nat.pair u j))
    (hf : f'.threads = Function.update f.threads t (some (q, p)))
    (hshared : P.shared f'.shared = ⟨b'.shared.world, b'.shared.trace.map fun e =>
      ((Nat.unpair e.1).1, e.2)⟩)
    (ht : ∃ n s, (script q).Path P (Was' t) (b'.ended t) n s ∧ Stands P handle b' t n s p) :
    Simulates P handle script Was' f' b' := by
  refine ⟨hshared, fun u hu j => ?_, fun u q' p' hu => ?_⟩
  · have hut : u ≠ t := by
      rintro rfl
      simp [hf] at hu
    rw [hf, Function.update_of_ne hut] at hu
    exact (hothers u hut j).trans (h.unspawned u hu j)
  · by_cases hut : u = t
    · subst hut
      obtain ⟨rfl, rfl⟩ : q = q' ∧ p = p' := by simpa [hf] using hu
      exact ht
    · rw [hf, Function.update_of_ne hut] at hu
      obtain ⟨n, s, hpath, hstands⟩ := h.stands u q' p' hu
      refine ⟨n, s, hpath.mono (hwas u) fun j c r _ he => ?_, hstands.congr (hothers u hut)⟩
      exact (hothers u hut j).trans he

variable {envStep' : V' → W' → W'} {envOf : V' → V} {f f' : Config ι' W' E' ε' Q R'}

lemma Simulates.world (h : Simulates P handle script Was f b) :
    b.shared.world = P.get f.shared.world :=
  (congrArg Shared.world h.shared).symm

lemma shared_call {s : Shared W' E'} {u : Shared W E} {β : Type}
    (a : ι → W → β × W × List E) (i : ι')
    (h : P.shared s = ⟨u.world, u.trace.map fun e => ((Nat.unpair e.1).1, e.2)⟩) :
    P.shared (s.after t (P.action a i s.world).2.1 (P.action a i s.world).2.2) =
      ⟨(a (P.input i) u.world).2.1,
          (u.trace ++ (a (P.input i) u.world).2.2.map (Nat.pair t n, ·)).map
        fun e => ((Nat.unpair e.1).1, e.2)⟩ := by
  have hworld : P.get s.world = u.world := congrArg Shared.world h
  rw [P.shared_action, h, hworld]
  simp [Shared.after, Function.comp_def]

theorem Simulates.step (h : Simulates P handle script Was f b) (hwas : ∀ u w, Was u w → Was' u w)
    (hnow : ∀ u, f.InProgress u → Was' u f.shared.world)
    (henv : ∀ v w, P.get (envStep' v w) = envStep (envOf v) (P.get w)) {l : Label ι' Q V'}
    (hstep : step (fun q => (script q).prog P handle) envStep' f l = some f') :
    ∃ (ms : List (Label ι C V)) (b' : Config ι W E ε C R), run handle envStep b ms = some b' ∧
      Simulates P handle script Was' f' b' ∧ ∀ ms' d, ms' <+: ms →
        run handle envStep b ms' = some d →
        d.shared.world = P.get f.shared.world ∨ d.shared.world = P.get f'.shared.world := by
  have hspawned : ∀ {ms ms' : List (Label ι C V)} {e d : Config ι W E ε C R},
      (∀ l ∈ ms, ∃ u c, l = .spawn u c) →
      ms' <+: ms → run handle envStep e ms' = some d → d.shared = e.shared :=
    fun hms hpre hrun => run_spawns (fun l hl => hms l (hpre.subset hl)) hrun
  rcases step_eq_some hstep with
      ⟨t, q, rfl, ht, rfl⟩ | ⟨t, i, q, β, a, k, rfl, ht, rfl⟩ | ⟨v, rfl, rfl⟩
  · obtain ⟨ms, b', m, s', hrun, hspawns, hopened, hpath, hstands⟩ :
        Opens handle envStep P Was' b t (script q) ((script q).prog P handle) :=
      settle (script q) .start fun j _ => h.unspawned t ht j
    refine ⟨ms, b', hrun, h.of_opened hwas hopened.others rfl ?_ ⟨m, s', hpath, hstands⟩, ?_⟩
    · rw [hopened.shared]
      exact h.shared
    · exact fun ms' d hpre hd =>
        .inl ((congrArg Shared.world (hspawned hspawns hpre hd)).trans h.world)
  · obtain ⟨n, s, hpath, hstands⟩ := h.stands t q _ ht
    cases hstands with
    | look a k later =>
      have hpath' := (hpath.mono (hwas t) fun _ _ _ _ he => he).looked i _ (hnow t ⟨_, _, _, _, ht⟩)
      obtain ⟨ms, b', m, s', hrun, hspawns, hopened, hpath, hstands⟩ :
          Opens handle envStep P Was' b t (script q) _ :=
        settle _ hpath' later
      have hsame : f.shared.after t f.shared.world [] = f.shared := by simp [Shared.after]
      refine ⟨ms, b', hrun, h.of_opened hwas hopened.others rfl ?_ ⟨m, s', hpath, hstands⟩, ?_⟩
      · dsimp only
        rw [hsame, hopened.shared]
        exact h.shared
      · exact fun ms' d hpre hd =>
          .inl ((congrArg Shared.world (hspawned hspawns hpre hd)).trans h.world)
    | calling c k a x now later =>
      have hworld := h.world
      let o := a (P.input i) b.shared.world
      let b₁ : Config ι W E ε C R := ⟨b.shared.after (Nat.pair t n) o.2.1 o.2.2,
        Function.update b.threads (Nat.pair t n) (some (c, x o.1))⟩
      have hb₁ : Config.step handle envStep b (.act (Nat.pair t n) (P.input i)) = some b₁ := by
        simp only [Config.step, now]
        rfl
      have hothers : ∀ v j, Nat.pair v j ≠ Nat.pair t n →
          b₁.threads (Nat.pair v j) = b.threads (Nat.pair v j) :=
        fun v j hne => Function.update_of_ne hne _ _
      have hown : ∀ j, j ≠ n → b₁.threads (Nat.pair t j) = b.threads (Nat.pair t j) :=
        fun j hj => hothers t j fun heq => hj (Nat.pair_eq_pair.mp heq).2
      have hpath₁ : (script q).Path P (Was' t) (b₁.ended t) n (.call c k) :=
        hpath.mono (hwas t) fun j c' r hj he => (hown j hj.ne).trans he
      have hlater₁ : ∀ j, n < j → b₁.threads (Nat.pair t j) = none :=
        fun j hj => (hown j hj.ne').trans (later j hj)
      obtain ⟨ms, b', m, s', hrun, hspawns, hopened, hpath', hstands⟩ :
          Opens handle envStep P Was' b₁ t (script q) _ :=
        .resume (fun r _ _ => settle (k r)) hpath₁ (Function.update_self ..) hlater₁
      have hend : b₁.shared.world = P.get (P.action a i f.shared.world).2.1 := by
        rw [Part.action, P.get_put, ← hworld]
        rfl
      refine ⟨.act (Nat.pair t n) (P.input i) :: ms, b', ?_, ?_, ?_⟩
      · rw [run, hb₁]
        exact hrun
      · have hresult : o.1 = (P.action a i f.shared.world).1 := by
          simp only [o, Part.action, hworld]
        refine h.of_opened hwas (fun v hv j => (hopened.others v hv j).trans ?_) rfl ?_
          ⟨m, s', hpath', ?_⟩
        · exact hothers v j fun heq => hv (Nat.pair_eq_pair.mp heq).1
        · rw [shared_call a i h.shared, hopened.shared]
          rfl
        · exact hresult ▸ hstands
      · intro ms' d hpre hd
        cases ms' with
        | nil =>
          obtain rfl := Option.some.inj hd
          exact .inl hworld
        | cons l ms' =>
          obtain ⟨rfl, hrest⟩ := List.cons_prefix_cons.mp hpre
          rw [run, hb₁] at hd
          exact .inr ((congrArg Shared.world (hspawned hspawns hrest hd)).trans hend)
  · have hend : envStep (envOf v) b.shared.world = P.get (envStep' v f.shared.world) := by
      rw [henv, h.world]
    have htrace : (P.shared f.shared).trace = b.shared.trace.map fun e =>
        ((Nat.unpair e.1).1, e.2) :=
      congrArg Shared.trace h.shared
    refine ⟨[.env (envOf v)], _, run_single rfl, ⟨?_, h.unspawned, ?_⟩, ?_⟩
    · simp only [hend, ← htrace]
      rfl
    · intro t q p ht
      obtain ⟨n, s, hpath, hstands⟩ := h.stands t q p ht
      exact ⟨n, s, hpath.mono (hwas t) fun _ _ _ _ he => he, hstands.congr fun _ => rfl⟩
    · intro ms' d hpre hd
      rcases List.prefix_cons_iff.mp hpre with rfl | ⟨ns, rfl, hns⟩
      · obtain rfl := Option.some.inj hd
        exact .inl h.world
      · obtain rfl := List.prefix_nil.mp hns
        obtain rfl := Option.some.inj hd
        exact .inr hend

lemma Simulates.request_of_thread (h : Simulates P handle script Was f b) {c : C}
    {p : Prog ι W E ε R} (ht : b.threads (Nat.pair t n) = some (c, p)) :
    ∃ q p' k, f.threads t = some (q, p') ∧
      (script q).Path P (Was t) (b.ended t) n (.call c k) := by
  have hsome : b.threads (Nat.pair t n) ≠ none := by simp [ht]
  rcases hft : f.threads t with _ | ⟨q, p'⟩
  · exact absurd (h.unspawned t hft n) hsome
  · obtain ⟨m, s, hpath, hstands⟩ := h.stands t q p' hft
    rcases Nat.lt_trichotomy n m with hlt | rfl | hgt
    · obtain ⟨c', k, r, hpath', hended⟩ := hpath.call_of_lt hlt
      obtain ⟨rfl, _⟩ : c' = c ∧ .done r = p := by simpa [Config.ended, ht, eq_comm] using hended
      refine ⟨q, p', k, rfl, hpath'⟩
    · cases hstands with
      | done r later => exact absurd (later n le_rfl) hsome
      | look a k later => exact absurd (later n le_rfl) hsome
      | calling c' k a x now later =>
        obtain ⟨rfl, _⟩ : c' = c ∧ .act a x = p := by simpa [ht, eq_comm] using now
        exact ⟨q, _, k, rfl, hpath⟩
    · cases hstands with
      | done r later => exact absurd (later n hgt.le) hsome
      | look a k later => exact absurd (later n hgt.le) hsome
      | calling c' k a x now later => exact absurd (later n hgt) hsome

lemma Simulates.path_of_done (h : Simulates P handle script Was f b) {q : Q} {r : Except ε' R'}
    (ht : f.threads t = some (q, .done r)) :
    ∃ n, (script q).Path P (Was t) (b.ended t) n (.done r) := by
  obtain ⟨n, s, hpath, hstands⟩ := h.stands t q _ ht
  cases hstands with
  | done r later => exact ⟨n, hpath⟩

end Steps

def Config.Visits (handle : C → Prog ι W E ε R) (envStep : V → W → W) (c : Config ι W E ε C R)
    (ls : List (Label ι C V)) (w : W) : Prop :=
  ∃ ms d, ms <+: ls ∧ run handle envStep c ms = some d ∧ d.shared.world = w

def Config.VisitsDuring (handle : C → Prog ι W E ε R) (envStep : V → W → W) (c : Config ι W E ε C R)
    (ls : List (Label ι C V)) (t : ℕ) (w : W) : Prop :=
  ∃ ms d, ms <+: ls ∧ run handle envStep c ms = some d ∧ d.InProgress t ∧ d.shared.world = w

lemma Config.VisitsDuring.visits {handle : C → Prog ι W E ε R} {envStep : V → W → W}
    {c : Config ι W E ε C R} {ls : List (Label ι C V)} {t : ℕ} {w : W}
    (h : VisitsDuring handle envStep c ls t w) :
    Visits handle envStep c ls w := by
  obtain ⟨ms, d, hpre, hrun, _, hw⟩ := h
  exact ⟨ms, d, hpre, hrun, hw⟩

lemma Config.VisitsDuring.append {handle : C → Prog ι W E ε R} {envStep : V → W → W}
    {c : Config ι W E ε C R} {ls ms : List (Label ι C V)} {t : ℕ} {w : W}
    (h : VisitsDuring handle envStep c ls t w) :
    VisitsDuring handle envStep c (ls ++ ms) t w := by
  obtain ⟨ns, d, hpre, hrun, ht, hw⟩ := h
  exact ⟨ns, d, hpre.trans (List.prefix_append ls ms), hrun, ht, hw⟩

lemma Config.Visits.append {handle : C → Prog ι W E ε R} {envStep : V → W → W}
    {c : Config ι W E ε C R} {ls ms : List (Label ι C V)} {w : W}
    (h : Visits handle envStep c ls w) : Visits handle envStep c (ls ++ ms) w := by
  obtain ⟨ns, d, hpre, hrun, hw⟩ := h
  exact ⟨ns, d, hpre.trans (List.prefix_append ls ms), hrun, hw⟩

lemma Config.Visits.last {handle : C → Prog ι W E ε R} {envStep : V → W → W}
    {c d : Config ι W E ε C R} {ls : List (Label ι C V)} (h : run handle envStep c ls = some d) :
    Visits handle envStep c ls d.shared.world :=
  ⟨ls, d, List.prefix_refl _, h, rfl⟩

theorem simulated {P : Part ι W E ε ι' W' E' ε'} {handle : C → Prog ι W E ε R} {envStep : V → W → W}
    {script : Q → Script ι' W' ε' C R R'} {envStep' : V' → W' → W'} {envOf : V' → V}
    (henv : ∀ v w, P.get (envStep' v w) = envStep (envOf v) (P.get w)) {w : W'}
    {ls : List (Label ι' Q V')} {f : Config ι' W' E' ε' Q R'}
    (h : run (fun q => (script q).prog P handle) envStep' (init w) ls = some f) :
    ∃ (ms : List (Label ι C V)) (b : Config ι W E ε C R),
      run handle envStep (init (P.get w)) ms = some b ∧
      Simulates P handle script (VisitsDuring (fun q => (script q).prog P handle) envStep'
          (init w) ls) f b ∧
      ∀ v, Visits handle envStep (init (P.get w)) ms v ↔
        ∃ v', Visits (fun q => (script q).prog P handle) envStep' (init w) ls v' ∧
          v = P.get v' := by
  induction ls using List.reverseRecOn generalizing f with
  | nil =>
    obtain rfl := Option.some.inj h
    refine ⟨[], _, rfl, ⟨rfl, fun _ _ _ => rfl, fun _ _ _ ht => by simp [init] at ht⟩, fun v =>
      ⟨?_, ?_⟩⟩
    · rintro ⟨ns, d, hpre, hrun, rfl⟩
      obtain rfl := List.prefix_nil.mp hpre
      obtain rfl := Option.some.inj hrun
      exact ⟨w, ⟨[], _, List.prefix_refl _, rfl, rfl⟩, rfl⟩
    · rintro ⟨v', ⟨ns, d, hpre, hrun, rfl⟩, rfl⟩
      obtain rfl := List.prefix_nil.mp hpre
      obtain rfl := Option.some.inj hrun
      exact ⟨[], _, List.prefix_refl _, rfl, rfl⟩
  | append_singleton ls l ih =>
    obtain ⟨e, he, hl⟩ := run_concat h
    obtain ⟨ms, b, hrun, hsim, hvisits⟩ := ih he
    have hnow : Visits (fun q => (script q).prog P handle) envStep' (init w)
        (ls ++ [l]) e.shared.world :=
      ⟨ls, e, List.prefix_append _ _, he, rfl⟩
    obtain ⟨ns, b', hrun', hsim', hworlds⟩ := hsim.step (fun _ _ hv => hv.append)
      (fun u hu => ⟨ls, e, List.prefix_append _ _, he, hu, rfl⟩) henv hl
    have hend := (run_after hrun).trans hrun'
    refine ⟨ms ++ ns, b', hend, hsim', fun v => ⟨?_, ?_⟩⟩
    · rintro ⟨os, d, ⟨rest, hrest⟩, hd, rfl⟩
      rcases List.append_eq_append_iff.mp hrest with ⟨os', hms, _⟩ | ⟨os', rfl, hns⟩
      · obtain ⟨v', hv', heq⟩ := (hvisits _).mp ⟨os, d, ⟨os', hms.symm⟩, hd, rfl⟩
        exact ⟨v', hv'.append, heq⟩
      · rcases hworlds os' d ⟨rest, hns.symm⟩ ((run_after hrun).symm.trans hd) with heq | heq
        · exact ⟨_, hnow, heq⟩
        · exact ⟨_, .last h, heq⟩
    · rintro ⟨v', ⟨os, d, hpre, hd, rfl⟩, rfl⟩
      rcases List.prefix_concat_iff.mp hpre with rfl | hos
      · obtain rfl := Option.some.inj (hd.symm.trans h)
        exact hsim'.world ▸ .last hend
      · exact ((hvisits _).mpr ⟨_, ⟨os, d, hos, hd, rfl⟩, rfl⟩).append

end OnlineBanking.Library
