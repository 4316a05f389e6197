import OnlineBanking.Library.Failures
import OnlineBanking.Library.TwoRuns

set_option autoImplicit false

/-! What a program comes to when it is played, move by move. -/

namespace OnlineBanking.Library.Prog

variable {ι W E ε α β : Type} {Between : W → W → Prop} {w : W}

/-- If the program ends it ends in `Q`, whatever becomes of the world within `Between` before each
action. -/
def Plays (Between : W → W → Prop) (Q : Except ε α → W → Prop) : Prog ι W E ε α → W → Prop
  | .done r, w => Q r w
  | .act a k, w => ∀ u, Between w u → ∀ i, Plays Between Q (k (a i u).1) (a i u).2.1

section Rules

variable {Q : Except ε α → W → Prop} {R : Except ε β → W → Prop} {p : Prog ι W E ε α}

lemma Plays.mono {Q' : Except ε α → W → Prop} (hp : p.Plays Between Q w)
    (hQ : ∀ r u, Q r u → Q' r u) :
    p.Plays Between Q' w := by
  induction p generalizing w with
  | done r => exact hQ r w hp
  | act a k ih => exact fun u hu i => ih _ (hp u hu i)

lemma Plays.and {Q' : Except ε α → W → Prop} (hp : p.Plays Between Q w)
    (hp' : p.Plays Between Q' w) :
    p.Plays Between (fun r u => Q r u ∧ Q' r u) w := by
  induction p generalizing w with
  | done r => exact ⟨hp, hp'⟩
  | act a k ih => exact fun u hu i => ih _ (hp u hu i) (hp' u hu i)

lemma plays_finish {f : Except ε α → Prog ι W E ε β}
    (hp : p.Plays Between (fun r u => (f r).Plays Between R u) w) :
    (p.finish f).Plays Between R w := by
  induction p generalizing w with
  | done r => exact hp
  | act a k ih => exact fun u hu i => ih _ (hp u hu i)

lemma plays_bind {f : α → Prog ι W E ε β}
    (hp : p.Plays Between (fun r u => (∀ a, r = .ok a → (f a).Plays Between R u) ∧
      ∀ e, r = .error e → R (.error e) u) w) : (p >>= f).Plays Between R w := by
  apply plays_finish
  apply hp.mono
  intro r u hr
  cases r with
  | ok a => exact hr.1 a rfl
  | error e => exact hr.2 e rfl

lemma plays_atomic {a : ι → W → Except ε α × W × List E}
    (h : ∀ u, Between w u → ∀ i, Q (a i u).1 (a i u).2.1) : (atomic a).Plays Between Q w := h

lemma Throws.plays {P : ε → Prop} (hp : p.Throws P) :
    p.Plays Between (fun r _ => ∀ e, r = .error e → P e) w := by
  induction p generalizing w with
  | done r => exact hp
  | act a k ih => exact fun u _ i => ih _ (hp i u)

end Rules

section Moves

variable {p : Prog ι W E ε α} {moves : List (ι × (W → W))} {r : Except ε α}

@[simp] lemma play_done : play moves (.done r : Prog ι W E ε α) w = (.done r, w) := by
  cases moves with
  | nil => rfl
  | cons m moves => rfl

lemma play_atomic_bind {a : ι → W → Except ε α × W × List E} {f : α → Prog ι W E ε β} {i : ι}
    {others : W → W} :
    play ((i, others) :: moves) (atomic a >>= f) w =
      match (a i (others w)).1 with
      | .ok b => play moves (f b) (a i (others w)).2.1
      | .error e => (.done (.error e), (a i (others w)).2.1) := by
  cases hr : (a i (others w)).1 with
  | ok b => simp only [atomic, bind, finish, play, hr]
  | error e => simp only [atomic, bind, finish, play, hr, play_done]

theorem Plays.play {Q : Except ε α → W → Prop} (hp : p.Plays Between Q w)
    (hothers : ∀ m ∈ moves, ∀ u, Between u (m.2 u)) (hdone : (Prog.play moves p w).1 = .done r) :
    Q r (Prog.play moves p w).2 := by
  induction moves generalizing p w with
  | nil =>
    obtain rfl : p = .done r := hdone
    exact hp
  | cons m moves ih =>
    cases p with
    | done r' =>
      obtain rfl : r' = r := Prog.done.inj hdone
      exact hp
    | act a k =>
      exact ih (hp _ (hothers m List.mem_cons_self w) m.1)
        (fun m' hm' => hothers m' (List.mem_cons_of_mem m hm')) hdone

theorem Safe.play {Rely : Shared W E → Shared W E → Prop} {Given : ι → Shared W E → Prop}
    {Guar : ι → Shared W E → Shared W E → Prop} {t : ℕ} {Q : Except ε α → Shared W E → Prop}
    {I : Shared W E → Prop} {s : Shared W E} (hp : p.Safe Rely Given Guar t Q s) (hs : I s)
    (hgiven : ∀ m ∈ moves, ∀ u, I u → Given m.1 u) (hkeep : ∀ i u v, I u → Guar i u v → I v)
    (hothers : ∀ m ∈ moves, ∀ u, I u → Rely u { u with world := m.2 u.world } ∧
      I { u with world := m.2 u.world }) :
    ∃ u, u.world = (Prog.play moves p s.world).2 ∧ I u ∧
      (Prog.play moves p s.world).1.Safe Rely Given Guar t Q u := by
  induction moves generalizing p s with
  | nil => exact ⟨s, rfl, hs, hp⟩
  | cons m moves ih =>
    cases p with
    | done r => exact ⟨s, rfl, hs, hp⟩
    | act a k =>
      obtain ⟨hrely, hI⟩ := hothers m List.mem_cons_self s hs
      obtain ⟨hguar, hsafe⟩ := hp _ hrely m.1 (hgiven m List.mem_cons_self _ hI)
      exact ih hsafe (hkeep _ _ _ hI hguar) (fun m' hm' => hgiven m' (List.mem_cons_of_mem m hm'))
        fun m' hm' => hothers m' (List.mem_cons_of_mem m hm')

theorem play_ends (p : Prog ι W E ε α) (moves : ℕ → ι × (W → W)) (w : W) :
    ∃ n r, (Prog.play ((List.range n).map moves) p w).1 = .done r := by
  induction p generalizing moves w with
  | done r => exact ⟨0, r, rfl⟩
  | act a k ih =>
    obtain ⟨n, r, hr⟩ := ih (a (moves 0).1 ((moves 0).2 w)).1 (fun j => moves (j + 1))
      (a (moves 0).1 ((moves 0).2 w)).2.1
    refine ⟨n + 1, r, ?_⟩
    simpa [List.range_succ_eq_map, Function.comp_def, Prog.play] using hr

end Moves

end OnlineBanking.Library.Prog
