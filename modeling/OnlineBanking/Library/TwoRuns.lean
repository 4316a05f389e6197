import OnlineBanking.Library.Callbacks
import OnlineBanking.Library.Interleaving

set_option autoImplicit false

/-! Two runs of one program, on inputs and worlds that differ only in what it must not depend on. -/

namespace OnlineBanking.Library

variable {ι σ ω ε α β W E : Type}

namespace Callback

variable {S : ι → ι → Prop} {N : Session σ ω → Session σ ω → Prop}

variable (S N) in
/-- On related inputs and from related sessions the callback has one result, and related sessions
remain. -/
def Alike (x : Callback ι σ ω ε α) : Prop :=
  ∀ i i' s s', S i i' → N s s' → (x i' s').1 = (x i s).1 ∧ N (x i s).2 (x i' s').2

lemma alike_pure {a : α} : Alike S N (pure a : Callback ι σ ω ε α) := fun _ _ _ _ _ hN => ⟨rfl, hN⟩

lemma alike_throw {e : ε} : Alike S N (throw e : Callback ι σ ω ε α) :=
  fun _ _ _ _ _ hN => ⟨rfl, hN⟩

lemma bind_of_ok {x : Callback ι σ ω ε α} {f : α → Callback ι σ ω ε β} {i : ι}
    {s u : Session σ ω} {a : α} (h : x i s = (.ok a, u)) : (x >>= f) i s = f a i u := by
  simp only [bind, h]

lemma bind_of_error {x : Callback ι σ ω ε α} {f : α → Callback ι σ ω ε β} {i : ι}
    {s u : Session σ ω} {e : ε} (h : x i s = (.error e, u)) : (x >>= f) i s = (.error e, u) := by
  simp only [bind, h]

lemma catch_of_ok {x : Callback ι σ ω ε α} {g : ε → Callback ι σ ω ε α} {i : ι}
    {s u : Session σ ω} {a : α} (h : x i s = (.ok a, u)) :
    (tryCatch x g : Callback ι σ ω ε α) i s = (.ok a, u) := by
  simp only [tryCatch, tryCatchThe, MonadExceptOf.tryCatch, h]

lemma catch_of_error {x : Callback ι σ ω ε α} {g : ε → Callback ι σ ω ε α} {i : ι}
    {s u : Session σ ω} {e : ε} (h : x i s = (.error e, u)) :
    (tryCatch x g : Callback ι σ ω ε α) i s = g e i u := by
  simp only [tryCatch, tryCatchThe, MonadExceptOf.tryCatch, h]

lemma alike_bind {x : Callback ι σ ω ε α} {f : α → Callback ι σ ω ε β} (hx : Alike S N x)
    (hf : ∀ a, Alike S N (f a)) : Alike S N (x >>= f) := by
  intro i i' s s' hS hN
  obtain ⟨hr, hu⟩ := hx i i' s s' hS hN
  rcases hxs : x i s with ⟨r, u⟩
  rcases hxs' : x i' s' with ⟨r', u'⟩
  rw [hxs, hxs'] at hr hu
  obtain rfl : r' = r := hr
  cases r' with
  | ok a =>
    rw [bind_of_ok hxs, bind_of_ok hxs']
    exact hf a i i' u u' hS hu
  | error e =>
    rw [bind_of_error hxs, bind_of_error hxs']
    exact ⟨rfl, hu⟩

lemma alike_tryCatch {x : Callback ι σ ω ε α} {g : ε → Callback ι σ ω ε α} (hx : Alike S N x)
    (hg : ∀ e, Alike S N (g e)) : Alike S N (tryCatch x g) := by
  intro i i' s s' hS hN
  obtain ⟨hr, hu⟩ := hx i i' s s' hS hN
  rcases hxs : x i s with ⟨r, u⟩
  rcases hxs' : x i' s' with ⟨r', u'⟩
  rw [hxs, hxs'] at hr hu
  obtain rfl : r' = r := hr
  cases r' with
  | ok a =>
    rw [catch_of_ok hxs, catch_of_ok hxs']
    exact ⟨rfl, hu⟩
  | error e =>
    rw [catch_of_error hxs, catch_of_error hxs']
    exact hg e i i' u u' hS hu

lemma alike_input {f : ι → α} (hf : ∀ i i', S i i' → f i' = f i) :
    Alike S N (input f : Callback ι σ ω ε α) :=
  fun i i' _ _ hS hN => ⟨congrArg Except.ok (hf i i' hS), hN⟩

end Callback

namespace Prog

variable (S : ι → ι → Prop) (N : W → W → Prop)

/-- On related inputs and worlds each action has one result, one log entry and related worlds after
it. -/
def Alike : Prog ι W E ε α → Prop
  | .done _ => True
  | .act a k => ∀ i i' w w', S i i' → N w w' →
      (a i' w').1 = (a i w).1 ∧ N (a i w).2.1 (a i' w').2.1 ∧ (a i' w').2.2 = (a i w).2.2 ∧
        Alike (k (a i w).1)

/-- The program alone, each action on what the others have made of the world that the one before has
left. -/
def play : List (ι × (W → W)) → Prog ι W E ε α → W → Prog ι W E ε α × W
  | [], p, w => (p, w)
  | _ :: _, .done r, w => (.done r, w)
  | (i, others) :: moves, .act a k, w => play moves (k (a i (others w)).1) (a i (others w)).2.1

variable {S N}

lemma alike_pure {a : α} : Alike S N (pure a : Prog ι W E ε α) := trivial

lemma alike_throw {e : ε} : Alike S N (throw e : Prog ι W E ε α) := trivial

lemma alike_finish {p : Prog ι W E ε α} {f : Except ε α → Prog ι W E ε β} (hp : p.Alike S N)
    (hf : ∀ r, (f r).Alike S N) : (p.finish f).Alike S N := by
  induction p with
  | done r => exact hf r
  | act a k ih =>
    intro i i' w w' hS hN
    obtain ⟨hr, hw, hlog, hk⟩ := hp i i' w w' hS hN
    exact ⟨hr, hw, hlog, ih _ hk⟩

lemma alike_bind {p : Prog ι W E ε α} {f : α → Prog ι W E ε β} (hp : p.Alike S N)
    (hf : ∀ a, (f a).Alike S N) :
    (p >>= f).Alike S N := by
  apply alike_finish hp
  intro r
  cases r with
  | ok a => exact hf a
  | error e => exact alike_throw

lemma alike_atomic {a : ι → W → Except ε α × W × List E}
    (h : ∀ i i' w w', S i i' → N w w' →
      (a i' w').1 = (a i w).1 ∧ N (a i w).2.1 (a i' w').2.1 ∧ (a i' w').2.2 = (a i w).2.2) :
    (atomic a).Alike S N := by
  intro i i' w w' hS hN
  obtain ⟨hr, hw, hlog⟩ := h i i' w w' hS hN
  exact ⟨hr, hw, hlog, trivial⟩

theorem Alike.play {p : Prog ι W E ε α} (hp : p.Alike S N) {f : ι → ι} {moves : List (ι × (W → W))}
    (hS : ∀ m ∈ moves, S m.1 (f m.1)) (hothers : ∀ m ∈ moves, ∀ w w', N w w' → N (m.2 w) (m.2 w'))
    {w w' : W} (hN : N w w') :
    (Prog.play (moves.map fun m => (f m.1, m.2)) p w').1 = (Prog.play moves p w).1 ∧
      N (Prog.play moves p w).2 (Prog.play (moves.map fun m => (f m.1, m.2)) p w').2 := by
  induction moves generalizing p w w' with
  | nil => exact ⟨rfl, hN⟩
  | cons m moves ih =>
    have hm := List.mem_cons_self (a := m) (l := moves)
    cases p with
    | done r => exact ⟨rfl, hN⟩
    | act a k =>
      obtain ⟨hr, hw, _, hk⟩ := hp m.1 (f m.1) (m.2 w) (m.2 w') (hS m hm) (hothers m hm w w' hN)
      have hrest := ih hk (fun m' hm' => hS m' (List.mem_cons_of_mem m hm'))
        (fun m' hm' => hothers m' (List.mem_cons_of_mem m hm')) hw
      simpa only [List.map_cons, Prog.play, hr] using hrest

end Prog

end OnlineBanking.Library
