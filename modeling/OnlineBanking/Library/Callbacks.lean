import Mathlib.Tactic.Basic

set_option autoImplicit false

/-! Callbacks of a database transaction. A callback is a sequence of statements on a
private copy of the database; a statement may fail, after which the transaction is
aborted and refuses every further statement. Writes through another connection leave
the callback at once and outlive a rollback. -/

namespace OnlineBanking.Library

lemma bind_eq_ok {ε α β : Type} {x : Except ε α} {f : α → Except ε β} {b : β}
    (h : x >>= f = .ok b) : ∃ a, x = .ok a ∧ f a = .ok b := by
  cases x with
  | ok a => exact ⟨a, rfl, h⟩
  | error e => cases h

structure Session (σ ω : Type) where
  db : σ
  aborted : Bool := false
  outside : List ω := []

def Callback (ι σ ω ε α : Type) : Type := ι → Session σ ω → Except ε α × Session σ ω

namespace Callback

variable {ι σ ω ε α β : Type}

instance : Monad (Callback ι σ ω ε) where
  pure a := fun _ s => (.ok a, s)
  bind x f := fun i s =>
    match x i s with
    | (.ok a, s') => f a i s'
    | (.error e, s') => (.error e, s')

instance : MonadExceptOf ε (Callback ι σ ω ε) where
  throw e := fun _ s => (.error e, s)
  tryCatch x h := fun i s =>
    match x i s with
    | (.ok a, s') => (.ok a, s')
    | (.error e, s') => h e i s'

def statement (fault : ι → Option ε) (dead : ε) (body : ι → σ → Except ε (α × σ)) :
    Callback ι σ ω ε α := fun i s =>
  if s.aborted then (.error dead, s)
  else
    match fault i with
    | some e => (.error e, { s with aborted := true })
    | none =>
      match body i s.db with
      | .error e => (.error e, { s with aborted := true })
      | .ok (a, d) => (.ok a, { s with db := d })

def emit (writes : ι → List ω) : Callback ι σ ω ε Unit := fun i s =>
  (.ok (), { s with outside := s.outside ++ writes i })

def input (f : ι → α) : Callback ι σ ω ε α := fun i s => (.ok (f i), s)

structure Outcome (σ ω ε α : Type) where
  result : Except ε α
  db : σ
  outside : List ω

def transact (dead : ε) (commitFault : ι → Option ε) (x : Callback ι σ ω ε α) (i : ι) (d : σ) :
    Outcome σ ω ε α :=
  match x i { db := d } with
  | (.error e, s) => ⟨.error e, d, s.outside⟩
  | (.ok a, s) =>
    if s.aborted then ⟨.error dead, d, s.outside⟩
    else
      match commitFault i with
      | some e => ⟨.error e, d, s.outside⟩
      | none => ⟨.ok a, s.db, s.outside⟩

def Ends (i : ι) (x : Callback ι σ ω ε α) (s : Session σ ω)
    (Q : α → Session σ ω → Prop) (E : ε → Session σ ω → Prop) : Prop :=
  match x i s with
  | (.ok a, s') => Q a s'
  | (.error e, s') => E e s'

section Rules

variable {i : ι} {x : Callback ι σ ω ε α} {s : Session σ ω}
variable {Q : α → Session σ ω → Prop} {E : ε → Session σ ω → Prop}

lemma ends_pure {a : α} (h : Q a s) : Ends i (pure a : Callback ι σ ω ε α) s Q E := h

lemma ends_throw {e : ε} (h : E e s) : Ends i (throw e : Callback ι σ ω ε α) s Q E := h

lemma ends_mono {Q' : α → Session σ ω → Prop} {E' : ε → Session σ ω → Prop}
    (h : Ends i x s Q E) (hQ : ∀ a s', Q a s' → Q' a s') (hE : ∀ e s', E e s' → E' e s') :
    Ends i x s Q' E' := by
  unfold Ends at h ⊢
  split <;> rename_i hx <;> rw [hx] at h
  · exact hQ _ _ h
  · exact hE _ _ h

lemma ends_and {Q' : α → Session σ ω → Prop} (h : Ends i x s Q E)
    (h' : Ends i x s Q' fun _ _ => True) :
    Ends i x s (fun a s' => Q a s' ∧ Q' a s') E := by
  unfold Ends at h h' ⊢
  split <;> rename_i hx <;> rw [hx] at h h'
  · exact ⟨h, h'⟩
  · exact h

lemma ends_of_all (hQ : ∀ a s', Q a s') (hE : ∀ e s', E e s') : Ends i x s Q E := by
  unfold Ends
  split
  · exact hQ _ _
  · exact hE _ _

lemma ends_bind {f : α → Callback ι σ ω ε β} {R : β → Session σ ω → Prop}
    (h : Ends i x s (fun a s' => Ends i (f a) s' R E) E) : Ends i (x >>= f) s R E := by
  have hb : (x >>= f) i s =
      match x i s with
      | (.ok a, s') => f a i s'
      | (.error e, s') => (.error e, s') := rfl
  unfold Ends at h ⊢
  rw [hb]
  rcases hx : x i s with ⟨r, s'⟩
  rw [hx] at h
  cases r with
  | ok a => exact h
  | error e => exact h

lemma ends_tryCatch {g : ε → Callback ι σ ω ε α}
    (h : Ends i x s Q (fun e s' => Ends i (g e) s' Q E)) : Ends i (tryCatch x g) s Q E := by
  have hb : (tryCatch x g : Callback ι σ ω ε α) i s =
      match x i s with
      | (.ok a, s') => (.ok a, s')
      | (.error e, s') => g e i s' := rfl
  unfold Ends at h ⊢
  rw [hb]
  rcases hx : x i s with ⟨r, s'⟩
  rw [hx] at h
  cases r with
  | ok a => exact h
  | error e => exact h

lemma ends_statement {fault : ι → Option ε} {dead : ε} {body : ι → σ → Except ε (α × σ)}
    (ha : s.aborted = false)
    (hfault : ∀ e, fault i = some e → E e { s with aborted := true })
    (herror : ∀ e, fault i = none → body i s.db = .error e → E e { s with aborted := true })
    (hok : ∀ a d, fault i = none → body i s.db = .ok (a, d) → Q a { s with db := d }) :
    Ends i (statement fault dead body) s Q E := by
  rcases s with ⟨d, aborted, out⟩
  obtain rfl : aborted = false := ha
  simp only [Ends, statement, Bool.false_eq_true, if_false]
  cases hf : fault i with
  | some e => exact hfault e hf
  | none =>
    cases hb : body i d with
    | error e => exact herror e hf hb
    | ok p => exact hok p.1 p.2 hf hb

lemma ends_aborted {fault : ι → Option ε} {dead : ε} {body : ι → σ → Except ε (α × σ)}
    (ha : s.aborted = true) (h : E dead s) : Ends i (statement fault dead body) s Q E := by
  simpa [Ends, statement, ha] using h

lemma ends_emit {writes : ι → List ω} {Q : Unit → Session σ ω → Prop}
    (h : Q () { s with outside := s.outside ++ writes i }) :
    Ends i (emit writes : Callback ι σ ω ε Unit) s Q E := h

lemma ends_input {f : ι → α} (h : Q (f i) s) : Ends i (input f : Callback ι σ ω ε α) s Q E := h

end Rules

lemma transact_cases (dead : ε) (commitFault : ι → Option ε) {x : Callback ι σ ω ε α}
    {i : ι} {d : σ} {Q : α → Session σ ω → Prop} {E : ε → Session σ ω → Prop}
    (h : Ends i x { db := d } Q E) (hQ : ∀ a s, Q a s → s.aborted = false) :
    (∃ a s, Q a s ∧ commitFault i = none ∧
      transact dead commitFault x i d = ⟨.ok a, s.db, s.outside⟩) ∨
      (∃ a s e, Q a s ∧ commitFault i = some e ∧
        transact dead commitFault x i d = ⟨.error e, d, s.outside⟩) ∨
      (∃ e s, E e s ∧ transact dead commitFault x i d = ⟨.error e, d, s.outside⟩) := by
  unfold Ends at h
  unfold transact
  rcases hx : x i { db := d } with ⟨r, s⟩
  rw [hx] at h
  cases r with
  | error e => exact .inr (.inr ⟨e, s, h, rfl⟩)
  | ok a =>
    simp only [hQ a s h, Bool.false_eq_true, if_false]
    cases hc : commitFault i with
    | none => exact .inl ⟨a, s, h, rfl, rfl⟩
    | some e => exact .inr (.inl ⟨a, s, e, h, rfl, rfl⟩)

lemma transact_db_of_error (dead : ε) (commitFault : ι → Option ε) (x : Callback ι σ ω ε α) (i : ι)
    (d : σ) (e : ε) (h : (transact dead commitFault x i d).result = .error e) :
    (transact dead commitFault x i d).db = d := by
  unfold transact at h ⊢
  rcases hx : x i { db := d } with ⟨r, s⟩
  rw [hx] at h
  cases r with
  | error _ => rfl
  | ok a =>
    dsimp only at h ⊢
    split at h
    · rename_i haborted
      rw [if_pos haborted]
    · rename_i haborted
      rw [if_neg haborted]
      cases hc : commitFault i with
      | some _ => rfl
      | none => simp [hc] at h

end Callback

end OnlineBanking.Library
