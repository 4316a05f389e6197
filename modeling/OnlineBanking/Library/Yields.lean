import OnlineBanking.Library.Interleaving

set_option autoImplicit false

/-! What the result of a program tells, whatever the other threads do between its actions. -/

namespace OnlineBanking.Library.Prog

variable {ι W E ε α β : Type} {Rely : Shared W E → Shared W E → Prop}
    {Guar : ι → Shared W E → Shared W E → Prop}
variable {t : ℕ} {s : Shared W E}

def Yields (Rely : Shared W E → Shared W E → Prop) (Guar : ι → Shared W E → Shared W E → Prop)
    (t : ℕ) (x : Prog ι W E ε α) (s : Shared W E) (Q : α → Shared W E → Prop) : Prop :=
  x.Safe Rely (fun _ _ => True) Guar t (fun r u => ∀ a, r = .ok a → Q a u) s

variable {Q : α → Shared W E → Prop} {R : β → Shared W E → Prop} {x : Prog ι W E ε α}

lemma yields_pure {a : α} (h : ∀ u, Rely s u → Q a u) :
    Yields Rely Guar t (pure a : Prog ι W E ε α) s Q :=
  safe_pure fun u hu _ hr => Except.ok.inj hr ▸ h u hu

lemma yields_throw {e : ε} : Yields Rely Guar t (throw e : Prog ι W E ε α) s Q :=
  safe_throw fun _ _ _ hr => by cases hr

lemma yields_bind (hrefl : ∀ a, Rely a a) {f : α → Prog ι W E ε β}
    (h : Yields Rely Guar t x s fun a u => Yields Rely Guar t (f a) u R) :
    Yields Rely Guar t (x >>= f) s R := by
  refine safe_bind hrefl (Safe.mono h fun r u hr => ?_)
  cases r with
  | ok a => exact hr a rfl
  | error e => exact fun _ _ _ ha => by cases ha

lemma yields_atomic {f : ι → W → Except ε α × W × List E}
    (h : ∀ u, Rely s u → ∀ i, Guar i u (u.after t (f i u.world).2.1 (f i u.world).2.2) ∧
      ∀ v, Rely (u.after t (f i u.world).2.1 (f i u.world).2.2) v →
          ∀ a, (f i u.world).1 = .ok a → Q a v) :
    Yields Rely Guar t (atomic f) s Q :=
  safe_atomic fun u hu i _ => h u hu i

lemma yields_any (hG : ∀ i a b, Guar i a b) (hQ : ∀ a u, Q a u) : Yields Rely Guar t x s Q :=
  Safe.of_true hG fun _ u a _ => hQ a u

lemma Yields.since {T : Shared W E → Shared W E → Prop} (htrans : ∀ a b c, T a b → T b c → T a c)
    (hrely : ∀ a b, Rely a b → T a b) (hguar : ∀ i a b, Guar i a b → T a b)
    (h : Yields Rely Guar t x s Q) :
    Yields Rely Guar t x s fun a u => Q a u ∧ T s u := by
  have hsince : ∀ {P : Except ε α → Shared W E → Prop} (p : Prog ι W E ε α) (s : Shared W E),
      p.Safe Rely (fun _ _ => True) Guar t P s →
        p.Safe Rely (fun _ _ => True) Guar t (fun r u => P r u ∧ T s u) s := by
    intro P p
    induction p with
    | done r => exact fun s hp u hu => ⟨hp u hu, hrely s u hu⟩
    | act a k ih =>
      intro s hp u hu i hi
      obtain ⟨hg, hk⟩ := hp u hu i hi
      refine ⟨hg, (ih _ _ hk).mono fun r v hv =>
        ⟨hv.1, htrans _ _ _ (hrely s u hu) (htrans _ _ _ (hguar i _ _ hg) hv.2)⟩⟩
  exact (hsince x s h).mono fun r u hu a ha => ⟨hu.1 a ha, hu.2⟩

end OnlineBanking.Library.Prog
