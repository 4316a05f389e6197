import OnlineBanking.Library.Interleaving

set_option autoImplicit false

/-! A part of a larger system, its programs as programs of the whole, and what is proved of them
there. -/

namespace OnlineBanking.Library

structure Part (ι W E ε ι' W' E' ε' : Type) where
  input : ι' → ι
  get : W' → W
  put : W → W' → W'
  event : E → E'
  ofEvent : E' → Option E
  failure : ε → ε'
  get_put : ∀ v w, get (put v w) = v
  ofEvent_event : ∀ e, ofEvent (event e) = some e

variable {ι W E ε ι' W' E' ε' α : Type}

namespace Part

variable (P : Part ι W E ε ι' W' E' ε')

def shared (s : Shared W' E') : Shared W E :=
  ⟨P.get s.world, s.trace.filterMap fun e => (P.ofEvent e.2).map (e.1, ·)⟩

def action {β : Type} (a : ι → W → β × W × List E) (i : ι') (w : W') : β × W' × List E' :=
  let o := a (P.input i) (P.get w)
  (o.1, P.put o.2.1 w, o.2.2.map P.event)

lemma filterMap_events (t : ℕ) (es : List E) :
    ((es.map P.event).map (t, ·)).filterMap (fun e => (P.ofEvent e.2).map (e.1, ·)) = es.map
    (t, ·) := by
  induction es with
  | nil => rfl
  | cons e es ih =>
    simp only [List.map_cons, List.filterMap_cons, P.ofEvent_event, Option.map_some, ih]

lemma shared_action {β : Type} (a : ι → W → β × W × List E) (i : ι') (t : ℕ) (s : Shared W' E') :
    P.shared (s.after t (P.action a i s.world).2.1 (P.action a i s.world).2.2) =
      (P.shared s).after t (a (P.input i) (P.get s.world)).2.1
        (a (P.input i) (P.get s.world)).2.2 := by
  simp only [shared, Shared.after, action, P.get_put, List.filterMap_append, filterMap_events]

end Part

namespace Prog

variable (P : Part ι W E ε ι' W' E' ε')

def embed : Prog ι W E ε α → Prog ι' W' E' ε' α
  | .done r => .done (r.mapError P.failure)
  | .act a k => .act (P.action a) fun b => embed (k b)

variable {P} {Rely : Shared W E → Shared W E → Prop} {Given : ι → Shared W E → Prop}
variable {Guar : ι → Shared W E → Shared W E → Prop} {t : ℕ}
variable {Q : Except ε α → Shared W E → Prop} {p : Prog ι W E ε α} {s : Shared W' E'}

lemma Safe.embed {Rely' : Shared W' E' → Shared W' E' → Prop}
    {Guar' : ι' → Shared W' E' → Shared W' E' → Prop} {Q' : Except ε' α → Shared W' E' → Prop}
    (hrely : ∀ a b, Rely' a b → Rely (P.shared a) (P.shared b))
    (hguar : ∀ i a (v : W) (es : List E), Guar (P.input i) (P.shared a)
      ((P.shared a).after t v es) →
      Guar' i a (a.after t (P.put v a.world) (es.map P.event)))
    (hQ : ∀ r u, Q r (P.shared u) → Q' (r.mapError P.failure) u)
    (h : p.Safe Rely Given Guar t Q (P.shared s)) :
    (p.embed P).Safe Rely' (fun i u => Given (P.input i) (P.shared u)) Guar' t Q' s := by
  induction p generalizing s with
  | done r => exact fun u hu => hQ r u (h _ (hrely _ _ hu))
  | act a k ih =>
    intro u hu i hi
    obtain ⟨hg, hk⟩ := h _ (hrely _ _ hu) (P.input i) hi
    refine ⟨hguar i u _ _ hg, ih _ ?_⟩
    rw [P.shared_action]
    exact hk

lemma safe_embed_atomic {Rely : Shared W' E' → Shared W' E' → Prop}
    {Given : ι' → Shared W' E' → Prop} {Guar : ι' → Shared W' E' → Shared W' E' → Prop}
    {Q : Except ε' α → Shared W' E' → Prop} {a : ι → W → Except ε α × W × List E}
    (h : ∀ u, Rely s u → ∀ i, Given i u →
      Guar i u (u.after t (P.action a i u.world).2.1 (P.action a i u.world).2.2) ∧
        ∀ v, Rely (u.after t (P.action a i u.world).2.1 (P.action a i u.world).2.2) v →
          Q ((P.action a i u.world).1.mapError P.failure) v) :
    ((atomic a).embed P).Safe Rely Given Guar t Q s := h

end Prog

end OnlineBanking.Library
