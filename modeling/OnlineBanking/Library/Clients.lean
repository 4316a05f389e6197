import Mathlib.Data.List.Basic
import OnlineBanking.Library.Interleaving

set_option autoImplicit false

/-! A client of a server. It sends requests when something happens on its side, and goes on with
their answers in whatever order they come; a request may be turned away or lost at any time. -/

namespace OnlineBanking.Library

structure Client (Q C A Ev S : Type) where
  call : Q → C
  react : S → Ev → Option (S × List Q)
  receive : S → Q → Option A → S × List Q

inductive ClientLabel (ι C V Ev : Type)
  | server (l : Label ι C V)
  | event (e : Ev)
  | arrive (k t : ℕ)
  | answer (k : ℕ)
  | lose (k : ℕ)

/-- The requests that the client awaits, each with its thread once it has arrived, and a record of
the answers. -/
structure Connection (ι W E ε C R Q S : Type) where
  server : Config ι W E ε C R
  state : S
  awaited : List (Option ℕ × Q) := []
  answers : List (C × Except ε R) := []

variable {ι W E ε C V R Q Ev S : Type}

def Config.Answered (c : Config ι W E ε C R) (call : C) (r : Except ε R) : Prop :=
  ∃ t, c.threads t = some (call, .done r)

def Config.answer (c : Config ι W E ε C R) (t : ℕ) : Option (Except ε R) :=
  match c.threads t with
  | some (_, .done r) => some r
  | _ => none

namespace Connection

variable (client : Client Q C (Except ε R) Ev S) (handle : C → Prog ι W E ε R) (envStep : V → W → W)
    (admits : C → Bool)

def goOn (s : Connection ι W E ε C R Q S) (k : ℕ) (q : Q) (a : Option (Except ε R)) :
    Connection ι W E ε C R Q S where
  server := s.server
  state := (client.receive s.state q a).1
  awaited := s.awaited.eraseIdx k ++ (client.receive s.state q a).2.map (none, ·)
  answers := s.answers ++ (a.map (client.call q, ·)).toList

def step (s : Connection ι W E ε C R Q S) :
    ClientLabel ι C V Ev → Option (Connection ι W E ε C R Q S)
  | .server l => (Config.step handle envStep s.server l).map fun server => { s with server }
  | .event e => (client.react s.state e).map fun x =>
    { s with state := x.1, awaited := s.awaited ++ x.2.map (none, ·) }
  | .arrive k t =>
    match s.awaited[k]? with
    | some (none, q) =>
      if admits (client.call q) then
        (Config.step handle envStep s.server (.spawn t (client.call q))).map fun server =>
          { s with server, awaited := s.awaited.set k (some t, q) }
      else none
    | _ => none
  | .answer k =>
    match s.awaited[k]? with
    | some (some t, q) => (s.server.answer t).map fun a => s.goOn client k q (some a)
    | _ => none
  | .lose k => s.awaited[k]?.map fun x => s.goOn client k x.2 none

def run : Connection ι W E ε C R Q S → List (ClientLabel ι C V Ev) →
    Option (Connection ι W E ε C R Q S)
  | s, [] => some s
  | s, l :: ls => (step client handle envStep admits s l).bind fun s' => run s' ls

def start (w : W) (state : S) : Connection ι W E ε C R Q S where
  server := Config.init w
  state

end Connection

/-- What the client makes of the answers: `Inv` of its state, and `Awaits` of a request that it
awaits, both of which may speak of the answers that it has been given. -/
structure Client.Keeps (client : Client Q C (Except ε R) Ev S)
    (Inv : List (C × Except ε R) → S → Prop)
    (Awaits : List (C × Except ε R) → S → Q → Prop) : Prop where
  later : ∀ as x s q, Awaits as s q → Awaits (as ++ [x]) s q
  react : ∀ as s e s' qs, Inv as s → client.react s e = some (s', qs) →
    Inv as s' ∧ (∀ q, Awaits as s q → Awaits as s' q) ∧ ∀ q ∈ qs, Awaits as s' q
  answered : ∀ as s q r s' qs, Inv as s → Awaits as s q → client.receive s q (some r) = (s', qs) →
    Inv (as ++ [(client.call q, r)]) s' ∧ (∀ q, Awaits as s q → Awaits as s' q) ∧
      ∀ q' ∈ qs, Awaits (as ++ [(client.call q, r)]) s' q'
  lost : ∀ as s q s' qs, Inv as s → Awaits as s q → client.receive s q none = (s', qs) →
    Inv as s' ∧ (∀ q, Awaits as s q → Awaits as s' q) ∧ ∀ q' ∈ qs, Awaits as s' q'

section Threads

variable {handle : C → Prog ι W E ε R} {envStep : V → W → W}

lemma Config.answer_eq_some {c : Config ι W E ε C R} {t : ℕ} {call : C} {p : Prog ι W E ε R}
    {r : Except ε R} (ht : c.threads t = some (call, p)) (h : c.answer t = some r) :
    c.threads t = some (call, .done r) := by
  rw [Config.answer, ht] at h
  cases p with
  | done r' =>
    obtain rfl := Option.some.inj h
    exact ht
  | act a k => cases h

lemma Config.step_thread {c c' : Config ι W E ε C R} {l : Label ι C V}
    (h : Config.step handle envStep c l = some c') {t : ℕ} {call : C} {p : Prog ι W E ε R}
    (ht : c.threads t = some (call, p)) :
    ∃ p', c'.threads t = some (call, p') ∧ ∀ r, p = .done r → p' = .done r := by
  rcases Config.step_eq_some h with
      ⟨u, call', rfl, hu, rfl⟩ | ⟨u, i, call', β, a, k, rfl, hu, rfl⟩ | ⟨v, rfl, rfl⟩
  · have hne : t ≠ u := by
      rintro rfl
      rw [hu] at ht
      cases ht
    exact ⟨p, by simpa [hne] using ht, fun _ hr => hr⟩
  · by_cases htu : t = u
    · subst htu
      obtain ⟨rfl, rfl⟩ : call' = call ∧ Prog.act a k = p := by simpa [hu] using ht
      exact ⟨k (a i c.shared.world).1, by simp, fun _ hr => by cases hr⟩
    · exact ⟨p, by simpa [htu] using ht, fun _ hr => hr⟩
  · exact ⟨p, ht, fun _ hr => hr⟩

lemma Config.Answered.step {c c' : Config ι W E ε C R} {l : Label ι C V}
    (h : Config.step handle envStep c l = some c') {call : C} {r : Except ε R}
    (ha : c.Answered call r) :
    c'.Answered call r := by
  obtain ⟨t, ht⟩ := ha
  obtain ⟨p', hp', hdone⟩ := Config.step_thread h ht
  exact ⟨t, by rw [hp', hdone r rfl]⟩

end Threads

namespace Connection

variable {client : Client Q C (Except ε R) Ev S} {handle : C → Prog ι W E ε R} {envStep : V → W → W}
    {admits : C → Bool}
variable {Inv : List (C × Except ε R) → S → Prop} {Awaits : List (C × Except ε R) → S → Q → Prop}
variable {s s' : Connection ι W E ε C R Q S}

structure Kept (client : Client Q C (Except ε R) Ev S) (Inv : List (C × Except ε R) → S → Prop)
    (Awaits : List (C × Except ε R) → S → Q → Prop) (s : Connection ι W E ε C R Q S) : Prop where
  inv : Inv s.answers s.state
  awaited : ∀ x ∈ s.awaited, Awaits s.answers s.state x.2
  arrived : ∀ t q, (some t, q) ∈ s.awaited → ∃ p, s.server.threads t = some (client.call q, p)
  answered : ∀ x ∈ s.answers, s.server.Answered x.1 x.2

lemma Kept.served (h : s.Kept client Inv Awaits) {l : Label ι C V} {server : Config ι W E ε C R}
    (hserver : Config.step handle envStep s.server l = some server) :
    ({ s with server } : Connection ι W E ε C R Q S).Kept client Inv Awaits where
  inv := h.inv
  awaited := h.awaited
  arrived t q hq := by
    obtain ⟨p, hp⟩ := h.arrived t q hq
    obtain ⟨p', hp', _⟩ := Config.step_thread hserver hp
    exact ⟨p', hp'⟩
  answered x hx := (h.answered x hx).step hserver

lemma Kept.sends (h : s.Kept client Inv Awaits) {state : S} {qs : List Q}
    (hnew : Inv s.answers state ∧ (∀ q, Awaits s.answers s.state q → Awaits s.answers state q) ∧
      ∀ q ∈ qs, Awaits s.answers state q) {old : List (Option ℕ × Q)} (hold : old ⊆ s.awaited) :
    ({ s with state, awaited := old ++ qs.map (none, ·) } : Connection ι W E ε C R Q S).Kept client
    Inv Awaits where
  inv := hnew.1
  awaited x hx := by
    rcases List.mem_append.mp hx with hx | hx
    · exact hnew.2.1 _ (h.awaited x (hold hx))
    · obtain ⟨q, hq, rfl⟩ := List.mem_map.mp hx
      exact hnew.2.2 q hq
  arrived t q hq := by
    rcases List.mem_append.mp hq with hq | hq
    · exact h.arrived t q (hold hq)
    · obtain ⟨q', _, heq⟩ := List.mem_map.mp hq
      cases heq
  answered := h.answered

lemma Kept.arrive (h : s.Kept client Inv Awaits) {k t : ℕ} {q : Q}
    (hk : s.awaited[k]? = some (none, q)) {server : Config ι W E ε C R}
    (hserver : Config.step handle envStep s.server (.spawn t (client.call q)) = some server) :
    ({ s with server, awaited := s.awaited.set k (some t, q) } : Connection ι W E ε C R Q S).Kept
    client Inv Awaits := by
  have hserved := h.served hserver
  have hq : (none, q) ∈ s.awaited := List.mem_of_getElem? hk
  refine ⟨hserved.inv, fun x hx => ?_, fun u q' hu => ?_, hserved.answered⟩
  · rcases List.mem_or_eq_of_mem_set hx with hx | rfl
    · exact h.awaited x hx
    · exact h.awaited (none, q) hq
  · rcases List.mem_or_eq_of_mem_set hu with hu | heq
    · exact hserved.arrived u q' hu
    · obtain ⟨rfl, rfl⟩ : u = t ∧ q' = q := by simpa using heq
      rcases Config.step_eq_some hserver with
          ⟨_, _, hl, _, rfl⟩ | ⟨_, _, _, _, _, _, hl, _, _⟩ | ⟨_, hl, _⟩
      · cases hl
        exact ⟨handle (client.call q'), by simp⟩
      · cases hl
      · cases hl

lemma Kept.records (hkeeps : client.Keeps Inv Awaits) (h : s.Kept client Inv Awaits)
    {x : C × Except ε R} (hx : s.server.Answered x.1 x.2) {state : S} {qs : List Q}
    (hnew : Inv (s.answers ++ [x]) state ∧
      (∀ q, Awaits s.answers s.state q → Awaits s.answers state q) ∧
      ∀ q ∈ qs, Awaits (s.answers ++ [x]) state q) {old : List (Option ℕ × Q)}
        (hold : old ⊆ s.awaited) :
    ({ s with state, awaited := old ++ qs.map (none, ·), answers := s.answers ++ [x] } :
      Connection ι W E ε C R Q S).Kept client Inv Awaits where
  inv := hnew.1
  awaited y hy := by
    rcases List.mem_append.mp hy with hy | hy
    · exact hkeeps.later _ _ _ _ (hnew.2.1 _ (h.awaited y (hold hy)))
    · obtain ⟨q, hq, rfl⟩ := List.mem_map.mp hy
      exact hnew.2.2 q hq
  arrived t q hq := by
    rcases List.mem_append.mp hq with hq | hq
    · exact h.arrived t q (hold hq)
    · obtain ⟨q', _, heq⟩ := List.mem_map.mp hq
      cases heq
  answered y hy := by
    rcases List.mem_append.mp hy with hy | hy
    · exact h.answered y hy
    · obtain rfl := List.mem_singleton.mp hy
      exact hx

theorem Kept.step (hkeeps : client.Keeps Inv Awaits) (h : s.Kept client Inv Awaits)
    {l : ClientLabel ι C V Ev} (hs : s.step client handle envStep admits l = some s') :
    s'.Kept client Inv Awaits := by
  have herase : ∀ k, s.awaited.eraseIdx k ⊆ s.awaited := fun _ _ hy => List.mem_of_mem_eraseIdx hy
  cases l with
  | server l =>
    obtain ⟨server, hserver, rfl⟩ := Option.map_eq_some_iff.mp hs
    exact h.served hserver
  | event e =>
    obtain ⟨x, hx, rfl⟩ := Option.map_eq_some_iff.mp hs
    exact h.sends (hkeeps.react _ _ e _ _ h.inv hx) fun _ hy => hy
  | arrive k t =>
    simp only [Connection.step] at hs
    split at hs
    · rename_i q hk
      split at hs
      · obtain ⟨server, hserver, rfl⟩ := Option.map_eq_some_iff.mp hs
        exact h.arrive hk hserver
      · cases hs
    · cases hs
  | answer k =>
    simp only [Connection.step] at hs
    split at hs
    · rename_i t q hk
      obtain ⟨a, ha, rfl⟩ := Option.map_eq_some_iff.mp hs
      have hmem := List.mem_of_getElem? hk
      obtain ⟨p, hp⟩ := h.arrived t q hmem
      have hanswered : s.server.Answered (client.call q) a := ⟨t, Config.answer_eq_some hp ha⟩
      exact h.records hkeeps hanswered (hkeeps.answered _ _ q a _ _ h.inv (h.awaited _ hmem) rfl)
        (herase k)
    · cases hs
  | lose k =>
    obtain ⟨x, hx, rfl⟩ := Option.map_eq_some_iff.mp hs
    have hlost := h.sends (hkeeps.lost _ _ x.2 _ _ h.inv (h.awaited x (List.mem_of_getElem? hx))
      rfl) (herase k)
    simpa [goOn] using hlost

theorem run_kept (hkeeps : client.Keeps Inv Awaits) (h : s.Kept client Inv Awaits)
    {ls : List (ClientLabel ι C V Ev)} (hrun : s.run client handle envStep admits ls = some s') :
    s'.Kept client Inv Awaits := by
  induction ls generalizing s with
  | nil =>
    obtain rfl := Option.some.inj hrun
    exact h
  | cons l ls ih =>
    obtain ⟨u, hu, hrun⟩ := Option.bind_eq_some_iff.mp hrun
    exact ih (h.step hkeeps hu) hrun

lemma run_concat (ls : List (ClientLabel ι C V Ev)) (l : ClientLabel ι C V Ev) :
    s.run client handle envStep admits (ls ++ [l]) =
      (s.run client handle envStep admits ls).bind fun u =>
        u.step client handle envStep admits l := by
  induction ls generalizing s with
  | nil =>
    change (s.step client handle envStep admits l).bind some = s.step client handle envStep admits l
    rw [Option.bind_fun_some]
  | cons m ls ih =>
    simp only [List.cons_append, run, Option.bind_assoc]
    exact Option.bind_congr fun u _ => ih

lemma start_kept {w : W} {state : S} (h : Inv [] state) :
    (start w state : Connection ι W E ε C R Q S).Kept client Inv Awaits where
  inv := h
  awaited _ hx := by cases hx
  arrived _ _ hq := by cases hq
  answered _ hx := by cases hx

theorem step_server {l : ClientLabel ι C V Ev}
    (h : s.step client handle envStep admits l = some s') :
    ∃ ms : List (Label ι C V), Config.run handle envStep s.server ms = some s'.server := by
  cases l with
  | server l =>
    obtain ⟨server, hserver, rfl⟩ := Option.map_eq_some_iff.mp h
    exact ⟨[l], Config.run_single hserver⟩
  | event e =>
    obtain ⟨x, _, rfl⟩ := Option.map_eq_some_iff.mp h
    exact ⟨[], rfl⟩
  | arrive k t =>
    simp only [Connection.step] at h
    split at h
    · split at h
      · obtain ⟨server, hserver, rfl⟩ := Option.map_eq_some_iff.mp h
        exact ⟨[_], Config.run_single hserver⟩
      · cases h
    · cases h
  | answer k =>
    simp only [Connection.step] at h
    split at h
    · obtain ⟨a, _, rfl⟩ := Option.map_eq_some_iff.mp h
      exact ⟨[], rfl⟩
    · cases h
  | lose k =>
    obtain ⟨x, _, rfl⟩ := Option.map_eq_some_iff.mp h
    exact ⟨[], rfl⟩

theorem run_server {ls : List (ClientLabel ι C V Ev)}
    (h : s.run client handle envStep admits ls = some s') :
    ∃ ms : List (Label ι C V), Config.run handle envStep s.server ms = some s'.server := by
  induction ls generalizing s with
  | nil =>
    obtain rfl := Option.some.inj h
    exact ⟨[], rfl⟩
  | cons l ls ih =>
    obtain ⟨u, hu, hrun⟩ := Option.bind_eq_some_iff.mp h
    obtain ⟨ms, hms⟩ := step_server hu
    obtain ⟨ns, hns⟩ := ih hrun
    exact ⟨ms ++ ns, by rw [Config.run_after hms, hns]⟩

end Connection

end OnlineBanking.Library
