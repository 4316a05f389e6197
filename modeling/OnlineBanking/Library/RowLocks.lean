import OnlineBanking.Library.Interleaving
import Mathlib.Data.Option.Basic

set_option autoImplicit false

/-! Transactions that lock each row before they read or write it and keep their locks to their end,
run side by side statement by statement. Such a run is one in which every transaction takes place at
once. -/

namespace OnlineBanking.Library

abbrev Store {κ : Type} (V : κ → Type) : Type := ∀ k, V k

inductive Txn (κ : Type) (V : κ → Type) (ε α : Type) : Type
  | done (r : Except ε α)
  | row (k : κ) (write : V k → V k) (next : V k → Txn κ V ε α)

inductive Job (ι κ : Type) (V : κ → Type) (ε β α : Type) : Type
  | done (r : Except ε α)
  | look (f : ι → Store V → Job ι κ V ε β α)
  | transact (p : ι → Txn κ V ε β) (next : Except ε β → Job ι κ V ε β α)

variable {ι κ ε α β C : Type} {V : κ → Type} [DecidableEq κ]

namespace Txn

def exec : Txn κ V ε α → Store V → Except ε α × Store V
  | done r, σ => (r, σ)
  | row k write next, σ => (next (σ k)).exec (Function.update σ k (write (σ k)))

def serial (i : Except ε ι) (p : ι → Txn κ V ε α) (σ : Store V) : Except ε α × Store V :=
  match i with
  | .error e => (.error e, σ)
  | .ok i =>
    match (p i).exec σ with
    | (.ok a, σ') => (.ok a, σ')
    | (.error e, _) => (.error e, σ)

lemma serial_of_ok {p : ι → Txn κ V ε α} {i : ι} {σ σ' : Store V} {a : α}
    (h : (p i).exec σ = (.ok a, σ')) :
    serial (.ok i) p σ = (.ok a, σ') := by
  simp only [serial, h]

lemma serial_of_error {p : ι → Txn κ V ε α} {i : ι} {σ σ' : Store V} {e : ε}
    (h : (p i).exec σ = (.error e, σ')) :
    serial (.ok i) p σ = (.error e, σ) := by
  simp only [serial, h]

lemma serial_cases (i : Except ε ι) (p : ι → Txn κ V ε α) (σ : Store V) :
    (∃ e, serial i p σ = (.error e, σ)) ∨
      ∃ j a σ', i = .ok j ∧ (p j).exec σ = (.ok a, σ') ∧ serial i p σ = (.ok a, σ') := by
  cases i with
  | error e => exact .inl ⟨e, rfl⟩
  | ok j =>
    rcases h : (p j).exec σ with ⟨r, σ'⟩
    cases r with
    | error e => exact .inl ⟨e, serial_of_error h⟩
    | ok a => exact .inr ⟨j, a, σ', rfl, h, serial_of_ok h⟩

end Txn

/-- What a transaction has written and nobody else sees. A row that it has only read stands here as
well. -/
abbrev Writes {κ : Type} (V : κ → Type) : Type := ∀ k, Option (V k)

def Writes.overlay {κ : Type} {V : κ → Type} (ws : Writes V) (σ : Store V) : Store V :=
  fun k => (ws k).getD (σ k)

lemma Writes.overlay_update (ws : Writes V) (σ : Store V) (k : κ) (v : V k) :
    Writes.overlay (Function.update ws k (some v)) σ = Function.update (ws.overlay σ) k v := by
  funext j
  by_cases hj : j = k
  · subst hj
    simp [Writes.overlay]
  · simp [Writes.overlay, Function.update_of_ne hj]

lemma Writes.overlay_of_none {κ : Type} {V : κ → Type} {ws : Writes V} {σ : Store V} {k : κ}
    (h : ws k = none) :
    ws.overlay σ k = σ k := by
  simp [Writes.overlay, h]

structure Attempt (ι κ : Type) (V : κ → Type) (ε β α : Type) where
  body : ι → Txn κ V ε β
  input : ι
  rest : Txn κ V ε β
  writes : Writes V
  next : Except ε β → Job ι κ V ε β α

inductive Task (ι κ : Type) (V : κ → Type) (ε β α : Type)
  | idle (j : Job ι κ V ε β α)
  | inside (x : Attempt ι κ V ε β α)

structure RowServer (ι κ : Type) (V : κ → Type) (ε β α C : Type) where
  store : Store V
  locks : κ → Option ℕ
  tasks : ℕ → Option (C × Task ι κ V ε β α)

/-- The server may end a transaction at any time with an error: to break a deadlock, after a timeout
or where a connection is lost. -/
inductive RowLabel (ι ε C : Type)
  | spawn (t : ℕ) (call : C)
  | act (t : ℕ) (i : ι)
  | abort (t : ℕ) (e : ε)

namespace RowServer

def init (σ : Store V) : RowServer ι κ V ε β α C := ⟨σ, fun _ => none, fun _ => none⟩

def release (t : ℕ) (locks : κ → Option ℕ) : κ → Option ℕ :=
  fun k => if locks k = some t then none else locks k

variable (handle : C → Job ι κ V ε β α)

def step (s : RowServer ι κ V ε β α C) : RowLabel ι ε C → Option (RowServer ι κ V ε β α C)
  | .spawn t call =>
    match s.tasks t with
    | none => some { s with tasks := Function.update s.tasks t (some (call, .idle (handle call))) }
    | some _ => none
  | .act t i =>
    match s.tasks t with
    | some (call, .idle (.look f)) =>
      some { s with tasks := Function.update s.tasks t (some (call, .idle (f i s.store))) }
    | some (call, .idle (.transact p next)) =>
      some { s with
        tasks := Function.update s.tasks t (some (call, .inside ⟨p, i, p i, fun _ => none, next⟩)) }
    | some (call, .inside ⟨p, j, .row k write next', ws, next⟩) =>
      if s.locks k = none ∨ s.locks k = some t then
        let v := ws.overlay s.store k
        some { s with
          locks := Function.update s.locks k (some t)
          tasks := Function.update s.tasks t
            (some (call, .inside ⟨p, j, next' v, Function.update ws k (some (write v)), next⟩)) }
      else none
    | some (call, .inside ⟨_, _, .done (.ok b), ws, next⟩) =>
      some {
        store := ws.overlay s.store
        locks := release t s.locks
        tasks := Function.update s.tasks t (some (call, .idle (next (.ok b)))) }
    | some (call, .inside ⟨_, _, .done (.error e), _, next⟩) =>
      some { s with
        locks := release t s.locks
        tasks := Function.update s.tasks t (some (call, .idle (next (.error e)))) }
    | _ => none
  | .abort t e =>
    match s.tasks t with
    | some (call, .inside x) =>
      some { s with
        locks := release t s.locks
        tasks := Function.update s.tasks t (some (call, .idle (x.next (.error e)))) }
    | _ => none

def run : RowServer ι κ V ε β α C → List (RowLabel ι ε C) → Option (RowServer ι κ V ε β α C)
  | s, [] => some s
  | s, l :: ls => (s.step handle l).bind fun s' => s'.run ls

end RowServer

def Prog.given {W E : Type} (i : Except ε ι) (k : ι → Prog (Except ε ι) W E ε α) :
    Prog (Except ε ι) W E ε α :=
  match i with
  | .ok i => k i
  | .error e => .done (.error e)

/-- The request with each of its transactions as one action, which logs the answer of the
transaction. -/
def Job.prog : Job ι κ V ε β α → Prog (Except ε ι) (Store V) β ε α
  | .done r => .done r
  | .look f => .act (fun i σ => ((i, σ), σ, [])) fun x => Prog.given x.1 fun i => (f i x.2).prog
  | .transact p next => .act (fun i σ =>
      ((Txn.serial i p σ).1, (Txn.serial i p σ).2, (Txn.serial i p σ).1.toOption.toList)) fun r =>
        (next r).prog

def Task.prog : Task ι κ V ε β α → Prog (Except ε ι) (Store V) β ε α
  | .idle j => j.prog
  | .inside x => (Job.transact x.body x.next).prog

/-- What the attempt has come to is what its body comes to on any store with the rows that it has
locked. -/
structure Attempt.Stands (x : Attempt ι κ V ε β α) (t : ℕ) (σ : Store V)
    (locks : κ → Option ℕ) : Prop where
  locked : ∀ k, x.writes k ≠ none → locks k = some t
  replays : ∀ σ', (∀ k, x.writes k ≠ none → σ' k = σ k) →
    (x.body x.input).exec σ' = x.rest.exec (x.writes.overlay σ')

section Attempts

variable {t : ℕ} {σ σ' : Store V} {locks locks' : κ → Option ℕ}

lemma Attempt.stands_start (p : ι → Txn κ V ε β) (i : ι) (next : Except ε β → Job ι κ V ε β α) :
    Attempt.Stands ⟨p, i, p i, fun _ => none, next⟩ t σ locks where
  locked _ h := absurd rfl h
  replays _ _ := rfl

lemma Attempt.Stands.elsewhere {x : Attempt ι κ V ε β α} (h : x.Stands t σ locks)
    (hlocks : ∀ k, locks k = some t → locks' k = some t)
    (hrows : ∀ k, locks k = some t → σ' k = σ k) :
    x.Stands t σ' locks' where
  locked k hk := hlocks k (h.locked k hk)
  replays τ hτ := h.replays τ fun k hk => (hτ k hk).trans (hrows k (h.locked k hk))

lemma Attempt.Stands.row {p : ι → Txn κ V ε β} {i : ι} {k : κ} {write : V k → V k}
    {next' : V k → Txn κ V ε β} {ws : Writes V} {next : Except ε β → Job ι κ V ε β α}
    (h : Attempt.Stands ⟨p, i, .row k write next', ws, next⟩ t σ locks) :
    Attempt.Stands ⟨p, i, next' (ws.overlay σ k),
      Function.update ws k (some (write (ws.overlay σ k))), next⟩ t σ
      (Function.update locks k (some t)) where
  locked j hj := by
    by_cases hjk : j = k
    · rw [hjk, Function.update_self]
    · rw [Function.update_of_ne hjk]
      exact h.locked j (by simpa only [Function.update_of_ne hjk] using hj)
  replays τ hτ := by
    have hsame : ∀ j, ws j ≠ none → τ j = σ j := fun j hj => by
      refine hτ j ?_
      by_cases hjk : j = k
      · subst hjk
        simp
      · simpa only [ne_eq, Function.update_of_ne hjk] using hj
    have hread : ws.overlay τ k = ws.overlay σ k := by
      have hk : τ k = σ k := hτ k (by simp)
      rw [Writes.overlay, Writes.overlay, hk]
    rw [h.replays τ hsame, Txn.exec, Writes.overlay_update, hread]

lemma Attempt.Stands.exec {x : Attempt ι κ V ε β α} (h : x.Stands t σ locks) :
    (x.body x.input).exec σ = x.rest.exec (x.writes.overlay σ) := h.replays σ fun _ _ => rfl

omit [DecidableEq κ] in
lemma RowServer.release_of_ne {t u : ℕ} {k : κ} (hu : u ≠ t) (h : locks k = some u) :
    release t locks k = some u := by
  rw [release, if_neg, h]
  rw [h]
  exact fun hut => hu (Option.some.inj hut)

end Attempts

namespace RowServer

variable {handle : C → Job ι κ V ε β α} {s s' : RowServer ι κ V ε β α C} {l : RowLabel ι ε C}

inductive Steps (handle : C → Job ι κ V ε β α) (s : RowServer ι κ V ε β α C) :
    RowServer ι κ V ε β α C → Prop
  | spawn (t : ℕ) (call : C) (fresh : s.tasks t = none) :
    Steps handle s { s with tasks := Function.update s.tasks t (some (call, .idle (handle call))) }
  | look (t : ℕ) (call : C) (i : ι) (f : ι → Store V → Job ι κ V ε β α)
    (task : s.tasks t = some (call, .idle (.look f))) :
    Steps handle s { s with tasks := Function.update s.tasks t (some (call, .idle (f i s.store))) }
  | begins (t : ℕ) (call : C) (i : ι) (p : ι → Txn κ V ε β) (next : Except ε β → Job ι κ V ε β α)
      (task : s.tasks t = some (call, .idle (.transact p next))) :
    Steps handle s
      { s with
        tasks := Function.update s.tasks t (some (call, .inside ⟨p, i, p i, fun _ => none, next⟩)) }
  | row (t : ℕ) (call : C) (p : ι → Txn κ V ε β) (i : ι) (k : κ) (write : V k → V k)
      (next' : V k → Txn κ V ε β)
      (ws : Writes V) (next : Except ε β → Job ι κ V ε β α)
      (task : s.tasks t = some (call, .inside ⟨p, i, .row k write next', ws, next⟩))
      (free : s.locks k = none ∨ s.locks k = some t) :
    Steps handle s { s with
      locks := Function.update s.locks k (some t)
      tasks := Function.update s.tasks t (some (call, .inside
        ⟨p, i, next' (ws.overlay s.store k),
          Function.update ws k (some (write (ws.overlay s.store k))), next⟩)) }
  | commits (t : ℕ) (call : C) (p : ι → Txn κ V ε β) (i : ι) (b : β) (ws : Writes V)
      (next : Except ε β → Job ι κ V ε β α)
      (task : s.tasks t = some (call, .inside ⟨p, i, .done (.ok b), ws, next⟩)) :
    Steps handle s {
      store := ws.overlay s.store
      locks := release t s.locks
      tasks := Function.update s.tasks t (some (call, .idle (next (.ok b)))) }
  | throws (t : ℕ) (call : C) (p : ι → Txn κ V ε β) (i : ι) (e : ε) (ws : Writes V)
      (next : Except ε β → Job ι κ V ε β α)
      (task : s.tasks t = some (call, .inside ⟨p, i, .done (.error e), ws, next⟩)) :
    Steps handle s { s with
      locks := release t s.locks
      tasks := Function.update s.tasks t (some (call, .idle (next (.error e)))) }
  | aborted (t : ℕ) (call : C) (x : Attempt ι κ V ε β α) (e : ε)
    (task : s.tasks t = some (call, .inside x)) :
    Steps handle s { s with
      locks := release t s.locks
      tasks := Function.update s.tasks t (some (call, .idle (x.next (.error e)))) }

lemma step_cases (h : s.step handle l = some s') : s.Steps handle s' := by
  unfold step at h
  split at h
  · split at h
    · obtain rfl := Option.some.inj h
      exact .spawn _ _ ‹_›
    · cases h
  · split at h
    · obtain rfl := Option.some.inj h
      exact .look _ _ _ _ ‹_›
    · obtain rfl := Option.some.inj h
      exact .begins _ _ _ _ _ ‹_›
    · split at h
      · rename_i hfree
        obtain rfl := Option.some.inj h
        exact .row _ _ _ _ _ _ _ _ _ ‹_› hfree
      · cases h
    · obtain rfl := Option.some.inj h
      exact .commits _ _ _ _ _ _ _ ‹_›
    · obtain rfl := Option.some.inj h
      exact .throws _ _ _ _ _ _ _ ‹_›
    · cases h
  · split at h
    · obtain rfl := Option.some.inj h
      exact .aborted _ _ _ _ ‹_›
    · cases h

lemma Steps.answered (h : s.Steps handle s') {t : ℕ} {call : C} {r : Except ε α}
    (ht : s.tasks t = some (call, .idle (.done r))) :
    s'.tasks t = some (call, .idle (.done r)) := by
  have hother : ∀ {u : ℕ} {x : C × Task ι κ V ε β α}, s.tasks u ≠ some (call, .idle (.done r)) →
      Function.update s.tasks u (some x) t = some (call, .idle (.done r)) := by
    intro u x hu
    refine (Function.update_of_ne ?_ _ _).trans ht
    rintro rfl
    exact hu ht
  cases h with
  | spawn u _ fresh => exact hother (by simp [fresh])
  | look u _ _ _ task => exact hother (by simp [task])
  | begins u _ _ _ _ task => exact hother (by simp [task])
  | row u _ _ _ _ _ _ _ _ task _ => exact hother (by simp [task])
  | commits u _ _ _ _ _ _ task => exact hother (by simp [task])
  | throws u _ _ _ _ _ _ task => exact hother (by simp [task])
  | aborted u _ _ _ task => exact hother (by simp [task])

lemma run_answered {ls : List (RowLabel ι ε C)} (h : s.run handle ls = some s') {t : ℕ} {call : C}
    {r : Except ε α} (ht : s.tasks t = some (call, .idle (.done r))) :
    s'.tasks t = some (call, .idle (.done r)) := by
  induction ls generalizing s with
  | nil => exact Option.some.inj h ▸ ht
  | cons l ls ih =>
    obtain ⟨d, hd, hrun⟩ := Option.bind_eq_some_iff.mp h
    exact ih hrun ((step_cases hd).answered ht)

lemma run_append {ls ms : List (RowLabel ι ε C)} :
    s.run handle (ls ++ ms) = (s.run handle ls).bind fun d => d.run handle ms := by
  induction ls generalizing s with
  | nil => rfl
  | cons l ls ih =>
    simp only [List.cons_append, run]
    cases s.step handle l with
    | none => rfl
    | some d => exact ih

end RowServer

section Serial

open Config

variable (handle : C → Job ι κ V ε β α)

abbrev SerialConfig (ι κ : Type) (V : κ → Type) (ε β α C : Type) : Type 1 :=
  Config (Except ε ι) (Store V) β ε C α

def serialRun (d : SerialConfig ι κ V ε β α C) (ms : List (Label (Except ε ι) C Empty)) :
    Option (SerialConfig ι κ V ε β α C) :=
  Config.run (fun call => (handle call).prog) (fun v _ => v.elim) d ms

structure RowServer.Matches (s : RowServer ι κ V ε β α C)
    (d : SerialConfig ι κ V ε β α C) : Prop where
  store : d.shared.world = s.store
  threads : d.threads = fun t => (s.tasks t).map fun x => (x.1, x.2.prog)
  stands : ∀ t call x, s.tasks t = some (call, .inside x) → x.Stands t s.store s.locks

variable {handle} {s s' : RowServer ι κ V ε β α C} {d : SerialConfig ι κ V ε β α C}

lemma RowServer.map_update (tasks : ℕ → Option (C × Task ι κ V ε β α)) (t : ℕ) (call : C)
    (x : Task ι κ V ε β α) :
    (fun u => (Function.update tasks t (some (call, x)) u).map fun y => (y.1, y.2.prog)) =
      Function.update (fun u => (tasks u).map fun y => (y.1, y.2.prog)) t
        (some (call, x.prog)) := by
  funext u
  by_cases hu : u = t
  · subst hu
    simp
  · simp [Function.update_of_ne hu]

lemma RowServer.Matches.stands_update (h : s.Matches d) {t : ℕ} {call : C} {task : Task ι κ V ε β α}
    {σ : Store V} {locks : κ → Option ℕ}
    (hlocks : ∀ u k, u ≠ t → s.locks k = some u → locks k = some u ∧ σ k = s.store k)
    (hown : ∀ x, task = .inside x → x.Stands t σ locks) : ∀ u call' x,
      Function.update s.tasks t (some (call, task)) u = some (call', .inside x) →
        x.Stands u σ locks := by
  intro u call' x hu
  by_cases hut : u = t
  · subst hut
    rw [Function.update_self] at hu
    exact hown x (congrArg Prod.snd (Option.some.inj hu))
  · rw [Function.update_of_ne hut] at hu
    exact (h.stands u call' x hu).elsewhere (fun k hk => (hlocks u k hut hk).1) fun k hk =>
      (hlocks u k hut hk).2

lemma RowServer.Matches.stutter (h : s.Matches d) {t : ℕ} {call : C} {task task' : Task ι κ V ε β α}
    {locks : κ → Option ℕ} (ht : s.tasks t = some (call, task)) (hprog : task'.prog = task.prog)
    (hlocks : ∀ u k, u ≠ t → s.locks k = some u → locks k = some u)
    (hown : ∀ x, task' = .inside x → x.Stands t s.store locks) :
    RowServer.Matches { s with
      locks, tasks := Function.update s.tasks t (some (call, task')) } d where
  store := h.store
  threads := by
    rw [RowServer.map_update, hprog, h.threads]
    refine (Function.update_eq_self_iff.mpr ?_).symm
    simp [ht]
  stands := h.stands_update (fun u k hut hk => ⟨hlocks u k hut hk, rfl⟩) hown

lemma RowServer.Matches.acts (h : s.Matches d) {t : ℕ} {call : C}
    {task task' : Task ι κ V ε β α} {γ : Type} {a : Except ε ι → Store V → γ × Store V × List β}
    {k : γ → Prog (Except ε ι) (Store V) β ε α} {i : Except ε ι} {r : γ} {σ : Store V} {es : List β}
    {locks : κ → Option ℕ} (ht : s.tasks t = some (call, task)) (hprog : task.prog = .act a k)
    (hact : a i s.store = (r, σ, es)) (hprog' : task'.prog = k r)
    (hothers : ∀ u j, u ≠ t → s.locks j = some u → locks j = some u ∧ σ j = s.store j)
    (hown : ∀ x, task' = .inside x → x.Stands t σ locks) :
    ∃ d', serialRun handle d [.act t i] = some d' ∧
      RowServer.Matches
        { store := σ, locks, tasks := Function.update s.tasks t (some (call, task')) } d' := by
  have hthread : d.threads t = some (call, .act a k) := by
    simp only [h.threads, ht, Option.map_some, hprog]
  refine ⟨⟨d.shared.after t σ es, Function.update d.threads t (some (call, task'.prog))⟩, ?_,
    ⟨rfl, ?_, h.stands_update hothers hown⟩⟩
  · refine Config.run_single ?_
    simp only [Config.step, hthread, h.store, hact, hprog']
  · rw [RowServer.map_update, h.threads]

lemma RowServer.Matches.returns (h : s.Matches d) {t : ℕ} {call : C} {p : ι → Txn κ V ε β}
    {task : Task ι κ V ε β α} {next : Except ε β → Job ι κ V ε β α} {i : Except ε ι}
    {r : Except ε β} {σ : Store V} (ht : s.tasks t = some (call, task))
    (hprog : task.prog = (Job.transact p next).prog) (hserial : Txn.serial i p s.store = (r, σ))
    (hrows : ∀ u k, u ≠ t → s.locks k = some u → σ k = s.store k) :
    ∃ d', serialRun handle d [.act t i] = some d' ∧ RowServer.Matches {
      store := σ
      locks := release t s.locks
      tasks := Function.update s.tasks t (some (call, .idle (next r))) } d' := by
  have hact : ((Txn.serial i p s.store).1, (Txn.serial i p s.store).2,
      (Txn.serial i p s.store).1.toOption.toList) =
      (r, σ, r.toOption.toList) := by rw [hserial]
  have hown : ∀ x, Task.idle (next r) = .inside x → x.Stands t σ (release t s.locks) :=
    fun _ hx => by cases hx
  exact h.acts (i := i) ht hprog hact rfl (fun u k hut hk =>
    ⟨release_of_ne hut hk, hrows u k hut hk⟩) hown

lemma RowServer.Matches.step (h : s.Matches d) (hs : s.Steps handle s') :
    ∃ ms d', serialRun handle d ms = some d' ∧ s'.Matches d' := by
  cases hs with
  | spawn t call fresh =>
    have hnone : d.threads t = none := by
      simp only [h.threads, fresh, Option.map_none]
    refine ⟨[.spawn t call], ⟨d.shared,
      Function.update d.threads t (some (call, (handle call).prog))⟩, ?_, ?_⟩
    · refine Config.run_single ?_
      simp only [Config.step, hnone]
    · refine ⟨h.store, ?_, h.stands_update (fun u k _ hk => ⟨hk, rfl⟩) fun x hx => by cases hx⟩
      rw [RowServer.map_update, h.threads]
      rfl
  | look t call i f task =>
    have hown : ∀ x, Task.idle (f i s.store) = .inside x → x.Stands t s.store s.locks :=
      fun _ hx => by cases hx
    exact ⟨[.act t (.ok i)], h.acts task rfl rfl rfl (fun _ _ _ hk => ⟨hk, rfl⟩) hown⟩
  | begins t call i p next task =>
    have hown : ∀ x, Task.inside ⟨p, i, p i, fun _ => none, next⟩ = .inside x →
        x.Stands t s.store s.locks := by
      rintro x hx
      obtain rfl := Task.inside.inj hx
      exact Attempt.stands_start p i next
    exact ⟨[], d, rfl, h.stutter task rfl (fun _ _ _ hk => hk) hown⟩
  | row t call p i k write next' ws next task free =>
    refine ⟨[], d, rfl, h.stutter task rfl (fun u j hut hj => ?_) fun x hx => ?_⟩
    · refine (Function.update_of_ne ?_ _ _).trans hj
      rintro rfl
      rcases free with hfree | hfree
      · rw [hfree] at hj
        cases hj
      · exact hut (Option.some.inj (hj.symm.trans hfree))
    · cases hx
      exact (h.stands t call _ task).row
  | commits t call p i b ws next task =>
    have hstands := h.stands t call _ task
    refine ⟨[.act t (.ok i)], h.returns task rfl (Txn.serial_of_ok hstands.exec)
      fun u k hut hk => ?_⟩
    refine Writes.overlay_of_none (by_contra fun hw => hut ?_)
    exact Option.some.inj (hk.symm.trans (hstands.locked k hw))
  | throws t call p i e ws next task =>
    have hserial := Txn.serial_of_error (h.stands t call _ task).exec
    exact ⟨[.act t (.ok i)], h.returns task rfl hserial fun _ _ _ _ => rfl⟩
  | aborted t call x e task =>
    exact ⟨[.act t (.error e)], h.returns task rfl rfl fun _ _ _ _ => rfl⟩

theorem serialized {σ : Store V} {ls : List (RowLabel ι ε C)}
    (h : (RowServer.init σ).run handle ls = some s) :
    ∃ ms d, serialRun handle (Config.init σ) ms = some d ∧ s.Matches d := by
  have hfrom : ∀ (s₀ : RowServer ι κ V ε β α C) (ls : List (RowLabel ι ε C))
      (d₀ : SerialConfig ι κ V ε β α C),
      s₀.Matches d₀ → s₀.run handle ls = some s → ∃ ms d, serialRun handle d₀ ms = some d ∧
        s.Matches d := by
    intro s₀ ls d₀ hmatches hrun
    induction ls generalizing s₀ d₀ with
    | nil =>
      obtain rfl := Option.some.inj hrun
      exact ⟨[], d₀, rfl, hmatches⟩
    | cons l ls ih =>
      obtain ⟨s₁, hs₁, hrun⟩ := Option.bind_eq_some_iff.mp hrun
      obtain ⟨ms, d₁, hd₁, hmatches₁⟩ := hmatches.step (RowServer.step_cases hs₁)
      obtain ⟨ns, d, hd, hmatches'⟩ := ih s₁ d₁ hmatches₁ hrun
      exact ⟨ms ++ ns, d, (Config.run_after hd₁).trans hd, hmatches'⟩
  exact hfrom _ ls _ ⟨rfl, rfl, fun t call x ht => by cases ht⟩ h

end Serial

section Rules

variable {Rely : Shared (Store V) β → Shared (Store V) β → Prop}
    {Given : Except ε ι → Shared (Store V) β → Prop}
variable {Guar : Except ε ι → Shared (Store V) β → Shared (Store V) β → Prop}
variable {t : ℕ} {Q : Except ε α → Shared (Store V) β → Prop} {s : Shared (Store V) β}

omit [DecidableEq κ] in
lemma Shared.after_self (t : ℕ) (s : Shared (Store V) β) : s.after t s.world [] = s := by
  simp [Shared.after]

lemma Job.safe_look {f : ι → Store V → Job ι κ V ε β α} (hguar : ∀ i u, Rely s u → Guar i u u)
    (hok : ∀ i u, Rely s u → (f i u.world).prog.Safe Rely Given Guar t Q u)
    (herror : ∀ e u v, Rely s u → Rely u v → Q (.error e) v) :
    (Job.look f).prog.Safe Rely Given Guar t Q s := by
  intro u hu i _
  rw [Shared.after_self]
  refine ⟨hguar i u hu, ?_⟩
  cases i with
  | ok i => exact hok i u hu
  | error e => exact fun v hv => herror e u v hu hv

lemma Job.safe_transact {p : ι → Txn κ V ε β} {next : Except ε β → Job ι κ V ε β α}
    (hguar : ∀ i u, Rely s u → Guar i u u)
    (herror : ∀ e u, Rely s u → (next (.error e)).prog.Safe Rely Given Guar t Q u)
    (hok : ∀ i u b σ, Rely s u → (p i).exec u.world = (.ok b, σ) →
      Guar (.ok i) u (u.after t σ [b]) ∧
          (next (.ok b)).prog.Safe Rely Given Guar t Q (u.after t σ [b])) :
    (Job.transact p next).prog.Safe Rely Given Guar t Q s := by
  intro u hu i _
  rcases Txn.serial_cases i p u.world with ⟨e, he⟩ | ⟨j, b, σ, rfl, hexec, hserial⟩
  · dsimp only
    rw [he]
    have hsame : u.after t u.world (Except.error e : Except ε β).toOption.toList = u :=
      Shared.after_self t u
    rw [hsame]
    exact ⟨hguar i u hu, herror e u hu⟩
  · dsimp only
    rw [hserial]
    exact hok j u b σ hu hexec

end Rules

end OnlineBanking.Library
