import OnlineBanking.Library.Plays
import OnlineBanking.Library.Stages

set_option autoImplicit false

/-! A reader that the other parties overtake between its reads. -/

namespace OnlineBanking.Library

variable {ι W E ε C R V κ η : Type}

namespace Config

variable {handle : C → Prog ι W E ε R} {envStep : V → W → W} {c c' : Config ι W E ε C R}

variable (handle envStep) in
/-- Each read with its input and the configuration it falls in; the schedule before it is what the
others do. -/
def readings : Config ι W E ε C R → List (List (Label ι C V) × κ) →
    Option (List (κ × Config ι W E ε C R))
  | _, [] => some []
  | c, (ls, i) :: reads =>
    (run handle envStep c ls).bind fun d => (readings d reads).map ((i, d) :: ·)

def schedule (reads : List (List (Label ι C V) × κ)) : List (Label ι C V) :=
  (reads.map Prod.fst).flatten

lemma readings_run {reads : List (List (Label ι C V) × κ)} {found : List (κ × Config ι W E ε C R)}
    (h : readings handle envStep c reads = some found) :
    ∃ d, run handle envStep c (schedule reads) = some d ∧
      ∀ x ∈ found, ∃ ls ms, run handle envStep c ls = some x.2 ∧
        run handle envStep x.2 ms = some d := by
  induction reads generalizing c found with
  | nil =>
    obtain rfl := Option.some.inj h
    exact ⟨c, rfl, by simp⟩
  | cons read reads ih =>
    obtain ⟨d, hd, h⟩ := Option.bind_eq_some_iff.mp h
    obtain ⟨later, hlater, rfl⟩ := Option.map_eq_some_iff.mp h
    obtain ⟨e, he, hfound⟩ := ih hlater
    refine ⟨e, ?_, ?_⟩
    · rw [schedule, List.map_cons, List.flatten_cons, run_after hd]
      exact he
    · intro x hx
      rcases List.mem_cons.mp hx with rfl | hx
      · exact ⟨read.1, schedule reads, hd, he⟩
      · obtain ⟨ls, ms, hls, hms⟩ := hfound x hx
        exact ⟨read.1 ++ ls, ms, by rw [run_after hd, hls], hms⟩

lemma readings_pairwise {reads : List (List (Label ι C V) × κ)}
    {found : List (κ × Config ι W E ε C R)} (h : readings handle envStep c reads = some found) :
    found.Pairwise fun x y => ∃ ls, run handle envStep x.2 ls = some y.2 := by
  induction reads generalizing c found with
  | nil =>
    obtain rfl := Option.some.inj h
    exact .nil
  | cons read reads ih =>
    obtain ⟨d, hd, h⟩ := Option.bind_eq_some_iff.mp h
    obtain ⟨later, hlater, rfl⟩ := Option.map_eq_some_iff.mp h
    obtain ⟨_, _, hfound⟩ := readings_run hlater
    apply List.Pairwise.cons _ (ih hlater)
    intro y hy
    obtain ⟨ls, _, hls, _⟩ := hfound y hy
    exact ⟨ls, hls⟩

lemma breaks_or_holds {P : Config ι W E ε C R → Prop} {ls : List (Label ι C V)} (hc : P c)
    (h : run handle envStep c ls = some c') :
    P c' ∨ ∃ ms l rest d d', ls = ms ++ l :: rest ∧ run handle envStep c ms = some d ∧ P d ∧
      step handle envStep d l = some d' ∧ ¬ P d' := by
  induction ls using List.reverseRecOn generalizing c' with
  | nil =>
    obtain rfl := Option.some.inj h
    exact .inl hc
  | append_singleton ls l ih =>
    obtain ⟨d, hd, hl⟩ := run_concat h
    rcases ih hd with hP | ⟨ms, m, rest, e, e', rfl, he, hP, hm, hbroken⟩
    · by_cases hP' : P c'
      · exact .inl hP'
      · exact .inr ⟨ls, l, [], d, c', rfl, hd, hP, hl, hP'⟩
    · exact .inr ⟨ms, m, rest ++ [l], e, e', by simp, he, hP, hm, hbroken⟩

variable {held : Config ι W E ε C R → η → Prop} {seen : η → Prop}

variable (handle envStep held seen) in
def SeenFirst (d : Config ι W E ε C R) (l : Label ι C V) : Prop :=
  ∀ d', step handle envStep d l = some d' → ∀ e, held d' e → ¬ seen e → ∀ e', seen e' → held d e'

theorem exists_cut {ls : List (Label ι C V)} (hstart : ∀ e, held c e → seen e)
    (hend : ∀ e, seen e → held c' e)
    (hm : Meets handle envStep (SeenFirst handle envStep held seen) c ls)
    (h : run handle envStep c ls = some c') :
    ∃ ms d, ms <+: ls ∧ run handle envStep c ms = some d ∧ ∀ e, held d e ↔ seen e := by
  rcases breaks_or_holds (P := fun d => ∀ e, held d e → seen e) hstart h with
    hall | ⟨ms, l, rest, d, d', rfl, hd, hall, hstep, hbroken⟩
  · exact ⟨ls, c', List.prefix_refl ls, h, fun e => ⟨hall e, hend e⟩⟩
  · push Not at hbroken
    obtain ⟨e, he, hunseen⟩ := hbroken
    have hlast := (Discipline.Meets.append hm hd).2.1
    exact ⟨ms, d, List.prefix_append ms _, hd, fun e' => ⟨hall e', hlast d' hstep e he hunseen e'⟩⟩

end Config

namespace Prog

variable {ε' α β F : Type}

def consult (found : List (κ × V)) (p : Prog κ V F ε' α) (v : V) : Prog κ V F ε' α :=
  (play (found.map fun x => (x.1, fun _ => x.2)) p v).1

def Reads (Q : α → List (κ × V) → Prop) : Prog κ V F ε' α → List (κ × V) → Prop
  | .done (.ok a), found => Q a found
  | .done (.error _), _ => True
  | .act _ _, [] => True
  | .act a k, (i, u) :: later => Reads Q (k (a i u).1) later

variable {Q : α → List (κ × V) → Prop} {found : List (κ × V)} {p : Prog κ V F ε' α}

lemma reads_pure {a : α} (h : Q a found) : Reads Q (pure a : Prog κ V F ε' α) found := h

lemma reads_throw {e : ε'} : Reads Q (throw e : Prog κ V F ε' α) found := trivial

lemma reads_atomic {a : κ → V → Except ε' α × V × List F}
    (h : ∀ i u later x, found = (i, u) :: later → (a i u).1 = .ok x → Q x later) :
    Reads Q (atomic a) found := by
  cases found with
  | nil => trivial
  | cons first later =>
    show Reads Q (.done (a first.1 first.2).1) later
    cases hx : (a first.1 first.2).1 with
    | ok x => exact h _ _ _ x rfl hx
    | error e => trivial

lemma reads_bind {R : β → List (κ × V) → Prop} {f : α → Prog κ V F ε' β}
    (hp : Reads (fun a later => Reads R (f a) later) p found) : Reads R (p >>= f) found := by
  induction p generalizing found with
  | done r =>
    cases r with
    | ok a => exact hp
    | error e => trivial
  | act a k ih =>
    cases found with
    | nil => trivial
    | cons first later => exact ih _ hp

lemma Reads.consult {v : V} {a : α} (hp : Reads Q p found) (h : p.consult found v = .done (.ok a)) :
    ∃ later, Q a later := by
  induction p generalizing found v with
  | done r =>
    rw [Prog.consult, play_done] at h
    obtain rfl := Prog.done.inj h
    exact ⟨found, hp⟩
  | act b k ih =>
    cases found with
    | nil => cases h
    | cons first later => exact ih _ hp h

end Prog

end OnlineBanking.Library
