import OnlineBanking.Library.Embedding
import OnlineBanking.Library.Stages
import OnlineBanking.Library.Turns

set_option autoImplicit false

/-! Calls that make one change to the world and leave one record of it, in the same step or in a
later one. -/

namespace OnlineBanking.Library

variable {ι W E ε α β C V R D L : Type}

structure Recording (ι W C D L : Type) where
  records : W → List L
  Aside : C → W → W → Prop
  Change : C → D → W → W → Prop
  Note : D → W → W → Prop
  Both : C → D → W → W → Prop
  Names : D → L → Prop
  Apart : C → Prop
  Lost : ι → W → Prop
  aside_records : ∀ c w w', Aside c w w' → records w' = records w
  change_records : ∀ c d w w', Change c d w w' → Apart c ∧ records w' = records w
  note_records : ∀ d w w', Note d w w' → ∃ l, records w' = records w ++ [l] ∧ Names d l
  both_records : ∀ c d w w', Both c d w w' → ∃ l, records w' = records w ++ [l] ∧ Names d l

namespace Recording

variable (M : Recording ι W C D L) (c : C)

def Records (a : ι → W → β × W × List E) : Prop := ∃ i w, M.records (a i w).2.1 ≠ M.records w

def Owes (d : D) : Prog ι W E ε α → Prop
  | .done _ => False
  | .act a k => ∀ i w, (M.Aside c w (a i w).2.1 ∧ Owes d (k (a i w).1)) ∨
      (M.Note d w (a i w).2.1 ∧ (k (a i w).1).Within (M.Aside c)) ∨ M.Records a ∧ M.Lost i w

def Before : Prog ι W E ε α → Prop
  | .done _ => True
  | .act a k => ∀ i w, (M.Aside c w (a i w).2.1 ∧ Before (k (a i w).1)) ∨
      (∃ d, M.Change c d w (a i w).2.1 ∧ M.Owes c d (k (a i w).1)) ∨
      ∃ d, M.Both c d w (a i w).2.1 ∧ (k (a i w).1).Within (M.Aside c)

variable {M c}

section Programs

variable {d : D} {p : Prog ι W E ε α}

lemma before_of_within (hp : p.Within (M.Aside c)) : M.Before c p := by
  induction p with
  | done r => trivial
  | act a k ih => exact fun i w => .inl ⟨(hp i w).1, ih _ (hp i w).2⟩

lemma before_throw {e : ε} : M.Before c (throw e : Prog ι W E ε α) := trivial

lemma before_bind {f : α → Prog ι W E ε β} (hp : p.Within (M.Aside c))
    (hf : ∀ a, M.Before c (f a)) :
    M.Before c (p >>= f) := by
  induction p with
  | done r =>
    cases r with
    | ok a => exact hf a
    | error e => trivial
  | act a k ih => exact fun i w => .inl ⟨(hp i w).1, ih _ (hp i w).2⟩

lemma owes_then {f : α → Prog ι W E ε β} (hp : M.Owes c d p) (hf : ∀ a, (f a).Within (M.Aside c)) :
    M.Owes c d (p >>= f) := by
  induction p with
  | done r => exact hp.elim
  | act a k ih =>
    intro i w
    rcases hp i w with ⟨haside, hk⟩ | ⟨hnote, hk⟩ | hlost
    · exact .inl ⟨haside, ih _ hk⟩
    · exact .inr (.inl ⟨hnote, Prog.within_bind hk hf⟩)
    · exact .inr (.inr hlost)

lemma before_then {f : α → Prog ι W E ε β} (hp : M.Before c p)
    (hf : ∀ a, (f a).Within (M.Aside c)) :
    M.Before c (p >>= f) := by
  induction p with
  | done r =>
    cases r with
    | ok a => exact before_of_within (hf a)
    | error e => trivial
  | act a k ih =>
    intro i w
    rcases hp i w with ⟨haside, hk⟩ | ⟨d, hchange, hk⟩ | ⟨d, hboth, hk⟩
    · exact .inl ⟨haside, ih _ hk⟩
    · exact .inr (.inl ⟨d, hchange, owes_then hk hf⟩)
    · exact .inr (.inr ⟨d, hboth, Prog.within_bind hk hf⟩)

lemma before_change {a : ι → W → Except ε α × W × List E} {f : α → Prog ι W E ε β}
    (h : ∀ i w, (∃ e, (a i w).1 = .error e ∧ M.Aside c w (a i w).2.1) ∨
      ∃ b d, (a i w).1 = .ok b ∧ M.Change c d w (a i w).2.1 ∧ M.Owes c d (f b)) :
    M.Before c (Prog.atomic a >>= f) := by
  intro i w
  rcases h i w with ⟨e, he, haside⟩ | ⟨b, d, hb, hchange, howes⟩
  · refine .inl ⟨haside, ?_⟩
    rw [he]
    trivial
  · refine .inr (.inl ⟨d, hchange, ?_⟩)
    rw [hb]
    exact howes

lemma owes_note {a : ι → W → Except ε α × W × List E} (hrecords : M.Records a)
    (h : ∀ i w, ¬ M.Lost i w → M.Note d w (a i w).2.1) : M.Owes c d (Prog.atomic a) := by
  intro i w
  by_cases hlost : M.Lost i w
  · exact .inr (.inr ⟨hrecords, hlost⟩)
  · exact .inr (.inl ⟨h i w hlost, trivial⟩)

lemma before_read {a : ι → W → Except ε α × W × List E} {f : α → Prog ι W E ε β}
    (haside : ∀ i w, M.Aside c w (a i w).2.1) (hf : ∀ i w b, (a i w).1 = .ok b → M.Before c (f b)) :
    M.Before c (Prog.atomic a >>= f) := by
  intro i w
  refine .inl ⟨haside i w, ?_⟩
  cases hr : (a i w).1 with
  | ok b => exact hf i w b hr
  | error e => trivial

lemma before_both {a : ι → W → Except ε α × W × List E}
    (h : ∀ i w, M.Aside c w (a i w).2.1 ∨ ∃ b d, (a i w).1 = .ok b ∧ M.Both c d w (a i w).2.1) :
    M.Before c (Prog.atomic a) := by
  intro i w
  rcases h i w with haside | ⟨_, d, _, hboth⟩
  · exact .inl ⟨haside, trivial⟩
  · exact .inr (.inr ⟨d, hboth, trivial⟩)

lemma before_tryCatch {a : ι → W → Except ε α × W × List E} {handler : ε → Prog ι W E ε α}
    (h : ∀ i w, M.Aside c w (a i w).2.1 ∨ ∃ b d, (a i w).1 = .ok b ∧ M.Both c d w (a i w).2.1)
    (hhandler : ∀ e, M.Before c (handler e)) : M.Before c (tryCatch (Prog.atomic a) handler) := by
  intro i w
  rcases h i w with haside | ⟨b, d, hb, hboth⟩
  · refine .inl ⟨haside, ?_⟩
    cases hr : (a i w).1 with
    | ok b => trivial
    | error e => exact hhandler e
  · refine .inr (.inr ⟨d, hboth, ?_⟩)
    rw [hb]
    trivial

end Programs

section Embedding

variable {ι' W' E' ε' C' : Type} (P : Part ι W E ε ι' W' E' ε')
    (M' : Recording ι' W' C' D L) (c' : C')

variable (M c) in
structure Lifts : Prop where
  aside : ∀ v w, M.Aside c (P.get w) v → M'.Aside c' w (P.put v w)
  note : ∀ d v w, M.Note d (P.get w) v → M'.Note d w (P.put v w)
  lost : ∀ i w, M.Lost (P.input i) (P.get w) → M'.Lost i w
  records : ∀ (β : Type) (a : ι → W → β × W × List E), M.Records a → M'.Records (P.action a)

variable {P M' c'} {p : Prog ι W E ε α} {d : D}

lemma Lifts.within (hP : M.Lifts c P M' c') (hp : p.Within (M.Aside c)) :
    (p.embed P).Within (M'.Aside c') := by
  induction p with
  | done r => trivial
  | act a k ih =>
    exact fun i w => ⟨hP.aside _ w (hp (P.input i) (P.get w)).1, ih _ (hp (P.input i) (P.get w)).2⟩

lemma Lifts.owes (hP : M.Lifts c P M' c') (hp : M.Owes c d p) : M'.Owes c' d (p.embed P) := by
  induction p with
  | done r => exact hp.elim
  | act a k ih =>
    intro i w
    rcases hp (P.input i) (P.get w) with ⟨haside, hk⟩ | ⟨hnote, hk⟩ | ⟨hrecords, hlost⟩
    · exact .inl ⟨hP.aside _ w haside, ih _ hk⟩
    · exact .inr (.inl ⟨hP.note d _ w hnote, hP.within hk⟩)
    · exact .inr (.inr ⟨hP.records _ a hrecords, hP.lost i w hlost⟩)

theorem Lifts.before (hP : M.Lifts c P M' c')
    (hchange : ∀ d v w, M.Change c d (P.get w) v → M'.Change c' d w (P.put v w))
    (hboth : ∀ d v w, M.Both c d (P.get w) v → M'.Both c' d w (P.put v w)) (hp : M.Before c p) :
    M'.Before c' (p.embed P) := by
  induction p with
  | done r => trivial
  | act a k ih =>
    intro i w
    rcases hp (P.input i) (P.get w) with ⟨haside, hk⟩ | ⟨d, hd, hk⟩ | ⟨d, hd, hk⟩
    · exact .inl ⟨hP.aside _ w haside, ih _ hk⟩
    · exact .inr (.inl ⟨d, hchange d _ w hd, hP.owes hk⟩)
    · exact .inr (.inr ⟨d, hboth d _ w hd, hP.within hk⟩)

end Embedding

variable (M c) in
def Clean (T : List (W × W)) : Prop := ∀ x ∈ T, M.Aside c x.1 x.2

variable (M c) in
def Changed (d : D) (T : List (W × W)) : Prop :=
  ∃ T₁ x T₂, T = T₁ ++ x :: T₂ ∧ M.Clean c T₁ ∧ M.Change c d x.1 x.2 ∧ M.Clean c T₂

variable (M c) in
inductive Accounted (T : List (W × W)) : List L → Prop
  | nothing (clean : M.Clean c T) : Accounted T []
  | recorded (d : D) (l : L) (names : M.Names d l) (T₁ : List (W × W)) (x : W × W)
      (T₂ : List (W × W))
      (changed : M.Changed c d T₁) (note : M.Note d x.1 x.2) (clean : M.Clean c T₂)
      (steps : T = T₁ ++ x :: T₂) :
    Accounted T [l]
  | atOnce (d : D) (l : L) (names : M.Names d l) (T₁ : List (W × W)) (x : W × W) (T₂ : List (W × W))
      (before : M.Clean c T₁) (both : M.Both c d x.1 x.2) (clean : M.Clean c T₂)
      (steps : T = T₁ ++ x :: T₂) :
    Accounted T [l]

variable (M c) in
inductive Standing (p : Prog ι W E ε α) (T : List (W × W)) : List L → Prop
  | before (program : M.Before c p) (clean : M.Clean c T) : Standing p T []
  | owes (d : D) (program : M.Owes c d p) (changed : M.Changed c d T) : Standing p T []
  | settled (ls : List L) (program : p.Within (M.Aside c)) (accounted : M.Accounted c T ls) :
    Standing p T ls

section Steps

variable {T : List (W × W)} {ls : List L} {d : D}

lemma Clean.concat (h : M.Clean c T) {x : W × W} (hx : M.Aside c x.1 x.2) :
    M.Clean c (T ++ [x]) := by
  intro y hy
  rcases List.mem_append.mp hy with hy | hy
  · exact h y hy
  · obtain rfl := List.mem_singleton.mp hy
    exact hx

lemma Changed.concat (h : M.Changed c d T) {x : W × W} (hx : M.Aside c x.1 x.2) :
    M.Changed c d (T ++ [x]) := by
  obtain ⟨T₁, y, T₂, rfl, h₁, hy, h₂⟩ := h
  exact ⟨T₁, y, T₂ ++ [x], by simp, h₁, hy, h₂.concat hx⟩

lemma Changed.apart (h : M.Changed c d T) : M.Apart c := by
  obtain ⟨_, x, _, _, _, hx, _⟩ := h
  exact (M.change_records c d x.1 x.2 hx).1

lemma Accounted.concat (h : M.Accounted c T ls) {x : W × W} (hx : M.Aside c x.1 x.2) :
    M.Accounted c (T ++ [x]) ls := by
  cases h with
  | nothing clean => exact .nothing (clean.concat hx)
  | recorded d l names T₁ y T₂ changed note clean steps =>
    exact .recorded d l names T₁ y (T₂ ++ [x]) changed note (clean.concat hx) (by simp [steps])
  | atOnce d l names T₁ y T₂ before both clean steps =>
    exact .atOnce d l names T₁ y (T₂ ++ [x]) before both (clean.concat hx) (by simp [steps])

lemma Standing.act {a : ι → W → β × W × List E} {k : β → Prog ι W E ε α}
    (h : M.Standing c (.act a k) T ls) {i : ι} {w : W}
    (hkept : M.Apart c → M.Records a → ¬ M.Lost i w) :
    ∃ new, M.records (a i w).2.1 = M.records w ++ new ∧
      M.Standing c (k (a i w).1) (T ++ [(w, (a i w).2.1)]) (ls ++ new) := by
  cases h with
  | before program clean =>
    rcases program i w with ⟨haside, hk⟩ | ⟨d, hchange, hk⟩ | ⟨d, hboth, hk⟩
    · exact ⟨[], by simp [M.aside_records c _ _ haside], .before hk (clean.concat haside)⟩
    · refine ⟨[], by simp [(M.change_records c d _ _ hchange).2],
        .owes d hk ⟨T, _, [], rfl, clean, hchange, ?_⟩⟩
      simp [Clean]
    · obtain ⟨l, hl, names⟩ := M.both_records c d _ _ hboth
      exact ⟨[l], hl, .settled _ hk (.atOnce d l names T _ [] clean hboth (by simp [Clean]) rfl)⟩
  | owes d program changed =>
    rcases program i w with ⟨haside, hk⟩ | ⟨hnote, hk⟩ | ⟨hrecords, hlost⟩
    · exact ⟨[], by simp [M.aside_records c _ _ haside], .owes d hk (changed.concat haside)⟩
    · obtain ⟨l, hl, names⟩ := M.note_records d _ _ hnote
      exact ⟨[l], hl, .settled _ hk
        (.recorded d l names T _ [] changed hnote (by simp [Clean]) rfl)⟩
    · exact absurd hlost (hkept changed.apart hrecords)
  | settled ls program accounted =>
    obtain ⟨haside, hk⟩ := program i w
    exact ⟨[], by simp [M.aside_records c _ _ haside],
      .settled _ (by simpa using hk) (by simpa using accounted.concat haside)⟩

lemma Standing.accounted {r : Except ε α} (h : M.Standing c (.done r : Prog ι W E ε α) T ls) :
    M.Accounted c T ls := by
  cases h with
  | before _ clean => exact .nothing clean
  | owes _ program _ => exact program.elim
  | settled _ _ accounted => exact accounted

end Steps

section Runs

open Config

variable {handle : C → Prog ι W E ε R} {envStep : V → W → W} {t : ℕ}

lemma transitions_concat {c d d' : Config ι W E ε C R} {ls : List (Label ι C V)} {l : Label ι C V}
    (h : run handle envStep c ls = some d) (hl : step handle envStep d l = some d') :
    transitions handle envStep t c (ls ++ [l]) =
      transitions handle envStep t c ls ++ if l.actor = some t then [(d.shared, d'.shared)]
        else [] := by
  induction ls generalizing c with
  | nil =>
    obtain rfl := Option.some.inj h
    simp [transitions, hl]
  | cons m ls ih =>
    obtain ⟨e, he, hr⟩ := Option.bind_eq_some_iff.mp h
    simp only [List.cons_append, transitions, he, ih hr]
    split
    · rfl
    · rfl

variable (handle envStep t) in
def steps (c : Config ι W E ε C R) (ls : List (Label ι C V)) : List (W × W) :=
  (transitions handle envStep t c ls).map fun x => (x.1.world, x.2.world)

variable (t) in
def recordsOf (matched : List (ℕ × L)) : List L := (matched.filter fun x => x.1 = t).map Prod.snd

variable (M handle envStep) in
structure Stands (start c : Config ι W E ε C R) (ls : List (Label ι C V))
    (matched : List (ℕ × L)) : Prop where
  records : M.records c.shared.world = M.records start.shared.world ++ matched.map Prod.snd
  unused : ∀ t, c.threads t = none → steps handle envStep t start ls = [] ∧ recordsOf t matched = []
  threads : ∀ t call p, c.threads t = some (call, p) →
    M.Standing call p (steps handle envStep t start ls) (recordsOf t matched)

variable (M handle envStep) in
def NoneLost : Config ι W E ε C R → List (Label ι C V) → Prop :=
  Meets handle envStep fun c l => ∀ t i call (β : Type) (a : ι → W → β × W × List E) k,
    l = .act t i →
    c.threads t = some (call, .act a k) → M.Apart call → M.Records a → ¬ M.Lost i c.shared.world

theorem run_stands (hbefore : ∀ call, M.Before call (handle call))
    (henv : ∀ v w, M.records (envStep v w) = M.records w) {start c : Config ι W E ε C R}
    (hstart : ∀ t, start.threads t = none) {ls : List (Label ι C V)}
    (hkept : M.NoneLost handle envStep start ls) (h : run handle envStep start ls = some c) :
    ∃ matched, M.Stands handle envStep start c ls matched := by
  induction ls using List.reverseRecOn generalizing c with
  | nil =>
    obtain rfl := Option.some.inj h
    refine ⟨[], by simp, fun t _ => ⟨rfl, rfl⟩, fun t call p ht => ?_⟩
    simp [hstart] at ht
  | append_singleton ls l ih =>
    obtain ⟨d, hd, hl⟩ := run_concat h
    obtain ⟨hbeforeLast, hlast⟩ := Discipline.Meets.append hkept hd
    obtain ⟨matched, records, unused, threads⟩ := ih hbeforeLast hd
    have hsteps : ∀ t, steps handle envStep t start (ls ++ [l]) = steps handle envStep t start ls ++
        if l.actor = some t then [(d.shared.world, c.shared.world)] else [] := by
      intro t
      rw [steps, transitions_concat hd hl, List.map_append]
      split
      · rfl
      · rfl
    rcases step_eq_some hl with ⟨t, call, rfl, ht, rfl⟩ | ⟨t, i, call, β, a, k, rfl, ht, rfl⟩ |
        ⟨v, rfl, rfl⟩
    · simp only [Label.actor, reduceCtorEq, ↓reduceIte, List.append_nil] at hsteps
      refine ⟨matched, records, fun u hu => ?_, fun u call' p hu => ?_⟩
      · by_cases hut : u = t
        · simp [hut] at hu
        · simpa only [hsteps] using unused u (by simpa [Function.update_of_ne hut] using hu)
      · by_cases hut : u = t
        · subst hut
          obtain ⟨rfl, rfl⟩ : call = call' ∧ handle call = p := by simpa using hu
          obtain ⟨hnone, hrecords⟩ := unused u ht
          rw [hsteps, hnone, hrecords]
          exact .before (hbefore call) (by simp [Clean])
        · simpa only [hsteps] using threads u call' p
            (by simpa [Function.update_of_ne hut] using hu)
    · obtain ⟨new, hnew, hstanding⟩ := (threads t call _ ht).act (hlast.1 t i call _ a k rfl ht)
      have hrecords : ∀ u, recordsOf u (matched ++ new.map (t, ·)) =
          recordsOf u matched ++ if u = t then new else [] := by
        intro u
        by_cases hut : u = t
        · simp [recordsOf, hut, List.filter_map, Function.comp_def]
        · simp [recordsOf, hut, Ne.symm hut, List.filter_map, Function.comp_def]
      simp only [Label.actor, Option.some.injEq] at hsteps
      refine ⟨matched ++ new.map (t, ·), ?_, fun u hu => ?_, fun u call' p hu => ?_⟩
      · simp only [Shared.after, hnew, records, List.map_append, List.map_map, List.append_assoc]
        simp [Function.comp_def]
      · by_cases hut : u = t
        · simp [hut] at hu
        · rw [hsteps, hrecords, if_neg (Ne.symm hut), if_neg hut]
          simpa using unused u (by simpa [Function.update_of_ne hut] using hu)
      · by_cases hut : u = t
        · subst hut
          obtain ⟨rfl, rfl⟩ : call = call' ∧ k (a i d.shared.world).1 = p := by simpa using hu
          rw [hsteps, hrecords, if_pos rfl, if_pos rfl]
          exact hstanding
        · rw [hsteps, hrecords, if_neg (Ne.symm hut), if_neg hut]
          simpa using threads u call' p (by simpa [Function.update_of_ne hut] using hu)
    · simp only [Label.actor, reduceCtorEq, ↓reduceIte, List.append_nil] at hsteps
      refine ⟨matched, (henv v _).trans records, fun u hu => ?_, fun u call p hu => ?_⟩
      · simpa only [hsteps] using unused u hu
      · simpa only [hsteps] using threads u call p hu

end Runs

end Recording

end OnlineBanking.Library
