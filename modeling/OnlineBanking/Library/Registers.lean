import Mathlib.Data.Set.Insert
import OnlineBanking.Library.Tables

set_option autoImplicit false

/-! Registers of members under permanent names. A member that is dismissed keeps its name, so a
table whose rows are switched off instead of deleted is one. -/

namespace OnlineBanking.Library

structure Register (ν μ : Type) where
  names : ν → Option μ
  active : Set μ
  named_once : ∀ {j k m}, names j = some m → names k = some m → j = k
  active_named : ∀ m ∈ active, ∃ k, names k = some m

namespace Register

variable {ν μ : Type} {R R' R'' : Register ν μ} {k : ν} {m : μ}

def Extends (R R' : Register ν μ) : Prop := ∀ k m, R.names k = some m → R'.names k = some m

lemma Extends.refl (R : Register ν μ) : R.Extends R := fun _ _ h => h

lemma Extends.trans (h : R.Extends R') (h' : R'.Extends R'') : R.Extends R'' :=
  fun k m hk => h' k m (h k m hk)

structure Admits (R : Register ν μ) (k : ν) (m : μ) (R' : Register ν μ) : Prop where
  absent : m ∉ R.active
  active : R'.active = insert m R.active
  named : R'.names k = some m
  others : ∀ j, j ≠ k → R'.names j = R.names j
  before : R.names k = none ∨ R.names k = some m

structure Dismisses (R : Register ν μ) (k : ν) (m : μ) (R' : Register ν μ) : Prop where
  named : R.names k = some m
  present : m ∈ R.active
  active : R'.active = R.active \ {m}
  names : R'.names = R.names

lemma Admits.reuses (h : R.Admits k m R') {j : ν} (hj : R.names j = some m) : j = k := by
  by_contra hne
  have hj' : R'.names j = some m := (h.others j hne).trans hj
  exact hne (R'.named_once hj' h.named)

lemma Admits.extends (h : R.Admits k m R') : R.Extends R' := by
  intro j l hj
  by_cases hjk : j = k
  · subst hjk
    rcases h.before with hnone | hsome
    · rw [hnone] at hj
      cases hj
    · rw [← hj, hsome, h.named]
  · rw [h.others j hjk, hj]

lemma Dismisses.extends (h : R.Dismisses k m R') : R.Extends R' := by
  intro j l hj
  rw [h.names, hj]

end Register

namespace Table

open Record

variable {ρ κ ν : Type} [Record ρ κ ν] [DecidableEq κ]

def register (t : Table ρ) (on : ρ → Prop) : Register κ ν where
  names k := (t.find k).bind alt
  active := {v | ∃ r ∈ t.rows, alt r = some v ∧ on r}
  named_once := by
    intro j k v hj hk
    obtain ⟨r, hr, hrv⟩ := Option.bind_eq_some_iff.mp hj
    obtain ⟨s, hs, hsv⟩ := Option.bind_eq_some_iff.mp hk
    obtain ⟨hrm, rfl⟩ := find_eq_some.mp hr
    obtain ⟨hsm, rfl⟩ := find_eq_some.mp hs
    rw [t.eq_of_alt_eq hrm hsm hrv hsv]
  active_named := by
    rintro v ⟨r, hr, hv, _⟩
    have hfound : t.find (key r) = some r := find_eq_some.mpr ⟨hr, rfl⟩
    exact ⟨key r, by rw [hfound, Option.bind_some, hv]⟩

variable {t u : Table ρ} {on : ρ → Prop} {r : ρ} {k : κ} {v : ν}

lemma register_names (h : t.find k = some r) : (t.register on).names k = alt r := by
  change (t.find k).bind alt = alt r
  rw [h, Option.bind_some]

lemma mem_register_active (hr : r ∈ t.rows) (hv : alt r = some v) :
    v ∈ (t.register on).active ↔ on r := by
  constructor
  · rintro ⟨s, hs, hsv, hon⟩
    rwa [t.eq_of_alt_eq hr hs hv hsv]
  · exact fun hon => ⟨r, hr, hv, hon⟩

lemma modify_extends (t : Table ρ) (on : ρ → Prop) (k : κ) (f : Patch ρ) :
    (t.register on).Extends ((t.modify k f).register on) := by
  intro j v hj
  obtain ⟨r, hr, hv⟩ := Option.bind_eq_some_iff.mp hj
  change ((t.modify k f).find j).bind alt = some v
  rw [find_modify, hr]
  split
  · simpa [f.alt_apply] using hv
  · simpa using hv

lemma modify_active (hr : t.find k = some r) (hv : alt r = some v) (f : Patch ρ) (w : ν) :
    w ∈ ((t.modify k f).register on).active ↔ w = v ∧ on (f.apply r) ∨ w ≠ v ∧
      w ∈ (t.register on).active := by
  obtain ⟨hm, rfl⟩ := find_eq_some.mp hr
  have hswitched : f.apply r ∈ (t.modify (key r) f).rows := by
    rw [modify_rows]
    exact List.mem_map.mpr ⟨r, hm, by simp⟩
  by_cases hw : w = v
  · subst hw
    rw [mem_register_active hswitched ((f.alt_apply r).trans hv)]
    simp
  · simp only [hw, false_and, ne_eq, not_false_eq_true, true_and, false_or]
    constructor
    · rintro ⟨s, hs, hsw, hon⟩
      rw [modify_rows] at hs
      obtain ⟨s', hs', rfl⟩ := List.mem_map.mp hs
      by_cases hk : key s' = key r
      · obtain rfl := t.eq_of_key_eq hs' hm hk
        rw [if_pos rfl, f.alt_apply, hv] at hsw
        exact absurd (Option.some.inj hsw).symm hw
      · rw [if_neg hk] at hsw hon
        exact ⟨s', hs', hsw, hon⟩
    · rintro ⟨s, hs, hsw, hon⟩
      have hk : key s ≠ key r := by
        intro hk
        obtain rfl := t.eq_of_key_eq hs hm hk
        exact hw (Option.some.inj (hsw.symm.trans hv))
      refine ⟨s, ?_, hsw, hon⟩
      rw [modify_rows]
      exact List.mem_map.mpr ⟨s, hs, by rw [if_neg hk]⟩

theorem modify_admits (hr : t.find k = some r) (hv : alt r = some v) {f : Patch ρ} (hoff : ¬ on r)
    (hon : on (f.apply r)) : (t.register on).Admits k v ((t.modify k f).register on) where
  absent := mt (mem_register_active (find_eq_some.mp hr).1 hv).mp hoff
  active := by
    ext w
    rw [modify_active hr hv, Set.mem_insert_iff]
    tauto
  named := modify_extends t on k f k v ((register_names hr).trans hv)
  others j hj := by
    change ((t.modify k f).find j).bind alt = (t.find j).bind alt
    rw [find_modify, if_neg hj]
  before := .inr ((register_names hr).trans hv)

theorem modify_dismisses (hr : t.find k = some r) (hv : alt r = some v) {f : Patch ρ} (hon : on r)
    (hoff : ¬ on (f.apply r)) : (t.register on).Dismisses k v ((t.modify k f).register on) where
  named := (register_names hr).trans hv
  present := (mem_register_active (find_eq_some.mp hr).1 hv).mpr hon
  active := by
    ext w
    rw [modify_active hr hv, Set.mem_sdiff, Set.mem_singleton_iff]
    tauto
  names := by
    funext j
    change ((t.modify k f).find j).bind alt = (t.find j).bind alt
    rw [find_modify]
    split
    · cases t.find j with
      | none => rfl
      | some s => exact f.alt_apply s
    · rfl

variable [DecidableEq ν]

theorem insert_admits (h : t.insert r = some u) (hv : alt r = some v) (hon : on r) :
    (t.register on).Admits (key r) v (u.register on) := by
  obtain ⟨hkey, halt, hrows⟩ := insert_eq_some.mp h
  have hfind : ∀ j, j ≠ key r → u.find j = t.find j := by
    intro j hj
    simp [find, hrows, List.find?_append, hj.symm]
  constructor
  · rintro ⟨s, hs, hsv, _⟩
    exact halt v hv s hs hsv
  · ext w
    rw [Set.mem_insert_iff]
    constructor
    · rintro ⟨s, hs, hsw, hson⟩
      rw [hrows] at hs
      rcases List.mem_append.mp hs with hs | hs
      · exact .inr ⟨s, hs, hsw, hson⟩
      · obtain rfl := List.mem_singleton.mp hs
        exact .inl (Option.some.inj (hsw.symm.trans hv))
    · rintro (rfl | ⟨s, hs, hsw, hson⟩)
      · exact ⟨r, by simp [hrows], hv, hon⟩
      · exact ⟨s, by simp [hrows, hs], hsw, hson⟩
  · exact (register_names (find_inserted h)).trans hv
  · intro j hj
    change (u.find j).bind alt = (t.find j).bind alt
    rw [hfind j hj]
  · left
    change (t.find (key r)).bind alt = none
    rw [find_eq_none.mpr hkey, Option.bind_none]

end Table

end OnlineBanking.Library
