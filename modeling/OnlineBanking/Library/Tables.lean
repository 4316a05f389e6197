import Mathlib.Data.List.Nodup
import Mathlib.Algebra.BigOperators.Group.List.Basic
import Mathlib.Tactic.Abel

set_option autoImplicit false

/-! Tables whose rows carry a primary key and at most one further unique key.
Both uniqueness constraints are fields, so no table violating them can be built. -/

namespace OnlineBanking.Library

lemma eq_of_filterMap_nodup {α β : Type} {f : α → Option β} {xs : List α}
    (h : (xs.filterMap f).Nodup) {x y : α} {v : β} (hx : x ∈ xs) (hy : y ∈ xs) (hfx : f x = some v)
    (hfy : f y = some v) : x = y := by
  induction xs with
  | nil => simp at hx
  | cons z zs ih =>
    have hout : f z = some v → ∀ u ∈ zs, f u ≠ some v := by
      intro hz u hu huv
      rw [List.filterMap_cons_some hz, List.nodup_cons] at h
      exact h.1 (List.mem_filterMap.mpr ⟨u, hu, huv⟩)
    have hzs : (zs.filterMap f).Nodup := by
      cases hz : f z with
      | none => rwa [List.filterMap_cons_none hz] at h
      | some w => exact (List.nodup_cons.mp (List.filterMap_cons_some hz ▸ h)).2
    rcases List.mem_cons.mp hx with hxz | hxz <;> rcases List.mem_cons.mp hy with hyz | hyz
    · rw [hxz, hyz]
    · exact absurd hfy (hout (hxz ▸ hfx) y hyz)
    · exact absurd hfx (hout (hyz ▸ hfy) x hxz)
    · exact ih hzs hxz hyz

class Record (ρ : Type) (κ ν : outParam Type) where
  key : ρ → κ
  alt : ρ → Option ν

structure Table (ρ : Type) {κ ν : Type} [Record ρ κ ν] where
  rows : List ρ
  keys_nodup : (rows.map Record.key).Nodup
  alts_nodup : (rows.filterMap Record.alt).Nodup

structure Patch (ρ : Type) {κ ν : Type} [Record ρ κ ν] where
  apply : ρ → ρ
  key_apply : ∀ r, Record.key (apply r) = Record.key r
  alt_apply : ∀ r, Record.alt (apply r) = Record.alt r

namespace Table

open Record

variable {ρ κ ν : Type} [Record ρ κ ν]

def empty : Table ρ := ⟨[], by simp, by simp⟩

@[simp] lemma empty_rows : (empty : Table ρ).rows = [] := rfl

@[ext] lemma ext {t u : Table ρ} (h : t.rows = u.rows) : t = u := by
  cases t
  cases u
  cases h
  rfl

def modifyAll (t : Table ρ) (p : ρ → Bool) (f : Patch ρ) : Table ρ where
  rows := t.rows.map (fun r => if p r then f.apply r else r)
  keys_nodup := by
    have h : (key ∘ fun r => if p r then f.apply r else r) = (key : ρ → κ) := by
      funext r
      by_cases hp : p r <;> simp [hp, f.key_apply]
    simpa [h] using t.keys_nodup
  alts_nodup := by
    have h : (alt ∘ fun r => if p r then f.apply r else r) = (alt : ρ → Option ν) := by
      funext r
      by_cases hp : p r <;> simp [hp, f.alt_apply]
    rw [List.filterMap_map, h]
    exact t.alts_nodup

@[simp] lemma modifyAll_rows (t : Table ρ) (p : ρ → Bool) (f : Patch ρ) :
    (t.modifyAll p f).rows = t.rows.map (fun r => if p r then f.apply r else r) := rfl

lemma mem_modifyAll {t : Table ρ} {r : ρ} (h : r ∈ t.rows) (p : ρ → Bool) (f : Patch ρ) :
    ∃ r' ∈ (t.modifyAll p f).rows, key r' = key r ∧ alt r' = alt r := by
  refine ⟨_, List.mem_map_of_mem h, ?_⟩
  split
  · exact ⟨f.key_apply r, f.alt_apply r⟩
  · exact ⟨rfl, rfl⟩

lemma eq_of_key_eq (t : Table ρ) {r s : ρ} (hr : r ∈ t.rows) (hs : s ∈ t.rows)
    (h : key r = key s) : r = s :=
  List.inj_on_of_nodup_map t.keys_nodup hr hs h

lemma eq_of_alt_eq (t : Table ρ) {r s : ρ} {v : ν} (hr : r ∈ t.rows) (hs : s ∈ t.rows)
    (hv : alt r = some v) (hv' : alt s = some v) : r = s :=
  eq_of_filterMap_nodup t.alts_nodup hr hs hv hv'

def findFirst (t : Table ρ) (p : ρ → Bool) (choice : Nat) : Option ρ :=
  (t.rows.filter p)[choice % (t.rows.filter p).length]?

lemma findFirst_eq_some {t : Table ρ} {p : ρ → Bool} {choice : Nat} {r : ρ}
    (h : t.findFirst p choice = some r) : r ∈ t.rows ∧ p r = true :=
  List.mem_filter.mp (List.mem_of_getElem? h)

lemma findFirst_eq_none {t : Table ρ} {p : ρ → Bool} {choice : Nat}
    (h : t.findFirst p choice = none) {x : ρ} (hx : x ∈ t.rows) : p x = false := by
  by_contra hp
  have hm : x ∈ t.rows.filter p := List.mem_filter.mpr ⟨hx, by simpa using hp⟩
  have hlen : (t.rows.filter p).length ≠ 0 := fun hnil => by
    simp [List.eq_nil_of_length_eq_zero hnil] at hm
  have hlt : choice % (t.rows.filter p).length < (t.rows.filter p).length := Nat.mod_lt _ (by omega)
  simp [findFirst, List.getElem?_eq_getElem hlt] at h

lemma findFirst_of_unique {t : Table ρ} {p : ρ → Bool} {choice : Nat} {r : ρ} (hr : r ∈ t.rows)
    (hp : p r = true) (h : ∀ x ∈ t.rows, p x = true → x = r) : t.findFirst p choice = some r := by
  have hlen : (t.rows.filter p).length ≠ 0 := by
    intro hnil
    have hnone := List.eq_nil_of_length_eq_zero hnil
    exact absurd (hnone ▸ List.mem_filter.mpr ⟨hr, hp⟩) (by simp)
  have hlt : choice % (t.rows.filter p).length < (t.rows.filter p).length := Nat.mod_lt _ (by omega)
  obtain ⟨hm, hpx⟩ := List.mem_filter.mp (List.getElem_mem hlt)
  rw [findFirst, List.getElem?_eq_getElem hlt, h _ hm hpx]

lemma filter_length_of_unique {t : Table ρ} {p : ρ → Bool} {r : ρ} (hr : r ∈ t.rows)
    (hp : p r = true) (h : ∀ x ∈ t.rows, p x = true → x = r) : (t.rows.filter p).length = 1 := by
  have hrows : t.rows.Nodup := List.Nodup.of_map key t.keys_nodup
  have hperm : (t.rows.filter p).Perm [r] := by
    apply (List.perm_ext_iff_of_nodup (hrows.filter p) (List.nodup_singleton r)).mpr
    intro x
    rw [List.mem_filter, List.mem_singleton]
    constructor
    · exact fun hx => h x hx.1 hx.2
    · rintro rfl
      exact ⟨hr, hp⟩
  simpa using hperm.length_eq

section Keys

variable [DecidableEq κ]

def find (t : Table ρ) (k : κ) : Option ρ := t.rows.find? (fun r => key r = k)

def modify (t : Table ρ) (k : κ) (f : Patch ρ) : Table ρ :=
  t.modifyAll (fun r => key r = k) f

lemma find_eq_some {t : Table ρ} {k : κ} {r : ρ} :
    t.find k = some r ↔ r ∈ t.rows ∧ key r = k := by
  constructor
  · intro h
    exact ⟨List.mem_of_find?_eq_some h, by simpa using List.find?_some h⟩
  · rintro ⟨hr, rfl⟩
    have hs : (t.find (key r)).isSome := by
      rw [find, List.find?_isSome]
      exact ⟨r, hr, by simp⟩
    obtain ⟨s, hs⟩ := Option.isSome_iff_exists.mp hs
    have hk : key s = key r := by simpa using List.find?_some hs
    rw [hs, t.eq_of_key_eq (List.mem_of_find?_eq_some hs) hr hk]

lemma find_eq_none {t : Table ρ} {k : κ} : t.find k = none ↔ ∀ r ∈ t.rows, key r ≠ k := by
  simp [find]

lemma modify_rows (t : Table ρ) (k : κ) (f : Patch ρ) :
    (t.modify k f).rows = t.rows.map (fun r => if key r = k then f.apply r else r) := by
  simp [modify]

lemma find_modify (t : Table ρ) (k j : κ) (f : Patch ρ) :
    (t.modify k f).find j = if j = k then (t.find j).map f.apply else t.find j := by
  have hcomp : (fun r => decide (key r = j)) ∘ (fun r => if key r = k then f.apply r else r) =
      fun r => decide (key r = j) := by
    funext r
    by_cases hr : key r = k <;> simp [hr, f.key_apply]
  simp only [find, modify_rows, List.find?_map, hcomp]
  cases hf : t.rows.find? (fun r => decide (key r = j)) with
  | none => simp
  | some r =>
    have hr : key r = j := by simpa using List.find?_some hf
    by_cases hj : j = k <;> simp [hr, hj]

lemma modifyAll_eq_modify {t : Table ρ} {p : ρ → Bool} {f : Patch ρ} {r : ρ}
    (hp : ∀ x ∈ t.rows, p x = true ↔ key x = key r) : t.modifyAll p f = t.modify (key r) f := by
  apply ext
  rw [modifyAll_rows, modify_rows]
  apply List.map_congr_left
  intro x hx
  by_cases hk : key x = key r
  · simp [hk, (hp x hx).mpr hk]
  · simp [hk, mt (hp x hx).mp hk]

lemma modifyAll_of_count_one {t : Table ρ} {p : ρ → Bool} {k : κ} (f : Patch ρ)
    (hk : ∀ x, p x = true → key x = k) (h : (t.rows.filter p).length = 1) :
    ∃ r, t.find k = some r ∧ p r = true ∧ t.modifyAll p f = t.modify k f := by
  obtain ⟨r, hr⟩ := List.length_eq_one_iff.mp h
  obtain ⟨hm, hp⟩ := List.mem_filter.mp (hr ▸ List.mem_singleton_self r : r ∈ t.rows.filter p)
  have hkr := hk r hp
  refine ⟨r, find_eq_some.mpr ⟨hm, hkr⟩, hp, ?_⟩
  rw [← hkr]
  refine modifyAll_eq_modify fun x hx => ⟨fun hpx => (hk x hpx).trans hkr.symm, fun hxk => ?_⟩
  rw [t.eq_of_key_eq hx hm hxk, hp]

lemma sum_modify {M : Type} [AddCommGroup M] {t : Table ρ} {k : κ} {r : ρ} (f : Patch ρ) (g : ρ → M)
    (h : t.find k = some r) :
    ((t.modify k f).rows.map g).sum = (t.rows.map g).sum + (g (f.apply r) - g r) := by
  obtain ⟨hm, rfl⟩ := find_eq_some.mp h
  obtain ⟨before, after, hrows⟩ := List.append_of_mem hm
  have hkeys := t.keys_nodup
  rw [hrows, List.map_append, List.map_cons, List.nodup_middle, List.nodup_cons,
    List.mem_append] at hkeys
  have hother : ∀ l : List ρ, key r ∉ l.map key →
      l.map (fun x => if key x = key r then f.apply x else x) = l := by
    intro l hl
    apply (List.map_congr_left _).trans (List.map_id l)
    intro x hx
    have hne : key x ≠ key r := fun hk => hl (List.mem_map.mpr ⟨x, hx, hk⟩)
    rw [if_neg hne]
    rfl
  rw [modify_rows, hrows, List.map_append, List.map_cons, hother before fun hb => hkeys.1 (.inl hb),
    hother after fun ha => hkeys.1 (.inr ha)]
  simp
  abel

lemma modify_of_not_mem {t : Table ρ} {k : κ} (f : Patch ρ) (h : ∀ r ∈ t.rows, key r ≠ k) :
    (t.modify k f).rows = t.rows := by
  rw [modify_rows]
  exact (List.map_congr_left fun r hr => by simp [h r hr]).trans (List.map_id _)

end Keys

section Alts

variable [DecidableEq ν]

def findAlt (t : Table ρ) (v : ν) : Option ρ := t.rows.find? (fun r => alt r = some v)

lemma findAlt_eq_some {t : Table ρ} {v : ν} {r : ρ} :
    t.findAlt v = some r ↔ r ∈ t.rows ∧ alt r = some v := by
  constructor
  · intro h
    exact ⟨List.mem_of_find?_eq_some h, by simpa using List.find?_some h⟩
  · rintro ⟨hr, hv⟩
    have hs : (t.findAlt v).isSome := by
      rw [findAlt, List.find?_isSome]
      exact ⟨r, hr, by simp [hv]⟩
    obtain ⟨s, hs⟩ := Option.isSome_iff_exists.mp hs
    have hv' : alt s = some v := by simpa using List.find?_some hs
    rw [hs, t.eq_of_alt_eq (List.mem_of_find?_eq_some hs) hr hv' hv]

lemma findAlt_eq_none {t : Table ρ} {v : ν} :
    t.findAlt v = none ↔ ∀ r ∈ t.rows, alt r ≠ some v := by
  simp [findAlt]

end Alts

section Insertion

variable [DecidableEq κ] [DecidableEq ν]

def insert (t : Table ρ) (r : ρ) : Option (Table ρ) :=
  if h : key r ∉ t.rows.map key ∧ ∀ v ∈ alt r, v ∉ t.rows.filterMap alt then
    some {
      rows := t.rows ++ [r]
      keys_nodup := by
        rw [List.map_append, List.nodup_append_comm]
        exact List.nodup_cons.mpr ⟨h.1, t.keys_nodup⟩
      alts_nodup := by
        rw [List.filterMap_append, List.nodup_append_comm]
        cases hv : alt r with
        | none => simpa [hv] using t.alts_nodup
        | some v =>
          rw [List.filterMap_cons_some hv]
          exact List.nodup_cons.mpr ⟨h.2 v hv, t.alts_nodup⟩ }
  else none

lemma insert_eq_some {t u : Table ρ} {r : ρ} :
    t.insert r = some u ↔
      (∀ x ∈ t.rows, key x ≠ key r) ∧ (∀ v, alt r = some v → ∀ x ∈ t.rows, alt x ≠ some v) ∧
        u.rows = t.rows ++ [r] := by
  unfold insert
  split
  · rename_i h
    simp only [Option.some.injEq]
    constructor
    · rintro rfl
      refine ⟨by simpa using h.1, fun v hv x hx hxv => h.2 v hv ?_, rfl⟩
      exact List.mem_filterMap.mpr ⟨x, hx, hxv⟩
    · rintro ⟨_, _, hu⟩
      exact ext hu.symm
  · rename_i h
    simp only [reduceCtorEq, false_iff]
    rintro ⟨hk, hv, _⟩
    refine h ⟨by simpa using hk, fun v hrv hm => ?_⟩
    obtain ⟨x, hx, hxv⟩ := List.mem_filterMap.mp hm
    exact hv v hrv x hx hxv

lemma exists_insert {t : Table ρ} {r : ρ} (hkey : ∀ x ∈ t.rows, key x ≠ key r)
    (halt : ∀ v, alt r = some v → ∀ x ∈ t.rows, alt x ≠ some v) : ∃ u, t.insert r = some u := by
  unfold insert
  rw [dif_pos]
  · exact ⟨_, rfl⟩
  · refine ⟨by simpa using hkey, fun v hv hm => ?_⟩
    obtain ⟨x, hx, hxv⟩ := List.mem_filterMap.mp hm
    exact halt v hv x hx hxv

lemma find_inserted {t u : Table ρ} {r : ρ} (h : t.insert r = some u) : u.find (key r) = some r :=
  find_eq_some.mpr ⟨by simp [(insert_eq_some.mp h).2.2], rfl⟩

lemma insert_modify_rows {t u : Table ρ} {r : ρ} (h : t.insert r = some u) (f : Patch ρ) :
    (u.modify (key r) f).rows = t.rows ++ [f.apply r] := by
  obtain ⟨hk, _, hu⟩ := insert_eq_some.mp h
  have hold := modify_of_not_mem (t := t) f hk
  rw [modify_rows] at hold
  rw [modify_rows, hu, List.map_append, hold]
  simp

end Insertion

end Table

end OnlineBanking.Library
