import Mathlib.Data.List.Basic

set_option autoImplicit false

/-! Stores whose entries carry a time after which they are no longer found. -/

namespace OnlineBanking.Library

structure Expiring.Entry (κ ν : Type) where
  key : κ
  value : ν
  expiresAt : ℕ

abbrev Expiring (κ ν : Type) : Type := List (Expiring.Entry κ ν)

namespace Expiring

variable {κ ν : Type} [DecidableEq κ]

def get (r : Expiring κ ν) (key : κ) (now : ℕ) : Option ν :=
  (r.find? fun e => e.key = key ∧ now < e.expiresAt).map Entry.value

def del (r : Expiring κ ν) (key : κ) : Expiring κ ν := r.filter fun e => e.key ≠ key

def set (r : Expiring κ ν) (key : κ) (value : ν) (expiresAt : ℕ) : Expiring κ ν :=
  ⟨key, value, expiresAt⟩ :: del r key

variable {r : Expiring κ ν} {key key' : κ} {value : ν} {now expiresAt : ℕ} {e : Entry κ ν}

lemma mem_of_get (h : r.get key now = some value) :
    ∃ e ∈ r, e.key = key ∧ now < e.expiresAt ∧ e.value = value := by
  obtain ⟨e, he, rfl⟩ := Option.map_eq_some_iff.mp h
  have hp : e.key = key ∧ now < e.expiresAt := by simpa using List.find?_some he
  exact ⟨e, List.mem_of_find?_eq_some he, hp.1, hp.2, rfl⟩

lemma mem_del : e ∈ r.del key ↔ e ∈ r ∧ e.key ≠ key := by simp [del]

lemma mem_set : e ∈ r.set key value expiresAt ↔ e = ⟨key, value, expiresAt⟩ ∨ e ∈ r ∧
    e.key ≠ key := by
  simp [set, mem_del]

lemma mem_of_mem_del (h : e ∈ r.del key) : e ∈ r := (mem_del.mp h).1

lemma get_del (h : key' ≠ key) : (r.del key').get key now = r.get key now := by
  unfold get del
  rw [List.find?_filter]
  congr 2
  funext e
  by_cases he : e.key = key
  · simp [he, h.symm]
  · simp [he]

lemma get_set (h : key' ≠ key) : (r.set key' value expiresAt).get key now = r.get key now := by
  rw [← get_del h (r := r)]
  simp [get, set, h]

lemma get_del_self : (r.del key).get key now = none := by
  simp only [get, del, Option.map_eq_none_iff, List.find?_eq_none]
  intro e he hkey
  simp_all

lemma get_set_self :
    (r.set key value expiresAt).get key now = if now < expiresAt then some value else none := by
  by_cases h : now < expiresAt
  · simp [get, set, h]
  · have hdel : (r.del key).get key now = none := get_del_self
    simpa [get, set, h] using hdel

end Expiring

end OnlineBanking.Library
