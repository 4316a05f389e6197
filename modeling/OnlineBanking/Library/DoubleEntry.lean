import Mathlib.Algebra.BigOperators.Group.Finset.Piecewise
import Mathlib.Algebra.Order.Group.Defs
import Mathlib.Algebra.Order.Group.Unbundled.Basic
import Mathlib.Algebra.BigOperators.Group.List.Basic
import Mathlib.Logic.Relation
import Mathlib.Tactic.Abel

set_option autoImplicit false

/-! Double-entry bookkeeping: balances kept beside the journal of lines that explains them.
An entry takes an amount from one account to another; only an issuer may go below zero. -/

namespace OnlineBanking.Library

structure Book (A M : Type) where
  balance : A → M
  journal : List (A × M)

lemma sum_of_one_nonzero {α M : Type} [AddMonoid M] {l : List α} {f : α → M}
    (h : l.Pairwise fun a b => f a = 0 ∨ f b = 0) :
    (l.map f).sum = 0 ∨ ∃ a ∈ l, (l.map f).sum = f a := by
  induction l with
  | nil => exact .inl rfl
  | cons a l ih =>
    obtain ⟨ha, hl⟩ := List.pairwise_cons.mp h
    by_cases hfa : f a = 0
    · rw [List.map_cons, List.sum_cons, hfa, zero_add]
      exact (ih hl).imp_right fun ⟨b, hb, hsum⟩ => ⟨b, List.mem_cons_of_mem a hb, hsum⟩
    · have hrest : (l.map f).sum = 0 := by
        refine List.sum_eq_zero fun x hx => ?_
        obtain ⟨b, hb, rfl⟩ := List.mem_map.mp hx
        exact (ha b hb).resolve_left hfa
      exact .inr ⟨a, List.mem_cons_self, by simp [hrest]⟩

namespace Book

variable {A M : Type} [DecidableEq A]

section Net

variable [AddCommGroup M]

def net (lines : List (A × M)) (a : A) : M := ((lines.filter fun l => l.1 = a).map Prod.snd).sum

@[simp] lemma net_nil (a : A) : net ([] : List (A × M)) a = 0 := rfl

lemma net_cons (l : A × M) (lines : List (A × M)) (a : A) :
    net (l :: lines) a = (if l.1 = a then l.2 else 0) + net lines a := by
  by_cases h : l.1 = a <;> simp [net, h]

@[simp] lemma net_append (xs ys : List (A × M)) (a : A) :
    net (xs ++ ys) a = net xs a + net ys a := by
  simp [net]

lemma sum_net (lines : List (A × M)) {s : Finset A} (hs : ∀ l ∈ lines, l.1 ∈ s) :
    ∑ a ∈ s, net lines a = (lines.map Prod.snd).sum := by
  induction lines with
  | nil => simp
  | cons l lines ih =>
    have hl := hs l List.mem_cons_self
    have htail := ih fun x hx => hs x (List.mem_cons_of_mem l hx)
    simp [net_cons, Finset.sum_add_distrib, htail, hl]

def entry (src dst : A) (m : M) : List (A × M) := [(src, -m), (dst, m)]

lemma net_entry (src dst : A) (m : M) (a : A) :
    net (entry src dst m) a = (if src = a then -m else 0) + (if dst = a then m else 0) := by
  simp [entry, net_cons]

omit [DecidableEq A] in
lemma entry_total (src dst : A) (m : M) : ((entry src dst m).map Prod.snd).sum = 0 := by
  simp [entry]

def post (b : Book A M) (lines : List (A × M)) : Book A M where
  balance a := b.balance a + net lines a
  journal := b.journal ++ lines

lemma post_balance (b : Book A M) (lines : List (A × M)) (a : A) :
    (b.post lines).balance a = b.balance a + net lines a := rfl

lemma post_journal (b : Book A M) (lines : List (A × M)) :
    (b.post lines).journal = b.journal ++ lines := rfl

end Net

section Steps

variable [AddCommGroup M] [LinearOrder M] [IsOrderedAddMonoid M]
variable {issuer : A → Prop}

inductive Step (issuer : A → Prop) (b : Book A M) : Book A M → Prop
  | entry (src dst : A) (m : M) (positive : 0 < m) (funds : issuer src ∨ m ≤ b.balance src) :
      Step issuer b (b.post (entry src dst m))

abbrev Reaches (issuer : A → Prop) : Book A M → Book A M → Prop :=
  Relation.ReflTransGen (Step issuer)

omit [IsOrderedAddMonoid M] in
theorem Reaches.reconciles {b c : Book A M} (h : Reaches issuer b c) :
    ∃ added, c.journal = b.journal ++ added ∧ (∀ a, c.balance a = b.balance a + net added a) ∧
      (added.map Prod.snd).sum = 0 := by
  induction h with
  | refl => exact ⟨[], by simp⟩
  | tail _ hs ih =>
    obtain ⟨added, hj, hb, ht⟩ := ih
    cases hs with
    | entry src dst m hm hf =>
      refine ⟨added ++ Book.entry src dst m, ?_, fun a => ?_, ?_⟩
      · rw [post_journal, hj, List.append_assoc]
      · rw [post_balance, hb, net_append]
        abel
      · rw [List.map_append, List.sum_append, ht, entry_total, add_zero]

omit [IsOrderedAddMonoid M] in
lemma net_entry_neg {src dst a : A} {m : M} (hm : 0 < m) (h : net (entry src dst m) a < 0) :
    src = a ∧ dst ≠ a := by
  rw [net_entry] at h
  by_cases hs : src = a <;> by_cases hd : dst = a
  · simp [hs, hd] at h
  · exact ⟨hs, hd⟩
  · simp only [hs, hd, ↓reduceIte, zero_add] at h
    exact absurd h hm.le.not_gt
  · simp [hs, hd] at h

lemma Step.nonneg {b c : Book A M} (h : Step issuer b c) {a : A} (ha : ¬ issuer a)
    (hb : 0 ≤ b.balance a) : 0 ≤ c.balance a := by
  cases h with
  | entry src dst m hm hf =>
    rw [post_balance, net_entry]
    by_cases hs : src = a
    · subst hs
      have hfunds : 0 ≤ b.balance src - m := sub_nonneg.mpr (hf.resolve_left ha)
      by_cases hd : dst = src
      · simpa [hd] using hb
      · simpa [hd, sub_eq_add_neg] using hfunds
    · by_cases hd : dst = a
      · simpa [hs, hd] using add_nonneg hb hm.le
      · simpa [hs, hd] using hb

theorem Reaches.nonneg {b c : Book A M} (h : Reaches issuer b c) {a : A} (ha : ¬ issuer a)
    (hb : 0 ≤ b.balance a) : 0 ≤ c.balance a := by
  induction h with
  | refl => exact hb
  | tail _ hs ih => exact hs.nonneg ha ih

omit [IsOrderedAddMonoid M] in
theorem Reaches.sum_eq {b c : Book A M} (h : Reaches issuer b c) {s : Finset A}
    (hs : ∀ l ∈ c.journal.drop b.journal.length, l.1 ∈ s) :
    ∑ a ∈ s, c.balance a = ∑ a ∈ s, b.balance a := by
  obtain ⟨added, hj, hb, ht⟩ := h.reconciles
  rw [hj, List.drop_left] at hs
  simp only [hb, Finset.sum_add_distrib, sum_net added hs, ht, add_zero]

end Steps

end Book

end OnlineBanking.Library
