import Mathlib.Data.List.Count
import Mathlib.Data.List.Pairwise
import Mathlib.Data.List.Perm.Basic
import Mathlib.Data.List.Sort
import Mathlib.Tactic.Ring

set_option autoImplicit false

/-! Pages of sorted rows, each page cut out of an arrangement of its own: rows of one key may stand
in any order. -/

namespace OnlineBanking.Library.Paging

variable {α : Type} (key : α → ℕ)

def Ordered (xs : List α) : Prop := xs.Pairwise fun x y => key y ≤ key x

def later (rows : List α) (x : α) : ℕ := rows.countP fun y => key x < key y

def same (rows : List α) (x : α) : ℕ := rows.countP fun y => key y = key x

def Straddles (rows : List α) (m : ℕ) (x : α) : Prop :=
  later key rows x < m ∧ m < later key rows x + same key rows x

def page (n k : ℕ) (xs : List α) : List α := (xs.drop (k * n)).take n

def pages (n total : ℕ) : ℕ := (total + n - 1) / n

lemma le_pages_mul {n : ℕ} (hn : 0 < n) (total : ℕ) : total ≤ pages n total * n := by
  have hdiv := Nat.div_add_mod (total + n - 1) n
  have hmod := Nat.mod_lt (total + n - 1) hn
  unfold pages
  rw [Nat.mul_comm]
  omega

lemma lt_pages {n total k : ℕ} (hn : 0 < n) (h : k * n < total) : k < pages n total :=
  (Nat.le_div_iff_mul_le hn).mpr (by rw [Nat.succ_mul]; omega)

lemma pages_le {n : ℕ} (hn : 0 < n) (total : ℕ) : pages n total ≤ total := by
  unfold pages
  cases n with
  | zero => cases hn
  | succ n =>
    cases total with
    | zero => rw [Nat.zero_add, Nat.div_eq_of_lt (by omega)]
    | succ total =>
      apply Nat.div_le_of_le_mul
      have hexpand : (n + 1) * (total + 1) = n * total + n + total + 1 := by ring
      omega

section Pages

variable {n : ℕ} {xs ys : List α}

lemma take_succ_page (k : ℕ) : xs.take ((k + 1) * n) = xs.take (k * n) ++ page n k xs := by
  rw [Nat.succ_mul, List.take_add, page]

lemma flatMap_page (k : ℕ) : (List.range k).flatMap (fun j => page n j xs) = xs.take (k * n) := by
  induction k with
  | zero => simp
  | succ k ih =>
    rw [List.range_succ, List.flatMap_append, ih, List.flatMap_singleton, take_succ_page]

lemma flatMap_pages (hn : 0 < n) :
    (List.range (pages n xs.length)).flatMap (fun j => page n j xs) = xs := by
  rw [flatMap_page, List.take_of_length_le (le_pages_mul hn _)]

end Pages

section Sorted

variable {key} {rows xs ys : List α} {x : α} {m n : ℕ}

lemma later_perm (h : xs.Perm ys) : later key xs x = later key ys x := h.countP_eq _

lemma same_perm (h : xs.Perm ys) : same key xs x = same key ys x := h.countP_eq _

lemma later_add_same_le (xs : List α) (x : α) : later key xs x + same key xs x ≤ xs.length := by
  rw [List.length_eq_countP_add_countP fun z => decide (key x < key z)]
  apply Nat.add_le_add_left
  apply List.countP_mono_left
  intro z _ hz
  simp only [decide_eq_true_eq] at hz ⊢
  simpa using hz.le

lemma position {before after : List α} (h : Ordered key (before ++ x :: after)) :
    later key (before ++ x :: after) x ≤ before.length ∧
      before.length < later key (before ++ x :: after) x + same key (before ++ x :: after) x := by
  obtain ⟨_, hafter, hbefore⟩ := List.pairwise_append.mp h
  have hleast : ∀ y ∈ before, key x ≤ key y := fun y hy => hbefore y hy x List.mem_cons_self
  have hgreatest : ∀ y ∈ after, key y ≤ key x := fun y hy => (List.pairwise_cons.mp hafter).1 y hy
  have hlater : later key (before ++ x :: after) x = before.countP fun y => key x < key y := by
    have hnone : after.countP (fun y => key x < key y) = 0 := by
      rw [List.countP_eq_zero]
      intro y hy
      simpa using hgreatest y hy
    simp [later, hnone]
  have hsame : before.countP (fun y => key y = key x) < same key (before ++ x :: after) x := by
    unfold same
    rw [List.countP_append, List.countP_cons_of_pos (by simp)]
    omega
  have hsplit : before.length = before.countP (fun y => key x < key y) + before.countP fun y =>
      key y = key x := by
    rw [List.length_eq_countP_add_countP fun y => decide (key x < key y)]
    congr 1
    apply List.countP_congr
    intro y hy
    have hle := hleast y hy
    simp only [decide_eq_true_eq]
    omega
  rw [hlater]
  have hle := before.countP_le_length (p := fun y => decide (key x < key y))
  omega

lemma take_perm_filter (hperm : xs.Perm rows) (hordered : Ordered key xs)
    (hcut : ∀ x ∈ rows, ¬ Straddles key rows m x) :
    (xs.take m).Perm (rows.filter fun x => later key rows x < m) := by
  have hfirst : ∀ x ∈ xs.take m, later key rows x < m := by
    intro x hx
    obtain ⟨before, after, htake⟩ := List.append_of_mem hx
    have hlength : (xs.take m).length ≤ m := by simp
    have hxs : xs = before ++ x :: (after ++ xs.drop m) := by
      conv_lhs => rw [← List.take_append_drop m xs, htake]
      simp
    have hpos := (position (hxs ▸ hordered)).1
    rw [← hxs, later_perm hperm] at hpos
    rw [htake, List.length_append, List.length_cons] at hlength
    omega
  have hlast : ∀ x ∈ xs.drop m, ¬ later key rows x < m := by
    intro x hx hlt
    obtain ⟨before, after, hdrop⟩ := List.append_of_mem hx
    have hlength : m ≤ (xs.take m).length := by
      rw [List.length_take]
      have hpos : 0 < (xs.drop m).length := List.length_pos_of_mem hx
      rw [List.length_drop] at hpos
      omega
    have hxs : xs = (xs.take m ++ before) ++ x :: after := by
      conv_lhs => rw [← List.take_append_drop m xs, hdrop]
      simp
    have hpos := (position (hxs ▸ hordered)).2
    rw [← hxs, later_perm hperm, same_perm hperm, List.length_append] at hpos
    exact hcut x (hperm.subset (List.drop_subset m xs hx)) ⟨hlt, by omega⟩
  have hfilter : xs.filter (fun x => later key rows x < m) = xs.take m := by
    conv_lhs => rw [← List.take_append_drop m xs, List.filter_append]
    rw [List.filter_eq_self.mpr fun x hx => decide_eq_true (hfirst x hx),
      List.filter_eq_nil_iff.mpr fun x hx => by simpa using hlast x hx, List.append_nil]
  rw [← hfilter]
  exact hperm.filter _

lemma page_perm {k : ℕ} (hxs : xs.Perm rows) (hys : ys.Perm rows) (hxo : Ordered key xs)
    (hyo : Ordered key ys) (hcut : ∀ k, ∀ x ∈ rows, ¬ Straddles key rows (k * n) x) :
    (page n k xs).Perm (page n k ys) := by
  have hbefore := (take_perm_filter hxs hxo (hcut k)).trans (take_perm_filter hys hyo (hcut k)).symm
  have hafter := (take_perm_filter hxs hxo (hcut (k + 1))).trans
    (take_perm_filter hys hyo (hcut (k + 1))).symm
  rw [take_succ_page, take_succ_page] at hafter
  exact (List.perm_append_left_iff _).mp (hafter.trans (hbefore.symm.append_right _))

lemma ordered_swap {before after : List α} {x y : α} (h : Ordered key (before ++ x :: y :: after))
    (hkey : key x = key y) : Ordered key (before ++ y :: x :: after) := by
  obtain ⟨hbefore, hrest, hcross⟩ := List.pairwise_append.mp h
  obtain ⟨hx, hrest⟩ := List.pairwise_cons.mp hrest
  obtain ⟨hy, hafter⟩ := List.pairwise_cons.mp hrest
  apply List.pairwise_append.mpr
  refine ⟨hbefore, ?_, ?_⟩
  · apply List.pairwise_cons.mpr
    refine ⟨?_, List.pairwise_cons.mpr ⟨fun z hz => hx z (List.mem_cons_of_mem _ hz), hafter⟩⟩
    intro z hz
    rcases List.mem_cons.mp hz with rfl | hz
    · exact hkey.le
    · exact hy z hz
  · intro z hz w hw
    apply hcross z hz w
    rcases List.mem_cons.mp hw with rfl | hw
    · simp
    · rcases List.mem_cons.mp hw with rfl | hw
      · simp
      · exact List.mem_cons_of_mem _ (List.mem_cons_of_mem _ hw)

lemma key_of_position {before after : List α} {y : α} (h : Ordered key (before ++ y :: after))
    (hlater : later key (before ++ y :: after) x ≤ before.length)
    (hsame : before.length < later key (before ++ y :: after) x + same key
      (before ++ y :: after) x) : key y = key x := by
  obtain ⟨_, hafter, hbefore⟩ := List.pairwise_append.mp h
  rcases lt_trichotomy (key y) (key x) with hlt | heq | hgt
  · -- the row and all after it have lesser keys
    have hless : ∀ z ∈ y :: after, key z < key x := by
      intro z hz
      rcases List.mem_cons.mp hz with rfl | hz
      · exact hlt
      · exact ((List.pairwise_cons.mp hafter).1 z hz).trans_lt hlt
    have hnone : later key (y :: after) x = 0 ∧ same key (y :: after) x = 0 := by
      constructor
      · exact List.countP_eq_zero.mpr fun z hz => by simpa using (hless z hz).le
      · exact List.countP_eq_zero.mpr fun z hz => by simpa using (hless z hz).ne
    have hapart : later key before x + same key before x ≤ before.length :=
      later_add_same_le before x
    unfold later same at hsame hnone hapart
    rw [List.countP_append, List.countP_append] at hsame
    omega
  · exact heq
  · -- the row and all before it have greater keys
    have hmore : ∀ z ∈ before ++ [y], key x < key z := by
      intro z hz
      rcases List.mem_append.mp hz with hz | hz
      · exact hgt.trans_le (hbefore z hz y List.mem_cons_self)
      · exact List.mem_singleton.mp hz ▸ hgt
    have hall : (before ++ [y]).countP (fun z => key x < key z) = (before ++ [y]).length :=
      List.countP_eq_length.mpr fun z hz => decide_eq_true (hmore z hz)
    have hsplit : before ++ y :: after = (before ++ [y]) ++ after := by simp
    unfold later at hlater
    rw [hsplit, List.countP_append, hall, List.length_append, List.length_singleton] at hlater
    omega

lemma exists_cut (h : Ordered key xs) (hcut : Straddles key xs m x) :
    ∃ before y z after, xs = before ++ y :: z :: after ∧ before.length + 1 = m ∧ key y = key z := by
  obtain ⟨hlater, hsame⟩ := hcut
  have hlength : m < xs.length := hsame.trans_le (later_add_same_le xs x)
  obtain ⟨before, rest, hxs, hbefore⟩ : ∃ before rest, xs = before ++ rest ∧
      before.length = m - 1 :=
    ⟨xs.take (m - 1), xs.drop (m - 1),
      (List.take_append_drop _ _).symm, by rw [List.length_take]; omega⟩
  subst hxs
  rw [List.length_append] at hlength
  rcases rest with _ | ⟨y, _ | ⟨z, after⟩⟩
  · rw [List.length_nil] at hlength
    omega
  · rw [List.length_singleton] at hlength
    omega
  · have hy : key y = key x := key_of_position h (by omega) (by omega)
    have hsplit : before ++ y :: z :: after = (before ++ [y]) ++ z :: after := by simp
    have hz : key z = key x := by
      rw [hsplit] at h hlater hsame
      apply key_of_position h
      · rw [List.length_append, List.length_singleton]
        omega
      · rw [List.length_append, List.length_singleton]
        omega
    exact ⟨before, y, z, after, rfl, by omega, hy.trans hz.symm⟩

lemma exists_scan {p : α → Bool} (hxs : xs.Perm (rows.filter p)) (hordered : Ordered key xs) :
    ∃ scan : List α → List α, (∀ ys, (scan ys).Perm ys) ∧
      ((scan rows).filter p).insertionSort (fun x y => key y ≤ key x) = xs := by
  classical
  let found := xs ++ rows.filter fun x => !p x
  have hfound : found.Perm rows := (hxs.append_right _).trans (List.filter_append_perm p rows)
  have hkept : found.filter p = xs := by
    rw [List.filter_append, List.filter_filter]
    rw [List.filter_eq_self.mpr fun x hx => (List.mem_filter.mp (hxs.subset hx)).2]
    simp
  refine ⟨fun ys => if ys = rows then found else ys, ?_, ?_⟩
  · intro ys
    dsimp only
    split
    · rename_i heq
      exact heq ▸ hfound
    · exact .refl _
  · dsimp only
    rw [if_pos rfl, hkept]
    exact List.Pairwise.insertionSort_eq hordered

theorem pages_iff (hrows : rows.Nodup) (hn : 0 < n) :
    (∀ arrange : ℕ → List α, (∀ k, (arrange k).Perm rows ∧ Ordered key (arrange k)) →
      ((List.range (pages n rows.length)).flatMap fun k => page n k (arrange k)).Perm rows) ↔
      ∀ k, ∀ x ∈ rows, ¬ Straddles key rows (k * n) x := by
  have hsorted : ∃ xs : List α, xs.Perm rows ∧ Ordered key xs := by
    let r : α → α → Prop := fun x y => key y ≤ key x
    have : Std.Total r := ⟨fun x y => le_total (key y) (key x)⟩
    have : IsTrans α r := ⟨fun x y z hxy hyz => le_trans hyz hxy⟩
    exact ⟨rows.insertionSort r, List.perm_insertionSort r rows, List.pairwise_insertionSort r rows⟩
  obtain ⟨xs, hperm, hordered⟩ := hsorted
  have hwhole : ((List.range (pages n rows.length)).flatMap fun k => page n k xs) = xs := by
    rw [← hperm.length_eq]
    exact flatMap_pages hn
  constructor
  · intro hcovers k x hx hcut
    have hcut' : Straddles key xs (k * n) x := by
      unfold Straddles
      rw [later_perm hperm, same_perm hperm]
      exact hcut
    obtain ⟨before, y, z, after, rfl, hlength, hkey⟩ := exists_cut hordered hcut'
    -- page k and the page before it may both show the row y
    let swapped := before ++ z :: y :: after
    have hswap : swapped.Perm rows := ((List.Perm.swap y z after).append_left before).trans hperm
    let arrange := fun j => if j = k then swapped else before ++ y :: z :: after
    have harrange : ∀ j, (arrange j).Perm rows ∧ Ordered key (arrange j) := by
      intro j
      by_cases hj : j = k
      · simp only [arrange, if_pos hj]
        exact ⟨hswap, ordered_swap hordered hkey⟩
      · simp only [arrange, if_neg hj]
        exact ⟨hperm, hordered⟩
    have hnodup := (hcovers arrange harrange).nodup_iff.mpr hrows
    obtain ⟨_, hdisjoint⟩ := List.nodup_flatMap.mp hnodup
    have hfirst : y ∈ (before ++ y :: z :: after).take (k * n) := by
      rw [← hlength, List.take_append, List.take_of_length_le (Nat.le_succ _)]
      simp
    rw [← flatMap_page, List.mem_flatMap] at hfirst
    obtain ⟨j, hj, hmem⟩ := hfirst
    have hj := List.mem_range.mp hj
    have hk : k < pages n rows.length := by
      apply lt_pages hn
      rw [← hperm.length_eq, ← hlength]
      simp only [List.length_append, List.length_cons]
      omega
    have hagain : y ∈ page n k swapped := by
      have hdrop : swapped.drop (k * n) = y :: after := by
        have hsplit : swapped = (before ++ [z]) ++ y :: after := by simp [swapped]
        rw [hsplit]
        exact List.drop_left' (by simp [hlength])
      obtain ⟨n, rfl⟩ := Nat.exists_eq_succ_of_ne_zero hn.ne'
      rw [page, hdrop, List.take_succ_cons]
      exact List.mem_cons_self
    have hsymm : Std.Symm (Function.onFun List.Disjoint fun k => page n k (arrange k)) :=
      ⟨fun _ _ h _ hk hj => h hj hk⟩
    have happart := hdisjoint.forall (List.mem_range.mpr (hj.trans hk))
      (List.mem_range.mpr hk) hj.ne
    apply happart (a := y)
    · simpa only [arrange, if_neg hj.ne] using hmem
    · simpa only [arrange, if_pos] using hagain
  · intro hcut arrange harrange
    have hpages : ((List.range (pages n rows.length)).flatMap fun k => page n k (arrange k)).Perm
        ((List.range (pages n rows.length)).flatMap fun k => page n k xs) := by
      apply List.Perm.flatMap_left
      exact fun k _ => page_perm (harrange k).1 hperm (harrange k).2 hordered hcut
    rw [hwhole] at hpages
    exact hpages.trans hperm

end Sorted

end OnlineBanking.Library.Paging
