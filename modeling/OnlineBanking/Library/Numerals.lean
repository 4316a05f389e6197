import Mathlib.Algebra.Order.Field.Rat
import Mathlib.Data.Int.Log
import Mathlib.Data.List.TakeWhile
import Mathlib.Data.Rat.Floor
import Mathlib.Tactic.FieldSimp
import Mathlib.Tactic.NormNum

set_option autoImplicit false

/-! What the ECMAScript function Number makes of a text without white space at its ends. NaN and the
infinities are `none`. -/

namespace OnlineBanking.Library.Numerals

def nearest (q : ℚ) : Option ℚ :=
  let unit : ℚ := 2 ^ max (Int.log 2 q - 52) (-1074)
  let below := ⌊q / unit⌋
  let rest := q / unit - below
  let steps := if rest < 1 / 2 ∨ rest = 1 / 2 ∧ below % 2 = 0 then below else below + 1
  if steps * unit < 2 ^ 1024 then some (steps * unit) else none

def digit (base : ℕ) (c : Char) : Option ℕ :=
  let n := if c.isDigit then c.toNat - 48 else if c.isAlpha then c.toLower.toNat - 87 else base
  if n < base then some n else none

def natural (base : ℕ) : List Char → Option ℕ
  | [] => none
  | cs => cs.foldlM (fun n c => (digit base c).map fun d => base * n + d) 0

def integer : List Char → Option ℤ
  | '-' :: cs => (natural 10 cs).map fun n => -n
  | '+' :: cs => (natural 10 cs).map fun n => n
  | cs => (natural 10 cs).map fun n => n

def decimal (cs : List Char) : Option ℚ :=
  let (significand, power) := cs.span fun c => c ≠ 'e' && c ≠ 'E'
  let (whole, fraction) := significand.span fun c => c ≠ '.'
  let exponent : Option ℤ := if power = [] then some 0 else integer power.tail
  (natural 10 (whole ++ fraction.tail)).bind fun digits =>
    exponent.map fun e : ℤ => digits * 10 ^ (e - fraction.tail.length)

def number : List Char → Option ℚ
  | [] => some 0
  | '0' :: 'x' :: cs | '0' :: 'X' :: cs => (natural 16 cs).bind fun n => nearest n
  | '0' :: 'o' :: cs | '0' :: 'O' :: cs => (natural 8 cs).bind fun n => nearest n
  | '0' :: 'b' :: cs | '0' :: 'B' :: cs => (natural 2 cs).bind fun n => nearest n
  | '-' :: cs => ((decimal cs).bind nearest).map fun q => -q
  | '+' :: cs => (decimal cs).bind nearest
  | cs => (decimal cs).bind nearest

lemma nearest_natCast {n : ℕ} (h : n < 2 ^ 53) : nearest n = some (n : ℚ) := by
  rcases n.eq_zero_or_pos with rfl | hpos
  · decide +kernel
  · have hlog : Int.log 2 (n : ℚ) < 53 := by
      rw [← Int.lt_zpow_iff_log_lt (by decide) (by exact_mod_cast hpos)]
      exact_mod_cast h
    -- the unit is 2 to a power that is not positive, so the number is a whole number of units
    obtain ⟨k, hk⟩ : ∃ k : ℕ, max (Int.log 2 (n : ℚ) - 52) (-1074) = -(k : ℤ) :=
      ⟨(-max (Int.log 2 (n : ℚ) - 52) (-1074)).toNat, by omega⟩
    have hunits : (n : ℚ) / 2 ^ (-(k : ℤ)) = ((n * 2 ^ k : ℤ) : ℚ) := by
      rw [zpow_neg, zpow_natCast, div_inv_eq_mul]
      push_cast
      rfl
    have hback : ((n * 2 ^ k : ℤ) : ℚ) * 2 ^ (-(k : ℤ)) = n := by
      rw [← hunits]
      exact div_mul_cancel₀ _ (zpow_ne_zero _ (by norm_num))
    have hsmall : (n : ℚ) < 2 ^ 1024 :=
      calc (n : ℚ) < 2 ^ 53 := by exact_mod_cast h
        _ ≤ 2 ^ 1024 := pow_le_pow_right₀ (by norm_num) (by norm_num)
    have hhalf : (0 : ℚ) < 1 / 2 := by norm_num
    unfold nearest
    simp only [hk, hunits, Int.floor_intCast, sub_self, hhalf, true_or, if_true, hback, hsmall]

lemma digit_ten {c : Char} (h : c.isDigit = true) : digit 10 c = some (c.toNat - '0'.toNat) := by
  have hlt : c.toNat - 48 < 10 := by
    simp only [Char.isDigit, Bool.and_eq_true, decide_eq_true_eq] at h
    have hle : c.toNat ≤ 57 := h.2
    omega
  simp only [digit, h, if_true, if_pos hlt]
  rfl

lemma natural_digits {cs : List Char} (hne : cs ≠ []) (h : ∀ c ∈ cs, c.isDigit = true) :
    natural 10 cs = some (Nat.ofDigitChars 10 cs 0) := by
  have hfold : ∀ (ds : List Char) (n : ℕ), (∀ c ∈ ds, c.isDigit = true) →
      ds.foldlM (fun n c => (digit 10 c).map fun d => 10 * n + d) n = some
        (Nat.ofDigitChars 10 ds n) := by
    intro ds
    induction ds with
    | nil => exact fun n _ => rfl
    | cons d ds ih =>
      intro n hds
      rw [List.foldlM_cons, digit_ten (hds d List.mem_cons_self), Nat.ofDigitChars_cons]
      exact ih _ fun c hc => hds c (List.mem_cons_of_mem _ hc)
  obtain ⟨c, ds, rfl⟩ := List.exists_cons_of_ne_nil hne
  exact hfold (c :: ds) 0 h

lemma decimal_digits {cs : List Char} (hne : cs ≠ []) (h : ∀ c ∈ cs, c.isDigit = true) :
    decimal cs = some (Nat.ofDigitChars 10 cs 0 : ℚ) := by
  have hspan : ∀ p : Char → Bool, (∀ c : Char, c.isDigit = true → p c = true) →
      cs.span p = (cs, []) := by
    intro p hp
    rw [List.span_eq_takeWhile_dropWhile]
    have hall : ∀ c ∈ cs, p c = true := fun c hc => hp c (h c hc)
    rw [List.takeWhile_eq_self_iff.mpr hall, List.dropWhile_eq_nil_iff.mpr hall]
  have hletters : ∀ c : Char, c.isDigit = true → (c ≠ 'e' && c ≠ 'E') = true := by
    intro c hc
    simp only [Bool.and_eq_true, decide_eq_true_eq]
    constructor
    · rintro rfl
      cases hc
    · rintro rfl
      cases hc
  have hpoint : ∀ c : Char, c.isDigit = true → decide (c ≠ '.') = true := by
    intro c hc
    rw [decide_eq_true_eq]
    rintro rfl
    cases hc
  unfold decimal
  rw [hspan _ hletters]
  dsimp only
  rw [hspan _ hpoint]
  simp [natural_digits hne h]

theorem number_toDigits {n : ℕ} (h : n < 2 ^ 53) : number (Nat.toDigits 10 n) = some (n : ℚ) := by
  have hdigits : ∀ c ∈ Nat.toDigits 10 n, c.isDigit = true := fun c hc =>
    Nat.isDigit_of_mem_toDigits (by omega) (by omega) hc
  have hvalue : (decimal (Nat.toDigits 10 n)).bind nearest = some (n : ℚ) := by
    rw [decimal_digits Nat.toDigits_ne_nil hdigits, Nat.ofDigitChars_ten_toDigits]
    exact nearest_natCast h
  -- the text starts with no sign and with no prefix of another base
  have hstart : ∀ c ∈ (Nat.toDigits 10 n).take 2, c ∉ ['x', 'X', 'o', 'O', 'b', 'B', '-', '+'] := by
    intro c hc hmem
    have hother : ['x', 'X', 'o', 'O', 'b', 'B', '-', '+'].all (fun c => !c.isDigit) = true := rfl
    have hnot := List.all_eq_true.mp hother c hmem
    rw [hdigits c (List.mem_of_mem_take hc)] at hnot
    cases hnot
  rw [← hvalue]
  cases hcs : Nat.toDigits 10 n with
  | nil => exact absurd hcs Nat.toDigits_ne_nil
  | cons c cs =>
    rw [hcs] at hstart
    unfold number
    split <;> simp_all

example : number "1.00000000000000000001".toList = some 1 := by decide +kernel
example : number "9007199254740993".toList = some 9007199254740992 := by decide +kernel

end OnlineBanking.Library.Numerals
