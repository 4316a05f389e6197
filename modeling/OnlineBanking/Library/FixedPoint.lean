import Mathlib.Algebra.Order.Floor.Ring
import OnlineBanking.Library.Decimals

set_option autoImplicit false

/-! Fixed-point numbers: how many decimal places a rendering shows, which values a number of places
holds, and what a column of a fixed scale makes of a value. -/

namespace OnlineBanking.Library.Decimal

def Multiple (places : ℕ) (q : ℚ) : Prop := ∃ k : ℤ, q * 10 ^ places = k

def roundTo (places : ℕ) (q : ℚ) : ℚ :=
  let steps := ⌊|q| * 10 ^ places + 1 / 2⌋
  (if q < 0 then -steps else steps : ℤ) / 10 ^ places

/-- A column of type DECIMAL(precision, scale) rounds to its scale and refuses more digits than its
precision. -/
def column (precision scale : ℕ) (q : ℚ) : Option ℚ :=
  if |roundTo scale q| < 10 ^ (precision - scale) then some (roundTo scale q) else none

section Multiples

variable {places : ℕ} {p q : ℚ}

lemma Multiple.add (hp : Multiple places p) (hq : Multiple places q) : Multiple places (p + q) := by
  obtain ⟨k, hk⟩ := hp
  obtain ⟨j, hj⟩ := hq
  exact ⟨k + j, by push_cast; rw [← hk, ← hj]; ring⟩

lemma Multiple.neg (hp : Multiple places p) : Multiple places (-p) := by
  obtain ⟨k, hk⟩ := hp
  exact ⟨-k, by push_cast; rw [← hk]; ring⟩

lemma Multiple.mono {places' : ℕ} (hp : Multiple places p) (h : places ≤ places') :
    Multiple places' p := by
  obtain ⟨k, hk⟩ := hp
  obtain ⟨j, rfl⟩ := Nat.exists_eq_add_of_le h
  exact ⟨k * 10 ^ j, by push_cast; rw [← hk, pow_add]; ring⟩

lemma floor_add_half (k : ℤ) : ⌊(k : ℚ) + 1 / 2⌋ = k := by
  rw [Int.floor_eq_iff]
  constructor <;> linarith

lemma roundTo_of_multiple (h : Multiple places q) : roundTo places q = q := by
  obtain ⟨k, hk⟩ := h
  have hpow : (10 : ℚ) ^ places ≠ 0 := by positivity
  unfold roundTo
  dsimp only
  by_cases hneg : q < 0
  · have habs : |q| * 10 ^ places = ((-k : ℤ) : ℚ) := by
      rw [abs_of_neg hneg]
      push_cast
      linarith
    rw [if_pos hneg, habs, floor_add_half, neg_neg, ← hk]
    field_simp
  · have habs : |q| * 10 ^ places = (k : ℚ) := by rw [abs_of_nonneg (not_lt.mp hneg), hk]
    rw [if_neg hneg, habs, floor_add_half, ← hk]
    field_simp

lemma column_of_multiple {precision scale : ℕ} (h : Multiple scale q) :
    column precision scale q = if |q| < 10 ^ (precision - scale) then some q else none := by
  rw [column, roundTo_of_multiple h]

lemma multiple_of_column {precision scale : ℕ} (h : column precision scale p = some q) :
    Multiple scale q := by
  unfold column at h
  split at h
  · obtain rfl := Option.some.inj h
    unfold roundTo
    exact ⟨_, div_mul_cancel₀ _ (by positivity)⟩
  · cases h

end Multiples

section Value

variable {d : Decimal} {places : ℕ}

lemma value_of_nonnegative (h : d.negative = false) : d.value = d.magnitude := by simp [value, h]

lemma nonnegative_of_value_pos (h : 0 < d.value) : d.negative = false := by
  cases hn : d.negative with
  | false => rfl
  | true =>
    have hmag : 0 ≤ d.magnitude := by
      unfold magnitude
      positivity
    rw [value, hn, if_pos rfl] at h
    linarith

lemma digits_ne_zero_of_value_pos (h : 0 < d.value) : d.digits ≠ 0 := by
  intro hz
  have hmag : d.magnitude = 0 := by simp [magnitude, hz]
  simp [value, hmag] at h

lemma multiple_iff (h : 0 < d.value) : Multiple places d.value ↔ -(places : ℤ) ≤ d.exponent := by
  have hvalue := value_of_nonnegative (nonnegative_of_value_pos h)
  constructor
  · rintro ⟨k, hk⟩
    by_contra hlt
    obtain ⟨j, hj⟩ := Int.eq_succ_of_zero_lt (show 0 < -d.exponent - places by omega)
    have hexp : d.exponent + (places + (j + 1 : ℕ)) = 0 := by
      push_cast
      omega
    have hdigits : (d.digits : ℚ) = k * 10 ^ (j + 1) := by
      rw [← hk, hvalue, magnitude, mul_assoc, mul_assoc, ← zpow_natCast, ← zpow_natCast,
        ← zpow_add₀ (by norm_num),
        ← zpow_add₀ (by norm_num), hexp, zpow_zero, mul_one]
    have hint : (d.digits : ℤ) = k * 10 ^ (j + 1) := by exact_mod_cast hdigits
    have hmod : d.digits % 10 = 0 := by
      have : (10 : ℤ) ∣ d.digits := hint ▸ Dvd.dvd.mul_left (dvd_pow_self 10 (by omega)) k
      omega
    rcases d.normal with hn | hn
    · exact hn hmod
    · exact digits_ne_zero_of_value_pos h hn.1
  · intro hle
    obtain ⟨j, hj⟩ := Int.eq_ofNat_of_zero_le (show 0 ≤ d.exponent + places by omega)
    refine ⟨d.digits * 10 ^ j, ?_⟩
    rw [hvalue, magnitude, mul_assoc, ← zpow_natCast, ← zpow_add₀ (by norm_num), hj]
    push_cast
    rw [zpow_natCast]

def point (d : Decimal) : ℤ := (Nat.toDigits 10 d.digits).length + d.exponent

lemma digits_lt (d : Decimal) : d.digits < 10 ^ (Nat.toDigits 10 d.digits).length :=
  (Nat.length_toDigits_le_iff (by decide) Nat.length_toDigits_pos).mp le_rfl

lemma pow_le_digits (h : d.digits ≠ 0) :
    10 ^ ((Nat.toDigits 10 d.digits).length - 1) ≤ d.digits := by
  by_contra hlt
  have hlen : 0 < (Nat.toDigits 10 d.digits).length := Nat.length_toDigits_pos
  rcases Nat.eq_zero_or_pos ((Nat.toDigits 10 d.digits).length - 1) with hz | hpos
  · rw [hz, pow_zero] at hlt
    omega
  · have := (Nat.length_toDigits_le_iff (by decide) hpos).mpr (not_le.mp hlt)
    omega

lemma magnitude_lt (d : Decimal) : d.magnitude < 10 ^ d.point := by
  have hlt : (d.digits : ℚ) < 10 ^ (Nat.toDigits 10 d.digits).length := by
    exact_mod_cast digits_lt d
  rw [point, zpow_add₀ (by norm_num), zpow_natCast, magnitude]
  exact mul_lt_mul_of_pos_right hlt (by positivity)

lemma le_magnitude (h : d.digits ≠ 0) : 10 ^ (d.point - 1) ≤ d.magnitude := by
  have hle : (10 : ℚ) ^ ((Nat.toDigits 10 d.digits).length - 1) ≤ d.digits := by
    exact_mod_cast pow_le_digits h
  have hlen : 0 < (Nat.toDigits 10 d.digits).length := Nat.length_toDigits_pos
  have hexp : d.point - 1 = (((Nat.toDigits 10 d.digits).length - 1 : ℕ) : ℤ) + d.exponent := by
    unfold point
    omega
  rw [hexp, zpow_add₀ (by norm_num), zpow_natCast, magnitude]
  exact mul_le_mul_of_nonneg_right hle (by positivity)

lemma point_of_bounds {a b : ℤ} (hd : d.digits ≠ 0) (hlow : 10 ^ a ≤ d.magnitude)
    (hhigh : d.magnitude ≤ 10 ^ b) :
    a < d.point ∧ d.point ≤ b + 1 := by
  have hone : (1 : ℚ) < 10 := by norm_num
  have hl := (zpow_lt_zpow_iff_right₀ hone).mp (lt_of_le_of_lt hlow d.magnitude_lt)
  have hh := (zpow_le_zpow_iff_right₀ hone).mp ((le_magnitude hd).trans hhigh)
  exact ⟨hl, by omega⟩

end Value

def fraction (t : List Char) : Option (List Char) :=
  if '.' ∈ t then some (before '.' (after '.' t)) else none

section Rendering

variable {ds : List Char} {n : ℤ}

lemma fraction_digits (h : Digits ds) : fraction ds = none := if_neg (h.not_mem rfl)

lemma fraction_point {cs rest : List Char} (hc : '.' ∉ cs) (hr : '.' ∉ rest) :
    fraction (cs ++ '.' :: rest) = some rest := by
  rw [fraction, if_pos (by simp), after_append hc, before_self hr]

lemma digits_exponent (e : ℤ) : '.' ∉ exponentText e := by
  have hdigits : '.' ∉ Nat.toDigits 10 e.natAbs := (digits_toDigits _).not_mem rfl
  unfold exponentText
  split <;> simp [hdigits]

lemma fraction_plain (hd : Digits ds) (hlow : -6 < n) (hhigh : n ≤ 21) :
    (ds.length ≤ n → fraction (magnitudeText ds n) = none) ∧
      (n < ds.length → ∃ cs, fraction (magnitudeText ds n) = some cs ∧
          (cs.length : ℤ) = ds.length - n) := by
  unfold magnitudeText
  constructor
  · intro hle
    rw [if_pos ⟨hle, hhigh⟩]
    exact fraction_digits (hd.append (digits_replicate _))
  · intro hlt
    rw [if_neg (by omega)]
    split_ifs with h₁ h₂
    · refine ⟨_, fraction_point ((hd.subset (List.take_subset _ _)).not_mem rfl)
        ((hd.subset (List.drop_subset _ _)).not_mem rfl), ?_⟩
      rw [List.length_drop]
      omega
    · have hzero : '.' ∉ ['0'] := by decide
      refine ⟨_, fraction_point hzero (((digits_replicate _).append hd).not_mem rfl), ?_⟩
      rw [List.length_append, List.length_replicate]
      omega
    · omega

lemma fraction_exponent (hd : Digits ds) (hne : ds ≠ []) (hlt : n < ds.length)
    (hout : ¬ (-6 < n ∧ n ≤ 21)) {cs : List Char} (h : fraction (magnitudeText ds n) = some cs) :
    2 < cs.length := by
  unfold magnitudeText at h
  rw [if_neg (by omega), if_neg (by omega), if_neg (by omega)] at h
  match ds with
  | [] => exact absurd rfl hne
  | [c] =>
    have hc : '.' ∉ [c] := hd.not_mem rfl
    have hnone : '.' ∉ mantissaText [c] ++ 'e' :: exponentText (n - 1) := by
      simpa [mantissaText, digits_exponent] using hc
    rw [fraction, if_neg hnone] at h
    cases h
  | c :: d :: rest =>
    have hc : '.' ∉ [c] := (hd.subset (by simp)).not_mem rfl
    have hrest : '.' ∉ d :: rest := (hd.subset (by simp)).not_mem rfl
    have htail : '.' ∉ (d :: rest) ++ 'e' :: exponentText (n - 1) := by
      rw [List.mem_append, List.mem_cons (b := 'e'), not_or, not_or]
      exact ⟨hrest, by decide, digits_exponent _⟩
    have hfraction : fraction (mantissaText (c :: d :: rest) ++ 'e' :: exponentText (n - 1)) =
        some ((d :: rest) ++ 'e' :: exponentText (n - 1)) := fraction_point hc htail
    rw [hfraction] at h
    obtain rfl := Option.some.inj h
    have hdigit : 0 < (Nat.toDigits 10 (n - 1).natAbs).length := Nat.length_toDigits_pos
    simp only [exponentText, List.length_append, List.length_cons]
    omega

end Rendering

section Fixed

variable {d : Decimal}

lemma text_of_pos (h : 0 < d.value) :
    d.text = magnitudeText (Nat.toDigits 10 d.digits) d.point := by
  rw [text, if_neg (digits_ne_zero_of_value_pos h), nonnegative_of_value_pos h]
  rfl

lemma multiple_of_fraction (h : 0 < d.value) {cs : List Char} (hf : fraction d.text = some cs)
    (hlen : cs.length ≤ 2) : Multiple 2 d.value := by
  rw [multiple_iff h]
  rw [text_of_pos h] at hf
  by_contra hlt
  have hpoint : d.point < (Nat.toDigits 10 d.digits).length := by
    unfold point
    push_cast at hlt
    omega
  by_cases hplain : -6 < d.point ∧ d.point ≤ 21
  · obtain ⟨cs', hf', hlen'⟩ :=
      (fraction_plain (digits_toDigits d.digits) hplain.1 hplain.2).2 hpoint
    obtain rfl := Option.some.inj (hf.symm.trans hf')
    unfold point at hlen'
    push_cast at hlt
    omega
  · have := fraction_exponent (digits_toDigits _) (toDigits_ne_nil _) hpoint hplain hf
    omega

lemma multiple_iff_fraction (hlow : 10 ^ (-6 : ℤ) ≤ d.value) (hhigh : d.value ≤ 10 ^ (20 : ℤ)) :
    Multiple 2 d.value ↔ ∀ cs, fraction d.text = some cs → cs.length ≤ 2 := by
  have hpos : 0 < d.value := lt_of_lt_of_le (by positivity) hlow
  have hvalue := value_of_nonnegative (nonnegative_of_value_pos hpos)
  obtain ⟨hl, hh⟩ := point_of_bounds (digits_ne_zero_of_value_pos hpos) (hvalue ▸ hlow)
    (hvalue ▸ hhigh)
  obtain ⟨hnone, hsome⟩ := fraction_plain (digits_toDigits d.digits) hl hh
  rw [← text_of_pos hpos] at hnone hsome
  have hexp : d.point = (Nat.toDigits 10 d.digits).length + d.exponent := rfl
  rw [multiple_iff hpos]
  rcases lt_or_ge d.point (Nat.toDigits 10 d.digits).length with hlt | hge
  · obtain ⟨cs, hcs, hlen⟩ := hsome hlt
    rw [hcs]
    push_cast
    constructor
    · intro hle cs' hcs'
      obtain rfl := Option.some.inj hcs'
      omega
    · intro h
      have := h cs rfl
      omega
  · rw [hnone hge]
    push_cast
    constructor
    · intro _ cs hcs
      cases hcs
    · intro _
      omega

theorem denoted_toFixed {places : ℕ} (hd : d.negative = false) (hplaces : 0 < places)
    (h : Multiple places d.value) : denoted (d.toFixed places).toList = d.value := by
  obtain ⟨k, hk⟩ := h
  have hvalue := value_of_nonnegative hd
  have hnonneg : 0 ≤ k := by
    have hmag : 0 ≤ d.magnitude * 10 ^ places := by
      unfold magnitude
      positivity
    rw [← hvalue, hk] at hmag
    exact_mod_cast hmag
  obtain ⟨n, rfl⟩ := Int.eq_ofNat_of_zero_le hnonneg
  have hn : ⌊d.magnitude * 10 ^ places + 1 / 2⌋.toNat = n := by
    rw [← hvalue, hk, floor_add_half]
    rfl
  set fraction := Nat.toDigits 10 (n % 10 ^ places) with hfraction
  have hlen : fraction.length ≤ places :=
    (Nat.length_toDigits_le_iff (by decide) hplaces).mpr (Nat.mod_lt _ (by positivity))
  have htext : (d.toFixed places).toList = Nat.toDigits 10 (n / 10 ^ places) ++
      '.' :: (List.replicate (places - fraction.length) '0' ++ fraction) := by
    unfold toFixed
    simp only [hd, hn, hfraction, Bool.false_eq_true, if_false, List.nil_append,
      String.toList_ofList]
  have hdenoted : Nat.ofDigitChars 10 (Nat.toDigits 10 (n / 10 ^ places) ++
      (List.replicate (places - fraction.length) '0' ++ fraction)) 0 = n := by
    have hpad : (List.replicate (places - fraction.length) '0' ++ fraction).length = places := by
      rw [List.length_append, List.length_replicate]
      omega
    rw [Nat.ofDigitChars_append, Nat.ofDigitChars_ten_toDigits,
      Nat.ofDigitChars_eq_ofDigitChars_zero, hpad,
      ofDigitChars_zeros_append, hfraction, Nat.ofDigitChars_ten_toDigits]
    exact Nat.div_add_mod n (10 ^ places)
  rw [htext, denoted_point (digits_toDigits _) ((digits_replicate _).append (digits_toDigits _)),
    hdenoted,
    List.length_append, List.length_replicate, Nat.sub_add_cancel hlen, zpow_neg, zpow_natCast,
    ← div_eq_mul_inv, div_eq_iff (by positivity), hk]
  rfl

end Fixed

end OnlineBanking.Library.Decimal
