import Mathlib.Algebra.Field.Rat
import Mathlib.Algebra.Order.Field.Rat
import Mathlib.Algebra.Order.Field.Power
import Mathlib.Data.Rat.Floor
import Mathlib.Tactic.Linarith
import Mathlib.Tactic.Ring
import Mathlib.Tactic.FieldSimp
import Mathlib.Tactic.Positivity

set_option autoImplicit false

/-! Decimals in normal form and their ECMAScript rendering (Number::toString, which
Decimal.prototype.toString shares). The rendering denotes the value it was made from,
so it determines the decimal. -/

namespace OnlineBanking.Library

structure Decimal where
  negative : Bool
  digits : ℕ
  exponent : ℤ
  normal : digits % 10 ≠ 0 ∨ digits = 0 ∧ exponent = 0 ∧ negative = false
  deriving DecidableEq

namespace Decimal

def magnitude (d : Decimal) : ℚ := d.digits * 10 ^ d.exponent

def value (d : Decimal) : ℚ := if d.negative then -d.magnitude else d.magnitude

def mantissaText : List Char → List Char
  | [] => []
  | [c] => [c]
  | c :: cs => c :: '.' :: cs

def exponentText (e : ℤ) : List Char :=
  (if e < 0 then '-' else '+') :: Nat.toDigits 10 e.natAbs

def magnitudeText (ds : List Char) (n : ℤ) : List Char :=
  if ds.length ≤ n ∧ n ≤ 21 then ds ++ List.replicate (n - ds.length).toNat '0'
  else if 0 < n ∧ n ≤ 21 then ds.take n.toNat ++ '.' :: ds.drop n.toNat
  else if -6 < n ∧ n ≤ 0 then '0' :: '.' :: (List.replicate (-n).toNat '0' ++ ds)
  else mantissaText ds ++ 'e' :: exponentText (n - 1)

def text (d : Decimal) : List Char :=
  if d.digits = 0 then ['0']
  else
    (if d.negative then ['-'] else []) ++
      magnitudeText (Nat.toDigits 10 d.digits) ((Nat.toDigits 10 d.digits).length + d.exponent)

def toString (d : Decimal) : String := String.ofList d.text

def toFixed (places : ℕ) (d : Decimal) : String :=
  let n := ⌊d.magnitude * 10 ^ places + 1 / 2⌋.toNat
  let fraction := Nat.toDigits 10 (n % 10 ^ places)
  String.ofList ((if d.negative then ['-'] else []) ++ Nat.toDigits 10 (n / 10 ^ places) ++
    '.' :: (List.replicate (places - fraction.length) '0' ++ fraction))

example : toFixed 2 ⟨false, 15005, -3, by decide⟩ = "15.01" := by decide +kernel

def before (c : Char) : List Char → List Char
  | [] => []
  | x :: xs => if x = c then [] else x :: before c xs

def after (c : Char) : List Char → List Char
  | [] => []
  | x :: xs => if x = c then xs else after c xs

def readInteger : List Char → ℤ
  | [] => 0
  | c :: cs => if c = '-' then -(Nat.ofDigitChars 10 cs 0 : ℕ) else (Nat.ofDigitChars 10 cs 0 : ℕ)

def significand (t : List Char) : ℕ :=
  Nat.ofDigitChars 10 (before '.' (before 'e' t) ++ after '.' (before 'e' t)) 0

def powerOf (t : List Char) : ℤ :=
  readInteger (after 'e' t) - (after '.' (before 'e' t)).length

def denoted (t : List Char) : ℚ := significand t * 10 ^ powerOf t

section Denotation

lemma before_append {c : Char} {cs : List Char} (h : c ∉ cs) (rest : List Char) :
    before c (cs ++ c :: rest) = cs := by
  induction cs with
  | nil => simp [before]
  | cons x xs ih =>
    have hx : x ≠ c := fun he => h (by simp [he])
    simp [before, hx, ih fun hm => h (by simp [hm])]

lemma after_append {c : Char} {cs : List Char} (h : c ∉ cs) (rest : List Char) :
    after c (cs ++ c :: rest) = rest := by
  induction cs with
  | nil => simp [after]
  | cons x xs ih =>
    have hx : x ≠ c := fun he => h (by simp [he])
    simp [after, hx, ih fun hm => h (by simp [hm])]

lemma before_self {c : Char} {cs : List Char} (h : c ∉ cs) : before c cs = cs := by
  induction cs with
  | nil => rfl
  | cons x xs ih =>
    have hx : x ≠ c := fun he => h (by simp [he])
    simp [before, hx, ih fun hm => h (by simp [hm])]

lemma after_self {c : Char} {cs : List Char} (h : c ∉ cs) : after c cs = [] := by
  induction cs with
  | nil => rfl
  | cons x xs ih =>
    have hx : x ≠ c := fun he => h (by simp [he])
    simp [after, hx, ih fun hm => h (by simp [hm])]

def Digits (cs : List Char) : Prop := ∀ c ∈ cs, c.isDigit

lemma digits_toDigits (n : ℕ) : Digits (Nat.toDigits 10 n) :=
  fun _ hc => Nat.isDigit_of_mem_toDigits (by omega) (by omega) hc

lemma Digits.not_mem {cs : List Char} (h : Digits cs) {c : Char}
    (hc : c.isDigit = false) : c ∉ cs :=
  fun hm => by simp [h c hm] at hc

lemma digits_replicate (n : ℕ) : Digits (List.replicate n '0') := by
  intro c hc
  rw [List.eq_of_mem_replicate hc]
  rfl

lemma Digits.append {cs ds : List Char} (hc : Digits cs) (hd : Digits ds) : Digits (cs ++ ds) := by
  intro c h
  rcases List.mem_append.mp h with h | h
  · exact hc c h
  · exact hd c h

lemma Digits.subset {cs ds : List Char} (h : Digits ds) (hs : cs ⊆ ds) : Digits cs :=
  fun c hc => h c (hs hc)

lemma ofDigitChars_append_zeros (cs : List Char) (n : ℕ) :
    Nat.ofDigitChars 10 (cs ++ List.replicate n '0') 0 = Nat.ofDigitChars 10 cs 0 * 10 ^ n := by
  induction n with
  | zero => simp
  | succ n ih =>
    rw [List.replicate_succ', ← List.append_assoc, Nat.ofDigitChars_append, ih]
    simp [Nat.ofDigitChars_cons, pow_succ]
    ring

lemma ofDigitChars_zeros_append (cs : List Char) (n : ℕ) :
    Nat.ofDigitChars 10 (List.replicate n '0' ++ cs) 0 = Nat.ofDigitChars 10 cs 0 := by
  induction n with
  | zero => simp
  | succ n ih => simpa [List.replicate_succ, Nat.ofDigitChars_cons] using ih

lemma denoted_digits {as : List Char} (ha : Digits as) :
    denoted as = (Nat.ofDigitChars 10 as 0 : ℕ) := by
  simp [denoted, significand, powerOf, readInteger, before_self (ha.not_mem (c := 'e') rfl),
    after_self (ha.not_mem (c := 'e') rfl), before_self (ha.not_mem (c := '.') rfl),
    after_self (ha.not_mem (c := '.') rfl)]

lemma denoted_point {as bs : List Char} (ha : Digits as) (hb : Digits bs) :
    denoted (as ++ '.' :: bs) =
      (Nat.ofDigitChars 10 (as ++ bs) 0 : ℕ) * 10 ^ (-(bs.length : ℤ)) := by
  have he : 'e' ∉ as ++ '.' :: bs := by
    simp [ha.not_mem (c := 'e') rfl, hb.not_mem (c := 'e') rfl]
  have hp : '.' ∉ as := ha.not_mem rfl
  simp [denoted, significand, powerOf, readInteger, before_self he, after_self he,
    before_append hp, after_append hp]

@[simp] lemma readInteger_nil : readInteger [] = 0 := rfl

lemma readInteger_exponentText (e : ℤ) : readInteger (exponentText e) = e := by
  by_cases he : e < 0
  · simp only [readInteger, exponentText, he, if_true, Nat.ofDigitChars_ten_toDigits]
    omega
  · simp only [readInteger, exponentText, he, if_false, Nat.ofDigitChars_ten_toDigits]
    rw [if_neg (by decide)]
    omega

lemma denoted_exponent {m : List Char} (hm : 'e' ∉ m) (e : ℤ) :
    denoted (m ++ 'e' :: exponentText e) = denoted m * 10 ^ e := by
  have hpow : powerOf (m ++ 'e' :: exponentText e) = powerOf m + e := by
    simp only [powerOf, before_append hm, after_append hm, before_self hm, after_self hm,
      readInteger_exponentText, readInteger_nil]
    ring
  have hsig : significand (m ++ 'e' :: exponentText e) = significand m := by
    simp only [significand, before_append hm, before_self hm]
  rw [denoted, hpow, hsig, zpow_add₀ (by norm_num), ← mul_assoc, ← denoted]

lemma denoted_mantissaText {ds : List Char} (hd : Digits ds) (hne : ds ≠ []) :
    denoted (mantissaText ds) =
      (Nat.ofDigitChars 10 ds 0 : ℕ) * 10 ^ (1 - (ds.length : ℤ)) := by
  match ds with
  | [] => exact absurd rfl hne
  | [c] => simpa [mantissaText] using denoted_digits hd
  | c :: d :: rest =>
    have hc : Digits [c] := hd.subset (by simp)
    have hr : Digits (d :: rest) := hd.subset (by simp)
    have h := denoted_point hc hr
    have hlen : (1 : ℤ) - ((c :: d :: rest).length : ℤ) = -((d :: rest).length : ℤ) := by
      simp only [List.length_cons]
      push_cast
      ring
    rw [hlen]
    exact h

lemma e_not_mem_mantissaText {ds : List Char} (hd : Digits ds) : 'e' ∉ mantissaText ds := by
  have he : 'e' ∉ ds := hd.not_mem rfl
  match ds with
  | [] => simp [mantissaText]
  | [c] => exact he
  | c :: d :: rest => simpa [mantissaText] using he

lemma denoted_magnitudeText {ds : List Char} (hd : Digits ds) (hne : ds ≠ []) (n : ℤ) :
    denoted (magnitudeText ds n) =
      (Nat.ofDigitChars 10 ds 0 : ℕ) * 10 ^ (n - (ds.length : ℤ)) := by
  unfold magnitudeText
  split_ifs with h1 h2 h3
  · obtain ⟨j, hj⟩ := Int.eq_ofNat_of_zero_le (show 0 ≤ n - ds.length by omega)
    rw [denoted_digits (hd.append (digits_replicate _)), ofDigitChars_append_zeros, hj]
    simp
  · obtain ⟨j, rfl⟩ := Int.eq_ofNat_of_zero_le (show 0 ≤ n by omega)
    have hj : j ≤ ds.length := by omega
    rw [Int.toNat_natCast, denoted_point (hd.subset (List.take_subset _ _))
      (hd.subset (List.drop_subset _ _)), List.take_append_drop]
    congr 2
    simp only [List.length_drop]
    omega
  · obtain ⟨j, hj⟩ := Int.eq_ofNat_of_zero_le (show 0 ≤ -n by omega)
    have hz : Digits ['0'] := digits_replicate 1
    have h := denoted_point hz ((digits_replicate j).append hd)
    rw [hj, Int.toNat_natCast]
    refine h.trans ?_
    rw [show ['0'] ++ (List.replicate j '0' ++ ds) = List.replicate (j + 1) '0' ++ ds from rfl,
      ofDigitChars_zeros_append]
    congr 2
    simp only [List.length_append, List.length_replicate]
    omega
  · rw [denoted_exponent (e_not_mem_mantissaText hd), denoted_mantissaText hd hne, mul_assoc,
      ← zpow_add₀ (by norm_num)]
    congr 2
    ring

lemma head_magnitudeText (c : Char) (cs : List Char) (n : ℤ) :
    (magnitudeText (c :: cs) n).head? = some c ∨ (magnitudeText (c :: cs) n).head? = some '0' := by
  unfold magnitudeText
  split_ifs with h1 h2 h3
  · exact .inl rfl
  · obtain ⟨j, hj⟩ := Int.eq_succ_of_zero_lt h2.1
    exact .inl (by simp [hj])
  · exact .inr rfl
  · cases cs <;> exact .inl rfl

end Denotation

section Injectivity

lemma toDigits_ne_nil (n : ℕ) : Nat.toDigits 10 n ≠ [] := Nat.toDigits_ne_nil

lemma denoted_text {d : Decimal} (h : d.negative = false) : denoted d.text = d.magnitude := by
  by_cases hd : d.digits = 0
  · have hz : denoted ['0'] = (Nat.ofDigitChars 10 ['0'] 0 : ℕ) :=
      denoted_digits (digits_replicate 1)
    rw [text, if_pos hd, hz]
    simp [magnitude, hd, Nat.ofDigitChars_cons]
  · rw [text, if_neg hd, h, if_neg (by decide), List.nil_append,
      denoted_magnitudeText (digits_toDigits _) (toDigits_ne_nil _), Nat.ofDigitChars_ten_toDigits]
    simp [magnitude]

lemma head_text {d : Decimal} (h : d.negative = false) : d.text.head? ≠ some '-' := by
  by_cases hd : d.digits = 0
  · simp [text, hd]
  · rw [text, if_neg hd, h, if_neg (by decide), List.nil_append]
    have hdig := digits_toDigits d.digits
    cases hs : Nat.toDigits 10 d.digits with
    | nil => exact absurd hs (toDigits_ne_nil _)
    | cons c cs =>
      have hc : c.isDigit := hdig c (by simp [hs])
      rcases head_magnitudeText c cs (((c :: cs).length : ℤ) + d.exponent) with he | he
      · rw [he]
        rintro ⟨⟩
        simp at hc
      · rw [he]
        simp

def abs (d : Decimal) : Decimal where
  negative := false
  digits := d.digits
  exponent := d.exponent
  normal := by
    rcases d.normal with h | h
    · exact .inl h
    · exact .inr ⟨h.1, h.2.1, rfl⟩

lemma text_of_negative {d : Decimal} (h : d.negative = true) : d.text = '-' :: d.abs.text := by
  have hd : d.digits ≠ 0 := by
    rcases d.normal with hn | hn
    · omega
    · simp [h] at hn
  simp [text, abs, hd, h]

def signedDenoted : List Char → ℚ
  | '-' :: rest => -denoted rest
  | t => denoted t

lemma signedDenoted_of_head {t : List Char} (h : t.head? ≠ some '-') :
    signedDenoted t = denoted t := by
  unfold signedDenoted
  split
  · simp at h
  · rfl

theorem signedDenoted_text (d : Decimal) : signedDenoted d.text = d.value := by
  cases hd : d.negative with
  | false =>
    rw [signedDenoted_of_head (head_text hd), denoted_text hd, value, if_neg (by simp [hd])]
  | true =>
    have habs : denoted d.abs.text = d.abs.magnitude := denoted_text rfl
    rw [text_of_negative hd, signedDenoted, habs, value, if_pos hd]
    rfl

lemma magnitude_injective {d d' : Decimal} (h : d.magnitude = d'.magnitude) :
    d.digits = d'.digits ∧ d.exponent = d'.exponent := by
  wlog hle : d.exponent ≤ d'.exponent generalizing d d'
  · have hh := this h.symm (by omega)
    exact ⟨hh.1.symm, hh.2.symm⟩
  obtain ⟨j, hj⟩ := Int.eq_ofNat_of_zero_le (show 0 ≤ d'.exponent - d.exponent by omega)
  have hpow : (10 : ℚ) ^ d.exponent ≠ 0 := zpow_ne_zero _ (by norm_num)
  have hdig : d.digits = d'.digits * 10 ^ j := by
    have he : d'.exponent = d.exponent + j := by omega
    rw [magnitude, magnitude, he, zpow_add₀ (by norm_num), zpow_natCast] at h
    have hq : (d.digits : ℚ) = d'.digits * 10 ^ j := by
      apply mul_right_cancel₀ hpow
      rw [h]
      ring
    exact_mod_cast hq
  cases j with
  | zero => exact ⟨by simpa using hdig, by omega⟩
  | succ j =>
    have hmod : d.digits % 10 = 0 := by
      rw [hdig, pow_succ, ← mul_assoc]
      exact Nat.mul_mod_left _ _
    have hd : d.digits = 0 ∧ d.exponent = 0 := by
      rcases d.normal with hn | hn
      · exact absurd hmod hn
      · exact ⟨hn.1, hn.2.1⟩
    have hd' : d'.digits = 0 := by
      rw [hd.1] at hdig
      simpa using hdig.symm
    have he' : d'.exponent = 0 := by
      rcases d'.normal with hn | hn
      · rw [hd'] at hn
        exact absurd rfl hn
      · exact hn.2.1
    exact ⟨by rw [hd.1, hd'], by rw [hd.2, he']⟩

theorem text_injective : Function.Injective text := by
  have habs : ∀ d d' : Decimal, d.negative = false → d'.negative = false → d.text = d'.text →
      d.digits = d'.digits ∧ d.exponent = d'.exponent := by
    intro d d' hd hd' h
    apply magnitude_injective
    rw [← denoted_text hd, ← denoted_text hd', h]
  intro d d' h
  have hs : d.negative = d'.negative ∧ d.digits = d'.digits ∧ d.exponent = d'.exponent := by
    cases hd : d.negative <;> cases hd' : d'.negative
    · exact ⟨rfl, habs d d' hd hd' h⟩
    · exact absurd (by rw [h, text_of_negative hd']; rfl) (head_text hd)
    · exact absurd (by rw [← h, text_of_negative hd]; rfl) (head_text hd')
    · rw [text_of_negative hd, text_of_negative hd'] at h
      exact ⟨rfl, habs d.abs d'.abs rfl rfl (List.cons.inj h).2⟩
  cases d
  cases d'
  obtain ⟨rfl, rfl, rfl⟩ := hs
  rfl

end Injectivity

end Decimal

end OnlineBanking.Library
