import OnlineBanking.Library.Decimals

set_option autoImplicit false

/-! JSON values and their JSON.stringify rendering. A flat object, one whose values are
scalars, is determined by its rendering. -/

namespace OnlineBanking.Library

inductive Json
  | null
  | bool (b : Bool)
  | num (n : Decimal)
  | str (s : String)
  | arr (items : List Json)
  | obj (fields : List (String × Json))

namespace Json

def field (name : String) : Json → Option Json
  | obj fields => fields.lookup name
  | _ => none

def asStr : Json → Option String
  | str s => some s
  | _ => none

def asNum : Json → Option Decimal
  | num n => some n
  | _ => none

def asBool : Json → Option Bool
  | bool b => some b
  | _ => none

def strField (name : String) (j : Json) : Option String := (j.field name).bind asStr

def numField (name : String) (j : Json) : Option Decimal := (j.field name).bind asNum

def boolField (name : String) (j : Json) : Option Bool := (j.field name).bind asBool

def escapeChar (c : Char) : List Char :=
  if c = '"' then ['\\', '"']
  else if c = '\\' then ['\\', '\\']
  else if c = '\n' then ['\\', 'n']
  else if c = '\r' then ['\\', 'r']
  else if c = '\t' then ['\\', 't']
  else if c.toNat = 8 then ['\\', 'b']
  else if c.toNat = 12 then ['\\', 'f']
  else if c.toNat < 32 then
    ['\\', 'u', '0', '0', Nat.digitChar (c.toNat / 16), Nat.digitChar (c.toNat % 16)]
  else [c]

def quote (s : String) : List Char := '"' :: (s.toList.flatMap escapeChar ++ ['"'])

mutual

def text : Json → List Char
  | null => "null".toList
  | bool b => (if b then "true" else "false").toList
  | num n => n.text
  | str s => quote s
  | arr items => '[' :: itemsText items
  | obj fields => '{' :: fieldsText fields

def itemsText : List Json → List Char
  | [] => [']']
  | [v] => text v ++ [']']
  | v :: w :: rest => text v ++ ',' :: itemsText (w :: rest)

def fieldsText : List (String × Json) → List Char
  | [] => ['}']
  | [(k, v)] => quote k ++ ':' :: (text v ++ ['}'])
  | (k, v) :: f :: rest => quote k ++ ':' :: (text v ++ ',' :: fieldsText (f :: rest))

end

def stringify (v : Json) : String := String.ofList v.text

example : stringify (.obj [("a", .num ⟨false, 15, -1, by decide⟩), ("b", .null)]) =
    "\x7b\"a\":1.5,\"b\":null\x7d" := by decide +kernel

section Strings

def unhex (c : Char) : ℕ := if c.isDigit then c.toNat - 48 else c.toNat - 87

def unescape : List Char → Option (Char × List Char)
  | '\\' :: c :: rest =>
    if c = 'u' then
      match rest with
      | _ :: _ :: a :: b :: r => some (Char.ofNat (16 * unhex a + unhex b), r)
      | _ => none
    else
      some (if c = 'n' then '\n' else if c = 'r' then '\r' else if c = 't' then '\t'
        else if c = 'b' then Char.ofNat 8 else if c = 'f' then Char.ofNat 12 else c, rest)
  | c :: rest => some (c, rest)
  | [] => none

lemma unhex_digitChar : ∀ n < 32, 16 * unhex (Nat.digitChar (n / 16)) + unhex
    (Nat.digitChar (n % 16)) = n := by
  decide

lemma eq_of_toNat {c : Char} {n : ℕ} (h : c.toNat = n) : Char.ofNat n = c := by
  rw [← h, Char.ofNat_toNat]

lemma unescape_escapeChar (c : Char) (r : List Char) :
    unescape (escapeChar c ++ r) = some (c, r) := by
  unfold escapeChar
  split_ifs with h1 h2 h3 h4 h5 h6 h7 h8
  · simp [unescape, h1]
  · simp [unescape, h2]
  · simp [unescape, h3]
  · simp [unescape, h4]
  · simp [unescape, h5]
  · simpa [unescape] using eq_of_toNat h6
  · simpa [unescape] using eq_of_toNat h7
  · simp [unescape, unhex_digitChar _ h8]
  · simp only [List.cons_append, List.nil_append]
    unfold unescape
    split
    · rename_i heq
      exact absurd (List.cons.inj heq).1 h2
    · rename_i heq
      obtain ⟨rfl, rfl⟩ := List.cons.inj heq
      rfl
    · simp_all

lemma escapeChar_head (c : Char) (r : List Char) :
    ∃ d ds, escapeChar c ++ r = d :: ds ∧ d ≠ '"' := by
  unfold escapeChar
  split_ifs with h1 h2 h3 h4 h5 h6 h7 h8
  case neg => exact ⟨c, r, rfl, h1⟩
  all_goals exact ⟨'\\', _, rfl, by decide⟩

lemma escaped_lead {cs ds r r' : List Char}
    (h : cs.flatMap escapeChar ++ '"' :: r = ds.flatMap escapeChar ++ '"' :: r') :
    cs = ds ∧ r = r' := by
  induction cs generalizing ds with
  | nil =>
    cases ds with
    | nil => simpa using h
    | cons d ds =>
      obtain ⟨x, xs, hx, hne⟩ := escapeChar_head d (ds.flatMap escapeChar ++ '"' :: r')
      rw [List.flatMap_cons, List.append_assoc, hx] at h
      exact absurd (List.cons.inj h).1.symm hne
  | cons c cs ih =>
    cases ds with
    | nil =>
      obtain ⟨x, xs, hx, hne⟩ := escapeChar_head c (cs.flatMap escapeChar ++ '"' :: r)
      rw [List.flatMap_cons, List.append_assoc, hx] at h
      exact absurd (List.cons.inj h).1 hne
    | cons d ds =>
      have hu := congrArg unescape h
      simp only [List.flatMap_cons, List.append_assoc, unescape_escapeChar, Option.some.injEq,
        Prod.mk.injEq] at hu
      obtain ⟨rfl, hr⟩ := hu
      obtain ⟨rfl, hr'⟩ := ih hr
      exact ⟨rfl, hr'⟩

lemma quote_lead {s t : String} {r r' : List Char} (h : quote s ++ r = quote t ++ r') :
    s = t ∧ r = r' := by
  simp only [quote, List.cons_append, List.append_assoc, List.cons.injEq, true_and,
    List.nil_append] at h
  obtain ⟨hs, hr⟩ := escaped_lead h
  exact ⟨String.toList_inj.mp hs, hr⟩

end Strings

section Objects

def Scalar : Json → Prop
  | arr _ => False
  | obj _ => False
  | _ => True

def Flat (fields : List (String × Json)) : Prop := ∀ f ∈ fields, Scalar f.2

def Ends (c : Char) : Prop := c = ',' ∨ c = '\x7d'

lemma split_lead {as bs r r' : List Char} {c d : Char} (ha : ∀ x ∈ as, ¬ Ends x)
    (hb : ∀ x ∈ bs, ¬ Ends x) (hc : Ends c) (hd : Ends d) (h : as ++ c :: r = bs ++ d :: r') :
    as = bs ∧ c = d ∧ r = r' := by
  induction as generalizing bs with
  | nil =>
    cases bs with
    | nil => simpa using h
    | cons b bs => exact absurd ((List.cons.inj h).1 ▸ hc) (hb b (by simp))
  | cons a as ih =>
    cases bs with
    | nil => exact absurd ((List.cons.inj h).1 ▸ hd) (ha a (by simp))
    | cons b bs =>
      obtain ⟨hab, ht⟩ := List.cons.inj h
      obtain ⟨hs, hr⟩ := ih (fun x hx => ha x (by simp [hx])) (fun x hx => hb x (by simp [hx])) ht
      exact ⟨by rw [hab, hs], hr⟩

lemma not_ends_of_isDigit {c : Char} (h : c.isDigit) : ¬ Ends c := by
  rintro (rfl | rfl) <;> simp at h

lemma not_ends_digits {cs : List Char} (h : Decimal.Digits cs) : ∀ x ∈ cs, ¬ Ends x :=
  fun x hx => not_ends_of_isDigit (h x hx)

lemma not_ends_append {as bs : List Char} (ha : ∀ x ∈ as, ¬ Ends x) (hb : ∀ x ∈ bs, ¬ Ends x) :
    ∀ x ∈ as ++ bs, ¬ Ends x := by
  intro x hx
  rcases List.mem_append.mp hx with hx | hx
  · exact ha x hx
  · exact hb x hx

lemma not_ends_cons {c : Char} {cs : List Char} (hc : ¬ Ends c) (h : ∀ x ∈ cs, ¬ Ends x) :
    ∀ x ∈ c :: cs, ¬ Ends x := by
  intro x hx
  rcases List.mem_cons.mp hx with rfl | hx
  · exact hc
  · exact h x hx

lemma not_ends_mantissaText {ds : List Char} (hd : Decimal.Digits ds) :
    ∀ x ∈ Decimal.mantissaText ds, ¬ Ends x := by
  have h := not_ends_digits hd
  match ds with
  | [] => simp [Decimal.mantissaText]
  | [c] => exact h
  | c :: d :: rest =>
    exact not_ends_cons (h c (by simp))
      (not_ends_cons (by simp [Ends]) fun x hx => h x (List.mem_cons_of_mem _ hx))

lemma not_ends_magnitudeText {ds : List Char} (hd : Decimal.Digits ds) (n : ℤ) :
    ∀ x ∈ Decimal.magnitudeText ds n, ¬ Ends x := by
  have hpoint : ¬ Ends '.' := by simp [Ends]
  unfold Decimal.magnitudeText
  split_ifs
  · exact not_ends_digits (hd.append (Decimal.digits_replicate _))
  · exact not_ends_append (not_ends_digits (hd.subset (List.take_subset _ _)))
      (not_ends_cons hpoint (not_ends_digits (hd.subset (List.drop_subset _ _))))
  · exact not_ends_cons (by simp [Ends])
      (not_ends_cons hpoint (not_ends_digits ((Decimal.digits_replicate _).append hd)))
  · refine not_ends_append (not_ends_mantissaText hd) (not_ends_cons (by simp [Ends]) ?_)
    refine not_ends_cons ?_ (not_ends_digits (Decimal.digits_toDigits _))
    split_ifs <;> simp [Ends]

lemma not_ends_decimal (d : Decimal) : ∀ x ∈ d.text, ¬ Ends x := by
  unfold Decimal.text
  split_ifs
  · exact not_ends_digits (Decimal.digits_replicate 1)
  · exact not_ends_append (not_ends_cons (by simp [Ends]) (by simp))
      (not_ends_magnitudeText (Decimal.digits_toDigits _) _)
  · exact not_ends_append (by simp) (not_ends_magnitudeText (Decimal.digits_toDigits _) _)

lemma decimal_head (d : Decimal) : ∃ c cs, d.text = c :: cs ∧ (c.isDigit ∨ c = '-') := by
  have hpos : ∀ e : Decimal, e.negative = false → ∃ c cs, e.text = c :: cs ∧ c.isDigit := by
    intro e he
    by_cases h0 : e.digits = 0
    · exact ⟨'0', [], by simp [Decimal.text, h0], rfl⟩
    · have hdig := Decimal.digits_toDigits e.digits
      cases hs : Nat.toDigits 10 e.digits with
      | nil => exact absurd hs (Decimal.toDigits_ne_nil _)
      | cons c cs =>
        have hc : c.isDigit := hdig c (by simp [hs])
        have ht : e.text = Decimal.magnitudeText (c :: cs) ((c :: cs).length + e.exponent) := by
          simp [Decimal.text, h0, he, hs]
        rw [ht]
        rcases Decimal.head_magnitudeText c cs ((c :: cs).length + e.exponent) with hh | hh
        · obtain ⟨xs, hx⟩ := List.head?_eq_some_iff.mp hh
          exact ⟨c, xs, hx, hc⟩
        · obtain ⟨xs, hx⟩ := List.head?_eq_some_iff.mp hh
          exact ⟨'0', xs, hx, rfl⟩
  cases hd : d.negative with
  | true => exact ⟨'-', d.abs.text, Decimal.text_of_negative hd, .inr rfl⟩
  | false =>
    obtain ⟨c, cs, hc, hdig⟩ := hpos d hd
    exact ⟨c, cs, hc, .inl hdig⟩

def leads (c : Char) : ℕ :=
  if c = 'n' then 0 else if c = 't' then 1 else if c = 'f' then 2 else if c = '"' then 4 else 3

def kind : Json → ℕ
  | null => 0
  | bool true => 1
  | bool false => 2
  | num _ => 3
  | str _ => 4
  | _ => 5

lemma leads_decimal {c : Char} (h : c.isDigit ∨ c = '-') : leads c = 3 := by
  have hne : c ≠ 'n' ∧ c ≠ 't' ∧ c ≠ 'f' ∧ c ≠ '"' := by
    refine ⟨?_, ?_, ?_, ?_⟩ <;> rintro rfl <;> simp at h
  simp [leads, hne]

lemma text_cons {v : Json} (hv : Scalar v) : ∃ c cs, v.text = c :: cs ∧ leads c = kind v := by
  match v with
  | .null => exact ⟨_, _, rfl, rfl⟩
  | .bool true => exact ⟨_, _, rfl, rfl⟩
  | .bool false => exact ⟨_, _, rfl, rfl⟩
  | .num n =>
    obtain ⟨c, cs, ht, hc⟩ := decimal_head n
    exact ⟨c, cs, ht, leads_decimal hc⟩
  | .str s => exact ⟨_, _, rfl, rfl⟩
  | .arr _ => exact hv.elim
  | .obj _ => exact hv.elim

lemma scalar_lead {v w : Json} {c d : Char} {r r' : List Char} (hv : Scalar v) (hw : Scalar w)
    (hc : Ends c) (hd : Ends d) (h : v.text ++ c :: r = w.text ++ d :: r') :
    v = w ∧ c = d ∧ r = r' := by
  have hk : kind v = kind w := by
    obtain ⟨x, xs, hx, hkv⟩ := text_cons hv
    obtain ⟨y, ys, hy, hkw⟩ := text_cons hw
    rw [hx, hy] at h
    rw [← hkv, ← hkw, (List.cons.inj h).1]
  have hnull : ∀ x ∈ text null, ¬ Ends x := by simp [text, Ends]
  have htrue : ∀ x ∈ text (bool true), ¬ Ends x := by simp [text, Ends]
  have hfalse : ∀ x ∈ text (bool false), ¬ Ends x := by simp [text, Ends]
  match v, w, hv, hw with
  | .null, .null, _, _ => exact ⟨rfl, (split_lead hnull hnull hc hd h).2⟩
  | .bool true, .bool true, _, _ => exact ⟨rfl, (split_lead htrue htrue hc hd h).2⟩
  | .bool false, .bool false, _, _ => exact ⟨rfl, (split_lead hfalse hfalse hc hd h).2⟩
  | .num m, .num n, _, _ =>
    obtain ⟨ht, hr⟩ := split_lead (not_ends_decimal m) (not_ends_decimal n) hc hd h
    exact ⟨by rw [Decimal.text_injective ht], hr⟩
  | .str s, .str t, _, _ =>
    obtain ⟨rfl, hr⟩ := quote_lead h
    exact ⟨rfl, List.cons.inj hr⟩
  | .null, .bool b, _, _ => cases b <;> simp [kind] at hk
  | .bool b, .null, _, _ => cases b <;> simp [kind] at hk
  | .bool true, .bool false, _, _ => simp [kind] at hk
  | .bool false, .bool true, _, _ => simp [kind] at hk
  | .num _, .bool b, _, _ => cases b <;> simp [kind] at hk
  | .bool b, .num _, _, _ => cases b <;> simp [kind] at hk
  | .str _, .bool b, _, _ => cases b <;> simp [kind] at hk
  | .bool b, .str _, _, _ => cases b <;> simp [kind] at hk
  | .null, .num _, _, _ => simp [kind] at hk
  | .num _, .null, _, _ => simp [kind] at hk
  | .null, .str _, _, _ => simp [kind] at hk
  | .str _, .null, _, _ => simp [kind] at hk
  | .num _, .str _, _, _ => simp [kind] at hk
  | .str _, .num _, _, _ => simp [kind] at hk

lemma fieldsText_cons (k : String) (v : Json) (rest : List (String × Json)) :
    fieldsText ((k, v) :: rest) =
      quote k ++ ':' :: (v.text ++
        match rest with | [] => ['\x7d'] | f :: fs => ',' :: fieldsText (f :: fs)) := by
  cases rest <;> simp [fieldsText]

lemma fieldsText_injective {fs gs : List (String × Json)} (hf : Flat fs) (hg : Flat gs)
    (h : fieldsText fs = fieldsText gs) : fs = gs := by
  induction fs generalizing gs with
  | nil =>
    match gs with
    | [] => rfl
    | (k, v) :: gs => simp [fieldsText_cons, fieldsText, quote] at h
  | cons f fs ih =>
    obtain ⟨k, v⟩ := f
    match gs with
    | [] => simp [fieldsText_cons, fieldsText, quote] at h
    | (j, w) :: gs =>
      rw [fieldsText_cons, fieldsText_cons] at h
      obtain ⟨rfl, hvw⟩ := quote_lead h
      have hv : Scalar v := hf (k, v) (by simp)
      have hw : Scalar w := hg (k, w) (by simp)
      have hcomma : Ends ',' := .inl rfl
      have hbrace : Ends '\x7d' := .inr rfl
      have hvw := (List.cons.inj hvw).2
      match fs, gs with
      | [], [] => rw [(scalar_lead hv hw hbrace hbrace hvw).1]
      | f :: fs, g :: gs =>
        obtain ⟨rfl, _, hr⟩ := scalar_lead hv hw hcomma hcomma hvw
        rw [ih (fun x hx => hf x (List.mem_cons_of_mem _ hx))
          (fun x hx => hg x (List.mem_cons_of_mem _ hx)) hr]
      | [], g :: gs => exact absurd (scalar_lead hv hw hbrace hcomma hvw).2.1 (by decide)
      | f :: fs, [] => exact absurd (scalar_lead hv hw hcomma hbrace hvw).2.1 (by decide)

theorem stringify_flat_injective {fs gs : List (String × Json)} (hf : Flat fs) (hg : Flat gs)
    (h : stringify (.obj fs) = stringify (.obj gs)) : fs = gs := by
  have ht : text (.obj fs) = text (.obj gs) := String.ofList_injective h
  exact fieldsText_injective hf hg (List.cons.inj ht).2

end Objects

end Json

end OnlineBanking.Library
