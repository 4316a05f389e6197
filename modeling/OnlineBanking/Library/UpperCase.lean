import Mathlib.Data.List.Basic
import Mathlib.Data.Nat.Notation

set_option autoImplicit false

/-! Upper case as Unicode defines it for text without a locale: one character may become several. -/

namespace OnlineBanking.Library

/-- The code points first, first + step, ..., last. In the other case they start with target, target
+ step, ... and go on with `tail`. -/
structure CaseRange where
  first : ℕ
  last : ℕ
  step : ℕ
  target : ℕ
  tail : List ℕ

namespace CaseRange

def covers (r : CaseRange) (n : ℕ) : Bool :=
  Nat.ble n r.last && Nat.ble r.first n && Nat.beq ((n - r.first) % r.step) 0

def image (r : CaseRange) (n : ℕ) : List ℕ := (r.target + (n - r.first)) :: r.tail

end CaseRange

/-- UnicodeData.txt and the unconditional part of SpecialCasing.txt, each list with the code points
below its bound. -/
def caseRanges : List (ℕ × List CaseRange) :=
  [(387, [⟨97, 122, 1, 65, []⟩, ⟨181, 181, 1, 924, []⟩, ⟨223, 223, 1, 83, [83]⟩,
    ⟨224, 246, 1, 192, []⟩,
      ⟨248, 254, 1, 216, []⟩, ⟨255, 255, 1, 376, []⟩, ⟨257, 303, 2, 256, []⟩, ⟨305, 305, 1, 73, []⟩,
      ⟨307, 311, 2, 306, []⟩, ⟨314, 328, 2, 313, []⟩, ⟨329, 329, 1, 700, [78]⟩,
      ⟨331, 375, 2, 330, []⟩,
      ⟨378, 382, 2, 377, []⟩, ⟨383, 383, 1, 83, []⟩, ⟨384, 384, 1, 579, []⟩]),
    (445, [⟨387, 389, 2, 386, []⟩, ⟨392, 392, 1, 391, []⟩, ⟨396, 396, 1, 395, []⟩,
      ⟨402, 402, 1, 401, []⟩,
      ⟨405, 405, 1, 502, []⟩, ⟨409, 409, 1, 408, []⟩, ⟨410, 410, 1, 573, []⟩,
      ⟨411, 411, 1, 42972, []⟩,
      ⟨414, 414, 1, 544, []⟩, ⟨417, 421, 2, 416, []⟩, ⟨424, 424, 1, 423, []⟩,
      ⟨429, 429, 1, 428, []⟩,
      ⟨432, 432, 1, 431, []⟩, ⟨436, 438, 2, 435, []⟩, ⟨441, 441, 1, 440, []⟩]),
    (505, [⟨445, 445, 1, 444, []⟩, ⟨447, 447, 1, 503, []⟩, ⟨453, 453, 1, 452, []⟩,
      ⟨454, 454, 1, 452, []⟩,
      ⟨456, 456, 1, 455, []⟩, ⟨457, 457, 1, 455, []⟩, ⟨459, 459, 1, 458, []⟩,
      ⟨460, 460, 1, 458, []⟩,
      ⟨462, 476, 2, 461, []⟩, ⟨477, 477, 1, 398, []⟩, ⟨479, 495, 2, 478, []⟩,
      ⟨496, 496, 1, 74, [780]⟩,
      ⟨498, 498, 1, 497, []⟩, ⟨499, 499, 1, 497, []⟩, ⟨501, 501, 1, 500, []⟩]),
    (608, [⟨505, 543, 2, 504, []⟩, ⟨547, 563, 2, 546, []⟩, ⟨572, 572, 1, 571, []⟩,
      ⟨575, 576, 1, 11390, []⟩,
      ⟨578, 578, 1, 577, []⟩, ⟨583, 591, 2, 582, []⟩, ⟨592, 592, 1, 11375, []⟩,
      ⟨593, 593, 1, 11373, []⟩,
      ⟨594, 594, 1, 11376, []⟩, ⟨595, 595, 1, 385, []⟩, ⟨596, 596, 1, 390, []⟩,
      ⟨598, 599, 1, 393, []⟩,
      ⟨601, 601, 1, 399, []⟩, ⟨603, 603, 1, 400, []⟩, ⟨604, 604, 1, 42923, []⟩]),
    (637, [⟨608, 608, 1, 403, []⟩, ⟨609, 609, 1, 42924, []⟩, ⟨611, 611, 1, 404, []⟩,
      ⟨612, 612, 1, 42955, []⟩,
      ⟨613, 613, 1, 42893, []⟩, ⟨614, 614, 1, 42922, []⟩, ⟨616, 616, 1, 407, []⟩,
      ⟨617, 617, 1, 406, []⟩,
      ⟨618, 618, 1, 42926, []⟩, ⟨619, 619, 1, 11362, []⟩, ⟨620, 620, 1, 42925, []⟩,
      ⟨623, 623, 1, 412, []⟩,
      ⟨625, 625, 1, 11374, []⟩, ⟨626, 626, 1, 413, []⟩, ⟨629, 629, 1, 415, []⟩]),
    (891, [⟨637, 637, 1, 11364, []⟩, ⟨640, 640, 1, 422, []⟩, ⟨642, 642, 1, 42949, []⟩,
      ⟨643, 643, 1, 425, []⟩,
      ⟨647, 647, 1, 42929, []⟩, ⟨648, 648, 1, 430, []⟩, ⟨649, 649, 1, 580, []⟩,
      ⟨650, 651, 1, 433, []⟩,
      ⟨652, 652, 1, 581, []⟩, ⟨658, 658, 1, 439, []⟩, ⟨669, 669, 1, 42930, []⟩,
      ⟨670, 670, 1, 42928, []⟩,
      ⟨837, 837, 1, 921, []⟩, ⟨881, 883, 2, 880, []⟩, ⟨887, 887, 1, 886, []⟩]),
    (985, [⟨891, 893, 1, 1021, []⟩, ⟨912, 912, 1, 921, [776, 769]⟩, ⟨940, 940, 1, 902, []⟩,
      ⟨941, 943, 1, 904, []⟩, ⟨944, 944, 1, 933, [776, 769]⟩, ⟨945, 961, 1, 913, []⟩,
      ⟨962, 962, 1, 931, []⟩,
      ⟨963, 971, 1, 931, []⟩, ⟨972, 972, 1, 908, []⟩, ⟨973, 974, 1, 910, []⟩,
      ⟨976, 976, 1, 914, []⟩,
      ⟨977, 977, 1, 920, []⟩, ⟨981, 981, 1, 934, []⟩, ⟨982, 982, 1, 928, []⟩,
      ⟨983, 983, 1, 975, []⟩]),
    (1377, [⟨985, 1007, 2, 984, []⟩, ⟨1008, 1008, 1, 922, []⟩, ⟨1009, 1009, 1, 929, []⟩,
      ⟨1010, 1010, 1, 1017, []⟩, ⟨1011, 1011, 1, 895, []⟩, ⟨1013, 1013, 1, 917, []⟩,
      ⟨1016, 1016, 1, 1015, []⟩,
      ⟨1019, 1019, 1, 1018, []⟩, ⟨1072, 1103, 1, 1040, []⟩, ⟨1104, 1119, 1, 1024, []⟩,
      ⟨1121, 1153, 2, 1120, []⟩, ⟨1163, 1215, 2, 1162, []⟩, ⟨1218, 1230, 2, 1217, []⟩,
      ⟨1231, 1231, 1, 1216, []⟩, ⟨1233, 1327, 2, 1232, []⟩]),
    (7549, [⟨1377, 1414, 1, 1329, []⟩, ⟨1415, 1415, 1, 1333, [1362]⟩, ⟨4304, 4346, 1, 7312, []⟩,
      ⟨4349, 4351, 1, 7357, []⟩, ⟨5112, 5117, 1, 5104, []⟩, ⟨7296, 7296, 1, 1042, []⟩,
      ⟨7297, 7297, 1, 1044, []⟩, ⟨7298, 7298, 1, 1054, []⟩, ⟨7299, 7300, 1, 1057, []⟩,
      ⟨7301, 7301, 1, 1058, []⟩, ⟨7302, 7302, 1, 1066, []⟩, ⟨7303, 7303, 1, 1122, []⟩,
      ⟨7304, 7304, 1, 42570, []⟩, ⟨7306, 7306, 1, 7305, []⟩, ⟨7545, 7545, 1, 42877, []⟩]),
    (8016, [⟨7549, 7549, 1, 11363, []⟩, ⟨7566, 7566, 1, 42950, []⟩, ⟨7681, 7829, 2, 7680, []⟩,
      ⟨7830, 7830, 1, 72, [817]⟩, ⟨7831, 7831, 1, 84, [776]⟩, ⟨7832, 7832, 1, 87, [778]⟩,
      ⟨7833, 7833, 1, 89, [778]⟩, ⟨7834, 7834, 1, 65, [702]⟩, ⟨7835, 7835, 1, 7776, []⟩,
      ⟨7841, 7935, 2, 7840, []⟩, ⟨7936, 7943, 1, 7944, []⟩, ⟨7952, 7957, 1, 7960, []⟩,
      ⟨7968, 7975, 1, 7976, []⟩, ⟨7984, 7991, 1, 7992, []⟩, ⟨8000, 8005, 1, 8008, []⟩]),
    (8088, [⟨8016, 8016, 1, 933, [787]⟩, ⟨8017, 8023, 2, 8025, []⟩,
      ⟨8018, 8018, 1, 933, [787, 768]⟩,
      ⟨8020, 8020, 1, 933, [787, 769]⟩, ⟨8022, 8022, 1, 933, [787, 834]⟩, ⟨8032, 8039, 1, 8040, []⟩,
      ⟨8048, 8049, 1, 8122, []⟩, ⟨8050, 8053, 1, 8136, []⟩, ⟨8054, 8055, 1, 8154, []⟩,
      ⟨8056, 8057, 1, 8184, []⟩, ⟨8058, 8059, 1, 8170, []⟩, ⟨8060, 8061, 1, 8186, []⟩,
      ⟨8064, 8071, 1, 7944, [921]⟩, ⟨8072, 8079, 1, 7944, [921]⟩, ⟨8080, 8087, 1, 7976, [921]⟩]),
    (8135, [⟨8088, 8095, 1, 7976, [921]⟩, ⟨8096, 8103, 1, 8040, [921]⟩,
      ⟨8104, 8111, 1, 8040, [921]⟩,
      ⟨8112, 8113, 1, 8120, []⟩, ⟨8114, 8114, 1, 8122, [921]⟩, ⟨8115, 8115, 1, 913, [921]⟩,
      ⟨8116, 8116, 1, 902, [921]⟩, ⟨8118, 8118, 1, 913, [834]⟩, ⟨8119, 8119, 1, 913, [834, 921]⟩,
      ⟨8124, 8124, 1, 913, [921]⟩, ⟨8126, 8126, 1, 921, []⟩, ⟨8130, 8130, 1, 8138, [921]⟩,
      ⟨8131, 8131, 1, 919, [921]⟩, ⟨8132, 8132, 1, 905, [921]⟩, ⟨8134, 8134, 1, 919, [834]⟩]),
    (8179, [⟨8135, 8135, 1, 919, [834, 921]⟩, ⟨8140, 8140, 1, 919, [921]⟩,
      ⟨8144, 8145, 1, 8152, []⟩,
      ⟨8146, 8146, 1, 921, [776, 768]⟩, ⟨8147, 8147, 1, 921, [776, 769]⟩,
      ⟨8150, 8150, 1, 921, [834]⟩,
      ⟨8151, 8151, 1, 921, [776, 834]⟩, ⟨8160, 8161, 1, 8168, []⟩, ⟨8162, 8162, 1, 933, [776, 768]⟩,
      ⟨8163, 8163, 1, 933, [776, 769]⟩, ⟨8164, 8164, 1, 929, [787]⟩, ⟨8165, 8165, 1, 8172, []⟩,
      ⟨8166, 8166, 1, 933, [834]⟩, ⟨8167, 8167, 1, 933, [776, 834]⟩, ⟨8178, 8178, 1, 8186, [921]⟩]),
    (11382, [⟨8179, 8179, 1, 937, [921]⟩, ⟨8180, 8180, 1, 911, [921]⟩, ⟨8182, 8182, 1, 937, [834]⟩,
      ⟨8183, 8183, 1, 937, [834, 921]⟩, ⟨8188, 8188, 1, 937, [921]⟩, ⟨8526, 8526, 1, 8498, []⟩,
      ⟨8560, 8575, 1, 8544, []⟩, ⟨8580, 8580, 1, 8579, []⟩, ⟨9424, 9449, 1, 9398, []⟩,
      ⟨11312, 11359, 1, 11264, []⟩, ⟨11361, 11361, 1, 11360, []⟩, ⟨11365, 11365, 1, 570, []⟩,
      ⟨11366, 11366, 1, 574, []⟩, ⟨11368, 11372, 2, 11367, []⟩, ⟨11379, 11379, 1, 11378, []⟩]),
    (42900, [⟨11382, 11382, 1, 11381, []⟩, ⟨11393, 11491, 2, 11392, []⟩,
      ⟨11500, 11502, 2, 11499, []⟩,
      ⟨11507, 11507, 1, 11506, []⟩, ⟨11520, 11557, 1, 4256, []⟩, ⟨11559, 11559, 1, 4295, []⟩,
      ⟨11565, 11565, 1, 4301, []⟩, ⟨42561, 42605, 2, 42560, []⟩, ⟨42625, 42651, 2, 42624, []⟩,
      ⟨42787, 42799, 2, 42786, []⟩, ⟨42803, 42863, 2, 42802, []⟩, ⟨42874, 42876, 2, 42873, []⟩,
      ⟨42879, 42887, 2, 42878, []⟩, ⟨42892, 42892, 1, 42891, []⟩, ⟨42897, 42899, 2, 42896, []⟩]),
    (64275, [⟨42900, 42900, 1, 42948, []⟩, ⟨42903, 42921, 2, 42902, []⟩,
      ⟨42933, 42947, 2, 42932, []⟩,
      ⟨42952, 42954, 2, 42951, []⟩, ⟨42957, 42971, 2, 42956, []⟩, ⟨42998, 42998, 1, 42997, []⟩,
      ⟨43859, 43859, 1, 42931, []⟩, ⟨43888, 43967, 1, 5024, []⟩, ⟨64256, 64256, 1, 70, [70]⟩,
      ⟨64257, 64257, 1, 70, [73]⟩, ⟨64258, 64258, 1, 70, [76]⟩, ⟨64259, 64259, 1, 70, [70, 73]⟩,
      ⟨64260, 64260, 1, 70, [70, 76]⟩, ⟨64261, 64261, 1, 83, [84]⟩, ⟨64262, 64262, 1, 83, [84]⟩]),
    (93792, [⟨64275, 64275, 1, 1348, [1350]⟩, ⟨64276, 64276, 1, 1348, [1333]⟩,
      ⟨64277, 64277, 1, 1348, [1339]⟩,
      ⟨64278, 64278, 1, 1358, [1350]⟩, ⟨64279, 64279, 1, 1348, [1341]⟩,
      ⟨65345, 65370, 1, 65313, []⟩,
      ⟨66600, 66639, 1, 66560, []⟩, ⟨66776, 66811, 1, 66736, []⟩, ⟨66967, 66977, 1, 66928, []⟩,
      ⟨66979, 66993, 1, 66940, []⟩, ⟨66995, 67001, 1, 66956, []⟩, ⟨67003, 67004, 1, 66964, []⟩,
      ⟨68800, 68850, 1, 68736, []⟩, ⟨68976, 68997, 1, 68944, []⟩, ⟨71872, 71903, 1, 71840, []⟩]),
    (1114112, [⟨93792, 93823, 1, 93760, []⟩, ⟨93883, 93907, 1, 93856, []⟩,
      ⟨125218, 125251, 1, 125184, []⟩])]

def caseRange (n : ℕ) : Option CaseRange :=
  (caseRanges.find? fun b => Nat.blt n b.1).bind fun b => b.2.find? fun r => r.covers n

def upperCodes (n : ℕ) : List ℕ :=
  match caseRange n with
  | some r => r.image n
  | none => [n]

def upperCase (c : Char) : List Char := (upperCodes c.toNat).map Char.ofNat

@[irreducible] def toUpperCase (s : String) : String := String.ofList (s.toList.flatMap upperCase)

def CaseRange.closed (r : CaseRange) : Bool :=
  (List.range (r.last + 1 - r.first)).all fun k => !r.covers (r.first + k) ||
    (r.image (r.first + k)).all fun m => decide m.isValidChar && (caseRange m).isNone

lemma caseRanges_closed : (caseRanges.all fun b => b.2.all CaseRange.closed) = true := by
  decide +kernel

lemma caseRange_eq_some {n : ℕ} {r : CaseRange} (h : caseRange n = some r) :
    r.covers n = true ∧ ∃ b ∈ caseRanges, r ∈ b.2 := by
  obtain ⟨b, hb, hr⟩ := Option.bind_eq_some_iff.mp h
  have hcovers := @List.find?_some _ (fun r : CaseRange => r.covers n) _ _ hr
  exact ⟨hcovers, b, List.mem_of_find?_eq_some hb, List.mem_of_find?_eq_some hr⟩

lemma CaseRange.covers_iff {r : CaseRange} {n : ℕ} :
    r.covers n = true ↔ (n ≤ r.last ∧ r.first ≤ n) ∧ (n - r.first) % r.step = 0 := by
  simp [covers]

lemma image_closed {r : CaseRange} {n m : ℕ} (hr : caseRange n = some r) (hm : m ∈ r.image n) :
    m.isValidChar ∧ caseRange m = none := by
  obtain ⟨hn, b, hb, hrb⟩ := caseRange_eq_some hr
  have hbounds := (CaseRange.covers_iff.mp hn).1
  have hk : n - r.first ∈ List.range (r.last + 1 - r.first) := List.mem_range.mpr (by omega)
  have hclosed := List.all_eq_true.mp
    (List.all_eq_true.mp (List.all_eq_true.mp caseRanges_closed b hb) r hrb) _ hk
  rw [show r.first + (n - r.first) = n by omega, hn] at hclosed
  simpa using List.all_eq_true.mp hclosed m hm

lemma upperCodes_upperCodes {n m : ℕ} (h : m ∈ upperCodes n) : upperCodes m = [m] := by
  unfold upperCodes at h
  split at h
  · rename_i r hr
    simp [upperCodes, (image_closed hr h).2]
  · rename_i hnone
    obtain rfl := List.mem_singleton.mp h
    simp [upperCodes, hnone]

lemma upperCodes_valid {n m : ℕ} (hn : n.isValidChar) (h : m ∈ upperCodes n) : m.isValidChar := by
  unfold upperCodes at h
  split at h
  · rename_i r hr
    exact (image_closed hr h).1
  · exact List.mem_singleton.mp h ▸ hn

lemma toNat_ofNat_of_valid {n : ℕ} (h : n.isValidChar) : (Char.ofNat n).toNat = n := by
  unfold Char.ofNat
  rw [dif_pos h]
  rfl

lemma upperCase_upperCase {c d : Char} (h : d ∈ upperCase c) : upperCase d = [d] := by
  obtain ⟨m, hm, rfl⟩ := List.mem_map.mp h
  rw [upperCase, toNat_ofNat_of_valid (upperCodes_valid c.valid hm), upperCodes_upperCodes hm,
    List.map_singleton]

lemma toUpperCase_toUpperCase (s : String) : toUpperCase (toUpperCase s) = toUpperCase s := by
  have hfixed : ∀ cs : List Char, (∀ c ∈ cs, upperCase c = [c]) → cs.flatMap upperCase = cs := by
    intro cs h
    induction cs with
    | nil => rfl
    | cons c cs ih =>
      rw [List.flatMap_cons, h c List.mem_cons_self, ih fun d hd => h d (List.mem_cons_of_mem c hd)]
      rfl
  unfold toUpperCase
  rw [String.toList_ofList, hfixed]
  intro d hd
  obtain ⟨c, _, hc⟩ := List.mem_flatMap.mp hd
  exact upperCase_upperCase hc

lemma upperCase_ne_nil (c : Char) : upperCase c ≠ [] := by
  unfold upperCase upperCodes
  split
  · simp [CaseRange.image]
  · simp

def CaseRange.makes (r : CaseRange) (m : ℕ) : Bool :=
  Nat.ble r.target m && Nat.ble m (r.target + (r.last - r.first)) || r.tail.elem m

lemma eq_of_mem_upperCase {c d : Char} (h : d ∈ upperCase c)
    (hmakes : (caseRanges.all fun b => b.2.all fun r => !r.makes d.toNat) = true) : d = c := by
  obtain ⟨m, hm, rfl⟩ := List.mem_map.mp h
  rw [toNat_ofNat_of_valid (upperCodes_valid c.valid hm)] at hmakes
  unfold upperCodes at hm
  split at hm
  · rename_i r hr
    obtain ⟨hn, b, hb, hrb⟩ := caseRange_eq_some hr
    have hbounds := (CaseRange.covers_iff.mp hn).1
    have hnot := List.all_eq_true.mp (List.all_eq_true.mp hmakes b hb) r hrb
    simp only [CaseRange.makes, Bool.not_eq_true', Bool.or_eq_false_iff] at hnot
    rcases List.mem_cons.mp hm with rfl | htail
    · have hin : (Nat.ble r.target (r.target + (c.toNat - r.first)) &&
          Nat.ble (r.target + (c.toNat - r.first)) (r.target + (r.last - r.first))) = true := by
        simp
        omega
      rw [hin] at hnot
      exact absurd hnot.1 (by simp)
    · rw [List.elem_eq_true_of_mem htail] at hnot
      exact absurd hnot.2 (by simp)
  · obtain rfl := List.mem_singleton.mp hm
    exact Char.ofNat_toNat c

end OnlineBanking.Library
