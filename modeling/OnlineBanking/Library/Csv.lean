import Mathlib.Data.List.Count
import Mathlib.Data.List.Infix

set_option autoImplicit false

/-! Comma-separated values, as RFC 4180 describes them, over all characters. Records end at a CRLF
or at a bare LF. -/

namespace OnlineBanking.Library.Csv

def dquote : Char := '\x22'

inductive Mode
  | start | plain | quoted | closing | carriage
  deriving DecidableEq

/-- What has been read: the records, the fields of the open record and the text of the open field.
In the mode `closing` the last character was a quotation mark inside a quoted field. -/
structure Reader where
  mode : Mode := .start
  field : List Char := []
  record : List String := []
  records : List (List String) := []

namespace Reader

def push (r : Reader) (c : Char) : Reader := { r with field := r.field ++ [c] }

def endField (r : Reader) : Reader :=
  { r with mode := .start, field := [], record := r.record ++ [String.ofList r.field] }

def endRecord (r : Reader) : Reader :=
  { mode := .start, field := [], record := [], records :=
    r.records ++ [r.record ++ [String.ofList r.field]] }

def separate (r : Reader) (c : Char) : Option Reader :=
  if c = ',' then some r.endField
  else if c = '\n' then some r.endRecord
  else if c = '\r' then some { r with mode := .carriage }
  else none

def step (r : Reader) (c : Char) : Option Reader :=
  match r.mode with
  | .start =>
    if c = dquote then some { r with mode := .quoted } else r.separate c <|>
      some { r.push c with mode := .plain }
  | .plain => if c = dquote then none else r.separate c <|> some (r.push c)
  | .quoted => if c = dquote then some { r with mode := .closing } else some (r.push c)
  | .closing => if c = dquote then some { r.push c with mode := .quoted } else r.separate c
  | .carriage => if c = '\n' then some r.endRecord else none

def finish (r : Reader) : Option (List (List String)) :=
  match r.mode with
  | .quoted | .carriage => none
  | .start => if r.record = [] ∧ r.records ≠ [] then some r.records else some r.endRecord.records
  | .plain | .closing => some r.endRecord.records

def run : Reader → List Char → Option (List (List String))
  | r, [] => r.finish
  | r, c :: cs => (r.step c).bind fun r' => r'.run cs

end Reader

def read (text : String) : Option (List (List String)) := Reader.run {} text.toList

namespace Reader

variable {r r' : Reader} {rows : List (List String)} {c : Char} {cs : List Char}

def closed (r : Reader) : List String := r.records.flatten ++ r.record

@[simp] lemma closed_endField : r.endField.closed = r.closed ++ [String.ofList r.field] := by
  simp [closed, endField]

@[simp] lemma closed_endRecord : r.endRecord.closed = r.closed ++ [String.ofList r.field] := by
  simp [closed, endRecord]

lemma closed_separate (h : r.separate c = some r') : r.closed <+: r'.closed := by
  unfold separate at h
  split at h
  · obtain rfl := Option.some.inj h
    simp
  · split at h
    · obtain rfl := Option.some.inj h
      simp
    · split at h
      · obtain rfl := Option.some.inj h
        exact List.prefix_refl _
      · cases h

lemma closed_step (h : r.step c = some r') : r.closed <+: r'.closed := by
  have hseparate : ∀ {r₀ : Reader}, (r.separate c <|> some r₀) = some r' → r₀.closed = r.closed →
      r.closed <+: r'.closed := by
    intro r₀ h h₀
    cases hs : r.separate c with
    | some r₁ =>
      obtain rfl : r₁ = r' := by simpa [hs] using h
      exact closed_separate hs
    | none =>
      obtain rfl : r₀ = r' := by simpa [hs] using h
      rw [h₀]
  unfold step at h
  cases hm : r.mode with
  | start =>
    rw [hm] at h
    dsimp only at h
    split at h
    · obtain rfl := Option.some.inj h
      exact List.prefix_refl _
    · exact hseparate h rfl
  | plain =>
    rw [hm] at h
    dsimp only at h
    split at h
    · cases h
    · exact hseparate h rfl
  | quoted =>
    rw [hm] at h
    dsimp only at h
    split at h
    · obtain rfl := Option.some.inj h
      exact List.prefix_refl _
    · obtain rfl := Option.some.inj h
      exact List.prefix_refl _
  | closing =>
    rw [hm] at h
    dsimp only at h
    split at h
    · obtain rfl := Option.some.inj h
      exact List.prefix_refl _
    · exact closed_separate h
  | carriage =>
    rw [hm] at h
    dsimp only at h
    split at h
    · obtain rfl := Option.some.inj h
      simp
    · cases h

lemma closed_run (h : r.run cs = some rows) : r.closed <+: rows.flatten := by
  induction cs generalizing r with
  | nil =>
    unfold run finish at h
    have hend : r.closed <+: r.endRecord.records.flatten := by simp [closed, endRecord]
    cases hm : r.mode with
    | start =>
      rw [hm] at h
      dsimp only at h
      split at h
      · rename_i hempty
        obtain rfl := Option.some.inj h
        simp [closed, hempty.1]
      · exact Option.some.inj h ▸ hend
    | plain => exact Option.some.inj (hm ▸ h) ▸ hend
    | closing => exact Option.some.inj (hm ▸ h) ▸ hend
    | quoted => simp [hm] at h
    | carriage => simp [hm] at h
  | cons c cs ih =>
    obtain ⟨r', hr', hrun⟩ := Option.bind_eq_some_iff.mp h
    exact (closed_step hr').trans (ih hrun)

structure Doubled (raw text : List Char) : Prop where
  length : raw.length = text.length + text.count dquote
  count : raw.count dquote = 2 * text.count dquote

lemma Doubled.nil : Doubled [] [] := ⟨rfl, rfl⟩

lemma Doubled.cons {raw text : List Char} (h : Doubled raw text) (hc : c ≠ dquote) :
    Doubled (c :: raw) (c :: text) := by
  obtain ⟨hlength, hcount⟩ := h
  constructor
  · simp only [List.length_cons, List.count_cons_of_ne hc, hlength]
    omega
  · rw [List.count_cons_of_ne hc, List.count_cons_of_ne hc, hcount]

lemma Doubled.cons_dquote {raw text : List Char} (h : Doubled raw text) :
    Doubled (dquote :: dquote :: raw) (dquote :: text) := by
  obtain ⟨hlength, hcount⟩ := h
  constructor
  · simp only [List.length_cons, List.count_cons_self, hlength]
    omega
  · simp only [List.count_cons_self, hcount]
    omega

lemma Doubled.not_mem {raw text rest rest' : List Char} (h : Doubled raw text)
    (hsplit : text ++ dquote :: rest = raw ++ dquote :: rest') (hrest : rest.head? ≠ some dquote) :
    dquote ∉ text := by
  intro hmem
  have hpos : 0 < text.count dquote := List.count_pos_iff.mpr hmem
  -- the text and the quotation mark after it are not all that was spelled
  have hprefix : text ++ [dquote] <+: raw := by
    have hfront : text ++ [dquote] <+: raw ++ dquote :: rest' := ⟨rest, by simp [← hsplit]⟩
    apply List.prefix_of_prefix_length_le hfront (List.prefix_append _ _)
    simp only [List.length_append, List.length_singleton, h.length]
    omega
  obtain ⟨more, rfl⟩ := hprefix
  obtain rfl : rest = more ++ dquote :: rest' := by simpa using hsplit
  -- and what is left of it has nothing but quotation marks
  have hlength := h.length
  have hcount := h.count
  simp only [List.length_append, List.length_singleton, List.count_append,
    List.count_singleton_self] at hlength hcount
  have hall : more.count dquote = more.length := by omega
  cases more with
  | nil => exact hrest rfl
  | cons c more =>
    obtain rfl : dquote = c := List.count_eq_length.mp hall c List.mem_cons_self
    exact hrest rfl

def Pending (r : Reader) : Prop := r.mode = .plain ∨ r.mode = .closing

lemma Pending.separate (h : r.Pending) (hc : c = ',' ∨ c = '\n') :
    r.step c = some (if c = ',' then r.endField else r.endRecord) := by
  have hquote : c ≠ dquote := by rcases hc with rfl | rfl <;> decide
  have hseparate : r.separate c = some (if c = ',' then r.endField else r.endRecord) := by
    rcases hc with rfl | rfl
    · rfl
    · rfl
  rcases h with h | h
  · simp [step, h, hquote, hseparate]
  · simp [step, h, hquote, hseparate]

lemma Pending.finish (h : r.Pending) : r.finish = some r.endRecord.records := by
  rcases h with h | h
  · simp [Reader.finish, h]
  · simp [Reader.finish, h]

lemma closed_of_ending (hmode : r.mode = .carriage ∨ r.mode = .closing ∧ cs.head? ≠ some dquote)
    (h : r.run cs = some rows) : r.closed ++ [String.ofList r.field] <+: rows.flatten := by
  have hcarriage : ∀ {r : Reader} {cs : List Char}, r.mode = .carriage → r.run cs = some rows →
      r.closed ++ [String.ofList r.field] <+: rows.flatten := by
    intro r cs hm h
    cases cs with
    | nil => simp [run, Reader.finish, hm] at h
    | cons c cs =>
      obtain ⟨r', hr', hrun⟩ := Option.bind_eq_some_iff.mp h
      simp only [step, hm, Option.ite_none_right_eq_some, Option.some.injEq] at hr'
      obtain ⟨_, rfl⟩ := hr'
      exact closed_endRecord ▸ closed_run hrun
  rcases hmode with hm | ⟨hm, hhead⟩
  · exact hcarriage hm h
  · cases cs with
    | nil =>
      have hend : r.run [] = some r.endRecord.records := Pending.finish (.inr hm)
      obtain rfl := Option.some.inj (hend.symm.trans h)
      simp [closed, endRecord]
    | cons c cs =>
      have hc : c ≠ dquote := fun heq => hhead (by rw [heq]; rfl)
      obtain ⟨r', hr', hrun⟩ := Option.bind_eq_some_iff.mp h
      simp only [step, hm, hc, ↓reduceIte, Reader.separate] at hr'
      split at hr'
      · obtain rfl := Option.some.inj hr'
        exact closed_endField ▸ closed_run hrun
      · split at hr'
        · obtain rfl := Option.some.inj hr'
          exact closed_endRecord ▸ closed_run hrun
        · split at hr'
          · obtain rfl := Option.some.inj hr'
            exact hcarriage (r := { r with mode := .carriage }) rfl hrun
          · cases hr'

lemma quoted_of_run : ∀ {cs : List Char} {r : Reader}, r.mode = .quoted → r.run cs = some rows →
    ∃ raw text rest, cs = raw ++ dquote :: rest ∧ Doubled raw text ∧
      r.closed ++ [String.ofList (r.field ++ text)] <+: rows.flatten
  | [], r, hm, h => by simp [run, Reader.finish, hm] at h
  | c :: cs, r, hm, h => by
    by_cases hc : c = dquote
    · subst hc
      have h : ({ r with mode := .closing } : Reader).run cs = some rows := by
        simpa [run, step, hm] using h
      cases cs with
      | nil =>
        have hclosed := closed_of_ending (.inr ⟨rfl, by simp⟩) h
        exact ⟨[], [], [], rfl, .nil, by simpa [closed] using hclosed⟩
      | cons d ds =>
        by_cases hd : d = dquote
        · subst hd
          have hpushed : ({ r.push dquote with mode := .quoted } : Reader).run ds = some rows := by
            simpa [run, step, push] using h
          obtain ⟨raw, text, rest, rfl, hdoubled, hprefix⟩ := quoted_of_run rfl hpushed
          exact ⟨_, _, rest, rfl, hdoubled.cons_dquote, by simpa [closed, push] using hprefix⟩
        · have hend := closed_of_ending (.inr ⟨rfl, by simpa using hd⟩) h
          exact ⟨[], [], d :: ds, rfl, .nil, by simpa [closed] using hend⟩
    · have hpushed : (r.push c).run cs = some rows := by simpa [run, step, hm, hc] using h
      obtain ⟨raw, text, rest, rfl, hdoubled, hprefix⟩ := quoted_of_run (r := r.push c) hm hpushed
      exact ⟨c :: raw, c :: text, rest, rfl,
        hdoubled.cons hc, by simpa [closed, push] using hprefix⟩

lemma run_unquoted {text : List Char} (hm : r.mode = .quoted) (htext : dquote ∉ text) :
    r.run (text ++ dquote :: cs) =
      ({ r with mode := .closing, field := r.field ++ text } : Reader).run cs := by
  induction text generalizing r with
  | nil => simp [run, step, hm]
  | cons c text ih =>
    have hc : dquote ≠ c := List.ne_of_not_mem_cons htext
    have htext : dquote ∉ text := List.not_mem_of_not_mem_cons htext
    have hpush : r.run (c :: (text ++ dquote :: cs)) = (r.push c).run (text ++ dquote :: cs) := by
      simp [run, step, hm, Ne.symm hc]
    rw [List.cons_append, hpush, ih (by simpa [push] using hm) htext]
    simp [push]

def placed (r : Reader) (p : Char × String) : Reader :=
  { (if p.1 = ',' then r.endField else r.endRecord) with mode := .closing, field := p.2.toList }

lemma pending_placed (p : Char × String) : (r.placed p).Pending := .inr rfl

lemma closed_placed (p : Char × String) :
    (r.placed p).closed = r.closed ++ [String.ofList r.field] := by
  have hkept : (r.placed p).closed = (if p.1 = ',' then r.endField else r.endRecord).closed := rfl
  rw [hkept]
  split
  · exact closed_endField
  · exact closed_endRecord

def quotedText (p : Char × String) : List Char := p.1 :: dquote :: p.2.toList ++ [dquote]

lemma closed_foldl (ps : List (Char × String)) :
    r.closed ++ [String.ofList r.field] <+: (ps.foldl placed r).endRecord.records.flatten := by
  induction ps generalizing r with
  | nil => simp [closed, endRecord]
  | cons p ps ih =>
    have hnext := (List.prefix_append _ _).trans (ih (r := r.placed p))
    rwa [closed_placed] at hnext

theorem run_quotedText_iff {ps : List (Char × String)} (hr : r.Pending)
    (hps : ∀ p ∈ ps, p.1 = ',' ∨ p.1 = '\n') :
    r.run (ps.flatMap quotedText) = some (ps.foldl placed r).endRecord.records ↔
      ∀ p ∈ ps, dquote ∉ p.2.toList := by
  induction ps generalizing r with
  | nil =>
    constructor
    · simp
    · exact fun _ => hr.finish
  | cons p ps ih =>
    obtain ⟨separator, field⟩ := p
    have hseparator := hps _ List.mem_cons_self
    have hrest : (ps.flatMap quotedText).head? ≠ some dquote := by
      cases ps with
      | nil => simp
      | cons q qs =>
        have hq : q.1 ≠ dquote := by rcases hps q (by simp) with h | h <;> rw [h] <;> decide
        simpa [quotedText] using hq
    have hopen : r.run ((⟨separator, field⟩ :: ps).flatMap quotedText) =
        ({ r.placed ⟨separator, field⟩ with mode := .quoted, field := [] } : Reader).run
          (field.toList ++ dquote :: ps.flatMap quotedText) := by
      have hended : ∀ cs, (if separator = ',' then r.endField else r.endRecord).run (dquote :: cs) =
          ({ r.placed ⟨separator, field⟩ with mode := .quoted, field := [] } : Reader).run cs := by
        intro cs
        unfold placed
        dsimp only
        split
        · rfl
        · rfl
      rw [← hended, List.flatMap_cons, quotedText, List.cons_append, List.cons_append,
        List.append_assoc]
      change (r.step separator).bind _ = _
      rw [hr.separate hseparator]
      rfl
    rw [hopen, List.foldl_cons]
    by_cases hfield : dquote ∈ field.toList
    · constructor
      · intro h
        obtain ⟨raw, text, rest, hsplit, hdoubled, hprefix⟩ := quoted_of_run rfl h
        obtain ⟨rfl⟩ : text = field.toList := by
          have hclosed := closed_foldl (r := r.placed ⟨separator, field⟩) ps
          have heq := List.prefix_of_prefix_length_le hprefix hclosed (by simp [closed])
          have hlast := heq.eq_of_length (by simp [closed])
          have htext : String.ofList text = field := by simpa [closed, placed] using hlast
          rw [← htext, String.toList_ofList]
        exact absurd hfield (hdoubled.not_mem hsplit hrest)
      · exact fun h => absurd hfield (h _ List.mem_cons_self)
    · rw [run_unquoted rfl hfield]
      have hplaced := ih (pending_placed (r := r) ⟨separator, field⟩) fun q hq =>
        hps q (List.mem_cons_of_mem _ hq)
      simp only [List.forall_mem_cons, hfield, not_false_eq_true, true_and]
      exact hplaced

def pieces : List String → List (Char × String)
  | [] => []
  | field :: fields => ('\n', field) :: fields.map fun f => (',', f)

lemma separator_of_pieces {row : List String} {p : Char × String} (hp : p ∈ pieces row) :
    p.1 = ',' ∨ p.1 = '\n' := by
  cases row with
  | nil => cases hp
  | cons field fields =>
    rcases List.mem_cons.mp hp with rfl | hp
    · exact .inr rfl
    · obtain ⟨f, _, rfl⟩ := List.mem_map.mp hp
      exact .inl rfl

lemma mem_pieces {row : List String} {field : String} :
    (∃ p ∈ pieces row, p.2 = field) ↔ field ∈ row := by
  cases row with
  | nil => simp [pieces]
  | cons f fs => simp [pieces, eq_comm]

lemma records_foldl_fields (fields : List String) :
    ((fields.map fun f => (',', f)).foldl placed r).endRecord.records =
      r.records ++ [r.record ++ String.ofList r.field :: fields] := by
  induction fields generalizing r with
  | nil => simp [endRecord]
  | cons f fs ih =>
    rw [List.map_cons, List.foldl_cons, ih]
    simp [placed, endField]

lemma records_foldl_pieces (hrows : ∀ row ∈ rows, row ≠ []) :
    ((rows.flatMap pieces).foldl placed r).endRecord.records = r.endRecord.records ++ rows := by
  induction rows generalizing r with
  | nil => simp
  | cons row rows ih =>
    obtain ⟨field, fields, rfl⟩ := List.exists_cons_of_ne_nil (hrows row List.mem_cons_self)
    rw [List.flatMap_cons, List.foldl_append, ih fun row h =>
      hrows row (List.mem_cons_of_mem _ h), pieces,
      List.foldl_cons, records_foldl_fields]
    simp [placed, endRecord]

structure Plain (field : String) : Prop where
  nonempty : field.toList ≠ []
  plain : ∀ c ∈ field.toList, c ≠ dquote ∧ c ≠ ',' ∧ c ≠ '\n' ∧ c ≠ '\r'

lemma run_plain {text : List Char} (hm : r.mode = .plain)
    (htext : ∀ c ∈ text, c ≠ dquote ∧ c ≠ ',' ∧ c ≠ '\n' ∧ c ≠ '\r') :
    r.run (text ++ cs) = ({ r with field := r.field ++ text } : Reader).run cs := by
  induction text generalizing r with
  | nil => simp
  | cons c text ih =>
    obtain ⟨hquote, hcomma, hbreak, hreturn⟩ := htext c List.mem_cons_self
    have hpush : r.run (c :: (text ++ cs)) = (r.push c).run (text ++ cs) := by
      simp [run, step, separate, hm, hquote, hcomma, hbreak, hreturn]
    rw [List.cons_append, hpush, ih (r := r.push c) hm fun d hd =>
      htext d (List.mem_cons_of_mem _ hd)]
    simp [push]

lemma run_field {field : String} (hm : r.mode = .start) (hf : r.field = []) (hfield : Plain field) :
    r.run (field.toList ++ cs) = ({ r with mode := .plain, field := field.toList } : Reader).run
      cs := by
  obtain ⟨hnonempty, hplain⟩ := hfield
  obtain ⟨c, text, htext⟩ := List.exists_cons_of_ne_nil hnonempty
  rw [htext] at hplain ⊢
  obtain ⟨hquote, hcomma, hbreak, hreturn⟩ := hplain c List.mem_cons_self
  have hpush : r.run (c :: (text ++ cs)) = ({ r.push c with mode := .plain } : Reader).run
    (text ++ cs) := by
    simp [run, step, separate, hm, hquote, hcomma, hbreak, hreturn]
  rw [List.cons_append, hpush, run_plain rfl fun d hd => hplain d (List.mem_cons_of_mem _ hd)]
  simp [push, hf]

lemma run_header (cs : List Char) {header : List String} (hne : header ≠ []) (hm : r.mode = .start)
    (hf : r.field = []) (hheader : ∀ field ∈ header, Plain field) :
    ∃ r' : Reader, r'.Pending ∧ r'.endRecord.records = r.records ++ [r.record ++ header] ∧
      r.run ((",".intercalate header).toList ++ cs) = r'.run cs := by
  induction header generalizing r with
  | nil => exact absurd rfl hne
  | cons field fields ih =>
    have hfield := hheader field List.mem_cons_self
    cases fields with
    | nil =>
      refine ⟨{ r with mode := .plain, field := field.toList }, .inl rfl, ?_, ?_⟩
      · simp [endRecord]
      · exact run_field hm hf hfield
    | cons next fields =>
      let ended : Reader := ({ r with mode := .plain, field := field.toList } : Reader).endField
      obtain ⟨r', hpending, hrecords, hrun⟩ := ih (r := ended) (by simp) rfl rfl fun f hmem =>
        hheader f (List.mem_cons_of_mem _ hmem)
      refine ⟨r', hpending, ?_, ?_⟩
      · rw [hrecords]
        simp [ended, endField]
      · rw [String.intercalate_cons_cons, String.toList_append, String.toList_append,
          List.append_assoc,
          List.append_assoc, run_field hm hf hfield, ← hrun]
        rfl

end Reader

lemma toList_intercalate_cons (separator s : String) (ss : List String) :
    (separator.intercalate (s :: ss)).toList = s.toList ++ ss.flatMap fun t =>
    separator.toList ++ t.toList := by
  induction ss generalizing s with
  | nil => simp
  | cons t ts ih =>
    rw [String.intercalate_cons_cons, String.toList_append, ih]
    simp

lemma toList_quoted {row : List String} (hrow : row ≠ []) :
    '\n' :: (",".intercalate (row.map fun field => "\x22" ++ field ++ "\x22")).toList =
      (Reader.pieces row).flatMap Reader.quotedText := by
  obtain ⟨field, fields, rfl⟩ := List.exists_cons_of_ne_nil hrow
  rw [List.map_cons, toList_intercalate_cons]
  simp [Reader.pieces, Reader.quotedText, List.flatMap_map, dquote]

theorem read_quoted_iff {header : List String} {rows : List (List String)} (hne : header ≠ [])
    (hheader : ∀ field ∈ header, Reader.Plain field) (hrows : ∀ row ∈ rows, row ≠ []) :
    read ("\n".intercalate (",".intercalate header ::
      rows.map fun row => ",".intercalate (row.map fun field => "\x22" ++ field ++ "\x22"))) = some
        (header :: rows) ↔
      ∀ row ∈ rows, ∀ field ∈ row, dquote ∉ field.toList := by
  have htext : rows.flatMap (fun row => '\n' ::
      (",".intercalate (row.map fun field => "\x22" ++ field ++ "\x22")).toList) =
      (rows.flatMap Reader.pieces).flatMap Reader.quotedText := by
    rw [List.flatMap_assoc]
    exact List.flatMap_congr fun row h => toList_quoted (hrows row h)
  obtain ⟨r, hpending, hrecords, hrun⟩ :=
    Reader.run_header (r := {}) ((rows.flatMap Reader.pieces).flatMap Reader.quotedText) hne
      rfl rfl hheader
  have hseparators : ∀ p ∈ rows.flatMap Reader.pieces, p.1 = ',' ∨ p.1 = '\n' := by
    intro p hp
    obtain ⟨row, _, hp⟩ := List.mem_flatMap.mp hp
    exact Reader.separator_of_pieces hp
  have hfields := Reader.run_quotedText_iff hpending hseparators
  have hlines : "\n".toList = ['\n'] := rfl
  rw [read, toList_intercalate_cons, List.flatMap_map, hlines]
  simp only [List.singleton_append]
  rw [htext, hrun]
  have hall : ([] : List (List String)) ++ [[] ++ header] ++ rows = header :: rows := rfl
  rw [Reader.records_foldl_pieces hrows, hrecords, hall] at hfields
  rw [hfields]
  constructor
  · intro h row hrow field hfield
    obtain ⟨p, hp, rfl⟩ := Reader.mem_pieces.mpr hfield
    exact h p (List.mem_flatMap.mpr ⟨row, hrow, hp⟩)
  · intro h p hp
    obtain ⟨row, hrow, hp⟩ := List.mem_flatMap.mp hp
    exact h row hrow p.2 (Reader.mem_pieces.mp ⟨p, hp, rfl⟩)

end OnlineBanking.Library.Csv
