import OnlineBanking.Library.Numerals
import OnlineBanking.Library.Paging
import OnlineBanking.Requests
import OnlineBanking.StatementPeriods

set_option autoImplicit false

/-! The audit search of admin.service.ts, page by page. -/

namespace OnlineBanking

open Library

namespace AdminService

structure AuditEventFilters where
  action : Option String := none
  resourceType : Option String := none
  actorUserId : Option String := none
  «from» : Option String := none
  «to» : Option String := none
  page : Option String := none
  limit : Option String := none

structure AuditEventsResponse where
  items : List AuditEvent
  page : ℕ
  limit : ℕ
  total : ℕ

structure AuditEventWhere where
  action : Option String
  resourceType : Option String
  actorUserId : Option Uuid
  gte : Option ℤ
  lte : Option ℤ

def AuditEventWhere.selects (w : AuditEventWhere) (e : AuditEvent) : Bool :=
  w.action.all (fun action => e.action = action) && w.resourceType.all
    (fun resourceType => e.resourceType = resourceType) &&
    w.actorUserId.all (fun actorUserId => e.actorUserId = some actorUserId) &&
    w.gte.all (fun date : ℤ => date * 1000 ≤ e.createdAt) && w.lte.all fun date : ℤ =>
      e.createdAt ≤ date * 1000

def given (value : Option String) : Option String := value.filter fun text => text ≠ ""

def parsePositiveInt (value : Option String) (fallback : ℕ) (label : String) : Except Failure ℕ :=
  match given value with
  | none => .ok fallback
  | some value =>
    match Numerals.number (trim value).toList with
    | some parsed =>
      if parsed.den ≠ 1 ∨ parsed < 1 then .error
        (.badRequest (label ++ " must be a positive integer"))
      else .ok parsed.num.toNat
    | none => .error (.badRequest (label ++ " must be a positive integer"))

def parseDate (newDate : String → Option ℤ) (label value : String) : Except Failure ℤ :=
  match newDate value with
  | none => .error (.badRequest (label ++ " must be a valid date"))
  | some parsed => .ok parsed

def parseId (readUuid : String → Option Uuid) (value : String) : Except Failure Uuid :=
  match readUuid value with
  | none => .error (.prisma (.other "P2023"))
  | some id => .ok id

def whenGiven {α : Type} (parse : String → Except Failure α) (value : Option String) :
    Except Failure (Option α) :=
  match given value with
  | none => .ok none
  | some value => (parse value).map some

/-- `scan` is the order in which the database comes by the rows, which decides between events of one
instant. -/
def getAuditEvents (newDate : String → Option ℤ) (readUuid : String → Option Uuid)
    (scan : List AuditEvent → List AuditEvent) (db : Db) (filters : AuditEventFilters) :
    Except Failure AuditEventsResponse := do
  let page ← parsePositiveInt filters.page 1 "page"
  let limit := min (← parsePositiveInt filters.limit 25 "limit") 100
  let gte ← whenGiven (parseDate newDate "from") filters.from
  let lte ← whenGiven (parseDate newDate "to") filters.to
  let actorUserId ← whenGiven (parseId readUuid) filters.actorUserId
  let selects := AuditEventWhere.selects
    { action := given filters.action, resourceType := given filters.resourceType,
      actorUserId, gte, lte }
  let sorted := ((scan db.auditEvents.rows).filter selects).insertionSort fun e e' =>
    e'.createdAt ≤ e.createdAt
  return {
    items := (sorted.drop ((page - 1) * limit)).take limit
    page
    limit
    total := (db.auditEvents.rows.filter selects).length }

end AdminService

open AdminService

def AuditEvent.day (e : AuditEvent) : ℤ := e.createdAt / (dayLength * 1000)

structure AuditQuery where
  action : Option String := none
  resourceType : Option String := none
  actor : Option Uuid := none
  fromDay : Option ℤ := none
  toDay : Option ℤ := none

namespace AuditQuery

def wants (q : AuditQuery) (e : AuditEvent) : Bool :=
  q.action.all (fun action => e.action = action) && q.resourceType.all
    (fun resourceType => e.resourceType = resourceType) &&
    q.actor.all (fun actor => e.actorUserId = some actor) && q.fromDay.all (fun d => d ≤ e.day) &&
    q.toDay.all fun d => e.day ≤ d

def late (q : AuditQuery) (e : AuditEvent) : Bool :=
  q.toDay.any fun d => e.day = d && e.createdAt ≠ d * dayLength * 1000

end AuditQuery

/-- The query parameters say what is asked for; the dates are those of date inputs. -/
structure Asks (newDate : String → Option ℤ) (readUuid : String → Option Uuid)
    (filters : AuditEventFilters) (q : AuditQuery) : Prop where
  action : given filters.action = q.action
  resourceType : given filters.resourceType = q.resourceType
  actor : (given filters.actorUserId).map readUuid = q.actor.map some
  «from» : (given filters.from).map newDate = q.fromDay.map fun d => some (d * dayLength)
  «to» : (given filters.to).map newDate = q.toDay.map fun d => some (d * dayLength)

def requestPage (newDate : String → Option ℤ) (readUuid : String → Option Uuid)
    (scan : ℕ → List AuditEvent → List AuditEvent) (db : Db) (filters : AuditEventFilters)
    (pageText : ℕ → String) (k : ℕ) : Except Failure AuditEventsResponse :=
  getAuditEvents newDate readUuid (scan k) db { filters with page := some (pageText k) }

/-- The answers show the events that the query asks for, each once, and report their number. -/
structure ShowsOnce (rows : List AuditEvent) (q : AuditQuery) (first : AuditEventsResponse)
    (answers : List AuditEventsResponse) : Prop where
  once : (answers.flatMap AuditEventsResponse.items).Nodup
  wanted : ∀ e, e ∈ answers.flatMap AuditEventsResponse.items ↔ e ∈ rows ∧ q.wants e = true
  total : ∀ a ∈ first :: answers, a.total = (answers.flatMap AuditEventsResponse.items).length
  limit : ∀ a ∈ answers, a.limit = first.limit

/-- All pages are requested, and in whichever order the rows are come by on each request, they show
what the query asks for. -/
def PagesCover (newDate : String → Option ℤ) (readUuid : String → Option Uuid) (db : Db)
    (filters : AuditEventFilters) (pageText : ℕ → String) (q : AuditQuery) : Prop :=
  ∀ scan : ℕ → List AuditEvent → List AuditEvent, (∀ k es, (scan k es).Perm es) →
    ∃ first answers, requestPage newDate readUuid scan db filters pageText 0 = .ok first ∧
      (List.range (Paging.pages first.limit first.total)).mapM
        (requestPage newDate readUuid scan db filters pageText) = .ok answers ∧
      ShowsOnce db.auditEvents.rows q first answers

section Requests

variable {newDate : String → Option ℤ} {readUuid : String → Option Uuid} {db : Db}
    {filters : AuditEventFilters}
  {pageText : ℕ → String} {q : AuditQuery} {scan : ℕ → List AuditEvent → List AuditEvent} {n : ℕ}

def AuditQuery.found (q : AuditQuery) (e : AuditEvent) : Bool := q.wants e && !q.late e

def AuditQuery.answer (q : AuditQuery) (scan : ℕ → List AuditEvent → List AuditEvent)
    (rows : List AuditEvent) (n k : ℕ) :
    AuditEventsResponse where
  items := Paging.page n k (((scan k rows).filter q.found).insertionSort fun e e' =>
    e'.createdAt ≤ e.createdAt)
  page := k + 1
  limit := n
  total := (rows.filter q.found).length

lemma whenGiven_eq {α : Type} {parse : String → Except Failure α} {read : String → Option α}
    {value : Option String} {x : Option α}
    (hparse : ∀ text a, read text = some a → parse text = .ok a)
    (h : (given value).map read = x.map some) : whenGiven parse value = .ok x := by
  unfold whenGiven
  cases hv : given value with
  | none =>
    rw [hv] at h
    cases x with
    | none => rfl
    | some a => cases h
  | some text =>
    rw [hv] at h
    cases x with
    | none => cases h
    | some a =>
      have hread : read text = some a := Option.some.inj h
      simp [hparse text a hread, Except.map]

lemma selects_eq : AuditEventWhere.selects
    { action := q.action, resourceType := q.resourceType, actorUserId := q.actor,
      gte := q.fromDay.map fun d => d * dayLength, lte := q.toDay.map fun d => d * dayLength } =
        q.found := by
  funext e
  have hfrom : ∀ d : ℤ, d * dayLength * 1000 ≤ e.createdAt ↔ d ≤ e.day := by
    intro d
    unfold AuditEvent.day dayLength
    omega
  have hto : ∀ d : ℤ, (e.createdAt : ℤ) ≤ d * dayLength * 1000 ↔
      e.day ≤ d ∧ ¬ (e.day = d ∧ (e.createdAt : ℤ) ≠ d * dayLength * 1000) := by
    intro d
    unfold AuditEvent.day dayLength
    omega
  rw [Bool.eq_iff_iff]
  cases hf : q.fromDay <;> cases ht : q.toDay <;>
    simp [AuditEventWhere.selects, AuditQuery.found, AuditQuery.wants, AuditQuery.late, hf, ht,
      hfrom, hto, and_assoc]

lemma getAuditEvents_eq (hask : Asks newDate readUuid filters q)
    (hlimit : parsePositiveInt filters.limit 25 "limit" = .ok n)
    {k : ℕ} (hpage : parsePositiveInt (some (pageText k)) 1 "page" = .ok (k + 1)) :
    requestPage newDate readUuid scan db filters pageText k =
      .ok (q.answer scan db.auditEvents.rows (min n 100) k) := by
  have hdate : ∀ field text a, newDate text = some a → parseDate newDate field text = .ok a := by
    intro field text a h
    simp [parseDate, h]
  have hfrom : whenGiven (parseDate newDate "from") filters.from = .ok
      (q.fromDay.map fun d => d * dayLength) := by
    apply whenGiven_eq (hdate "from")
    rw [Option.map_map]
    exact hask.from
  have hto : whenGiven (parseDate newDate "to") filters.to = .ok
      (q.toDay.map fun d => d * dayLength) := by
    apply whenGiven_eq (hdate "to")
    rw [Option.map_map]
    exact hask.to
  have hactor : whenGiven (parseId readUuid) filters.actorUserId = .ok q.actor := by
    have hid : ∀ text a, readUuid text = some a → parseId readUuid text = .ok a := by
      intro text a h
      simp [parseId, h]
    exact whenGiven_eq hid hask.actor
  unfold requestPage getAuditEvents
  dsimp only
  rw [hpage, hlimit, hfrom, hto, hactor]
  change Except.ok _ = _
  rw [hask.action, hask.resourceType, selects_eq]
  rfl

lemma parsePositiveInt_pos {value : Option String} {fallback : ℕ} {label : String}
    (hfallback : 1 ≤ fallback) (h : parsePositiveInt value fallback label = .ok n) : 1 ≤ n := by
  unfold parsePositiveInt at h
  split at h
  · exact Except.ok.inj h ▸ hfallback
  · split at h
    · split at h
      · cases h
      · rename_i parsed _ hcond
        obtain rfl := Except.ok.inj h
        obtain ⟨hden, hone⟩ := not_or.mp hcond
        have hnum : (parsed.num : ℚ) = parsed := (Rat.den_eq_one_iff parsed).mp (not_ne_iff.mp hden)
        have hle : (1 : ℚ) ≤ parsed.num := (not_lt.mp hone).trans_eq hnum.symm
        have hle : (1 : ℤ) ≤ parsed.num := by exact_mod_cast hle
        omega
    · cases h

lemma parsePositiveInt_toString {k fallback : ℕ} {label : String} (hpos : 1 ≤ k) (hk : k < 2 ^ 53) :
    parsePositiveInt (some (ToString.toString k)) fallback label = .ok k := by
  have htext : ToString.toString k = String.ofList (Nat.toDigits 10 k) := rfl
  have hspace : ∀ c ∈ Nat.toDigits 10 k, isJsSpace c = false := by
    intro c hc
    have hdigit := Nat.isDigit_of_mem_toDigits (by omega) (by omega) hc
    simp only [Char.isDigit, Bool.and_eq_true, decide_eq_true_eq] at hdigit
    have hlow : 48 ≤ c.toNat := hdigit.1
    have hhigh : c.toNat ≤ 57 := hdigit.2
    simp only [isJsSpace, List.mem_cons, List.not_mem_nil, or_false, decide_eq_false_iff_not]
    omega
  have hdrop : ∀ cs : List Char, (∀ c ∈ cs, isJsSpace c = false) → cs.dropWhile isJsSpace = cs := by
    intro cs h
    cases cs with
    | nil => rfl
    | cons c cs => rw [List.dropWhile_cons_of_neg (by simp [h c List.mem_cons_self])]
  have htrim : (trim (ToString.toString k)).toList = Nat.toDigits 10 k := by
    rw [htext, trim, String.toList_ofList, String.toList_ofList, hdrop _ hspace,
      hdrop _ fun c hc => hspace c (List.mem_reverse.mp hc), List.reverse_reverse]
  have hgiven : given (some (ToString.toString k)) = some (ToString.toString k) := by simp [given]
  have hone : ¬ ((k : ℚ).den ≠ 1 ∨ (k : ℚ) < 1) := by
    simp only [Rat.den_natCast, ne_eq, not_true_eq_false, false_or, not_lt]
    exact_mod_cast hpos
  simp only [parsePositiveInt, hgiven, htrim, Numerals.number_toDigits hk, if_neg hone]
  rfl

lemma mapM_eq_ok {ε α β : Type} {f : α → Except ε β} {g : α → β} {xs : List α}
    (h : ∀ x ∈ xs, f x = .ok (g x)) :
    xs.mapM f = .ok (xs.map g) := by
  obtain ⟨ys, hys, hmap⟩ := mapM_ok (g := id) (h := g) fun x hx => ⟨g x, h x hx, rfl⟩
  rw [hys, ← hmap, List.map_id]

def AuditQuery.shown (q : AuditQuery) (scan : ℕ → List AuditEvent → List AuditEvent)
    (rows : List AuditEvent) (n : ℕ) :
    List AuditEvent :=
  (List.range (Paging.pages n (rows.filter q.found).length)).flatMap fun k =>
    Paging.page n k (((scan k rows).filter q.found).insertionSort fun e e' =>
      e'.createdAt ≤ e.createdAt)

lemma pagesCover_iff (hask : Asks newDate readUuid filters q)
    (hlimit : parsePositiveInt filters.limit 25 "limit" = .ok n)
    (hpages : ∀ k < max 1 db.auditEvents.rows.length,
      parsePositiveInt (some (pageText k)) 1 "page" = .ok (k + 1)) :
    PagesCover newDate readUuid db filters pageText q ↔
      ∀ scan : ℕ → List AuditEvent → List AuditEvent, (∀ k es, (scan k es).Perm es) →
        (q.shown scan db.auditEvents.rows (min n 100)).Nodup ∧
        (∀ e, e ∈ q.shown scan db.auditEvents.rows (min n 100) ↔ e ∈ db.auditEvents.rows ∧
            q.wants e = true) ∧
        (db.auditEvents.rows.filter q.found).length =
          (q.shown scan db.auditEvents.rows (min n 100)).length := by
  have hn : 0 < min n 100 := by
    have hpos := parsePositiveInt_pos (by decide) hlimit
    omega
  apply forall₂_congr
  intro scan hscan
  let total := (db.auditEvents.rows.filter q.found).length
  have hfirst : requestPage newDate readUuid scan db filters pageText 0 =
      .ok (q.answer scan db.auditEvents.rows (min n 100) 0) :=
    getAuditEvents_eq hask hlimit (hpages 0 (by omega))
  have hanswers : (List.range (Paging.pages (min n 100) total)).mapM
      (requestPage newDate readUuid scan db filters pageText) =
      .ok ((List.range (Paging.pages (min n 100) total)).map
        (q.answer scan db.auditEvents.rows (min n 100))) := by
    apply mapM_eq_ok
    intro k hk
    apply getAuditEvents_eq hask hlimit
    apply hpages
    have hpages := Paging.pages_le hn total
    have hrows : total ≤ db.auditEvents.rows.length := List.length_filter_le _ _
    have hk := List.mem_range.mp hk
    omega
  have hshown : ((List.range (Paging.pages (min n 100) total)).map
      (q.answer scan db.auditEvents.rows (min n 100))).flatMap AuditEventsResponse.items =
      q.shown scan db.auditEvents.rows (min n 100) := by
    rw [List.flatMap_map]
    rfl
  constructor
  · rintro ⟨first, answers, hfirst', hanswers', hshows⟩
    obtain rfl := Except.ok.inj (hfirst.symm.trans hfirst')
    obtain rfl := Except.ok.inj (hanswers.symm.trans hanswers')
    obtain ⟨honce, hwanted, htotal, -⟩ := hshows
    rw [hshown] at honce hwanted htotal
    exact ⟨honce, hwanted, htotal _ List.mem_cons_self⟩
  · rintro ⟨honce, hwanted, htotal⟩
    refine ⟨_, _, hfirst, hanswers, ?_, ?_, ?_, ?_⟩
    · rwa [hshown]
    · rwa [hshown]
    · rw [hshown]
      intro a ha
      rcases List.mem_cons.mp ha with rfl | ha
      · exact htotal
      · obtain ⟨k, _, rfl⟩ := List.mem_map.mp ha
        exact htotal
    · intro a ha
      obtain ⟨k, _, rfl⟩ := List.mem_map.mp ha
      rfl

lemma filter_found {rows : List AuditEvent}
    (hlate : ∀ e ∈ rows, q.wants e = true → q.late e = false) :
    rows.filter q.found = rows.filter q.wants := by
  apply List.filter_congr
  intro e he
  unfold AuditQuery.found
  cases hw : q.wants e with
  | true => rw [hlate e he hw]; rfl
  | false => rfl

lemma shown_iff {rows : List AuditEvent} (hrows : rows.Nodup) (hn : 0 < n)
    (hlate : ∀ e ∈ rows, q.wants e = true → q.late e = false) :
    (∀ scan : ℕ → List AuditEvent → List AuditEvent, (∀ k es, (scan k es).Perm es) →
      (q.shown scan rows n).Perm (rows.filter q.wants)) ↔
      ∀ k, ∀ e ∈ rows.filter q.wants, ¬ Paging.Straddles AuditEvent.createdAt (rows.filter q.wants)
        (k * n) e := by
  rw [← Paging.pages_iff (hrows.filter _) hn, ← filter_found hlate]
  constructor
  · intro hshown arrange harrange
    have hscan : ∀ k, ∃ scan : List AuditEvent → List AuditEvent, (∀ es, (scan es).Perm es) ∧
        ((scan rows).filter q.found).insertionSort (fun e e' => e'.createdAt ≤ e.createdAt) =
          arrange k := fun k =>
      Paging.exists_scan (harrange k).1 (harrange k).2
    choose scan hperm hsorted using hscan
    have hall := hshown scan hperm
    unfold AuditQuery.shown at hall
    simpa only [hsorted] using hall
  · intro hpages scan hscan
    apply hpages fun k => ((scan k rows).filter q.found).insertionSort fun e e' =>
      e'.createdAt ≤ e.createdAt
    intro k
    have : Std.Total fun e e' : AuditEvent => e'.createdAt ≤ e.createdAt :=
      ⟨fun e e' => le_total _ _⟩
    have : IsTrans AuditEvent fun e e' => e'.createdAt ≤ e.createdAt :=
      ⟨fun _ _ _ h h' => le_trans h' h⟩
    exact ⟨(List.perm_insertionSort _ _).trans ((hscan k rows).filter _),
      List.pairwise_insertionSort _ _⟩

end Requests

/-- The pages cover what is asked for if and only if none of it is on the last day after the first
instant, and no page ends between two events of one instant. -/
theorem audit_pages_iff {newDate : String → Option ℤ} {readUuid : String → Option Uuid} {db : Db}
    {filters : AuditEventFilters} {q : AuditQuery} {pageText : ℕ → String} {n : ℕ}
    (hask : Asks newDate readUuid filters q)
    (hlimit : parsePositiveInt filters.limit 25 "limit" = .ok n)
    (hpages : ∀ k < max 1 db.auditEvents.rows.length,
      parsePositiveInt (some (pageText k)) 1 "page" = .ok (k + 1)) :
    PagesCover newDate readUuid db filters pageText q ↔
      (∀ e ∈ db.auditEvents.rows, q.wants e = true → q.late e = false) ∧
      ∀ k, ∀ e ∈ db.auditEvents.rows.filter q.wants,
        ¬ Paging.Straddles AuditEvent.createdAt (db.auditEvents.rows.filter q.wants)
          (k * min n 100) e := by
  have hrows : db.auditEvents.rows.Nodup := .of_map _ db.auditEvents.keys_nodup
  have hn : 0 < min n 100 := by
    have hpos := parsePositiveInt_pos (by decide) hlimit
    omega
  rw [pagesCover_iff hask hlimit hpages]
  constructor
  · intro hcovers
    have hlate : ∀ e ∈ db.auditEvents.rows, q.wants e = true → q.late e = false := by
      intro e he hw
      obtain ⟨-, hwanted, -⟩ := hcovers (fun _ es => es) fun _ es => .refl es
      obtain ⟨k, _, hpage⟩ := List.mem_flatMap.mp ((hwanted e).mpr ⟨he, hw⟩)
      have hsorted := List.drop_subset _ _ (List.take_subset _ _ hpage)
      rw [List.mem_insertionSort, List.mem_filter] at hsorted
      have hfound := hsorted.2
      rw [AuditQuery.found, Bool.and_eq_true, Bool.not_eq_true'] at hfound
      exact hfound.2
    refine ⟨hlate, (shown_iff hrows hn hlate).mp ?_⟩
    intro scan hscan
    obtain ⟨honce, hwanted, -⟩ := hcovers scan hscan
    apply (List.perm_ext_iff_of_nodup honce (hrows.filter _)).mpr
    intro e
    rw [hwanted, List.mem_filter]
  · rintro ⟨hlate, hcut⟩ scan hscan
    have hperm := (shown_iff hrows hn hlate).mpr hcut scan hscan
    refine ⟨hperm.nodup_iff.mpr (hrows.filter _), ?_, ?_⟩
    · intro e
      rw [hperm.mem_iff, List.mem_filter]
    · rw [hperm.length_eq, filter_found hlate]

def auditEventAt (n : ℕ) (createdAt : Instant) : AuditEvent where
  id := .numbered n
  actorUserId := some (demoIds .adminUser)
  action := "CUSTOMER_VERIFIED"
  resourceType := "CustomerProfile"
  resourceId := none
  createdAt

def eveningDb : Db where
  auditEvents := ⟨[auditEventAt 50 demoNoon, auditEventAt 51 demoNoon,
    auditEventAt 52 (demoNoon - 3600000000)],
    by decide +kernel, by decide +kernel⟩

def readDemoId (text : String) : Option Uuid :=
  if text = (demoIds .adminUser).text then some (demoIds .adminUser) else none

def nextDayFilters (limit : String) : AuditEventFilters where
  actorUserId := some (demoIds .adminUser).text
  «from» := some "2026-03-31"
  «to» := some "2026-04-01"
  limit := some limit

def nextDayQuery : AuditQuery where
  actor := some (demoIds .adminUser)
  fromDay := some (julianDay 2026 3 31)
  toDay := some (julianDay 2026 4 1)

lemma nextDay_asked (limit : String) :
    Asks isoDate readDemoId (nextDayFilters limit) nextDayQuery := by
  constructor
  · rfl
  · rfl
  · change (given (some (demoIds .adminUser).text)).map readDemoId = some
      (some (demoIds .adminUser))
    decide +kernel
  · change (given (some "2026-03-31")).map isoDate = some (some (julianDay 2026 3 31 * dayLength))
    decide +kernel
  · change (given (some "2026-04-01")).map isoDate = some (some (julianDay 2026 4 1 * dayLength))
    decide +kernel

lemma limit_read {k : ℕ} (hpos : 1 ≤ k) (hk : k < 2 ^ 53) :
    parsePositiveInt (nextDayFilters (ToString.toString k)).limit 25 "limit" = .ok k :=
  parsePositiveInt_toString hpos hk

def pageNumber (k : ℕ) : String := ToString.toString (k + 1)

lemma pages_read {n : ℕ} (hn : n < 2 ^ 53) :
    ∀ k < max 1 n, parsePositiveInt (some (pageNumber k)) 1 "page" = .ok (k + 1) :=
  fun k hk => parsePositiveInt_toString (by omega) (by omega)

theorem evening_pages_cover :
    PagesCover isoDate readDemoId eveningDb (nextDayFilters "2") pageNumber nextDayQuery := by
  apply (audit_pages_iff (n := 2) (nextDay_asked "2") (limit_read (k := 2) (by decide) (by decide))
    (pages_read (by decide +kernel))).mpr
  constructor
  · have hintime : eveningDb.auditEvents.rows.all (fun e => !nextDayQuery.late e) = true := by
      decide +kernel
    intro e he _
    simpa using List.all_eq_true.mp hintime e he
  · have hgroups : (eveningDb.auditEvents.rows.filter nextDayQuery.wants).all (fun e =>
        let rows := eveningDb.auditEvents.rows.filter nextDayQuery.wants
        decide (Paging.later AuditEvent.createdAt rows e = 0 ∧
          Paging.same AuditEvent.createdAt rows e = 2 ∨
          Paging.later AuditEvent.createdAt rows e = 2 ∧
            Paging.same AuditEvent.createdAt rows e = 1)) = true := by
      decide +kernel
    rintro k e he ⟨hbefore, hafter⟩
    have hgroup := of_decide_eq_true (List.all_eq_true.mp hgroups e he)
    have hsize : min 2 100 = 2 := rfl
    rw [hsize] at hbefore hafter
    omega

def lastDayFilters : AuditEventFilters where
  «to» := some "2026-03-31"

def lastDayQuery : AuditQuery where
  toDay := some (julianDay 2026 3 31)

lemma lastDay_asked : Asks isoDate readDemoId lastDayFilters lastDayQuery := by
  constructor
  · rfl
  · rfl
  · rfl
  · rfl
  · change (given (some "2026-03-31")).map isoDate = some (some (julianDay 2026 3 31 * dayLength))
    decide +kernel

/-- The events of the last day are missing, and of two events of one instant a page of one event may
show the first again. -/
theorem evening_pages_miss :
    ¬ PagesCover isoDate readDemoId eveningDb lastDayFilters pageNumber lastDayQuery ∧
      ¬ PagesCover isoDate readDemoId eveningDb (nextDayFilters "1") pageNumber nextDayQuery := by
  have hpages := pages_read (n := eveningDb.auditEvents.rows.length) (by decide +kernel)
  have hmem : auditEventAt 51 demoNoon ∈ eveningDb.auditEvents.rows :=
    List.mem_cons_of_mem _ List.mem_cons_self
  constructor
  · intro hcovers
    rw [pagesCover_iff (n := 25) lastDay_asked rfl hpages] at hcovers
    obtain ⟨-, hwanted, -⟩ := hcovers (fun _ es => es) fun _ es => .refl es
    have hshown := (hwanted _).mpr ⟨hmem, by decide +kernel⟩
    have hids : Uuid.numbered 51 ∉
        (lastDayQuery.shown (fun _ es => es) eveningDb.auditEvents.rows (min 25 100)).map
        AuditEvent.id := by decide +kernel
    exact hids (List.mem_map_of_mem hshown)
  · intro hcovers
    rw [pagesCover_iff (n := 1) (nextDay_asked "1") (limit_read (k := 1) (by decide) (by decide))
      hpages] at hcovers
    let scan : ℕ → List AuditEvent → List AuditEvent := fun k es => if k = 1 then es.reverse else es
    have hscan : ∀ k es, (scan k es).Perm es := by
      intro k es
      dsimp only [scan]
      split
      · exact List.reverse_perm es
      · exact .refl es
    obtain ⟨-, hwanted, -⟩ := hcovers scan hscan
    have hshown := (hwanted _).mpr ⟨hmem, by decide +kernel⟩
    have hids : Uuid.numbered 51 ∉
        (nextDayQuery.shown scan eveningDb.auditEvents.rows (min 1 100)).map
        AuditEvent.id := by decide +kernel
    exact hids (List.mem_map_of_mem hshown)

end OnlineBanking
