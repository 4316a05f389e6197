import Mathlib.Data.Finset.Dedup
import Mathlib.Data.Finset.Lattice.Lemmas
import Mathlib.Data.List.Sort
import OnlineBanking.Library.Runs
import OnlineBanking.OtherServices
import OnlineBanking.Seed

set_option autoImplicit false

/-! NotificationToaster in one browser tab, with the session that it is shown in and the
notifications that the server holds. -/

namespace OnlineBanking

open Library

namespace NotificationToaster

/-- Every login is given a token of its own; `login` counts them. -/
structure AccessToken where
  userId : Uuid
  login : ℕ
  deriving DecidableEq

/-- sessionStorage, which a reload keeps and a logout clears. -/
structure SessionStorage where
  accessToken : Option AccessToken := none
  seenNotifIds : Option (Finset Uuid) := none

/-- What the open page holds: the token of AuthContext, and the refs and the state of the component.
The effect polls with the token as long as it stays the same. -/
structure Page where
  accessToken : Option AccessToken := none
  seenIds : Finset Uuid := ∅
  initialLoadDone : Bool := false
  toasts : List Notification := []

def ids (ns : List Notification) : Finset Uuid := (ns.map Notification.id).toFinset

def getStoredSeenIds (storage : SessionStorage) : Finset Uuid := storage.seenNotifIds.getD ∅

def Page.load (storage : SessionStorage) : Page where
  accessToken := storage.accessToken
  seenIds := getStoredSeenIds storage

def Page.Baseline (p : Page) : Prop := p.initialLoadDone = false ∧ p.seenIds = ∅

instance (p : Page) : Decidable p.Baseline := inferInstanceAs (Decidable (_ ∧ _))

/-- What becomes of a response: the page, the toasts that it adds, and whether the ids are
stored. -/
structure Fetched where
  page : Page
  newNotifs : List Notification
  updated : Bool

def Page.fetchNotifs (p : Page) (notifs : List Notification) : Fetched :=
  if p.Baseline then
    { page := { p with seenIds := p.seenIds ∪ ids notifs, initialLoadDone := true }, newNotifs :=
      [], updated := true }
  else
    let newNotifs := notifs.filter fun n => n.readAt = none ∧ n.id ∉ p.seenIds
    { page := {
        p with
        initialLoadDone := true
        seenIds := p.seenIds ∪ ids newNotifs
        toasts := p.toasts ++ newNotifs }
      newNotifs
      updated := newNotifs ≠ [] }

/-- The record of a login: the response to its first completed poll, the responses after it, and
what has been toasted. -/
structure Login where
  token : AccessToken
  first : Option (List Notification) := none
  later : List (List Notification) := []
  toasted : List Notification := []

def Login.completed (l : Login) (notifs newNotifs : List Notification) : Login :=
  match l.first with
  | none => { l with first := some notifs, toasted := l.toasted ++ newNotifs }
  | some _ => { l with later := l.later ++ [notifs], toasted := l.toasted ++ newNotifs }

/-- Responses are on their way with the token that they were asked for with; the latest login comes
first. -/
structure Tab where
  storage : SessionStorage := {}
  page : Page := {}
  inFlight : List (AccessToken × List Notification) := []
  notifications : Table Notification := .empty
  log : List Login := []

/-- What the user does in the tab, what goes on at the server, and what the network does. A poll
that fails is one that is never answered. -/
inductive TabAction
  | saveAccessToken (userId : Uuid)
  | logout
  | reload
  | close (id : Uuid)
  | create (notification : Notification)
  | markAsRead (id userId : Uuid) (now : Instant)
  | poll
  | respond (k : ℕ)

namespace Tab

def saveAccessToken (s : Tab) (userId : Uuid) : Tab :=
  let token : AccessToken := ⟨userId, s.log.length⟩
  { s with
    storage := { s.storage with accessToken := some token }
    page := { s.page with accessToken := some token }
    log := { token } :: s.log }

def logout (s : Tab) : Tab := { s with storage := {}, page := { s.page with accessToken := none } }

def reload (s : Tab) : Tab := { s with page := .load s.storage, inFlight := [] }

def receive (s : Tab) (notifs : List Notification) : Tab :=
  let fetched := s.page.fetchNotifs notifs
  { s with
    page := fetched.page
    storage := if fetched.updated then { s.storage with seenNotifIds := some fetched.page.seenIds }
      else s.storage
    log := s.log.modifyHead fun l => l.completed notifs fetched.newNotifs }

/-- A response that arrives for another token than the page's finds the effect unmounted. -/
def respond (s : Tab) (k : ℕ) (response : AccessToken × List Notification) : Tab :=
  let s' := if s.page.accessToken = some response.1 then s.receive response.2 else s
  { s' with inFlight := s'.inFlight.eraseIdx k }

def step (s : Tab) : TabAction → Option Tab
  | .saveAccessToken userId => some (s.saveAccessToken userId)
  | .logout => some s.logout
  | .reload => some s.reload
  | .close id =>
    some { s with page := { s.page with toasts := s.page.toasts.filter fun t => t.id ≠ id } }
  | .create notification =>
    (s.notifications.insert { notification with readAt := none }).map fun t =>
      { s with notifications := t }
  | .markAsRead id userId now =>
    some { s with
      notifications := s.notifications.modifyAll (fun n => n.id = id ∧ n.userId = userId)
        (Notification.read now) }
  | .poll => s.page.accessToken.map fun token =>
    { s with inFlight := s.inFlight ++ [(token, findAllForUser s.notifications token.userId)] }
  | .respond k => s.inFlight[k]?.map (s.respond k)

def run : Tab → List TabAction → Option Tab := Runs.run step

def opened (notifications : Table Notification) : Tab where
  notifications

end Tab

/-- The login has announced what came after its first completed poll, each notification once, and
nothing that was there before. -/
structure Login.Announced (l : Login) : Prop where
  once : (l.toasted.map Notification.id).Nodup
  existing : ∀ first, l.first = some first → ∀ n ∈ l.toasted, n.id ∉ ids first
  created : ∀ first, l.first = some first → ∀ notifs ∈ l.later, ∀ n ∈ notifs, n.readAt = none →
    n.id ∉ ids first → n.id ∈ ids l.toasted

section Rows

variable {ns ms : List Notification} {n : Notification} {id : Uuid}

lemma mem_ids : id ∈ ids ns ↔ ∃ n ∈ ns, n.id = id := by simp [ids]

lemma mem_ids_of_mem (h : n ∈ ns) : n.id ∈ ids ns := mem_ids.mpr ⟨n, h, rfl⟩

@[simp] lemma ids_append : ids (ns ++ ms) = ids ns ∪ ids ms := by
  ext id
  simp [mem_ids, or_and_right, exists_or]

def Evolves (t t' : Table Notification) : Prop :=
  ∀ n ∈ t.rows, ∃ n' ∈ t'.rows, n'.id = n.id ∧ n'.userId = n.userId ∧
    (n.readAt ≠ none → n'.readAt ≠ none)

lemma Evolves.refl (t : Table Notification) : Evolves t t :=
  fun n hn => ⟨n, hn, rfl, rfl, fun h => h⟩

lemma evolves_insert {t t' : Table Notification} (h : t.insert n = some t') : Evolves t t' := by
  obtain ⟨_, _, hrows⟩ := Table.insert_eq_some.mp h
  exact fun m hm => ⟨m, hrows ▸ List.mem_append_left _ hm, rfl, rfl, fun h => h⟩

lemma evolves_read {t : Table Notification} {p : Notification → Bool} {now : Instant} :
    Evolves t (t.modifyAll p (Notification.read now)) := by
  intro m hm
  refine ⟨_, List.mem_map_of_mem hm, ?_⟩
  split
  · exact ⟨rfl, rfl, fun _ => Option.some_ne_none now⟩
  · exact ⟨rfl, rfl, fun h => h⟩

lemma Evolves.back {t t' : Table Notification} (h : Evolves t t') {n' : Notification}
    (hn' : n' ∈ t'.rows) (hknown : ∃ n ∈ t.rows, n.id = n'.id) :
    ∃ n ∈ t.rows, n.id = n'.id ∧ n.userId = n'.userId ∧ (n.readAt ≠ none → n'.readAt ≠ none) := by
  obtain ⟨n, hn, hid⟩ := hknown
  obtain ⟨m, hm, hmid, huser, hread⟩ := h n hn
  obtain rfl : m = n' := t'.eq_of_key_eq hm hn' (hmid.trans hid)
  exact ⟨n, hn, hid, huser.symm, hread⟩

end Rows

structure Follows (s : Tab) (token : AccessToken) (l : Login) : Prop where
  unpolled : l.first = none → l.later = [] ∧ l.toasted = []
  toasted : ids l.toasted ⊆ s.page.seenIds
  kept : l.toasted ≠ [] → s.storage.seenNotifIds = some s.page.seenIds
  owned : ∀ first, l.first = some first → ∀ id ∈ ids first, ∃ n ∈ s.notifications.rows, n.id = id ∧
    n.userId = token.userId
  /-- As long as no poll has completed, every response has what was seen before the login. -/
  before : l.first = none → ∀ f ∈ s.inFlight, f.1 = token →
    ∀ n ∈ s.notifications.rows, n.id ∈ s.page.seenIds →
    n.userId = token.userId → n.id ∈ ids f.2
  /-- After a reload, every response has what the first one had. -/
  after : ∀ first, l.first = some first → s.page.initialLoadDone = false →
    ∀ f ∈ s.inFlight, f.1 = token →
    ids first ⊆ ids f.2

structure Snapshot (t : Table Notification) (f : AccessToken × List Notification) : Prop where
  nodup : (f.2.map Notification.id).Nodup
  rows : ∀ n ∈ f.2, ∃ n' ∈ t.rows, n'.id = n.id ∧ n'.userId = f.1.userId ∧
    (n.readAt ≠ none → n'.readAt ≠ none)

structure Sound (s : Tab) : Prop where
  token : s.storage.accessToken = s.page.accessToken
  stored : s.storage.seenNotifIds = none ∨ s.storage.seenNotifIds = some s.page.seenIds
  known : ∀ id ∈ s.page.seenIds, ∃ n ∈ s.notifications.rows, n.id = id
  earlier : ∀ f ∈ s.inFlight, f.1.login < s.log.length
  flight : ∀ f ∈ s.inFlight, Snapshot s.notifications f
  logged : ∀ token, s.page.accessToken = some token → ∃ l rest, s.log = l :: rest ∧
    token.login = rest.length ∧
    Follows s token l
  once : ∀ l ∈ s.log, (l.toasted.map Notification.id).Nodup

/-- The page and the records stay, but for the toasts that are shown; the server and the network go
on. -/
structure Around (s s' : Tab) : Prop where
  storage : s'.storage = s.storage
  accessToken : s'.page.accessToken = s.page.accessToken
  seenIds : s'.page.seenIds = s.page.seenIds
  initialLoadDone : s'.page.initialLoadDone = s.page.initialLoadDone
  log : s'.log = s.log
  notifications : Evolves s.notifications s'.notifications
  inFlight : ∀ f ∈ s'.inFlight, f ∈ s.inFlight ∨ s.page.accessToken = some f.1 ∧
    f.2 = findAllForUser s'.notifications f.1.userId

section Steps

variable {s s' : Tab} {token : AccessToken} {l : Login}

lemma Snapshot.evolves {t t' : Table Notification} {f : AccessToken × List Notification}
    (h : Snapshot t f) (hevolves : Evolves t t') : Snapshot t' f := by
  refine ⟨h.nodup, fun n hn => ?_⟩
  obtain ⟨m, hm, hid, huser, hread⟩ := h.rows n hn
  obtain ⟨m', hm', hid', huser', hread'⟩ := hevolves m hm
  exact ⟨m', hm', hid'.trans hid, huser'.trans huser, fun h => hread' (hread h)⟩

lemma snapshot_findAllForUser (t : Table Notification) (token : AccessToken) :
    Snapshot t (token, findAllForUser t token.userId) := by
  refine ⟨findAllForUser_nodup t token.userId, fun n hn => ?_⟩
  obtain ⟨hn, huser⟩ := mem_findAllForUser.mp hn
  exact ⟨n, hn, rfl, huser, fun h => h⟩

lemma Follows.around (h : Follows s token l) (hs : Sound s) (ha : Around s s') :
    Follows s' token l := by
  have howned : ∀ first, l.first = some first → ∀ id ∈ ids first,
      ∃ n ∈ s'.notifications.rows, n.id = id ∧ n.userId = token.userId := by
    intro first hfirst id hid
    obtain ⟨n, hn, hnid, huser⟩ := h.owned first hfirst id hid
    obtain ⟨n', hn', hid', huser', _⟩ := ha.notifications n hn
    exact ⟨n', hn', hid'.trans hnid, huser'.trans huser⟩
  refine ⟨h.unpolled, ?_, ?_, howned, ?_, ?_⟩
  · rw [ha.seenIds]
    exact h.toasted
  · rw [ha.seenIds, ha.storage]
    exact h.kept
  · intro hfirst f hf htoken n hn hseen huser
    rw [ha.seenIds] at hseen
    rcases ha.inFlight f hf with hold | ⟨_, hsnapshot⟩
    · obtain ⟨m, hm, hid, huser', _⟩ := ha.notifications.back hn (hs.known n.id hseen)
      rw [← hid] at hseen ⊢
      exact h.before hfirst f hold htoken m hm hseen (huser'.trans huser)
    · rw [hsnapshot]
      exact mem_ids_of_mem (mem_findAllForUser.mpr ⟨hn, htoken ▸ huser⟩)
  · intro first hfirst hdone f hf htoken
    rw [ha.initialLoadDone] at hdone
    rcases ha.inFlight f hf with hold | ⟨_, hsnapshot⟩
    · exact h.after first hfirst hdone f hold htoken
    · intro id hid
      obtain ⟨n, hn, hnid, huser⟩ := howned first hfirst id hid
      rw [hsnapshot, ← hnid]
      exact mem_ids_of_mem (mem_findAllForUser.mpr ⟨hn, htoken ▸ huser⟩)

lemma Sound.around (h : Sound s) (ha : Around s s') : Sound s' := by
  constructor
  · rw [ha.storage, ha.accessToken]
    exact h.token
  · rw [ha.storage, ha.seenIds]
    exact h.stored
  · intro id hid
    rw [ha.seenIds] at hid
    obtain ⟨n, hn, hnid⟩ := h.known id hid
    obtain ⟨n', hn', hid', _, _⟩ := ha.notifications n hn
    exact ⟨n', hn', hid'.trans hnid⟩
  · intro f hf
    rw [ha.log]
    rcases ha.inFlight f hf with hold | ⟨htoken, _⟩
    · exact h.earlier f hold
    · obtain ⟨l, rest, hlog, hlogin, _⟩ := h.logged _ htoken
      rw [hlog, hlogin, List.length_cons]
      exact Nat.lt_succ_self _
  · intro f hf
    rcases ha.inFlight f hf with hold | ⟨_, hsnapshot⟩
    · exact (h.flight f hold).evolves ha.notifications
    · have hnew := snapshot_findAllForUser s'.notifications f.1
      rwa [← hsnapshot] at hnew
  · intro token htoken
    rw [ha.accessToken] at htoken
    obtain ⟨l, rest, hlog, hlogin, hfollows⟩ := h.logged token htoken
    exact ⟨l, rest, ha.log.trans hlog, hlogin, hfollows.around h ha⟩
  · rw [ha.log]
    exact h.once

lemma Sound.saveAccessToken (h : Sound s) (userId : Uuid) : Sound (s.saveAccessToken userId) := by
  refine ⟨rfl, h.stored, h.known, ?_, h.flight, ?_, ?_⟩
  · intro f hf
    exact (h.earlier f hf).trans (Nat.lt_succ_self _)
  · intro token htoken
    obtain rfl : (⟨userId, s.log.length⟩ : AccessToken) = token := Option.some.inj htoken
    refine ⟨_, _, rfl, rfl, fun _ => ⟨rfl, rfl⟩, ?_, ?_, ?_, ?_, ?_⟩
    · exact Finset.empty_subset _
    · exact fun hne => absurd rfl hne
    · intro first hfirst
      cases hfirst
    · intro _ f hf htoken
      have hearlier := h.earlier f hf
      rw [htoken] at hearlier
      exact absurd hearlier (lt_irrefl _)
    · intro first hfirst
      cases hfirst
  · intro l hl
    rcases List.mem_cons.mp hl with rfl | hl
    · exact List.nodup_nil
    · exact h.once l hl

lemma Sound.logout (h : Sound s) : Sound s.logout := by
  refine ⟨rfl, .inl rfl, h.known, h.earlier, h.flight, ?_, h.once⟩
  intro token htoken
  cases htoken

lemma Sound.reload_seenIds (h : Sound s) :
    s.reload.page.seenIds = ∅ ∧ s.storage.seenNotifIds = none ∨
      s.reload.page.seenIds = s.page.seenIds ∧ s.storage.seenNotifIds = some s.page.seenIds := by
  rcases h.stored with hnone | hsome
  · left
    exact ⟨by simp [Tab.reload, Page.load, getStoredSeenIds, hnone], hnone⟩
  · right
    exact ⟨by simp [Tab.reload, Page.load, getStoredSeenIds, hsome], hsome⟩

lemma Sound.reload (h : Sound s) : Sound s.reload := by
  have hsubset : s.reload.page.seenIds ⊆ s.page.seenIds := by
    rcases h.reload_seenIds with ⟨hempty, _⟩ | ⟨hsame, _⟩
    · rw [hempty]
      exact Finset.empty_subset _
    · rw [hsame]
  refine ⟨rfl, ?_, fun id hid => h.known id (hsubset hid), ?_, ?_, ?_, h.once⟩
  · rcases h.reload_seenIds with ⟨_, hnone⟩ | ⟨hsame, hsome⟩
    · exact .inl hnone
    · exact .inr (hsome.trans (congrArg some hsame.symm))
  · exact fun f hf => absurd hf List.not_mem_nil
  · exact fun f hf => absurd hf List.not_mem_nil
  · intro token htoken
    obtain ⟨l, rest, hlog, hlogin, hfollows⟩ := h.logged token (h.token.symm.trans htoken)
    refine ⟨l, rest, hlog, hlogin, hfollows.unpolled, ?_, ?_, hfollows.owned, ?_, ?_⟩
    · rcases h.reload_seenIds with ⟨_, hnone⟩ | ⟨hsame, _⟩
      · have hnil : l.toasted = [] := by
          by_contra hne
          have hsome := hfollows.kept hne
          rw [hnone] at hsome
          cases hsome
        rw [hnil]
        exact Finset.empty_subset _
      · rw [hsame]
        exact hfollows.toasted
    · intro hne
      have hkept := hfollows.kept hne
      rcases h.reload_seenIds with ⟨_, hnone⟩ | ⟨hsame, hsome⟩
      · rw [hnone] at hkept
        cases hkept
      · exact hsome.trans (congrArg some hsame.symm)
    · exact fun _ f hf => absurd hf List.not_mem_nil
    · exact fun _ _ _ f hf => absurd hf List.not_mem_nil

lemma completed_first (l : Login) (notifs newNotifs : List Notification) :
    (l.completed notifs newNotifs).first = some (l.first.getD notifs) := by
  unfold Login.completed
  cases l.first with
  | none => rfl
  | some first => rfl

lemma completed_later (l : Login) (notifs newNotifs : List Notification) :
    (l.completed notifs newNotifs).later = if l.first = none then l.later
    else l.later ++ [notifs] := by
  unfold Login.completed
  cases l.first with
  | none => rfl
  | some first => rfl

@[simp] lemma completed_toasted (l : Login) (notifs newNotifs : List Notification) :
    (l.completed notifs newNotifs).toasted = l.toasted ++ newNotifs := by
  unfold Login.completed
  cases l.first with
  | none => rfl
  | some first => rfl

lemma completed_some {first : List Notification} (h : l.first = some first)
    (notifs newNotifs : List Notification) :
    (l.completed notifs newNotifs).first = some first ∧
    notifs ∈ (l.completed notifs newNotifs).later := by
  constructor
  · rw [completed_first, h]
    rfl
  · rw [completed_later, if_neg (by simp [h])]
    exact List.mem_append_right _ List.mem_cons_self

structure Received (s s' : Tab) (notifs newNotifs : List Notification) (l : Login)
    (rest : List Login) : Prop where
  accessToken : s'.page.accessToken = s.page.accessToken
  done : s'.page.initialLoadDone = true
  baseline : s.page.Baseline → s'.page.seenIds = ids notifs ∧ newNotifs = []
  announced : ¬ s.page.Baseline → s'.page.seenIds = s.page.seenIds ∪ ids newNotifs ∧
    ∀ n, n ∈ newNotifs ↔ n ∈ notifs ∧ n.readAt = none ∧ n.id ∉ s.page.seenIds
  stored : s'.storage.seenNotifIds = some s'.page.seenIds ∨
    s'.storage.seenNotifIds = s.storage.seenNotifIds ∧ s'.page.seenIds = s.page.seenIds ∧
      newNotifs = []
  storage : s'.storage.accessToken = s.storage.accessToken
  log : s'.log = l.completed notifs newNotifs :: rest
  notifications : s'.notifications = s.notifications
  inFlight : s'.inFlight = s.inFlight
  sublist : newNotifs.Sublist notifs

theorem receive_spec (s : Tab) (notifs : List Notification) {l : Login} {rest : List Login}
    (hlog : s.log = l :: rest) :
    ∃ newNotifs, Received s (s.receive notifs) notifs newNotifs l rest := by
  by_cases hbase : s.page.Baseline
  · let page : Page := { s.page with
      seenIds := s.page.seenIds ∪ ids notifs, initialLoadDone := true }
    have hreceive : s.receive notifs =
        { s with
          page
          storage := { s.storage with seenNotifIds := some page.seenIds }
          log := l.completed notifs [] :: rest } := by
      have hfetched : s.page.fetchNotifs notifs = ⟨page, [], true⟩ := if_pos hbase
      unfold Tab.receive
      rw [hfetched, hlog]
      rfl
    rw [hreceive]
    refine ⟨[], rfl, rfl, fun _ => ⟨?_, rfl⟩, fun h => absurd hbase h, .inl rfl, rfl, rfl, rfl, rfl,
      List.nil_sublist _⟩
    rw [← Finset.empty_union (ids notifs), ← hbase.2]
  · let newNotifs := notifs.filter fun n => n.readAt = none ∧ n.id ∉ s.page.seenIds
    let page : Page :=
      { s.page with
        initialLoadDone := true
        seenIds := s.page.seenIds ∪ ids newNotifs
        toasts := s.page.toasts ++ newNotifs }
    have hreceive : s.receive notifs =
        { s with
          page
          storage := if newNotifs = [] then s.storage
            else { s.storage with seenNotifIds := some page.seenIds }
          log := l.completed notifs newNotifs :: rest } := by
      have hfetched : s.page.fetchNotifs notifs = ⟨page, newNotifs, newNotifs ≠ []⟩ := if_neg hbase
      unfold Tab.receive
      rw [hfetched, hlog]
      by_cases hnil : newNotifs = []
      · simp [hnil]
      · simp [hnil]
    rw [hreceive]
    refine ⟨newNotifs, rfl, rfl, fun h => absurd h hbase, fun _ => ⟨rfl, fun n => ?_⟩, ?_, ?_,
      rfl, rfl, rfl,
      List.filter_sublist⟩
    · simp [newNotifs]
    · by_cases hnil : newNotifs = []
      · right
        simp [hnil, page, ids]
      · left
        simp [hnil]
    · by_cases hnil : newNotifs = []
      · simp [hnil]
      · simp [hnil]

section Received

variable {notifs newNotifs : List Notification} {rest : List Login}

lemma Received.unseen (hr : Received s s' notifs newNotifs l rest) :
    ∀ n ∈ newNotifs, n.id ∉ s.page.seenIds := by
  intro n hn
  by_cases hbase : s.page.Baseline
  · rw [(hr.baseline hbase).2] at hn
    cases hn
  · exact (((hr.announced hbase).2 n).mp hn).2.2

lemma Received.grows (hr : Received s s' notifs newNotifs l rest) :
    s.page.seenIds ∪ ids newNotifs ⊆ s'.page.seenIds := by
  by_cases hbase : s.page.Baseline
  · rw [(hr.baseline hbase).2, hbase.2]
    exact Finset.empty_subset _
  · rw [(hr.announced hbase).1]

lemma Received.within (hr : Received s s' notifs newNotifs l rest) :
    s'.page.seenIds ⊆ s.page.seenIds ∪ ids notifs := by
  by_cases hbase : s.page.Baseline
  · rw [(hr.baseline hbase).1]
    exact Finset.subset_union_right
  · rw [(hr.announced hbase).1]
    apply Finset.union_subset_union_right
    intro id hid
    obtain ⟨n, hn, rfl⟩ := mem_ids.mp hid
    exact mem_ids_of_mem (hr.sublist.subset hn)

lemma Sound.owned (h : Sound s) (hf : (token, notifs) ∈ s.inFlight) :
    ∀ id ∈ ids notifs, ∃ n ∈ s.notifications.rows, n.id = id ∧ n.userId = token.userId := by
  intro id hid
  obtain ⟨n, hn, rfl⟩ := mem_ids.mp hid
  obtain ⟨n', hn', hid', huser, _⟩ := (h.flight _ hf).rows n hn
  exact ⟨n', hn', hid', huser⟩

lemma Follows.received (h : Follows s token l) (hs : Sound s) (hf : (token, notifs) ∈ s.inFlight)
    (hr : Received s s' notifs newNotifs l rest) :
    Follows s' token (l.completed notifs newNotifs) := by
  refine ⟨?_, ?_, ?_, ?_, ?_, ?_⟩
  · intro hnone
    rw [completed_first] at hnone
    cases hnone
  · rw [completed_toasted, ids_append]
    exact (Finset.union_subset_union_left h.toasted).trans hr.grows
  · intro hne
    rcases hr.stored with hsome | ⟨hsame, hseen, rfl⟩
    · exact hsome
    · rw [hsame, hseen]
      apply h.kept
      simpa using hne
  · intro first hfirst id hid
    rw [hr.notifications]
    rw [completed_first] at hfirst
    obtain rfl := Option.some.inj hfirst
    cases hl : l.first with
    | none =>
      rw [hl] at hid
      exact hs.owned hf id hid
    | some first =>
      rw [hl] at hid
      exact h.owned first hl id hid
  · intro hnone
    rw [completed_first] at hnone
    cases hnone
  · intro first _ hnotDone
    rw [hr.done] at hnotDone
    cases hnotDone

lemma Sound.received (h : Sound s) (htoken : s.page.accessToken = some token)
    (hf : (token, notifs) ∈ s.inFlight) (hlog : s.log = l :: rest)
    (hr : Received s s' notifs newNotifs l rest) : Sound s' := by
  obtain ⟨l', rest', hlog', hlogin, hfollows⟩ := h.logged token htoken
  obtain ⟨rfl, rfl⟩ := List.cons.inj (hlog'.symm.trans hlog)
  constructor
  · rw [hr.storage, hr.accessToken]
    exact h.token
  · rcases hr.stored with hsome | ⟨hsame, hseen, _⟩
    · exact .inr hsome
    · rw [hsame, hseen]
      exact h.stored
  · intro id hid
    rw [hr.notifications]
    rcases Finset.mem_union.mp (hr.within hid) with hid | hid
    · exact h.known id hid
    · obtain ⟨n, hn, hnid, _⟩ := h.owned hf id hid
      exact ⟨n, hn, hnid⟩
  · intro f hf
    rw [hr.inFlight] at hf
    have hearlier := h.earlier f hf
    rw [hlog] at hearlier
    rwa [hr.log]
  · intro f hf
    rw [hr.inFlight] at hf
    rw [hr.notifications]
    exact h.flight f hf
  · intro token' htoken'
    rw [hr.accessToken, htoken] at htoken'
    obtain rfl := Option.some.inj htoken'
    exact ⟨_, rest', hr.log, hlogin, hfollows.received h hf hr⟩
  · intro l'' hl
    rw [hr.log] at hl
    rcases List.mem_cons.mp hl with rfl | hl
    · -- what is new has not been seen, and what was toasted has
      rw [completed_toasted, List.map_append, List.nodup_append]
      refine ⟨h.once l' (hlog ▸ List.mem_cons_self),
        (h.flight _ hf).nodup.sublist (hr.sublist.map _), ?_⟩
      rintro id hold id' hid' rfl
      obtain ⟨n, hn, rfl⟩ := List.mem_map.mp hid'
      obtain ⟨m, hm, hmid⟩ := List.mem_map.mp hold
      exact hr.unseen n hn (hfollows.toasted (mem_ids.mpr ⟨m, hm, hmid⟩))
    · exact h.once l'' (hlog ▸ List.mem_cons_of_mem _ hl)

lemma Sound.receive (h : Sound s) (htoken : s.page.accessToken = some token)
    (hf : (token, notifs) ∈ s.inFlight) :
    Sound (s.receive notifs) := by
  obtain ⟨l, rest, hlog, _, _⟩ := h.logged token htoken
  obtain ⟨newNotifs, hr⟩ := receive_spec s notifs hlog
  exact h.received htoken hf hlog hr

end Received

lemma step_cases {a : TabAction} (h : s.step a = some s') :
    (∃ userId, a = .saveAccessToken userId ∧ s' = s.saveAccessToken userId) ∨
    (a = .logout ∧ s' = s.logout) ∨
      (a = .reload ∧ s' = s.reload) ∨ Around s s' ∨
      ∃ k f, a = .respond k ∧ s.inFlight[k]? = some f ∧ s.page.accessToken = some f.1 ∧
        Around (s.receive f.2) s' := by
  cases a with
  | saveAccessToken userId => exact .inl ⟨userId, rfl, (Option.some.inj h).symm⟩
  | logout => exact .inr (.inl ⟨rfl, (Option.some.inj h).symm⟩)
  | reload => exact .inr (.inr (.inl ⟨rfl, (Option.some.inj h).symm⟩))
  | close id =>
    obtain rfl := Option.some.inj h
    exact .inr (.inr (.inr (.inl ⟨rfl, rfl, rfl, rfl, rfl, .refl _, fun f hf => .inl hf⟩)))
  | create notification =>
    obtain ⟨t, ht, rfl⟩ := Option.map_eq_some_iff.mp h
    exact .inr (.inr (.inr (.inl
      ⟨rfl, rfl, rfl, rfl, rfl, evolves_insert ht, fun f hf => .inl hf⟩)))
  | markAsRead id userId now =>
    obtain rfl := Option.some.inj h
    exact .inr (.inr (.inr (.inl ⟨rfl, rfl, rfl, rfl, rfl, evolves_read, fun f hf => .inl hf⟩)))
  | poll =>
    obtain ⟨token, htoken, rfl⟩ := Option.map_eq_some_iff.mp h
    refine .inr (.inr (.inr (.inl ⟨rfl, rfl, rfl, rfl, rfl, .refl _, fun f hf => ?_⟩)))
    rcases List.mem_append.mp hf with hf | hf
    · exact .inl hf
    · obtain rfl := List.mem_singleton.mp hf
      exact .inr ⟨htoken, rfl⟩
  | respond k =>
    obtain ⟨f, hf, rfl⟩ := Option.map_eq_some_iff.mp h
    have hdropped : ∀ s₁ : Tab, Around s₁ { s₁ with inFlight := s₁.inFlight.eraseIdx k } :=
      fun s₁ =>
      ⟨rfl, rfl, rfl, rfl, rfl, .refl _, fun f hf => .inl (List.mem_of_mem_eraseIdx hf)⟩
    unfold Tab.respond
    by_cases htoken : s.page.accessToken = some f.1
    · rw [if_pos htoken]
      exact .inr (.inr (.inr (.inr ⟨k, f, rfl, hf, htoken, hdropped _⟩)))
    · rw [if_neg htoken]
      exact .inr (.inr (.inr (.inl (hdropped _))))

lemma Sound.step {a : TabAction} (h : Sound s) (hs : s.step a = some s') : Sound s' := by
  rcases step_cases hs with ⟨userId, rfl, rfl⟩ | ⟨rfl, rfl⟩ | ⟨rfl, rfl⟩ | ha |
      ⟨k, f, rfl, hf, htoken, ha⟩
  · exact h.saveAccessToken userId
  · exact h.logout
  · exact h.reload
  · exact h.around ha
  · exact (h.receive htoken (List.mem_of_getElem? hf)).around ha

lemma sound_opened (t : Table Notification) : Sound (.opened t) := by
  refine ⟨rfl, .inl rfl, ?_, ?_, ?_, ?_, ?_⟩
  · exact fun id hid => absurd hid (Finset.notMem_empty id)
  · exact fun f hf => absurd hf List.not_mem_nil
  · exact fun f hf => absurd hf List.not_mem_nil
  · intro token htoken
    cases htoken
  · exact fun l hl => absurd hl List.not_mem_nil

end Steps

theorem toasted_once {t : Table Notification} {as : List TabAction} {s : Tab}
    (h : (Tab.opened t).run as = some s) :
    ∀ l ∈ s.log, (l.toasted.map Notification.id).Nodup :=
  (Runs.run_invariant (fun _ _ _ hs _ => hs.step) (sound_opened t) (Runs.meets_true _ _) h).once

structure Quiet (s : Tab) (token : AccessToken) (id : Uuid) : Prop where
  rows : ∀ n ∈ s.notifications.rows, n.id = id → n.readAt ≠ none
  inFlight : ∀ f ∈ s.inFlight, f.1 = token → ∀ n ∈ f.2, n.id = id → n.readAt ≠ none

/-- A first response that is not taken for the baseline has nothing unread that is not seen already,
and a later one that is taken for it has nothing unread that the first did not have; `unread`
includes what other responses on their way still show unread. -/
structure Told (s : Tab) (token : AccessToken) (notifs : List Notification) (l : Login) : Prop where
  first : l.first = none → ¬ s.page.Baseline → ∀ f ∈ s.inFlight, f.1 = token →
    ∀ n ∈ f.2, n.readAt = none →
    n.id ∈ ids notifs → n.id ∈ s.page.seenIds
  later : ∀ first, l.first = some first → s.page.Baseline →
    ∀ f ∈ s.inFlight, f.1 = token → ∀ n ∈ f.2,
    n.readAt = none → n.id ∈ ids notifs → n.id ∈ ids first

def TellsFirst (s : Tab) (a : TabAction) : Prop :=
  ∀ k f l, a = .respond k → s.inFlight[k]? = some f → s.page.accessToken = some f.1 →
    s.log.head? = some l →
    Told s f.1 f.2 l

structure Remembers (s : Tab) (token : AccessToken) (l : Login) : Prop where
  seen : ∀ first, l.first = some first → ∀ n ∈ s.notifications.rows, n.id ∈ s.page.seenIds →
    n.userId = token.userId → n.id ∈ ids first ∨ n.id ∈ ids l.toasted ∨ Quiet s token n.id
  existing : ∀ first, l.first = some first → ¬ s.page.Baseline → ∀ id ∈ ids first,
    id ∈ s.page.seenIds ∨ Quiet s token id

structure Faithful (s : Tab) : Prop where
  remembers : ∀ token l rest, s.page.accessToken = some token → s.log = l :: rest →
    Remembers s token l
  announced : ∀ l ∈ s.log, l.Announced

section Conditions

variable {s s' : Tab} {token : AccessToken} {l : Login} {rest : List Login}
    {notifs : List Notification} {id : Uuid}

lemma Quiet.around (h : Quiet s token id) (ha : Around s s')
    (hknown : ∃ n ∈ s.notifications.rows, n.id = id) :
    Quiet s' token id := by
  have hrows : ∀ n ∈ s'.notifications.rows, n.id = id → n.readAt ≠ none := by
    intro n hn hid
    obtain ⟨m, hm, hmid, _, hread⟩ := ha.notifications.back hn (hid ▸ hknown)
    exact hread (h.rows m hm (hmid.trans hid))
  refine ⟨hrows, fun f hf htoken n hn hid => ?_⟩
  rcases ha.inFlight f hf with hold | ⟨_, hsnapshot⟩
  · exact h.inFlight f hold htoken n hn hid
  · rw [hsnapshot] at hn
    exact hrows n (mem_findAllForUser.mp hn).1 hid

lemma Sound.quiet (h : Sound s) (hf : (token, notifs) ∈ s.inFlight) (hid : id ∈ ids notifs)
    (hread : ∀ f ∈ s.inFlight, f.1 = token → ∀ n ∈ f.2, n.id = id → n.readAt ≠ none) :
    Quiet s token id := by
  refine ⟨fun n hn hnid => ?_, hread⟩
  obtain ⟨m, hm, hmid⟩ := mem_ids.mp hid
  obtain ⟨m', hm', hmid', _, hmread⟩ := (h.flight _ hf).rows m hm
  obtain rfl : m' = n := s.notifications.eq_of_key_eq hm' hn (hmid'.trans (hmid.trans hnid.symm))
  exact hmread (hread _ hf rfl m hm hmid)

lemma Faithful.around (h : Faithful s) (hs : Sound s) (ha : Around s s') : Faithful s' := by
  refine ⟨fun token l rest htoken hlog => ?_, ha.log ▸ h.announced⟩
  rw [ha.accessToken] at htoken
  rw [ha.log] at hlog
  obtain ⟨hseen, hexisting⟩ := h.remembers token l rest htoken hlog
  obtain ⟨l', rest', hlog', _, hfollows⟩ := hs.logged token htoken
  obtain ⟨rfl, rfl⟩ := List.cons.inj (hlog'.symm.trans hlog)
  constructor
  · intro first hfirst n hn hnseen huser
    rw [ha.seenIds] at hnseen
    obtain ⟨m, hm, hid, huser', _⟩ := ha.notifications.back hn (hs.known n.id hnseen)
    rw [← hid] at hnseen ⊢
    rcases hseen first hfirst m hm hnseen (huser'.trans huser) with hthere | hthere | hquiet
    · exact .inl hthere
    · exact .inr (.inl hthere)
    · exact .inr (.inr (hquiet.around ha ⟨m, hm, rfl⟩))
  · intro first hfirst hbase id hid
    have hbase' : ¬ s.page.Baseline := by
      unfold Page.Baseline at hbase ⊢
      rwa [ha.initialLoadDone, ha.seenIds] at hbase
    rw [ha.seenIds]
    obtain ⟨n, hn, hnid, _⟩ := hfollows.owned first hfirst id hid
    exact (hexisting first hfirst hbase' id hid).imp (fun h => h) fun hquiet =>
      hquiet.around ha ⟨n, hn, hnid⟩

lemma Faithful.reload (h : Faithful s) (hs : Sound s) : Faithful s.reload := by
  refine ⟨fun token l rest htoken hlog => ?_, h.announced⟩
  obtain ⟨hseen, hexisting⟩ := h.remembers token l rest (hs.token.symm.trans htoken) hlog
  have hquiet : ∀ id, Quiet s token id → Quiet s.reload token id := fun id hq =>
    ⟨hq.rows, fun f hf => absurd hf List.not_mem_nil⟩
  rcases hs.reload_seenIds with ⟨hempty, _⟩ | ⟨hsame, _⟩
  · constructor
    · intro first _ n _ hnseen
      rw [hempty] at hnseen
      exact absurd hnseen (Finset.notMem_empty _)
    · exact fun first _ hbase => absurd ⟨rfl, hempty⟩ hbase
  · constructor
    · intro first hfirst n hn hnseen huser
      rw [hsame] at hnseen
      exact (hseen first hfirst n hn hnseen huser).imp (fun h => h) fun h =>
        h.imp (fun h => h) (hquiet n.id)
    · intro first hfirst hbase id hid
      have hbase' : ¬ s.page.Baseline := fun hb => hbase ⟨rfl, hsame.trans hb.2⟩
      rw [hsame]
      exact (hexisting first hfirst hbase' id hid).imp (fun h => h) (hquiet id)

lemma Told.newNotifs_eq_nil (h : Told s token notifs l) (hf : (token, notifs) ∈ s.inFlight)
    (hfirst : l.first = none) {newNotifs : List Notification}
    (hr : Received s s' notifs newNotifs l rest) : newNotifs = [] := by
  by_cases hbase : s.page.Baseline
  · exact (hr.baseline hbase).2
  · rw [List.eq_nil_iff_forall_not_mem]
    intro n hn
    obtain ⟨hmem, hunread, hunseen⟩ := ((hr.announced hbase).2 n).mp hn
    exact hunseen (h.first hfirst hbase _ hf rfl n hmem hunread (mem_ids_of_mem hmem))

lemma Remembers.received (h : Remembers s token l) (hs : Sound s) (hfollows : Follows s token l)
    (hf : (token, notifs) ∈ s.inFlight) (htold : Told s token notifs l)
    {newNotifs : List Notification} (hr : Received s s' notifs newNotifs l rest) :
    Remembers s' token (l.completed notifs newNotifs) := by
  have hquiet : ∀ id, Quiet s token id → Quiet s' token id := fun id hq =>
    ⟨hr.notifications ▸ hq.rows, hr.inFlight ▸ hq.inFlight⟩
  cases hfirst : l.first with
  | none =>
    have hnil := htold.newNotifs_eq_nil hf hfirst hr
    constructor
    · intro first hcompleted n hn hseen huser
      obtain rfl : notifs = first := by simpa [completed_first, hfirst] using hcompleted
      left
      by_cases hbase : s.page.Baseline
      · rwa [(hr.baseline hbase).1] at hseen
      · rw [(hr.announced hbase).1, hnil] at hseen
        rw [hr.notifications] at hn
        exact hfollows.before hfirst _ hf rfl n hn (by simpa [ids] using hseen) huser
    · intro first hcompleted _ id hid
      obtain rfl : notifs = first := by simpa [completed_first, hfirst] using hcompleted
      by_cases hbase : s.page.Baseline
      · left
        rwa [(hr.baseline hbase).1]
      · by_cases hseen : id ∈ s.page.seenIds
        · left
          exact hr.grows (Finset.mem_union_left _ hseen)
        · right
          apply hquiet id
          apply hs.quiet hf hid
          rintro f hf' htoken n hn rfl hunread
          exact hseen (htold.first hfirst hbase f hf' htoken n hn hunread hid)
  | some first =>
    constructor
    · intro first' hcompleted n hn hseen huser
      obtain rfl : first = first' := by simpa [completed_first, hfirst] using hcompleted
      rw [hr.notifications] at hn
      rw [completed_toasted, ids_append]
      by_cases hbase : s.page.Baseline
      · -- what the second baseline takes in is of the first response, or is not unread anywhere
        rw [(hr.baseline hbase).1] at hseen
        by_cases hthere : n.id ∈ ids first
        · exact .inl hthere
        · right; right
          apply hquiet n.id
          apply hs.quiet hf hseen
          intro f hf' htoken m hm hid hunread
          rw [← hid] at hseen hthere
          exact hthere (htold.later first hfirst hbase f hf' htoken m hm hunread hseen)
      · rw [(hr.announced hbase).1] at hseen
        rcases Finset.mem_union.mp hseen with hseen | hnew
        · rcases h.seen first hfirst n hn hseen huser with hthere | hthere | hq
          · exact .inl hthere
          · exact .inr (.inl (Finset.mem_union_left _ hthere))
          · exact .inr (.inr (hquiet n.id hq))
        · exact .inr (.inl (Finset.mem_union_right _ hnew))
    · intro first' hcompleted _ id hid
      obtain rfl : first = first' := by simpa [completed_first, hfirst] using hcompleted
      by_cases hbase : s.page.Baseline
      · left
        rw [(hr.baseline hbase).1]
        exact hfollows.after first hfirst hbase.1 _ hf rfl hid
      · rcases h.existing first hfirst hbase id hid with hseen | hq
        · left
          exact hr.grows (Finset.mem_union_left _ hseen)
        · exact .inr (hquiet id hq)

lemma Login.Announced.received (h : l.Announced) (hmemory : Remembers s token l) (hs : Sound s)
    (hfollows : Follows s token l) (hf : (token, notifs) ∈ s.inFlight)
    (htold : Told s token notifs l) {newNotifs : List Notification}
    (hr : Received s s' notifs newNotifs l rest)
    (honce : ((l.completed notifs newNotifs).toasted.map Notification.id).Nodup) :
    (l.completed notifs newNotifs).Announced := by
  refine ⟨honce, ?_, ?_⟩
  · intro first' hcompleted n hn hid
    rw [completed_toasted] at hn
    cases hfirst : l.first with
    | none =>
      rw [(hfollows.unpolled hfirst).2, htold.newNotifs_eq_nil hf hfirst hr] at hn
      cases hn
    | some first =>
      obtain rfl : first = first' := by simpa [completed_first, hfirst] using hcompleted
      rcases List.mem_append.mp hn with hn | hn
      · exact h.existing first hfirst n hn hid
      · by_cases hbase : s.page.Baseline
        · rw [(hr.baseline hbase).2] at hn
          cases hn
        · -- what the first response had is seen, or nothing shows it unread
          obtain ⟨hmem, hunread, hunseen⟩ := ((hr.announced hbase).2 n).mp hn
          rcases hmemory.existing first hfirst hbase n.id hid with hseen | hq
          · exact hunseen hseen
          · exact hq.inFlight _ hf rfl n hmem rfl hunread
  · intro first' hcompleted response hresponse n hn hunread hnot
    rw [completed_toasted, ids_append]
    rw [completed_later] at hresponse
    cases hfirst : l.first with
    | none =>
      rw [if_pos hfirst, (hfollows.unpolled hfirst).1] at hresponse
      cases hresponse
    | some first =>
      obtain rfl : first = first' := by simpa [completed_first, hfirst] using hcompleted
      rw [if_neg (by simp [hfirst])] at hresponse
      rcases List.mem_append.mp hresponse with hold | hnew
      · exact Finset.mem_union_left _ (h.created first hfirst response hold n hn hunread hnot)
      · obtain rfl := List.mem_singleton.mp hnew
        by_cases hbase : s.page.Baseline
        · exact absurd (htold.later first hfirst hbase _ hf rfl n hn hunread (mem_ids_of_mem hn))
            hnot
        · by_cases hseen : n.id ∈ s.page.seenIds
          · -- what is seen was in the first response, or has been toasted
            obtain ⟨m, hm, hid, huser, _⟩ := (hs.flight _ hf).rows n hn
            rw [← hid] at hseen
            rcases hmemory.seen first hfirst m hm hseen huser with hthere | hthere | hq
            · exact absurd (hid ▸ hthere) hnot
            · exact Finset.mem_union_left _ (hid ▸ hthere)
            · exact absurd hunread (hq.inFlight _ hf rfl n hn hid.symm)
          · exact Finset.mem_union_right _
              (mem_ids_of_mem (((hr.announced hbase).2 n).mpr ⟨hn, hunread, hseen⟩))

lemma Faithful.receive (h : Faithful s) (hs : Sound s) (htoken : s.page.accessToken = some token)
    (hf : (token, notifs) ∈ s.inFlight) (hlog : s.log = l :: rest) (htold : Told s token notifs l) :
    Faithful (s.receive notifs) := by
  obtain ⟨l', rest', hlog', _, hfollows⟩ := hs.logged token htoken
  obtain ⟨rfl, rfl⟩ := List.cons.inj (hlog'.symm.trans hlog)
  obtain ⟨newNotifs, hr⟩ := receive_spec s notifs hlog
  have hmemory := h.remembers token l' rest' htoken hlog
  have hsound := hs.received htoken hf hlog hr
  constructor
  · intro token' l'' rest'' htoken' hlog''
    rw [hr.accessToken, htoken] at htoken'
    obtain rfl := Option.some.inj htoken'
    rw [hr.log] at hlog''
    obtain ⟨rfl, rfl⟩ := List.cons.inj hlog''
    exact hmemory.received hs hfollows hf htold hr
  · intro l'' hl
    rw [hr.log] at hl
    rcases List.mem_cons.mp hl with rfl | hl
    · have honce := hsound.once _ (hr.log ▸ List.mem_cons_self)
      exact (h.announced l' (hlog ▸ List.mem_cons_self)).received hmemory hs hfollows hf
        htold hr honce
    · exact h.announced l'' (hlog ▸ List.mem_cons_of_mem _ hl)

lemma Faithful.step {a : TabAction} (h : Faithful s) (hs : Sound s) (htells : TellsFirst s a)
    (hstep : s.step a = some s') : Faithful s' := by
  rcases step_cases hstep with
      ⟨userId, rfl, rfl⟩ | ⟨rfl, rfl⟩ | ⟨rfl, rfl⟩ | ha | ⟨k, f, rfl, hf, htoken, ha⟩
  · constructor
    · intro token l rest _ hlog
      obtain ⟨rfl, rfl⟩ := List.cons.inj hlog
      constructor
      · intro first hfirst
        cases hfirst
      · intro first hfirst
        cases hfirst
    · intro l hl
      rcases List.mem_cons.mp hl with rfl | hl
      · refine ⟨List.nodup_nil, ?_, ?_⟩
        · exact fun _ _ n hn => absurd hn List.not_mem_nil
        · exact fun _ _ response hresponse => absurd hresponse List.not_mem_nil
      · exact h.announced l hl
  · refine ⟨fun token l rest htoken => ?_, h.announced⟩
    cases htoken
  · exact h.reload hs
  · exact h.around hs ha
  · obtain ⟨l, rest, hlog, _, _⟩ := hs.logged f.1 htoken
    have hmem := List.mem_of_getElem? hf
    have htold := htells k f l rfl hf htoken (by rw [hlog]; rfl)
    exact (h.receive hs htoken hmem hlog htold).around (hs.receive htoken hmem) ha

end Conditions

/-- In a run in which the test of the seen ids tells the first completed poll of a login from the
later ones, or makes no difference, every login announces exactly what is new. -/
theorem toasts_announce_new {t : Table Notification} {as : List TabAction} {s : Tab}
    (hm : Runs.Meets Tab.step TellsFirst (.opened t) as) (h : (Tab.opened t).run as = some s) :
    ∀ l ∈ s.log, l.Announced := by
  have hstart : Sound (.opened t) ∧ Faithful (.opened t) := by
    refine ⟨sound_opened t, fun token l rest htoken => ?_, fun l hl => absurd hl List.not_mem_nil⟩
    cases htoken
  have hstep : ∀ s a s', Sound s ∧ Faithful s → TellsFirst s a → Tab.step s a = some s' → Sound s' ∧
      Faithful s' :=
    fun _ _ _ hs htells hstep => ⟨hs.1.step hstep, hs.2.step hs.1 htells hstep⟩
  exact (Runs.run_invariant hstep hstart hm h).2.announced

lemma tellsFirst_of_baseline_iff {s : Tab} {a : TabAction}
    (h : ∀ l ∈ s.log.head?, s.page.Baseline ↔ l.first = none) : TellsFirst s a := by
  intro k f l _ _ _ hl
  constructor
  · exact fun hfirst hbase => absurd ((h l hl).mpr hfirst) hbase
  · intro first hfirst hbase
    have hnone := (h l hl).mp hbase
    rw [hfirst] at hnone
    cases hnone

def demoNotification (id userId : ℕ) (createdAt : Instant) : Notification where
  id := .numbered id
  userId := .numbered userId
  type := "MERCHANT_PAYMENT_POSTED"
  title := "Merchant Payment Posted"
  message := "Your payment to Shop of 10.00 RON has been posted."
  createdAt

def demoNotifications : Table Notification where
  rows := [demoNotification 1 100 5]
  keys_nodup := List.nodup_singleton _
  alts_nodup := List.nodup_nil

/-- The second payment is posted between two polls, whose responses arrive the other way round. -/
def demoTab : List TabAction :=
  [.saveAccessToken (.numbered 100), .poll, .respond 0, .poll, .create (demoNotification 2 100 8),
    .poll, .respond 1,
    .respond 0, .reload, .poll, .respond 0]

theorem demo_announced : ∃ s l, (Tab.opened demoNotifications).run demoTab = some s ∧ l ∈ s.log ∧
    l.toasted.map Notification.id = [.numbered 2] ∧ l.Announced := by
  have heval : ((Tab.opened demoNotifications).run demoTab).bind (fun s => s.log.head?.map fun l =>
      decide (l.toasted.map Notification.id = [.numbered 2])) = some true := by
    decide +kernel
  obtain ⟨s, hs, heval⟩ := Option.bind_eq_some_iff.mp heval
  obtain ⟨l, hl, htoasted⟩ := Option.map_eq_some_iff.mp heval
  have hl := List.mem_of_head? hl
  have hmeets : Runs.Meets Tab.step (fun s _ => ∀ l ∈ s.log.head?, s.page.Baseline ↔ l.first = none)
      (.opened demoNotifications) demoTab := by
    decide +kernel
  refine ⟨s, l, hs, hl, of_decide_eq_true htoasted, ?_⟩
  exact toasts_announce_new (hmeets.imp fun _ _ h => tellsFirst_of_baseline_iff h) hs l hl

/-- A customer who has no notifications logs in and out before the other one logs in. -/
def secondLogin : List TabAction :=
  [.saveAccessToken (.numbered 200), .poll, .respond 0, .logout, .saveAccessToken (.numbered 100),
    .poll, .respond 0]

/-- The first payment of a customer who has no notifications is posted after a reload. -/
def firstPayment : List TabAction :=
  [.saveAccessToken (.numbered 200), .poll, .respond 0, .reload, .create (demoNotification 2 200 8),
    .poll, .respond 0]

/-- What was there at the second login is announced to it, and the payment after the reload is not
announced. -/
theorem second_login_first_payment :
    (∃ s l first, (Tab.opened demoNotifications).run secondLogin = some s ∧ l ∈ s.log ∧
      l.first = some first ∧
      ∃ n ∈ l.toasted, n.id ∈ ids first) ∧
    ∃ s l first notifs, (Tab.opened demoNotifications).run firstPayment = some s ∧ l ∈ s.log ∧
      l.first = some first ∧
      notifs ∈ l.later ∧ ∃ n ∈ notifs, n.readAt = none ∧ n.id ∉ ids first ∧
        n.id ∉ ids l.toasted := by
  constructor
  · have heval : ((Tab.opened demoNotifications).run secondLogin).bind
        (fun s => s.log.head?.bind fun l =>
        l.first.map fun first => decide (∃ n ∈ l.toasted, n.id ∈ ids first)) = some true := by
      decide +kernel
    obtain ⟨s, hs, heval⟩ := Option.bind_eq_some_iff.mp heval
    obtain ⟨l, hl, heval⟩ := Option.bind_eq_some_iff.mp heval
    obtain ⟨first, hfirst, htoasted⟩ := Option.map_eq_some_iff.mp heval
    exact ⟨s, l, first, hs, List.mem_of_head? hl, hfirst, of_decide_eq_true htoasted⟩
  · have heval : ((Tab.opened demoNotifications).run firstPayment).bind
        (fun s => s.log.head?.bind fun l =>
        l.first.bind fun first => l.later.getLast?.map fun notifs =>
          decide (∃ n ∈ notifs, n.readAt = none ∧ n.id ∉ ids first ∧ n.id ∉ ids l.toasted)) =
            some true := by
      decide +kernel
    obtain ⟨s, hs, heval⟩ := Option.bind_eq_some_iff.mp heval
    obtain ⟨l, hl, heval⟩ := Option.bind_eq_some_iff.mp heval
    obtain ⟨first, hfirst, heval⟩ := Option.bind_eq_some_iff.mp heval
    obtain ⟨notifs, hnotifs, hmissed⟩ := Option.map_eq_some_iff.mp heval
    refine ⟨s, l, first, notifs, hs, List.mem_of_head? hl, hfirst, List.mem_of_getLast? hnotifs, ?_⟩
    exact of_decide_eq_true hmissed

section Needed

variable {s : Tab} {token : AccessToken} {k : ℕ} {notifs : List Notification} {l : Login}
    {rest : List Login}

lemma step_respond (hk : s.inFlight[k]? = some (token, notifs))
    (htoken : s.page.accessToken = some token) :
    s.step (.respond k) = some { s.receive notifs with inFlight := s.inFlight.eraseIdx k } := by
  have hrespond : s.respond k (token, notifs) = { s.receive notifs with
      inFlight := s.inFlight.eraseIdx k } := by
    unfold Tab.respond
    rw [if_pos htoken]
    rfl
  exact (congrArg (Option.map (s.respond k)) hk).trans (congrArg some hrespond)

theorem Told.of_announced (hs : Sound s) (hk : s.inFlight[k]? = some (token, notifs))
    (htoken : s.page.accessToken = some token) (hlog : s.log = l :: rest) {s' : Tab}
    (hstep : s.step (.respond k) = some s') (hnow : ∀ l ∈ s'.log, l.Announced)
    (hnext : ∀ j s'', s'.step (.respond j) = some s'' → ∀ l ∈ s''.log, l.Announced) :
    Told s token notifs l := by
  obtain ⟨newNotifs, hr⟩ := receive_spec s notifs hlog
  obtain rfl := Option.some.inj ((step_respond hk htoken).symm.trans hstep)
  have hnow := hnow _ (hr.log ▸ List.mem_cons_self)
  have hflight : ∀ g ∈ s.inFlight, g = (token, notifs) ∨ g ∈ s.inFlight.eraseIdx k := by
    intro g hg
    obtain ⟨j, hj⟩ := List.mem_iff_getElem?.mp hg
    by_cases hjk : j = k
    · subst hjk
      exact .inl (Option.some.inj (hj.symm.trans hk))
    · exact .inr (List.mem_eraseIdx_iff_getElem?.mpr ⟨j, hjk, hj⟩)
  -- the response that is still on its way arrives next, in a page that has its baseline
  have hlater : ∀ g ∈ s.inFlight.eraseIdx k, g.1 = token → ∃ newNotifs',
      ((l.completed notifs newNotifs).completed g.2 newNotifs').Announced ∧
        ∀ n, n ∈ newNotifs' ↔ n ∈ g.2 ∧ n.readAt = none ∧
          n.id ∉ (s.receive notifs).page.seenIds := by
    rintro ⟨_, response⟩ hg rfl
    obtain ⟨j, hj⟩ := List.mem_iff_getElem?.mp hg
    let s' : Tab := { s.receive notifs with inFlight := s.inFlight.eraseIdx k }
    obtain ⟨newNotifs', hr'⟩ := receive_spec s' response hr.log
    have hdone : ¬ s'.page.Baseline := fun hb => Bool.false_ne_true (hb.1.symm.trans hr.done)
    refine ⟨newNotifs', hnext j _ (step_respond hj (hr.accessToken.trans htoken)) _ ?_,
      (hr'.announced hdone).2⟩
    exact hr'.log ▸ List.mem_cons_self
  obtain ⟨l', rest', hlog', _, hfollows⟩ := hs.logged token htoken
  obtain ⟨rfl, rfl⟩ := List.cons.inj (hlog'.symm.trans hlog)
  constructor
  · intro hfirst hbase g hg hgtoken n hn hunread hid
    by_contra hunseen
    have hcompleted : (l'.completed notifs newNotifs).first = some notifs := by
      rw [completed_first, hfirst]
      rfl
    have hold : ∀ m ∈ newNotifs, m.id ∉ ids notifs := fun m hm =>
      hnow.existing notifs hcompleted m (completed_toasted _ _ _ ▸ List.mem_append_right _ hm)
    rcases hflight g hg with rfl | hg
    · exact hold n (((hr.announced hbase).2 n).mpr ⟨hn, hunread, hunseen⟩) hid
    · obtain ⟨newNotifs', hthen, hnew⟩ := hlater g hg hgtoken
      have hseen : n.id ∉ (s.receive notifs).page.seenIds := by
        rw [(hr.announced hbase).1, Finset.mem_union, not_or]
        refine ⟨hunseen, fun hmem => ?_⟩
        obtain ⟨m, hm, hmid⟩ := mem_ids.mp hmem
        exact hold m hm (hmid ▸ hid)
      have htoasted : n ∈ ((l'.completed notifs newNotifs).completed g.2 newNotifs').toasted := by
        rw [completed_toasted]
        exact List.mem_append_right _ ((hnew n).mpr ⟨hn, hunread, hseen⟩)
      exact hthen.existing notifs (completed_some hcompleted g.2 newNotifs').1 n htoasted hid
  · intro first hfirst hbase g hg hgtoken n hn hunread hid
    by_contra hthere
    obtain ⟨hcompleted, hlast⟩ := completed_some hfirst notifs newNotifs
    have hnone : (l'.completed notifs newNotifs).toasted = [] := by
      have hnil : ids l'.toasted = ∅ := Finset.subset_empty.mp (hbase.2 ▸ hfollows.toasted)
      rw [completed_toasted, (hr.baseline hbase).2, List.append_nil]
      simpa [ids] using hnil
    rcases hflight g hg with rfl | hg
    · have hmem := hnow.created first hcompleted notifs hlast n hn hunread hthere
      rw [hnone] at hmem
      exact absurd hmem (Finset.notMem_empty _)
    · obtain ⟨newNotifs', hthen, hnew⟩ := hlater g hg hgtoken
      obtain ⟨hkept, hnext⟩ := completed_some hcompleted g.2 newNotifs'
      have hmem := hthen.created first hkept g.2 hnext n hn hunread hthere
      rw [completed_toasted, hnone, List.nil_append] at hmem
      obtain ⟨m, hm, hmid⟩ := mem_ids.mp hmem
      apply ((hnew m).mp hm).2.2
      rwa [(hr.baseline hbase).1, hmid]

end Needed

end NotificationToaster

end OnlineBanking
