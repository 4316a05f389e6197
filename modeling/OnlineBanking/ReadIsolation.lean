import OnlineBanking.CardOwners
import OnlineBanking.Provenance

set_option autoImplicit false

/-! What the reads of the API show of the database: all that the user has, and nothing of anybody
else. -/

namespace OnlineBanking

open Library

def Db.ProfileOf (db : Db) (userId customerId : Uuid) : Prop :=
  ∃ profile, db.customerProfiles.find customerId = some profile ∧ profile.userId = userId

structure Db.Holds (db : Db) (userId accountId : Uuid) : Prop where
  owned : db.OwnedBy userId accountId
  ordinary : ¬ db.isSystem accountId

/-- The answer shows rows of the world `v` as they stand there, and by the time of `w` they are the
user's. -/
def ApiResponse.About (v w : ApiWorld) (userId : Uuid) : ApiResponse → Prop
  | .me view =>
    (∃ user, v.db.users.find userId = some user ∧ view = v.db.me user (v.roles userId)) ∧
      ∀ id, view.customerProfileId = some id → w.db.ProfileOf userId id
  | .accounts views => (views.map AccountView.id).Nodup ∧
      ∀ view ∈ views, ∃ a ∈ v.db.accounts.rows, view = a.view ∧ w.db.Holds userId a.id
  | .cards views => (views.map CardView.id).Nodup ∧ ∀ view ∈ views, ∃ card ∈ v.cards.rows,
      view = card.view v.db ∧ card.status ≠ .closed ∧ w.db.ProfileOf userId card.customerId ∧
        ∃ a ∈ v.db.accounts.rows, view.account = some a.cardView ∧ w.db.Holds userId a.id
  | .notifications rows => (rows.map Notification.id).Nodup ∧
      ∀ n ∈ rows, n ∈ v.db.notifications.rows ∧ n.userId = userId
  | .merchants views => (views.map MerchantView.id).Nodup ∧
      ∀ view ∈ views, ∃ m ∈ v.db.merchants.rows, view = m.view ∧ m.status = .active
  | .customers _ => False
  | _ => True

def ApiResponse.IsRead : ApiResponse → Prop
  | .service _ => False
  | .other => False
  | _ => True

section Views

variable {db db' : Db} {userId id : Uuid} {profile : CustomerProfile} {w : ApiWorld}

lemma Db.profileOf_of_findAlt (h : db.customerProfiles.findAlt userId = some profile) :
    db.ProfileOf userId profile.id := by
  obtain ⟨hmem, halt⟩ := Table.findAlt_eq_some.mp h
  exact ⟨profile, Table.find_eq_some.mpr ⟨hmem, rfl⟩, Option.some.inj halt⟩

lemma Knows.profileOf (h : Knows db db') (hp : db.ProfileOf userId id) :
    db'.ProfileOf userId id := by
  obtain ⟨profile, hfound, huser⟩ := hp
  obtain ⟨profile', hfound', huser'⟩ := h.profiles _ _ hfound
  exact ⟨profile', hfound', huser'.trans huser⟩

lemma Db.ProfileOf.unique {id' : Uuid} (h : db.ProfileOf userId id)
    (h' : db.ProfileOf userId id') : id = id' := by
  obtain ⟨p, hp, huser⟩ := h
  obtain ⟨p', hp', huser'⟩ := h'
  obtain ⟨hm, rfl⟩ := Table.find_eq_some.mp hp
  obtain ⟨hm', rfl⟩ := Table.find_eq_some.mp hp'
  exact congrArg _ (db.customerProfiles.eq_of_alt_eq hm hm' (congrArg some huser)
    (congrArg some huser'))

lemma Db.ownedBy_of_mem {a : Account} (ha : a ∈ db.accounts.rows) :
    db.OwnedBy userId a.id ↔ db.ProfileOf userId a.customerId := by
  have hfound : db.accounts.find a.id = some a := Table.find_eq_some.mpr ⟨ha, rfl⟩
  constructor
  · rintro ⟨account, profile, haccount, hprofile, huser⟩
    obtain rfl : a = account := Option.some.inj (hfound.symm.trans haccount)
    exact ⟨profile, hprofile, huser⟩
  · rintro ⟨profile, hprofile, huser⟩
    exact ⟨a, profile, hfound, hprofile, huser⟩

lemma Db.isSystem_of_mem {a : Account} (ha : a ∈ db.accounts.rows) :
    db.isSystem a.id ↔ a.isSystem = true := by
  have hfound : db.accounts.find a.id = some a := Table.find_eq_some.mpr ⟨ha, rfl⟩
  simp [Db.isSystem, hfound]

lemma Db.mem_ordinaryAccounts {customerId : Uuid} {view : AccountView} :
    view ∈ db.ordinaryAccounts customerId ↔
    ∃ a ∈ db.accounts.rows, a.customerId = customerId ∧ a.isSystem = false ∧ view = a.view := by
  simp only [Db.ordinaryAccounts, Db.accountsOf, List.mem_map, List.mem_filter, decide_eq_true_eq]
  constructor
  · rintro ⟨a, ⟨⟨ha, hcustomer⟩, hordinary⟩, rfl⟩
    exact ⟨a, ha, hcustomer, hordinary, rfl⟩
  · rintro ⟨a, ha, hcustomer, hordinary, rfl⟩
    exact ⟨a, ⟨⟨ha, hcustomer⟩, hordinary⟩, rfl⟩

lemma Db.ordinaryAccounts_nodup (customerId : Uuid) :
    ((db.ordinaryAccounts customerId).map AccountView.id).Nodup := by
  rw [Db.ordinaryAccounts, List.map_map]
  exact db.accounts.keys_nodup.sublist ((List.filter_sublist.trans List.filter_sublist).map _)

lemma ApiWorld.mem_openCards {customerId : Uuid} {rank : Uuid → ℕ} {view : CardView} :
    view ∈ w.openCards customerId rank ↔ ∃ card ∈ w.cards.rows, card.customerId = customerId ∧
      card.status ≠ .closed ∧ card.view w.db = view := by
  simp only [ApiWorld.openCards, List.mem_map, List.mem_insertionSort, List.mem_filter,
    decide_eq_true_eq]
  constructor
  · rintro ⟨card, ⟨hcard, hcustomer, hopen⟩, rfl⟩
    exact ⟨card, hcard, hcustomer, hopen, rfl⟩
  · rintro ⟨card, hcard, hcustomer, hopen, rfl⟩
    exact ⟨card, ⟨hcard, hcustomer, hopen⟩, rfl⟩

lemma Db.mem_activeMerchants {collate : String → String → Bool} {view : MerchantView} :
    view ∈ db.activeMerchants collate ↔ ∃ m ∈ db.merchants.rows, view = m.view ∧
      m.status = .active := by
  simp only [Db.activeMerchants, List.mem_map, List.mem_insertionSort, List.mem_filter,
    decide_eq_true_eq]
  constructor
  · rintro ⟨m, ⟨hm, hactive⟩, rfl⟩
    exact ⟨m, hm, rfl, hactive⟩
  · rintro ⟨m, hm, rfl, hactive⟩
    exact ⟨m, ⟨hm, hactive⟩, rfl⟩

lemma Db.activeMerchants_nodup (collate : String → String → Bool) :
    ((db.activeMerchants collate).map MerchantView.id).Nodup := by
  rw [Db.activeMerchants, List.map_map]
  rw [((List.perm_insertionSort (fun a b : Merchant => collate a.name b.name = true) _).map
    (MerchantView.id ∘ Merchant.view)).nodup_iff]
  exact db.merchants.keys_nodup.sublist (List.filter_sublist.map _)

lemma ApiWorld.openCards_nodup (customerId : Uuid) (rank : Uuid → ℕ) :
    ((w.openCards customerId rank).map CardView.id).Nodup := by
  rw [ApiWorld.openCards, List.map_map]
  rw [((List.perm_insertionSort (fun a b : Card => rank a.id ≤ rank b.id) _).map
    (CardView.id ∘ Card.view w.db)).nodup_iff]
  exact w.cards.keys_nodup.sublist (List.filter_sublist.map _)

end Views

section Runs

variable {host : Host} {w : ApiWorld} {schedule : List ApiAction} {b : Api}
    {ms : List AppAction} {d : App}

structure Became (v w : ApiWorld) : Prop where
  knows : Knows v.db w.db
  cards : ∀ x ∈ v.cards.rows, ∃ x' ∈ w.cards.rows, x'.id = x.id ∧ x'.customerId = x.customerId
  homed : v.CardsHomed

def ApiResponse.Complete (v : ApiWorld) (userId : Uuid) : ApiResponse → Prop
  | .accounts views => ∀ a ∈ v.db.accounts.rows, v.db.Holds userId a.id → a.view ∈ views
  | .cards views =>
    ∀ card ∈ v.cards.rows, v.db.ProfileOf userId card.customerId → card.status ≠ .closed →
      card.view v.db ∈ views
  | .notifications rows => ∀ n ∈ v.db.notifications.rows, n.userId = userId → n ∈ rows
  | .merchants views => ∀ m ∈ v.db.merchants.rows, m.status = .active → m.view ∈ views
  | _ => True

lemma Became.profile_unique {v v' : ApiWorld} (hv : Became v w) (hv' : Became v' w)
    {userId id : Uuid} {profile : CustomerProfile}
    (hfound : v.db.customerProfiles.findAlt userId = some profile)
    (hid : v'.db.ProfileOf userId id) : id = profile.id :=
  (hv'.knows.profileOf hid).unique (hv.knows.profileOf (Db.profileOf_of_findAlt hfound))

lemma Refines.became (h : Refines host w schedule b ms d) (hw : w.CardsHomed) {v : ApiWorld}
    (hv : Api.Visits host w schedule v) : Became v b.world := by
  obtain ⟨os, e, ⟨rest, rfl⟩, hos, hworld⟩ := (h.visits _).mpr ⟨v, hv, rfl⟩
  have he := (appDiscipline host).holds_of_run ((appDiscipline host).init_holds w.toAppWorld) hos
  have hrest : App.run host e rest = some d := (Config.run_after hos).symm.trans h.run
  have hknows : Knows e.shared.world.db d.world.db := (app_knows host).run he hrest
  have hcards := ((app_grows host).run he hrest).cards
  have hhomed : e.shared.world.CardsHomed := run_cardsHomed hw hos
  have hev : e.shared.world = v.toAppWorld := hworld
  rw [hev] at hknows hhomed
  rw [h.world] at hknows
  exact ⟨hknows, by rw [← h.world, ← hev]; exact hcards, hhomed⟩

lemma Became.holds {v : ApiWorld} (hv : Became v w) {userId : Uuid} {a : Account}
    (ha : a ∈ v.db.accounts.rows) (howner : w.db.ProfileOf userId a.customerId)
    (hordinary : a.isSystem = false) : w.db.Holds userId a.id := by
  obtain ⟨a', ha', hcustomer, hsystem⟩ := hv.knows.accounts _ _ (Table.find_eq_some.mpr ⟨ha, rfl⟩)
  obtain ⟨hmem, hid⟩ := Table.find_eq_some.mp ha'
  rw [show a.id = a'.id from hid.symm]
  refine ⟨(Db.ownedBy_of_mem hmem).mpr (hcustomer ▸ howner), ?_⟩
  rw [Db.isSystem_of_mem hmem, hsystem, hordinary]
  exact Bool.false_ne_true

lemma Reads.about {Was : ApiWorld → Prop} (hbecame : ∀ v, Was v → Became v w) {userId : Uuid}
    {route : CustomerRoute} {r : ApiResponse} (h : Reads Was userId route r) (hr : r.IsRead) :
    ∃ v, Was v ∧ r.About v w userId ∧ r.Complete v userId := by
  have hnobody : ∀ v : ApiWorld, v.db.customerProfiles.findAlt userId = none →
      ∀ id, ¬ v.db.ProfileOf userId id := by
    rintro v hnone id ⟨profile, hfound, huser⟩
    obtain ⟨hmem, _⟩ := Table.find_eq_some.mp hfound
    exact Table.findAlt_eq_none.mp hnone profile hmem (congrArg some huser)
  cases h with
  | me v was user found =>
    obtain rfl : user.id = userId := (Table.find_eq_some.mp found).2
    refine ⟨v, was, ⟨⟨user, found, rfl⟩, fun id hid => ?_⟩, trivial⟩
    obtain ⟨profile, hprofile, rfl⟩ := Option.map_eq_some_iff.mp hid
    exact (hbecame v was).knows.profileOf (Db.profileOf_of_findAlt hprofile)
  | noAccounts v was hnone =>
    refine ⟨v, was, ⟨List.nodup_nil, by simp⟩, fun a ha hholds => ?_⟩
    exact absurd ((Db.ownedBy_of_mem ha).mp hholds.owned) (hnobody v hnone a.customerId)
  | noCards v was hnone =>
    refine ⟨v, was, ⟨List.nodup_nil, by simp⟩, fun card _ hprofile => ?_⟩
    exact absurd hprofile (hnobody v hnone card.customerId)
  | accounts v v' was was' profile found =>
    have hprofile := (hbecame v was).knows.profileOf (Db.profileOf_of_findAlt found)
    refine ⟨v', was', ⟨Db.ordinaryAccounts_nodup _, fun view hview => ?_⟩, fun a ha hholds => ?_⟩
    · obtain ⟨a, ha, hcustomer, hordinary, rfl⟩ := Db.mem_ordinaryAccounts.mp hview
      exact ⟨a, ha, rfl, (hbecame v' was').holds ha (hcustomer ▸ hprofile) hordinary⟩
    · have howner := (Db.ownedBy_of_mem ha).mp hholds.owned
      refine Db.mem_ordinaryAccounts.mpr
        ⟨a, ha, (hbecame v was).profile_unique (hbecame v' was') found howner, ?_, rfl⟩
      exact Bool.eq_false_iff.mpr fun hsystem =>
        hholds.ordinary ((Db.isSystem_of_mem ha).mpr hsystem)
  | cards v v' was was' profile rank found =>
    have hprofile := (hbecame v was).knows.profileOf (Db.profileOf_of_findAlt found)
    have hlater := hbecame v' was'
    refine ⟨v', was', ⟨ApiWorld.openCards_nodup _ _, fun view hview => ?_⟩,
      fun card hcard howner hopen => ?_⟩
    · obtain ⟨card, hcard, hcustomer, hopen, rfl⟩ := ApiWorld.mem_openCards.mp hview
      obtain ⟨a, ha, howner, hordinary⟩ := hlater.homed card hcard
      have hmem := (Table.find_eq_some.mp ha).1
      have hshown : (card.view v'.db).account = some a.cardView := by
        simp only [Card.view, ha, Option.map_some, Account.cardView]
      exact ⟨card, hcard, rfl, hopen, hcustomer ▸ hprofile, a, hmem, hshown,
        hlater.holds hmem (howner ▸ hcustomer ▸ hprofile) hordinary⟩
    · exact ApiWorld.mem_openCards.mpr
        ⟨card, hcard, (hbecame v was).profile_unique hlater found howner, hopen, rfl⟩
  | merchants v was collate =>
    refine ⟨v, was, ⟨Db.activeMerchants_nodup _, fun view hview => Db.mem_activeMerchants.mp hview⟩,
      fun m hm hactive => ?_⟩
    exact Db.mem_activeMerchants.mpr ⟨m, hm, rfl, hactive⟩
  | notifications v was =>
    refine ⟨v, was, ⟨findAllForUser_nodup _ _, fun n hn => mem_findAllForUser.mp hn⟩,
      fun n hn huser => ?_⟩
    exact mem_findAllForUser.mpr ⟨hn, huser⟩
  | other => cases hr

lemma Refines.about (h : Refines host w schedule b ms d) (hw : w.CardsHomed) {t : ℕ} {token : Token}
    {route : CustomerRoute} {r : ApiResponse}
    (ht : b.threads t = some (.request token route, .done (.ok r))) (hr : r.IsRead) :
    ∃ v, Api.During host w schedule t v ∧ r.About v b.world token.payload.sub ∧
      r.Complete v token.payload.sub := by
  cases h.answers t _ r ht with
  | service _ _ => cases hr
  | request _ reads => exact reads.about (fun _ hv => h.became hw hv.visits) hr

/-- The reads of a customer show the customer's rows, as they stood at one moment of the request,
all of them and nothing of anybody else: neither an account of the bank, nor a foreign card, nor a
foreign account behind an own card, nor the list of the customers; and nobody but an administrator
is answered on an administrator's route. -/
theorem reads_isolated (hw : w.CardsHomed) (h : (Api.start w).run host schedule = some b) :
    (∀ t token route r, b.threads t = some (.request token route, .done (.ok r)) → r.IsRead →
      ∃ v, Api.During host w schedule t v ∧ r.About v b.world token.payload.sub ∧
        r.Complete v token.payload.sub) ∧
    ∀ t token route r, b.threads t = some (.admin token route, .done (.ok r)) →
      "ADMIN" ∈ w.roles token.payload.sub ∧
        ∃ v, Api.During host w schedule t v ∧
          (v.credentials token.payload.sub).isActive = true := by
  obtain ⟨ms, d, hrefines⟩ := run_refines h
  refine ⟨fun t token route r ht hr => hrefines.about hw ht hr, fun t token route r ht => ?_⟩
  · have hadmin : ∀ v, Api.During host w schedule t v → v.Holds token.payload.sub "ADMIN" →
        "ADMIN" ∈ w.roles token.payload.sub ∧
          ∃ v, Api.During host w schedule t v ∧ (v.credentials token.payload.sub).isActive = true :=
      fun v hv hholds => ⟨hv.visits.roles (by decide) hholds.role, v, hv, hholds.active⟩
    cases hrefines.answers t _ r ht with
    | service serves _ =>
      cases serves with
      | open_ service => cases service
      | admin _ role _ => exact hadmin _ role.choose_spec.1 role.choose_spec.2
    | admin _ role _ => exact hadmin _ role.choose_spec.1 role.choose_spec.2

end Runs

def demoCardsSchedule : List ApiAction :=
  demoApiSolo 0 5 demoApiLogin ++ demoApiSolo 1 7 demoApiVerifyMfa ++ demoApiSolo 2 6
    (.request demoAccessToken .getCards)

def Api.shownCards (b : Api) (t : ℕ) : Option (List CardView) :=
  match b.threads t with
  | some (.request token .getCards, .done (.ok (.cards views))) =>
    if token = demoAccessToken then some views else none
  | _ => none

theorem demo_reads_isolated : ∃ b, ∃ views : List CardView, ∃ v,
    (Api.start demoApiWorld).run demoHost demoCardsSchedule = some b ∧ views.length = 2 ∧
    Api.During demoHost demoApiWorld demoCardsSchedule 2 v ∧
    (ApiResponse.cards views).About v b.world demoAccessToken.payload.sub ∧
    (ApiResponse.cards views).Complete v demoAccessToken.payload.sub := by
  have hrun : ((Api.start demoApiWorld).run demoHost demoCardsSchedule).map (fun b =>
      (b.shownCards 2).map List.length) = some (some 2) := by decide +kernel
  obtain ⟨b, hb, hend⟩ := Option.map_eq_some_iff.mp hrun
  obtain ⟨views, hviews, hlength⟩ := Option.map_eq_some_iff.mp hend
  unfold Api.shownCards at hviews
  split at hviews
  · rename_i ht
    split_ifs at hviews with htoken
    obtain rfl := Option.some.inj hviews
    obtain rfl := htoken
    obtain ⟨v, hv⟩ := (reads_isolated demoAppWorld_cardsHomed hb).1 2 _ _ _ ht trivial
    exact ⟨b, _, v, hb, hlength, hv⟩
  · cases hviews

end OnlineBanking
