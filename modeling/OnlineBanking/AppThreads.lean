import OnlineBanking.AppEffects
import OnlineBanking.Library.Logs

set_option autoImplicit false

/-! Every request to the backend keeps to the effects, whatever the other requests do between its
actions. -/

namespace OnlineBanking

open Library AppService

section Runs

variable (host : Host) (t : ℕ) (c : AppCall)

/-- From `s` on, each action of the program has an effect that call `c` allows, and it ends in `Q`
or throws. -/
structure AppRuns {α : Type} (x : AppService α) (s : AppState)
    (Q : α → AppState → Prop) : Prop where
  safe : x.Safe (AppRely t) (fun _ _ => True) (AppEffect host t c) t
    (fun r u => ∀ a, r = .ok a → Q a u) s

-- the rules below are all that is used of it
attribute [local irreducible] Prog.Safe

variable {host t c} {α β : Type} {s : AppState} {Q : α → AppState → Prop} {R : β → AppState → Prop}

lemma appRuns_pure {a : α} (h : ∀ u, AppRely t s u → Q a u) : AppRuns host t c (pure a) s Q :=
  ⟨Prog.safe_pure fun u hu _ hr => Except.ok.inj hr ▸ h u hu⟩

lemma appRuns_throw {e : AppFailure} : AppRuns host t c (throw e) s Q :=
  ⟨Prog.safe_throw fun _ _ _ hr => by cases hr⟩

lemma appRuns_fail {e : Failure} : AppRuns host t c (fail e) s Q := appRuns_throw

lemma appRuns_mono {x : AppService α} {P : α → AppState → Prop} (h : AppRuns host t c x s P)
    (hQ : ∀ a u, P a u → Q a u) : AppRuns host t c x s Q :=
  ⟨h.safe.mono fun _ u hr a ha => hQ a u (hr a ha)⟩

lemma appRuns_bind {x : AppService α} {f : α → AppService β}
    (h : AppRuns host t c x s fun a u => AppRuns host t c (f a) u R) :
    AppRuns host t c (x >>= f) s R := by
  refine ⟨Prog.safe_bind (AppRely.refl t) (h.safe.mono fun r u hr => ?_)⟩
  cases r with
  | ok a => exact (hr a rfl).safe
  | error e => exact fun _ _ _ ha => by cases ha

lemma appRuns_atomic {a : AppInputs → AppWorld → Except AppFailure α × AppWorld × List AppEvent}
    (h : ∀ u, AppRely t s u → ∀ i, AppEffect host t c i u
      (u.after t (a i u.world).2.1 (a i u.world).2.2) ∧
      ∀ v, AppRely t (u.after t (a i u.world).2.1 (a i u.world).2.2) v →
        ∀ r, (a i u.world).1 = .ok r → Q r v) : AppRuns host t c (Prog.atomic a) s Q :=
  ⟨Prog.safe_atomic fun u hu i _ => h u hu i⟩

lemma appAfter_same {w : AppWorld} (h : w = s.world) : s.after t w [] = s := by
  subst h
  simp [Shared.after]

lemma appRuns_statement {l : AppStatement}
    {body : AppInputs → AppWorld → Except PrismaError (α × AppWorld × List AppEvent)}
    (h : ∀ u, AppRely t s u → ∀ i a w es, body i u.world = .ok (a, w, es) →
      AppEffect host t c i u (u.after t w es) ∧ ∀ v, AppRely t (u.after t w es) v → Q a v) :
    AppRuns host t c (AppService.statement l body) s Q := by
  refine appRuns_atomic fun u hu i => ?_
  cases hf : i.outage l with
  | some e =>
    rw [appAfter_same rfl]
    exact ⟨.idle rfl, fun _ _ _ hr => by cases hr⟩
  | none =>
    cases hb : body i u.world with
    | error e =>
      rw [appAfter_same rfl]
      exact ⟨.idle rfl, fun _ _ _ hr => by cases hr⟩
    | ok p =>
      obtain ⟨a, w, es⟩ := p
      obtain ⟨heffect, hQ⟩ := h u hu i a w es hb
      exact ⟨heffect, fun v hv r hr => Except.ok.inj hr ▸ hQ v hv⟩

lemma appRuns_read {l : AppStatement} {f : AppInputs → AppWorld → α}
    (hQ : ∀ i u v, AppRely t s u → AppRely t u v → Q (f i u.world) v) :
    AppRuns host t c (AppService.read l f) s Q := by
  refine appRuns_statement fun u hu i a w es h => ?_
  obtain ⟨rfl, rfl, rfl⟩ : f i u.world = a ∧ u.world = w ∧ [] = es := by simpa using h
  rw [appAfter_same rfl]
  exact ⟨.idle rfl, fun v hv => hQ i u v hu hv⟩

lemma appRuns_input {f : AppInputs → AppWorld → α}
    (hQ : ∀ i u v, AppRely t s u → AppRely t u v → Q (f i u.world) v) :
    AppRuns host t c (Prog.atomic fun i w => (.ok (f i w), w, [])) s Q := by
  refine appRuns_atomic fun u hu i => ?_
  rw [appAfter_same rfl]
  exact ⟨.idle rfl, fun v hv r hr => Except.ok.inj hr ▸ hQ i u v hu hv⟩

lemma appAfter_bank (u : AppState) : u.after t (bankPart.put u.world.toWorld u.world) [] = u := by
  simp [Shared.after, bankPart]

lemma appRuns_lift {a : Inputs → World → Except Failure α × World × List Event}
    (h : ∀ u, AppRely t s u → ∀ i r w es, a i.toInputs u.world.toWorld = (r, w, es) →
      AppEffect host t c i u (u.after t (bankPart.put w u.world) (es.map .bank)) ∧
        ∀ x, r = .ok x → ∀ v, AppRely t (u.after t (bankPart.put w u.world) (es.map .bank)) v →
            Q x v) :
    AppRuns host t c (lift (Prog.atomic a)) s Q := by
  refine ⟨Prog.safe_embed_atomic fun u hu i _ => ?_⟩
  obtain ⟨heffect, hQ⟩ := h u hu i _ _ _ rfl
  refine ⟨heffect, fun v hv x hx => hQ x ?_ v hv⟩
  cases ha : (a i.toInputs u.world.toWorld).1 with
  | ok b => simpa [Part.action, bankPart, ha, Except.mapError] using hx
  | error e => simp [Part.action, bankPart, ha, Except.mapError] at hx

lemma appRuns_liftRead {l : Statement} {f : ℕ → Db → α}
    (hQ : ∀ n u v, AppRely t s u → AppRely t u v → Q (f n u.world.db) v) :
    AppRuns host t c (lift (Service.read l f)) s Q := by
  refine appRuns_lift fun u hu i r w es h => ?_
  cases hf : i.fault l with
  | some e =>
    obtain ⟨rfl, rfl, rfl⟩ : .error (.prisma e) = r ∧ u.world.toWorld = w ∧ [] = es := by
      simpa [hf] using h
    rw [List.map_nil, appAfter_bank]
    exact ⟨.idle rfl, fun _ hr => by cases hr⟩
  | none =>
    obtain ⟨rfl, rfl, rfl⟩ : .ok (f (i.choice l) u.world.db) = r ∧ u.world.toWorld = w ∧
        [] = es := by
      simpa [hf] using h
    rw [List.map_nil, appAfter_bank]
    exact ⟨.idle rfl, fun _ hr v hv => Except.ok.inj hr ▸ hQ _ u v hu hv⟩

lemma appRuns_newDate {Q : Instant → AppState → Prop}
    (hQ : ∀ u v, AppRely t s u → AppRely t u v → Q (u.world.now / 1000 * 1000) v) :
    AppRuns host t c newDate s Q := by
  refine appRuns_lift fun u hu i r w es h => ?_
  obtain ⟨rfl, rfl, rfl⟩ : .ok (u.world.now / 1000 * 1000) = r ∧ u.world.toWorld = w ∧ [] = es := by
    simpa using h
  rw [List.map_nil, appAfter_bank]
  exact ⟨.idle rfl, fun _ hr v hv => Except.ok.inj hr ▸ hQ u v hu hv⟩

lemma rely_of_silent {i : AppInputs} {u : AppState} {w : AppWorld}
    (h : AppEffect host t c i u (u.after t w [])) : AppRely t u (u.after t w []) :=
  ⟨h.persists, by simp [ownAppTrace, Shared.after]⟩

lemma appRuns_audit {row : Uuid → Instant → AuditEvent} {Q : AuditEvent → AppState → Prop}
    (hQ : ∀ a u, AppRely t s u → Q a u) : AppRuns host t c (audit row) s Q := by
  refine appRuns_lift fun u hu i r w es h => ?_
  have hidle : ∀ {e : Failure}, (Except.error e, u.world.toWorld, []) = (r, w, es) →
      AppEffect host t c i u (u.after t (bankPart.put w u.world) (es.map .bank)) ∧
        ∀ x, r = .ok x → ∀ v, AppRely t (u.after t (bankPart.put w u.world) (es.map .bank)) v →
          Q x v := by
    intro e he
    obtain ⟨rfl, rfl, rfl⟩ : .error e = r ∧ u.world.toWorld = w ∧ [] = es := by simpa using he
    rw [List.map_nil, appAfter_bank]
    exact ⟨.idle rfl, fun _ hr => by cases hr⟩
  cases hf : i.fault .auditCreate with
  | some e => exact hidle (e := .prisma e) (by simpa [hf] using h)
  | none =>
    cases hc : Db.create Db.auditEvent (row (i.uuid .auditCreate) u.world.now) u.world.db with
    | error e => exact hidle (e := .prisma e) (by simpa [hf, hc] using h)
    | ok p =>
      obtain ⟨rfl, rfl, rfl⟩ : .ok p.1 = r ∧ { u.world.toWorld with db := p.2 } = w ∧ [] = es := by
        simpa [hf, hc] using h
      have heffect : AppEffect host t c i u
          (u.after t (bankPart.put { u.world.toWorld with db := p.2 } u.world) []) := by
        refine .noted (.audit (row (i.uuid .auditCreate) u.world.now)) (by simp) ?_
        simp [environment, hc]
      refine ⟨heffect, fun x _ v hv => hQ x v ?_⟩
      exact (hu.trans (rely_of_silent heffect)).trans hv

lemma appRuns_notify {userId : Uuid} {type title message : String} {Q : Unit → AppState → Prop}
    (htype : type ∈ cardNotices) (hQ : ∀ u, AppRely t s u → Q () u) :
    AppRuns host t c (notify userId type title message) s Q := by
  refine appRuns_lift fun u hu i r w es h => ?_
  cases hf : i.fault .notify with
  | some e =>
    obtain ⟨rfl, rfl, rfl⟩ : .ok () = r ∧ u.world.toWorld = w ∧ [] = es := by simpa [hf] using h
    rw [List.map_nil, appAfter_bank]
    exact ⟨.idle rfl, fun _ _ v hv => hQ v (hu.trans hv)⟩
  | none =>
    let notice : { n : Notification // n.type ∈ cardNotices } :=
      ⟨{ id := i.uuid .notify, userId, type, title, message, createdAt := u.world.now }, htype⟩
    obtain ⟨rfl, rfl, rfl⟩ : .ok () = r ∧ environment (.cardNotice notice) u.world.toWorld = w ∧
        [] = es := by
      simpa [hf, environment, notice] using h
    have heffect : AppEffect host t c i u
        (u.after t (bankPart.put (environment (.cardNotice notice) u.world.toWorld) u.world) []) :=
      .noted (.cardNotice notice) (by simp) rfl
    exact ⟨heffect, fun _ _ v hv => hQ v ((hu.trans (rely_of_silent heffect)).trans hv)⟩

def HasCard (s : AppState) (userId cardId : Uuid) : Prop :=
  ∃ x ∈ s.world.cards.rows, x.id = cardId ∧ Owns s userId x.customerId

lemma HasCard.persists {u : AppState} {userId cardId : Uuid} (h : HasCard s userId cardId)
    (hs : AppPersists s u) : HasCard u userId cardId := by
  obtain ⟨x, hx, hid, howner⟩ := h
  obtain ⟨x', hx', hid', hcustomer⟩ := hs.cards x hx
  exact ⟨x', hx', hid'.trans hid, hcustomer ▸ howner.persists hs⟩

lemma owns_of_findAlt {userId : Uuid} {profile : CustomerProfile}
    (h : s.world.db.customerProfiles.findAlt userId = some profile) : Owns s userId profile.id := by
  obtain ⟨hmem, huser⟩ := Table.findAlt_eq_some.mp h
  exact ⟨profile, hmem, rfl, Option.some.inj huser⟩

lemma hasCard_of_findFirst {userId cardId customerId : Uuid} {openOnly : Bool} {n : ℕ} {card : Card}
    (h : s.world.cards.findFirst (fun c => c.id = cardId ∧ c.customerId = customerId ∧
      (openOnly → c.status ≠ .closed)) n = some card) (howner : Owns s userId customerId) :
    card.id = cardId ∧ HasCard s userId cardId := by
  obtain ⟨hmem, hp⟩ := Table.findFirst_eq_some h
  simp only [decide_eq_true_eq] at hp
  exact ⟨hp.1, card, hmem, hp.1, hp.2.1 ▸ howner⟩

lemma appRuns_findProfile {userId : Uuid} {f : CustomerProfile → AppService β} {e : AppFailure}
    (h : ∀ profile u, AppRely t s u → Owns u userId profile.id → AppRuns host t c (f profile) u R) :
    AppRuns host t c (do
      match ← findProfile userId with
      | none => throw e
      | some profile => f profile) s R := by
  refine appRuns_bind (appRuns_liftRead fun _ u v hu hv => ?_)
  cases hp : u.world.db.customerProfiles.findAlt userId with
  | none => exact appRuns_throw
  | some profile => exact h profile v (hu.trans hv) ((owns_of_findAlt hp).persists hv.toAppPersists)

lemma appRuns_findCard {userId cardId customerId : Uuid} {openOnly : Bool} {f : Card → AppService β}
    {e : AppFailure} (howner : Owns s userId customerId)
    (h : ∀ card u, AppRely t s u → card.id = cardId → HasCard u userId cardId →
      AppRuns host t c (f card) u R) :
    AppRuns host t c (do
      match ← findCard cardId customerId openOnly with
      | none => throw e
      | some card => f card) s R := by
  refine appRuns_bind (appRuns_read fun i u v hu hv => ?_)
  cases hc : u.world.cards.findFirst (fun c => c.id = cardId ∧ c.customerId = customerId ∧
      (openOnly → c.status ≠ .closed)) i.pick with
  | none => exact appRuns_throw
  | some card =>
    obtain ⟨hid, hcard⟩ := hasCard_of_findFirst hc (howner.persists hu.toAppPersists)
    exact h card v (hu.trans hv) hid (hcard.persists hv.toAppPersists)

lemma appRuns_updateCard {userId id : Uuid} {f : Patch Card} {Q : Card → AppState → Prop}
    (hchange : CardChange c userId id f) (hcard : HasCard s userId id)
    (hQ : ∀ card u, AppRely t s u → Q card u) :
    AppRuns host t c (updateCard id f) s Q := by
  refine appRuns_statement fun u hu i a w es h => ?_
  obtain ⟨x, hx, hid, howner⟩ := hcard.persists hu.toAppPersists
  have hfound : u.world.cards.find id = some x := Table.find_eq_some.mpr ⟨hx, hid⟩
  obtain ⟨rfl, rfl, rfl⟩ : f.apply x = a ∧ { u.world with cards := u.world.cards.modify id f } = w ∧
    [] = es := by
    simpa [hfound] using h
  have heffect : AppEffect host t c i u
      (u.after t { u.world with cards := u.world.cards.modify id f } []) :=
    .cardChanged userId id f x hchange hfound howner rfl
  exact ⟨heffect, fun v hv => hQ _ v ((hu.trans (rely_of_silent heffect)).trans hv)⟩

lemma appRuns_announced {userId : Uuid} {action type title message : String} {card : Card}
    {x : AppService β} (htype : type ∈ cardNotices)
    (h : ∀ u, AppRely t s u → AppRuns host t c x u R) :
    AppRuns host t c (do
      let _ ← auditCard userId action card
      notify userId type title message
      x) s R :=
  appRuns_bind (appRuns_audit fun _ _ hu =>
    appRuns_bind (appRuns_notify htype fun v hv => h v (hu.trans hv)))

lemma appRuns_blockCard {userId cardId : Uuid} {Q : Card → AppState → Prop}
    (hc : c = .blockCard userId cardId) (hQ : ∀ r u, Q r u) :
    AppRuns host t c (blockCard userId cardId) s Q := by
  refine appRuns_findProfile fun profile u hu howner => ?_
  refine appRuns_findCard howner fun card v hv hid hcard => ?_
  subst hid
  refine appRuns_bind (appRuns_newDate fun w x hw hx => ?_)
  have hcard' := hcard.persists (hw.trans hx).toAppPersists
  refine appRuns_bind (appRuns_updateCard (hc ▸ .block userId card.id _) hcard'
    fun updated y hy => ?_)
  exact appRuns_announced (by simp [cardNotices]) fun z hz => appRuns_pure fun _ _ => hQ _ _

lemma appRuns_unblockCard {userId cardId : Uuid} {Q : Card → AppState → Prop}
    (hc : c = .unblockCard userId cardId) (hQ : ∀ r u, Q r u) :
    AppRuns host t c (unblockCard userId cardId) s Q := by
  refine appRuns_findProfile fun profile u hu howner => ?_
  split
  · exact appRuns_fail
  · refine appRuns_findCard howner fun card v hv hid hcard => ?_
    subst hid
    refine appRuns_bind (appRuns_updateCard (hc ▸ .unblock userId card.id) hcard
      fun updated y hy => ?_)
    exact appRuns_announced (by simp [cardNotices]) fun z hz => appRuns_pure fun _ _ => hQ _ _

lemma appRuns_closeCard {userId cardId : Uuid} {Q : Unit → AppState → Prop}
    (hc : c = .closeCard userId cardId) (hQ : ∀ r u, Q r u) :
    AppRuns host t c (closeCard userId cardId) s Q := by
  refine appRuns_findProfile fun profile u hu howner => ?_
  refine appRuns_findCard howner fun card v hv hid hcard => ?_
  subst hid
  refine appRuns_bind (appRuns_newDate fun w x hw hx => ?_)
  have hcard' := hcard.persists (hw.trans hx).toAppPersists
  refine appRuns_bind (appRuns_updateCard (hc ▸ .close userId card.id _) hcard'
    fun updated y hy => ?_)
  exact appRuns_bind (appRuns_audit fun _ z _ => appRuns_notify (by simp [cardNotices]) fun _ _ =>
    hQ _ _)

lemma appRuns_createCard {userId customerId accountId : Uuid} {dto : IssueCardDto}
    {cardType : CardType} {Q : Card → AppState → Prop} (hc : c = .issueCard userId dto)
    (howner : Owns s userId customerId) (hQ : ∀ card u, Q card u) :
    AppRuns host t c (createCard customerId accountId cardType) s Q := by
  refine appRuns_statement fun u hu i a w es h => ?_
  dsimp only at h
  split at h
  · rename_i cards hinsert
    obtain ⟨rfl, rfl, rfl⟩ := by simpa using h
    refine ⟨.cardIssued userId dto _ cards hc hinsert rfl rfl rfl (howner.persists hu.toAppPersists)
      rfl, ?_⟩
    exact fun v _ => hQ _ v
  · cases h

lemma appRuns_issueCard {userId : Uuid} {dto : IssueCardDto} {Q : IssuedCard → AppState → Prop}
    (hc : c = .issueCard userId dto) (hQ : ∀ r u, Q r u) :
    AppRuns host t c (issueCard userId dto) s Q := by
  refine appRuns_findProfile fun profile u hu howner => ?_
  split
  · exact appRuns_fail
  · refine appRuns_bind (appRuns_read fun i v w hv hw => ?_)
    split
    · exact appRuns_fail
    · refine appRuns_bind (appRuns_createCard hc (howner.persists (hv.trans hw).toAppPersists)
        fun card x => ?_)
      exact appRuns_announced (by simp [cardNotices]) fun z hz => appRuns_pure fun _ _ => hQ _ _

lemma appRuns_otpSet {key otp : String} {ttl : ℕ} {Q : Unit → AppState → Prop}
    (h : ∀ u, AppRely t s u → Issues t u c key ttl)
    (hQ : ∀ expiresAt u, AppLogs t [.otpStored key otp expiresAt] s u → Q () u) :
    AppRuns host t c (otpSet key otp ttl) s Q := by
  refine appRuns_statement fun u hu i a w es hb => ?_
  obtain ⟨rfl, rfl, rfl⟩ := by simpa using hb
  have heffect : AppEffect host t c i u _ := .otpStored key otp ttl (h u hu) rfl
  exact ⟨heffect, fun v hv => hQ _ v (hu.logs.trans (heffect.logs.trans hv.logs))⟩

lemma appRuns_otpGet {key presented : String} {Q : Option String → AppState → Prop}
    (hp : Presents c key presented) (hs : ownAppTrace t s = []) (hnone : ∀ u, Q none u)
    (hQ : ∀ otp at_ u, AppLogs t [.otpRead key otp at_] s u → Q (some otp) u) :
    AppRuns host t c (otpGet key) s Q := by
  refine appRuns_statement fun u hu i a w es hb => ?_
  split at hb
  · obtain ⟨rfl, rfl, rfl⟩ := by simpa using hb
    rw [appAfter_same rfl]
    exact ⟨.idle rfl, fun v _ => hnone v⟩
  · rename_i otp hget
    obtain ⟨rfl, rfl, rfl⟩ := by simpa using hb
    have hfirst : ∀ e, (t, e) ∈ u.trace → ¬ e.IsOtpRead := by
      intro e he
      exact absurd ((hu.logs.mem_iff hs).mp he) List.not_mem_nil
    have heffect : AppEffect host t c i u _ := .otpRead key presented otp hp hfirst hget rfl
    exact ⟨heffect, fun v hv => hQ otp u.world.now v (hu.logs.trans (heffect.logs.trans hv.logs))⟩

lemma appRuns_otpDel {key otp : String} {at_ : Instant} {Q : Unit → AppState → Prop}
    (hp : Presents c key otp) (hread : (t, .otpRead key otp at_) ∈ s.trace)
    (hQ : ∀ u, AppLogs t [.otpDeleted key] s u → Q () u) : AppRuns host t c (otpDel key) s Q := by
  refine appRuns_statement fun u hu i a w es hb => ?_
  obtain ⟨rfl, rfl, rfl⟩ := by simpa using hb
  have heffect : AppEffect host t c i u _ := .otpDeleted key otp hp at_ (hu.mem hread) rfl
  exact ⟨heffect, fun v hv => hQ v (hu.logs.trans (heffect.logs.trans hv.logs))⟩

lemma appRuns_initiateReveal {userId cardId : Uuid} {Q : ℕ → AppState → Prop}
    (hc : c = .initiateReveal userId cardId) (hQ : ∀ r u, Q r u) :
    AppRuns host t c (initiateReveal userId cardId) s Q := by
  refine appRuns_findProfile fun profile u hu howner => ?_
  refine appRuns_findCard howner fun card v hv hid hcard => ?_
  subst hid
  refine appRuns_bind (appRuns_input fun i w x _ _ => ?_)
  refine appRuns_bind (appRuns_otpSet (fun _ _ => hc ▸ .reveal userId card.id) fun _ y _ => ?_)
  exact appRuns_pure fun _ _ => hQ _ _

lemma appRuns_verifyReveal {userId cardId : Uuid} {otp : String} {Q : CardDetails → AppState → Prop}
    (hs : ownAppTrace t s = []) (hc : c = .verifyReveal userId cardId otp)
    (hQ : ∀ r u, Consumed t (revealKey userId cardId) otp u → Q r u) :
    AppRuns host t c (verifyReveal userId cardId otp) s Q := by
  refine appRuns_findProfile fun profile u hu howner => ?_
  refine appRuns_findCard howner fun card v hv hid hcard => ?_
  subst hid
  have hp : Presents c (revealKey userId card.id) otp := hc ▸ .reveal userId card.id otp
  refine appRuns_bind (appRuns_otpGet hp ((hu.trans hv).own.trans hs) (fun _ => appRuns_fail) ?_)
  intro stored at_ w hw
  dsimp only
  split
  · exact appRuns_fail
  · split
    · exact appRuns_fail
    · rename_i hne
      obtain rfl := not_not.mp hne
      refine appRuns_bind (appRuns_otpDel hp (hw.mem List.mem_cons_self) fun x hx => ?_)
      refine appRuns_bind (appRuns_audit fun _ y hy => appRuns_pure fun z hz => hQ _ z ?_)
      exact ((hw.trans hx).consumed (List.Sublist.refl _)).persists (hy.trans hz).toAppPersists

lemma appRuns_signAsync {payload : JwtAccessPayload} {expiresIn : ℕ} {Q : Token → AppState → Prop}
    (h : SignedFor t c s payload) (hfirst : ∀ x, (t, .tokenSigned x) ∉ s.trace)
    (hQ : ∀ token u, Q token u) :
    AppRuns host t c (signAsync payload expiresIn) s Q := by
  refine appRuns_atomic fun u hu i => ?_
  have hfirst' : ∀ x, (t, .tokenSigned x) ∉ u.trace := fun x hx => hfirst x (hu.mem_iff.mp hx)
  exact ⟨.tokenSigned _ (h.persists hu.toAppPersists) hfirst' rfl, fun v _ token _ => hQ token v⟩

lemma appRuns_findSession {token : Token} {id : Uuid} {Q : Option AuthSession → AppState → Prop}
    (hnone : ∀ u, Q none u)
    (hQ : ∀ session at_ u, AppPersists s u → session.id = id → at_ ≤ u.world.now →
      (t, .sessionRead token.payload session at_) ∈ u.trace → Q (some session) u) :
    AppRuns host t c (findSession token.payload id) s Q := by
  refine appRuns_statement fun u hu i a w es h => ?_
  split at h
  · obtain ⟨rfl, rfl, rfl⟩ := by simpa using h
    rw [appAfter_same rfl]
    exact ⟨.idle rfl, fun v _ => hnone v⟩
  · rename_i session hfind
    obtain ⟨rfl, rfl, rfl⟩ := by simpa using h
    have hid : session.id = id := (Table.find_eq_some.mp hfind).2
    have heffect : AppEffect host t c i u _ := .sessionRead token.payload session (hid ▸ hfind) rfl
    refine ⟨heffect, fun v hv =>
      hQ session u.world.now v ?_ hid hv.now (hv.mem (by simp [Shared.after]))⟩
    exact (hu.toAppPersists.trans heffect.persists).trans hv.toAppPersists

lemma AuthSession.inactive_anti {session : AuthSession} {m n : Instant}
    (h : session.inactive n = false) (hmn : m ≤ n) :
    session.inactive m = false := by
  simp only [inactive, Bool.or_eq_false_iff, decide_eq_false_iff_not, not_le] at h ⊢
  exact ⟨h.1, hmn.trans_lt h.2⟩

lemma appRuns_validate {token : Token} {Q : JwtAccessPayload → AppState → Prop}
    (hs : token ∈ s.world.tokens)
    (hQ : ∀ u, AppPersists s u → (token.payload.mfaVerified = false → AppRely t s u) →
      Admitted t u token →
      Q token.payload u) :
    AppRuns host t c (validate token.payload) s Q := by
  unfold validate
  split
  · rename_i id hverified hid
    refine appRuns_bind (appRuns_findSession (fun _ => appRuns_throw) ?_)
    intro session at_ u hu hsession hat hread
    dsimp only
    split
    · exact appRuns_throw
    · rename_i hsub
      refine appRuns_bind (appRuns_newDate fun v w hv hw => ?_)
      split
      · exact appRuns_throw
      · rename_i hactive
        refine appRuns_pure fun x hx => ?_
        have hall := ((hu.trans hv.toAppPersists).trans hw.toAppPersists).trans hx.toAppPersists
        refine hQ x hall (by simp [hverified]) ⟨hall.tokens hs, fun _ id' hid' => ?_⟩
        obtain rfl : id = id' := Option.some.inj (hid.symm.trans hid')
        refine ⟨session, at_, hx.mem (hw.mem (hv.mem hread)), hsession, not_not.mp hsub, ?_⟩
        exact AuthSession.inactive_anti (by simpa using hactive)
          (Nat.mul_le_mul_right _ (Nat.div_le_div_right (hat.trans hv.now)))
  · rename_i hnot
    refine appRuns_pure fun u hu =>
      hQ u hu.toAppPersists (fun _ => hu) ⟨hu.tokens hs, fun hverified id hid => ?_⟩
    exact (hnot id hverified hid).elim

lemma appRuns_jwtAuthGuard {token : Token} {Q : JwtAccessPayload → AppState → Prop}
    (hQ : ∀ u, AppPersists s u → (token.payload.mfaVerified = false → AppRely t s u) →
      Admitted t u token →
      Q token.payload u) :
    AppRuns host t c (jwtAuthGuard token) s Q := by
  refine appRuns_bind (appRuns_input fun i u v hu hv => ?_)
  split
  · rename_i hsigned
    have hmem : token ∈ u.world.tokens := by
      simp only [Token.accepted, Bool.and_eq_true, decide_eq_true_eq] at hsigned
      exact hsigned.1
    exact appRuns_validate (hv.tokens hmem) fun w hw hpending hadmitted =>
      hQ w ((hu.trans hv).toAppPersists.trans hw)
        (fun h => (hu.trans hv).trans (hpending h)) hadmitted
  · exact appRuns_throw

lemma appRuns_useGuards {token : Token} {Q : JwtAccessPayload → AppState → Prop}
    (hc : c.token = some token)
    (hQ : ∀ u, AppPersists s u → (t, .passed token.payload) ∈ u.trace → Q token.payload u) :
    AppRuns host t c (useGuards token) s Q := by
  refine appRuns_bind (appRuns_jwtAuthGuard fun u hu _ hadmitted => ?_)
  refine appRuns_bind ?_
  unfold mfaVerifiedGuard
  split
  · rename_i hverified
    refine appRuns_atomic fun v hv i => ?_
    have heffect : AppEffect host t c i v _ :=
      .passed token hc hverified (hadmitted.persists hv.toAppPersists) rfl
    refine ⟨heffect, fun w hw _ _ => appRuns_pure fun x hx =>
      hQ x ?_ (hx.mem (hw.mem (by simp [Shared.after])))⟩
    exact (((hu.trans hv.toAppPersists).trans heffect.persists).trans hw.toAppPersists).trans
      hx.toAppPersists
  · exact appRuns_throw

lemma appRuns_login {dto : LoginDto} {Q : LoginResponse → AppState → Prop}
    (hs : ownAppTrace t s = []) (hc : c = .login dto) (hQ : ∀ r u, Q r u) :
    AppRuns host t c (login host dto) s Q := by
  refine appRuns_bind (appRuns_read fun _ u v hu hv => ?_)
  split
  · exact appRuns_throw
  · rename_i user credential hfound
    obtain ⟨found, hfind, hpair⟩ := Option.map_eq_some_iff.mp hfound
    obtain ⟨rfl, rfl⟩ : found = user ∧ u.world.credentials found.id = credential := by
      simpa using hpair
    have hemail : found.email = emailNorm dto.email :=
      Option.some.inj (Table.findAlt_eq_some.mp hfind).2
    split
    · exact appRuns_throw
    · refine appRuns_bind (appRuns_atomic fun w hw i => ?_)
      dsimp only
      by_cases hok : host.bcryptCompare dto.password (u.world.credentials found.id).passwordHash =
        true
      · simp only [hok, ↓reduceIte]
        have heffect : AppEffect host t c i w _ := .passwordAccepted dto found _ hc hemail hok rfl
        refine ⟨heffect, ?_⟩
        intro x hx r hr
        obtain rfl := Except.ok.inj hr
        refine appRuns_bind (appRuns_input fun i y z hy hz => ?_)
        have hz' := ((hu.trans hv).trans hw).logs.trans
          (heffect.logs.trans ((hx.trans hy).trans hz).logs)
        have haccepted : (t, .passwordAccepted found) ∈ z.trace := hz'.mem (by simp)
        refine appRuns_bind (appRuns_otpSet
          (fun a ha => hc ▸ .login dto found hemail (ha.mem haccepted)) ?_)
        intro expiresAt a ha
        refine appRuns_bind (appRuns_signAsync ?_ (fun x hx => ?_) fun _ _ =>
          appRuns_pure fun _ _ => hQ _ _)
        · exact .login dto found hc (ha.trace.subset haccepted)
        · simpa using ((hz'.trans ha).mem_iff hs).mp hx
      · simp only [hok, Bool.false_eq_true, ↓reduceIte]
        rw [appAfter_same rfl]
        refine ⟨.idle rfl, ?_⟩
        intro x hx r hr
        obtain rfl := Except.ok.inj hr
        exact appRuns_throw

lemma appRuns_createSession {token : Token} {otp : String} {info : RequestMeta}
    {expiresAt : Instant} {Q : AuthSession → AppState → Prop} (hc : c = .verifyMfa token otp info)
    (hadmitted : token ∈ s.world.tokens) (hpending : token.payload.mfaVerified = false)
    (hconsumed : Consumed t (mfaKey token.payload.sub) otp s)
    (hfirst : ∀ x, (t, .sessionCreated x) ∉ s.trace) (hms : 1000 ∣ expiresAt)
    (hQ : ∀ session u, session.userId = token.payload.sub →
      AppLogs t [.sessionCreated session] s u →
      Q session u) :
    AppRuns host t c (createSession token.payload.sub expiresAt info) s Q := by
  refine appRuns_statement fun u hu i a w es h => ?_
  let session : AuthSession := {
    id := i.newId, userId := token.payload.sub, refreshTokenHash := i.refreshTokenHash,
    userAgent := info.userAgent, ipAddress := info.ipAddress, createdAt := u.world.now, expiresAt }
  cases hinsert : u.world.sessions.insert session with
  | none => simp [session, hinsert] at h
  | some sessions =>
    obtain ⟨rfl, rfl, rfl⟩ : session = a ∧ { u.world with sessions } = w ∧
        [.sessionCreated session] = es := by
      simpa [session, hinsert] using h
    have hfirst' : ∀ x, (t, .sessionCreated x) ∉ u.trace := fun x hx => hfirst x (hu.mem_iff.mp hx)
    have heffect : AppEffect host t c i u _ := .sessionCreated token otp info session sessions hc
      (hu.tokens hadmitted) hpending rfl (hconsumed.persists hu.toAppPersists) hfirst'
        rfl hms hinsert rfl
    exact ⟨heffect, fun v hv => hQ session v rfl (hu.logs.trans (heffect.logs.trans hv.logs))⟩

lemma appRuns_verifyMfa {token : Token} {otp : String} {info : RequestMeta}
    {Q : Token → AppState → Prop} (hc : c = .verifyMfa token otp info)
    (hs : token.payload.mfaVerified = false → ownAppTrace t s = [])
    (hadmitted : token ∈ s.world.tokens) (hQ : ∀ r u, Q r u) :
    AppRuns host t c (verifyMfa host token.payload otp info) s Q := by
  unfold verifyMfa
  split
  · exact appRuns_fail
  · rename_i hverified
    have hpending : token.payload.mfaVerified = false := by simpa using hverified
    have hp : Presents c (mfaKey token.payload.sub) otp := hc ▸ .mfa token otp info
    refine appRuns_bind (appRuns_otpGet hp (hs hpending) (fun _ => appRuns_throw)
      fun stored at_ u hu => ?_)
    split
    · exact appRuns_throw
    · rename_i hmatch
      obtain rfl : stored = otp := by
        simp only [rejectsOtp, Bool.or_eq_true, decide_eq_true_eq, not_or, not_not] at hmatch
        exact hmatch.2
      refine appRuns_bind (appRuns_otpDel hp (hu.mem List.mem_cons_self) fun v hv => ?_)
      refine appRuns_bind (appRuns_read fun _ w x hw hx => ?_)
      split
      · exact appRuns_throw
      · rename_i user credential hfound
        obtain ⟨found, hfind, hpair⟩ := Option.map_eq_some_iff.mp hfound
        obtain ⟨rfl, rfl⟩ : found = user ∧ w.world.credentials found.id = credential := by
          simpa using hpair
        have hid : found.id = token.payload.sub := (Table.find_eq_some.mp hfind).2
        split
        · exact appRuns_throw
        · refine appRuns_bind (appRuns_newDate fun y z hy hz => ?_)
          have hlogs := hu.trans (hv.trans ((hw.trans hx).trans (hy.trans hz)).logs)
          have hms : 1000 ∣ y.world.now / 1000 * 1000 + sessionTtl :=
            Nat.dvd_add (Nat.dvd_mul_left _ _) (by decide)
          rw [hid]
          refine appRuns_bind (appRuns_createSession hc (hlogs.tokens hadmitted) hpending
            (hlogs.consumed (List.Sublist.refl _)) (fun x hx => ?_) hms ?_)
          · simpa using (hlogs.mem_iff (hs hpending)).mp hx
          · intro session a hsub ha
            refine appRuns_signAsync ?_ (fun x hx => ?_) fun r u => hQ r u
            · exact hsub ▸ .mfa session found.email (ha.mem List.mem_cons_self)
            · simpa using ((hlogs.trans ha).mem_iff (hs hpending)).mp hx

/-- The row as it is shown to a request that looks at the clock between the two times. -/
def Viewed (current : Option Uuid) (listedAt : Instant) (u : AppState) (row : AuthSession)
    (view : SessionView) : Prop :=
  ∃ now, listedAt ≤ now ∧ now ≤ u.world.now ∧
    view = { row.view (!row.inactive (now / 1000 * 1000)) with isCurrent := current = some row.id }

lemma Viewed.persists {current : Option Uuid} {listedAt : Instant} {row : AuthSession}
    {view : SessionView} {u : AppState} (h : Viewed current listedAt s row view)
    (hs : AppPersists s u) :
    Viewed current listedAt u row view := by
  obtain ⟨now, hle, hnow, hview⟩ := h
  exact ⟨now, hle, hnow.trans hs.now, hview⟩

lemma appRuns_viewSessions {current : Option Uuid} {listedAt : Instant} {rows : List AuthSession}
    {Q : List SessionView → AppState → Prop} (hat : listedAt ≤ s.world.now)
    (hQ : ∀ views u, AppRely t s u → List.Forall₂ (Viewed current listedAt u) rows views →
      Q views u) :
    AppRuns host t c (viewSessions current rows) s Q := by
  induction rows generalizing s Q with
  | nil => exact appRuns_pure fun u hu => hQ [] u hu .nil
  | cons row rest ih =>
    refine appRuns_bind (appRuns_newDate fun u v hu hv => ?_)
    have hsv := hu.trans hv
    refine appRuns_bind (ih (hat.trans hsv.now) fun views w hw hviews => ?_)
    refine appRuns_pure fun x hx => hQ _ x (hsv.trans (hw.trans hx)) (.cons ?_ ?_)
    · refine ⟨u.world.now, hat.trans hu.now, (hv.trans (hw.trans hx)).now, ?_⟩
      simp only [AuthSession.view, AuthSession.inactive, SessionView.mk.injEq, true_and]
      cases row.revokedAt with
      | none =>
        simp only [Option.isNone_none, Option.isSome_none, Bool.true_and, Bool.false_or,
          ← not_le, decide_not]
      | some revokedAt => rfl
    · exact hviews.imp fun _ _ h => h.persists hx.toAppPersists

lemma appRuns_getSessions {userId : Uuid} {current : Option Uuid}
    {Q : List SessionView → AppState → Prop}
    (hQ : ∀ views rows at_ u, (t, .sessionsListed userId rows at_) ∈ u.trace →
      List.Forall₂ (Viewed current at_ u) rows views → Q views u) :
    AppRuns host t c (getSessions userId current) s Q := by
  refine appRuns_bind (appRuns_statement fun u hu i a w es h => ?_)
  dsimp only at h
  obtain ⟨rfl, rfl, rfl⟩ := by simpa using h
  refine ⟨.sessionsListed userId _ (fun x => ?_) rfl, fun v hv => ?_⟩
  · simp
  · exact appRuns_viewSessions hv.now fun views x hx hviews =>
      hQ views _ _ x (hx.mem (hv.mem (by simp [Shared.after]))) hviews

def Revoked (id : Uuid) (u : AppState) : Prop :=
  ∃ row ∈ u.world.sessions.rows, row.id = id ∧ row.revokedAt.isSome

lemma Revoked.persists {id : Uuid} {u : AppState} (h : Revoked id s) (hs : AppPersists s u) :
    Revoked id u := by
  obtain ⟨row, hrow, hid, hrevoked⟩ := h
  obtain ⟨row', hrow', hlater⟩ := hs.sessions row hrow
  exact ⟨row', hrow', hlater.id.trans hid, hlater.revoked hrevoked⟩

lemma appRuns_sessionUpdate {token : Token} {session : AuthSession} (revokedAt : Instant)
    {body : AppInputs → AppWorld → Except PrismaError (AuthSession × AppWorld × List AppEvent)}
    {f : AuthSession → AppService β} (hc : c = .revokeSession token session.id)
    (hpassed : (t, .passed token.payload) ∈ s.trace)
    (hsession : ∃ row ∈ s.world.sessions.rows, session.Becomes row)
    (hown : session.userId = token.payload.sub)
    (hbody : ∀ i w row, w.sessions.find session.id = some row →
      body i w = .ok ((AuthSession.revoke revokedAt).apply row,
      { w with sessions := w.sessions.modify session.id (AuthSession.revoke revokedAt) }, []))
    (h : ∀ updated u, Revoked session.id u → AppRuns host t c (f updated) u R) :
    AppRuns host t c (AppService.statement .sessionUpdate body >>= f) s R := by
  refine appRuns_bind (appRuns_statement fun u hu i a w es hstatement => ?_)
  obtain ⟨row₀, hrow₀, hbecomes₀⟩ := hsession
  obtain ⟨row, hrow, hbecomes⟩ := hu.sessions row₀ hrow₀
  replace hbecomes := hbecomes₀.trans hbecomes
  have hfound : u.world.sessions.find session.id = some row :=
    Table.find_eq_some.mpr ⟨hrow, hbecomes.id⟩
  obtain ⟨rfl, rfl, rfl⟩ : (AuthSession.revoke revokedAt).apply row = a ∧ { u.world with
      sessions := u.world.sessions.modify session.id (AuthSession.revoke revokedAt) } = w ∧
        [] = es := by
    simpa [hbody i u.world row hfound] using hstatement
  have hrowOwn : row.userId = token.payload.sub := hbecomes.userId.trans hown
  refine ⟨.sessionRevoked token session.id row revokedAt hc (hu.mem hpassed) hfound hrowOwn rfl, ?_⟩
  intro v hv
  have hrevoked : Revoked session.id (u.after t { u.world with
      sessions := u.world.sessions.modify session.id (AuthSession.revoke revokedAt) } []) := by
    refine ⟨(AuthSession.revoke revokedAt).apply row, ?_, hbecomes.id, rfl⟩
    rw [Shared.after, Table.modify_rows]
    refine List.mem_map.mpr ⟨row, hrow, ?_⟩
    exact if_pos hbecomes.id
  exact h _ v (hrevoked.persists hv.toAppPersists)

lemma appRuns_revokeSession {token : Token} {id : Uuid} {Q : SessionView → AppState → Prop}
    (hc : c = .revokeSession token id) (hpassed : (t, .passed token.payload) ∈ s.trace)
    (hQ : ∀ view u, Revoked id u → Q view u) :
    AppRuns host t c (revokeSession token.payload.sub id) s Q := by
  refine appRuns_bind (appRuns_read fun i u v hu hv => ?_)
  cases hfind : u.world.sessions.findFirst
    (fun x => x.id = id ∧ x.userId = token.payload.sub) i.pick with
  | none => exact appRuns_fail
  | some session =>
    obtain ⟨hmem, hp⟩ := Table.findFirst_eq_some hfind
    obtain ⟨rfl, hown⟩ : session.id = id ∧ session.userId = token.payload.sub := by simpa using hp
    have htail : ∀ (updated : AuthSession) y, Revoked session.id y → AppRuns host t c (do
        let _ ← audit fun id createdAt =>
          { id, actorUserId := some token.payload.sub, action := "SESSION_REVOKED",
            resourceType := "Session", resourceId := some session.id.text, createdAt }
        return updated.view false) y Q := fun updated y hy =>
      appRuns_bind (appRuns_audit fun _ z hz => appRuns_pure fun z' hz' =>
        hQ _ z' (hy.persists (hz.trans hz').toAppPersists))
    cases hrevokedAt : session.revokedAt with
    | some revokedAt =>
      simp only [hrevokedAt]
      refine appRuns_bind (appRuns_pure fun w hw => ?_)
      have hvw := hv.trans hw
      exact appRuns_sessionUpdate revokedAt hc ((hu.trans hvw).mem hpassed)
        (hvw.sessions session hmem) hown
        (fun _ _ row h => by simp only [h]) htail
    | none =>
      simp only [hrevokedAt]
      refine appRuns_bind (appRuns_newDate fun w x hw hx => ?_)
      have hvx := hv.trans (hw.trans hx)
      exact appRuns_sessionUpdate (w.world.now / 1000 * 1000) hc ((hu.trans hvx).mem hpassed)
        (hvx.sessions session hmem) hown
        (fun _ _ row h => by simp only [h]) htail

end Runs

/-- What stands behind the answers that disclose a card, list sessions or revoke one. -/
def AppAnswered (t : ℕ) (c : AppCall) : AppResponse → AppState → Prop
  | .revealed _, s => ∃ userId cardId otp, c = .verifyReveal userId cardId otp ∧
      Consumed t (revealKey userId cardId) otp s
  | .sessions views, s => ∃ token rows at_, c = .getSessions token ∧
      (t, .sessionsListed token.payload.sub rows at_) ∈ s.trace ∧
        List.Forall₂ (Viewed token.payload.sessionId at_ s) rows views
  | .revoked _, s => ∃ token id, c = .revokeSession token id ∧
      ∃ row ∈ s.world.sessions.rows, row.id = id ∧ row.revokedAt.isSome
  | _, _ => True

section All

variable {host : Host} {t : ℕ} {s : AppState}

lemma appRuns_answer {c : AppCall} {α : Type} {x : AppService α} {f : α → AppResponse}
    {P : α → AppState → Prop} (h : AppRuns host t c x s P)
    (hP : ∀ a u v, P a u → AppRely t u v → AppAnswered t c (f a) v) :
    AppRuns host t c (do return f (← x)) s (AppAnswered t c) :=
  appRuns_bind (appRuns_mono h fun a u ha => appRuns_pure fun v hv => hP a u v ha hv)

theorem appRuns_handle {c : AppCall} (hs : ownAppTrace t s = []) :
    AppRuns host t c (handleApp host c) s (AppAnswered t c) := by
  cases c with
  | bank call =>
    refine appRuns_answer (P := fun _ _ => True) ⟨?_⟩ fun _ _ _ _ _ => trivial
    have hown : ownTrace t (bankPart.shared s) = [] := by rw [ownTrace_shared, hs]; rfl
    exact (runs_handle hown).safe.embed (fun a b hab => AppRely.bankRely hab)
      (fun i a v es h => .bank call rfl v es h rfl) (fun _ _ _ _ _ => trivial)
  | blockCard userId cardId =>
    exact appRuns_answer (P := fun _ _ => True) (appRuns_blockCard rfl fun _ _ => trivial)
      fun _ _ _ _ _ => trivial
  | unblockCard userId cardId =>
    exact appRuns_answer (P := fun _ _ => True) (appRuns_unblockCard rfl fun _ _ => trivial)
      fun _ _ _ _ _ => trivial
  | issueCard userId dto =>
    exact appRuns_answer (P := fun _ _ => True) (appRuns_issueCard rfl fun _ _ => trivial)
      fun _ _ _ _ _ => trivial
  | closeCard userId cardId =>
    exact appRuns_bind (appRuns_closeCard rfl fun _ u => appRuns_pure fun _ _ => trivial)
  | initiateReveal userId cardId =>
    exact appRuns_answer (P := fun _ _ => True) (appRuns_initiateReveal rfl fun _ _ => trivial)
      fun _ _ _ _ _ => trivial
  | verifyReveal userId cardId otp =>
    refine appRuns_answer (appRuns_verifyReveal
      (Q := fun _ u => Consumed t (revealKey userId cardId) otp u)
      hs rfl fun _ _ h => h) fun _ u v h hv => ?_
    exact ⟨userId, cardId, otp, rfl, h.persists hv.toAppPersists⟩
  | login dto =>
    exact appRuns_answer (P := fun _ _ => True) (appRuns_login hs rfl fun _ _ => trivial)
      fun _ _ _ _ _ => trivial
  | verifyMfa token otp info =>
    refine appRuns_bind (appRuns_jwtAuthGuard fun u _ hpending hadmitted => ?_)
    exact appRuns_answer (P := fun _ _ => True)
      (appRuns_verifyMfa rfl (fun h => (hpending h).own.trans hs)
      hadmitted.signed fun _ _ => trivial) fun _ _ _ _ _ => trivial
  | getSessions token =>
    refine appRuns_bind (appRuns_useGuards rfl fun u _ _ => ?_)
    refine appRuns_answer (appRuns_getSessions (Q := fun views u => ∃ rows at_,
      (t, .sessionsListed token.payload.sub rows at_) ∈ u.trace ∧
        List.Forall₂ (Viewed token.payload.sessionId at_ u) rows views) ?_) ?_
    · exact fun views rows at_ v hlisted hviews => ⟨rows, at_, hlisted, hviews⟩
    · rintro views v w ⟨rows, at_, hlisted, hviews⟩ hw
      exact ⟨token, rows, at_, rfl, hw.mem hlisted, hviews.imp fun _ _ h =>
        h.persists hw.toAppPersists⟩
  | revokeSession token id =>
    refine appRuns_bind (appRuns_useGuards rfl fun u _ hpassed => ?_)
    refine appRuns_answer (appRuns_revokeSession rfl hpassed (Q := fun _ u =>
      ∃ row ∈ u.world.sessions.rows, row.id = id ∧ row.revokedAt.isSome) fun _ _ h => h) ?_
    rintro view v w ⟨row, hrow, hid, hrevoked⟩ hw
    obtain ⟨row', hrow', hlater⟩ := hw.sessions row hrow
    exact ⟨token, id, rfl, row', hrow', hlater.id.trans hid, hlater.revoked hrevoked⟩
  | guarded token =>
    exact appRuns_answer (P := fun _ _ => True) (appRuns_useGuards rfl fun _ _ _ => trivial)
      fun _ _ _ _ _ => trivial

end All

lemma AppRely.of_environment (t : ℕ) (e : AppEnvironment) (s : AppState) :
    AppRely t s { s with world := appEnvironment e s.world } := by
  cases e with
  | tick elapsed =>
    refine ⟨⟨.of_kept (.refl _), List.prefix_refl _, Nat.le_add_right _ _, fun _ h => h, ?_, ?_⟩,
      rfl⟩
    · exact fun x hx => ⟨x, hx, rfl, rfl⟩
    · exact fun x hx => ⟨x, hx, .refl x⟩
  | credentialSet userId credential =>
    exact ⟨⟨.refl _, List.prefix_refl _, le_rfl, fun _ h => h, fun x hx => ⟨x, hx, rfl, rfl⟩,
      fun x hx => ⟨x, hx, .refl x⟩⟩, rfl⟩

def appDiscipline (host : Host) : Discipline (E := AppEvent) (handleApp host) appEnvironment where
  Rely := AppRely
  Guar := AppEffect host
  Post t c r s := ∀ a, r = .ok a → AppAnswered t c a s
  Fresh t s := ownAppTrace t s = []
  refl := AppRely.refl
  trans _ _ _ _ := AppRely.trans
  guar_rely _ _ _ _ _ _ hu h := h.rely hu
  env_rely := AppRely.of_environment
  fresh_init _ _ := rfl
  fresh_rely _ _ _ h hr := hr.own.trans h
  handle_safe _ _ _ h := (appRuns_handle h).safe

lemma app_grows (host : Host) : (appDiscipline host).Grows AppPersists where
  refl := .refl
  trans _ _ _ := .trans
  guar _ _ _ _ _ h := h.persists
  env e s := (AppRely.of_environment 0 e s).toAppPersists

section Logged

variable {host : Host} {w : AppWorld} {schedule : List AppAction} {b : App} {t : ℕ} {e : AppEvent}

theorem app_accounted (h : (App.start w).run host schedule = some b) (he : (t, e) ∈ b.trace) :
    ∃ call p, b.threads t = some (call, p) ∧ EventGround t call e b.shared := by
  refine (app_grows host).accounted (A := EventGround) ?_
    (fun _ _ _ _ _ hs hground => hground.persists hs) h he
  intro t call i s s' heffect u x hx
  rcases heffect.ground hx with hold | ⟨rfl, hground, _⟩
  · exact .inl hold
  · exact .inr ⟨rfl, hground.persists heffect.persists⟩

theorem app_logged_at (h : (App.start w).run host schedule = some b) (he : (t, e) ∈ b.trace) :
    ∃ ms i ns, ∃ d d' : App, ∃ call p, schedule = ms ++ .act t i :: ns ∧
      (App.start w).run host ms = some d ∧
      d.threads t = some (call, p) ∧ d.step host (.act t i) = some d' ∧ d'.run host ns = some b ∧
        (t, e) ∉ d.trace ∧ (t, e) ∈ d'.trace ∧ EventGround t call e d.shared ∧ Seen d.shared e := by
  obtain ⟨ms, i, ns, d, d', rfl, hms, hstep, hns, hbefore, hnow⟩ :=
    Discipline.logged_at h he (by simp [Config.init])
  have hd := (appDiscipline host).holds_of_run ((appDiscipline host).init_holds w) hms
  rcases (appDiscipline host).step_cases hd hstep with
    ⟨_, _, hl, _⟩ | ⟨v, j, call, p, p', hl, hcall, heffect, _, _⟩ | ⟨_, hl, _⟩
  · cases hl
  · obtain ⟨rfl, rfl⟩ : t = v ∧ i = j := by simpa using hl
    rcases AppEffect.ground heffect hnow with hold | ⟨_, hground⟩
    · exact absurd hold hbefore
    · exact ⟨ms, i, ns, d, d', call, p, rfl, hms, hcall, hstep, hns, hbefore, hnow, hground⟩
  · cases hl

lemma app_logged_in (h : (App.start w).run host schedule = some b) (he : (t, e) ∈ b.trace) :
    ∃ ms i, ∃ d : App, ∃ call, ms ++ [.act t i] <+: schedule ∧ (App.start w).run host ms = some d ∧
      AppPersists d.shared b.shared ∧ (t, e) ∉ d.trace ∧ EventGround t call e d.shared ∧
        Seen d.shared e := by
  obtain ⟨ms, i, ns, d, d', call, _, rfl, hms, _, hstep, hns, hbefore, _, hground⟩ :=
    app_logged_at h he
  have hd := (appDiscipline host).holds_of_run ((appDiscipline host).init_holds w) hms
  have hlater := (app_grows host).run ((appDiscipline host).step_holds hd hstep) hns
  exact ⟨ms, i, d, call, ⟨ns, by simp⟩, hms, ((app_grows host).step hd hstep).trans hlater,
    hbefore, hground⟩

end Logged

end OnlineBanking
