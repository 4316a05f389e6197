import OnlineBanking.BankView
import OnlineBanking.Library.Scripts

set_option autoImplicit false

/-! Every card stands on an ordinary account of its own customer. -/

namespace OnlineBanking

open Library AppService

def Card.Homed (db : Db) (card : Card) : Prop :=
  ∃ account, db.accounts.find card.accountId = some account ∧
  account.customerId = card.customerId ∧ account.isSystem = false

def AppWorld.CardsHomed (w : AppWorld) : Prop := ∀ card ∈ w.cards.rows, card.Homed w.db

/-- The cards are the old ones but for their states, and new ones on accounts of their customers. -/
def HomesCards (s s' : AppState) : Prop := ∀ card ∈ s'.world.cards.rows,
  (∃ old ∈ s.world.cards.rows, old.customerId = card.customerId ∧ old.accountId = card.accountId) ∨
    card.Homed s'.world.db

section Steps

variable {host : Host} {t : ℕ} {c : AppCall} {i : AppInputs} {s s' : AppState} {db db' : Db}
    {card : Card}

lemma Knows.homed (h : Knows db db') (hcard : card.Homed db) : card.Homed db' := by
  obtain ⟨account, hfound, hcustomer, hordinary⟩ := hcard
  obtain ⟨account', hfound', hcustomer', hordinary'⟩ := h.accounts _ _ hfound
  exact ⟨account', hfound', hcustomer'.trans hcustomer, hordinary'.trans hordinary⟩

lemma HomesCards.cardsHomed (h : HomesCards s s') (hknows : Knows s.world.db s'.world.db)
    (hs : s.world.CardsHomed) : s'.world.CardsHomed := by
  intro card hcard
  rcases h card hcard with ⟨old, hold, hcustomer, haccount⟩ | hhomed
  · have hhomed := hknows.homed (hs old hold)
    rwa [Card.Homed, hcustomer, haccount] at hhomed
  · exact hhomed

lemma homesCards_of_same (h : s'.world.cards = s.world.cards) : HomesCards s s' :=
  fun card hcard => .inl ⟨card, h ▸ hcard, rfl, rfl⟩

lemma AppEffect.homesCards (h : AppEffect host t c i s s')
    (hc : ∀ userId dto, c ≠ .issueCard userId dto) :
    HomesCards s s' := by
  cases h with
  | idle same => exact same ▸ homesCards_of_same rfl
  | cardChanged userId id f old change found owner after =>
    subst after
    intro card hcard
    obtain ⟨x, hx, rfl⟩ := List.mem_map.mp hcard
    refine .inl ⟨x, hx, ?_⟩
    split
    · cases change <;> exact ⟨rfl, rfl⟩
    · exact ⟨rfl, rfl⟩
  | cardIssued userId dto _ _ call _ _ _ _ _ _ => exact absurd call (hc userId dto)
  | _ =>
    rename_i after
    subst after
    exact homesCards_of_same rfl

/-- The program only issues cards on accounts of their customers, as long as accounts keep their
owners. -/
structure Homes {α : Type} (t : ℕ) (x : AppService α) (s : AppState)
    (Q : α → AppState → Prop) : Prop where
  safe : x.Safe (fun a b => AppRely t a b ∧ Knows a.world.db b.world.db) (fun _ _ => True)
    (fun _ => HomesCards) t
    (fun r u => ∀ a, r = .ok a → Q a u) s

variable {α β : Type} {Q : α → AppState → Prop} {R : β → AppState → Prop}

lemma homes_bind {x : AppService α} {f : α → AppService β}
    (h : Homes t x s fun a u => Homes t (f a) u R) :
    Homes t (x >>= f) s R := by
  refine ⟨Prog.safe_bind (fun a => ⟨AppRely.refl t a, .refl _⟩) (h.safe.mono fun r u hr => ?_)⟩
  cases r with
  | ok a => exact (hr a rfl).safe
  | error e => exact fun _ _ _ ha => by cases ha

lemma homes_fail {e : Failure} : Homes t (fail e) s Q :=
  ⟨Prog.safe_throw fun _ _ _ hr => by cases hr⟩

lemma homes_pure {a : α} (h : ∀ u, Q a u) : Homes t (pure a) s Q :=
  ⟨Prog.safe_pure fun u _ _ hr => Except.ok.inj hr ▸ h u⟩

lemma homes_lift {x : Service α} (h : ∀ a u, Q a u) : Homes t (lift x) s Q := by
  refine ⟨((Script.safe_embed x s).guar fun _ a b hputs => ?_).mono fun _ u _ a _ => h a u⟩
  obtain hsame | ⟨v, hput⟩ : Script.Puts bankPart a.world b.world := hputs
  · exact homesCards_of_same (congrArg AppWorld.cards hsame)
  · exact homesCards_of_same ((congrArg AppWorld.cards hput).trans rfl)

lemma homes_read {l : AppStatement} {f : AppInputs → AppWorld → α}
    (h : ∀ i (u v : AppState), Knows u.world.db v.world.db → Q (f i u.world) v) :
    Homes t (read l f) s Q := by
  refine ⟨Prog.safe_atomic fun u _ i _ => ?_⟩
  cases hout : i.outage l with
  | some e => exact ⟨homesCards_of_same rfl, fun _ _ _ hr => by cases hr⟩
  | none => exact ⟨homesCards_of_same rfl, fun v hv a hr => Except.ok.inj hr ▸ h i u v hv.2⟩

lemma homes_createCard {customerId : Uuid} {account : Account} {cardType : CardType}
    {Q : Card → AppState → Prop}
    (hfound : ∃ x, s.world.db.accounts.find account.id = some x ∧ x.customerId = customerId ∧
      x.isSystem = false)
    (h : ∀ card u, Q card u) : Homes t (createCard customerId account.id cardType) s Q := by
  refine ⟨Prog.safe_atomic fun u hu i _ => ?_⟩
  have hhome : ∀ card : Card, card.accountId = account.id → card.customerId = customerId →
      card.Homed u.world.db := by
    intro card haccount hcustomer
    obtain ⟨x, hx, howner, hordinary⟩ := hfound
    obtain ⟨x', hx', howner', hordinary'⟩ := hu.2.accounts _ _ hx
    exact ⟨x', haccount ▸ hx', howner'.trans (howner.trans hcustomer.symm),
      hordinary'.trans hordinary⟩
  cases hout : i.outage .cardCreate with
  | some e => exact ⟨homesCards_of_same rfl, fun _ _ _ hr => by cases hr⟩
  | none =>
    refine ⟨fun card hcard => ?_, fun v _ a _ => h a v⟩
    dsimp only at hcard ⊢
    split at hcard
    · exact .inl ⟨card, hcard, rfl, rfl⟩
    · rename_i hbody
      split at hbody
      · rename_i cards hinsert
        obtain ⟨_, rfl, _⟩ := by simpa using hbody
        replace hcard : card ∈ cards.rows := hcard
        rw [(Table.insert_eq_some.mp hinsert).2.2] at hcard
        rcases List.mem_append.mp hcard with hcard | hcard
        · exact .inl ⟨card, hcard, rfl, rfl⟩
        · obtain rfl := List.mem_singleton.mp hcard
          exact .inr (hhome _ rfl rfl)
      · cases hbody

lemma homes_issueCard {userId : Uuid} {dto : IssueCardDto} {Q : IssuedCard → AppState → Prop}
    (h : ∀ a u, Q a u) :
    Homes t (issueCard userId dto) s Q := by
  refine homes_bind (homes_lift fun found u => ?_)
  cases found with
  | none => exact homes_fail
  | some profile =>
    dsimp only
    split
    · exact homes_fail
    · refine homes_bind (homes_read fun i v w hvw => ?_)
      cases hfind : v.world.db.accounts.findFirst
        (fun a => a.id = dto.accountId ∧ a.customerId = profile.id ∧
          a.status = .active ∧ a.isSystem = false) i.pick with
      | none => exact homes_fail
      | some account =>
        obtain ⟨hmem, hp⟩ := Table.findFirst_eq_some hfind
        obtain ⟨_, hcustomer, _, hordinary⟩ := of_decide_eq_true hp
        obtain ⟨x, hx, hxcustomer, hxordinary⟩ :=
          hvw.accounts _ _ (Table.find_eq_some.mpr ⟨hmem, rfl⟩)
        refine homes_bind (homes_createCard
          ⟨x, hx, hxcustomer.trans hcustomer, hxordinary.trans hordinary⟩ fun card y => ?_)
        exact homes_bind (homes_lift fun _ _ =>
          homes_bind (homes_lift fun _ _ => homes_pure fun u => h _ u))

end Steps

section Runs

variable {host : Host} {w : AppWorld} {schedule : List AppAction} {b : App}

def homesDiscipline (host : Host) : Discipline (E := AppEvent) (handleApp host) appEnvironment :=
  (app_knows host).discipline.strengthen (fun _ _ _ => HomesCards) fun t c s hs => by
    cases c with
    | issueCard userId dto =>
      have h : Homes t (do return .issued (← issueCard userId dto)) s fun (_ : AppResponse) _ =>
          True :=
        homes_bind (homes_issueCard fun _ _ => homes_pure fun _ => trivial)
      exact h.safe.mono fun _ _ _ => trivial
    | _ =>
      refine ((appRuns_handle hs).safe.relying fun _ _ h => h.1).guar (fun i a b h => ?_) |>.mono
        fun _ _ _ => trivial
      exact AppEffect.homesCards h fun _ _ hc => by cases hc

lemma run_cardsHomed (hw : w.CardsHomed) (h : (App.start w).run host schedule = some b) :
    b.world.CardsHomed := by
  refine ((homesDiscipline host).shared_invariant
    (P := fun s : AppState => s.world.CardsHomed) ?_ ?_
    ((homesDiscipline host).init_holds w) hw (Discipline.meets_true _ _) h).2
  · exact fun _ _ _ _ _ _ _ _ _ hP hg => HomesCards.cardsHomed hg.2 (AppEffect.knows hg.1) hP
  · intro e s hP
    cases e <;> exact hP

/-- However requests to issue cards, to open accounts and to pay are interleaved. -/
theorem cards_homed (hw : w.CardsHomed) (h : (App.start w).run host schedule = some b) :
    b.world.CardsHomed :=
  run_cardsHomed hw h

end Runs

lemma demoAppWorld_cardsHomed : demoAppWorld.CardsHomed := by
  have hhome : ∀ id, id = demoIds .sourceAccount ∨ id = demoIds .destAccount →
      ((demoAppWorld.db.accounts.find id).map fun a => (a.customerId, a.isSystem)) = some
        (demoIds .profile, false) := by
    rintro id (rfl | rfl) <;> decide +kernel
  have hhomed : ∀ card : Card, card.customerId = demoIds .profile →
      card.accountId = demoIds .sourceAccount ∨ card.accountId = demoIds .destAccount →
        card.Homed demoAppWorld.db := by
    intro card hcustomer haccount
    obtain ⟨account, hfound, heq⟩ := Option.map_eq_some_iff.mp (hhome card.accountId haccount)
    obtain ⟨howner, hordinary⟩ := Prod.mk.injEq .. ▸ heq
    exact ⟨account, hfound, howner.trans hcustomer.symm, hordinary⟩
  intro card hcard
  simp only [demoAppWorld, demoCards, List.mem_cons, List.not_mem_nil, or_false] at hcard
  rcases hcard with rfl | rfl
  · exact hhomed _ rfl (.inl rfl)
  · exact hhomed _ rfl (.inr rfl)

def demoIssueSchedule : List AppAction :=
  demoSolo 0 5 (.issueCard (demoIds .user)
    { accountId := demoIds .sourceAccount, cardType := .virtual })

theorem demo_cards_homed : ∃ b, (App.start demoAppWorld).run demoHost demoIssueSchedule = some b ∧
    b.world.cards.rows.length = 3 ∧ b.world.CardsHomed := by
  have hrun : ((App.start demoAppWorld).run demoHost demoIssueSchedule).map (fun b =>
      b.world.cards.rows.length) = some 3 := by decide +kernel
  obtain ⟨b, hb, hlength⟩ := Option.map_eq_some_iff.mp hrun
  exact ⟨b, hb, hlength, cards_homed demoAppWorld_cardsHomed hb⟩

end OnlineBanking
