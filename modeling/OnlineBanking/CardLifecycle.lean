import OnlineBanking.AppThreads
import OnlineBanking.Seed

set_option autoImplicit false

/-! A closed card stays closed as long as blockCard and unblockCard find their card open. -/

namespace OnlineBanking

open Library

structure Card.Consistent (card : Card) : Prop where
  closed : card.closedAt.isSome ↔ card.status = .closed
  blocked : card.status = .blocked → card.blockedAt.isSome
  active : card.status = .active → card.blockedAt = none

def AppWorld.CardsConsistent (w : AppWorld) : Prop := ∀ card ∈ w.cards.rows, card.Consistent

def AppWorld.KeepsClosed (w w' : AppWorld) : Prop :=
  ∀ card ∈ w.cards.rows, card.status = .closed → ∃ card' ∈ w'.cards.rows, card'.id = card.id ∧
    card'.status = .closed

lemma AppWorld.KeepsClosed.trans {w w' w'' : AppWorld} (h : w.KeepsClosed w')
    (h' : w'.KeepsClosed w'') :
    w.KeepsClosed w'' := by
  intro card hcard hclosed
  obtain ⟨card', hcard', hid', hclosed'⟩ := h card hcard hclosed
  obtain ⟨card'', hcard'', hid'', hclosed''⟩ := h' card' hcard' hclosed'
  exact ⟨card'', hcard'', hid''.trans hid', hclosed''⟩

def ChangesOpenCard (host : Host) (b : App) (l : AppAction) : Prop :=
  ∀ t i call p b' userId card, l = .act t i → b.threads t = some (call, p) →
    b.step host l = some b' →
    b'.world.cards ≠ b.world.cards → card ∈ b.world.cards.rows →
      call = .blockCard userId card.id ∨ call = .unblockCard userId card.id → card.status ≠ .closed

section Steps

variable {host : Host} {t : ℕ} {c : AppCall} {i : AppInputs} {s s' : AppState}

inductive CardEffect (c : AppCall) (w w' : AppWorld) : Prop
  | same (cards : w'.cards = w.cards)
  | changed (userId id : Uuid) (f : Patch Card) (card : Card) (change : CardChange c userId id f)
      (found : w.cards.find id = some card) (cards : w'.cards = w.cards.modify id f)
  | issued (userId : Uuid) (dto : IssueCardDto) (card : Card) (call : c = .issueCard userId dto)
      (consistent : card.Consistent) (rows : w'.cards.rows = w.cards.rows ++ [card])

lemma AppEffect.cards (h : AppEffect host t c i s s') : CardEffect c s.world s'.world := by
  cases h with
  | idle same => exact .same (by rw [same])
  | bank _ _ _ _ _ after => exact .same (by rw [after]; rfl)
  | noted _ _ after => exact .same (by rw [after]; rfl)
  | cardChanged userId id f card change found _ after =>
    exact .changed userId id f card change found (by rw [after]; rfl)
  | cardIssued userId dto card cards call inserted active unblocked unclosed _ after =>
    refine .issued userId dto card call
      ⟨by simp [active, unclosed], by simp [active], fun _ => unblocked⟩ ?_
    rw [after]
    exact (Table.insert_eq_some.mp inserted).2.2
  | passwordAccepted _ _ _ _ _ _ after => exact .same (by rw [after]; rfl)
  | otpStored _ _ _ _ after => exact .same (by rw [after]; rfl)
  | otpRead _ _ _ _ _ _ after => exact .same (by rw [after]; rfl)
  | otpDeleted _ _ _ _ _ after => exact .same (by rw [after]; rfl)
  | sessionCreated _ _ _ _ _ _ _ _ _ _ _ _ _ _ after => exact .same (by rw [after]; rfl)
  | tokenSigned _ _ _ after => exact .same (by rw [after]; rfl)
  | sessionRead _ _ _ after => exact .same (by rw [after]; rfl)
  | sessionsListed _ _ _ after => exact .same (by rw [after]; rfl)
  | sessionRevoked _ _ _ _ _ _ _ _ after => exact .same (by rw [after]; rfl)
  | passed _ _ _ _ after => exact .same (by rw [after]; rfl)

lemma CardChange.consistent {userId id : Uuid} {f : Patch Card} {card : Card}
    (h : CardChange c userId id f) (hcard : card.Consistent)
    (hopen : c = .blockCard userId id ∨ c = .unblockCard userId id → card.status ≠ .closed) :
    (f.apply card).Consistent := by
  have hunclosed : card.status ≠ .closed → ¬ card.closedAt.isSome :=
    fun hs hc => hs (hcard.closed.mp hc)
  cases h with
  | block userId cardId now =>
    have hclosed := hunclosed (hopen (.inl rfl))
    exact ⟨⟨fun h => absurd h hclosed, nofun⟩, fun _ => rfl, nofun⟩
  | unblock userId cardId =>
    have hclosed := hunclosed (hopen (.inr rfl))
    exact ⟨⟨fun h => absurd h hclosed, nofun⟩, nofun, fun _ => rfl⟩
  | close userId cardId now =>
    exact ⟨iff_of_true rfl rfl, nofun, nofun⟩

lemma CardChange.keeps_closed {userId id : Uuid} {f : Patch Card} {card : Card}
    (h : CardChange c userId id f) (hclosed : card.status = .closed)
    (hopen : c = .blockCard userId id ∨ c = .unblockCard userId id → card.status ≠ .closed) :
    (f.apply card).status = .closed := by
  cases h with
  | block userId cardId now => exact absurd hclosed (hopen (.inl rfl))
  | unblock userId cardId => exact absurd hclosed (hopen (.inr rfl))
  | close userId cardId now => rfl

lemma CardEffect.keeps {w w' : AppWorld} (h : CardEffect c w w') (hw : w.CardsConsistent)
    (hopen : w'.cards ≠ w.cards → ∀ userId, ∀ card ∈ w.cards.rows,
      c = .blockCard userId card.id ∨ c = .unblockCard userId card.id → card.status ≠ .closed) :
    w'.CardsConsistent ∧ w.KeepsClosed w' := by
  cases h with
  | same cards =>
    exact ⟨fun card hcard => hw card (cards ▸ hcard), fun card hcard hclosed =>
      ⟨card, cards ▸ hcard, rfl, hclosed⟩⟩
  | changed userId id f card change found cards =>
    obtain ⟨hmem, hid⟩ := Table.find_eq_some.mp found
    by_cases hsame : w'.cards = w.cards
    · exact ⟨fun x hx => hw x (hsame ▸ hx), fun x hx hclosed => ⟨x, hsame ▸ hx, rfl, hclosed⟩⟩
    · have hstatus : c = .blockCard userId id ∨ c = .unblockCard userId id →
          card.status ≠ .closed := by
        have h := hopen hsame userId card hmem
        rwa [show card.id = id from hid] at h
      have hchanged : ∀ x ∈ w.cards.rows, (if Record.key x = id then f.apply x else x) ∈
          w'.cards.rows := by
        intro x hx
        rw [cards, Table.modify_rows]
        exact List.mem_map_of_mem hx
      have hthe : ∀ x ∈ w.cards.rows, Record.key x = id → x = card :=
        fun x hx hx' => w.cards.eq_of_key_eq hx hmem (hx'.trans hid.symm)
      constructor
      · intro x hx
        rw [cards, Table.modify_rows] at hx
        obtain ⟨y, hy, rfl⟩ := List.mem_map.mp hx
        split
        · rename_i hy'
          obtain rfl := hthe y hy hy'
          exact change.consistent (hw y hy) hstatus
        · exact hw y hy
      · intro x hx hclosed
        refine ⟨_, hchanged x hx, ?_, ?_⟩
        · split
          · exact f.key_apply x
          · rfl
        · split
          · rename_i hx'
            obtain rfl := hthe x hx hx'
            exact change.keeps_closed hclosed hstatus
          · exact hclosed
  | issued userId dto card call consistent rows =>
    constructor
    · intro x hx
      rcases List.mem_append.mp (rows ▸ hx) with hx | hx
      · exact hw x hx
      · exact List.mem_singleton.mp hx ▸ consistent
    · exact fun x hx hclosed => ⟨x, rows ▸ List.mem_append_left _ hx, rfl, hclosed⟩

end Steps

section Runs

variable {host : Host}

lemma keeps_cards {b b' : App} {l : AppAction} (hb : (appDiscipline host).Holds b)
    (hcond : ChangesOpenCard host b l) (hcards : b.world.CardsConsistent)
    (h : b.step host l = some b') :
    b'.world.CardsConsistent ∧ b.world.KeepsClosed b'.world := by
  have hidle : b'.world.cards = b.world.cards → b'.world.CardsConsistent ∧
      b.world.KeepsClosed b'.world :=
    fun hsame => (CardEffect.same (c := .guarded ⟨⟨⟨0⟩, "", false, none⟩, 0, 0⟩) hsame).keeps hcards
      (absurd hsame)
  rcases (appDiscipline host).step_cases hb h with
    ⟨_, _, _, _, hs, _⟩ | ⟨t, i, call, p, _, hl, ht, heffect, _, _⟩ | ⟨e, _, hs, _⟩
  · exact hidle (by rw [App.world, hs])
  · refine (AppEffect.cards heffect).keeps hcards fun hne userId card hcard hcall => ?_
    exact hcond t i call p b' userId card hl ht h hne hcard hcall
  · refine hidle ?_
    rw [App.world, hs]
    cases e <;> rfl

lemma run_keeps_cards {b b' : App} {schedule : List AppAction} (hb : (appDiscipline host).Holds b)
    (hm : Config.Meets (handleApp host) appEnvironment (ChangesOpenCard host) b schedule)
    (hcards : b.world.CardsConsistent) (h : b.run host schedule = some b') :
    b'.world.CardsConsistent ∧ b.world.KeepsClosed b'.world := by
  refine ((appDiscipline host).run_invariant
    (P := fun d => d.shared.world.CardsConsistent ∧ b.world.KeepsClosed d.shared.world) ?_ hb
    ⟨hcards, fun card hcard hclosed => ⟨card, hcard, rfl, hclosed⟩⟩ hm h).2
  rintro d l d' hd hcond ⟨hd', hkept⟩ hstep
  obtain ⟨hconsistent, hkeeps⟩ := keeps_cards hd hcond hd' hstep
  exact ⟨hconsistent, hkept.trans hkeeps⟩

lemma changesOpenCard_of_keeps {b b' : App} {l : AppAction} (hb : (appDiscipline host).Holds b)
    (h : b.step host l = some b') (hkeeps : b.world.KeepsClosed b'.world) :
    ChangesOpenCard host b l := by
  intro t i call p d userId card hl ht hd hne hcard hcall hclosed
  obtain rfl : b' = d := Option.some.inj (h.symm.trans hd)
  obtain ⟨card', hcard', hid', hclosed'⟩ := hkeeps card hcard hclosed
  rcases (appDiscipline host).step_cases hb h with
    ⟨_, _, rfl, _⟩ | ⟨u, j, call', p', _, hl', hu, heffect, _, _⟩ | ⟨_, rfl, _⟩
  · cases hl
  · obtain ⟨rfl, rfl⟩ : u = t ∧ j = i := by simpa using hl'.symm.trans hl
    obtain ⟨rfl, rfl⟩ : call' = call ∧ p' = p := by simpa [hu] using ht
    cases AppEffect.cards heffect with
    | same cards => exact hne cards
    | issued _ _ _ call _ _ => rcases hcall with hcall | hcall <;> simp [call] at hcall
    | changed userId' id f found change hfound cards =>
      have hopened : card.id = id ∧ (f.apply card).status ≠ .closed := by
        rcases hcall with rfl | rfl <;> cases change <;>
            exact ⟨rfl, by simp [Card.block, Card.unblock]⟩
      obtain ⟨rfl, hopened⟩ := hopened
      rw [cards, Table.modify_rows] at hcard'
      obtain ⟨x, hx, rfl⟩ := List.mem_map.mp hcard'
      have hx' : Record.key x = card.id := by
        by_contra hne'
        rw [if_neg hne'] at hid'
        exact hne' hid'
      obtain rfl := b.world.cards.eq_of_key_eq hx hcard hx'
      rw [if_pos hx'] at hclosed'
      exact hopened hclosed'
  · cases hl

/-- In a run from consistent cards, the cards stay consistent and the closed ones closed if and only
if blockCard and unblockCard write to cards that are not CLOSED. -/
theorem card_closure_iff {w : AppWorld} {schedule : List AppAction} {b : App}
    (hw : w.CardsConsistent) (h : (App.start w).run host schedule = some b) :
    ((∀ ms d, ms <+: schedule → (App.start w).run host ms = some d → d.world.CardsConsistent) ∧
      ∀ ms ns d e, ms ++ ns <+: schedule → (App.start w).run host ms = some d →
        d.run host ns = some e → d.world.KeepsClosed e.world) ↔
      Config.Meets (handleApp host) appEnvironment (ChangesOpenCard host)
        (App.start w) schedule := by
  have hinit := (appDiscipline host).init_holds w
  constructor
  · rintro ⟨_, hkeeps⟩
    refine Discipline.meets_of_runs fun ms l d hprefix hrun => ?_
    intro t i call p d' userId card hl ht hstep
    have hd := (appDiscipline host).holds_of_run hinit hrun
    refine changesOpenCard_of_keeps hd hstep ?_ t i call p d' userId card hl ht hstep
    exact hkeeps ms [l] d d' hprefix hrun
      (by simp [App.run, Config.run, show Config.step _ _ d l = _ from hstep])
  · intro hm
    have hsplit : ∀ ms d, ms <+: schedule → (App.start w).run host ms = some d →
        Config.Meets (handleApp host) appEnvironment (ChangesOpenCard host) (App.start w) ms ∧
          ∀ ns, ms ++ ns <+: schedule →
            Config.Meets (handleApp host) appEnvironment (ChangesOpenCard host) d ns := by
      rintro ms d ⟨rest, rfl⟩ hrun
      refine ⟨(Discipline.Meets.append hm hrun).1, ?_⟩
      rintro ns ⟨rest', hrest⟩
      have hall : Config.Meets (handleApp host) appEnvironment (ChangesOpenCard host) d
          (ns ++ rest') := by
        have hm' := hm
        rw [← hrest, List.append_assoc] at hm'
        exact (Discipline.Meets.append hm' hrun).2
      obtain ⟨e, he⟩ : ∃ e, d.run host ns = some e := by
        have hrun' := h
        rw [← hrest, List.append_assoc] at hrun'
        have hrest := (Config.run_after hrun).symm.trans hrun'
        rw [Config.run_append] at hrest
        obtain ⟨e, he, _⟩ := Option.bind_eq_some_iff.mp hrest
        exact ⟨e, he⟩
      exact (Discipline.Meets.append hall he).1
    constructor
    · exact fun ms d hprefix hrun => (run_keeps_cards hinit (hsplit ms d hprefix hrun).1 hw hrun).1
    · intro ms ns d e hprefix hrun hrun'
      have hms := (List.prefix_append ms ns).trans hprefix
      obtain ⟨hbefore, hafter⟩ := hsplit ms d hms hrun
      have hd := (appDiscipline host).holds_of_run hinit hrun
      exact (run_keeps_cards hd (hafter ns hprefix)
        (run_keeps_cards hinit hbefore hw hrun).1 hrun').2

end Runs

def demoCard (n : ℕ) (id : Uuid) (accountId : Uuid) (cardType : CardType) : Card where
  id := id
  customerId := demoIds .profile
  accountId := accountId
  maskedPan := s!"**** **** **** {1000 + n}"
  cardType := cardType
  createdAt := 0

def demoCards : List Card :=
  [demoCard 0 (.numbered 501) (demoIds .sourceAccount) .debit,
    demoCard 1 (.numbered 502) (demoIds .destAccount) .virtual]

def demoAppWorld : AppWorld where
  toWorld := demoWorld
  cards := ⟨demoCards, by decide +kernel, by decide +kernel⟩
  credentials _ := { passwordHash := "$2b$10$demo" }

def demoHost : Host where
  sha256 := demoSha256
  bcryptCompare password passwordHash := password = "Demo1234!" ∧ passwordHash = "$2b$10$demo"

def demoAppInputs (n : ℕ) : AppInputs where
  toInputs := demoInputs n
  newId := .numbered (1000 * (n + 1) + 999)
  last4 := "4242"
  cvv := "123"

def demoSolo (t n : ℕ) (call : AppCall) : List AppAction :=
  .spawn t call :: Label.solo t demoAppInputs n

lemma demoAppWorld_consistent : demoAppWorld.CardsConsistent := by
  intro card hcard
  have hstatus : card.status = .active ∧ card.blockedAt = none ∧ card.closedAt = none := by
    simp only [demoAppWorld, demoCards, List.mem_cons, List.not_mem_nil, or_false] at hcard
    rcases hcard with rfl | rfl <;> exact ⟨rfl, rfl, rfl⟩
  obtain ⟨hactive, hblocked, hclosed⟩ := hstatus
  exact ⟨by simp [hactive, hclosed], by simp [hactive], fun _ => hblocked⟩

def demoCloseSchedule : List AppAction := demoSolo 0 6 (.closeCard (demoIds .user) (.numbered 501))

def demoUnblockSchedule : List AppAction :=
  demoSolo 1 5 (.unblockCard (demoIds .user) (.numbered 501))

def demoTurn (t n : ℕ) (call : AppCall) : List AppAction :=
  .spawn t call :: Label.solo t (fun k => demoAppInputs (10 * t + k)) n

def demoCardLife : List AppAction :=
  demoTurn 0 6 (.blockCard (demoIds .user) (.numbered 501)) ++
    demoTurn 1 5 (.unblockCard (demoIds .user) (.numbered 501)) ++ demoTurn 2 6
      (.closeCard (demoIds .user) (.numbered 501))

def App.cardStatus (b : App) (id : Uuid) : Option CardStatus :=
  (b.world.cards.find id).map Card.status

def demoLived (k : ℕ) : Option App := (App.start demoAppWorld).run demoHost (demoCardLife.take k)

lemma demoLived_open : ∀ k < 13, (demoLived k).all fun b =>
    b.cardStatus (.numbered 501) ≠ some .closed := by
  decide +kernel

lemma demoCardLife_changesOpenCard :
    Config.Meets (handleApp demoHost) appEnvironment (ChangesOpenCard demoHost)
    (App.start demoAppWorld) demoCardLife := by
  refine Discipline.meets_of_takes
    fun k hk l b hnext hrun t i call p b' userId card hl ht _ _ hcard hcall => ?_
  have hspawn := List.mem_of_mem_take ((appDiscipline demoHost).spawn_of_call hrun ht)
  have hcalls : (t = 0 ∨ t = 1) ∧ card.id = .numbered 501 := by
    simp only [demoCardLife, demoTurn, Label.solo, List.mem_cons, List.mem_append,
      Label.spawn.injEq, List.mem_map,
      reduceCtorEq, and_false, exists_false, or_false] at hspawn
    rcases hspawn with (⟨rfl, rfl⟩ | ⟨rfl, rfl⟩) | ⟨rfl, rfl⟩ <;> simp_all
  have hearly : k < 13 := by
    by_contra hlate
    have hlater : ∀ k < 20, 13 ≤ k → (demoCardLife[k]?.bind Label.actor).getD 2 = 2 := by
      decide +kernel
    have hactor := hlater k hk (not_lt.mp hlate)
    rw [hnext, hl] at hactor
    obtain rfl : t = 2 := hactor
    simp at hcalls
  have hlived : demoLived k = some b := hrun
  have hopen := demoLived_open k hearly
  rw [hlived] at hopen
  have hfind : (App.world b).cards.find (.numbered 501) = some card :=
    Table.find_eq_some.mpr ⟨hcard, hcalls.2⟩
  have hopen : decide ((App.cardStatus b (.numbered 501)) ≠ some .closed) = true := hopen
  rw [App.cardStatus, hfind] at hopen
  exact fun hclosed => of_decide_eq_true hopen (congrArg some hclosed)

theorem demo_card_closure : ∃ b card, (App.start demoAppWorld).run demoHost demoCardLife = some b ∧
    card ∈ b.world.cards.rows ∧ card.status = .closed ∧ b.world.CardsConsistent ∧
      ((demoLived 7).bind fun d => d.cardStatus (.numbered 501)) = some .blocked ∧
        ((demoLived 13).bind fun d => d.cardStatus (.numbered 501)) = some .active := by
  have hrun : ((App.start demoAppWorld).run demoHost demoCardLife).bind (fun b =>
      (b.world.cards.find (.numbered 501)).map Card.status) = some .closed := by decide +kernel
  obtain ⟨b, hb, hend⟩ := Option.bind_eq_some_iff.mp hrun
  obtain ⟨card, hcard, hclosed⟩ := Option.map_eq_some_iff.mp hend
  have hkept := (card_closure_iff demoAppWorld_consistent hb).mpr demoCardLife_changesOpenCard
  exact ⟨b, card, hb, (Table.find_eq_some.mp hcard).1, hclosed, hkept.1 _ b (List.prefix_refl _) hb,
    by decide +kernel, by decide +kernel⟩

/-- The lookup of unblockCard finds closed cards as well. -/
theorem closed_card_reopened : demoAppWorld.CardsConsistent ∧ ∃ d e,
    (App.start demoAppWorld).run demoHost demoCloseSchedule = some d ∧
    d.run demoHost demoUnblockSchedule = some e ∧ ¬ d.world.KeepsClosed e.world ∧
      ¬ e.world.CardsConsistent := by
  have hrun : (((App.start demoAppWorld).run demoHost demoCloseSchedule).bind fun d =>
      (d.run demoHost demoUnblockSchedule).bind fun e =>
        (d.world.cards.find (.numbered 501)).bind fun before =>
          (e.world.cards.find (.numbered 501)).map fun after =>
            (before.status, after.status, after.closedAt.isSome)) = some
              (.closed, .active, true) := by
    decide +kernel
  obtain ⟨d, hd, hrun⟩ := Option.bind_eq_some_iff.mp hrun
  obtain ⟨e, he, hrun⟩ := Option.bind_eq_some_iff.mp hrun
  obtain ⟨before, hbefore, hrun⟩ := Option.bind_eq_some_iff.mp hrun
  obtain ⟨after, hafter, hstatus⟩ := Option.map_eq_some_iff.mp hrun
  obtain ⟨hclosed, hactive, hclosedAt⟩ : before.status = .closed ∧ after.status = .active ∧
      after.closedAt.isSome := by simpa using hstatus
  obtain ⟨hbefore, hbefore'⟩ := Table.find_eq_some.mp hbefore
  obtain ⟨hafter, hafter'⟩ := Table.find_eq_some.mp hafter
  refine ⟨demoAppWorld_consistent, d, e, hd, he, fun hkeeps => ?_, fun hconsistent => ?_⟩
  · obtain ⟨card, hcard, hid, hstill⟩ := hkeeps before hbefore hclosed
    obtain rfl := e.world.cards.eq_of_key_eq hcard hafter ((hid.trans hbefore').trans hafter'.symm)
    rw [hactive] at hstill
    cases hstill
  · have h := (hconsistent after hafter).closed.mp hclosedAt
    rw [hactive] at h
    cases h

end OnlineBanking
