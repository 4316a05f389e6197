import OnlineBanking.Library.Yields
import OnlineBanking.ReadIsolation

set_option autoImplicit false

/-! What the answers of login and verifyMfa, of verifyReveal and of getSessions say of their
user. -/

namespace OnlineBanking

open Library AppService

/-- The columns of a card that verifyReveal shows, and whose card it is, are never changed. -/
structure Card.SameDetails (x y : Card) : Prop where
  id : y.id = x.id
  customerId : y.customerId = x.customerId
  demoPan : y.demoPan = x.demoPan
  expiryMonth : y.expiryMonth = x.expiryMonth
  expiryYear : y.expiryYear = x.expiryYear
  demoCvv : y.demoCvv = x.demoCvv

def Card.details (card : Card) : CardDetails where
  cardNumber := card.demoPan
  expiry := expiryText card.expiryMonth card.expiryYear
  cvv := card.demoCvv
  revealExpiresInSeconds := 60

def AppState.Discloses (s : AppState) (userId cardId : Uuid) (details : CardDetails) : Prop :=
  ∃ card ∈ s.world.cards.rows, card.id = cardId ∧ Owns s userId card.customerId ∧
    details = card.details

structure Preserves (s s' : AppState) : Prop where
  cards : ∀ x ∈ s.world.cards.rows, ∃ y ∈ s'.world.cards.rows, x.SameDetails y
  persists : AppPersists s s'

section Cards

variable {host : Host} {t : ℕ} {c : AppCall} {i : AppInputs} {s s' s'' : AppState}

lemma Card.SameDetails.details {x y : Card} (h : x.SameDetails y) : y.details = x.details := by
  simp only [Card.details, h.demoPan, h.expiryMonth, h.expiryYear, h.demoCvv]

lemma preserves_of_same (h : s'.world.cards = s.world.cards) (hs : AppPersists s s') :
    Preserves s s' :=
  ⟨fun x hx => ⟨x, h ▸ hx, rfl, rfl, rfl, rfl, rfl, rfl⟩, hs⟩

protected lemma Preserves.refl (s : AppState) : Preserves s s := preserves_of_same rfl (.refl s)

protected lemma Preserves.trans (h : Preserves s s') (h' : Preserves s' s'') : Preserves s s'' := by
  refine ⟨fun x hx => ?_, h.persists.trans h'.persists⟩
  obtain ⟨y, hy, hxy⟩ := h.cards x hx
  obtain ⟨z, hz, hyz⟩ := h'.cards y hy
  exact ⟨z, hz, hyz.id.trans hxy.id, hyz.customerId.trans hxy.customerId,
    hyz.demoPan.trans hxy.demoPan,
    hyz.expiryMonth.trans hxy.expiryMonth, hyz.expiryYear.trans hxy.expiryYear,
    hyz.demoCvv.trans hxy.demoCvv⟩

lemma AppState.Discloses.preserved {userId cardId : Uuid} {details : CardDetails}
    (h : AppState.Discloses s userId cardId details) (hs : Preserves s s') :
    AppState.Discloses s' userId cardId details := by
  obtain ⟨card, hcard, hid, howner, rfl⟩ := h
  obtain ⟨card', hcard', hsame⟩ := hs.cards card hcard
  exact ⟨card', hcard', hsame.id.trans hid, hsame.customerId ▸ howner.persists hs.persists,
    hsame.details.symm⟩

lemma AppEffect.preserves (h : AppEffect host t c i s s') : Preserves s s' := by
  have hpersists := h.persists
  cases h with
  | idle same => exact same ▸ .refl s
  | cardChanged userId id f old change found owner after =>
    subst after
    refine ⟨fun x hx => ?_, hpersists⟩
    refine ⟨_, List.mem_map_of_mem hx, ?_⟩
    split
    · cases change <;> exact ⟨rfl, rfl, rfl, rfl, rfl, rfl⟩
    · exact ⟨rfl, rfl, rfl, rfl, rfl, rfl⟩
  | cardIssued userId dto card cards _ inserted _ _ _ _ after =>
    subst after
    refine ⟨fun x hx => ⟨x, ?_, rfl, rfl, rfl, rfl, rfl, rfl⟩, hpersists⟩
    exact (Table.insert_eq_some.mp inserted).2.2 ▸ List.mem_append_left _ hx
  | _ =>
    rename_i after
    subst after
    exact preserves_of_same rfl hpersists

lemma app_preserves (host : Host) : (appDiscipline host).Grows Preserves where
  refl := .refl
  trans _ _ _ := .trans
  guar _ _ _ _ _ h := AppEffect.preserves h
  env e s := preserves_of_same (by cases e <;> rfl) ((app_grows host).env e s)

end Cards

/-- What is shown of a session, but for what depends on the time and on the session of the
viewer. -/
def AuthSession.ShownAs (session : AuthSession) (view : SessionView) : Prop :=
  ∃ isActive isCurrent, view = { session.view isActive with isCurrent }

/-- The token has been signed in thread `t`; the details are those of the card that the call
names. -/
def Tells (t : ℕ) (c : AppCall) : AppResponse → AppState → Prop
  | .loggedIn response, s => (t, .tokenSigned response.accessToken) ∈ s.trace
  | .verified accessToken, s => (t, .tokenSigned accessToken) ∈ s.trace
  | .revealed details, s => ∀ userId cardId otp, c = .verifyReveal userId cardId otp →
      AppState.Discloses s userId cardId details
  | _, _ => True

section Programs

variable {host : Host} {t : ℕ} {c : AppCall} {s : AppState} {α β : Type}

/-- What a program tells while the others keep to the discipline and to what `Preserves` says. -/
abbrev Yielding (host : Host) (t : ℕ) (c : AppCall) (x : AppService α) (s : AppState)
    (Q : α → AppState → Prop) : Prop :=
  x.Yields (fun a b => AppRely t a b ∧ Preserves a b) (AppEffect host t c) t s Q

lemma appRuns_yielding {x : AppService α} {Q : α → AppState → Prop} (h : AppRuns host t c x s Q) :
    Yielding host t c x s fun a u => Q a u ∧ Preserves s u := by
  have hyields : Yielding host t c x s Q := h.safe.relying fun _ _ hr => hr.1
  exact hyields.since (fun _ _ _ => .trans) (fun _ _ hr => hr.2) fun _ _ _ hg =>
    AppEffect.preserves hg

lemma yielding_bind {x : AppService α} {f : α → AppService β} {R : β → AppState → Prop}
    (h : Yielding host t c x s fun a u => Yielding host t c (f a) u R) :
    Yielding host t c (x >>= f) s R :=
  Prog.yields_bind (fun a => ⟨.refl t a, .refl a⟩) h

lemma yielding_read {l : AppStatement} {f : AppInputs → AppWorld → α} {Q : α → AppState → Prop}
    (hQ : ∀ i u v, AppRely t s u → AppRely t u v → Preserves u v → Q (f i u.world) v) :
    Yielding host t c (AppService.read l f) s Q := by
  refine Prog.yields_atomic fun u hu i => ?_
  cases hf : i.outage l with
  | some e =>
    rw [appAfter_same rfl]
    exact ⟨.idle rfl, fun _ _ _ hr => by cases hr⟩
  | none =>
    rw [appAfter_same rfl]
    exact ⟨.idle rfl, fun v hv _ hr => Except.ok.inj hr ▸ hQ i u v hu.1 hv.1 hv.2⟩

lemma yielding_findCard {userId cardId customerId : Uuid} {f : Card → AppService β} {e : AppFailure}
    {R : β → AppState → Prop} (howner : Owns s userId customerId)
    (h : ∀ card u, AppRely t s u → card.id = cardId →
      AppState.Discloses u userId cardId card.details →
      Yielding host t c (f card) u R) :
    Yielding host t c (do
      match ← findCard cardId customerId true with
      | none => throw e
      | some card => f card) s R := by
  refine yielding_bind (yielding_read fun i u v hu hv hkept => ?_)
  cases hc : u.world.cards.findFirst (fun c => c.id = cardId ∧ c.customerId = customerId ∧
      (true → c.status ≠ .closed)) i.pick with
  | none => exact Prog.yields_throw
  | some card =>
    obtain ⟨hmem, hp⟩ := Table.findFirst_eq_some hc
    obtain ⟨rfl, rfl, _⟩ := of_decide_eq_true hp
    have hdiscloses : AppState.Discloses u userId card.id card.details :=
      ⟨card, hmem, rfl, howner.persists hu.toAppPersists, rfl⟩
    exact h card v (hu.trans hv) rfl (hdiscloses.preserved hkept)

lemma yielding_verifyReveal {userId cardId : Uuid} {otp : String} (hs : ownAppTrace t s = [])
    (hc : c = .verifyReveal userId cardId otp) :
    Yielding host t c (verifyReveal userId cardId otp) s fun details u =>
      AppState.Discloses u userId cardId details := by
  have hprofile : AppRuns host t c (findProfile userId) s fun found u => AppRely t s u ∧
      ∀ profile, found = some profile → Owns u userId profile.id := by
    refine appRuns_liftRead fun _ u v hu hv => ⟨hu.trans hv, fun profile hfound => ?_⟩
    exact (owns_of_findAlt hfound).persists hv.toAppPersists
  refine yielding_bind ((appRuns_yielding hprofile).mono fun r u hr found hfound => ?_)
  obtain ⟨⟨hu, howner⟩, _⟩ := hr found hfound
  cases found with
  | none => exact Prog.yields_throw
  | some profile =>
    refine yielding_findCard (howner profile rfl) fun card v hv hid hdiscloses => ?_
    subst hid
    have hp : Presents c (revealKey userId card.id) otp := hc ▸ .reveal userId card.id otp
    have hget : AppRuns host t c (otpGet (revealKey userId card.id)) v fun stored w =>
        ∀ x, stored = some x →
        ∃ at_, (t, .otpRead (revealKey userId card.id) x at_) ∈ w.trace := by
      refine appRuns_otpGet hp ((hu.trans hv).own.trans hs) (fun _ _ hx => by cases hx)
        fun x at_ w hw y hy => ?_
      obtain rfl := Option.some.inj hy
      exact ⟨at_, hw.mem List.mem_cons_self⟩
    refine yielding_bind ((appRuns_yielding hget).mono fun r w hr stored hstored => ?_)
    obtain ⟨hread, hw⟩ := hr stored hstored
    cases stored with
    | none => exact Prog.yields_throw
    | some x =>
      dsimp only
      split
      · exact Prog.yields_throw
      · split
        · exact Prog.yields_throw
        · rename_i hne
          obtain rfl := not_not.mp hne
          obtain ⟨at_, hread⟩ := hread x rfl
          have hdel : AppRuns host t c (otpDel (revealKey userId card.id)) w fun _ _ => True :=
            appRuns_otpDel hp hread fun _ _ => trivial
          refine yielding_bind ((appRuns_yielding hdel).mono fun r y hr a ha => ?_)
          have hy := (hr a ha).2
          have haudit : AppRuns host t c (auditCard userId "CARD_DETAILS_REVEALED" card) y
              fun _ _ => True :=
            appRuns_audit fun _ _ _ => trivial
          refine yielding_bind ((appRuns_yielding haudit).mono fun r z hr a ha => ?_)
          exact Prog.yields_pure fun v' hv' =>
            hdiscloses.preserved (((hw.trans hy).trans (hr a ha).2).trans hv'.2)

/-- For what stands in the log, nothing has to be known of the program's own actions. -/
abbrev Telling (t : ℕ) (x : AppService α) (s : AppState) (Q : α → AppState → Prop) : Prop :=
  x.Yields (AppRely t) (fun _ _ _ => True) t s Q

lemma telling_bind {x : AppService α} {f : α → AppService β} {R : β → AppState → Prop}
    (h : ∀ a u, Telling t (f a) u R) : Telling t (x >>= f) s R :=
  Prog.yields_bind (.refl t) (Prog.yields_any (fun _ _ _ => trivial) h)

lemma telling_signAsync {payload : JwtAccessPayload} {expiresIn : ℕ} {f : Token → AppService β}
    {R : β → AppState → Prop}
    (h : ∀ token u, (t, .tokenSigned token) ∈ u.trace → Telling t (f token) u R) :
    Telling t (signAsync payload expiresIn >>= f) s R := by
  refine Prog.yields_bind (.refl t) (Prog.yields_atomic fun u _ i =>
    ⟨trivial, fun v hv token htoken => ?_⟩)
  obtain rfl := Except.ok.inj htoken
  exact h _ v (hv.mem (by simp [Shared.after]))

lemma telling_login {dto : LoginDto} : Telling t (login host dto) s fun response u =>
    (t, .tokenSigned response.accessToken) ∈ u.trace := by
  refine telling_bind fun found u => ?_
  cases found with
  | none => exact Prog.yields_throw
  | some found =>
    dsimp only
    split
    · exact Prog.yields_throw
    · refine telling_bind fun passwordOk v => ?_
      split
      · exact Prog.yields_throw
      · refine telling_bind fun otp w => telling_bind fun _ x =>
          telling_signAsync fun token y hy => ?_
        exact Prog.yields_pure fun z hz => hz.mem hy

lemma telling_verifyMfa {payload : JwtAccessPayload} {otp : String} {info : RequestMeta} :
    Telling t (verifyMfa host payload otp info) s fun token u =>
      (t, .tokenSigned token) ∈ u.trace := by
  unfold verifyMfa
  split
  · exact Prog.yields_throw
  · refine telling_bind fun stored u => ?_
    split
    · exact Prog.yields_throw
    · refine telling_bind fun _ v => telling_bind fun found w => ?_
      cases found with
      | none => exact Prog.yields_throw
      | some found =>
        dsimp only
        split
        · exact Prog.yields_throw
        · refine telling_bind fun now x => telling_bind fun session y => ?_
          refine Prog.yields_atomic fun z _ i => ⟨trivial, fun z' hz' token htoken => ?_⟩
          obtain rfl := Except.ok.inj htoken
          exact hz'.mem (by simp [Shared.after])

lemma safely_tells (hs : ownAppTrace t s = []) :
    (handleApp host c).Safe (fun a b => AppRely t a b ∧ Preserves a b) (fun _ _ => True)
    (fun _ _ _ => True) t (fun r u => ∀ a, r = .ok a → Tells t c a u) s := by
  cases c with
  | login dto =>
    have h : Telling t (handleApp host (.login dto)) s (Tells t (.login dto)) :=
      Prog.yields_bind (.refl t) (telling_login.mono fun r u hr a ha => Prog.yields_pure fun v hv =>
        hv.mem (hr a ha))
    exact Prog.Safe.relying h fun _ _ hr => hr.1
  | verifyMfa token otp info =>
    have h : Telling t (handleApp host (.verifyMfa token otp info)) s
        (Tells t (.verifyMfa token otp info)) :=
      telling_bind fun payload u => Prog.yields_bind (.refl t)
        (telling_verifyMfa.mono fun r v hr a ha => Prog.yields_pure fun w hw => hw.mem (hr a ha))
    exact Prog.Safe.relying h fun _ _ hr => hr.1
  | verifyReveal userId cardId otp =>
    have h : Yielding host t (.verifyReveal userId cardId otp)
        (handleApp host (.verifyReveal userId cardId otp)) s
        (Tells t (.verifyReveal userId cardId otp)) := by
      refine yielding_bind ((yielding_verifyReveal hs rfl).mono fun r u hr a ha =>
        Prog.yields_pure fun v hv => ?_)
      intro userId' cardId' otp' hcall
      obtain ⟨rfl, rfl, rfl⟩ : userId = userId' ∧ cardId = cardId' ∧ otp = otp' := by
        simpa using hcall
      exact (hr a ha).preserved hv.2
    exact Prog.Safe.guar h fun _ _ _ _ => trivial
  | getSessions token =>
    have h : Telling t (handleApp host (.getSessions token)) s (Tells t (.getSessions token)) :=
      telling_bind fun _ _ => telling_bind fun _ _ => Prog.yields_pure fun _ _ => trivial
    exact Prog.Safe.relying h fun _ _ hr => hr.1
  | revokeSession token sessionId =>
    have h : Telling t (handleApp host (.revokeSession token sessionId)) s
        (Tells t (.revokeSession token sessionId)) :=
      telling_bind fun _ _ => telling_bind fun _ _ => Prog.yields_pure fun _ _ => trivial
    exact Prog.Safe.relying h fun _ _ hr => hr.1
  | _ =>
    refine Prog.Safe.relying ?_ fun a b (hr : AppRely t a b ∧ Preserves a b) => hr.1
    exact telling_bind fun _ _ => Prog.yields_pure fun _ _ => trivial

end Programs

section Runs

variable {host : Host} {w : AppWorld} {schedule : List AppAction} {d : App} {t : ℕ} {c : AppCall}

def tellingDiscipline (host : Host) : Discipline (E := AppEvent) (handleApp host) appEnvironment :=
  (app_preserves host).discipline.ensure (fun t c r s => ∀ a, r = .ok a → Tells t c a s)
    fun _ _ _ hs => safely_tells hs

lemma app_tells (h : (App.start w).run host schedule = some d) {a : AppResponse}
    (ht : d.threads t = some (c, .done (.ok a))) :
    AppAnswered t c a d.shared ∧ Tells t c a d.shared := by
  have hd := (tellingDiscipline host).holds_of_run ((tellingDiscipline host).init_holds w) h
  obtain ⟨hanswered, htells⟩ := (tellingDiscipline host).post_of_done hd ht
  exact ⟨hanswered a rfl, htells a rfl⟩

end Runs

def ApiCall.bearer : ApiCall → Option Token
  | .request token _ => some token
  | .getSessions token => some token
  | .revokeSession token _ => some token
  | _ => none

/-- The answer shows rows of the world `v` as they stand there, and by the time of `w` they are the
user's. -/
def ApiResponse.Concerns (v w : ApiWorld) (userId : Uuid) : ApiResponse → Prop
  | .service (.revealed details) =>
    ∃ card ∈ v.cards.rows, w.db.ProfileOf userId card.customerId ∧ details = card.details
  | .service (.sessions views) => ∀ view ∈ views, ∃ session ∈ v.sessions.rows,
      session.userId = userId ∧ session.ShownAs view
  | r => r.About v w userId

section Api

variable {host : Host} {w : ApiWorld} {schedule : List ApiAction} {b : Api}
    {ms : List AppAction} {d : App}
variable {t : ℕ} {call : ApiCall} {token : Token}

lemma Owns.profileOf {s : AppState} {userId customerId : Uuid} (h : Owns s userId customerId) :
    s.world.db.ProfileOf userId customerId := by
  obtain ⟨profile, hmem, hid, huser⟩ := h
  exact ⟨profile, Table.find_eq_some.mpr ⟨hmem, hid⟩, huser⟩

lemma Refines.revealed (h : Refines host w schedule b ms d) {details : CardDetails}
    (ht : b.threads t = some (call, .done (.ok (.service (.revealed details))))) :
    details.revealExpiresInSeconds = 60 := by
  cases h.answers t call _ ht with
  | service serves ended =>
    obtain ⟨⟨userId, cardId, otp, rfl, _⟩, htells⟩ := app_tells h.run ended
    obtain ⟨card, _, _, _, rfl⟩ := htells userId cardId otp rfl
    rfl
  | request passed reads => cases reads
  | admin _ _ reads => cases reads

end Api

end OnlineBanking
