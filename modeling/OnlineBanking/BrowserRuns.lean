import OnlineBanking.Answers
import OnlineBanking.Browser

set_option autoImplicit false

/-! What the pages of a tab show, in every order of the user's actions and of the answers. -/

namespace OnlineBanking.Browser

open Library

abbrev Answers : Type := List (ApiCall × Except AppFailure ApiResponse)

def Pending (as : Answers) (preMfaToken : Token) : Prop :=
  ∃ dto response, (ApiCall.login dto, .ok (.service (.loggedIn response))) ∈ as ∧
    response.accessToken = preMfaToken

def Obtained (as : Answers) (accessToken : Token) : Prop :=
  ∃ pending otp info, Pending as pending ∧
    (ApiCall.verifyMfa pending otp info, .ok (.service (.verified accessToken))) ∈ as

def PartOf : ApiResponse → ApiResponse → Prop
  | .accounts views, .accounts all => views.Sublist all
  | r, r' => r = r'

inductive Sourced (as : Answers) (tokens : List Token) : ApiResponse → Prop
  | noAccounts : Sourced as tokens (.accounts [])
  | noCards : Sourced as tokens (.cards [])
  | noNotifications : Sourced as tokens (.notifications [])
  | noSessions : Sourced as tokens (.service (.sessions []))
  | answered (call : ApiCall) (token : Token) {r r' : ApiResponse} (mem : (call, .ok r') ∈ as)
      (bearer : call.bearer = some token) (held : token ∈ tokens) (part : PartOf r r') :
        Sourced as tokens r

def Page.Shows (P : ApiResponse → Prop) : Page → Prop
  | .dashboard p => (∀ view, p.me = some view → P (.me view)) ∧ P (.accounts p.accounts)
  | .cards p => P (.cards p.cards) ∧ P (.accounts p.accounts) ∧
      ∀ details, p.revealedDetails = some details → P (.service (.revealed details))
  | .notifications p => P (.notifications p.notifications)
  | .security p => P (.service (.sessions p.sessions))
  | _ => True

def Page.Fits (path : Path) : Page → Prop
  | .dashboard _ => path = .dashboard
  | .cards _ => path = .cards
  | .notifications _ => path = .notifications
  | .security _ => path = .security
  | _ => True

def Then.Fits (as : Answers) (call : ApiCall) : Then → Prop
  | .login => ∃ dto, call = .login dto
  | .verifyMfa => ∃ pending otp info, call = .verifyMfa pending otp info ∧ Pending as pending
  | .acted token _ => call.bearer = some token
  | .marked token => call.bearer = some token
  | .revoked token => call.bearer = some token
  | .verified => ∃ token cardId otp, call = .request token (.verifyReveal cardId otp)
  | _ => call.bearer.isSome

structure PageRequest.Awaits (as : Answers) (s : Tab) (q : PageRequest) : Prop where
  mount : q.mount ≤ s.mount
  held : ∀ token, q.call.bearer = some token → q.mount = s.mount → token ∈ s.tokens
  fits : q.then_.Fits as q.call

def Request.Awaits (as : Answers) (s : Tab) : Request → Prop
  | .page q => q.Awaits as s
  | .toaster load_ _ token => load_ ≤ s.load_ ∧ (load_ = s.load_ → token ∈ s.toaster.tokens)

def CardsEvent.ticks : CardsEvent → ℕ
  | .tick => 1
  | _ => 0

structure Tab.SignedIn (as : Answers) (s : Tab) : Prop where
  stored : s.auth = load s.storage
  pending : ∀ token, s.auth.preMfaToken = some token → Pending as token
  obtained : ∀ token, s.auth.accessToken = some token → Obtained as token

structure Tab.Showing (as : Answers) (s : Tab) : Prop where
  tokens : ∀ token ∈ s.tokens, Obtained as token
  shows : s.page.Shows (Sourced as s.tokens)
  fits : s.page.Fits s.path

structure Tab.Sound (as : Answers) (s : Tab) : Prop extends s.SignedIn as, s.Showing as where
  guarded : s.path.isProtected = true → ∃ token, s.auth.accessToken = some token ∧
    s.tokens.head? = some token

/-- A toast stays in the document that has been answered it, also when the user logs out. -/
structure Toaster.Sound (as : Answers) (r : Toaster) : Prop where
  tokens : ∀ token ∈ r.tokens, Obtained as token
  toasts : ∀ n ∈ r.toasts, ∃ token ∈ r.tokens, ∃ rows,
    (ApiCall.request token .getNotifications, .ok (.notifications rows)) ∈ as ∧ n ∈ rows

structure Tab.Toasting (as : Answers) (s : Tab) : Prop where
  toaster : s.toaster.Sound as
  current : ∀ token, s.auth.accessToken = some token → token ∈ s.toaster.tokens

section Growth

variable {as as' : Answers} {tokens tokens' : List Token} {r : ApiResponse} {token : Token}
    {s s' : Tab} {q : PageRequest}
variable {P P' : ApiResponse → Prop} {page : Page}

lemma Pending.mono (h : as ⊆ as') (hp : Pending as token) : Pending as' token := by
  obtain ⟨dto, response, hmem, htoken⟩ := hp
  exact ⟨dto, response, h hmem, htoken⟩

lemma Obtained.mono (h : as ⊆ as') (ho : Obtained as token) : Obtained as' token := by
  obtain ⟨pending, otp, info, hpending, hmem⟩ := ho
  exact ⟨pending, otp, info, hpending.mono h, h hmem⟩

lemma Sourced.mono (h : as ⊆ as') (htokens : tokens ⊆ tokens') (hr : Sourced as tokens r) :
    Sourced as' tokens' r := by
  cases hr with
  | noAccounts => exact .noAccounts
  | noCards => exact .noCards
  | noNotifications => exact .noNotifications
  | noSessions => exact .noSessions
  | answered call token mem bearer held part =>
    exact .answered call token (h mem) bearer (htokens held) part

lemma Page.Shows.imp (hP : ∀ r, P r → P' r) (h : page.Shows P) : page.Shows P' := by
  cases page with
  | dashboard p => exact ⟨fun view hview => hP _ (h.1 view hview), hP _ h.2⟩
  | cards p => exact ⟨hP _ h.1, hP _ h.2.1, fun details hdetails => hP _ (h.2.2 details hdetails)⟩
  | notifications p => exact hP _ h
  | security p => exact hP _ h
  | _ => trivial

lemma Then.Fits.mono {call : ApiCall} {th : Then} (h : as ⊆ as') (hfits : th.Fits as call) :
    th.Fits as' call := by
  cases th with
  | verifyMfa =>
    obtain ⟨pending, otp, info, hcall, hpending⟩ := hfits
    exact ⟨pending, otp, info, hcall, hpending.mono h⟩
  | _ => exact hfits

lemma PageRequest.Awaits.mono (h : as ⊆ as') (hq : q.Awaits as s) : q.Awaits as' s :=
  ⟨hq.mount, hq.held, hq.fits.mono h⟩

lemma Request.Awaits.mono {q : Request} (h : as ⊆ as') (hq : q.Awaits as s) : q.Awaits as' s := by
  cases q with
  | page q => exact PageRequest.Awaits.mono h hq
  | toaster load_ effect token => exact hq

lemma Tab.Toasting.mono (h : as ⊆ as') (hs : s.Toasting as) : s.Toasting as' := by
  refine ⟨⟨fun token ht => (hs.toaster.tokens token ht).mono h, fun n hn => ?_⟩, hs.current⟩
  obtain ⟨token, ht, rows, hmem, hrows⟩ := hs.toaster.toasts n hn
  exact ⟨token, ht, rows, h hmem, hrows⟩

lemma Tab.SignedIn.mono (h : as ⊆ as') (hs : s.SignedIn as) : s.SignedIn as' where
  stored := hs.stored
  pending token ht := (hs.pending token ht).mono h
  obtained token ht := (hs.obtained token ht).mono h

lemma Tab.Showing.mono (h : as ⊆ as') (hs : s.Showing as) : s.Showing as' where
  tokens token ht := (hs.tokens token ht).mono h
  shows := hs.shows.imp fun _ hr => hr.mono h fun _ ht => ht
  fits := hs.fits

lemma PageRequest.Awaits.moved (hq : q.Awaits as s)
    (h : s'.mount = s.mount ∧ s.tokens ⊆ s'.tokens ∨ s.mount < s'.mount) :
    q.Awaits as s' := by
  rcases h with ⟨hmount, htokens⟩ | hmount
  · exact ⟨hmount ▸ hq.mount, fun token hbearer hsame =>
      htokens (hq.held token hbearer (hsame.trans hmount)), hq.fits⟩
  · refine ⟨hq.mount.trans hmount.le, fun token hbearer hsame => ?_, hq.fits⟩
    have := hq.mount
    omega

end Growth

def Fetch.Ready (as : Answers) (tokens : List Token) (f : Fetch) : Prop :=
  (∀ token, f.1.bearer = some token → token ∈ tokens) ∧ f.2.Fits as f.1

section Pages

variable {as as' : Answers} {tokens : List Token} {token : Token} {P : ApiResponse → Prop}
    {page : Page} {path : Path}
variable {th : Then} {outcome : Except FetchError ApiResponse}

lemma ready_of_bearer {f : Fetch} (hbearer : f.1.bearer = some token) (hfits : f.2.Fits as f.1) :
    f.Ready as (token :: tokens) := by
  refine ⟨fun token' htoken => ?_, hfits⟩
  obtain rfl := Option.some.inj (hbearer.symm.trans htoken)
  exact List.mem_cons_self

lemma CardsPage.timeout_of_shown {p : CardsPage} {details : CardDetails}
    (h : p.timeout.revealedDetails = some details) :
    p.timeout = p ∧ 0 < p.revealTimeLeft := by
  unfold CardsPage.timeout at h ⊢
  split
  · rename_i hend
    rw [if_pos hend] at h
    cases h
  · rename_i hend
    rw [if_neg hend] at h
    rw [h] at hend
    exact ⟨rfl, Nat.pos_of_ne_zero fun hzero => hend ⟨hzero, rfl⟩⟩

lemma CardsPage.timeout_cards (p : CardsPage) : p.timeout.cards = p.cards := by
  unfold CardsPage.timeout
  split <;> rfl

lemma CardsPage.timeout_accounts (p : CardsPage) : p.timeout.accounts = p.accounts := by
  unfold CardsPage.timeout
  split <;> rfl

lemma Page.Shows.timeout {p : CardsPage} (h : (Page.cards p).Shows P) :
    (Page.cards p.timeout).Shows P := by
  refine ⟨p.timeout_cards ▸ h.1, p.timeout_accounts ▸ h.2.1, fun details hdetails =>
    h.2.2 details ?_⟩
  rwa [(CardsPage.timeout_of_shown hdetails).1] at hdetails

lemma at_shows (path : Path) (tokens : List Token) : (Page.at_ path).Shows (Sourced as tokens) := by
  cases path with
  | dashboard => exact ⟨fun _ hview => (nomatch hview), .noAccounts⟩
  | cards => exact ⟨.noCards, .noAccounts, fun _ hdetails => (nomatch hdetails)⟩
  | notifications => exact .noNotifications
  | security => exact .noSessions
  | _ => trivial

lemma at_fits (path : Path) : (Page.at_ path).Fits path := by
  cases path <;> trivial

lemma Page.Shows.load (h : page.Shows P) : (page.load token).1.Shows P := by
  cases page <;> exact h

lemma Page.Fits.load (h : page.Fits path) : (page.load token).1.Fits path := by
  cases page <;> exact h

lemma load_ready {f : Fetch} (hf : f ∈ (page.load token).2) : f.Ready as (token :: tokens) := by
  cases page with
  | dashboard p =>
    rcases List.mem_pair.mp hf with rfl | rfl
    · exact ready_of_bearer rfl rfl
    · exact ready_of_bearer rfl rfl
  | cards p =>
    rcases List.mem_pair.mp hf with rfl | rfl
    · exact ready_of_bearer rfl rfl
    · exact ready_of_bearer rfl rfl
  | notifications p =>
    obtain rfl := List.mem_singleton.mp hf
    exact ready_of_bearer rfl rfl
  | security p =>
    obtain rfl := List.mem_singleton.mp hf
    exact ready_of_bearer rfl rfl
  | _ => cases hf

lemma Page.Shows.receive (h : page.Shows P)
    (hnew : ∀ r', outcome = .ok r' → ∀ r, PartOf r r' → P r) :
    (page.receive th outcome).Shows P := by
  cases page with
  | dashboard p =>
    change (Page.dashboard (p.receive th outcome)).Shows P
    unfold DashboardPage.receive
    split
    · exact ⟨fun view hview => Option.some.inj hview ▸ hnew _ rfl _ rfl, h.2⟩
    · exact ⟨h.1, hnew _ rfl _ (List.Sublist.refl _)⟩
    · exact h
    · exact h
  | cards p =>
    change (Page.cards (p.receive th outcome)).Shows P
    unfold CardsPage.receive
    split
    · exact ⟨hnew _ rfl _ rfl, h.2⟩
    · exact h
    · exact ⟨h.1, hnew _ rfl _ List.filter_sublist, h.2.2⟩
    · exact h
    · exact h
    · exact ⟨h.1, h.2.1, fun _ hdetails => (nomatch hdetails)⟩
    · exact h
    · refine Page.Shows.timeout ⟨h.1, h.2.1, fun details hdetails => ?_⟩
      exact Option.some.inj hdetails ▸ hnew _ rfl _ rfl
    · exact h
    · exact h
  | notifications p =>
    change (Page.notifications (p.receive th outcome)).Shows P
    unfold NotificationsPage.receive
    split
    · exact hnew _ rfl _ rfl
    · exact h
    · exact h
  | security p =>
    change (Page.security (p.receive th outcome)).Shows P
    unfold SecurityPage.receive
    split
    · exact hnew _ rfl _ rfl
    · exact h
    · exact h
    · exact h
    · exact h
  | _ => exact h

lemma Page.Fits.receive (h : page.Fits path) : (page.receive th outcome).Fits path := by
  cases page <;> exact h

lemma next_ready {f : Fetch} {call : ApiCall} (hfits : th.Fits as call)
    (hheld : ∀ token, call.bearer = some token → token ∈ tokens) (hf : f ∈ th.next outcome) :
    f.Ready as tokens := by
  have hone : ∀ {token : Token} {g : Fetch}, f ∈ [g] → call.bearer = some token →
      g.1.bearer = some token →
      g.2.Fits as g.1 → f.Ready as tokens := by
    intro token g hf hcall hbearer hg
    obtain rfl := List.mem_singleton.mp hf
    exact ⟨fun token' htoken => hheld _ (hcall.trans (hbearer.symm.trans htoken)), hg⟩
  unfold Then.next at hf
  split at hf
  · exact hone hf hfits rfl rfl
  · exact hone hf hfits rfl rfl
  · exact hone hf hfits rfl rfl
  · cases hf

end Pages

/-- What a page does, and the rendering of the routes: nothing to the session and to the toaster. -/
structure Tab.Goes (as : Answers) (s : Tab) (x : Tab × List PageRequest) : Prop where
  sound : x.1.Sound as
  moved : x.1.mount = s.mount ∧ s.tokens ⊆ x.1.tokens ∨ s.mount < x.1.mount
  sent : ∀ q ∈ x.2, q.Awaits as x.1
  auth : x.1.auth = s.auth
  load_ : x.1.load_ = s.load_
  toaster : x.1.toaster = s.toaster

section Moves

variable {as : Answers} {s : Tab} {token : Token} {path : Path}

lemma awaits_requests {fetches : List Fetch} (h : ∀ f ∈ fetches, f.Ready as s.tokens) :
    ∀ q ∈ s.requests fetches, q.Awaits as s := by
  intro q hq
  obtain ⟨f, hf, rfl⟩ := List.mem_map.mp hq
  exact ⟨le_rfl, fun token htoken _ => (h f hf).1 token htoken, (h f hf).2⟩

lemma Tab.SignedIn.same {s' : Tab} (h : s.SignedIn as) (hstorage : s'.storage = s.storage)
    (hauth : s'.auth = s.auth) :
    s'.SignedIn as where
  stored := by rw [hstorage, hauth, h.stored]
  pending token ht := h.pending token (hauth ▸ ht)
  obtained token ht := h.obtained token (hauth ▸ ht)

lemma Tab.Sound.stays (h : s.Sound as) : s.Goes as (s, []) where
  sound := h
  moved := .inl ⟨rfl, fun _ ht => ht⟩
  sent _ hq := nomatch hq
  auth := rfl
  load_ := rfl
  toaster := rfl

lemma enter_goes (h : s.SignedIn as) (path : Path) : s.Goes as (s.enter path) := by
  dsimp only [Tab.enter]
  split
  · rename_i token hprotected htoken
    refine ⟨⟨h.same rfl rfl, ⟨fun t ht => ?_, (at_shows path _).load, (at_fits path).load⟩, fun _ =>
      ⟨token, htoken, rfl⟩⟩,
      .inr (Nat.lt_succ_self _), awaits_requests fun f hf => load_ready hf, rfl, rfl, rfl⟩
    exact List.mem_singleton.mp ht ▸ h.obtained token htoken
  · exact ⟨⟨h.same rfl rfl, ⟨fun _ ht => (nomatch ht), at_shows .root _, at_fits .root⟩,
      fun hprotected => (nomatch hprotected)⟩,
      .inr (Nat.lt_succ_self _), fun _ hq => (nomatch hq), rfl, rfl, rfl⟩
  · rename_i hopen
    exact ⟨⟨h.same rfl rfl, ⟨fun _ ht => (nomatch ht), at_shows path _, at_fits path⟩,
      fun hprotected => by simp_all⟩,
      .inr (Nat.lt_succ_self _), fun _ hq => (nomatch hq), rfl, rfl, rfl⟩

lemma render_goes (h : s.SignedIn as) (hs : s.Showing as) (path : Path) :
    s.Goes as (s.render path) := by
  dsimp only [Tab.render]
  split
  · rename_i hpath
    split
    · rename_i token hprotected htoken
      split
      · rename_i hhead
        exact Tab.Sound.stays ⟨h, hs, fun _ => ⟨token, htoken, hhead⟩⟩
      · -- the page stays, and what it shows of the last token with it
        have hgrows : s.tokens ⊆ token :: s.tokens := List.subset_cons_self _ _
        refine ⟨⟨h.same rfl rfl, ⟨fun t ht => ?_, ?_, hs.fits.load⟩, fun _ => ⟨token, htoken, rfl⟩⟩,
          .inl ⟨rfl, hgrows⟩,
          awaits_requests fun f hf => load_ready hf, rfl, rfl, rfl⟩
        · rcases List.mem_cons.mp ht with rfl | ht
          · exact h.obtained _ htoken
          · exact hs.tokens t ht
        · exact (hs.shows.imp fun _ hr => hr.mono (fun _ hx => hx) hgrows).load
    · exact enter_goes h path
    · rename_i hopen
      exact Tab.Sound.stays ⟨h, hs, fun hprotected => by simp_all⟩
  · exact enter_goes h path

lemma Tab.SignedIn.out : s.logout.SignedIn as where
  stored := rfl
  pending _ ht := nomatch ht
  obtained _ ht := nomatch ht

lemma Tab.SignedIn.again (h : s.SignedIn as) (n : ℕ) (r : Toaster) :
    ({ s with load_ := n, auth := load s.storage, toaster := r } : Tab).SignedIn as where
  stored := rfl
  pending token ht := h.pending token (h.stored ▸ ht)
  obtained token ht := h.obtained token (h.stored ▸ ht)

lemma withToken_goes {P : Type} {react : Token → Option (P × List Fetch)} {page : P → Page} {p : P}
    {x : Tab × List PageRequest} (h : s.Sound as) (hpage : s.page = page p)
    (hroute : ∀ path, (page p).Fits path → path.isProtected = true)
    (hreact : ∀ token p' fetches, react token = some (p', fetches) →
      (∀ Q, (page p).Shows Q → (page p').Shows Q) ∧
      (∀ path, (page p).Fits path → (page p').Fits path) ∧ ∀ f ∈ fetches, f.1.bearer = some token ∧
        f.2.Fits as f.1)
    (hx : s.withToken react page = some x) : s.Goes as x := by
  obtain ⟨token, htoken, hx⟩ := Option.bind_eq_some_iff.mp hx
  obtain ⟨⟨p', fetches⟩, hp, rfl⟩ := Option.map_eq_some_iff.mp hx
  obtain ⟨hshows, hfits, hfetches⟩ := hreact token p' fetches hp
  have hbefore : (page p).Shows (Sourced as s.tokens) ∧ (page p).Fits s.path :=
    hpage ▸ ⟨h.shows, h.fits⟩
  obtain ⟨token', htoken', hhead⟩ := h.guarded (hroute _ hbefore.2)
  obtain rfl := Option.some.inj (htoken.symm.trans htoken')
  refine ⟨⟨h.toSignedIn.same rfl rfl, ⟨h.tokens, hshows _ hbefore.1, hfits _ hbefore.2⟩, h.guarded⟩,
    .inl ⟨rfl, fun _ ht => ht⟩, ?_, rfl, rfl, rfl⟩
  refine awaits_requests (s := { s with page := page p' }) fun f hf =>
    ⟨fun token' hbearer => ?_, (hfetches f hf).2⟩
  obtain rfl := Option.some.inj ((hfetches f hf).1.symm.trans hbearer)
  exact List.mem_of_head? hhead

end Moves

section Reacting

variable {as : Answers} {s : Tab} {token : Token} {info : RequestMeta}

lemma CardsPage.react_kept {p p' : CardsPage} {e : CardsEvent} {fetches : List Fetch}
    (h : p.react token e = some (p', fetches)) : p'.cards = p.cards ∧ p'.accounts = p.accounts ∧
      ∀ details, p'.revealedDetails = some details → p.revealedDetails = some details ∧
        p.revealTimeLeft = p'.revealTimeLeft + e.ticks ∧ (e.ticks = 0 ∨ 0 < p'.revealTimeLeft) := by
  cases e with
  | tick =>
    simp only [CardsPage.react] at h
    split at h
    · rename_i hleft
      obtain ⟨rfl, -⟩ := Prod.mk.inj (Option.some.inj h)
      refine ⟨CardsPage.timeout_cards _, CardsPage.timeout_accounts _, fun details hdetails => ?_⟩
      obtain ⟨htimeout, hpos⟩ := CardsPage.timeout_of_shown hdetails
      rw [htimeout] at hdetails ⊢
      exact ⟨hdetails, (Nat.sub_add_cancel hleft).symm, .inr hpos⟩
    · cases h
  | hide =>
    simp only [CardsPage.react] at h
    split at h
    · obtain ⟨rfl, -⟩ := Prod.mk.inj (Option.some.inj h)
      exact ⟨rfl, rfl, fun _ hdetails => (nomatch hdetails)⟩
    · cases h
  | openIssueForm | cancelIssueForm =>
    obtain ⟨rfl, -⟩ := Prod.mk.inj (Option.some.inj h)
    exact ⟨rfl, rfl, fun _ hdetails => ⟨hdetails, rfl, .inl rfl⟩⟩
  | issue | verify =>
    simp only [CardsPage.react] at h
    split at h
    · cases h
    · split at h
      · obtain ⟨rfl, -⟩ := Prod.mk.inj (Option.some.inj h)
        exact ⟨rfl, rfl, fun _ hdetails => ⟨hdetails, rfl, .inl rfl⟩⟩
      · cases h
  | _ =>
    simp only [CardsPage.react] at h
    split at h
    · obtain ⟨rfl, -⟩ := Prod.mk.inj (Option.some.inj h)
      exact ⟨rfl, rfl, fun _ hdetails => ⟨hdetails, rfl, .inl rfl⟩⟩
    · cases h

lemma CardsPage.react_fits {p p' : CardsPage} {e : CardsEvent} {fetches : List Fetch}
    (h : p.react token e = some (p', fetches)) : ∀ f ∈ fetches, f.1.bearer = some token ∧
    f.2.Fits as f.1 := by
  have hnone : fetches = [] → ∀ f ∈ fetches, f.1.bearer = some token ∧ f.2.Fits as f.1 := by
    rintro rfl f hf
    cases hf
  have hone : ∀ f : Fetch, fetches = [f] → f.1.bearer = some token → f.2.Fits as f.1 →
      ∀ f ∈ fetches, f.1.bearer = some token ∧ f.2.Fits as f.1 := by
    rintro f rfl hbearer hfits g hg
    obtain rfl := List.mem_singleton.mp hg
    exact ⟨hbearer, hfits⟩
  cases e with
  | openIssueForm | cancelIssueForm => exact hnone (Prod.mk.inj (Option.some.inj h)).2.symm
  | verify =>
    simp only [CardsPage.react] at h
    split at h
    · cases h
    · split at h
      · exact hone _ (Prod.mk.inj (Option.some.inj h)).2.symm rfl ⟨_, _, _, rfl⟩
      · cases h
  | issue =>
    simp only [CardsPage.react] at h
    split at h
    · cases h
    · split at h
      · exact hone _ (Prod.mk.inj (Option.some.inj h)).2.symm rfl rfl
      · cases h
  | block id | unblock id | close id | viewDetails id =>
    simp only [CardsPage.react, CardsPage.act] at h
    split at h
    · exact hone _ (Prod.mk.inj (Option.some.inj h)).2.symm rfl rfl
    · cases h
  | _ =>
    simp only [CardsPage.react] at h
    split at h
    · exact hnone (Prod.mk.inj (Option.some.inj h)).2.symm
    · cases h

lemma cards_goes {p : CardsPage} {e : CardsEvent} {x : Tab × List PageRequest} (h : s.Sound as)
    (hpage : s.page = .cards p) (hx : s.withToken (p.react · e) .cards = some x) : s.Goes as x := by
  refine withToken_goes h hpage (fun path (hpath : path = .cards) => hpath ▸ rfl)
    (fun token p' fetches hreact => ?_) hx
  obtain ⟨hcards, haccounts, hdetails⟩ := CardsPage.react_kept hreact
  refine ⟨fun Q hQ => ⟨hcards ▸ hQ.1, haccounts ▸ hQ.2.1, fun details hshown => ?_⟩, fun _ hpath =>
    hpath,
    CardsPage.react_fits hreact⟩
  exact hQ.2.2 details (hdetails details hshown).1

lemma notifications_goes {p : NotificationsPage} {e : NotificationsEvent}
    {x : Tab × List PageRequest} (h : s.Sound as) (hpage : s.page = .notifications p)
    (hx : s.withToken (p.react · e) .notifications = some x) : s.Goes as x := by
  refine withToken_goes h hpage (fun path (hpath : path = .notifications) => hpath ▸ rfl)
    (fun token p' fetches hreact => ?_) hx
  cases e with
  | markRead id =>
    simp only [NotificationsPage.react] at hreact
    split at hreact
    · obtain ⟨rfl, rfl⟩ := Prod.mk.inj (Option.some.inj hreact)
      exact ⟨fun _ hQ => hQ, fun _ hpath => hpath, fun f hf =>
        List.mem_singleton.mp hf ▸ ⟨rfl, rfl⟩⟩
    · cases hreact
  | markAllRead =>
    simp only [NotificationsPage.react] at hreact
    split at hreact
    · obtain ⟨rfl, rfl⟩ := Prod.mk.inj (Option.some.inj hreact)
      exact ⟨fun _ hQ => hQ, fun _ hpath => hpath, fun f hf =>
        List.mem_singleton.mp hf ▸ ⟨rfl, rfl⟩⟩
    · cases hreact

lemma security_goes {p : SecurityPage} {id : Uuid} {x : Tab × List PageRequest} (h : s.Sound as)
    (hpage : s.page = .security p) (hx : s.withToken (p.handleRevoke · id) .security = some x) :
    s.Goes as x := by
  refine withToken_goes h hpage (fun path (hpath : path = .security) => hpath ▸ rfl)
    (fun token p' fetches hreact => ?_) hx
  simp only [SecurityPage.handleRevoke] at hreact
  split at hreact
  · obtain ⟨rfl, rfl⟩ := Prod.mk.inj (Option.some.inj hreact)
    exact ⟨fun _ hQ => hQ, fun _ hpath => hpath, fun f hf => List.mem_singleton.mp hf ▸ ⟨rfl, rfl⟩⟩
  · cases hreact

lemma blank_goes {page : Page} {fetches : List Fetch} (h : s.Sound as) (hshows : ∀ P, page.Shows P)
    (hfits : page.Fits s.path) (hready : ∀ f ∈ fetches, f.Ready as s.tokens) :
    s.Goes as ({ s with page }, s.requests fetches) where
  sound := ⟨h.toSignedIn.same rfl rfl, ⟨h.tokens, hshows _, hfits⟩, h.guarded⟩
  moved := .inl ⟨rfl, fun _ ht => ht⟩
  sent := awaits_requests (s := { s with page }) hready
  auth := rfl
  load_ := rfl
  toaster := rfl

lemma login_goes {p : LoginPage} {e : LoginEvent} {x : LoginPage × List Fetch} (h : s.Sound as)
    (hx : p.react e = some x) :
    s.Goes as ({ s with page := .login x.1 }, s.requests x.2) := by
  refine blank_goes h (fun _ => trivial) trivial fun f hf => ?_
  cases e with
  | submit =>
    simp only [LoginPage.react] at hx
    split at hx
    · cases hx
    · obtain rfl := Option.some.inj hx
      obtain rfl := List.mem_singleton.mp hf
      exact ⟨fun _ hbearer => (nomatch hbearer), _, rfl⟩
  | _ =>
    obtain rfl := Option.some.inj hx
    cases hf

lemma mfa_goes {p : MfaPage} {idx : ℕ} {val : String} {x : MfaPage × List Fetch} (h : s.Sound as)
    (htoken : s.auth.preMfaToken = some token) (hx : p.update token info idx val = some x) :
    s.Goes as ({ s with page := .mfa x.1 }, s.requests x.2) := by
  refine blank_goes h (fun _ => trivial) trivial fun f hf => ?_
  simp only [MfaPage.update] at hx
  split at hx
  · cases hx
  · split at hx
    · obtain rfl := Option.some.inj hx
      obtain rfl := List.mem_singleton.mp hf
      exact ⟨fun _ hbearer => (nomatch hbearer), _, _, _, rfl, h.pending token htoken⟩
    · obtain rfl := Option.some.inj hx
      cases hf

theorem reactPage_goes {e : TabEvent} {x : Tab × List PageRequest} (h : s.Sound as)
    (hx : s.reactPage info e = some x) : s.Goes as x := by
  cases e with
  | navigate path =>
    obtain rfl := Option.some.inj hx
    exact render_goes h.toSignedIn h.toShowing path
  | login e =>
    simp only [Tab.reactPage] at hx
    split at hx
    · obtain ⟨y, hy, rfl⟩ := Option.map_eq_some_iff.mp hx
      exact login_goes h hy
    · cases hx
  | digit idx val =>
    simp only [Tab.reactPage] at hx
    split at hx
    · rename_i p token _ htoken
      obtain ⟨y, hy, rfl⟩ := Option.map_eq_some_iff.mp hx
      exact mfa_goes h htoken hy
    · cases hx
  | cards e =>
    simp only [Tab.reactPage] at hx
    split at hx
    · rename_i p hpage
      exact cards_goes h hpage hx
    · cases hx
  | notifications e =>
    simp only [Tab.reactPage] at hx
    split at hx
    · rename_i p hpage
      exact notifications_goes h hpage hx
    · cases hx
  | revoke id =>
    simp only [Tab.reactPage] at hx
    split at hx
    · rename_i p hpage
      exact security_goes h hpage hx
    · cases hx
  | _ => cases hx

end Reacting

section Receiving

variable {as as' : Answers} {s : Tab} {q : PageRequest} {th : Then}
    {outcome : Except FetchError ApiResponse}

lemma Tab.Sound.mono (h : as ⊆ as') (hs : s.Sound as) : s.Sound as' :=
  ⟨hs.toSignedIn.mono h, hs.toShowing.mono h, hs.guarded⟩

lemma Tab.SignedIn.save {token : Token} (h : s.SignedIn as) (ht : Pending as token) :
    (s.savePreMfaToken token).SignedIn as where
  stored := by
    have hstored := congrArg AuthState.accessToken h.stored
    simpa [Tab.savePreMfaToken, load] using hstored
  pending _ hsome := Option.some.inj hsome ▸ ht
  obtained := h.obtained

lemma Tab.SignedIn.verified {token : Token} (ht : Obtained as token) :
    (s.saveAccessToken token).SignedIn as where
  stored := rfl
  pending _ hsome := nomatch hsome
  obtained _ hsome := Option.some.inj hsome ▸ ht

lemma refused_goes (h : s.Sound as) (e : FetchError) :
    s.Goes as (if q.mount = s.mount then s.refused e else s, []) := by
  have hblank : ∀ page : Page, (∀ P, page.Shows P) → page.Fits s.path →
      s.Goes as ({ s with page }, []) :=
    fun page hshows hfits => blank_goes h hshows hfits fun f (hf : f ∈ []) => (nomatch hf)
  split
  · unfold Tab.refused
    split
    · exact hblank _ (fun _ => trivial) trivial
    · exact hblank _ (fun _ => trivial) trivial
    · exact h.stays
  · exact h.stays

lemma Then.Fits.bearer {call : ApiCall} (h : th.Fits as call) :
    (th = .login ∨ th = .verifyMfa) ∨ ∃ token, call.bearer = some token := by
  cases th with
  | login => exact .inl (.inl rfl)
  | verifyMfa => exact .inl (.inr rfl)
  | acted token _ | marked token | revoked token => exact .inr ⟨token, h⟩
  | verified =>
    obtain ⟨token, _, _, rfl⟩ := h
    exact .inr ⟨token, rfl⟩
  | _ => exact .inr (Option.isSome_iff_exists.mp h)

lemma receive_signIn (h : th = .login ∨ th = .verifyMfa) (page : Page) :
    page.receive th outcome = page := by
  rcases h with rfl | rfl <;> cases page <;> rfl

lemma handled_goes (hsub : as ⊆ as') (hs : s.Sound as) (hq : q.Awaits as s)
    (hanswer : ∀ r, outcome = .ok r → (q.call, .ok r) ∈ as') :
    s.Goes as' (if q.mount = s.mount then { s with page := s.page.receive q.then_ outcome } else s,
      (q.then_.next outcome).map fun f => ⟨q.load_, q.mount, f.1, f.2⟩) := by
  have hs' := hs.mono hsub
  have hnext : ∀ f ∈ q.then_.next outcome, q.mount = s.mount → f.Ready as' s.tokens :=
    fun f hf hmount =>
    next_ready (hq.fits.mono hsub) (fun token hbearer => hq.held token hbearer hmount) hf
  have hfits : ∀ f ∈ q.then_.next outcome, f.2.Fits as' f.1 := by
    intro f hf
    have hready : f.Ready as' q.call.bearer.toList :=
      next_ready (hq.fits.mono hsub) (fun _ hbearer => by simp [hbearer]) hf
    exact hready.2
  have hpage : q.mount = s.mount →
      (s.page.receive q.then_ outcome).Shows (Sourced as' s.tokens) := by
    intro hmount
    rcases hq.fits.bearer with hsign | ⟨token, hbearer⟩
    · rw [receive_signIn hsign]
      exact hs'.shows
    · exact hs'.shows.receive fun r' hr' r hpart =>
        .answered q.call token (hanswer r' hr') hbearer (hq.held token hbearer hmount) hpart
  split
  · rename_i hmount
    refine ⟨⟨hs'.toSignedIn.same rfl rfl, ⟨hs'.tokens, hpage hmount, hs'.fits.receive⟩,
      hs'.guarded⟩,
      .inl ⟨rfl, fun _ ht => ht⟩, fun q' hq' => ?_, rfl, rfl, rfl⟩
    obtain ⟨f, hf, rfl⟩ := List.mem_map.mp hq'
    exact ⟨hq.mount, fun token hbearer hsame => (hnext f hf hmount).1 token hbearer, hfits f hf⟩
  · rename_i hmount
    refine ⟨hs', .inl ⟨rfl, fun _ ht => ht⟩, fun q' hq' => ?_, rfl, rfl, rfl⟩
    obtain ⟨f, hf, rfl⟩ := List.mem_map.mp hq'
    exact ⟨hq.mount, fun token hbearer hsame => absurd hsame hmount, hfits f hf⟩

end Receiving

structure Tab.Steps (as : Answers) (s : Tab) (x : Tab × List Request) : Prop where
  sound : x.1.Sound as
  toasting : x.1.Toasting as
  moved : x.1.mount = s.mount ∧ s.tokens ⊆ x.1.tokens ∨ s.mount < x.1.mount
  loaded : x.1.load_ = s.load_ ∧ s.toaster.tokens ⊆ x.1.toaster.tokens ∨ s.load_ < x.1.load_
  sent : ∀ q ∈ x.2, q.Awaits as x.1

section Toasts

variable {as as' : Answers} {s : Tab} {r : Toaster} {token : Token} {old accessToken : Option Token}

lemma Toaster.Sound.watch (h : r.Sound as)
    (hnew : ∀ token, accessToken = some token → Obtained as token) :
    (r.watch old accessToken).Sound as := by
  unfold Toaster.watch
  split
  · exact h
  · refine ⟨fun token ht => ?_, fun n hn => ?_⟩
    · rcases List.mem_append.mp ht with ht | ht
      · exact hnew token (Option.mem_toList.mp ht)
      · exact h.tokens token ht
    · obtain ⟨token, ht, rows, hmem, hrows⟩ := h.toasts n hn
      exact ⟨token, List.mem_append_right _ ht, rows, hmem, hrows⟩

lemma Toaster.tokens_watch : r.tokens ⊆ (r.watch old accessToken).tokens := by
  unfold Toaster.watch
  split
  · exact fun _ ht => ht
  · exact List.subset_append_right _ _

lemma Toaster.mem_watch (ht : accessToken = some token)
    (hold : accessToken = old → token ∈ r.tokens) :
    token ∈ (r.watch old accessToken).tokens := by
  unfold Toaster.watch
  split
  · rename_i hsame
    exact hold hsame
  · exact List.mem_append_left _ (Option.mem_toList.mpr ht)

lemma Toaster.fetched_toasts {notifs : List Notification} {n : Notification}
    (h : n ∈ (r.fetchNotifs notifs).page.toasts) : n ∈ r.toasts ∨ n ∈ notifs := by
  unfold Toaster.fetchNotifs NotificationToaster.Page.fetchNotifs at h
  split at h
  · exact .inl h
  · rcases List.mem_append.mp h with h | h
    · exact .inl h
    · exact .inr (List.mem_of_mem_filter h)

lemma Tab.Goes.steps {x : Tab × List PageRequest} (h : s.Goes as x) (ht : s.Toasting as) :
    s.Steps as (Tab.ofPage x) where
  sound := h.sound
  toasting := by
    have htoaster : x.1.toaster = s.toaster := h.toaster
    have hauth : x.1.auth = s.auth := h.auth
    refine ⟨?_, ?_⟩
    · change x.1.toaster.Sound as
      exact htoaster ▸ ht.toaster
    · change ∀ token, x.1.auth.accessToken = some token → token ∈ x.1.toaster.tokens
      rw [htoaster, hauth]
      exact ht.current
  moved := h.moved
  loaded := .inl ⟨h.load_, fun _ hm => h.toaster ▸ hm⟩
  sent q hq := by
    obtain ⟨q', hq', rfl⟩ := List.mem_map.mp hq
    exact h.sent q' hq'

lemma Tab.Sound.waits (h : s.Sound as) (ht : s.Toasting as) : s.Steps as (s, []) where
  sound := h
  toasting := ht
  moved := .inl ⟨rfl, fun _ hm => hm⟩
  loaded := .inl ⟨rfl, fun _ hm => hm⟩
  sent _ hq := nomatch hq

lemma commit_steps {s₀ : Tab} {rendering : Tab → Tab × List PageRequest} (hsigned : s.SignedIn as)
    (htoaster : s.toaster.Sound as)
    (hold : ∀ token, s.auth.accessToken = some token → s.auth.accessToken = old →
      token ∈ s.toaster.tokens)
    (hmount : s.mount = s₀.mount) (htokens : s.tokens = s₀.tokens)
    (hloaded : s.load_ = s₀.load_ ∧ s₀.toaster.tokens ⊆ s.toaster.tokens ∨ s₀.load_ < s.load_)
    (hgoes : ∀ r, ({ s with toaster := r } : Tab).Goes as (rendering { s with toaster := r })) :
    s₀.Steps as (s.commit old rendering) := by
  have hgoes := hgoes (s.toaster.watch old s.auth.accessToken)
  have hcurrent : ∀ token, s.auth.accessToken = some token →
      token ∈ (s.toaster.watch old s.auth.accessToken).tokens :=
    fun token ht => Toaster.mem_watch ht (hold token ht)
  constructor
  case sound => exact hgoes.sound
  case toasting =>
    refine ⟨?_, fun token ht => ?_⟩
    · have hwatched : (s.toaster.watch old s.auth.accessToken).Sound as :=
        htoaster.watch hsigned.obtained
      exact hgoes.toaster.symm ▸ hwatched
    · have hauth := hgoes.auth
      have hmem := hcurrent token (by rw [← ht]; exact (congrArg AuthState.accessToken hauth).symm)
      exact hgoes.toaster.symm ▸ hmem
  case moved => exact hmount ▸ htokens ▸ hgoes.moved
  case loaded =>
    have hload : (s.commit old rendering).1.load_ = s.load_ := hgoes.load_
    have hkept : s.toaster.tokens ⊆ (s.commit old rendering).1.toaster.tokens := by
      have htoaster : (s.commit old rendering).1.toaster = s.toaster.watch old s.auth.accessToken :=
        hgoes.toaster
      rw [htoaster]
      exact Toaster.tokens_watch
    rcases hloaded with ⟨hsame, hsub⟩ | hlater
    · exact .inl ⟨hload.trans hsame, fun _ hm => hkept (hsub hm)⟩
    · exact .inr (hload ▸ hlater)
  case sent =>
    intro q hq
    rcases List.mem_append.mp hq with hq | hq
    · obtain ⟨token, ht, rfl⟩ := List.mem_map.mp hq
      have ht : s.auth.accessToken = some token := by
        split at ht
        · cases ht
        · exact Option.mem_toList.mp ht
      have hload : (s.commit old rendering).1.load_ = s.load_ := hgoes.load_
      have htoaster : (s.commit old rendering).1.toaster = s.toaster.watch old s.auth.accessToken :=
        hgoes.toaster
      refine ⟨hload.ge, fun _ => ?_⟩
      rw [htoaster]
      exact hcurrent token ht
    · obtain ⟨q', hq', rfl⟩ := List.mem_map.mp hq
      exact hgoes.sent q' hq'

end Toasts

section Steps

variable {as as' : Answers} {s : Tab} {info : RequestMeta}

theorem react_steps {e : TabEvent} {x : Tab × List Request} (h : s.Sound as) (ht : s.Toasting as)
    (hx : s.react info e = some x) : s.Steps as x := by
  cases e with
  | reload =>
    obtain rfl := Option.some.inj hx
    refine commit_steps (s := { s with
      load_ := s.load_ + 1, auth := load s.storage, toaster := .mounted s.storage })
      (h.toSignedIn.again _ _) ⟨fun _ hm => (nomatch hm), fun _ hn => (nomatch hn)⟩ ?_ rfl rfl
      (.inr (Nat.lt_succ_self _)) fun r => enter_goes (h.toSignedIn.again _ r) s.path
    intro token htoken hnone
    rw [htoken] at hnone
    cases hnone
  | logout =>
    simp only [Tab.react] at hx
    split at hx
    · obtain rfl := Option.some.inj hx
      refine commit_steps (s := s.logout) .out ht.toaster (fun _ htoken => (nomatch htoken)) rfl rfl
        (.inl ⟨rfl, fun _ hm => hm⟩) fun r => ?_
      have hsigned : ({ s.logout with toaster := r } : Tab).SignedIn as :=
        (Tab.SignedIn.out (s := s)).same rfl rfl
      exact render_goes hsigned ⟨h.tokens, h.shows, h.fits⟩ .root
    · cases hx
  | poll =>
    obtain ⟨token, htoken, rfl⟩ := Option.map_eq_some_iff.mp hx
    have hstays := h.waits ht
    refine ⟨hstays.sound, hstays.toasting, hstays.moved, hstays.loaded, fun q hq => ?_⟩
    obtain rfl := List.mem_singleton.mp hq
    exact ⟨le_rfl, fun _ => ht.current token htoken⟩
  | closeToast id =>
    simp only [Tab.react] at hx
    split at hx
    · obtain rfl := Option.some.inj hx
      have hclosed : (s.toaster.handleClose id).Sound as :=
        ⟨ht.toaster.tokens, fun n hn => ht.toaster.toasts n (List.mem_of_mem_filter hn)⟩
      exact ⟨⟨h.toSignedIn.same rfl rfl, ⟨h.tokens, h.shows, h.fits⟩, h.guarded⟩,
        ⟨hclosed, ht.current⟩,
        .inl ⟨rfl, fun _ hm => hm⟩, .inl ⟨rfl, fun _ hm => hm⟩, fun _ hq => (nomatch hq)⟩
    · cases hx
  | _ =>
    simp only [Tab.react] at hx
    obtain ⟨y, hy, rfl⟩ := Option.map_eq_some_iff.mp hx
    exact (reactPage_goes h hy).steps ht

theorem receivePage_steps {q : PageRequest} (hsub : as ⊆ as') (hs : s.Sound as)
    (ht : s.Toasting as') (hq : q.Awaits as s) {a : Option (Except AppFailure ApiResponse)}
    (hanswer : ∀ r, apiFetch a = .ok r → (q.call, .ok r) ∈ as') :
    s.Steps as' (s.receivePage q a) := by
  have hs' := hs.mono hsub
  have hfits := hq.fits.mono hsub
  unfold Tab.receivePage
  split
  · rename_i res hth hout
    rw [hth] at hfits
    obtain ⟨dto, hcall⟩ := hfits
    have hpending : Pending as' res.accessToken := ⟨dto, res, hcall ▸ hanswer _ hout, rfl⟩
    have hgoes := render_goes (hs'.toSignedIn.save hpending) ⟨hs'.tokens, hs'.shows, hs'.fits⟩ .mfa
    have hsteps := hgoes.steps ⟨ht.toaster, ht.current⟩
    exact ⟨hsteps.sound, hsteps.toasting, hsteps.moved, hsteps.loaded, hsteps.sent⟩
  · rename_i token hth hout
    rw [hth] at hfits
    obtain ⟨pending, otp, info, hcall, hpending⟩ := hfits
    have hobtained : Obtained as' token := ⟨pending, otp, info, hpending, hcall ▸ hanswer _ hout⟩
    have hsigned : (s.saveAccessToken token).SignedIn as' := .verified hobtained
    refine commit_steps (s := s.saveAccessToken token) hsigned ht.toaster
      (fun t htoken hsame => ht.current t (hsame ▸ htoken)) rfl rfl (.inl ⟨rfl, fun _ hm => hm⟩)
        fun r => ?_
    have hsigned : ({ s.saveAccessToken token with toaster := r } : Tab).SignedIn as' :=
      hsigned.same rfl rfl
    exact render_goes hsigned ⟨hs'.tokens, hs'.shows, hs'.fits⟩ .dashboard
  · exact (refused_goes hs' _).steps ht
  · exact (refused_goes hs' _).steps ht
  · exact (handled_goes hsub hs hq hanswer).steps ht

lemma receiveNotifs_steps {token : Token} {outcome : Except FetchError ApiResponse}
    (hs : s.Sound as) (ht : s.Toasting as) (htoken : token ∈ s.toaster.tokens)
    (hanswer : ∀ r, outcome = .ok r → (ApiCall.request token .getNotifications, .ok r) ∈ as) :
    s.Steps as (s.receiveNotifs outcome, []) := by
  unfold Tab.receiveNotifs
  split
  · rename_i notifs
    have hstored : ∀ storage : SessionStorage, load storage = load s.storage →
        s.auth = load storage :=
      fun _ hsame => hs.stored.trans hsame.symm
    refine ⟨⟨⟨hstored _ ?_, hs.pending, hs.obtained⟩, ⟨hs.tokens, hs.shows, hs.fits⟩, hs.guarded⟩,
      ⟨⟨ht.toaster.tokens, fun n hn => ?_⟩, ht.current⟩, .inl ⟨rfl, fun _ hm => hm⟩,
      .inl ⟨rfl, fun _ hm => hm⟩,
      fun _ hq => (nomatch hq)⟩
    · dsimp only
      split <;> rfl
    · rcases Toaster.fetched_toasts hn with hn | hn
      · exact ht.toaster.toasts n hn
      · exact ⟨token, htoken, notifs, hanswer _ rfl, hn⟩
  · exact hs.waits ht

theorem receive_steps {q : Request} (hsub : as ⊆ as') (hs : s.Sound as) (ht : s.Toasting as)
    (hq : q.Awaits as s) {a : Option (Except AppFailure ApiResponse)}
    (hanswer : ∀ r, apiFetch a = .ok r → (q.call, .ok r) ∈ as') :
    s.Steps as' (s.receive q a) := by
  have hs' := hs.mono hsub
  have ht' := ht.mono hsub
  unfold Tab.receive
  cases q with
  | page q =>
    dsimp only
    split
    · exact receivePage_steps hsub hs ht' hq hanswer
    · exact hs'.waits ht'
  | toaster load_ effect token =>
    dsimp only
    split
    · rename_i hcurrent
      exact receiveNotifs_steps hs' ht' (hq.2 hcurrent.1) hanswer
    · exact hs'.waits ht'

end Steps

lemma Request.Awaits.stepped {as as' : Answers} {s : Tab} {x : Tab × List Request}
    (h : s.Steps as' x) {q : Request} (hq : q.Awaits as s) : q.Awaits as x.1 := by
  cases q with
  | page q => exact PageRequest.Awaits.moved hq h.moved
  | toaster load_ effect token =>
    obtain ⟨hload, hheld⟩ := hq
    rcases h.loaded with ⟨hsame, htokens⟩ | hlater
    · exact ⟨hload.trans hsame.ge, fun heq => htokens (hheld (heq.trans hsame))⟩
    · refine ⟨hload.trans hlater.le, fun heq => ?_⟩
      omega

def Tab.Kept (as : Answers) (s : Tab) : Prop := s.Sound as ∧ s.Toasting as

lemma Tab.Steps.keeps {as as' : Answers} {s : Tab} {x : Tab × List Request} (h : s.Steps as' x) :
    x.1.Kept as' ∧ (∀ q : Request, q.Awaits as s → q.Awaits as x.1) ∧ ∀ q ∈ x.2, q.Awaits as' x.1 :=
  ⟨⟨h.sound, h.toasting⟩, fun _ hq => hq.stepped h, h.sent⟩

lemma client_keeps (info : RequestMeta) :
    (client info).Keeps (fun as s => s.Kept as) (fun as s q => q.Awaits as s) where
  later as x s q hq := hq.mono (List.subset_append_left _ _)
  react as s e s' qs hs hreact := (react_steps hs.1 hs.2 hreact).keeps
  answered as s q r s' qs hs hq hreceive := by
    have hsteps : s.Steps (as ++ [(q.call, r)]) (s.receive q (some r)) := by
      refine receive_steps (List.subset_append_left _ _) hs.1 hs.2 hq fun a ha => ?_
      cases r with
      | ok a' =>
        obtain rfl := Except.ok.inj ha
        exact List.mem_append_right _ List.mem_cons_self
      | error e => cases ha
    rw [show s.receive q (some r) = (s', qs) from hreceive] at hsteps
    exact hsteps.keeps
  lost as s q s' qs hs hq hreceive := by
    have hsteps : s.Steps as (s.receive q none) :=
      receive_steps (fun _ hx => hx) hs.1 hs.2 hq fun a ha => by cases ha
    rw [show s.receive q none = (s', qs) from hreceive] at hsteps
    exact hsteps.keeps

section Runs

variable {host : Host} {info : RequestMeta} {admits : ApiCall → Bool} {w : ApiWorld}
    {moves : List Move} {s : Browsing}
variable {as : Answers} {token : Token} {r r' : ApiResponse}

lemma browsing_kept (h : (Browsing.open_ w).run host info admits moves = some s) :
    s.Kept (client info) (fun as s => s.Kept as) (fun as s q => q.Awaits as s) := by
  have hopened : ({} : Tab).Kept [] := by
    refine ⟨⟨⟨rfl, ?_, ?_⟩, ⟨?_, trivial, trivial⟩, ?_⟩, ⟨⟨?_, ?_⟩, ?_⟩⟩
    all_goals
      intros
      contradiction
  exact Connection.run_kept (client_keeps info) (Connection.start_kept hopened) h

lemma browsing_refines (h : (Browsing.open_ w).run host info admits moves = some s) :
    ∃ schedule ms d, Refines host w schedule s.server ms d := by
  obtain ⟨schedule, hschedule⟩ := Connection.run_server h
  obtain ⟨ms, d, hrefines⟩ := run_refines hschedule
  exact ⟨schedule, ms, d, hrefines⟩

/-- The tab has been given the token in answer to a login and a verifyMfa of its own, and it is of
the user whose password the server has checked for that login. -/
def Browsing.SignedIn (s : Browsing) (token : Token) : Prop :=
  ∃ dto response otp info t user,
    (ApiCall.login dto, .ok (.service (.loggedIn response))) ∈ s.answers ∧
    (ApiCall.verifyMfa response.accessToken otp info, .ok (.service (.verified token))) ∈
      s.answers ∧
    (t, AppEvent.passwordAccepted user) ∈ s.server.shared.trace ∧ user.email = emailNorm dto.email ∧
    token.payload.sub = user.id

lemma ApiResponse.Concerns.part {v : ApiWorld} {userId : Uuid} (h : r'.Concerns v w userId)
    (hpart : PartOf r r') :
    r.Concerns v w userId := by
  unfold PartOf at hpart
  split at hpart
  · exact ⟨h.1.sublist (hpart.map _), fun view hview => h.2 view (hpart.subset hview)⟩
  · exact hpart ▸ h

end Runs

def demoServed (t n : ℕ) : List Move := (Label.solo t demoApiInputs n).map .server

def demoDigits (otp : String) : List Move :=
  otp.toList.zipIdx.map fun c => .event (.digit c.2 (String.ofList [c.1]))

def demoSignIn : List Move :=
  [.event (.login (.setPassword "Demo1234!")), .event (.login .submit), .arrive 0 0] ++
    demoServed 0 5 ++ [.answer 0] ++
    demoDigits "123456" ++ [.arrive 0 1] ++ demoServed 1 7 ++ [.answer 0]

def demoReveal : List Move :=
  [.event (.navigate .cards), .arrive 3 2] ++ demoServed 2 6 ++ [.answer 3] ++
    [.event (.cards (.viewDetails (.numbered 501))), .arrive 4 3] ++ demoServed 3 8 ++
      [.answer 4] ++
      [.event (.cards (.setOtp "123456")), .event (.cards .verify), .arrive 4 4] ++
        demoServed 4 9 ++ [.answer 4]

def demoMoves : List Move :=
  demoSignIn ++ demoReveal ++ [.event (.cards .tick), .event (.cards .tick)]

def demoBrowsing : Option Browsing :=
  (Browsing.open_ demoApiWorld).run demoHost {} (fun _ => true) demoMoves

def Page.revealed : Page → Option (CardDetails × ℕ)
  | .cards p => p.revealedDetails.map fun details => (details, p.revealTimeLeft)
  | _ => none

lemma demoBrowsing_revealed : ∃ s p details, demoBrowsing = some s ∧ s.state.page = .cards p ∧
    p.revealedDetails = some details ∧ p.revealTimeLeft = 58 := by
  have hrun : (demoBrowsing.bind fun s => s.state.page.revealed).map Prod.snd = some 58 := by
    decide +kernel
  obtain ⟨⟨details, left⟩, hrun, rfl⟩ := Option.map_eq_some_iff.mp hrun
  obtain ⟨s, hs, hrevealed⟩ := Option.bind_eq_some_iff.mp hrun
  cases hpage : s.state.page with
  | cards p =>
    rw [hpage] at hrevealed
    obtain ⟨details', hdetails, heq⟩ := Option.map_eq_some_iff.mp hrevealed
    exact ⟨s, p, details', hs, hpage, hdetails, (Prod.mk.inj heq).2⟩
  | _ =>
    rw [hpage] at hrevealed
    cases hrevealed

/-- The transfer is made elsewhere, between the first response to the toaster and a poll. -/
def demoToldMoves : List Move :=
  demoSignIn ++ [.arrive 0 2] ++ demoServed 2 5 ++ [.answer 0] ++
    (.spawn 3 demoApiPayment :: Label.solo 3 (fun k => demoApiInputs (20 + k)) 6).map .server ++
    [.event .poll, .arrive 2 4] ++ demoServed 4 5 ++ [.answer 2]

def demoTold : Option Browsing :=
  (Browsing.open_ demoApiWorld).run demoHost {} (fun _ => true) demoToldMoves

end OnlineBanking.Browser
