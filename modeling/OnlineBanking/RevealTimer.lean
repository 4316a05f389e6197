import OnlineBanking.BrowserRuns

set_option autoImplicit false

/-! The timer on CardsPage, and how long the details of a card are shown. -/

namespace OnlineBanking.Browser

open Library

def TabEvent.ticks : TabEvent → ℕ
  | .cards e => e.ticks
  | _ => 0

def ticks : Move → ℕ
  | .event e => e.ticks
  | _ => 0

def Page.Reveals (details : CardDetails) (left : ℕ) : Page → Prop
  | .cards p => p.revealedDetails = some details ∧ p.revealTimeLeft = left
  | _ => False

section Reveal

variable {details : CardDetails} {left : ℕ} {page : Page} {s : Tab} {path : Path}
    {info : RequestMeta}

lemma Page.Reveals.of_load {token : Token} (h : (page.load token).1.Reveals details left) :
    page.Reveals details left := by
  cases page <;> exact h

lemma Page.Reveals.of_timeout {p : CardsPage} (h : (Page.cards p.timeout).Reveals details left) :
    (Page.cards p).Reveals details left := by
  have hshown : p.timeout.revealedDetails = some details := h.1
  rwa [(CardsPage.timeout_of_shown hshown).1] at h

lemma not_reveals_at : ¬ (Page.at_ path).Reveals details left := by
  intro h
  cases path with
  | cards => exact nomatch h.1
  | _ => exact h

lemma not_reveals_enter : ¬ (s.enter path).1.page.Reveals details left := by
  intro h
  dsimp only [Tab.enter] at h
  split at h
  · exact not_reveals_at h.of_load
  · exact h
  · exact not_reveals_at h

lemma render_reveals (h : (s.render path).1.page.Reveals details left) :
    s.page.Reveals details left := by
  dsimp only [Tab.render] at h
  split at h
  · split at h
    · split at h
      · exact h
      · exact h.of_load
    · exact absurd h not_reveals_enter
    · exact h
  · exact absurd h not_reveals_enter

lemma withToken_page {P : Type} {react : Token → Option (P × List Fetch)} {page : P → Page}
    {x : Tab × List PageRequest} (h : s.withToken react page = some x) :
    ∃ token y, react token = some y ∧ x.1.page = page y.1 := by
  obtain ⟨token, _, h⟩ := Option.bind_eq_some_iff.mp h
  obtain ⟨y, hy, rfl⟩ := Option.map_eq_some_iff.mp h
  exact ⟨token, y, hy, rfl⟩

lemma reactPage_reveals {e : TabEvent} {x : Tab × List PageRequest}
    (hx : s.reactPage info e = some x) (h : x.1.page.Reveals details left) :
    s.page.Reveals details (left + e.ticks) ∧ (e.ticks = 0 ∨ 0 < left) := by
  cases e with
  | navigate path =>
    obtain rfl := Option.some.inj hx
    exact ⟨render_reveals h, .inl rfl⟩
  | login e =>
    simp only [Tab.reactPage] at hx
    split at hx
    · obtain ⟨y, hy, rfl⟩ := Option.map_eq_some_iff.mp hx
      exact absurd h id
    · cases hx
  | digit idx val =>
    simp only [Tab.reactPage] at hx
    split at hx
    · obtain ⟨y, hy, rfl⟩ := Option.map_eq_some_iff.mp hx
      exact absurd h id
    · cases hx
  | cards e =>
    simp only [Tab.reactPage] at hx
    split at hx
    · rename_i p hpage
      obtain ⟨token, y, hy, hafter⟩ := withToken_page hx
      rw [hafter] at h
      rw [hpage]
      obtain ⟨_, _, hshown⟩ := CardsPage.react_kept hy
      obtain ⟨hbefore, hleft, hticks⟩ := hshown details h.1
      have hnow : y.1.revealTimeLeft = left := h.2
      rw [hnow] at hleft hticks
      exact ⟨⟨hbefore, hleft⟩, hticks⟩
    · cases hx
  | notifications e =>
    simp only [Tab.reactPage] at hx
    split at hx
    · obtain ⟨_, y, _, hafter⟩ := withToken_page hx
      rw [hafter] at h
      exact False.elim h
    · cases hx
  | revoke id =>
    simp only [Tab.reactPage] at hx
    split at hx
    · obtain ⟨_, y, _, hafter⟩ := withToken_page hx
      rw [hafter] at h
      exact False.elim h
    · cases hx
  | _ => cases hx

lemma react_reveals {e : TabEvent} {x : Tab × List Request} (hx : s.react info e = some x)
    (h : x.1.page.Reveals details left) :
    s.page.Reveals details (left + e.ticks) ∧ (e.ticks = 0 ∨ 0 < left) := by
  cases e with
  | reload =>
    obtain rfl := Option.some.inj hx
    exact absurd h not_reveals_enter
  | logout =>
    simp only [Tab.react] at hx
    split at hx
    · obtain rfl := Option.some.inj hx
      have hbefore := render_reveals h
      exact ⟨hbefore, .inl rfl⟩
    · cases hx
  | poll =>
    obtain ⟨token, _, rfl⟩ := Option.map_eq_some_iff.mp hx
    exact ⟨h, .inl rfl⟩
  | closeToast id =>
    simp only [Tab.react] at hx
    split at hx
    · obtain rfl := Option.some.inj hx
      exact ⟨h, .inl rfl⟩
    · cases hx
  | _ =>
    simp only [Tab.react] at hx
    obtain ⟨y, hy, rfl⟩ := Option.map_eq_some_iff.mp hx
    exact reactPage_reveals hy h

def Then.Brings (th : Then) (outcome : Except FetchError ApiResponse)
    (details : CardDetails) : Prop :=
  th = .verified ∧ outcome = .ok (.service (.revealed details))

lemma page_receive_reveals {th : Then} {outcome : Except FetchError ApiResponse}
    (h : (page.receive th outcome).Reveals details left) :
    page.Reveals details left ∨ (th.Brings outcome details ∧ left = CardsPage.expiry details) := by
  cases page with
  | cards p =>
    change (Page.cards (p.receive th outcome)).Reveals details left at h
    unfold CardsPage.receive at h
    split at h
    · exact .inl h
    · exact .inl h
    · exact .inl h
    · exact .inl h
    · exact .inl h
    · exact nomatch h.1
    · exact .inl h
    · rename_i details'
      obtain ⟨hshown, hleft⟩ := h.of_timeout
      obtain rfl := Option.some.inj hshown
      exact .inr ⟨⟨rfl, rfl⟩, hleft.symm⟩
    · exact .inl h
    · exact .inl h
  | _ => exact absurd h id

lemma receivePage_reveals {q : PageRequest} {a : Option (Except AppFailure ApiResponse)}
    (h : (s.receivePage q a).1.page.Reveals details left) :
    s.page.Reveals details left ∨
      (q.then_.Brings (apiFetch a) details ∧ left = CardsPage.expiry details) := by
  have hrefused : ∀ e, (if q.mount = s.mount then s.refused e else s).page.Reveals details left →
      s.page.Reveals details left := by
    intro e he
    split at he
    · unfold Tab.refused at he
      split at he
      · exact absurd he id
      · exact absurd he id
      · exact he
    · exact he
  unfold Tab.receivePage at h
  split at h
  · have hbefore := render_reveals h
    exact .inl hbefore
  · have hbefore := render_reveals h
    exact .inl hbefore
  · exact .inl (hrefused _ h)
  · exact .inl (hrefused _ h)
  · dsimp only [Tab.ofPage] at h
    split at h
    · exact page_receive_reveals h
    · exact .inl h

lemma receive_reveals {q : Request} {a : Option (Except AppFailure ApiResponse)}
    (h : (s.receive q a).1.page.Reveals details left) :
    s.page.Reveals details left ∨
      ∃ q', q = .page q' ∧ q'.then_.Brings (apiFetch a) details ∧
        left = CardsPage.expiry details := by
  unfold Tab.receive at h
  cases q with
  | page q =>
    dsimp only at h
    split at h
    · exact (receivePage_reveals h).imp_right fun hbrings => ⟨q, rfl, hbrings⟩
    · exact .inl h
  | toaster load_ effect token =>
    dsimp only at h
    split at h
    · unfold Tab.receiveNotifs at h
      split at h <;> exact .inl h
    · exact .inl h

end Reveal

section Runs

variable {host : Host} {info : RequestMeta} {admits : ApiCall → Bool} {w : ApiWorld}
    {moves : List Move} {s : Browsing}
variable {details : CardDetails} {left : ℕ}

/-- At some move, an answer to a verifyReveal of the tab has brought the details; the ticks since
then and the time that is left make up the time that the answer has given. -/
def RevealedIn (host : Host) (info : RequestMeta) (admits : ApiCall → Bool) (w : ApiWorld)
    (moves : List Move) (details : CardDetails) (left : ℕ) : Prop :=
  ∃ before k after u v token cardId otp, moves = before ++ .answer k :: after ∧
    (Browsing.open_ w).run host info admits before = some u ∧
    (Browsing.open_ w).run host info admits (before ++ [.answer k]) = some v ∧
    v.answers = u.answers ++ [(.request token (.verifyReveal cardId otp),
      .ok (.service (.revealed details)))] ∧
    (after.map ticks).sum + left = CardsPage.expiry details ∧ 0 < left

lemma RevealedIn.extend {m : Move}
    (h : RevealedIn host info admits w moves details (left + ticks m))
    (hpos : ticks m = 0 ∨ 0 < left) :
    RevealedIn host info admits w (moves ++ [m]) details left := by
  obtain ⟨before, k, after, u, v, token, cardId, otp, rfl, hu, hv, hanswers, hticks, hleft⟩ := h
  refine ⟨before, k, after ++ [m], u, v, token, cardId, otp, by simp, hu, hv, hanswers, ?_, ?_⟩
  · have hsum : ((after ++ [m]).map ticks).sum = (after.map ticks).sum + ticks m := by simp
    omega
  · rcases hpos with hzero | hpos
    · omega
    · exact hpos

lemma CardsPage.expiry_pos (details : CardDetails) : 0 < CardsPage.expiry details := by
  unfold CardsPage.expiry
  split <;> omega

lemma run_revealed (h : (Browsing.open_ w).run host info admits moves = some s)
    (hs : s.state.page.Reveals details left) :
    RevealedIn host info admits w moves details left := by
  induction moves using List.reverseRecOn generalizing s left with
  | nil =>
    obtain rfl := Option.some.inj h
    exact absurd hs id
  | append_singleton moves m ih =>
    obtain ⟨u, hu, hm⟩ := Option.bind_eq_some_iff.mp ((Connection.run_concat moves m).symm.trans h)
    cases m with
    | server l =>
      obtain ⟨server, _, rfl⟩ := Option.map_eq_some_iff.mp hm
      exact (ih hu hs).extend (.inl rfl)
    | event e =>
      obtain ⟨x, hx, rfl⟩ := Option.map_eq_some_iff.mp hm
      obtain ⟨hbefore, hpos⟩ := react_reveals hx hs
      exact (ih hu hbefore).extend hpos
    | arrive k t =>
      simp only [Connection.step] at hm
      split at hm
      · split at hm
        · obtain ⟨server, _, rfl⟩ := Option.map_eq_some_iff.mp hm
          exact (ih hu hs).extend (.inl rfl)
        · cases hm
      · cases hm
    | answer k =>
      have hrun := h
      simp only [Connection.step] at hm
      split at hm
      · rename_i t q hk
        obtain ⟨a, _, rfl⟩ := Option.map_eq_some_iff.mp hm
        rcases receive_reveals hs with hbefore | ⟨q, rfl, ⟨hth, hout⟩, rfl⟩
        · exact (ih hu hbefore).extend (.inl rfl)
        · have hawaits : q.Awaits u.answers u.state :=
            (browsing_kept hu).awaited _ (List.mem_of_getElem? hk)
          have hfits := hawaits.fits
          rw [hth] at hfits
          obtain ⟨token, cardId, otp, hcall⟩ := hfits
          have ha : a = .ok (.service (.revealed details)) := by
            cases a with
            | ok r => exact congrArg Except.ok (Except.ok.inj hout)
            | error e => cases hout
          refine ⟨moves, k, [], u, _, token, cardId, otp, rfl, hu,
            hrun, ?_, by simp, CardsPage.expiry_pos details⟩
          simp [Connection.goOn, client, Request.call, hcall, ha]
      · cases hm
    | lose k =>
      obtain ⟨x, _, rfl⟩ := Option.map_eq_some_iff.mp hm
      rcases receive_reveals hs with hbefore | ⟨_, _, ⟨_, hout⟩, _⟩
      · exact (ih hu hbefore).extend (.inl rfl)
      · cases hout

/-- The details of a card are shown for less than sixty ticks of the timer after the answer that has
brought them. -/
theorem reveal_expires (h : (Browsing.open_ w).run host info admits moves = some s)
    {p : CardsPage} (hp : s.state.page = .cards p) (hd : p.revealedDetails = some details) :
    ∃ before k after u v token cardId otp, moves = before ++ .answer k :: after ∧
      (Browsing.open_ w).run host info admits before = some u ∧
      (Browsing.open_ w).run host info admits (before ++ [.answer k]) = some v ∧
      v.answers = u.answers ++
        [(.request token (.verifyReveal cardId otp), .ok (.service (.revealed details)))] ∧
      (after.map ticks).sum + p.revealTimeLeft = 60 ∧ 0 < p.revealTimeLeft := by
  have hs : s.state.page.Reveals details p.revealTimeLeft := by
    rw [hp]
    exact ⟨hd, rfl⟩
  obtain ⟨before, k, after, u, v, token, cardId, otp, hmoves, hu, hv, hanswers, hticks, hpos⟩ :=
    run_revealed h hs
  have hmem : (ApiCall.request token (.verifyReveal cardId otp),
      .ok (.service (.revealed details))) ∈ v.answers :=
    hanswers ▸ List.mem_append_right _ List.mem_cons_self
  obtain ⟨t, ht⟩ := (browsing_kept hv).answered _ hmem
  obtain ⟨schedule, ms, d, hrefines⟩ := browsing_refines hv
  have hexpiry : CardsPage.expiry details = 60 := by
    rw [CardsPage.expiry, hrefines.revealed ht]
    rfl
  exact ⟨before, k, after, u, v, token, cardId, otp, hmoves, hu, hv, hanswers,
    hexpiry ▸ hticks, hpos⟩

end Runs

theorem demo_reveal_expires : ∃ before k after, demoMoves = before ++ .answer k :: after ∧
    (after.map ticks).sum + 58 = 60 := by
  obtain ⟨s, p, details, hrun, hpage, hdetails, hleft⟩ := demoBrowsing_revealed
  obtain ⟨before, k, after, _, _, _, _, _, hmoves, _, _, _, hticks, _⟩ :=
    reveal_expires hrun hpage hdetails
  exact ⟨before, k, after, hmoves, hleft ▸ hticks⟩

end OnlineBanking.Browser
