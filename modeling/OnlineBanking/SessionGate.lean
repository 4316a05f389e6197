import OnlineBanking.OneTimePasswords

set_option autoImplicit false

/-! The guards let requests through on live sessions of their own users only, a session that was
revoked lets nobody through again, and getSessions shows what the guards would say. -/

namespace OnlineBanking

open Library AppService

/-- `validate` accepts the payload in this world, asked with these inputs. -/
def AppWorld.Accepts (w : AppWorld) (i : AppInputs) (payload : JwtAccessPayload) : Prop :=
  ((validate payload).exec i w).1 = .ok payload

def AppWorld.Admits (w : AppWorld) (i : AppInputs) (token : Token) : Prop :=
  ((jwtAuthGuard token).exec i w).1 = .ok token.payload

structure AppWorld.Live (w : AppWorld) (payload : JwtAccessPayload) (row : AuthSession) : Prop where
  mem : row ∈ w.sessions.rows
  bound : payload.sessionId = some row.id
  user : row.userId = payload.sub
  unrevoked : row.revokedAt = none
  unexpired : w.now < row.expiresAt

/-- The session was created by a verifyMfa that signed the token for it, and before that its user
had logged in with the password. -/
def App.Established (b : App) (session : AuthSession) (token : Token) : Prop :=
  ∃ u v user dto pending otp info p q, b.threads u = some (.login dto, p) ∧
    user.email = emailNorm dto.email ∧ user.id = session.userId ∧
    b.threads v = some (.verifyMfa pending otp info, q) ∧
    List.Sublist [(u, .passwordAccepted user), (v, .sessionCreated session),
      (v, .tokenSigned token)] b.trace

section Validate

variable {w : AppWorld} {i : AppInputs} {payload : JwtAccessPayload}

lemma exec_findSession {id : Uuid} : (findSession payload id).exec i w =
    (match i.outage .sessionFind with
      | some e => .error (.service (.prisma e))
      | none => .ok (w.sessions.find id), w) := by
  cases hout : i.outage .sessionFind with
  | some e => simp [findSession, AppService.statement, Prog.atomic, Prog.exec, hout]
  | none => cases hfind : w.sessions.find id <;>
      simp [findSession, AppService.statement, Prog.atomic, Prog.exec, hout, hfind]

lemma exec_newDate : newDate.exec i w = (.ok (w.now / 1000 * 1000), w) := rfl

lemma validate_bound {id : Uuid} (hv : payload.mfaVerified = true)
    (hid : payload.sessionId = some id) :
    validate payload = findSession payload id >>= fun found =>
      match found with
      | none => throw (.unauthorized "Session is no longer active")
      | some session =>
        if session.userId ≠ payload.sub then throw (.unauthorized "Session is no longer active")
        else newDate >>= fun now =>
          if session.inactive now then throw (.unauthorized "Session is no longer active")
          else pure payload := by
  obtain ⟨sub, email, verified, sessionId⟩ := payload
  obtain rfl : verified = true := hv
  obtain rfl : sessionId = some id := hid
  rfl

lemma accepts_iff {id : Uuid} (hv : payload.mfaVerified = true)
    (hid : payload.sessionId = some id) :
    w.Accepts i payload ↔ i.outage .sessionFind = none ∧ ∃ row ∈ w.sessions.rows,
      row.id = id ∧ row.userId = payload.sub ∧ row.inactive (w.now / 1000 * 1000) = false := by
  rw [AppWorld.Accepts, validate_bound hv hid, Prog.exec_bind, exec_findSession]
  cases i.outage .sessionFind with
  | some e => simp
  | none =>
    cases hfind : w.sessions.find id with
    | none =>
      refine ⟨fun h => (by cases h), fun ⟨_, row, hrow, hid, _⟩ => absurd hid ?_⟩
      exact Table.find_eq_none.mp hfind row hrow
    | some session =>
      obtain ⟨hmem, hsession⟩ := Table.find_eq_some.mp hfind
      have honly : ∀ row ∈ w.sessions.rows, row.id = id → row = session :=
        fun row hrow hrowid => w.sessions.eq_of_key_eq hrow hmem (hrowid.trans hsession.symm)
      dsimp only
      split
      · rename_i huser
        refine ⟨fun h => (by cases h), fun ⟨_, row, hrow, hrowid, hrowuser, _⟩ =>
          absurd hrowuser ?_⟩
        exact honly row hrow hrowid ▸ huser
      · rename_i huser
        rw [Prog.exec_bind, exec_newDate]
        dsimp only
        split
        · rename_i hinactive
          refine ⟨fun h => (by cases h), fun ⟨_, row, hrow, hrowid, _, hactive⟩ => ?_⟩
          rw [honly row hrow hrowid, hinactive] at hactive
          cases hactive
        · rename_i hactive
          exact ⟨fun _ => ⟨rfl, session, hmem, hsession, not_not.mp huser, by simpa using hactive⟩,
            fun _ => rfl⟩

lemma accepts_of_admits {token : Token} (h : w.Admits i token) :
    token ∈ w.tokens ∧ w.Accepts i token.payload := by
  rw [AppWorld.Admits, jwtAuthGuard, Prog.exec_bind] at h
  by_cases hsigned : token.accepted w
  · have h : ((validate token.payload).exec i w).1 = .ok token.payload := by
      simpa [Prog.atomic, Prog.exec, hsigned] using h
    simp only [Token.accepted, Bool.and_eq_true, decide_eq_true_eq] at hsigned
    exact ⟨hsigned.1, h⟩
  · simp only [Prog.atomic, Prog.exec, hsigned] at h
    cases h

end Validate

section Steps

variable {host : Host} {t : ℕ} {c : AppCall} {i : AppInputs} {s s' : AppState}

inductive GateEffect (t : ℕ) (c : AppCall) (s s' : AppState) : Prop
  | same (sessions : s'.world.sessions = s.world.sessions)
      (tokens : s'.world.tokens = s.world.tokens)
      (created : ∀ v session, (v, .sessionCreated session) ∈ s'.trace →
        (v, .sessionCreated session) ∈ s.trace)
  | created (session : AuthSession)
      (rows : s'.world.sessions.rows = s.world.sessions.rows ++ [session])
      (tokens : s'.world.tokens = s.world.tokens)
      (trace : s'.trace = s.trace ++ [(t, .sessionCreated session)])
  | signed (token : Token) (sessions : s'.world.sessions = s.world.sessions)
      (tokens : s'.world.tokens = token :: s.world.tokens)
      (trace : s'.trace = s.trace ++ [(t, .tokenSigned token)])
  | revoked (token : Token) (row : AuthSession) (revokedAt : Instant)
      (call : c = .revokeSession token row.id)
      (passed : (t, .passed token.payload) ∈ s.trace) (found : row ∈ s.world.sessions.rows)
      (own : row.userId = token.payload.sub)
      (sessions : s'.world.sessions = s.world.sessions.modify row.id (AuthSession.revoke revokedAt))
      (tokens : s'.world.tokens = s.world.tokens) (trace : s'.trace = s.trace)

lemma AppEffect.gate (h : AppEffect host t c i s s') : GateEffect t c s s' := by
  have hother : ∀ {w : AppWorld} {es : List AppEvent}, s' = s.after t w es →
      w.sessions = s.world.sessions →
      w.tokens = s.world.tokens → (∀ session, .sessionCreated session ∉ es) →
        GateEffect t c s s' := by
    rintro w es rfl hsessions htokens hes
    refine .same hsessions htokens fun v session hm => ?_
    rcases List.mem_append.mp hm with hm | hm
    · exact hm
    · obtain ⟨x, hx, heq⟩ := List.mem_map.mp hm
      obtain ⟨rfl, rfl⟩ := Prod.mk.injEq .. ▸ heq
      exact absurd hx (hes session)
  cases h with
  | idle same => exact .same (by rw [same]) (by rw [same]) (fun _ _ hm => same ▸ hm)
  | bank _ _ v es _ after => exact hother after rfl rfl (by simp)
  | noted _ _ after => exact hother after rfl rfl (by simp)
  | cardChanged _ _ _ _ _ _ _ after => exact hother after rfl rfl (by simp)
  | cardIssued _ _ _ _ _ _ _ _ _ _ after => exact hother after rfl rfl (by simp)
  | passwordAccepted _ _ _ _ _ _ after => exact hother after rfl rfl (by simp)
  | otpStored _ _ _ _ after => exact hother after rfl rfl (by simp)
  | otpRead _ _ _ _ _ _ after => exact hother after rfl rfl (by simp)
  | otpDeleted _ _ _ _ _ after => exact hother after rfl rfl (by simp)
  | sessionCreated _ _ _ session _ _ _ _ _ _ _ _ _ inserted after =>
    subst after
    exact .created session (Table.insert_eq_some.mp inserted).2.2 rfl rfl
  | tokenSigned token _ _ after =>
    subst after
    exact .signed token rfl rfl rfl
  | sessionRead _ _ _ after => exact hother after rfl rfl (by simp)
  | sessionsListed _ _ _ after => exact hother after rfl rfl (by simp)
  | sessionRevoked token id row revokedAt call passed found own after =>
    obtain ⟨hmem, rfl⟩ := Table.find_eq_some.mp found
    subst after
    exact .revoked token row revokedAt call passed hmem own rfl rfl (by simp [Shared.after])
  | passed _ _ _ _ after => exact hother after rfl rfl (by simp)

/-- Every token was signed by a request, and every session that a request has created is still
there. -/
structure Minted (s : AppState) : Prop where
  tokens : ∀ token ∈ s.world.tokens, ∃ v, (v, .tokenSigned token) ∈ s.trace
  sessions : ∀ v session, (v, .sessionCreated session) ∈ s.trace →
    ∃ row ∈ s.world.sessions.rows, session.Becomes row

lemma Minted.after (hs : Minted s) (h : GateEffect t c s s')
    (hp : AppPersists s s') : Minted s' := by
  have htokens : ∀ token ∈ s.world.tokens, ∃ v, (v, .tokenSigned token) ∈ s'.trace := by
    intro token hm
    obtain ⟨v, hv⟩ := hs.tokens token hm
    exact ⟨v, hp.trace.subset hv⟩
  have hsessions : ∀ v session, (v, .sessionCreated session) ∈ s.trace →
      ∃ row ∈ s'.world.sessions.rows, session.Becomes row := by
    intro v session hm
    obtain ⟨row, hrow, hbecomes⟩ := hs.sessions v session hm
    obtain ⟨row', hrow', hbecomes'⟩ := hp.sessions row hrow
    exact ⟨row', hrow', hbecomes.trans hbecomes'⟩
  cases h with
  | same sessions tokens created =>
    exact ⟨tokens ▸ htokens, fun v x hm => hsessions v x (created v x hm)⟩
  | created session rows tokens trace =>
    refine ⟨tokens ▸ htokens, fun v x hm => ?_⟩
    rcases List.mem_append.mp (trace ▸ hm) with hm | hm
    · exact hsessions v x hm
    · obtain ⟨_, rfl⟩ : v = t ∧ x = session := by simpa using hm
      exact ⟨x, by simp [rows], .refl x⟩
  | signed token sessions tokens trace =>
    refine ⟨fun x hx => ?_, fun v x hm => ?_⟩
    · rcases List.mem_cons.mp (tokens ▸ hx) with rfl | hx
      · exact ⟨t, by simp [trace]⟩
      · exact htokens x hx
    · exact hsessions v x (by simpa [trace] using hm)
  | revoked token row revokedAt call passed found own sessions tokens trace =>
    exact ⟨tokens ▸ htokens, fun v x hm => hsessions v x (trace ▸ hm)⟩

lemma GateEffect.revoker (h : GateEffect t c s s') {x x' : AuthSession}
    (hx : x ∈ s.world.sessions.rows) (hx' : x' ∈ s'.world.sessions.rows) (hid : x'.id = x.id)
    (hne : x' ≠ x) :
    ∃ token, c = .revokeSession token x.id ∧ token.payload.sub = x.userId ∧
      (t, .passed token.payload) ∈ s.trace := by
  have hidle : s'.world.sessions = s.world.sessions → False :=
    fun hsame => hne (s.world.sessions.eq_of_key_eq (hsame ▸ hx') hx hid)
  cases h with
  | same sessions _ _ => exact (hidle sessions).elim
  | created session rows _ _ =>
    refine absurd ?_ hne
    exact s'.world.sessions.eq_of_key_eq hx' (rows ▸ List.mem_append_left _ hx) hid
  | signed _ sessions _ _ => exact (hidle sessions).elim
  | revoked token row revokedAt call passed found own sessions _ _ =>
    rw [sessions, Table.modify_rows] at hx'
    obtain ⟨y, hy, rfl⟩ := List.mem_map.mp hx'
    split at hid
    · rename_i hkey
      obtain rfl : y = row := s.world.sessions.eq_of_key_eq hy found hkey
      obtain rfl : y = x := s.world.sessions.eq_of_key_eq hy hx hid
      exact ⟨token, call, own.symm, passed⟩
    · rename_i hkey
      refine absurd ?_ hne
      rw [if_neg hkey]
      exact s.world.sessions.eq_of_key_eq hy hx hid

end Steps

section Runs

variable {host : Host} {w : AppWorld} {schedule : List AppAction} {b : App} {token : Token}

lemma run_minted (hw : w.tokens = []) (h : (App.start w).run host schedule = some b) :
    Minted b.shared := by
  refine ((appDiscipline host).run_invariant (P := fun d => Minted d.shared) ?_
    ((appDiscipline host).init_holds w)
    ⟨by simp [Config.init, hw], by simp [Config.init]⟩ (Discipline.meets_true _ _) h).2
  intro d l d' hd _ hminted hstep
  have hpersists := (app_grows host).step hd hstep
  rcases (appDiscipline host).step_cases hd hstep with
    ⟨_, _, _, _, hs, _⟩ | ⟨t, i, call, _, _, _, _, heffect, _, _⟩ | ⟨e, _, hs, _⟩
  · exact hs ▸ hminted
  · exact hminted.after (AppEffect.gate heffect) hpersists
  · refine hminted.after (t := 0) (c := .login ⟨"", ""⟩)
      (.same ?_ ?_ fun _ _ hm => by rwa [hs] at hm) hpersists
    · rw [hs]
      cases e <;> rfl
    · rw [hs]
      cases e <;> rfl

lemma signed_for (hw : w.tokens = []) (h : (App.start w).run host schedule = some b)
    (hm : token ∈ b.world.tokens) :
    ∃ v call p, b.threads v = some (call, p) ∧ (v, .tokenSigned token) ∈ b.trace ∧
      SignedFor v call b.shared token.payload := by
  obtain ⟨v, hv⟩ := (run_minted hw h).tokens token hm
  obtain ⟨call, p, hcall, hsigned⟩ := app_accounted h hv
  exact ⟨v, call, p, hcall, hv, hsigned⟩

lemma pending_token (hw : w.tokens = []) (h : (App.start w).run host schedule = some b)
    (hm : token ∈ b.world.tokens) (hv : token.payload.mfaVerified = false) :
    token.payload.sessionId = none ∧
      ∃ u user, (u, .passwordAccepted user) ∈ b.trace ∧ user.id = token.payload.sub := by
  obtain ⟨u, _, _, _, _, hsigned⟩ := signed_for hw h hm
  generalize token.payload = payload at hsigned hv
  cases hsigned with
  | login dto user _ accepted => exact ⟨rfl, u, user, accepted, rfl⟩
  | mfa _ _ _ => cases hv

lemma established (hw : w.tokens = []) (h : (App.start w).run host schedule = some b)
    (hm : token ∈ b.world.tokens) (hv : token.payload.mfaVerified = true) :
    ∃ session, token.payload.sessionId = some session.id ∧
      session.userId = token.payload.sub ∧ 1000 ∣ session.expiresAt ∧ b.Established session token ∧
        ∃ row ∈ b.world.sessions.rows, session.Becomes row := by
  obtain ⟨v, hsigned⟩ := (run_minted hw h).tokens token hm
  obtain ⟨ms, i, d, call, _, hms, hdb, hunsigned, hground, _⟩ := app_logged_in h hsigned
  obtain ⟨session, hcreated, hid, hsub⟩ : ∃ session, (v, .sessionCreated session) ∈ d.trace ∧
      token.payload.sessionId = some session.id ∧ session.userId = token.payload.sub := by
    have hsigned : SignedFor v call d.shared token.payload := hground
    generalize token.payload = payload at hsigned hv
    cases hsigned with
    | login _ _ _ _ => cases hv
    | mfa session _ created => exact ⟨session, created, rfl, rfl⟩
  obtain ⟨ms', i', d', call', _, hms', hdd', huncreated, hground', _⟩ := app_logged_in hms hcreated
  obtain ⟨pending, otp, info, rfl, hpending, hunverified, huser, _, hexpires⟩ := hground'
  obtain ⟨_, u, user, haccepted, huserId⟩ := pending_token hw hms' hpending hunverified
  obtain ⟨logincall, p, hlogin, dto, rfl, hemail⟩ :=
    app_accounted h (hdb.trace.subset (hdd'.trace.subset haccepted))
  obtain ⟨_, q, hcall, _, _, _, rfl, _⟩ := app_accounted h (hdb.trace.subset hcreated)
  have hcreatedAfter := sublist_concat_of_prefix (List.singleton_sublist.mpr haccepted) hdd'.trace
    hcreated huncreated
  have hsignedAfter := sublist_concat_of_prefix hcreatedAfter hdb.trace hsigned hunsigned
  exact ⟨session, hid, hsub, hexpires,
    ⟨u, v, user, dto, _, _, _, p, q, hlogin, hemail, huserId.trans huser.symm, hcall, hsignedAfter⟩,
    (run_minted hw h).sessions v session (hdb.trace.subset hcreated)⟩

lemma passed_live (hw : w.tokens = []) (h : (App.start w).run host schedule = some b) {t : ℕ}
    {payload : JwtAccessPayload} (hp : (t, .passed payload) ∈ b.trace) :
    ∃ call p token session, b.threads t = some (call, p) ∧ call.token = some token ∧
      token.payload = payload ∧
      payload.sessionId = some session.id ∧ session.userId = payload.sub ∧
        b.Established session token ∧
        ∃ ms i, ∃ d : App, ∃ row, ms ++ [.act t i] <+: schedule ∧
          (App.start w).run host ms = some d ∧
          d.world.Live payload row ∧ (t, .sessionRead payload row d.world.now) ∈ b.trace := by
  obtain ⟨call, p, hcall, token, htoken, rfl, hverified, hadmitted⟩ := app_accounted h hp
  obtain ⟨session, hid, hsub, hexpires, hestablished, last, hlast, hbecomes⟩ :=
    established hw h hadmitted.signed hverified
  obtain ⟨row, at_, hread, hrowid, hrowuser, hactive⟩ := hadmitted.live hverified _ hid
  obtain ⟨ms, i, d, _, hprefix, hms, hdb, _, _, hrow, rfl⟩ := app_logged_in h hread
  refine ⟨call, p, token, session, hcall, htoken, rfl, hid, hsub, hestablished, ms, i, d, row,
    hprefix, hms, ?_, hread⟩
  obtain ⟨hunrevoked, hunexpired⟩ : row.revokedAt = none ∧
      d.world.now / 1000 * 1000 < row.expiresAt := by
    simpa [AuthSession.inactive] using hactive
  -- the row read and the row created are one in the end
  obtain ⟨row', hrow', hlater⟩ := hdb.sessions row hrow
  have hsame : row' = last := b.world.sessions.eq_of_key_eq hrow' hlast
    (hlater.id.trans (hrowid.trans hbecomes.id.symm))
  have hexpiresAt : row.expiresAt = session.expiresAt :=
    hlater.expiresAt.symm.trans ((congrArg AuthSession.expiresAt hsame).trans hbecomes.expiresAt)
  refine ⟨hrow, hrowid ▸ hid, hrowuser, hunrevoked, ?_⟩
  obtain ⟨k, hk⟩ := hexpires
  have hcut : ∀ n : ℕ, n / 1000 * 1000 < 1000 * k → n < 1000 * k := by omega
  exact hexpiresAt ▸ hk ▸ hcut _ (hk ▸ hexpiresAt ▸ hunexpired)

lemma not_admits (hw : w.tokens = []) (h : (App.start w).run host schedule = some b)
    {row : AuthSession} (hrow : row ∈ b.world.sessions.rows) (hrevoked : row.revokedAt.isSome)
    (i : AppInputs) (hid : token.payload.sessionId = some row.id) : ¬ b.world.Admits i token := by
  intro hadmits
  obtain ⟨hm, haccepts⟩ := accepts_of_admits hadmits
  cases hv : token.payload.mfaVerified with
  | false => simp [(pending_token hw h hm hv).1] at hid
  | true =>
    obtain ⟨_, x, hx, hxid, _, hactive⟩ := (accepts_iff hv hid).mp haccepts
    obtain rfl : x = row := b.world.sessions.eq_of_key_eq hx hrow hxid
    simp [AuthSession.inactive, hrevoked] at hactive

/-- What a row of getSessions says about the tokens of its session, at the time it looked at the
clock. -/
def AppWorld.Shows (w : AppWorld) (listedAt answeredAt : Instant) (row : AuthSession)
    (view : SessionView) : Prop :=
  view.id = row.id ∧ ∃ now, listedAt ≤ now ∧ now ≤ answeredAt ∧
    ∀ (payload : JwtAccessPayload) (i : AppInputs),
    payload.mfaVerified = true → payload.sessionId = some row.id → payload.sub = row.userId →
      i.outage .sessionFind = none →
        (view.isActive = true ↔ AppWorld.Accepts { w with now := now } i payload)

lemma shows_of_viewed {w : AppWorld} {s : AppState} {current : Option Uuid} {listedAt : Instant}
    {row : AuthSession} {view : SessionView} (hrow : row ∈ w.sessions.rows)
    (h : Viewed current listedAt s row view) :
    w.Shows listedAt s.world.now row view := by
  obtain ⟨now, hle, hnow, rfl⟩ := h
  refine ⟨rfl, now, hle, hnow, fun payload i hv hid hsub hi => ?_⟩
  rw [accepts_iff hv hid]
  simp only [AuthSession.view, Bool.not_eq_true']
  constructor
  · exact fun hactive => ⟨hi, row, hrow, rfl, hsub.symm, hactive⟩
  · intro haccepts
    obtain ⟨x, hx, hxid, _, hactive⟩ := haccepts.2
    obtain rfl : x = row := w.sessions.eq_of_key_eq hx hrow hxid
    exact hactive

/-- The guards let a request through only on a live session of its user that a login and a verifyMfa
have set up; once revokeSession has answered its session lets nobody in again, and only its own user
can have asked; and getSessions shows of each session of the user whether `validate` accepts it. -/
theorem session_gate (hw : w.tokens = []) (h : (App.start w).run host schedule = some b) :
    (∀ t payload, (t, .passed payload) ∈ b.trace →
      ∃ call p token session, b.threads t = some (call, p) ∧
      call.token = some token ∧ token.payload = payload ∧ payload.sessionId = some session.id ∧
        session.userId = payload.sub ∧ b.Established session token ∧
          ∃ ms i, ∃ d : App, ∃ row, ms ++ [.act t i] <+: schedule ∧
            (App.start w).run host ms = some d ∧
            d.world.Live payload row ∧ (t, .sessionRead payload row d.world.now) ∈ b.trace) ∧
    (∀ t token id view ns e token' i,
      b.threads t = some (.revokeSession token id, .done (.ok (.revoked view))) →
        b.run host ns = some e → token'.payload.sessionId = some id →
          ¬ e.world.Admits i token') ∧
    (∀ l b' x x', b.step host l = some b' → x ∈ b.world.sessions.rows →
      x' ∈ b'.world.sessions.rows → x'.id = x.id → x' ≠ x → ∃ t i token p, l = .act t i ∧
        b.threads t = some (.revokeSession token x.id, p) ∧ token.payload.sub = x.userId ∧
          (t, .passed token.payload) ∈ b.trace) ∧
    ∀ t token views, b.threads t = some (.getSessions token, .done (.ok (.sessions views))) →
      ∃ ms i, ∃ d : App, ∃ rows, ms ++ [.act t i] <+: schedule ∧
        (App.start w).run host ms = some d ∧
        (∀ x, x ∈ rows ↔ x ∈ d.world.sessions.rows ∧ x.userId = token.payload.sub) ∧
          List.Forall₂ (d.world.Shows d.world.now b.world.now) rows views := by
  have hb := (appDiscipline host).holds_of_run ((appDiscipline host).init_holds w) h
  refine ⟨fun t payload hp => passed_live hw h hp, ?_, ?_, ?_⟩
  · intro t token id view ns e token' i ht he hid
    obtain ⟨_, _, hcall, row, hrow, rfl, hrevoked⟩ := (appDiscipline host).post_of_done hb ht _ rfl
    obtain ⟨rfl, rfl⟩ : token = _ ∧ id = row.id := by simpa using hcall
    obtain ⟨row', hrow', hlater⟩ := ((app_grows host).run hb he).sessions row hrow
    have hrun : (App.start w).run host (schedule ++ ns) = some e := (Config.run_after h).trans he
    exact not_admits hw hrun hrow' (hlater.revoked hrevoked) i
      (hid.trans (congrArg some hlater.id.symm))
  · intro l b' x x' hstep hx hx' hid hne
    have hsame : b'.world.sessions = b.world.sessions → False :=
      fun hsame => hne (b.world.sessions.eq_of_key_eq (hsame ▸ hx') hx hid)
    rcases (appDiscipline host).step_cases hb hstep with
      ⟨_, _, _, _, hs, _⟩ | ⟨t, i, call, p, _, hl, hcall, heffect, _, _⟩ | ⟨e, _, hs, _⟩
    · exact (hsame (by rw [App.world, hs])).elim
    · obtain ⟨token, rfl, hsub, hpassed⟩ := (AppEffect.gate heffect).revoker hx hx' hid hne
      exact ⟨t, i, token, p, hl, hcall, hsub, hpassed⟩
    · refine (hsame ?_).elim
      rw [App.world, hs]
      cases e <;> rfl
  · intro t token views ht
    obtain ⟨_, rows, at_, hcall, hlisted, hviews⟩ := (appDiscipline host).post_of_done hb ht _ rfl
    obtain rfl : token = _ := by simpa using hcall
    obtain ⟨ms, i, d, _, hprefix, hms, _, _, _, hrows, rfl⟩ := app_logged_in h hlisted
    refine ⟨ms, i, d, rows, hprefix, hms, hrows, ?_⟩
    have hmem : ∀ row ∈ rows, row ∈ d.world.sessions.rows := fun row hrow => ((hrows row).mp hrow).1
    exact ((List.forall₂_and_left rows views).mpr ⟨hmem, hviews⟩).imp fun row view hview =>
      shows_of_viewed hview.1 hview.2

end Runs

def demoAccessToken : Token where
  payload := {
    sub := demoIds .user, email := "demo@bank.local", mfaVerified := true, sessionId :=
      some (.numbered 6999) }
  iat := 0
  exp := 900

def demoSessionSchedule : List AppAction :=
  demoLoginSchedule ++ demoSolo 2 4 (.guarded demoAccessToken) ++ demoSolo 3 6
    (.getSessions demoAccessToken) ++
    demoSolo 4 8 (.revokeSession demoAccessToken (.numbered 6999))

def AppEvent.isPassed (payload : JwtAccessPayload) : AppEvent → Bool
  | .passed payload' => payload' = payload
  | _ => false

def App.revokedView (b : App) (t : ℕ) : Option SessionView :=
  match b.threads t with
  | some (.revokeSession token sessionId, .done (.ok (.revoked view))) =>
    if token = demoAccessToken ∧ sessionId = .numbered 6999 then some view else none
  | _ => none

theorem demo_session_gate : ∃ b, (App.start demoAppWorld).run demoHost demoSessionSchedule =
    some b ∧
    (∃ token session, token.payload = demoAccessToken.payload ∧ b.Established session token) ∧
      ∀ i token, token.payload.sessionId = some (.numbered 6999) → ¬ b.world.Admits i token := by
  have hrun : ((App.start demoAppWorld).run demoHost demoSessionSchedule).map (fun b =>
      (b.trace.any fun e => e.1 = 2 && e.2.isPassed demoAccessToken.payload,
        (b.revokedView 4).isSome)) =
      some (true, true) := by decide +kernel
  obtain ⟨b, hb, hend⟩ := Option.map_eq_some_iff.mp hrun
  obtain ⟨hpassed, hrevoked⟩ := Prod.mk.injEq .. ▸ hend
  obtain ⟨hlive, hclosed, -⟩ := session_gate rfl hb
  refine ⟨b, hb, ?_, fun i token hid => ?_⟩
  · obtain ⟨⟨t, e⟩, hm, he⟩ := List.any_eq_true.mp hpassed
    cases e with
    | passed payload =>
      obtain ⟨rfl, rfl⟩ : t = 2 ∧ payload = demoAccessToken.payload := by
        simpa [AppEvent.isPassed] using he
      obtain ⟨_, _, token, session, _, _, hpayload, _, _, hestablished, _⟩ := hlive _ _ hm
      exact ⟨token, session, hpayload, hestablished⟩
    | _ => simp [AppEvent.isPassed] at he
  · obtain ⟨view, hview⟩ := Option.isSome_iff_exists.mp hrevoked
    simp only [App.revokedView] at hview
    split at hview
    · rename_i ht
      split_ifs at hview with hcall
      obtain ⟨rfl, rfl⟩ := hcall
      exact hclosed _ _ _ _ [] b token i ht rfl hid
    · cases hview

end OnlineBanking
