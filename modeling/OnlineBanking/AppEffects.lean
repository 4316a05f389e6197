import OnlineBanking.AllThreads
import OnlineBanking.App

set_option autoImplicit false

/-! What one action of a request does to the backend, and what the other requests may rely on. -/

namespace OnlineBanking

open Library

def ownAppTrace (t : ℕ) (s : AppState) : List (ℕ × AppEvent) := s.trace.filter fun e => e.1 = t

def AppEvent.IsOtpRead : AppEvent → Prop
  | .otpRead _ _ _ => True
  | _ => False

inductive CardChange : AppCall → Uuid → Uuid → Patch Card → Prop
  | block (userId cardId : Uuid) (now : Instant) :
    CardChange (.blockCard userId cardId) userId cardId (Card.block now)
  | unblock (userId cardId : Uuid) :
    CardChange (.unblockCard userId cardId) userId cardId Card.unblock
  | close (userId cardId : Uuid) (now : Instant) :
    CardChange (.closeCard userId cardId) userId cardId (Card.close now)

def Owns (s : AppState) (userId customerId : Uuid) : Prop :=
  ∃ profile ∈ s.world.db.customerProfiles.rows, profile.id = customerId ∧ profile.userId = userId

inductive Issues (t : ℕ) (s : AppState) : AppCall → String → ℕ → Prop
  | login (dto : LoginDto) (user : User) (email : user.email = emailNorm dto.email)
      (accepted : (t, .passwordAccepted user) ∈ s.trace) :
    Issues t s (.login dto) (mfaKey user.id) (mfaOtpTtlSeconds * 1000 * 1000)
  | reveal (userId cardId : Uuid) :
    Issues t s (.initiateReveal userId cardId) (revealKey userId cardId) revealTtl

/-- The call is answered under the key if it presents the password that stands there. -/
inductive Presents : AppCall → String → String → Prop
  | mfa (token : Token) (otp : String) (info : RequestMeta) :
    Presents (.verifyMfa token otp info) (mfaKey token.payload.sub) otp
  | reveal (userId cardId : Uuid) (otp : String) :
    Presents (.verifyReveal userId cardId otp) (revealKey userId cardId) otp

def Consumed (t : ℕ) (key otp : String) (s : AppState) : Prop :=
  ∃ at_, List.Sublist [(t, AppEvent.otpRead key otp at_), (t, .otpDeleted key)] s.trace

def AppCall.token : AppCall → Option Token
  | .verifyMfa token _ _ => some token
  | .getSessions token => some token
  | .revokeSession token _ => some token
  | .guarded token => some token
  | _ => none

/-- The token is one that JwtAuthGuard lets through for thread `t`: a session it is bound to was
seen alive. -/
structure Admitted (t : ℕ) (s : AppState) (token : Token) : Prop where
  signed : token ∈ s.world.tokens
  live : token.payload.mfaVerified = true → ∀ id, token.payload.sessionId = some id →
    ∃ session at_, (t, .sessionRead token.payload session at_) ∈ s.trace ∧ session.id = id ∧
      session.userId = token.payload.sub ∧ session.inactive (at_ / 1000 * 1000) = false

section Effects

variable (host : Host) (t : ℕ) (c : AppCall) (i : AppInputs)

inductive SignedFor (s : AppState) : JwtAccessPayload → Prop
  | login (dto : LoginDto) (user : User) (call : c = .login dto)
      (accepted : (t, .passwordAccepted user) ∈ s.trace) :
    SignedFor s { sub := user.id, email := user.email, mfaVerified := false }
  | mfa (session : AuthSession) (email : String)
    (created : (t, .sessionCreated session) ∈ s.trace) :
    SignedFor s { sub := session.userId, email, mfaVerified := true, sessionId := some session.id }

inductive AppEffect (s s' : AppState) : Prop
  | idle (same : s' = s)
  | bank (call : Call) (is_call : c = .bank call) (v : World) (es : List Event)
      (effect : Effect host.sha256 t call i.toInputs (bankPart.shared s)
        ((bankPart.shared s).after t v es))
      (after : s' = s.after t (bankPart.put v s.world) (es.map .bank))
  | noted (e : Environment) (rows : ∀ n, e ≠ .tick n)
      (after : s' = s.after t (bankPart.put (environment e s.world.toWorld) s.world) [])
  | cardChanged (userId id : Uuid) (f : Patch Card) (card : Card)
      (change : CardChange c userId id f)
      (found : s.world.cards.find id = some card) (owner : Owns s userId card.customerId)
      (after : s' = s.after t { s.world with cards := s.world.cards.modify id f } [])
  | cardIssued (userId : Uuid) (dto : IssueCardDto) (card : Card) (cards : Table Card)
      (call : c = .issueCard userId dto) (inserted : s.world.cards.insert card = some cards)
      (active : card.status = .active) (unblocked : card.blockedAt = none)
      (unclosed : card.closedAt = none)
      (owner : Owns s userId card.customerId) (after : s' = s.after t { s.world with cards } [])
  | passwordAccepted (dto : LoginDto) (user : User) (credential : Credential)
      (call : c = .login dto)
      (email : user.email = emailNorm dto.email)
      (ok : host.bcryptCompare dto.password credential.passwordHash = true)
      (after : s' = s.after t s.world [.passwordAccepted user])
  | otpStored (key otp : String) (ttl : ℕ) (issues : Issues t s c key ttl)
      (after : s' = s.after t { s.world with otps := s.world.otps.set key otp (s.world.now + ttl) }
        [.otpStored key otp (s.world.now + ttl)])
  | otpRead (key presented otp : String) (presents : Presents c key presented)
      (first : ∀ e, (t, e) ∈ s.trace → ¬ e.IsOtpRead)
      (found : s.world.otps.get key s.world.now = some otp)
      (after : s' = s.after t s.world [.otpRead key otp s.world.now])
  | otpDeleted (key otp : String) (presents : Presents c key otp) (at_ : Instant)
      (read : (t, .otpRead key otp at_) ∈ s.trace)
      (after : s' = s.after t { s.world with otps := s.world.otps.del key } [.otpDeleted key])
  | sessionCreated (token : Token) (otp : String) (info : RequestMeta) (session : AuthSession)
      (sessions : Table AuthSession) (call : c = .verifyMfa token otp info)
      (admitted : token ∈ s.world.tokens)
      (pending : token.payload.mfaVerified = false) (sub : session.userId = token.payload.sub)
      (consumed : Consumed t (mfaKey session.userId) otp s)
      (first : ∀ x, (t, .sessionCreated x) ∉ s.trace) (unrevoked : session.revokedAt = none)
      (milliseconds : 1000 ∣ session.expiresAt)
      (inserted : s.world.sessions.insert session = some sessions)
      (after : s' = s.after t { s.world with sessions } [.sessionCreated session])
  | tokenSigned (token : Token) (signed : SignedFor t c s token.payload)
      (first : ∀ x, (t, .tokenSigned x) ∉ s.trace)
      (after : s' = s.after t { s.world with tokens := token :: s.world.tokens }
        [.tokenSigned token])
  | sessionRead (payload : JwtAccessPayload) (session : AuthSession)
      (found : s.world.sessions.find session.id = some session)
      (after : s' = s.after t s.world [.sessionRead payload session s.world.now])
  | sessionsListed (userId : Uuid) (rows : List AuthSession)
      (listed : ∀ x, x ∈ rows ↔ x ∈ s.world.sessions.rows ∧ x.userId = userId)
      (after : s' = s.after t s.world [.sessionsListed userId rows s.world.now])
  | sessionRevoked (token : Token) (id : Uuid) (row : AuthSession) (revokedAt : Instant)
      (call : c = .revokeSession token id) (passed : (t, .passed token.payload) ∈ s.trace)
      (found : s.world.sessions.find id = some row) (own : row.userId = token.payload.sub)
      (after : s' = s.after t
        { s.world with sessions := s.world.sessions.modify id (AuthSession.revoke revokedAt) } [])
  | passed (token : Token) (call : c.token = some token)
      (verified : token.payload.mfaVerified = true)
      (admitted : Admitted t s token) (after : s' = s.after t s.world [.passed token.payload])

end Effects

structure AuthSession.Becomes (x x' : AuthSession) : Prop where
  id : x'.id = x.id
  userId : x'.userId = x.userId
  expiresAt : x'.expiresAt = x.expiresAt
  revoked : x.revokedAt.isSome → x'.revokedAt.isSome

structure AppPersists (s s' : AppState) : Prop where
  bank : Persists (bankPart.shared s) (bankPart.shared s')
  trace : s.trace <+: s'.trace
  now : s.world.now ≤ s'.world.now
  tokens : s.world.tokens ⊆ s'.world.tokens
  cards : ∀ x ∈ s.world.cards.rows, ∃ x' ∈ s'.world.cards.rows, x'.id = x.id ∧
    x'.customerId = x.customerId
  sessions : ∀ x ∈ s.world.sessions.rows, ∃ x' ∈ s'.world.sessions.rows, x.Becomes x'

structure AppRely (t : ℕ) (s s' : AppState) : Prop extends AppPersists s s' where
  own : ownAppTrace t s' = ownAppTrace t s

structure AppLogs (t : ℕ) (es : List AppEvent) (s s' : AppState) :
    Prop extends AppPersists s s' where
  own : ownAppTrace t s' = ownAppTrace t s ++ es.map (t, ·)

section Stability

variable {t u : ℕ} {s s' s'' : AppState}

protected lemma AuthSession.Becomes.refl (x : AuthSession) : x.Becomes x :=
  ⟨rfl, rfl, rfl, fun h => h⟩

protected lemma AuthSession.Becomes.trans {x y z : AuthSession} (h : x.Becomes y)
    (h' : y.Becomes z) : x.Becomes z :=
  ⟨h'.id.trans h.id, h'.userId.trans h.userId, h'.expiresAt.trans h.expiresAt, fun hx =>
    h'.revoked (h.revoked hx)⟩

protected lemma AppPersists.refl (s : AppState) : AppPersists s s :=
  ⟨.refl _, List.prefix_refl _, le_rfl, fun _ h => h, fun x hx => ⟨x, hx, rfl, rfl⟩,
    fun x hx => ⟨x, hx, .refl x⟩⟩

protected lemma AppPersists.trans (h : AppPersists s s') (h' : AppPersists s' s'') :
    AppPersists s s'' := by
  refine ⟨h.bank.trans h'.bank, h.trace.trans h'.trace, h.now.trans h'.now, fun _ hx =>
    h'.tokens (h.tokens hx),
    fun x hx => ?_, fun x hx => ?_⟩
  · obtain ⟨y, hy, hyi, hyc⟩ := h.cards x hx
    obtain ⟨z, hz, hzi, hzc⟩ := h'.cards y hy
    exact ⟨z, hz, hzi.trans hyi, hzc.trans hyc⟩
  · obtain ⟨y, hy, hxy⟩ := h.sessions x hx
    obtain ⟨z, hz, hyz⟩ := h'.sessions y hy
    exact ⟨z, hz, hxy.trans hyz⟩

protected lemma AppRely.refl (t : ℕ) (s : AppState) : AppRely t s s := ⟨.refl s, rfl⟩

protected lemma AppRely.trans (h : AppRely t s s') (h' : AppRely t s' s'') : AppRely t s s'' :=
  ⟨h.toAppPersists.trans h'.toAppPersists, h'.own.trans h.own⟩

lemma mem_ownAppTrace {e : AppEvent} : (t, e) ∈ ownAppTrace t s ↔ (t, e) ∈ s.trace := by
  simp [ownAppTrace]

lemma AppRely.mem (h : AppRely t s s') {e : AppEvent} (he : (t, e) ∈ s.trace) : (t, e) ∈ s'.trace :=
  h.trace.subset he

lemma AppRely.mem_iff (h : AppRely t s s') {e : AppEvent} :
    (t, e) ∈ s'.trace ↔ (t, e) ∈ s.trace := by
  rw [← mem_ownAppTrace, h.own, mem_ownAppTrace]

lemma AppRely.logs (h : AppRely t s s') : AppLogs t [] s s' :=
  ⟨h.toAppPersists, by simpa using h.own⟩

protected lemma AppLogs.trans {es fs : List AppEvent} (h : AppLogs t es s s')
    (h' : AppLogs t fs s' s'') :
    AppLogs t (es ++ fs) s s'' :=
  ⟨h.toAppPersists.trans h'.toAppPersists,
    by rw [h'.own, h.own, List.map_append, List.append_assoc]⟩

lemma AppLogs.mem {es : List AppEvent} (h : AppLogs t es s s') {e : AppEvent} (he : e ∈ es) :
    (t, e) ∈ s'.trace := by
  rw [← mem_ownAppTrace, h.own]
  exact List.mem_append_right _ (List.mem_map_of_mem he)

lemma AppLogs.mem_iff {es : List AppEvent} (h : AppLogs t es s s') (hs : ownAppTrace t s = [])
    {e : AppEvent} :
    (t, e) ∈ s'.trace ↔ e ∈ es := by
  rw [← mem_ownAppTrace, h.own, hs]
  simp

lemma ownTrace_shared (t : ℕ) (s : AppState) : ownTrace t (bankPart.shared s) =
    (ownAppTrace t s).filterMap fun e => (bankPart.ofEvent e.2).map (e.1, ·) := by
  simp only [ownTrace, ownAppTrace, Part.shared]
  induction s.trace with
  | nil => rfl
  | cons e es ih =>
    by_cases he : e.1 = t
    · cases h : bankPart.ofEvent e.2 with
      | none => simp [h, he, ih]
      | some b => simp [h, he, ih]
    · cases h : bankPart.ofEvent e.2 with
      | none => simp [h, he, ih]
      | some b => simp [h, he, ih]

lemma AppRely.bankRely (h : AppRely t s s') : Rely t (bankPart.shared s) (bankPart.shared s') :=
  ⟨h.bank, by rw [ownTrace_shared, ownTrace_shared, h.own]⟩

lemma Owns.persists {userId customerId : Uuid} (h : Owns s userId customerId)
    (hs : AppPersists s s') :
    Owns s' userId customerId := by
  obtain ⟨p, hp, hi, hu⟩ := h
  obtain ⟨p', hp', hi', hu'⟩ := hs.bank.profiles p hp
  exact ⟨p', hp', hi'.trans hi, hu'.trans hu⟩

lemma Admitted.persists {token : Token} (h : Admitted t s token) (hs : AppPersists s s') :
    Admitted t s' token := by
  refine ⟨hs.tokens h.signed, fun hv id hid => ?_⟩
  obtain ⟨session, at_, hread, rest⟩ := h.live hv id hid
  exact ⟨session, at_, hs.trace.subset hread, rest⟩

lemma AppLogs.consumed {es : List AppEvent} {key otp : String} {at_ : Instant}
    (h : AppLogs t es s s') (hes : List.Sublist [.otpRead key otp at_, .otpDeleted key] es) :
    Consumed t key otp s' := by
  have hown : List.Sublist (es.map (t, ·)) (ownAppTrace t s') :=
    h.own ▸ List.sublist_append_right _ _
  exact ⟨at_, ((hes.map (t, ·)).trans hown).trans List.filter_sublist⟩

lemma Consumed.persists {key otp : String} (h : Consumed t key otp s) (hs : AppPersists s s') :
    Consumed t key otp s' := by
  obtain ⟨at_, hsub⟩ := h
  exact ⟨at_, hsub.trans hs.trace.sublist⟩

end Stability

lemma environment_now {e : Environment} (h : ∀ n, e ≠ .tick n) (w : World) :
    (environment e w).now = w.now := by
  cases e with
  | tick n => exact absurd rfl (h n)
  | audit event =>
    dsimp only [environment]
    split <;> rfl
  | cardNotice notice => rfl

lemma Effect.now {sha256 : String → String} {t : ℕ} {c : Call} {i : Inputs} {s s' : State}
    (h : Effect sha256 t c i s s') : s'.world.now = s.world.now := by
  cases h with
  | idle same => rw [same]
  | challengeStored _ _ _ _ _ world _ => rw [world]
  | challengeRead _ _ _ _ _ _ _ world _ => rw [world]
  | challengeDeleted _ _ _ _ world _ => rw [world]
  | replayed _ _ _ _ _ _ _ _ _ _ world _ => rw [world]
  | posted _ _ _ _ _ _ _ _ _ _ world _ => rw [world]
  | withdrawn _ _ _ _ _ _ _ _ world _ => rw [world]
  | credited _ _ _ _ _ _ _ _ _ _ world _ => rw [world]
  | creditWithdrawn _ _ _ _ _ _ _ _ _ _ world _ => rw [world]
  | kept _ _ _ world _ => rw [world]

lemma AppPersists.of_bank {t : ℕ} {s : AppState} {v : World} {es : List AppEvent}
    (hbank : Persists (bankPart.shared s) (bankPart.shared (s.after t (bankPart.put v s.world) es)))
    (hnow : s.world.now ≤ v.now) : AppPersists s (s.after t (bankPart.put v s.world) es) :=
  ⟨hbank, List.prefix_append _ _, hnow, fun _ h => h, fun x hx => ⟨x, hx, rfl, rfl⟩, fun x hx =>
    ⟨x, hx, .refl x⟩⟩

lemma bank_shared_after (t : ℕ) (s : AppState) (w : AppWorld) {es : List AppEvent}
    (hes : ∀ e ∈ es, e.bank? = none) :
    bankPart.shared (s.after t w es) = ⟨w.toWorld, (bankPart.shared s).trace⟩ := by
  have hnone : (es.map (t, ·)).filterMap (fun e => (bankPart.ofEvent e.2).map (e.1, ·)) = [] := by
    rw [List.filterMap_eq_nil_iff]
    intro e he
    obtain ⟨x, hx, rfl⟩ := List.mem_map.mp he
    simp [bankPart, hes x hx]
  simp only [Part.shared, Shared.after, List.filterMap_append, hnone, List.append_nil]
  rfl

lemma AppPersists.of_same {t : ℕ} {s : AppState} {w : AppWorld} {es : List AppEvent}
    (hes : ∀ e ∈ es, e.bank? = none) (hw : w.toWorld = s.world.toWorld)
    (htokens : s.world.tokens ⊆ w.tokens)
    (hcards : ∀ x ∈ s.world.cards.rows, ∃ x' ∈ w.cards.rows, x'.id = x.id ∧
      x'.customerId = x.customerId)
    (hsessions : ∀ x ∈ s.world.sessions.rows, ∃ x' ∈ w.sessions.rows, x.Becomes x') :
    AppPersists s (s.after t w es) := by
  have hshared : bankPart.shared (s.after t w es) = bankPart.shared s := by
    rw [bank_shared_after t s w hes, hw]
    rfl
  refine ⟨hshared ▸ .refl _, List.prefix_append _ _, ?_, htokens, hcards, hsessions⟩
  exact le_of_eq (congrArg World.now hw).symm

section Guarantee

variable {host : Host} {t u : ℕ} {c : AppCall} {i : AppInputs} {s s' : AppState}

theorem AppEffect.persists (h : AppEffect host t c i s s') : AppPersists s s' := by
  have hcards : ∀ x ∈ s.world.cards.rows, ∃ x' ∈ s.world.cards.rows, x'.id = x.id ∧
      x'.customerId = x.customerId :=
    fun x hx => ⟨x, hx, rfl, rfl⟩
  have hsessions : ∀ x ∈ s.world.sessions.rows, ∃ x' ∈ s.world.sessions.rows, x.Becomes x' :=
    fun x hx => ⟨x, hx, .refl x⟩
  have htokens : s.world.tokens ⊆ s.world.tokens := fun _ h => h
  cases h with
  | idle same => exact same ▸ .refl s
  | bank call is_call v es effect after =>
    subst after
    refine .of_bank ?_ (le_of_eq effect.now.symm)
    have h := effect.persists
    rwa [← Part.shared_action bankPart (fun _ _ => ((), v, es)) i t s] at h
  | noted e rows after =>
    subst after
    refine .of_bank ?_ (le_of_eq (environment_now rows _).symm)
    rw [bank_shared_after t s _ (by simp)]
    exact Persists.of_kept (environment_kept e s.world.toWorld)
  | cardChanged userId id f card change found owner after =>
    subst after
    refine .of_same (by simp) rfl htokens (fun x hx => ⟨_, List.mem_map_of_mem hx, ?_⟩) hsessions
    cases change <;> (dsimp only; split <;> exact ⟨rfl, rfl⟩)
  | cardIssued userId dto card cards call inserted active unblocked unclosed owner after =>
    subst after
    refine .of_same (by simp) rfl htokens (fun x hx => ⟨x, ?_, rfl, rfl⟩) hsessions
    exact (Table.insert_eq_some.mp inserted).2.2 ▸ List.mem_append_left _ hx
  | passwordAccepted dto user credential call email ok after =>
    exact after ▸ .of_same (by simp [AppEvent.bank?]) rfl htokens hcards hsessions
  | otpStored key otp ttl issues after =>
    exact after ▸ .of_same (by simp [AppEvent.bank?]) rfl htokens hcards hsessions
  | otpRead key presented otp presents first found after =>
    exact after ▸ .of_same (by simp [AppEvent.bank?]) rfl htokens hcards hsessions
  | otpDeleted key otp presents at_ read after =>
    exact after ▸ .of_same (by simp [AppEvent.bank?]) rfl htokens hcards hsessions
  | sessionCreated token otp info session sessions call admitted pending sub consumed first
    unrevoked ms inserted after =>
    subst after
    refine .of_same (by simp [AppEvent.bank?]) rfl htokens hcards fun x hx => ⟨x, ?_, .refl x⟩
    exact (Table.insert_eq_some.mp inserted).2.2 ▸ List.mem_append_left _ hx
  | tokenSigned token signed first after =>
    exact after ▸ .of_same (by simp [AppEvent.bank?]) rfl (List.subset_cons_self _ _)
      hcards hsessions
  | sessionRead payload session found after =>
    exact after ▸ .of_same (by simp [AppEvent.bank?]) rfl htokens hcards hsessions
  | sessionsListed userId rows listed after =>
    exact after ▸ .of_same (by simp [AppEvent.bank?]) rfl htokens hcards hsessions
  | sessionRevoked token id row revokedAt call passed found own after =>
    subst after
    refine .of_same (by simp) rfl htokens hcards fun x hx => ⟨_, List.mem_map_of_mem hx, ?_⟩
    dsimp only
    split
    · exact ⟨rfl, rfl, rfl, fun _ => rfl⟩
    · exact .refl x
  | passed token call verified admitted after =>
    exact after ▸ .of_same (by simp [AppEvent.bank?]) rfl htokens hcards hsessions

lemma AppEffect.after (h : AppEffect host t c i s s') : ∃ w es, s' = s.after t w es := by
  cases h with
  | idle same => exact ⟨s.world, [], by simp [same, Shared.after]⟩
  | bank _ _ _ _ _ after => exact ⟨_, _, after⟩
  | noted _ _ after => exact ⟨_, _, after⟩
  | cardChanged _ _ _ _ _ _ _ after => exact ⟨_, _, after⟩
  | cardIssued _ _ _ _ _ _ _ _ _ _ after => exact ⟨_, _, after⟩
  | passwordAccepted _ _ _ _ _ _ after => exact ⟨_, _, after⟩
  | otpStored _ _ _ _ after => exact ⟨_, _, after⟩
  | otpRead _ _ _ _ _ _ after => exact ⟨_, _, after⟩
  | otpDeleted _ _ _ _ _ after => exact ⟨_, _, after⟩
  | sessionCreated _ _ _ _ _ _ _ _ _ _ _ _ _ _ after => exact ⟨_, _, after⟩
  | tokenSigned _ _ _ after => exact ⟨_, _, after⟩
  | sessionRead _ _ _ after => exact ⟨_, _, after⟩
  | sessionsListed _ _ _ after => exact ⟨_, _, after⟩
  | sessionRevoked _ _ _ _ _ _ _ _ after => exact ⟨_, _, after⟩
  | passed _ _ _ _ after => exact ⟨_, _, after⟩

lemma AppEffect.logs {w : AppWorld} {es : List AppEvent}
    (h : AppEffect host t c i s (s.after t w es)) :
    AppLogs t es s (s.after t w es) := by
  have hall : (es.map (t, ·)).filter (fun e => e.1 = t) = es.map (t, ·) := by
    rw [List.filter_eq_self]
    intro e he
    obtain ⟨x, _, rfl⟩ := List.mem_map.mp he
    simp
  refine ⟨h.persists, ?_⟩
  rw [ownAppTrace, Shared.after, List.filter_append, hall]
  rfl

lemma AppEffect.rely (h : AppEffect host t c i s s') (hu : u ≠ t) : AppRely u s s' := by
  refine ⟨h.persists, ?_⟩
  obtain ⟨w, es, rfl⟩ := h.after
  have hnone : (es.map (t, ·)).filter (fun e => e.1 = u) = [] := by
    rw [List.filter_eq_nil_iff]
    intro e he
    obtain ⟨x, _, rfl⟩ := List.mem_map.mp he
    simpa using hu.symm
  simp only [ownAppTrace, Shared.after, List.filter_append, hnone, List.append_nil]

def EventGround (t : ℕ) (c : AppCall) : AppEvent → AppState → Prop
  | .passwordAccepted user, _ => ∃ dto, c = .login dto ∧ user.email = emailNorm dto.email
  | .otpStored key _ _, s => ∃ ttl, Issues t s c key ttl
  | .sessionCreated session, s =>
    ∃ token otp info, c = .verifyMfa token otp info ∧ token ∈ s.world.tokens ∧
      token.payload.mfaVerified = false ∧ session.userId = token.payload.sub ∧
        Consumed t (mfaKey session.userId) otp s ∧ 1000 ∣ session.expiresAt
  | .tokenSigned token, s => SignedFor t c s token.payload
  | .passed payload, s => ∃ token, c.token = some token ∧ token.payload = payload ∧
      payload.mfaVerified = true ∧ Admitted t s token
  | _, _ => True

lemma Issues.persists {key : String} {ttl : ℕ} (h : Issues t s c key ttl) (hs : AppPersists s s') :
    Issues t s' c key ttl := by
  cases h with
  | login dto user email accepted => exact .login dto user email (hs.trace.subset accepted)
  | reveal userId cardId => exact .reveal userId cardId

lemma SignedFor.persists {payload : JwtAccessPayload} (h : SignedFor t c s payload)
    (hs : AppPersists s s') :
    SignedFor t c s' payload := by
  cases h with
  | login dto user call accepted => exact .login dto user call (hs.trace.subset accepted)
  | mfa session email created => exact .mfa session email (hs.trace.subset created)

lemma EventGround.persists {e : AppEvent} (hs : AppPersists s s') (h : EventGround t c e s) :
    EventGround t c e s' := by
  cases e with
  | passwordAccepted user => exact h
  | otpStored key otp expiresAt =>
    obtain ⟨ttl, hissues⟩ := h
    exact ⟨ttl, hissues.persists hs⟩
  | sessionCreated session =>
    obtain ⟨token, otp, info, hc, hsigned, hpending, hsub, hconsumed, hms⟩ := h
    exact ⟨token, otp, info, hc, hs.tokens hsigned, hpending, hsub, hconsumed.persists hs, hms⟩
  | tokenSigned token => exact SignedFor.persists h hs
  | passed payload =>
    obtain ⟨token, hc, hpayload, hverified, hadmitted⟩ := h
    exact ⟨token, hc, hpayload, hverified, hadmitted.persists hs⟩
  | _ => trivial

def Seen (s : AppState) : AppEvent → Prop
  | .sessionRead _ session at_ => session ∈ s.world.sessions.rows ∧ at_ = s.world.now
  | .sessionsListed userId rows at_ =>
    (∀ x, x ∈ rows ↔ x ∈ s.world.sessions.rows ∧ x.userId = userId) ∧ at_ = s.world.now
  | _ => True

theorem AppEffect.ground {e : AppEvent} (h : AppEffect host t c i s s') (he : (u, e) ∈ s'.trace) :
    (u, e) ∈ s.trace ∨ u = t ∧ EventGround t c e s ∧ Seen s e := by
  have hlogged : ∀ {w : AppWorld} {es : List AppEvent}, s' = s.after t w es →
      (∀ x ∈ es, EventGround t c x s ∧ Seen s x) → (u, e) ∈ s.trace ∨ u = t ∧ EventGround t c e s ∧
        Seen s e := by
    intro w es hafter hground
    rcases List.mem_append.mp (hafter ▸ he) with hold | hnew
    · exact .inl hold
    · obtain ⟨x, hx, heq⟩ := List.mem_map.mp hnew
      obtain ⟨rfl, rfl⟩ := Prod.mk.injEq .. ▸ heq
      exact .inr ⟨rfl, hground x hx⟩
  cases h with
  | idle same => exact .inl (same ▸ he)
  | bank _ _ v es _ after =>
    refine hlogged after fun x hx => ?_
    obtain ⟨y, _, rfl⟩ := List.mem_map.mp hx
    exact ⟨trivial, trivial⟩
  | noted _ _ after => exact hlogged after (by simp)
  | cardChanged _ _ _ _ _ _ _ after => exact hlogged after (by simp)
  | cardIssued _ _ _ _ _ _ _ _ _ _ after => exact hlogged after (by simp)
  | passwordAccepted dto user credential call email ok after =>
    exact hlogged after (List.forall_mem_singleton.mpr ⟨⟨dto, call, email⟩, trivial⟩)
  | otpStored key otp ttl issues after =>
    exact hlogged after (List.forall_mem_singleton.mpr ⟨⟨ttl, issues⟩, trivial⟩)
  | otpRead _ _ _ _ _ _ after =>
    exact hlogged after (List.forall_mem_singleton.mpr ⟨trivial, trivial⟩)
  | otpDeleted _ _ _ _ _ after =>
    exact hlogged after (List.forall_mem_singleton.mpr ⟨trivial, trivial⟩)
  | sessionCreated token otp info session sessions call admitted pending sub consumed first
    unrevoked ms inserted after =>
    exact hlogged after (List.forall_mem_singleton.mpr
      ⟨⟨token, otp, info, call, admitted, pending, sub, consumed, ms⟩, trivial⟩)
  | tokenSigned token signed first after =>
    exact hlogged after (List.forall_mem_singleton.mpr ⟨signed, trivial⟩)
  | sessionRead payload session found after =>
    exact hlogged after (List.forall_mem_singleton.mpr
      ⟨trivial, (Table.find_eq_some.mp found).1, rfl⟩)
  | sessionsListed userId rows listed after =>
    exact hlogged after (List.forall_mem_singleton.mpr ⟨trivial, listed, rfl⟩)
  | sessionRevoked _ _ _ _ _ _ _ _ after => exact hlogged after (by simp)
  | passed token call verified admitted after =>
    exact hlogged after (List.forall_mem_singleton.mpr
      ⟨⟨token, call, rfl, verified, admitted⟩, trivial⟩)

end Guarantee

end OnlineBanking
