import OnlineBanking.ApiThreads
import OnlineBanking.Authority
import OnlineBanking.BankView
import OnlineBanking.StepUp

set_option autoImplicit false

/-! Where the money comes from: every transaction goes back to requests that were let through, of
the owner of the account or of an administrator. -/

namespace OnlineBanking

open Library

def Transaction.lines (x : Transaction) : List (Uuid × ℚ) :=
  match x.fromAccountId, x.toAccountId with
  | some source, some destination => Book.entry source destination x.amount
  | _, _ => []

def Db.OwnedBy (db : Db) (userId accountId : Uuid) : Prop :=
  ∃ account profile, db.accounts.find accountId = some account ∧
    db.customerProfiles.find account.customerId = some profile ∧ profile.userId = userId

lemma Posting.lines (p : Posting) :
    p.transaction.lines = Book.entry p.source.id p.destination.id p.transaction.amount := by
  simp only [Transaction.lines, p.from_source, p.to_destination]

inductive Bank.Warrant (b : Bank) (x : Transaction) : Prop
  | payment (t : ℕ) (call : Call) (p : Service Response) (payment : Payment) (source : Uuid)
      (thread : b.threads t = some (call, p)) (executes : Executes t b.shared call payment)
      (small : call.asked ≠ none → payment.request.amount.value ≤ stepUpThreshold)
      (from_source : x.fromAccountId = some source) (owner : b.db.OwnedBy payment.userId source)
      (named : source.spelledBy payment.request.sourceAccountId = true)
      (type : x.type = payment.request.type) (amount : x.amount = payment.request.amount.value)
      (posted : ∃ result, (t, Event.committed payment result [x]) ∈ b.trace)
  | credit (t : ℕ) (adminUserId accountId : Uuid) (dto : AdminCreditDto) (p : Service Response)
      (source : Uuid)
      (thread : b.threads t = some (.creditAccount adminUserId accountId dto, p))
      (from_source : x.fromAccountId = some source) (system : b.db.isSystem source)
      (target : x.toAccountId = some accountId) (type : x.type = .adminCredit)
      (amount : x.amount = dto.amount.value)

/-- What has happened to the money since `w` is these transactions, each with its call. -/
structure Bank.Warranted (w : World) (b : Bank) (news : List Transaction) : Prop where
  rows : b.db.transactions.rows = w.db.transactions.rows ++ news
  balance : ∀ id, b.db.balance id = w.db.balance id + Book.net (news.flatMap Transaction.lines) id
  positive : ∀ x ∈ news, 0 < x.amount
  warrant : ∀ x ∈ news, b.Warrant x

section Bank

variable {sha256 : String → String} {w : World} {b b' : Bank} {x : Transaction}
    {news : List Transaction}
variable {db db' : Db}

lemma Knows.ownedBy (h : Knows db db') {userId accountId : Uuid}
    (ho : db.OwnedBy userId accountId) :
    db'.OwnedBy userId accountId := by
  obtain ⟨account, profile, haccount, hprofile, rfl⟩ := ho
  obtain ⟨account', haccount', hcustomer, _⟩ := h.accounts _ _ haccount
  obtain ⟨profile', hprofile', huser⟩ := h.profiles _ _ hprofile
  exact ⟨account', profile', haccount', hcustomer ▸ hprofile', huser⟩

lemma Knows.isSystem (h : Knows db db') {id : Uuid} (hs : db.isSystem id) : db'.isSystem id := by
  obtain ⟨a, ha, hsystem⟩ := hs
  obtain ⟨a', ha', _, hsystem'⟩ := h.accounts _ _ ha
  exact ⟨a', ha', hsystem'.trans hsystem⟩

lemma Bank.Warrant.persists (h : b.Warrant x) (hknows : Knows b.db b'.db)
    (hpersists : Persists b.shared b'.shared)
    (hcalls : ∀ t call p, b.threads t = some (call, p) → ∃ q, b'.threads t = some (call, q)) :
    b'.Warrant x := by
  cases h with
  | payment t call p payment source thread executes small from_source owner named type
    amount posted =>
    obtain ⟨q, hq⟩ := hcalls t call p thread
    exact .payment t call q payment source hq (executes.persists hpersists) small from_source
      (hknows.ownedBy owner)
      named type amount (posted.imp fun _ h => hpersists.trace.subset h)
  | credit t adminUserId accountId dto p source thread from_source system target type amount =>
    obtain ⟨q, hq⟩ := hcalls t _ p thread
    exact .credit t adminUserId accountId dto q source hq from_source
      (hknows.isSystem system) target type amount

lemma Bank.Warranted.same (h : Bank.Warranted w b news)
    (hrows : b'.db.transactions.rows = b.db.transactions.rows)
    (hbalance : b'.db.balance = b.db.balance) (hwarrant : ∀ x, b.Warrant x → b'.Warrant x) :
    Bank.Warranted w b' news where
  rows := hrows.trans h.rows
  balance id := hbalance ▸ h.balance id
  positive := h.positive
  warrant x hx := hwarrant x (h.warrant x hx)

lemma Bank.Warranted.posted (h : Bank.Warranted w b news) {p : Posting} {posted : Db}
    {ns : List Notification} (applied : p.Applied b.db posted)
    (hdb : b'.db = posted.addNotifications ns) (hwarrant : ∀ x, b.Warrant x → b'.Warrant x)
    (hnew : b'.Warrant p.transaction) :
    Bank.Warranted w b' (news ++ [p.transaction]) where
  rows := by
    rw [hdb, Db.addNotifications_transactions, applied.transactions, h.rows, List.append_assoc]
  balance id := by
    rw [hdb, Db.balance_addNotifications, applied.balance, h.balance, List.flatMap_append,
      Book.net_append,
      List.flatMap_singleton, p.lines, add_assoc]
  positive := List.forall_mem_append.mpr ⟨h.positive, by simpa using p.positive⟩
  warrant := List.forall_mem_append.mpr
    ⟨fun x hx => hwarrant x (h.warrant x hx), by simpa using hnew⟩

theorem run_warranted {schedule : List Action}
    (h : Bank.run sha256 (Bank.start w) schedule = some b) :
    ∃ news, Bank.Warranted w b news := by
  let D := discipline sha256
  refine (D.run_invariant (P := fun d : Bank => ∃ news, Bank.Warranted w d news) ?_ (D.init_holds w)
    ⟨[], by simp [Bank.db, Config.init], by simp [Bank.db, Config.init], by simp, by simp⟩
    (Discipline.meets_true _ _) h).2
  rintro d l d' hd - ⟨news, hnews⟩ hstep
  have hwarrant : ∀ x, Bank.Warrant d x → Bank.Warrant d' x := fun x hx =>
    hx.persists ((grows_knows sha256).step hd hstep) ((grows_persists sha256).step hd hstep)
      fun t call p ht => D.call_persists hd hstep ht
  rcases D.step_cases hd hstep with
    ⟨_, _, _, _, hs, _⟩ | ⟨t, i, call, p, p', _, _, heffect, hthreads, _⟩ | ⟨e, _, hs, _⟩
  · exact ⟨news, hnews.same (by rw [Bank.db, hs]) (by rw [Bank.db, hs]) hwarrant⟩
  · have hthread : d'.threads t = some (call, p') := by simp [hthreads]
    cases Effect.onDb heffect with
    | notified ns db _ =>
      refine ⟨news, hnews.same ?_ ?_ hwarrant⟩
      · exact (congrArg (fun db => db.transactions.rows) db).trans
          (by rw [Db.addNotifications_transactions])
      · exact (congrArg Db.balance db).trans (Db.balance_addNotifications _ ns)
    | posted payment result p posted ns due _ applied pays db htrace =>
      refine ⟨_, hnews.posted applied db hwarrant ?_⟩
      obtain ⟨profile, hprofile, huser, hid⟩ := pays.payable.owner
      have howned : d.shared.world.db.OwnedBy payment.userId p.source.id :=
        ⟨p.source, profile, pays.payable.source_found, Table.find_eq_some.mpr ⟨hprofile, hid⟩,
          huser⟩
      exact .payment t call p' payment p.source.id hthread
        (due.executes.persists heffect.persists) due.small
        p.from_source ((Effect.knows heffect).ownedBy howned) pays.payable.source_named
          pays.type pays.amount
        ⟨result, by rw [Bank.trace, htrace]; simp⟩
    | credited adminUserId accountId dto p posted ns hcall applied credits db =>
      refine ⟨_, hnews.posted applied db hwarrant ?_⟩
      subst hcall
      have htarget : p.destination.id = accountId :=
        (Table.find_eq_some.mp credits.creditable.target_found).2
      have hsystem : d.shared.world.db.isSystem p.source.id :=
        ⟨p.source, credits.creditable.source_found, credits.creditable.source_system⟩
      exact .credit t adminUserId accountId dto p' p.source.id hthread p.from_source
        ((Effect.knows heffect).isSystem hsystem)
          (p.to_destination.trans (congrArg some htarget)) credits.type
        credits.amount
    | kept _ frame =>
      exact ⟨news, hnews.same (congrArg Table.rows frame.transactions)
        (congrArg Book.balance frame.book) hwarrant⟩
  · have hkept := environment_kept e d.shared.world
    have hdb : Bank.db d' = (environment e d.shared.world).db := by rw [Bank.db, hs]
    refine ⟨news, hnews.same ?_ ?_ hwarrant⟩
    · rw [hdb, hkept.transactions]
    · rw [hdb]
      exact congrArg Book.balance hkept.book

end Bank

section Roles

variable {host : Host} {w : ApiWorld} {schedule : List ApiAction} {b : Api}

def apiDiscipline (host : Host) : Discipline (E := AppEvent) (handleApi host) apiEnvironment where
  Rely _ _ _ := True
  Guar _ _ _ s s' := Script.Puts appPart s.world s'.world
  Post _ _ _ _ := True
  Fresh _ _ := True
  refl _ _ := trivial
  trans _ _ _ _ _ _ := trivial
  guar_rely _ _ _ _ _ _ _ _ := trivial
  env_rely _ _ _ := trivial
  fresh_init _ _ := trivial
  fresh_rely _ _ _ _ _ := trivial
  handle_safe _ call s _ := Script.safe_prog (fun _ => trivial) call.script s

lemma run_roles (h : (Api.start w).run host schedule = some b) {userId : Uuid} {role : String}
    (hrole : role ≠ "CLIENT") (hm : role ∈ b.world.roles userId) : role ∈ w.roles userId := by
  refine ((apiDiscipline host).shared_invariant
    (P := fun s => role ∈ s.world.roles userId → role ∈ w.roles userId)
    ?_ ?_ ((apiDiscipline host).init_holds w) id (Discipline.meets_true _ _) h).2 hm
  · intro d t i call p s' _ _ _ hold hputs hm
    obtain hsame | ⟨v, hput⟩ : Script.Puts appPart d.shared.world s'.world := hputs
    · exact hold (hsame ▸ hm)
    · rw [hput] at hm
      dsimp only [appPart] at hm
      split at hm
      · exact absurd (List.mem_singleton.mp hm) hrole
      · exact hold hm
  · exact fun _ _ hold hm => hold hm

lemma Api.Visits.roles {v : ApiWorld} (h : Api.Visits host w schedule v) {userId : Uuid}
    {role : String} (hrole : role ≠ "CLIENT") (hm : role ∈ v.roles userId) :
    role ∈ w.roles userId := by
  obtain ⟨ms, d, _, hrun, rfl⟩ := h
  exact run_roles hrun hrole hm

end Roles

/-- The session of the token was set up by two requests: a login with the password of its user, and
after it a verifyMfa that created the session and signed the token. -/
def Api.Established (b : Api) (token : Token) : Prop :=
  ∃ u v user dto pending otp info session p q, b.threads u = some (.login dto, p) ∧
    user.email = emailNorm dto.email ∧ user.id = token.payload.sub ∧
    b.threads v = some (.verifyMfa pending otp info, q) ∧
      token.payload.sessionId = some session.id ∧
    List.Sublist [(u, .passwordAccepted user), (v, .sessionCreated session),
      (v, .tokenSigned token)] b.shared.trace

/-- Request `t` passed the guards with the token of a session that was set up with both factors. -/
structure Api.Admitted (b : Api) (t : ℕ) (token : Token) : Prop where
  passed : (t, AppEvent.passed token.payload) ∈ b.shared.trace
  established : b.Established token

/-- Request `t` left a challenge for the payment, and request `u`, which its user sent and the
guards let through, named that challenge, read it before it expired, presented its one-time password
and posted the transaction. -/
structure Api.Confirms (b : Api) (x : Transaction) (t u : ℕ) (payment : Payment)
    (challengeId : String) (challenge : StepUpChallenge) : Prop where
  request : challenge.request = payment.request
  key : challenge.idempotencyKey = payment.key
  presented : ∃ token q, b.threads u = some
    (.request token (.confirmStepUp challengeId challenge.otp), q) ∧
    b.Admitted u token ∧ token.payload.sub = payment.userId
  order : ∃ result expiresAt at_, at_ < expiresAt ∧ List.Sublist
    [(t, AppEvent.bank (.challengeStored payment.userId challengeId challenge expiresAt)),
      (u, .bank (.challengeRead payment.userId challengeId challenge at_)),
      (u, .bank (.committed payment result [x]))] b.shared.trace

/-- What request `t` has led to: the transaction that it posted itself, or that a confirmation
posted. -/
inductive Api.Posts (b : Api) (x : Transaction) (t : ℕ) (payment : Payment) : Prop
  | small (at_most : payment.request.amount.value ≤ stepUpThreshold)
      (posted : ∃ result, (t, AppEvent.bank (.committed payment result [x])) ∈ b.shared.trace)
  | large (above : stepUpThreshold < payment.request.amount.value)
      (confirmed : ∃ u challengeId challenge, b.Confirms x t u payment challengeId challenge)

inductive Api.Warrant (w : ApiWorld) (b : Api) (x : Transaction) : Prop
  | payment (t : ℕ) (token : Token) (request : PaymentRequest) (key : Option String)
      (p : Prog ApiInputs ApiWorld AppEvent AppFailure ApiResponse) (source : Uuid)
      (thread : b.threads t = some (.request token (.payment request key), p))
      (admitted : b.Admitted t token)
      (posts : b.Posts x t ⟨token.payload.sub, request, trim (key.getD "")⟩)
      (from_source : x.fromAccountId = some source)
      (owner : b.world.db.OwnedBy token.payload.sub source)
      (named : source.spelledBy request.sourceAccountId = true) (type : x.type = request.type)
      (amount : x.amount = request.amount.value)
  | credit (t : ℕ) (token : Token) (accountId : Uuid) (dto : AdminCreditDto)
      (p : Prog ApiInputs ApiWorld AppEvent AppFailure ApiResponse) (source : Uuid)
      (thread : b.threads t = some (.admin token (.creditAccount accountId dto), p))
      (admitted : b.Admitted t token) (role : "ADMIN" ∈ w.roles token.payload.sub)
      (from_source : x.fromAccountId = some source) (system : b.world.db.isSystem source)
      (target : x.toAccountId = some accountId) (type : x.type = .adminCredit)
      (amount : x.amount = dto.amount.value)

section Calls

variable {d : App} {Was : ApiWorld → Prop} {t n : ℕ} {call : ApiCall} {c : AppCall}

lemma App.Calls.open_ (h : d.Calls Was t n call c) (hguard : ∀ token, c ≠ .guarded token)
    (hcustomer : ∀ userId route, CustomerRoute.service userId route ≠ some c)
    (hadmin : ∀ userId route, AdminRoute.service userId route ≠ some c) :
    call.service = some c := by
  rcases h with ⟨_, token, _, hc⟩ | h
  · exact absurd hc (hguard token)
  · cases h with
    | open_ service => exact service
    | request _ service => exact absurd service (hcustomer _ _)
    | admin _ _ service => exact absurd service (hadmin _ _)

lemma App.Calls.login {dto : LoginDto} (h : d.Calls Was t n call (.login dto)) :
    call = .login dto := by
  have hservice := h.open_ (by simp)
    (fun _ route => by cases route <;> simp [CustomerRoute.service])
    fun _ route => by cases route <;> simp [AdminRoute.service]
  cases call <;> simp_all [ApiCall.service]

lemma App.Calls.verifyMfa {token : Token} {otp : String} {info : RequestMeta}
    (h : d.Calls Was t n call (.verifyMfa token otp info)) : call = .verifyMfa token otp info := by
  have hservice := h.open_ (by simp)
    (fun _ route => by cases route <;> simp [CustomerRoute.service])
    fun _ route => by cases route <;> simp [AdminRoute.service]
  cases call <;> simp_all [ApiCall.service]

lemma App.Calls.payment {userId : Uuid} {request : PaymentRequest} {key : String}
    (h : d.Calls Was t n call (.bank (.payment userId request key))) : ∃ token key',
      call = .request token (.payment request key') ∧ d.Passed t token ∧
        userId = token.payload.sub ∧
        key = key'.getD "" := by
  rcases h with ⟨_, _, _, hc⟩ | h
  · cases hc
  · cases h with
    | open_ service => cases call <;> simp [ApiCall.service] at service
    | @request token route _ passed service =>
      cases route with
      | payment request' key' =>
        obtain ⟨rfl, rfl, rfl⟩ : token.payload.sub = userId ∧ request' = request ∧
            key'.getD "" = key := by
          simpa [CustomerRoute.service] using service
        exact ⟨token, key', rfl, passed, rfl, rfl⟩
      | _ => simp [CustomerRoute.service] at service
    | @admin _ route _ _ _ service => cases route <;> simp [AdminRoute.service] at service

lemma App.Calls.confirmStepUp {userId : Uuid} {challengeId otp : String}
    (h : d.Calls Was t n call (.bank (.confirmStepUp userId challengeId otp))) : ∃ token,
      call = .request token (.confirmStepUp challengeId otp) ∧ d.Passed t token ∧
        userId = token.payload.sub := by
  rcases h with ⟨_, _, _, hc⟩ | h
  · cases hc
  · cases h with
    | open_ service => cases call <;> simp [ApiCall.service] at service
    | @request token route _ passed service =>
      cases route with
      | confirmStepUp challengeId' otp' =>
        obtain ⟨rfl, rfl, rfl⟩ : token.payload.sub = userId ∧ challengeId' = challengeId ∧
            otp' = otp := by
          simpa [CustomerRoute.service] using service
        exact ⟨token, rfl, passed, rfl⟩
      | _ => simp [CustomerRoute.service] at service
    | @admin _ route _ _ _ service => cases route <;> simp [AdminRoute.service] at service

lemma App.Calls.creditAccount {adminUserId accountId : Uuid} {dto : AdminCreditDto}
    (h : d.Calls Was t n call (.bank (.creditAccount adminUserId accountId dto))) : ∃ token,
      call = .admin token (.creditAccount accountId dto) ∧ d.Passed t token ∧
        ∃ v, Was v ∧ v.Holds token.payload.sub "ADMIN" := by
  rcases h with ⟨_, _, _, hc⟩ | h
  · cases hc
  · cases h with
    | open_ service => cases call <;> simp [ApiCall.service] at service
    | @request _ route _ _ service => cases route <;> simp [CustomerRoute.service] at service
    | @admin token route _ passed role service =>
      cases route with
      | creditAccount accountId' dto' =>
        obtain ⟨_, rfl, rfl⟩ : token.payload.sub = adminUserId ∧ accountId' = accountId ∧
            dto' = dto := by
          simpa [AdminRoute.service] using service
        exact ⟨token, rfl, passed, role⟩
      | _ => simp [AdminRoute.service] at service

end Calls

section Warrants

variable {host : Host} {w : ApiWorld} {schedule : List ApiAction} {b : Api}
    {ms : List AppAction} {d : App}
variable {cs : List Action} {c : Bank}

lemma Refines.thread (h : Refines host w schedule b ms d) {u : ℕ} {c : AppCall}
    {p : Prog AppInputs AppWorld AppEvent AppFailure AppResponse} (hu : d.threads u = some (c, p)) :
    ∃ call q, b.threads u.unpair.1 = some (call, q) ∧
      d.Calls (Api.During host w schedule u.unpair.1) u.unpair.1 u.unpair.2 call c := by
  rw [← Nat.pair_unpair u] at hu
  exact h.calls _ _ c p hu

lemma Refines.sublist (h : Refines host w schedule b ms d) {es : List (ℕ × AppEvent)}
    (hes : es.Sublist d.trace) :
    (es.map fun e => (e.1.unpair.1, e.2)).Sublist b.shared.trace := by
  rw [h.trace]
  exact hes.map _

lemma Refines.established (h : Refines host w schedule b ms d) (hw : w.tokens = []) {t : ℕ}
    {token : Token} (hcall : ∃ p, d.threads (Nat.pair t 0) = some (.guarded token, p))
    (hpassed : d.Passed t token) :
    b.Established token := by
  obtain ⟨p, hp⟩ := hcall
  obtain ⟨call, p', token', session, hcall, htoken, _, hid, hsub, hestablished, _⟩ :=
    passed_live hw h.run hpassed
  obtain ⟨rfl, _⟩ : AppCall.guarded token = call ∧ p = p' := by simpa [hp] using hcall
  obtain rfl := Option.some.inj htoken
  obtain ⟨u, v, user, dto, pending, otp, info, q, q', hlogin, hemail, huser, hverify, hevents⟩ :=
    hestablished
  obtain ⟨call, r, hu, hcalls⟩ := h.thread hlogin
  obtain rfl := hcalls.login
  obtain ⟨call', r', hv, hcalls'⟩ := h.thread hverify
  obtain rfl := hcalls'.verifyMfa
  exact ⟨u.unpair.1, v.unpair.1, user, dto, pending, otp, info, session, r, r', hu, hemail,
    huser.trans hsub, hv, hid,
    h.sublist hevents⟩

lemma Refines.mem_trace (h : Refines host w schedule b ms d) {u : ℕ} {e : AppEvent}
    (he : (u, e) ∈ d.trace) :
    (u.unpair.1, e) ∈ b.shared.trace := by
  rw [h.trace]
  exact List.mem_map_of_mem he

lemma Refines.bank_sublist (h : Refines host w schedule b ms d)
    (hbank : BankView host w.toAppWorld d cs c) {es : List (ℕ × Event)} (hes : es.Sublist c.trace) :
    (es.map fun e => (e.1.unpair.1, AppEvent.bank e.2)).Sublist b.shared.trace := by
  have happ : (c.trace.map fun e => (e.1, AppEvent.bank e.2)).Sublist d.trace := by
    rw [hbank.trace, List.map_filterMap]
    refine filterMap_sublist fun e e' he => ?_
    obtain ⟨x, hx, rfl⟩ := Option.map_eq_some_iff.mp he
    obtain ⟨y, hy, rfl⟩ := Option.map_eq_some_iff.mp hx
    cases hevent : e.2 with
    | bank z =>
      obtain rfl : z = y := by simpa [hevent, AppEvent.bank?] using hy
      exact Prod.ext rfl hevent.symm
    | _ => simp [hevent, AppEvent.bank?] at hy
  have hall := h.sublist ((hes.map _).trans happ)
  rwa [List.map_map] at hall

lemma Refines.admitted (h : Refines host w schedule b ms d) (hw : w.tokens = []) {t : ℕ}
    {token : Token} {call : ApiCall} {q : Prog ApiInputs ApiWorld AppEvent AppFailure ApiResponse}
    (ht : b.threads t = some (call, q)) (htoken : call.token = some token)
    (hpassed : d.Passed t token) :
    b.Admitted t token := by
  have hlogged := h.mem_trace hpassed
  rw [Nat.unpair_pair] at hlogged
  refine ⟨hlogged, ?_⟩
  obtain ⟨c, p, _, _, hcall, _⟩ := passed_live hw h.run hpassed
  refine h.established hw ⟨p, ?_⟩ hpassed
  obtain ⟨call', q', ht', hcalls⟩ := h.calls _ _ c p hcall
  obtain ⟨rfl, _⟩ : call = call' ∧ q = q' := by simpa [ht] using ht'
  rcases hcalls with ⟨_, token', htoken', rfl⟩ | hserves
  · obtain rfl := Option.some.inj (htoken.symm.trans htoken')
    exact hcall
  · cases hserves with
    | open_ service => cases call <;> simp [ApiCall.service, ApiCall.token] at service htoken

lemma Refines.paid (h : Refines host w schedule b ms d) (hw : w.tokens = [])
    (hbank : BankView host w.toAppWorld d cs c) {t : ℕ} {userId : Uuid} {request : PaymentRequest}
    {key : String} {p : Service Response}
    (ht : c.threads t = some (.payment userId request key, p)) : ∃ token key' q,
      b.threads t.unpair.1 = some (.request token (.payment request key'), q) ∧
        b.Admitted t.unpair.1 token ∧
        userId = token.payload.sub ∧ key = key'.getD "" := by
  obtain ⟨p', hp'⟩ := hbank.threads t _ p ht
  obtain ⟨call, q, hcall, hcalls⟩ := h.thread hp'
  obtain ⟨token, key', rfl, hpassed, rfl, rfl⟩ := hcalls.payment
  exact ⟨token, key', q, hcall, h.admitted hw hcall rfl hpassed, rfl, rfl⟩

lemma Refines.confirms (h : Refines host w schedule b ms d) (hw : w.tokens = [])
    (hbank : BankView host w.toAppWorld d cs c) {x : Transaction} {t₀ t : ℕ} {payment : Payment}
    {challengeId : String} {challenge : StepUpChallenge}
    (hc : c.Confirmed x t₀ t payment challengeId challenge) :
    b.Confirms x t₀.unpair.1 t.unpair.1 payment challengeId challenge where
  request := hc.request
  key := hc.key
  presented := by
    obtain ⟨p, hp⟩ := hc.presented
    obtain ⟨p', hp'⟩ := hbank.threads t _ p hp
    obtain ⟨call, q, hcall, hcalls⟩ := h.thread hp'
    obtain ⟨token, rfl, hpassed, huser⟩ := hcalls.confirmStepUp
    exact ⟨token, q, hcall, h.admitted hw hcall rfl hpassed, huser.symm⟩
  order := by
    obtain ⟨result, expiresAt, at_, hlt, horder⟩ := hc.order
    exact ⟨result, expiresAt, at_, hlt, h.bank_sublist hbank horder⟩

lemma Refines.warrant (h : Refines host w schedule b ms d) (hw : w.tokens = [])
    (hredis : w.redis = []) (hbank : BankView host w.toAppWorld d cs c) {x : Transaction}
    (hx : c.Warrant x) : b.Warrant w x := by
  have hdb : c.db = b.world.db :=
    congrArg World.db (hbank.world.trans (congrArg AppWorld.toWorld h.world))
  cases hx with
  | credit t adminUserId accountId dto p source thread from_source system target type amount =>
    obtain ⟨p', hp'⟩ := hbank.threads t _ p thread
    obtain ⟨call, q, hcall, hcalls⟩ := h.thread hp'
    obtain ⟨token, rfl, hpassed, v, hv, hholds⟩ := hcalls.creditAccount
    exact .credit t.unpair.1 token accountId dto q source hcall (h.admitted hw hcall rfl hpassed)
      (hv.visits.roles (by decide) hholds.role) from_source (hdb ▸ system) target type amount
  | payment t call p payment source thread executes small from_source owner named type
    amount posted =>
    cases executes with
    | asked hasked =>
      cases call with
      | payment userId request key =>
        obtain rfl := Option.some.inj hasked
        obtain ⟨token, key', q, hcall, hadmitted, rfl, rfl⟩ := h.paid hw hbank thread
        have hposts : b.Posts x t.unpair.1 ⟨token.payload.sub, request, trim (key'.getD "")⟩ := by
          obtain ⟨result, hposted⟩ := posted
          refine .small (small (by simp [Call.asked])) ⟨result, ?_⟩
          exact (h.bank_sublist hbank (List.singleton_sublist.mpr hposted)).subset (by simp)
        exact .payment t.unpair.1 token request key' q source hcall hadmitted hposts from_source
          (hdb ▸ owner) named
          type amount
      | _ => cases hasked
    | @confirmed userId challengeId otp challenge at_ read presented =>
      -- the challenge that was read was stored for a large payment, and so this one is large
      obtain ⟨_, t₁, _, _, horder⟩ := (run_challenged hredis hbank.run).reads t _ _ _ _ read
      obtain ⟨_, _, _, hlarge, _⟩ := run_accounted hbank.run (horder.subset List.mem_cons_self)
      obtain ⟨result, hposted⟩ := posted
      obtain ⟨t₀, challengeId', challenge', hconfirmed⟩ :=
        large_confirmed hredis hbank.run hposted hlarge
      obtain ⟨key, p₀, hkey, hcall₀⟩ := hconfirmed.stored
      obtain ⟨token, key', q, hcall, hadmitted, huser, rfl⟩ := h.paid hw hbank hcall₀
      have hpayment : (⟨token.payload.sub, challenge.request, trim (key'.getD "")⟩ : Payment) =
          ⟨userId, challenge.request, trim challenge.idempotencyKey⟩ := by rw [← huser, hkey]
      refine .payment t₀.unpair.1 token challenge.request key' q source hcall hadmitted ?_
        from_source ?_ named type
        amount
      · rw [hpayment]
        exact .large hlarge ⟨_, challengeId', challenge', h.confirms hw hbank hconfirmed⟩
      · rw [← huser, ← hdb]
        exact owner

/-- In every run of the API the money has moved by transactions only, and behind each of them stand
requests that passed the guards on a session set up with both factors: the owner of the account has
asked for the payment, and confirmed its own challenge when it is large, or somebody who was an
administrator from the start has asked for the credit. -/
theorem money_has_warrant (htokens : w.tokens = []) (hredis : w.redis = [])
    (h : (Api.start w).run host schedule = some b) : ∃ news,
      b.world.db.transactions.rows = w.db.transactions.rows ++ news ∧
      (∀ id, b.world.db.balance id =
        w.db.balance id + Book.net (news.flatMap Transaction.lines) id) ∧
      ∀ x ∈ news, 0 < x.amount ∧ b.Warrant w x := by
  obtain ⟨ms, d, hrefines⟩ := run_refines h
  obtain ⟨cs, c, hbank⟩ := run_bankView hrefines.run
  obtain ⟨news, hnews⟩ := run_warranted hbank.run
  have hdb : c.db = b.world.db :=
    congrArg World.db (hbank.world.trans (congrArg AppWorld.toWorld hrefines.world))
  refine ⟨news, hdb ▸ hnews.rows, hdb ▸ hnews.balance, fun x hx => ⟨hnews.positive x hx, ?_⟩⟩
  exact hrefines.warrant htokens hredis hbank (hnews.warrant x hx)

end Warrants

/-- After the turns of the administrator and the customer a large transfer takes the detour. -/
def demoWarrantTurns : List ApiAction :=
  demoApiTurns ++
    (.spawn 7 (.request demoAccessToken
        (.payment (.internalTransfer (demoTransfer .large)) (some "k2"))) ::
      Label.solo 7 (fun k => demoApiInputs (50 + k)) 7) ++
    (.spawn 8 (.request demoAccessToken (.confirmStepUp "k3x9" "123456")) ::
      Label.solo 8 (fun k => demoApiInputs (60 + k)) 8)

theorem demo_money_has_warrant : ∃ b xs,
    (Api.start demoApiWorld).run demoHost demoWarrantTurns = some b ∧
    b.world.db.transactions.rows = xs ∧ xs.map Transaction.amount = [250, 250, 2500] ∧
    ∀ x ∈ xs, 0 < x.amount ∧ b.Warrant demoApiWorld x := by
  have hrun : ((Api.start demoApiWorld).run demoHost demoWarrantTurns).map (fun b =>
      b.world.db.transactions.rows.map Transaction.amount) = some [250, 250, 2500] := by
    decide +kernel
  obtain ⟨b, hb, hamounts⟩ := Option.map_eq_some_iff.mp hrun
  obtain ⟨news, hrows, _, hnews⟩ := money_has_warrant rfl rfl hb
  have hempty : demoApiWorld.db.transactions.rows = [] := by decide +kernel
  rw [hempty, List.nil_append] at hrows
  exact ⟨b, news, hb, hrows, hrows ▸ hamounts, hnews⟩

end OnlineBanking
