import OnlineBanking.Api
import OnlineBanking.SessionGate

set_option autoImplicit false

/-! Every run of the API is a run of the services, each call of them made behind the guards of its
route. -/

namespace OnlineBanking

open Library ApiScript

structure ApiWorld.Holds (w : ApiWorld) (userId : Uuid) (role : String) : Prop where
  user : ∃ user, w.db.users.find userId = some user
  active : (w.credentials userId).isActive = true
  role : role ∈ w.roles userId

def Api.Visits (host : Host) (w : ApiWorld) (schedule : List ApiAction) : ApiWorld → Prop :=
  Config.Visits (handleApi host) apiEnvironment (Api.start w) schedule

def Api.During (host : Host) (w : ApiWorld) (schedule : List ApiAction) (t : ℕ) : ApiWorld → Prop :=
  Config.VisitsDuring (handleApi host) apiEnvironment (Api.start w) schedule t

lemma Api.During.visits {host : Host} {w v : ApiWorld} {schedule : List ApiAction} {t : ℕ}
    (h : Api.During host w schedule t v) : Api.Visits host w schedule v :=
  Config.VisitsDuring.visits h

def ApiCall.token : ApiCall → Option Token
  | .request token _ => some token
  | .admin token _ => some token
  | _ => none

inductive Reads (Was : ApiWorld → Prop) (userId : Uuid) : CustomerRoute → ApiResponse → Prop
  | me (w : ApiWorld) (was : Was w) (user : User) (found : w.db.users.find userId = some user) :
    Reads Was userId .getMe (.me (w.db.me user (w.roles user.id)))
  | noAccounts (w : ApiWorld) (was : Was w) (none_ : w.db.customerProfiles.findAlt userId = none) :
    Reads Was userId .getAccounts (.accounts [])
  | accounts (w w' : ApiWorld) (was : Was w) (was' : Was w') (profile : CustomerProfile)
      (found : w.db.customerProfiles.findAlt userId = some profile) :
    Reads Was userId .getAccounts (.accounts (w'.db.ordinaryAccounts profile.id))
  | noCards (w : ApiWorld) (was : Was w) (none_ : w.db.customerProfiles.findAlt userId = none) :
    Reads Was userId .getCards (.cards [])
  | cards (w w' : ApiWorld) (was : Was w) (was' : Was w') (profile : CustomerProfile)
      (rank : Uuid → ℕ)
      (found : w.db.customerProfiles.findAlt userId = some profile) :
    Reads Was userId .getCards (.cards (w'.openCards profile.id rank))
  | merchants (w : ApiWorld) (was : Was w) (collate : String → String → Bool) :
    Reads Was userId .getMerchants (.merchants (w.db.activeMerchants collate))
  | notifications (w : ApiWorld) (was : Was w) : Reads Was userId .getNotifications
      (.notifications (findAllForUser w.db.notifications userId))
  | other : Reads Was userId .other .other

inductive AdminReads (Was : ApiWorld → Prop) : AdminRoute → ApiResponse → Prop
  | customers (w : ApiWorld) (was : Was w) :
    AdminReads Was .getCustomers (.customers w.db.customers)
  | other : AdminReads Was .other .other

def App.Passed (d : App) (t : ℕ) (token : Token) : Prop :=
  (Nat.pair t 0, .passed token.payload) ∈ d.trace

/-- The `n`-th call of request `t` is the one of the service it asks for, and may be. -/
inductive App.Serves (d : App) (Was : ApiWorld → Prop) (t : ℕ) : ℕ → ApiCall → AppCall → Prop
  | open_ {call : ApiCall} {c : AppCall} (service : call.service = some c) : Serves d Was t 0 call c
  | request {token : Token} {route : CustomerRoute} {c : AppCall} (passed : d.Passed t token)
      (service : route.service token.payload.sub = some c) :
        Serves d Was t 1 (.request token route) c
  | admin {token : Token} {route : AdminRoute} {c : AppCall} (passed : d.Passed t token)
      (role : ∃ w, Was w ∧ w.Holds token.payload.sub "ADMIN")
      (service : route.service token.payload.sub = some c) : Serves d Was t 1 (.admin token route) c

inductive App.Answers (d : App) (Was : ApiWorld → Prop) (t : ℕ) : ApiCall → ApiResponse → Prop
  | service {n : ℕ} {call : ApiCall} {c : AppCall} {response : AppResponse}
      (serves : d.Serves Was t n call c)
      (ended : d.ended t n c (.ok response)) : Answers d Was t call (.service response)
  | request {token : Token} {route : CustomerRoute} {response : ApiResponse}
      (passed : d.Passed t token)
      (reads : Reads Was token.payload.sub route response) :
        Answers d Was t (.request token route) response
  | admin {token : Token} {route : AdminRoute} {response : ApiResponse} (passed : d.Passed t token)
      (role : ∃ w, Was w ∧ w.Holds token.payload.sub "ADMIN")
      (reads : AdminReads Was route response) : Answers d Was t (.admin token route) response

section Guards

variable {host : Host} {t : ℕ} {s : AppState}

def GuardAnswered (t : ℕ) (c : AppCall) (a : AppResponse) (s : AppState) : Prop :=
  ∀ token, c = .guarded token → a = .admitted token.payload ∧ (t, .passed token.payload) ∈ s.trace

lemma appRuns_guardAnswered {c : AppCall} (hs : ownAppTrace t s = []) :
    AppRuns host t c (handleApp host c) s (GuardAnswered t c) := by
  cases c with
  | guarded token =>
    refine appRuns_bind (appRuns_useGuards rfl fun u _ hpassed => appRuns_pure fun v hv => ?_)
    intro token' hcall
    obtain rfl := AppCall.guarded.inj hcall
    exact ⟨rfl, hv.mem hpassed⟩
  | _ => exact appRuns_mono (appRuns_handle hs) fun _ _ _ _ h => by cases h

def guardDiscipline (host : Host) : Discipline (E := AppEvent) (handleApp host) appEnvironment :=
  (appDiscipline host).ensure (fun t c r s => ∀ a, r = .ok a → GuardAnswered t c a s)
    fun _ _ _ hs => (appRuns_guardAnswered hs).safe.guar fun _ _ _ _ => trivial

lemma guard_answered {w : AppWorld} {schedule : List AppAction} {d : App} {token : Token}
    {a : AppResponse} (h : (App.start w).run host schedule = some d)
    (ht : d.threads t = some (.guarded token, .done (.ok a))) :
    a = .admitted token.payload ∧ (t, .passed token.payload) ∈ d.trace := by
  have hd := (guardDiscipline host).holds_of_run ((guardDiscipline host).init_holds w) h
  exact ((guardDiscipline host).post_of_done hd ht).2 a rfl token rfl

end Guards

inductive Landing
  | call (c : AppCall)
  | answer (r : ApiResponse)

inductive Landing.At : Landing → ApiScript → Prop
  | call (c : AppCall) (k : Except AppFailure AppResponse → ApiScript) : At (.call c) (.call c k)
  | answer (r : ApiResponse) : At (.answer r) (.done (.ok r))

def Comes (Was : ApiWorld → Prop) (ended : ℕ → AppCall → Except AppFailure AppResponse → Prop)
    (s₀ : ApiScript) (n : ℕ) (l : Landing) : Prop :=
  ∃ s, s₀.Path appPart Was ended n s ∧ l.At s

section Scripts

variable {Was : ApiWorld → Prop} {ended : ℕ → AppCall → Except AppFailure AppResponse → Prop}
variable {n : ℕ} {l : Landing}

lemma comes_answer {r : ApiResponse} (h : Comes Was ended (answer r) n l) :
    n = 0 ∧ l = .answer r := by
  obtain ⟨s, hpath, hat⟩ := h
  obtain ⟨rfl, rfl⟩ := hpath.of_done
  cases hat
  exact ⟨rfl, rfl⟩

lemma not_comes_fail {e : AppFailure} : ¬ Comes Was ended (fail e) n l := by
  rintro ⟨s, hpath, hat⟩
  obtain ⟨rfl, rfl⟩ := hpath.of_done
  cases hat

lemma comes_ask {c : AppCall} {k : AppResponse → ApiScript} (h : Comes Was ended (ask c k) n l) :
    (n = 0 ∧ l = .call c) ∨ ∃ m a, n = m + 1 ∧ ended 0 c (.ok a) ∧
      Comes Was (fun j => ended (j + 1)) (k a) m l := by
  obtain ⟨s, hpath, hat⟩ := h
  rcases hpath.of_call with ⟨rfl, rfl⟩ | ⟨r, m, rfl, hended, hpath⟩
  · cases hat
    exact .inl ⟨rfl, rfl⟩
  · cases r with
    | ok a => exact .inr ⟨m, a, rfl, hended, s, hpath, hat⟩
    | error e => exact absurd ⟨s, hpath, hat⟩ not_comes_fail

lemma comes_serve {c : AppCall} (h : Comes Was ended (serve c) n l) :
    (n = 0 ∧ l = .call c) ∨ ∃ a, ended 0 c (.ok a) ∧ l = .answer (.service a) := by
  rcases comes_ask h with hcall | ⟨m, a, rfl, hended, h⟩
  · exact .inl hcall
  · exact .inr ⟨a, hended, (comes_answer h).2⟩

lemma comes_query {α : Type} {label : AppStatement} {f : ApiInputs → ApiWorld → α}
    {k : α → ApiScript} (h : Comes Was ended (query label f k) n l) :
    ∃ i w, Was w ∧ Comes Was ended (k (f i w)) n l := by
  obtain ⟨s, hpath, hat⟩ := h
  rcases hpath.of_look with ⟨rfl, rfl⟩ | ⟨i, w, was, hpath⟩
  · cases hat
  · cases hout : i.outage label with
    | none =>
      simp only [hout] at hpath
      exact ⟨i, w, was, s, hpath, hat⟩
    | some e =>
      simp only [hout] at hpath
      exact absurd ⟨s, hpath, hat⟩ not_comes_fail

lemma comes_behindGuards {token : Token} {k : JwtAccessPayload → ApiScript}
    (hguard : ∀ a, ended 0 (.guarded token) (.ok a) → a = .admitted token.payload)
    (h : Comes Was ended (behindGuards token k) n l) :
    (n = 0 ∧ l = .call (.guarded token)) ∨ ∃ m, n = m + 1 ∧
      ended 0 (.guarded token) (.ok (.admitted token.payload)) ∧
        Comes Was (fun j => ended (j + 1)) (k token.payload) m l := by
  rcases comes_ask h with hcall | ⟨m, a, rfl, hended, h⟩
  · exact .inl hcall
  · obtain rfl := hguard a hended
    exact .inr ⟨m, rfl, hended, h⟩

lemma comes_rolesGuard {role : String} {user : JwtAccessPayload} {k : ApiScript}
    (h : Comes Was ended (rolesGuard [role] user k) n l) :
    (∃ w, Was w ∧ w.Holds user.sub role) ∧ Comes Was ended k n l := by
  obtain ⟨i, w, was, h⟩ := comes_query (show Comes Was ended (query _ _ _) n l from h)
  cases hfind : w.db.users.find user.sub with
  | none =>
    simp only [hfind, Option.map_none] at h
    exact absurd h not_comes_fail
  | some dbUser =>
    have hid : dbUser.id = user.sub := (Table.find_eq_some.mp hfind).2
    simp only [hfind, Option.map_some, hid] at h
    split at h
    · exact absurd h not_comes_fail
    · rename_i hactive
      split at h
      · rename_i hrole
        have hrole : role ∈ w.roles user.sub := by simpa using hrole
        exact ⟨⟨w, was, ⟨dbUser, hfind⟩, by simpa using hactive, hrole⟩, h⟩
      · exact absurd h not_comes_fail

lemma comes_ofProfile {userId : Uuid} {none_ : ApiScript} {k : Uuid → ApiScript}
    (h : Comes Was ended (ofProfile userId none_ k) n l) : ∃ w, Was w ∧
      ((w.db.customerProfiles.findAlt userId = none ∧ Comes Was ended none_ n l) ∨
        ∃ profile, w.db.customerProfiles.findAlt userId = some profile ∧
            Comes Was ended (k profile.id) n l) := by
  obtain ⟨i, w, was, h⟩ := comes_query h
  refine ⟨w, was, ?_⟩
  cases hfind : w.db.customerProfiles.findAlt userId with
  | none =>
    simp only [hfind, Option.map_none] at h
    exact .inl ⟨rfl, h⟩
  | some profile =>
    simp only [hfind, Option.map_some] at h
    exact .inr ⟨profile, rfl, h⟩

lemma comes_queried {α : Type} {label : AppStatement} {f : ApiInputs → ApiWorld → α}
    {g : α → ApiResponse} (h : Comes Was ended (query label f fun a => answer (g a)) n l) :
    ∃ i w, Was w ∧ l = .answer (g (f i w)) := by
  obtain ⟨i, w, was, h⟩ := comes_query h
  exact ⟨i, w, was, (comes_answer h).2⟩

lemma comes_read {userId : Uuid} {route : CustomerRoute} (hroute : route.service userId = none)
    (h : Comes Was ended (read userId route) n l) :
    ∃ r, l = .answer r ∧ Reads Was userId route r := by
  cases route with
  | getMe =>
    obtain ⟨i, w, was, h⟩ := comes_query (show Comes Was ended (getMe userId) n l from h)
    cases hfind : w.db.users.find userId with
    | none =>
      simp only [hfind, Option.map_none] at h
      exact absurd h not_comes_fail
    | some user =>
      simp only [hfind, Option.map_some] at h
      exact ⟨_, (comes_answer h).2, .me w was user hfind⟩
  | getAccounts =>
    obtain ⟨w, was, ⟨hnone, h⟩ | ⟨profile, hfound, h⟩⟩ :=
      comes_ofProfile (show Comes Was ended (getAccounts userId) n l from h)
    · exact ⟨_, (comes_answer h).2, .noAccounts w was hnone⟩
    · obtain ⟨i, w', was', hl⟩ := comes_queried h
      exact ⟨_, hl, .accounts w w' was was' profile hfound⟩
  | getCards =>
    obtain ⟨w, was, ⟨hnone, h⟩ | ⟨profile, hfound, h⟩⟩ :=
      comes_ofProfile (show Comes Was ended (getCards userId) n l from h)
    · exact ⟨_, (comes_answer h).2, .noCards w was hnone⟩
    · obtain ⟨i, w', was', hl⟩ := comes_queried h
      exact ⟨_, hl, .cards w w' was was' profile i.rank hfound⟩
  | getMerchants =>
    obtain ⟨i, w, was, hl⟩ := comes_queried (show Comes Was ended getMerchants n l from h)
    exact ⟨_, hl, .merchants w was i.collate⟩
  | getNotifications =>
    obtain ⟨i, w, was, hl⟩ := comes_queried
      (show Comes Was ended (getNotifications userId) n l from h)
    exact ⟨_, hl, .notifications w was⟩
  | other => exact ⟨_, (comes_answer h).2, .other⟩
  | _ => cases hroute

lemma comes_adminRead {userId : Uuid} {route : AdminRoute} (hroute : route.service userId = none)
    (h : Comes Was ended (adminRead route) n l) : ∃ r, l = .answer r ∧ AdminReads Was route r := by
  cases route with
  | getCustomers =>
    obtain ⟨i, w, was, hl⟩ := comes_queried (show Comes Was ended getCustomers n l from h)
    exact ⟨_, hl, .customers w was⟩
  | other => exact ⟨_, (comes_answer h).2, .other⟩
  | _ => cases hroute

/-- The `n`-th call of request `t`, if it has one. -/
def App.Calls (d : App) (Was : ApiWorld → Prop) (t n : ℕ) (call : ApiCall) (c : AppCall) : Prop :=
  (n = 0 ∧ ∃ token, call.token = some token ∧ c = .guarded token) ∨ d.Serves Was t n call c

variable {host : Host} {w : AppWorld} {schedule : List AppAction} {d : App} {t : ℕ}

lemma comes_routed {call : ApiCall} {token : Token} {k : JwtAccessPayload → ApiScript}
    (hrun : (App.start w).run host schedule = some d) (htoken : call.token = some token)
    (h : Comes Was (d.ended t) (behindGuards token k) n l) :
    (∃ c, l = .call c ∧ d.Calls Was t n call c) ∨ ∃ m, n = m + 1 ∧ d.Passed t token ∧
      Comes Was (fun j => d.ended t (j + 1)) (k token.payload) m l := by
  have hguard : ∀ a, d.ended t 0 (.guarded token) (.ok a) →
      a = .admitted token.payload ∧ d.Passed t token := fun a ha => guard_answered hrun ha
  rcases comes_behindGuards (fun a ha => (hguard a ha).1) h with ⟨rfl, rfl⟩ | ⟨m, rfl, hended, h⟩
  · exact .inl ⟨_, rfl, .inl ⟨rfl, token, htoken, rfl⟩⟩
  · exact .inr ⟨m, rfl, (hguard _ hended).2, h⟩

lemma comes_served {call : ApiCall} {c : AppCall} {m : ℕ} (hserves : d.Serves Was t m call c)
    (h : Comes Was (fun j => d.ended t (j + m)) (serve c) n l) :
    (∃ c, l = .call c ∧ d.Calls Was t (n + m) call c) ∨ ∃ r, l = .answer r ∧
    d.Answers Was t call r := by
  rcases comes_serve h with ⟨rfl, rfl⟩ | ⟨a, hended, rfl⟩
  · exact .inl ⟨c, rfl, .inr (by rwa [Nat.zero_add])⟩
  · exact .inr ⟨_, rfl, .service hserves (by rwa [Nat.zero_add] at hended)⟩

lemma comes_open {call : ApiCall} {c : AppCall} (hc : call.service = some c)
    (h : Comes Was (d.ended t) (serve c) n l) :
    (∃ c, l = .call c ∧ d.Calls Was t n call c) ∨ ∃ r, l = .answer r ∧ d.Answers Was t call r :=
  have hserves : d.Serves Was t 0 call c := .open_ hc
  comes_served hserves h

theorem comes_script {call : ApiCall} (hrun : (App.start w).run host schedule = some d)
    (h : Comes Was (d.ended t) call.script n l) :
    (∃ c, l = .call c ∧ d.Calls Was t n call c) ∨ ∃ r, l = .answer r ∧ d.Answers Was t call r := by
  cases call with
  | request token r =>
    have htoken : (ApiCall.request token r).token = some token := rfl
    rcases comes_routed hrun htoken h with hcall | ⟨m, rfl, hpassed, h⟩
    · exact .inl hcall
    · unfold ApiScript.route at h
      split at h
      · rename_i c hc
        exact comes_served (.request hpassed hc) h
      · rename_i hnone
        obtain ⟨x, hl, hreads⟩ := comes_read hnone h
        exact .inr ⟨x, hl, .request hpassed hreads⟩
  | admin token r =>
    have htoken : (ApiCall.admin token r).token = some token := rfl
    rcases comes_routed hrun htoken h with hcall | ⟨m, rfl, hpassed, h⟩
    · exact .inl hcall
    · obtain ⟨hrole, h⟩ := comes_rolesGuard h
      unfold ApiScript.adminRoute at h
      split at h
      · rename_i c hc
        exact comes_served (.admin hpassed hrole hc) h
      · rename_i hnone
        obtain ⟨x, hl, hreads⟩ := comes_adminRead hnone h
        exact .inr ⟨x, hl, .admin hpassed hrole hreads⟩
  | register dto => exact comes_open rfl h
  | login dto => exact comes_open rfl h
  | verifyMfa token otp info => exact comes_open rfl h
  | getSessions token => exact comes_open rfl h
  | revokeSession token sessionId => exact comes_open rfl h

end Scripts

section Refinement

variable {host : Host} {w : ApiWorld} {schedule : List ApiAction} {b : Api}

/-- The run `ms` of the services to `d` is what the run of the API to `b` comes down to: call `n` of
request `t` is its thread `Nat.pair t n`. -/
structure Refines (host : Host) (w : ApiWorld) (schedule : List ApiAction) (b : Api)
    (ms : List AppAction) (d : App) :
    Prop where
  run : (App.start w.toAppWorld).run host ms = some d
  world : d.world = b.world.toAppWorld
  visits : ∀ v, Config.Visits (handleApp host) appEnvironment (App.start w.toAppWorld) ms v ↔
    ∃ v', Api.Visits host w schedule v' ∧ v = v'.toAppWorld
  trace : b.shared.trace = d.trace.map fun e => ((Nat.unpair e.1).1, e.2)
  calls : ∀ t n c p, d.threads (Nat.pair t n) = some (c, p) →
    ∃ call q, b.threads t = some (call, q) ∧
    d.Calls (Api.During host w schedule t) t n call c
  answers : ∀ t call r, b.threads t = some (call, .done (.ok r)) →
    d.Answers (Api.During host w schedule t) t call r

lemma run_refines (h : (Api.start w).run host schedule = some b) :
    ∃ ms d, Refines host w schedule b ms d := by
  have henv : ∀ e (v : ApiWorld), appPart.get (apiEnvironment e v) = appEnvironment (id e)
      (appPart.get v) :=
    fun _ _ => rfl
  obtain ⟨ms, d, hrun, hsim, hvisits⟩ := simulated henv h
  refine ⟨ms, d, hrun, hsim.world, hvisits, ?_, ?_, ?_⟩
  · have htrace := congrArg Shared.trace hsim.shared
    simpa [Part.shared, appPart] using htrace
  · intro t n c p ht
    obtain ⟨call, q, k, hcall, hpath⟩ := hsim.request_of_thread ht
    rcases comes_script hrun ⟨_, hpath, .call c k⟩ with ⟨c', hl, hcalls⟩ | ⟨r, hl, _⟩
    · obtain rfl := Landing.call.inj hl
      exact ⟨call, q, hcall, hcalls⟩
    · cases hl
  · intro t call r ht
    obtain ⟨n, hpath⟩ := hsim.path_of_done ht
    rcases comes_script hrun ⟨_, hpath, .answer r⟩ with ⟨c, hl, _⟩ | ⟨r', hl, hanswers⟩
    · cases hl
    · obtain rfl := Landing.answer.inj hl
      exact hanswers

end Refinement

def demoApiWorld : ApiWorld where
  toAppWorld := demoAppWorld
  roles id := if id = demoIds .user then ["CLIENT"] else if id = demoIds .adminUser then ["ADMIN"]
    else []

def demoApiInputs (n : ℕ) : ApiInputs where
  toAppInputs := demoAppInputs n

def demoApiSolo (t n : ℕ) (call : ApiCall) : List ApiAction :=
  .spawn t call :: Label.solo t demoApiInputs n

def demoApiLogin : ApiCall := .login { email := "demo@bank.local", password := "Demo1234!" }

def demoApiVerifyMfa : ApiCall := .verifyMfa demoPreMfaToken "123456" {}

def demoApiPayment : ApiCall :=
  .request demoAccessToken (.payment (.internalTransfer (demoTransfer .small)) (some " k1 "))

def demoAdminPreMfaToken : Token where
  payload := { sub := demoIds .adminUser, email := "admin@bank.local", mfaVerified := false }
  iat := 0
  exp := 600

def demoAdminToken : Token where
  payload := {
    sub := demoIds .adminUser, email := "admin@bank.local", mfaVerified := true,
    sessionId := some (.numbered 26999) }
  iat := 0
  exp := 900

def demoApiCredit : ApiCall :=
  .admin demoAdminToken (.creditAccount (demoIds .destAccount) demoCreditDto)

def demoApiCards : ApiCall := .request demoAccessToken .getCards

/-- Request 2 takes the steps from 10 to 14, request 3 those from 20 to 26, and the last three take
turns. -/
def demoApiTurns : List ApiAction :=
  demoApiSolo 0 5 demoApiLogin ++ demoApiSolo 1 7 demoApiVerifyMfa ++
    (.spawn 2 (.login { email := "admin@bank.local", password := "Demo1234!" }) ::
      Label.solo 2 (fun k => demoApiInputs (10 + k)) 5) ++
    (.spawn 3 (.verifyMfa demoAdminPreMfaToken "123456" {}) ::
      Label.solo 3 (fun k => demoApiInputs (20 + k)) 7) ++
    [.spawn 4 demoApiPayment, .spawn 5 demoApiCredit, .spawn 6 demoApiCards] ++
    (List.range 18).map fun k => .act (4 + k % 3) (demoApiInputs (30 + k))

end OnlineBanking
