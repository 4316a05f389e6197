import OnlineBanking.Api
import OnlineBanking.Library.Clients
import OnlineBanking.NotificationToaster

set_option autoImplicit false

/-! The frontend in one browser tab, as a client of the API: AuthContext, the routes of App.tsx with
NotificationToaster beside them, and the pages on which the user logs in and sees the profile, the
accounts, the cards, the notifications and the sessions. -/

namespace OnlineBanking.Browser

open Library

/-! context/AuthContext.tsx -/

structure SessionStorage where
  preMfaToken : Option Token := none
  accessToken : Option Token := none
  seenNotifIds : Option (Finset Uuid) := none

structure AuthState where
  preMfaToken : Option Token := none
  accessToken : Option Token := none

def load (storage : SessionStorage) : AuthState := ⟨storage.preMfaToken, storage.accessToken⟩

/-! api/client.ts -/

/-- `failed` stands for a request that no controller has answered. -/
inductive FetchError
  | apiError (failure : AppFailure)
  | failed

def apiFetch : Option (Except AppFailure ApiResponse) → Except FetchError ApiResponse
  | some (.ok response) => .ok response
  | some (.error failure) => .error (.apiError failure)
  | none => .error .failed

/-- What a handler does with the answer that it awaits. A handler keeps the token of the rendering
that it comes from; `acting` says that it resets the button it belongs to in the end. -/
inductive Then
  | login
  | verifyMfa
  | me
  | accounts
  | cards (acting : Bool)
  | cardAccounts
  | acted (token : Token) (issued : Bool)
  | initiated (cardId : Uuid)
  | verified
  | notifications
  | marked (token : Token)
  | sessions (acting : Bool)
  | revoked (token : Token)

abbrev Fetch : Type := ApiCall × Then

/-! pages/LoginPage.tsx and pages/MfaPage.tsx -/

structure LoginPage where
  email : String := "demo@bank.local"
  password : String := ""
  loading : Bool := false
  error : Option FetchError := none

inductive LoginEvent
  | setEmail (value : String)
  | setPassword (value : String)
  | submit

def LoginPage.react (p : LoginPage) : LoginEvent → Option (LoginPage × List Fetch)
  | .setEmail value => some ({ p with email := value }, [])
  | .setPassword value => some ({ p with password := value }, [])
  | .submit =>
    if p.loading = true ∨ p.email = "" ∨ p.password = "" then none
    else some ({ p with loading := true, error := none },
      [(.login ⟨trim p.email, p.password⟩, .login)])

def OTP_LEN : ℕ := 6

structure MfaPage where
  digits : List (Option Char) := List.replicate OTP_LEN none
  loading : Bool := false
  error : Option FetchError := none

/-- `val.slice(-1).replace(/\D/, '')` -/
def lastDigit (val : String) : Option Char := val.toList.getLast?.filter Char.isDigit

/-- `info` is what the browser says of itself. The boxes are shown as long as there is a token to
send. -/
def MfaPage.update (p : MfaPage) (preMfaToken : Token) (info : RequestMeta) (idx : ℕ)
    (val : String) :
    Option (MfaPage × List Fetch) :=
  if p.loading = true ∨ OTP_LEN ≤ idx then none
  else
    let digits := p.digits.set idx (lastDigit val)
    if digits.all Option.isSome then
      let otp := String.ofList (digits.filterMap id)
      some ({ digits, loading := true, error := none },
        [(.verifyMfa preMfaToken otp info, .verifyMfa)])
    else some ({ p with digits }, [])

def MfaPage.rejected (_ : MfaPage) (e : FetchError) : MfaPage where
  error := some e

/-! pages/DashboardPage.tsx -/

structure DashboardPage where
  me : Option MeView := none
  accounts : List AccountView := []
  loading : Bool := true
  error : Option FetchError := none

def DashboardPage.loads (token : Token) : List Fetch :=
  [(.request token .getMe, .me), (.request token .getAccounts, .accounts)]

def DashboardPage.receive (p : DashboardPage) : Then → Except FetchError ApiResponse → DashboardPage
  | .me, .ok (.me view) => { p with me := some view }
  | .accounts, .ok (.accounts views) => { p with accounts := views, loading := false }
  | .accounts, .error e => { p with error := some e, loading := false }
  | _, _ => p

/-! pages/CardsPage.tsx -/

/-- `actionLoading` -/
inductive CardAction
  | card (id : Uuid)
  | issue
  | verify
  deriving DecidableEq

structure CardsPage where
  cards : List CardView := []
  accounts : List AccountView := []
  loading : Bool := true
  errorMsg : Option FetchError := none
  actionLoading : Option CardAction := none
  showIssueForm : Bool := false
  newCardAccountId : Option Uuid := none
  newCardType : CardType := .debit
  revealModalCardId : Option Uuid := none
  otp : String := ""
  revealError : Option FetchError := none
  revealedDetails : Option CardDetails := none
  revealTimeLeft : ℕ := 0

/-- `tick` is the timer of a second, which is set as long as `revealTimeLeft` is positive; `close`
comes after the user has confirmed it. -/
inductive CardsEvent
  | openIssueForm
  | cancelIssueForm
  | selectAccount (id : Uuid)
  | selectType (cardType : CardType)
  | issue
  | block (id : Uuid)
  | unblock (id : Uuid)
  | close (id : Uuid)
  | viewDetails (id : Uuid)
  | setOtp (value : String)
  | verify
  | hide
  | tick

namespace CardsPage

def loads (token : Token) : List Fetch :=
  [(.request token .getCards, .cards false), (.request token .getAccounts, .cardAccounts)]

def handleHideDetails (p : CardsPage) : CardsPage :=
  { p with revealedDetails := none, revealModalCardId := none, otp := "", revealTimeLeft := 0 }

/-- The effect that watches `revealTimeLeft` and `revealedDetails`. -/
def timeout (p : CardsPage) : CardsPage :=
  if p.revealTimeLeft = 0 ∧ p.revealedDetails.isSome then p.handleHideDetails else p

def Offers (p : CardsPage) (id : Uuid) (shown : CardStatus → Prop) : Prop :=
  p.loading = false ∧ (∃ view ∈ p.cards, view.id = id ∧ shown view.status) ∧
    p.actionLoading ≠ some (.card id)

instance (p : CardsPage) (id : Uuid) (shown : CardStatus → Prop) [DecidablePred shown] :
    Decidable (p.Offers id shown) :=
  inferInstanceAs (Decidable (_ ∧ _ ∧ _))

/-- `expiry` of the answer, `res.revealExpiresInSeconds || 60` -/
def expiry (details : CardDetails) : ℕ :=
  if details.revealExpiresInSeconds = 0 then 60 else details.revealExpiresInSeconds

def act (p : CardsPage) (id : Uuid) (fetch : Fetch) : CardsPage × List Fetch :=
  ({ p with actionLoading := some (.card id) }, [fetch])

def react (p : CardsPage) (token : Token) : CardsEvent → Option (CardsPage × List Fetch)
  | .openIssueForm => some ({ p with showIssueForm := true }, [])
  | .cancelIssueForm => some ({ p with showIssueForm := false }, [])
  | .selectAccount id =>
    if p.showIssueForm = true ∧ ∃ view ∈ p.accounts, view.id = id then some
      ({ p with newCardAccountId := some id }, [])
    else none
  | .selectType cardType =>
    if p.showIssueForm then some ({ p with newCardType := cardType }, []) else none
  | .issue =>
    match p.newCardAccountId with
    | none => none
    | some accountId =>
      if p.showIssueForm = true ∧ p.actionLoading ≠ some .issue then
        some ({ p with actionLoading := some .issue, errorMsg := none },
          [(.request token (.issueCard ⟨accountId, p.newCardType⟩), .acted token true)])
      else none
  | .block id =>
    if p.Offers id (· = .active) then some
      (p.act id (.request token (.blockCard id), .acted token false)) else none
  | .unblock id =>
    if p.Offers id (· ≠ .active) then some
      (p.act id (.request token (.unblockCard id), .acted token false)) else none
  | .close id =>
    if p.Offers id (fun _ => True) then some
      (p.act id (.request token (.closeCard id), .acted token false)) else none
  | .viewDetails id =>
    if p.Offers id (· = .active) then some
      (p.act id (.request token (.initiateReveal id), .initiated id)) else none
  | .setOtp value =>
    if p.revealModalCardId.isSome ∧ p.revealedDetails.isNone ∧ value.length ≤ 6 then
      some ({ p with otp := String.ofList (value.toList.filter Char.isDigit) }, [])
    else none
  | .verify =>
    match p.revealModalCardId with
    | none => none
    | some id =>
      if p.revealedDetails.isNone ∧ p.otp.length = 6 ∧ p.actionLoading ≠ some .verify then
        some ({ p with actionLoading := some .verify, revealError := none },
          [(.request token (.verifyReveal id p.otp), .verified)])
      else none
  | .hide =>
    if p.revealModalCardId.isSome ∨ p.revealedDetails.isSome then some (p.handleHideDetails, [])
      else none
  | .tick =>
    if 0 < p.revealTimeLeft then some ({ p with revealTimeLeft := p.revealTimeLeft - 1 }.timeout,
      []) else none

def receive (p : CardsPage) : Then → Except FetchError ApiResponse → CardsPage
  | .cards acting, .ok (.cards views) =>
    { p with
      cards := views
      errorMsg := none
      loading := false
      actionLoading := if acting then none else p.actionLoading }
  | .cards acting, .error e =>
    { p with
      errorMsg := some e
      loading := false
      actionLoading := if acting then none else p.actionLoading }
  | .cardAccounts, .ok (.accounts views) =>
    let activeNonSystem := views.filter fun view => view.status = .active
    { p with
      accounts := activeNonSystem
      newCardAccountId :=
        match activeNonSystem with
        | [] => p.newCardAccountId
        | view :: _ => some view.id }
  | .acted _ issued, .ok _ =>
    { p with showIssueForm := p.showIssueForm && !issued, loading := true }
  | .acted _ _, .error e => { p with errorMsg := some e, actionLoading := none }
  | .initiated cardId, .ok _ =>
    { p with
      revealModalCardId := some cardId, otp := "", revealError := none, revealedDetails := none,
      actionLoading := none }
  | .initiated _, .error e => { p with errorMsg := some e, actionLoading := none }
  | .verified, .ok (.service (.revealed details)) =>
    { p with
      revealedDetails := some details, revealTimeLeft := expiry details,
      actionLoading := none }.timeout
  | .verified, .error e => { p with revealError := some e, actionLoading := none }
  | _, _ => p

end CardsPage

/-! pages/NotificationsPage.tsx and pages/SecurityPage.tsx -/

structure NotificationsPage where
  notifications : List Notification := []
  loading : Bool := true

inductive NotificationsEvent
  | markRead (id : Uuid)
  | markAllRead

namespace NotificationsPage

def loads (token : Token) : List Fetch := [(.request token .getNotifications, .notifications)]

def react (p : NotificationsPage) (token : Token) :
    NotificationsEvent → Option (NotificationsPage × List Fetch)
  | .markRead id =>
    if p.loading = false ∧ ∃ n ∈ p.notifications, n.id = id ∧ n.readAt = none then
      some (p, [(.request token (.markAsRead id.text), .marked token)])
    else none
  | .markAllRead =>
    if ∃ n ∈ p.notifications, n.readAt = none then some
      (p, [(.request token .markAllAsRead, .marked token)]) else none

def receive (p : NotificationsPage) : Then → Except FetchError ApiResponse → NotificationsPage
  | .notifications, .ok (.notifications rows) => { notifications := rows, loading := false }
  | .notifications, .error _ => { p with loading := false }
  | _, _ => p

end NotificationsPage

structure SecurityPage where
  sessions : List SessionView := []
  loading : Bool := true
  error : Option FetchError := none
  revokingId : Option Uuid := none

namespace SecurityPage

def loads (token : Token) : List Fetch := [(.getSessions token, .sessions false)]

/-- The button is there on sessions that are active, and are not the one in use. -/
def handleRevoke (p : SecurityPage) (token : Token) (id : Uuid) :
    Option (SecurityPage × List Fetch) :=
  if p.loading = false ∧ p.revokingId ≠ some id ∧
      ∃ view ∈ p.sessions, view.id = id ∧ view.revokedAt = none ∧ view.isActive = true ∧
        view.isCurrent = false then
    some ({ p with revokingId := some id }, [(.revokeSession token id, .revoked token)])
  else none

def receive (p : SecurityPage) : Then → Except FetchError ApiResponse → SecurityPage
  | .sessions acting, .ok (.service (.sessions views)) =>
    { sessions := views, loading := false, error := none, revokingId := if acting then none
      else p.revokingId }
  | .sessions acting, .error e =>
    { p with
      error := some e, loading := false, revokingId := if acting then none else p.revokingId }
  | .revoked _, .ok _ => { p with loading := true }
  | .revoked _, .error e => { p with error := some e, revokingId := none }
  | _, _ => p

end SecurityPage

/-! App.tsx and components/ProtectedRoute.tsx -/

inductive Path
  | root | register | mfa | dashboard | transfer | merchantsPay | transactions | beneficiaries |
    cards | statements
  | adminCustomers | adminAudit | notifications | security
  deriving DecidableEq

def Path.isProtected : Path → Bool
  | root | register | mfa => false
  | _ => true

/-- Neither TransferPage nor MerchantPayPage has the button. -/
def Path.hasSignOut : Path → Bool
  | transfer | merchantsPay => false
  | path => path.isProtected

inductive Page
  | login (page : LoginPage)
  | mfa (page : MfaPage)
  | dashboard (page : DashboardPage)
  | cards (page : CardsPage)
  | notifications (page : NotificationsPage)
  | security (page : SecurityPage)
  | other

def Page.at_ : Path → Page
  | .root => .login {}
  | .mfa => .mfa {}
  | .dashboard => .dashboard {}
  | .cards => .cards {}
  | .notifications => .notifications {}
  | .security => .security {}
  | _ => .other

/-- The effect on `[accessToken]`. -/
def Page.load (token : Token) : Page → Page × List Fetch
  | .dashboard p => (.dashboard p, DashboardPage.loads token)
  | .cards p => (.cards { p with loading := true }, CardsPage.loads token)
  | .notifications p => (.notifications p, NotificationsPage.loads token)
  | .security p => (.security { p with loading := true }, SecurityPage.loads token)
  | p => (p, [])

def Page.receive (th : Then) (outcome : Except FetchError ApiResponse) : Page → Page
  | .dashboard p => .dashboard (p.receive th outcome)
  | .cards p => .cards (p.receive th outcome)
  | .notifications p => .notifications (p.receive th outcome)
  | .security p => .security (p.receive th outcome)
  | p => p

def Then.next : Then → Except FetchError ApiResponse → List Fetch
  | .acted token _, .ok _ => [(.request token .getCards, .cards true)]
  | .marked token, .ok _ => [(.request token .getNotifications, .notifications)]
  | .revoked token, .ok _ => [(.getSessions token, .sessions true)]
  | _, _ => []

/-! components/NotificationToaster.tsx -/

/-- The refs and the state of the component; `effect` counts the runs of its effect, and `tokens`
are those that it has run for, the latest first. -/
structure Toaster where
  seenIds : Finset Uuid := ∅
  initialLoadDone : Bool := false
  toasts : List Notification := []
  effect : ℕ := 0
  tokens : List Token := []

namespace Toaster

def mounted (storage : SessionStorage) : Toaster where
  seenIds := storage.seenNotifIds.getD ∅

/-- The effect on `[accessToken]`, which was `old`. -/
def watch (r : Toaster) (old accessToken : Option Token) : Toaster :=
  if accessToken = old then r else { r with
    effect := r.effect + 1, tokens := accessToken.toList ++ r.tokens }

def fetchNotifs (r : Toaster) (notifs : List Notification) : NotificationToaster.Fetched :=
  NotificationToaster.Page.fetchNotifs
    { seenIds := r.seenIds, initialLoadDone := r.initialLoadDone, toasts := r.toasts } notifs

def handleClose (r : Toaster) (id : Uuid) : Toaster :=
  { r with toasts := r.toasts.filter fun t => t.id ≠ id }

end Toaster

/-- `load_` counts the loads of the document, `mount` the pages that have been mounted in it;
`tokens` are those for which the effect of the page has run, the latest first. -/
structure Tab where
  storage : SessionStorage := {}
  auth : AuthState := {}
  load_ : ℕ := 0
  mount : ℕ := 0
  path : Path := .root
  page : Page := .login {}
  tokens : List Token := []
  toaster : Toaster := {}

structure PageRequest where
  load_ : ℕ
  mount : ℕ
  call : ApiCall
  then_ : Then

inductive Request
  | page (q : PageRequest)
  | toaster (load_ effect : ℕ) (token : Token)

def Request.call : Request → ApiCall
  | .page q => q.call
  | .toaster _ _ token => .request token .getNotifications

inductive TabEvent
  | navigate (path : Path)
  | reload
  | logout
  | login (e : LoginEvent)
  | digit (idx : ℕ) (val : String)
  | cards (e : CardsEvent)
  | notifications (e : NotificationsEvent)
  | revoke (id : Uuid)
  | poll
  | closeToast (id : Uuid)

namespace Tab

def savePreMfaToken (s : Tab) (t : Token) : Tab :=
  { s with
    storage := { s.storage with preMfaToken := some t }
    auth := { s.auth with preMfaToken := some t } }

def saveAccessToken (s : Tab) (t : Token) : Tab :=
  { s with
    storage := { s.storage with preMfaToken := none, accessToken := some t }
    auth := ⟨none, some t⟩ }

def logout (s : Tab) : Tab := { s with storage := {}, auth := {} }

/-- The page asks for this on its own behalf. -/
def requests (s : Tab) (fetches : List Fetch) : List PageRequest :=
  fetches.map fun f => ⟨s.load_, s.mount, f.1, f.2⟩

/-- A page is mounted: the one of the route, or LoginPage where ProtectedRoute finds no token. -/
def enter (s : Tab) (path : Path) : Tab × List PageRequest :=
  let s := { s with mount := s.mount + 1 }
  match path.isProtected, s.auth.accessToken with
  | true, some token =>
    let s := { s with path, page := ((Page.at_ path).load token).1, tokens := [token] }
    (s, s.requests ((Page.at_ path).load token).2)
  | true, none => ({ s with path := .root, page := Page.at_ .root, tokens := [] }, [])
  | false, _ => ({ s with path, page := Page.at_ path, tokens := [] }, [])

/-- The rendering after an update: a page that stays runs its effect again if the token is a new
one. -/
def render (s : Tab) (path : Path) : Tab × List PageRequest :=
  if path = s.path then
    match path.isProtected, s.auth.accessToken with
    | true, some token =>
      if s.tokens.head? = some token then (s, [])
      else
        let s' := { s with page := (s.page.load token).1, tokens := token :: s.tokens }
        (s', s'.requests (s.page.load token).2)
    | true, none => s.enter path
    | false, _ => (s, [])
  else s.enter path

def ofPage (x : Tab × List PageRequest) : Tab × List Request := (x.1, x.2.map .page)

/-- NotificationToaster comes first, with the effect that watches the token. -/
def commit (s : Tab) (old : Option Token) (rendering : Tab → Tab × List PageRequest) :
    Tab × List Request :=
  let s' := { s with toaster := s.toaster.watch old s.auth.accessToken }
  let x := rendering s'
  let polls := if s.auth.accessToken = old then [] else s.auth.accessToken.toList
  (x.1, polls.map (.toaster s'.load_ s'.toaster.effect) ++ x.2.map .page)

def reload (s : Tab) : Tab × List Request :=
  { s with
    load_ := s.load_ + 1, auth := Browser.load s.storage, toaster := .mounted s.storage }.commit
      none
    (·.enter s.path)

/-- The toaster shows nothing on the routes that need no token. -/
def toasts (s : Tab) : List Notification := if s.path.isProtected then s.toaster.toasts else []

def withToken {P : Type} (s : Tab) (react : Token → Option (P × List Fetch)) (page : P → Page) :
    Option (Tab × List PageRequest) :=
  s.auth.accessToken.bind fun token => (react token).map fun x =>
    ({ s with page := page x.1 }, s.requests x.2)

def reactPage (info : RequestMeta) (s : Tab) : TabEvent → Option (Tab × List PageRequest)
  | .navigate path => some (s.render path)
  | .login e =>
    match s.page with
    | .login p => (p.react e).map fun x => ({ s with page := .login x.1 }, s.requests x.2)
    | _ => none
  | .digit idx val =>
    match s.page, s.auth.preMfaToken with
    | .mfa p, some token =>
      (p.update token info idx val).map fun x => ({ s with page := .mfa x.1 }, s.requests x.2)
    | _, _ => none
  | .cards e =>
    match s.page with
    | .cards p => s.withToken (p.react · e) .cards
    | _ => none
  | .notifications e =>
    match s.page with
    | .notifications p => s.withToken (p.react · e) .notifications
    | _ => none
  | .revoke id =>
    match s.page with
    | .security p => s.withToken (p.handleRevoke · id) .security
    | _ => none
  | _ => none

/-- `poll` is the interval of the effect, and `closeToast` the button or the timer of a toast. -/
def react (info : RequestMeta) (s : Tab) : TabEvent → Option (Tab × List Request)
  | .reload => some s.reload
  | .logout =>
    if s.path.hasSignOut then some (s.logout.commit s.auth.accessToken (·.render .root)) else none
  | .poll => s.auth.accessToken.map fun token => (s, [.toaster s.load_ s.toaster.effect token])
  | .closeToast id =>
    if ∃ t ∈ s.toasts, t.id = id then some ({ s with toaster := s.toaster.handleClose id }, [])
      else none
  | e => (s.reactPage info e).map ofPage

/-- LoginPage and MfaPage, in the catch and finally of their handlers. -/
def refused (s : Tab) (e : FetchError) : Tab :=
  match s.page with
  | .login p => { s with page := .login { p with loading := false, error := some e } }
  | .mfa p => { s with page := .mfa (p.rejected e) }
  | _ => s

/-- A page that is gone takes no update, but its handlers go on: they save the token and navigate,
or send what comes next. -/
def receivePage (s : Tab) (q : PageRequest) (a : Option (Except AppFailure ApiResponse)) :
    Tab × List Request :=
  match q.then_, apiFetch a with
  | .login, .ok (.service (.loggedIn res)) =>
    ofPage ((s.savePreMfaToken res.accessToken).render .mfa)
  | .verifyMfa, .ok (.service (.verified accessToken)) =>
    (s.saveAccessToken accessToken).commit s.auth.accessToken (·.render .dashboard)
  | .login, .error e => (if q.mount = s.mount then s.refused e else s, [])
  | .verifyMfa, .error e => (if q.mount = s.mount then s.refused e else s, [])
  | th, outcome =>
    ofPage (if q.mount = s.mount then { s with page := s.page.receive th outcome } else s,
      (th.next outcome).map fun f => ⟨q.load_, q.mount, f.1, f.2⟩)

/-- The toaster ignores an error. -/
def receiveNotifs (s : Tab) (outcome : Except FetchError ApiResponse) : Tab :=
  match outcome with
  | .ok (.notifications notifs) =>
    let fetched := s.toaster.fetchNotifs notifs
    { s with
      toaster := {
        s.toaster with
        seenIds := fetched.page.seenIds
        initialLoadDone := fetched.page.initialLoadDone
        toasts := fetched.page.toasts }
      storage := if fetched.updated then { s.storage with
        seenNotifIds := some fetched.page.seenIds } else s.storage }
  | _ => s

/-- The answers of another load of the document find nobody, nor do those of an effect that has been
cleaned up. -/
def receive (s : Tab) (q : Request) (a : Option (Except AppFailure ApiResponse)) :
    Tab × List Request :=
  match q with
  | .page q => if q.load_ = s.load_ then s.receivePage q a else (s, [])
  | .toaster load_ effect _ =>
    if load_ = s.load_ ∧ effect = s.toaster.effect then (s.receiveNotifs (apiFetch a), [])
      else (s, [])

end Tab

/-- `info` is what the browser says of itself. -/
def client (info : RequestMeta) :
    Client Request ApiCall (Except AppFailure ApiResponse) TabEvent Tab where
  call := Request.call
  react := Tab.react info
  receive := Tab.receive

abbrev Browsing : Type 1 := Connection ApiInputs ApiWorld AppEvent AppFailure ApiCall
    ApiResponse Request Tab

abbrev Move : Type := ClientLabel ApiInputs ApiCall AppEnvironment TabEvent

/-- What the validation pipe lets through, and the throttler at the time, is up to `admits`; other
clients act at the server as well. -/
def Browsing.run (host : Host) (info : RequestMeta) (admits : ApiCall → Bool) (s : Browsing)
    (moves : List Move) :
    Option Browsing :=
  Connection.run (client info) (handleApi host) apiEnvironment admits s moves

def Browsing.open_ (w : ApiWorld) : Browsing := Connection.start w {}

end OnlineBanking.Browser
