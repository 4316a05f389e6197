import OnlineBanking.App
import OnlineBanking.Library.Scripts

set_option autoImplicit false

/-! The HTTP API: the controllers with their guards, and the reads that only answer. -/

namespace OnlineBanking

open Library

/-- Beside the world of the services, the names of the roles that a user is connected to. -/
structure ApiWorld extends AppWorld where
  roles : Uuid → List String

/-- No order is asked of some of the rows: `rank` decides, and `collate` compares names. -/
structure ApiInputs extends AppInputs where
  rank : Uuid → ℕ := fun _ => 0
  collate : String → String → Bool := fun a b => a ≤ b

/-- Only register creates users, and in the same statement it connects them to the role CLIENT. -/
def appPart : Part AppInputs AppWorld AppEvent AppFailure ApiInputs ApiWorld AppEvent
    AppFailure where
  input := ApiInputs.toAppInputs
  get := ApiWorld.toAppWorld
  put v w := {
    toAppWorld := v
    roles := fun id =>
      if (w.db.users.find id).isNone ∧ (v.db.users.find id).isSome then ["CLIENT"] else w.roles id }
  event := id
  ofEvent := some
  failure := id
  get_put _ _ := rfl
  ofEvent_event _ := rfl

structure MeView where
  userId : Uuid
  email : String
  roles : List String
  customerProfileId : Option Uuid
  fullLegalName : Option String
  kycStatus : Option KycStatus
  verifiedAt : Option Instant

structure AccountView where
  id : Uuid
  iban : String
  currency : String
  availableBalance : ℚ
  accountType : String
  status : AccountStatus

structure CardAccountView where
  id : Uuid
  iban : String
  accountType : String
  currency : String

structure CardView where
  id : Uuid
  maskedPan : String
  cardType : CardType
  status : CardStatus
  account : Option CardAccountView

structure MerchantView where
  id : Uuid
  name : String
  merchantCode : String
  category : String

structure CustomerView where
  id : Uuid
  user : Option (Uuid × String)
  fullLegalName : String
  kycStatus : KycStatus
  verifiedAt : Option Instant
  accounts : List AccountView

def Account.view (a : Account) : AccountView := { a with }

def Account.cardView (a : Account) : CardAccountView := { a with }

def Card.view (db : Db) (c : Card) : CardView where
  id := c.id
  maskedPan := c.maskedPan
  cardType := c.cardType
  status := c.status
  account := (db.accounts.find c.accountId).map Account.cardView

def Merchant.view (m : Merchant) : MerchantView := { m with }

namespace Db

/-- AuthService.getMe, on a user that is there. -/
def me (db : Db) (user : User) (roles : List String) : MeView where
  userId := user.id
  email := user.email
  roles := roles
  customerProfileId := (db.customerProfiles.findAlt user.id).map CustomerProfile.id
  fullLegalName := (db.customerProfiles.findAlt user.id).map CustomerProfile.fullLegalName
  kycStatus := (db.customerProfiles.findAlt user.id).map CustomerProfile.kycStatus
  verifiedAt := (db.customerProfiles.findAlt user.id).bind CustomerProfile.verifiedAt

/-- Rows are added at the end, so that they stand in the order of `openedAt`. -/
def accountsOf (db : Db) (customerId : Uuid) : List Account :=
  db.accounts.rows.filter fun a => a.customerId = customerId

def ordinaryAccounts (db : Db) (customerId : Uuid) : List AccountView :=
  ((db.accountsOf customerId).filter fun a => a.isSystem = false).map Account.view

def customerView (db : Db) (p : CustomerProfile) : CustomerView where
  id := p.id
  user := (db.users.find p.userId).map fun user => (user.id, user.email)
  fullLegalName := p.fullLegalName
  kycStatus := p.kycStatus
  verifiedAt := p.verifiedAt
  accounts := db.ordinaryAccounts p.id

/-- `OR: [{ accounts: { none: {} } }, { accounts: { some: { isSystem: false } } }]` -/
def isCustomer (db : Db) (p : CustomerProfile) : Bool :=
  (db.accountsOf p.id).isEmpty || (db.accountsOf p.id).any fun a => a.isSystem = false

/-- AdminService.getCustomers: the latest first. -/
def customers (db : Db) : List CustomerView :=
  (db.customerProfiles.rows.filter db.isCustomer).reverse.map db.customerView

def activeMerchants (db : Db) (collate : String → String → Bool) : List MerchantView :=
  ((db.merchants.rows.filter fun m => m.status = .active).insertionSort fun a b =>
    collate a.name b.name).map Merchant.view

end Db

def ApiWorld.openCards (w : ApiWorld) (customerId : Uuid) (rank : Uuid → ℕ) : List CardView :=
  ((w.cards.rows.filter fun c => c.customerId = customerId ∧ c.status ≠ .closed).insertionSort
    fun a b => rank a.id ≤ rank b.id).map (Card.view w.db)

/-- The requests behind JwtAuthGuard and MfaVerifiedGuard. The last stands for those whose answers
are no part of the model here. -/
inductive CustomerRoute
  | payment (request : PaymentRequest) (idempotencyKey : Option String)
  | confirmStepUp (challengeId otp : String)
  | createBeneficiary (dto : CreateBeneficiaryDto)
  | removeBeneficiary (beneficiaryId : Uuid)
  | markAsRead (id : String)
  | markAllAsRead
  | blockCard (cardId : Uuid)
  | unblockCard (cardId : Uuid)
  | issueCard (dto : IssueCardDto)
  | closeCard (cardId : Uuid)
  | initiateReveal (cardId : Uuid)
  | verifyReveal (cardId : Uuid) (otp : String)
  | getMe
  | getAccounts
  | getCards
  | getMerchants
  | getNotifications
  | other

inductive AdminRoute
  | verifyCustomer (id : Uuid)
  | rejectCustomer (id : Uuid)
  | creditAccount (accountId : Uuid) (dto : AdminCreditDto)
  | getCustomers
  | other

def CustomerRoute.service (userId : Uuid) : CustomerRoute → Option AppCall
  | .payment request idempotencyKey =>
    some (.bank (.payment userId request (idempotencyKey.getD "")))
  | .confirmStepUp challengeId otp => some (.bank (.confirmStepUp userId challengeId otp))
  | .createBeneficiary dto => some (.bank (.createBeneficiary userId dto))
  | .removeBeneficiary beneficiaryId => some (.bank (.removeBeneficiary userId beneficiaryId))
  | .markAsRead id => some (.bank (.markAsRead id userId))
  | .markAllAsRead => some (.bank (.markAllAsRead userId))
  | .blockCard cardId => some (.blockCard userId cardId)
  | .unblockCard cardId => some (.unblockCard userId cardId)
  | .issueCard dto => some (.issueCard userId dto)
  | .closeCard cardId => some (.closeCard userId cardId)
  | .initiateReveal cardId => some (.initiateReveal userId cardId)
  | .verifyReveal cardId otp => some (.verifyReveal userId cardId otp)
  | _ => none

def AdminRoute.service (adminUserId : Uuid) : AdminRoute → Option AppCall
  | .verifyCustomer id => some (.bank (.updateKycStatus adminUserId id .verified))
  | .rejectCustomer id => some (.bank (.updateKycStatus adminUserId id .rejected))
  | .creditAccount accountId dto => some (.bank (.creditAccount adminUserId accountId dto))
  | _ => none

inductive ApiCall
  | register (dto : RegisterDto)
  | login (dto : LoginDto)
  | verifyMfa (token : Token) (otp : String) (info : RequestMeta)
  | getSessions (token : Token)
  | revokeSession (token : Token) (sessionId : Uuid)
  | request (token : Token) (route : CustomerRoute)
  | admin (token : Token) (route : AdminRoute)

inductive ApiResponse
  | service (response : AppResponse)
  | me (view : MeView)
  | accounts (views : List AccountView)
  | cards (views : List CardView)
  | merchants (views : List MerchantView)
  | notifications (rows : List Notification)
  | customers (views : List CustomerView)
  | other

abbrev ApiScript : Type 1 := Script ApiInputs ApiWorld AppFailure AppCall AppResponse ApiResponse

namespace ApiScript

def answer (response : ApiResponse) : ApiScript := .done (.ok response)

def fail (failure : AppFailure) : ApiScript := .done (.error failure)

def ask (call : AppCall) (k : AppResponse → ApiScript) : ApiScript :=
  .call call fun r =>
    match r with
    | .ok response => k response
    | .error e => fail e

def serve (call : AppCall) : ApiScript := ask call fun response => answer (.service response)

def query {α : Type} (l : AppStatement) (f : ApiInputs → ApiWorld → α)
    (k : α → ApiScript) : ApiScript :=
  .look (fun i w =>
      match i.outage l with
      | some e => Except.error (AppFailure.service (.prisma e))
      | none => .ok (f i w)) fun r =>
    match r with
    | .ok a => k a
    | .error e => fail e

/-- `@UseGuards(JwtAuthGuard, MfaVerifiedGuard)`, which answer with the payload of the token. -/
def behindGuards (token : Token) (k : JwtAccessPayload → ApiScript) : ApiScript :=
  ask (.guarded token) fun response =>
    match response with
    | .admitted payload => k payload
    | _ => fail (.unauthorized "Unauthorized")

def rolesGuard (requiredRoles : List String) (user : JwtAccessPayload)
    (k : ApiScript) : ApiScript :=
  if requiredRoles = [] then k
  else
    query .userRead (fun _ w => (w.db.users.find user.sub).map fun dbUser =>
      ((w.credentials dbUser.id).isActive, w.roles dbUser.id)) fun found =>
        match found with
        | none => fail (.forbidden "Forbidden resource")
        | some (isActive, userRoles) =>
          if isActive = false then fail (.forbidden "Forbidden resource")
          else if requiredRoles.any fun role => userRoles.contains role then k
          else fail (.forbidden "Forbidden resource")

def getMe (userId : Uuid) : ApiScript :=
  query .userRead (fun _ w => (w.db.users.find userId).map fun user =>
    w.db.me user (w.roles user.id)) fun found =>
    match found with
    | none => fail (.unauthorized "User not found")
    | some view => answer (.me view)

def ofProfile (userId : Uuid) (none_ : ApiScript) (k : Uuid → ApiScript) : ApiScript :=
  query .userRead (fun _ w => (w.db.customerProfiles.findAlt userId).map CustomerProfile.id)
    fun found =>
    match found with
    | none => none_
    | some id => k id

def getAccounts (userId : Uuid) : ApiScript :=
  ofProfile userId (answer (.accounts [])) fun customerId =>
    query .accountFind (fun _ w => w.db.ordinaryAccounts customerId) fun views =>
      answer (.accounts views)

def getCards (userId : Uuid) : ApiScript :=
  ofProfile userId (answer (.cards [])) fun customerId =>
    query .cardFind (fun i w => w.openCards customerId i.rank) fun views => answer (.cards views)

def getMerchants : ApiScript :=
  query .userRead (fun i w => w.db.activeMerchants i.collate) fun views => answer (.merchants views)

def getNotifications (userId : Uuid) : ApiScript :=
  query .userRead (fun _ w => findAllForUser w.db.notifications userId)
    fun rows => answer (.notifications rows)

def getCustomers : ApiScript :=
  query .userRead (fun _ w => w.db.customers) fun views => answer (.customers views)

def read (userId : Uuid) : CustomerRoute → ApiScript
  | .getMe => getMe userId
  | .getAccounts => getAccounts userId
  | .getCards => getCards userId
  | .getMerchants => getMerchants
  | .getNotifications => getNotifications userId
  | _ => answer .other

def adminRead : AdminRoute → ApiScript
  | .getCustomers => getCustomers
  | _ => answer .other

def route (userId : Uuid) (r : CustomerRoute) : ApiScript :=
  match r.service userId with
  | some call => serve call
  | none => read userId r

def adminRoute (adminUserId : Uuid) (r : AdminRoute) : ApiScript :=
  match r.service adminUserId with
  | some call => serve call
  | none => adminRead r

end ApiScript

def ApiCall.service : ApiCall → Option AppCall
  | .register dto => some (.bank (.register dto))
  | .login dto => some (.login dto)
  | .verifyMfa token otp info => some (.verifyMfa token otp info)
  | .getSessions token => some (.getSessions token)
  | .revokeSession token sessionId => some (.revokeSession token sessionId)
  | _ => none

open ApiScript in
def ApiCall.script : ApiCall → ApiScript
  | .request token r => behindGuards token fun payload => route payload.sub r
  | .admin token r =>
    behindGuards token fun payload => rolesGuard ["ADMIN"] payload (adminRoute payload.sub r)
  | call =>
    match call.service with
    | some c => serve c
    | none => answer .other

def handleApi (host : Host) (call : ApiCall) :
    Prog ApiInputs ApiWorld AppEvent AppFailure ApiResponse :=
  call.script.prog appPart (handleApp host)

def apiEnvironment (e : AppEnvironment) (w : ApiWorld) : ApiWorld :=
  { w with toAppWorld := appEnvironment e w.toAppWorld }

abbrev Api : Type 1 := Config ApiInputs ApiWorld AppEvent AppFailure ApiCall ApiResponse
abbrev ApiAction : Type := Label ApiInputs ApiCall AppEnvironment

namespace Api

variable (host : Host)

abbrev start (w : ApiWorld) : Api := Config.init w

def step (b : Api) (a : ApiAction) : Option Api := Config.step (handleApi host) apiEnvironment b a

def run (b : Api) (schedule : List ApiAction) : Option Api :=
  Config.run (handleApi host) apiEnvironment b schedule

abbrev world (b : Api) : ApiWorld := b.shared.world

end Api

end OnlineBanking
