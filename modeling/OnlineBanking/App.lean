import OnlineBanking.Cards
import OnlineBanking.Auth

set_option autoImplicit false

/-! The running backend. -/

namespace OnlineBanking

open Library AppService

/-- The services of the bank and of the cards are called with the user id that the guards of their
controllers have found; the requests to the auth controller bring their tokens themselves. -/
inductive AppCall
  | bank (call : Call)
  | blockCard (userId cardId : Uuid)
  | unblockCard (userId cardId : Uuid)
  | issueCard (userId : Uuid) (dto : IssueCardDto)
  | closeCard (userId cardId : Uuid)
  | initiateReveal (userId cardId : Uuid)
  | verifyReveal (userId cardId : Uuid) (otp : String)
  | login (dto : LoginDto)
  | verifyMfa (token : Token) (otp : String) (info : RequestMeta)
  | getSessions (token : Token)
  | revokeSession (token : Token) (sessionId : Uuid)
  | guarded (token : Token)

inductive AppResponse
  | bank (response : Response)
  | card (card : Card)
  | issued (card : IssuedCard)
  | closed
  | challenged (expiresInSeconds : ℕ)
  | revealed (details : CardDetails)
  | loggedIn (response : LoginResponse)
  | verified (accessToken : Token)
  | sessions (views : List SessionView)
  | revoked (view : SessionView)
  | admitted (payload : JwtAccessPayload)

/-- The last one stands for every other request behind the guards. -/
def handleApp (host : Host) : AppCall → AppService AppResponse
  | .bank call => do return .bank (← lift (handle host.sha256 call))
  | .blockCard userId cardId => do return .card (← blockCard userId cardId)
  | .unblockCard userId cardId => do return .card (← unblockCard userId cardId)
  | .issueCard userId dto => do return .issued (← issueCard userId dto)
  | .closeCard userId cardId => do
    closeCard userId cardId
    return .closed
  | .initiateReveal userId cardId => do return .challenged (← initiateReveal userId cardId)
  | .verifyReveal userId cardId otp => do return .revealed (← verifyReveal userId cardId otp)
  | .login dto => do return .loggedIn (← login host dto)
  | .verifyMfa token otp info => do
    let payload ← jwtAuthGuard token
    return .verified (← verifyMfa host payload otp info)
  | .getSessions token => do
    let payload ← useGuards token
    return .sessions (← getSessions payload.sub payload.sessionId)
  | .revokeSession token sessionId => do
    let payload ← useGuards token
    return .revoked (← revokeSession payload.sub sessionId)
  | .guarded token => do return .admitted (← useGuards token)

inductive AppEnvironment
  | tick (elapsed : ℕ)
  | credentialSet (userId : Uuid) (credential : Credential)

def appEnvironment : AppEnvironment → AppWorld → AppWorld
  | .tick elapsed, w => { w with now := w.now + elapsed }
  | .credentialSet userId credential, w =>
    { w with credentials := Function.update w.credentials userId credential }

abbrev App : Type 1 := Config AppInputs AppWorld AppEvent AppFailure AppCall AppResponse
abbrev AppAction : Type := Label AppInputs AppCall AppEnvironment
abbrev AppState : Type := Shared AppWorld AppEvent

namespace App

variable (host : Host)

abbrev start (w : AppWorld) : App := Config.init w

def step (b : App) (a : AppAction) : Option App := Config.step (handleApp host) appEnvironment b a

def run (b : App) (schedule : List AppAction) : Option App :=
  Config.run (handleApp host) appEnvironment b schedule

abbrev world (b : App) : AppWorld := b.shared.world

abbrev trace (b : App) : List (ℕ × AppEvent) := b.shared.trace

end App

end OnlineBanking
