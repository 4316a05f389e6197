import OnlineBanking.AppWorld

set_option autoImplicit false

/-! auth.service.ts with the strategy and the guards in front of the controllers. -/

namespace OnlineBanking

open Library AppService

def mfaOtpTtlSeconds : ℕ := 300

def sessionTtl : ℕ := 7 * 24 * 60 * 60 * 1000 * 1000

def mfaKey (userId : Uuid) : String := "mfa:otp:" ++ userId.text

/-- What the service takes from its libraries and its configuration; life times in seconds. -/
structure Host where
  sha256 : String → String
  bcryptCompare : String → String → Bool
  jwtPreMfaExpiresIn : ℕ := 10 * 60
  jwtAccessExpiresIn : ℕ := 15 * 60

structure LoginDto where
  email : String
  password : String

structure RequestMeta where
  userAgent : Option String := none
  ipAddress : Option String := none

structure LoginResponse where
  accessToken : Token
  mfaRequired : Bool
  expiresInSeconds : ℕ

structure SessionView where
  id : Uuid
  userAgent : Option String
  ipAddress : Option String
  createdAt : Instant
  expiresAt : Instant
  revokedAt : Option Instant
  isCurrent : Bool := false
  isActive : Bool

def AuthSession.view (session : AuthSession) (isActive : Bool) : SessionView where
  id := session.id
  userAgent := session.userAgent
  ipAddress := session.ipAddress
  createdAt := session.createdAt
  expiresAt := session.expiresAt
  revokedAt := session.revokedAt
  isActive := isActive

def seconds (now : Instant) : ℕ := now / (1000 * 1000)

def signAsync (payload : JwtAccessPayload) (expiresIn : ℕ) : AppService Token :=
  Prog.atomic fun _ w =>
    let token : Token := { payload, iat := seconds w.now, exp := seconds w.now + expiresIn }
    (.ok token, { w with tokens := token :: w.tokens }, [.tokenSigned token])

/-- The signature, and the expiration that `ignoreExpiration: false` asks for. -/
def Token.accepted (token : Token) (w : AppWorld) : Bool :=
  token ∈ w.tokens && seconds w.now < token.exp

/-- `session.revokedAt || session.expiresAt <= new Date()` -/
def AuthSession.inactive (session : AuthSession) (now : Instant) : Bool :=
  session.revokedAt.isSome || session.expiresAt ≤ now

def findSession (payload : JwtAccessPayload) (id : Uuid) : AppService (Option AuthSession) :=
  statement .sessionFind fun _ w =>
    match w.sessions.find id with
    | none => .ok (none, w, [])
    | some session => .ok (some session, w, [.sessionRead payload session w.now])

def validate (payload : JwtAccessPayload) : AppService JwtAccessPayload := do
  match payload.mfaVerified, payload.sessionId with
  | true, some id =>
    match ← findSession payload id with
    | none => throw (.unauthorized "Session is no longer active")
    | some session =>
      if session.userId ≠ payload.sub then throw (.unauthorized "Session is no longer active")
      else
        let now ← newDate
        if session.inactive now then throw (.unauthorized "Session is no longer active")
        else return payload
  | _, _ => return payload

def jwtAuthGuard (token : Token) : AppService JwtAccessPayload := do
  let signed ← Prog.atomic fun _ w => (.ok (token.accepted w), w, [])
  if signed then validate token.payload else throw (.unauthorized "Unauthorized")

def mfaVerifiedGuard (payload : JwtAccessPayload) : AppService Unit :=
  if payload.mfaVerified then Prog.atomic fun _ w => (.ok (), w, [.passed payload])
  else throw (.forbidden "MFA verification is required before this action.")

/-- `@UseGuards(JwtAuthGuard, MfaVerifiedGuard)` -/
def useGuards (token : Token) : AppService JwtAccessPayload := do
  let payload ← jwtAuthGuard token
  mfaVerifiedGuard payload
  return payload

def login (host : Host) (dto : LoginDto) : AppService LoginResponse := do
  let found ← read .userRead fun _ w =>
    (w.db.users.findAlt (emailNorm dto.email)).map fun user => (user, w.credentials user.id)
  match found with
  | none => throw (.unauthorized "Invalid credentials")
  | some (user, credential) =>
    if credential.isActive = false then throw (.unauthorized "Invalid credentials")
    else
      let passwordOk ← Prog.atomic fun _ w =>
        let ok := host.bcryptCompare dto.password credential.passwordHash
        (.ok ok, w, if ok then [.passwordAccepted user] else [])
      if passwordOk = false then throw (.unauthorized "Invalid credentials")
      else
        let otp ← Prog.atomic fun i w => (.ok i.otp, w, [])
        otpSet (mfaKey user.id) otp (mfaOtpTtlSeconds * 1000 * 1000)
        let accessToken ← signAsync { sub := user.id, email := user.email, mfaVerified := false }
          host.jwtPreMfaExpiresIn
        return { accessToken, mfaRequired := true, expiresInSeconds := mfaOtpTtlSeconds }

/-- `!stored || stored !== otp` -/
def rejectsOtp (stored : Option String) (otp : String) : Bool :=
  match stored with
  | none => true
  | some s => s = "" || s ≠ otp

def createSession (userId : Uuid) (expiresAt : Instant) (info : RequestMeta) :
    AppService AuthSession :=
  statement .sessionCreate fun i w =>
    let session : AuthSession := {
      id := i.newId, userId, refreshTokenHash := i.refreshTokenHash, userAgent := info.userAgent,
      ipAddress := info.ipAddress, createdAt := w.now, expiresAt }
    match w.sessions.insert session with
    | some sessions => .ok (session, { w with sessions }, [.sessionCreated session])
    | none => .error .uniqueViolation

def verifyMfa (host : Host) (userPayload : JwtAccessPayload) (otp : String) (info : RequestMeta) :
    AppService Token := do
  if userPayload.mfaVerified then fail (.badRequest "MFA already completed for this token")
  else
    let stored ← otpGet (mfaKey userPayload.sub)
    if rejectsOtp stored otp then throw (.unauthorized "Invalid or expired OTP")
    else
      otpDel (mfaKey userPayload.sub)
      let found ← read .userRead fun _ w =>
        (w.db.users.find userPayload.sub).map fun user => (user, w.credentials user.id)
      match found with
      | none => throw (.unauthorized "User no longer valid")
      | some (user, credential) =>
        if credential.isActive = false then throw (.unauthorized "User no longer valid")
        else
          let now ← newDate
          let session ← createSession user.id (now + sessionTtl) info
          let payload : JwtAccessPayload := {
            sub := user.id, email := user.email, mfaVerified := true, sessionId := some session.id }
          signAsync payload host.jwtAccessExpiresIn

/-- Each row of the answer looks at the clock for itself. -/
def viewSessions (currentSessionId : Option Uuid) : List AuthSession → AppService (List SessionView)
  | [] => return []
  | session :: rest => do
    let now ← newDate
    let views ← viewSessions currentSessionId rest
    return {
      session.view (session.revokedAt.isNone && now < session.expiresAt) with
      isCurrent := currentSessionId = some session.id } :: views

def getSessions (userId : Uuid) (currentSessionId : Option Uuid) :
    AppService (List SessionView) := do
  let sessions ← statement .sessionList fun _ w =>
    let rows := (w.sessions.rows.filter fun s => s.userId = userId).mergeSort
      fun a b => b.createdAt ≤ a.createdAt
    .ok (rows, w, [.sessionsListed userId rows w.now])
  viewSessions currentSessionId sessions

def AuthSession.revoke (revokedAt : Instant) : Patch AuthSession where
  apply s := { s with revokedAt := some revokedAt }
  key_apply _ := rfl
  alt_apply _ := rfl

def revokeSession (userId sessionId : Uuid) : AppService SessionView := do
  let found ← read .sessionFind fun i w =>
    w.sessions.findFirst (fun s => s.id = sessionId ∧ s.userId = userId) i.pick
  match found with
  | none => fail (.notFound "Session not found")
  | some session =>
    let revokedAt ← match session.revokedAt with
      | some revokedAt => pure revokedAt
      | none => newDate
    let updated ← statement .sessionUpdate fun _ w =>
      match w.sessions.find session.id with
      | some row =>
        .ok ((AuthSession.revoke revokedAt).apply row,
          { w with sessions := w.sessions.modify session.id (AuthSession.revoke revokedAt) }, [])
      | none => .error .recordNotFound
    let _ ← audit fun id createdAt =>
      { id, actorUserId := some userId, action := "SESSION_REVOKED", resourceType := "Session",
        resourceId := some session.id.text, createdAt }
    return updated.view false

end OnlineBanking
