import OnlineBanking.AppWorld

set_option autoImplicit false

/-! cards.service.ts -/

namespace OnlineBanking

open Library AppService

def revealTtl : ℕ := 300 * 1000 * 1000

def revealKey (userId cardId : Uuid) : String :=
  "card:reveal:" ++ userId.text ++ ":" ++ cardId.text

structure IssueCardDto where
  accountId : Uuid
  cardType : CardType

structure IssuedCard where
  id : Uuid
  maskedPan : String
  cardType : CardType
  status : CardStatus

structure CardDetails where
  cardNumber : Option String
  expiry : String
  cvv : Option String
  revealExpiresInSeconds : ℕ

def Card.block (blockedAt : Instant) : Patch Card where
  apply c := { c with status := .blocked, blockedAt := some blockedAt }
  key_apply _ := rfl
  alt_apply _ := rfl

def Card.unblock : Patch Card where
  apply c := { c with status := .active, blockedAt := none }
  key_apply _ := rfl
  alt_apply _ := rfl

def Card.close (closedAt : Instant) : Patch Card where
  apply c := { c with status := .closed, closedAt := some closedAt }
  key_apply _ := rfl
  alt_apply _ := rfl

/-- `maskedPan.slice(-4)` -/
def lastFour (maskedPan : String) : String :=
  String.ofList (maskedPan.toList.drop (maskedPan.length - 4))

def findProfile (userId : Uuid) : AppService (Option CustomerProfile) :=
  lift (Service.read .profileRead fun _ db => db.customerProfiles.findAlt userId)

/-- The lookup of a card by id and owner; `openOnly` asks for a card that is not CLOSED as well. -/
def findCard (cardId customerId : Uuid) (openOnly : Bool) : AppService (Option Card) :=
  read .cardFind fun i w => w.cards.findFirst
    (fun c => c.id = cardId ∧ c.customerId = customerId ∧ (openOnly → c.status ≠ .closed)) i.pick

def updateCard (id : Uuid) (f : Patch Card) : AppService Card :=
  statement .cardUpdate fun _ w =>
    match w.cards.find id with
    | some card => .ok (f.apply card, { w with cards := w.cards.modify id f }, [])
    | none => .error .recordNotFound

def auditCard (userId : Uuid) (action : String) (card : Card) : AppService AuditEvent :=
  audit fun id createdAt =>
    { id, actorUserId := some userId, action, resourceType := "Card", resourceId :=
      some card.id.text,
      createdAt, metadata := some (.obj [("maskedPan", .str card.maskedPan)]) }

def blockCard (userId cardId : Uuid) : AppService Card := do
  match ← findProfile userId with
  | none => fail (.notFound "Card not found")
  | some profile =>
    match ← findCard cardId profile.id false with
    | none => fail (.notFound "Card not found")
    | some card =>
      let now ← newDate
      let updatedCard ← updateCard card.id (Card.block now)
      let _ ← auditCard userId "CARD_BLOCKED" card
      notify userId "CARD_BLOCKED" "Card Blocked"
        s!"Your card ending in {lastFour card.maskedPan} has been blocked."
      return updatedCard

def unblockCard (userId cardId : Uuid) : AppService Card := do
  match ← findProfile userId with
  | none => fail (.notFound "Card not found")
  | some profile =>
    if profile.kycStatus ≠ .verified then
      fail (.forbidden "KYC_REQUIRED"
        "Customer identity verification is required before unblocking cards.")
    else
      match ← findCard cardId profile.id false with
      | none => fail (.notFound "Card not found")
      | some card =>
        let updatedCard ← updateCard card.id Card.unblock
        let _ ← auditCard userId "CARD_UNBLOCKED" card
        notify userId "CARD_UNBLOCKED" "Card Unblocked"
          s!"Your card ending in {lastFour card.maskedPan} has been unblocked."
        return updatedCard

def createCard (customerId accountId : Uuid) (cardType : CardType) : AppService Card :=
  statement .cardCreate fun i w =>
    let card : Card := {
      id := i.newId, customerId, accountId, cardType, status := .active, createdAt := w.now
      maskedPan := s!"**** **** **** {i.last4}"
      demoPan := some s!"4242 4242 4242 {i.last4}"
      expiryMonth := some (i.month + 1)
      expiryYear := some (i.year % 100 + 4)
      demoCvv := some i.cvv }
    match w.cards.insert card with
    | some cards => .ok (card, { w with cards }, [])
    | none => .error .uniqueViolation

def issueCard (userId : Uuid) (dto : IssueCardDto) : AppService IssuedCard := do
  match ← findProfile userId with
  | none => fail (.notFound "Customer not found")
  | some profile =>
    if profile.kycStatus ≠ .verified then
      fail (.forbidden "KYC_REQUIRED"
        "Customer identity verification is required before issuing cards.")
    else
      let found ← read .accountFind fun i w => w.db.accounts.findFirst
        (fun a => a.id = dto.accountId ∧ a.customerId = profile.id ∧ a.status = .active ∧
          a.isSystem = false) i.pick
      match found with
      | none => fail (.notFound "Active non-system account not found")
      | some account =>
        let card ← createCard profile.id account.id dto.cardType
        let _ ← auditCard userId "CARD_ISSUED" card
        notify userId "CARD_ISSUED" "Card Issued"
          s!"A new {card.cardType.text.toLower} card ending in {lastFour card.maskedPan} has been issued."
        return ⟨card.id, card.maskedPan, card.cardType, card.status⟩

def closeCard (userId cardId : Uuid) : AppService Unit := do
  match ← findProfile userId with
  | none => fail (.notFound "Card not found")
  | some profile =>
    match ← findCard cardId profile.id true with
    | none => fail (.notFound "Card not found")
    | some card =>
      let now ← newDate
      let _ ← updateCard card.id (Card.close now)
      let _ ← auditCard userId "CARD_CLOSED" card
      notify userId "CARD_CLOSED" "Card Closed"
        s!"Your card ending in {lastFour card.maskedPan} has been permanently closed."

/-- The seconds after which the challenge expires. -/
def initiateReveal (userId cardId : Uuid) : AppService ℕ := do
  match ← findProfile userId with
  | none => fail (.notFound "Card not found")
  | some profile =>
    match ← findCard cardId profile.id true with
    | none => fail (.notFound "Card not found")
    | some card =>
      let otp ← Prog.atomic fun i w => (.ok i.otp, w, [])
      otpSet (revealKey userId card.id) otp revealTtl
      return 300

/-- `month?.toString().padStart(2, '0')` followed by the year, as a template literal writes them. -/
def expiryText (month year : Option ℕ) : String :=
  let pad := fun m : ℕ => if m < 10 then "0" ++ toString m else toString m
  (month.map pad).getD "undefined" ++ "/" ++ (year.map toString).getD "null"

def verifyReveal (userId cardId : Uuid) (otp : String) : AppService CardDetails := do
  match ← findProfile userId with
  | none => fail (.notFound "Card not found")
  | some profile =>
    match ← findCard cardId profile.id true with
    | none => fail (.notFound "Card not found")
    | some card =>
      let storedOtp ← otpGet (revealKey userId card.id)
      match storedOtp with
      | none => fail (.badRequest "OTP expired or invalid")
      | some stored =>
        if stored = "" then fail (.badRequest "OTP expired or invalid")
        else if stored ≠ otp then fail (.badRequest "Invalid OTP")
        else
          otpDel (revealKey userId card.id)
          let _ ← auditCard userId "CARD_DETAILS_REVEALED" card
          return {
            cardNumber := card.demoPan
            expiry := expiryText card.expiryMonth card.expiryYear
            cvv := card.demoCvv
            revealExpiresInSeconds := 60 }

end OnlineBanking
