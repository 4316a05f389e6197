import OnlineBanking.ChallengeAnswers
import OnlineBanking.Library.Logs
import OnlineBanking.StepUp

set_option autoImplicit false

/-! The payment forms of the frontend, TransferPage and MerchantPayPage, as clients of the bank. -/

namespace OnlineBanking

open Library

inductive TransferMode
  | own | beneficiary

/-- What the user has filled in. The amount is what parseFloat reads, if it is a number;
TransferPage also keeps the idempotency key that it has shown since the form was last reset. -/
inductive PaymentForm
  | transferPage (transferMode : TransferMode) (srcId dstId beneId : String)
      (amount : Option Decimal)
      (description idemKey : String)
  | merchantPayPage (sourceAccountId merchantId : String) (amount : Option Decimal)
    (description : String)

inductive FormStatus
  | idle | loading | success | stepUp | error
  deriving DecidableEq

namespace PaymentForm

def amount : PaymentForm → Option Decimal
  | transferPage _ _ _ _ amount _ _ => amount
  | merchantPayPage _ _ amount _ => amount

def trimmedOrUndefined (description : String) : Optional :=
  if trim description = "" then .undefined else .str (trim description)

/-- The body that is posted for the amount, as the DTO checks of its endpoint accept it. -/
def request (amt : Decimal) : PaymentForm → Option PaymentRequest
  | transferPage .own srcId dstId _ _ description _ =>
    let body : CreateTransferBody := {
      sourceAccountId := srcId
      destinationAccountId := dstId
      amount := amt
      currency := .str "RON"
      description := trimmedOrUndefined description }
    if h : body.valid = true then some (.internalTransfer ⟨body, h⟩) else none
  | transferPage .beneficiary srcId _ beneId _ description _ =>
    let body : TransferToBeneficiaryBody := {
      sourceAccountId := srcId
      beneficiaryId := beneId
      amount := amt
      currency := "RON"
      description := trimmedOrUndefined description }
    if h : body.valid = true then some (.beneficiaryTransfer ⟨body, h⟩) else none
  | merchantPayPage sourceAccountId merchantId _ description =>
    let body : PayMerchantBody := {
      sourceAccountId
      merchantId
      amount := amt
      currency := "RON"
      description := trimmedOrUndefined description }
    if h : body.valid = true then some (.merchantPayment ⟨body, h⟩) else none

/-- The key that handleSubmit sends: MerchantPayPage draws a new one for every press. -/
def idempotencyKey (randomUUID : String) : PaymentForm → String
  | transferPage _ _ _ _ _ _ idemKey => idemKey
  | merchantPayPage .. => randomUUID

def complete : PaymentForm → Bool
  | transferPage .own srcId dstId _ _ _ _ => srcId ≠ "" && dstId ≠ "" && srcId ≠ dstId
  | transferPage .beneficiary srcId _ beneId _ _ _ => srcId ≠ "" && beneId ≠ ""
  | merchantPayPage sourceAccountId merchantId _ _ => sourceAccountId ≠ "" && merchantId ≠ ""

/-- The form is shown and its button is enabled. MerchantPayPage shows it behind the step-up dialog
too. -/
def submittable (status : FormStatus) : PaymentForm → Bool
  | transferPage .. => status ≠ .success && status ≠ .stepUp && status ≠ .loading
  | merchantPayPage .. => status ≠ .success && status ≠ .loading

end PaymentForm

structure PageState where
  status : FormStatus := .idle
  stepUpChallengeId : String := ""
  isConfirming : Bool := false

namespace PageState

def submitted (page : PageState) : Except Failure Response → PageState
  | .ok _ => { page with status := .success }
  | .error e =>
    match e.challengeId with
    | some challengeId => { page with stepUpChallengeId := challengeId, status := .stepUp }
    | none => { page with status := .error }

def confirmed (page : PageState) : Except Failure Response → PageState
  | .ok _ => { page with status := .success, isConfirming := false }
  | .error _ => { page with isConfirming := false }

end PageState

/-- A page over the bank: the threads whose answers its two handlers await, and all that it has
sent. -/
structure Tab where
  bank : Bank
  page : PageState := {}
  submitting : Option ℕ := none
  confirming : Option ℕ := none
  requests : List ℕ := []

/-- What the user presses, what becomes of the answers (`delivered`, or lost or turned into an error
on the way), and everything that goes on at the bank. -/
inductive TabAction
  | submit (t : ℕ) (randomUUID : String)
  | submitAnswered (delivered : Bool)
  | cancel
  | confirm (t : ℕ) (otp : String)
  | confirmAnswered (delivered : Bool)
  | bank (action : Action)

namespace Tab

def «open» (w : World) : Tab := { bank := Bank.start w }

section Steps

variable (sha256 : String → String) (userId : Uuid) (form : PaymentForm)

def answer (s : Tab) (t : ℕ) : Option (Except Failure Response) :=
  match s.bank.threads t with
  | some (_, .done r) => some r
  | _ => none

def handleSubmit (s : Tab) (t : ℕ) (randomUUID : String) : Option Tab :=
  match form.amount with
  | none => some { s with page.status := .error }
  | some amt =>
    if amt.value ≤ 0 then some { s with page.status := .error }
    else
      match form.request amt with
      -- the endpoint answers 400 before the service is called
      | none => some { s with page.status := .error }
      | some request =>
        (s.bank.step sha256 (.spawn t
          (.payment userId request (form.idempotencyKey randomUUID)))).map
          fun bank => { s with
            bank
            page.status := .loading
            submitting := some t
            requests := t :: s.requests }

def handleConfirmStepUp (s : Tab) (t : ℕ) (otp : String) : Option Tab :=
  if s.page.stepUpChallengeId = "" then some s
  else
    (s.bank.step sha256 (.spawn t (.confirmStepUp userId s.page.stepUpChallengeId otp))).map
      fun bank =>
      { s with
        bank
        page.isConfirming := true
        confirming := some t
        requests := t :: s.requests }

def step (s : Tab) : TabAction → Option Tab
  | .submit t randomUUID =>
    if form.complete && form.submittable s.page.status then s.handleSubmit sha256 userId
      form t randomUUID
    else none
  | .submitAnswered delivered =>
    s.submitting.bind fun t =>
      if delivered then
        (s.answer t).map fun r => { s with page := s.page.submitted r, submitting := none }
      else some { s with page.status := .error, submitting := none }
  | .cancel =>
    if s.page.status = .stepUp ∧
      s.page.isConfirming = false then some { s with page.status := .idle }
    else none
  | .confirm t otp =>
    if s.page.status = .stepUp ∧ s.page.isConfirming = false ∧ otp.length = 6 ∧
      otp.toList.all Char.isDigit then
      s.handleConfirmStepUp sha256 userId t otp
    else none
  | .confirmAnswered delivered =>
    s.confirming.bind fun t =>
      if delivered then
        (s.answer t).map fun r => { s with page := s.page.confirmed r, confirming := none }
      else some { s with page.isConfirming := false, confirming := none }
  | .bank action => (s.bank.step sha256 action).map fun bank => { s with bank }

def run : Tab → List TabAction → Option Tab
  | s, [] => some s
  | s, a :: actions => (s.step sha256 userId form a).bind fun s' => run s' actions

def Meets (cond : Tab → TabAction → Prop) : Tab → List TabAction → Prop
  | _, [] => True
  | s, a :: actions =>
    cond s a ∧ ∀ s', s.step sha256 userId form a = some s' → Meets cond s' actions

end Steps

def posted (s : Tab) : List Transaction :=
  s.bank.trace.flatMap fun e => if e.1 ∈ s.requests then e.2.inserted else []

def Settled (s : Tab) : Prop :=
  (∀ t ∈ s.requests, s.answer t ≠ none) ∧ s.posted = []

end Tab

def ChallengedUnder (userId : Uuid) (key challengeId : String) (b : Bank) : Prop :=
  ∃ t challenge expiresAt, (t, Event.challengeStored userId challengeId challenge expiresAt) ∈
    b.trace ∧
    trim challenge.idempotencyKey = trim key

/-- Whatever thread `t` pays, it pays under `key`. -/
inductive PaysUnder (userId : Uuid) (key : String) (t : ℕ) (b : Bank) : Prop
  | asked {request : PaymentRequest} {program : Service Response}
      (thread : b.threads t = some (.payment userId request key, program))
  | confirming {challengeId otp : String} {program : Service Response}
      (thread : b.threads t = some (.confirmStepUp userId challengeId otp, program))
      (stored : ChallengedUnder userId key challengeId b)

def EndedUnpaid (t : ℕ) (b : Bank) : Prop :=
  (∃ call r, b.threads t = some (call, .done r)) ∧ ∀ e, (t, e) ∈ b.trace → e.inserted = []

section Growth

variable {sha256 : String → String} {b b' : Bank} {schedule : List Action} {userId : Uuid}
    {key : String} {t : ℕ}

lemma ChallengedUnder.grows {challengeId : String} (h : ChallengedUnder userId key challengeId b)
    (hb : (discipline sha256).Holds b) (hrun : b.run sha256 schedule = some b') :
    ChallengedUnder userId key challengeId b' := by
  obtain ⟨t, challenge, expiresAt, hm, hkey⟩ := h
  exact ⟨t, challenge, expiresAt, ((grows_persists sha256).run hb hrun).trace.subset hm, hkey⟩

lemma PaysUnder.grows (h : PaysUnder userId key t b) (hb : (discipline sha256).Holds b)
    (hrun : b.run sha256 schedule = some b') : PaysUnder userId key t b' := by
  cases h with
  | asked thread =>
    obtain ⟨_, h'⟩ := (discipline sha256).call_persists_run hb hrun thread
    exact .asked h'
  | confirming thread stored =>
    obtain ⟨_, h'⟩ := (discipline sha256).call_persists_run hb hrun thread
    exact .confirming h' (stored.grows hb hrun)

lemma EndedUnpaid.grows (h : EndedUnpaid t b) (hb : (discipline sha256).Holds b)
    (hrun : b.run sha256 schedule = some b') : EndedUnpaid t b' := by
  obtain ⟨⟨call, r, ht⟩, hnone⟩ := h
  obtain ⟨ht', hrely⟩ := (discipline sha256).rely_of_done hb hrun ht
  refine ⟨⟨call, r, ht'⟩, fun e he => hnone e ?_⟩
  rwa [← mem_ownTrace, hrely.own, mem_ownTrace] at he

end Growth

def Event.storedFor (userId : Uuid) : Event → Option String
  | .challengeStored u challengeId _ _ => if u = userId then some challengeId else none
  | _ => none

lemma Event.storedFor_self {userId : Uuid} {challengeId : String} {challenge : StepUpChallenge}
    {expiresAt : Instant} :
    (Event.challengeStored userId challengeId challenge expiresAt).storedFor userId =
    some challengeId := if_pos rfl

def Bank.DistinctChallenges (userId : Uuid) (b : Bank) : Prop :=
  (b.trace.filterMap fun e => e.2.storedFor userId).Nodup

/-- Every request of the page pays under `key`, unless it ended without a payment, and so would a
confirmation of the challenge that the page shows. -/
structure OneKey (userId : Uuid) (key : String) (s : Tab) : Prop where
  requests : ∀ t ∈ s.requests, EndedUnpaid t s.bank ∨ PaysUnder userId key t s.bank
  challenge : s.page.status = .stepUp → ChallengedUnder userId key s.page.stepUpChallengeId s.bank
  submitting : ∀ t, s.submitting = some t →
    ∃ request program, s.bank.threads t = some (.payment userId request key, program)

def PaymentForm.Shows (key : String) : PaymentForm → Prop
  | .transferPage _ _ _ _ _ _ idemKey => idemKey = key
  | .merchantPayPage .. => True

/-- On MerchantPayPage submit is pressed only once all earlier requests have ended unpaid. -/
def PaymentForm.Patient (form : PaymentForm) (s : Tab) : TabAction → Prop
  | .submit _ _ =>
    match form with
    | .transferPage .. => True
    | .merchantPayPage .. => s.Settled
  | _ => True

section Steps

variable {sha256 : String → String} {userId : Uuid} {form : PaymentForm} {key : String}
    {s s' : Tab} {t : ℕ}

lemma Tab.answer_eq_some {r : Except Failure Response} (h : s.answer t = some r) :
    ∃ call, s.bank.threads t = some (call, .done r) := by
  unfold Tab.answer at h
  split at h
  · rename_i call r' ht
    obtain rfl := Option.some.inj h
    exact ⟨call, ht⟩
  · cases h

lemma Tab.Settled.ended (h : s.Settled) (ht : t ∈ s.requests) : EndedUnpaid t s.bank := by
  obtain ⟨r, hr⟩ := Option.ne_none_iff_exists'.mp (h.1 t ht)
  obtain ⟨call, hcall⟩ := Tab.answer_eq_some hr
  refine ⟨⟨call, r, hcall⟩, fun e he => ?_⟩
  have hnone := List.flatMap_eq_nil_iff.mp h.2 (t, e) he
  rwa [if_pos ht] at hnone

lemma OneKey.grows {bank : Bank} {schedule : List Action} (hs : OneKey userId key s)
    (hb : (discipline sha256).Holds s.bank) (hrun : s.bank.run sha256 schedule = some bank) :
    OneKey userId key { s with bank } := by
  constructor
  · intro t ht
    rcases hs.requests t ht with hended | hpays
    · exact .inl (hended.grows hb hrun)
    · exact .inr (hpays.grows hb hrun)
  · exact fun hstatus => (hs.challenge hstatus).grows hb hrun
  · intro t ht
    obtain ⟨request, program, hthread⟩ := hs.submitting t ht
    obtain ⟨program', hthread'⟩ := (discipline sha256).call_persists_run hb hrun hthread
    exact ⟨request, program', hthread'⟩

lemma OneKey.page {page : PageState} (hs : OneKey userId key s)
    (hpage : page.status = .stepUp → ChallengedUnder userId key page.stepUpChallengeId s.bank) :
    OneKey userId key { s with page } := ⟨hs.requests, hpage, hs.submitting⟩

lemma OneKey.submit {randomUUID : String} (hs : OneKey userId key s) (hkey : form.Shows key)
    (hpatient : form.Patient s (.submit t randomUUID)) (hb : (discipline sha256).Holds s.bank)
    (h : s.handleSubmit sha256 userId form t randomUUID = some s') :
    ∃ key', form.Shows key' ∧ OneKey userId key' s' := by
  have herror : OneKey userId key { s with page.status := .error } := hs.page (by simp)
  unfold Tab.handleSubmit at h
  split at h
  · obtain rfl := Option.some.inj h
    exact ⟨key, hkey, herror⟩
  · split at h
    · obtain rfl := Option.some.inj h
      exact ⟨key, hkey, herror⟩
    · split at h
      · obtain rfl := Option.some.inj h
        exact ⟨key, hkey, herror⟩
      · rename_i request _
        obtain ⟨bank, hstep, rfl⟩ := Option.map_eq_some_iff.mp h
        have hthread := (Discipline.spawned hstep).2
        have hgrows := Config.run_single hstep
        refine ⟨form.idempotencyKey randomUUID, ?_, fun u hu => ?_, fun hstatus => ?_,
          fun u hu => ?_⟩
        · cases form with
          | transferPage => rfl
          | merchantPayPage => trivial
        · rcases List.mem_cons.mp hu with rfl | hu
          · exact .inr (.asked hthread)
          · cases form with
            | transferPage =>
              obtain rfl := hkey
              exact (hs.grows hb hgrows).requests u hu
            | merchantPayPage => exact .inl ((hpatient.ended hu).grows hb hgrows)
        · cases hstatus
        · obtain rfl := Option.some.inj hu
          exact ⟨request, _, hthread⟩

lemma OneKey.confirm {otp : String} (hs : OneKey userId key s) (hstatus : s.page.status = .stepUp)
    (hb : (discipline sha256).Holds s.bank)
    (h : s.handleConfirmStepUp sha256 userId t otp = some s') :
    OneKey userId key s' := by
  unfold Tab.handleConfirmStepUp at h
  split at h
  · obtain rfl := Option.some.inj h
    exact hs
  · obtain ⟨bank, hstep, rfl⟩ := Option.map_eq_some_iff.mp h
    have hgrows := Config.run_single hstep
    have hlater := hs.grows hb hgrows
    refine ⟨fun u hu => ?_, fun _ => hlater.challenge hstatus, hlater.submitting⟩
    rcases List.mem_cons.mp hu with rfl | hu
    · exact .inr (.confirming (Discipline.spawned hstep).2 ((hs.challenge hstatus).grows hb hgrows))
    · exact hlater.requests u hu

lemma OneKey.submitted {w : World} {schedule : List Action} (hs : OneKey userId key s)
    (hrun : Bank.run sha256 (Bank.start w) schedule = some s.bank) (ht : s.submitting = some t)
    {r : Except Failure Response} (hr : s.answer t = some r) :
    OneKey userId key { s with page := s.page.submitted r, submitting := none } := by
  refine ⟨hs.requests, fun hstatus => ?_, by simp⟩
  obtain ⟨call, hdone⟩ := Tab.answer_eq_some hr
  obtain ⟨request, program, hthread⟩ := hs.submitting t ht
  obtain ⟨rfl, -⟩ := Prod.mk.inj (Option.some.inj (hdone.symm.trans hthread))
  unfold PageState.submitted at hstatus ⊢
  cases r with
  | ok _ => cases hstatus
  | error e =>
    cases hid : e.challengeId with
    | none => simp [hid] at hstatus
    | some challengeId =>
      obtain ⟨challenge, expiresAt, hm, hkey⟩ := challenge_of_answer hrun hdone hid
      refine ⟨t, challenge, expiresAt, ?_, by rw [hkey, trim_trim]⟩
      simpa only [hid] using hm

/-- The page over a bank that has run from `w`, with one key for all that it may still pay. -/
structure Tab.Sound (sha256 : String → String) (userId : Uuid) (form : PaymentForm)
    (w : World) (s : Tab) :
    Prop where
  bank : ∃ schedule, Bank.run sha256 (Bank.start w) schedule = some s.bank
  key : ∃ key, form.Shows key ∧ OneKey userId key s

lemma Tab.Sound.later {w : World} {bank : Bank} (hs : s.Sound sha256 userId form w) {a : Action}
    (h : s.bank.step sha256 a = some bank) :
    ∃ schedule, Bank.run sha256 (Bank.start w) schedule = some bank := by
  obtain ⟨schedule, hrun⟩ := hs.bank
  exact ⟨schedule ++ [a], (Config.run_after hrun).trans (Config.run_single h)⟩

lemma Tab.bank_of_submit {randomUUID : String}
    (h : s.handleSubmit sha256 userId form t randomUUID = some s') :
    s'.bank = s.bank ∨ ∃ a, s.bank.step sha256 a = some s'.bank := by
  unfold Tab.handleSubmit at h
  split at h
  · obtain rfl := Option.some.inj h
    exact .inl rfl
  · split at h
    · obtain rfl := Option.some.inj h
      exact .inl rfl
    · split at h
      · obtain rfl := Option.some.inj h
        exact .inl rfl
      · obtain ⟨bank, hstep, rfl⟩ := Option.map_eq_some_iff.mp h
        exact .inr ⟨_, hstep⟩

lemma Tab.bank_of_confirm {otp : String} (h : s.handleConfirmStepUp sha256 userId t otp = some s') :
    s'.bank = s.bank ∨ ∃ a, s.bank.step sha256 a = some s'.bank := by
  unfold Tab.handleConfirmStepUp at h
  split at h
  · obtain rfl := Option.some.inj h
    exact .inl rfl
  · obtain ⟨bank, hstep, rfl⟩ := Option.map_eq_some_iff.mp h
    exact .inr ⟨_, hstep⟩

theorem Tab.Sound.step {w : World} {a : TabAction} (hs : s.Sound sha256 userId form w)
    (hpatient : form.Patient s a) (h : s.step sha256 userId form a = some s') :
    s'.Sound sha256 userId form w := by
  obtain ⟨schedule, hrun⟩ := hs.bank
  obtain ⟨key, hshows, hkey⟩ := hs.key
  have hb := holds_of_start hrun
  have hbank : s'.bank = s.bank ∨ (∃ a, s.bank.step sha256 a = some s'.bank) →
      ∃ schedule, Bank.run sha256 (Bank.start w) schedule = some s'.bank := by
    rintro (hsame | ⟨a, ha⟩)
    · exact hsame ▸ ⟨schedule, hrun⟩
    · exact hs.later ha
  cases a with
  | submit t randomUUID =>
    simp only [Tab.step] at h
    split at h
    · exact ⟨hbank (Tab.bank_of_submit h), hkey.submit hshows hpatient hb h⟩
    · cases h
  | submitAnswered delivered =>
    obtain ⟨t, ht, h⟩ := Option.bind_eq_some_iff.mp h
    cases delivered with
    | true =>
      obtain ⟨r, hr, rfl⟩ := Option.map_eq_some_iff.mp h
      exact ⟨⟨schedule, hrun⟩, key, hshows, hkey.submitted hrun ht hr⟩
    | false =>
      obtain rfl := Option.some.inj h
      exact ⟨⟨schedule, hrun⟩, key, hshows, hkey.requests, by simp, by simp⟩
  | cancel =>
    simp only [Tab.step] at h
    split at h
    · obtain rfl := Option.some.inj h
      exact ⟨⟨schedule, hrun⟩, key, hshows, hkey.page (by simp)⟩
    · cases h
  | confirm t otp =>
    simp only [Tab.step] at h
    split at h
    · rename_i henabled
      exact ⟨hbank (Tab.bank_of_confirm h), key, hshows, hkey.confirm henabled.1 hb h⟩
    · cases h
  | confirmAnswered delivered =>
    obtain ⟨t, ht, h⟩ := Option.bind_eq_some_iff.mp h
    cases delivered with
    | true =>
      obtain ⟨r, hr, rfl⟩ := Option.map_eq_some_iff.mp h
      refine ⟨⟨schedule, hrun⟩, key, hshows, hkey.requests, fun hstatus => ?_, hkey.submitting⟩
      cases r with
      | ok _ => cases hstatus
      | error e => exact hkey.challenge hstatus
    | false =>
      obtain rfl := Option.some.inj h
      exact ⟨⟨schedule, hrun⟩, key, hshows, hkey.requests, hkey.challenge, hkey.submitting⟩
  | bank action =>
    obtain ⟨bank, hstep, rfl⟩ := Option.map_eq_some_iff.mp h
    exact ⟨hs.later hstep, key, hshows, hkey.grows hb (Config.run_single hstep)⟩

theorem Tab.Sound.run {w : World} {actions : List TabAction} (hs : s.Sound sha256 userId form w)
    (hpatient : s.Meets sha256 userId form form.Patient actions)
    (h : s.run sha256 userId form actions = some s') : s'.Sound sha256 userId form w := by
  induction actions generalizing s with
  | nil =>
    obtain rfl := Option.some.inj h
    exact hs
  | cons a actions ih =>
    obtain ⟨d, hd, hr⟩ := Option.bind_eq_some_iff.mp h
    exact ih (hs.step hpatient.1 hd) (hpatient.2 d hd) hr

lemma Tab.open_sound (w : World) : (Tab.open w).Sound sha256 userId form w := by
  have hkey : ∃ key, form.Shows key := by
    cases form with
    | transferPage _ _ _ _ _ _ idemKey => exact ⟨idemKey, rfl⟩
    | merchantPayPage => exact ⟨"", trivial⟩
  obtain ⟨key, hshows⟩ := hkey
  exact ⟨⟨[], rfl⟩, key, hshows, by simp [Tab.open], by simp [Tab.open], by simp [Tab.open]⟩

end Steps

section Runs

variable {sha256 : String → String} {w : World} {b : Bank} {schedule : List Action} {userId : Uuid}
    {key : String}

lemma PaysUnder.postedUnder {t : ℕ} (h : PaysUnder userId key t b) (hredis : w.redis = [])
    (hrun : Bank.run sha256 (Bank.start w) schedule = some b)
    (hfresh : b.DistinctChallenges userId) {payment : Payment}
    {result : ServiceResult PaymentBody} {inserted : List Transaction}
    (he : (t, Event.committed payment result inserted) ∈ b.trace) :
    payment.userId = userId ∧ payment.key = trim key := by
  cases h with
  | asked thread =>
    obtain ⟨call, program, ht, hx⟩ := run_accounted hrun he
    obtain ⟨rfl, -⟩ := Prod.mk.inj (Option.some.inj (ht.symm.trans thread))
    cases (show Executes t b.shared _ payment from hx) with
    | asked hasked =>
      obtain rfl := Option.some.inj hasked
      exact ⟨rfl, rfl⟩
  | confirming thread stored =>
    obtain ⟨call, program, ht, hx⟩ := run_accounted hrun he
    obtain ⟨rfl, -⟩ := Prod.mk.inj (Option.some.inj (ht.symm.trans thread))
    cases (show Executes t b.shared _ payment from hx) with
    | asked hasked => cases hasked
    | confirmed read presented =>
      -- no two challenges of the user share an id, so the one that was read is the one stored under
      -- the key
      obtain ⟨t₀, challenge, expiresAt, hm, hkey⟩ := stored
      obtain ⟨_, t₁, expiresAt', _, horder⟩ := (run_challenged hredis hrun).reads t _ _ _ _ read
      have hsame := eq_of_filterMap_nodup hfresh hm (horder.subset List.mem_cons_self)
        Event.storedFor_self Event.storedFor_self
      simp only [Prod.mk.injEq, Event.challengeStored.injEq] at hsame
      obtain ⟨-, -, -, rfl, -⟩ := hsame
      exact ⟨rfl, hkey⟩

lemma OneKey.posted_length {s : Tab} (h : OneKey userId key s) (hredis : w.redis = [])
    (hrun : Bank.run sha256 (Bank.start w) schedule = some s.bank)
    (hfresh : s.bank.DistinctChallenges userId) : s.posted.length ≤ 1 := by
  have hsub : s.posted.Sublist (postings s.bank.trace userId (trim key)) := by
    apply List.Sublist.flatMap_right
    rintro ⟨t, e⟩ he
    dsimp only
    split
    · rename_i ht
      rcases h.requests t ht with ⟨_, hnone⟩ | hpays
      · rw [hnone e he]
        exact List.nil_sublist _
      · cases e with
        | committed payment result inserted =>
          have hunder := hpays.postedUnder hredis hrun hfresh he
          simp [Event.inserted, Event.postedUnder, hunder]
        | _ => exact List.nil_sublist _
    · exact List.nil_sublist _
  exact hsub.length_le.trans ((run_oncePosted hrun).once userId (trim key))

/-- However often the user presses, and whatever becomes of the answers, the page posts one
transaction at most, as long as the ids of the user's challenges differ and on MerchantPayPage a
submit waits for the requests before it. -/
theorem one_payment_per_intent {form : PaymentForm} {actions : List TabAction} {s : Tab}
    (hredis : w.redis = []) (hpatient : (Tab.open w).Meets sha256 userId form form.Patient actions)
    (h : (Tab.open w).run sha256 userId form actions = some s)
    (hfresh : s.bank.DistinctChallenges userId) : s.posted.length ≤ 1 := by
  have hs := (Tab.open_sound w).run hpatient h
  obtain ⟨schedule, hrun⟩ := hs.bank
  obtain ⟨key, _, hkey⟩ := hs.key
  exact hkey.posted_length hredis hrun hfresh

lemma Tab.meets_of_all {form : PaymentForm} {cond : Tab → TabAction → Prop}
    (hcond : ∀ s a, cond s a) (s : Tab) (actions : List TabAction) :
    s.Meets sha256 userId form cond actions := by
  induction actions generalizing s with
  | nil => trivial
  | cons a actions ih => exact ⟨hcond s a, fun s' _ => ih s'⟩

end Runs

def demoTransferForm : PaymentForm :=
  .transferPage .own (demoIds .sourceAccount).text (demoIds .destAccount).text ""
    (some DemoAmount.large.decimal) "" "k1"

def demoPresses : List TabAction :=
  [.submit 0 "", .bank (.act 0 (demoInputs 0)), .bank (.act 0 (demoInputs 1)),
    .bank (.act 0 (demoInputs 2)),
    .submitAnswered true, .confirm 1 "123456", .bank (.act 1 (demoInputs 3)),
    .bank (.act 1 (demoInputs 4)),
    .bank (.act 1 (demoInputs 5)), .bank (.act 1 (demoInputs 6)), .confirmAnswered false, .cancel,
    .submit 2 "",
    .bank (.act 2 (demoInputs 7)), .bank (.act 2 (demoInputs 8)), .bank (.act 2 (demoInputs 9)),
    .submitAnswered true]

def demoTab : Option Tab := (Tab.open demoWorld).run demoSha256
    (demoIds .user) demoTransferForm demoPresses

lemma demoTab_pressed :
    demoTab.map (fun s => (s.page.status, s.requests,
      s.bank.trace.filterMap fun e => e.2.storedFor (demoIds .user))) = some
        (.success, [2, 1, 0], ["k3x9"]) := by decide +kernel

theorem demo_one_payment : ∃ s, demoTab = some s ∧ s.requests = [2, 1, 0] ∧
    s.posted.length ≤ 1 := by
  obtain ⟨s, hs, hends⟩ := Option.map_eq_some_iff.mp demoTab_pressed
  obtain ⟨-, hrequests, hids⟩ : s.page.status = .success ∧ s.requests = [2, 1, 0] ∧
      (s.bank.trace.filterMap fun e => e.2.storedFor (demoIds .user)) = ["k3x9"] := by
        simpa using hends
  refine ⟨s, hs, hrequests, one_payment_per_intent rfl ?_ hs
    (by simp [Bank.DistinctChallenges, hids])⟩
  refine Tab.meets_of_all (fun s a => ?_) _ _
  cases a <;> trivial

def demoMerchantForm : PaymentForm :=
  .merchantPayPage (demoIds .sourceAccount).text (demoIds (.merchant 0)).text
    (some DemoAmount.small.decimal) ""

def demoResubmission : List TabAction :=
  [.submit 0 "u1", .bank (.act 0 (demoInputs 0)), .bank (.act 0 (demoInputs 1)),
    .submitAnswered false,
    .submit 1 "u2", .bank (.act 1 (demoInputs 2)), .bank (.act 1 (demoInputs 3))]

theorem merchant_paid_twice : ∃ s,
    (Tab.open demoWorld).run demoSha256 (demoIds .user) demoMerchantForm demoResubmission = some s ∧
      s.bank.trace.filterMap (fun e => e.2.storedFor (demoIds .user)) = [] ∧
        s.posted.length = 2 := by
  have hrun : ((Tab.open demoWorld).run demoSha256 (demoIds .user) demoMerchantForm
      demoResubmission).map
      (fun s => (s.bank.trace.filterMap fun e => e.2.storedFor (demoIds .user), s.posted.length)) =
        some ([], 2) := by
    decide +kernel
  obtain ⟨s, hs, hends⟩ := Option.map_eq_some_iff.mp hrun
  obtain ⟨hids, hlength⟩ := Prod.mk.inj hends
  exact ⟨s, hs, hids, hlength⟩

end OnlineBanking
