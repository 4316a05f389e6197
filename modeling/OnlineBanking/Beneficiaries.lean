import OnlineBanking.BeneficiaryRouting
import OnlineBanking.Library.Registers
import OnlineBanking.Library.Turns

set_option autoImplicit false

/-! The beneficiaries of a customer are a set of IBANs in normal form, whose members keep their
ids. -/

namespace OnlineBanking

open Library

lemma upperCase_of_space {c d : Char} (hd : isJsSpace d = true) (h : d ∈ upperCase c) : d = c := by
  have hnone : ∀ n ∈ [9, 10, 11, 12, 13, 32, 160, 5760, 8192, 8193, 8194, 8195, 8196, 8197,
      8198, 8199, 8200, 8201, 8202, 8232, 8233, 8239, 8287, 12288, 65279],
      (caseRanges.all fun b => b.2.all fun r => !r.makes n) = true := by decide +kernel
  exact eq_of_mem_upperCase h (hnone d.toNat (by simpa [isJsSpace] using hd))

lemma dropWhile_flatMap {f : Char → List Char} (hne : ∀ c, f c ≠ [])
    (hspace : ∀ c d, isJsSpace d = true → d ∈ f c → d = c) {xs : List Char}
    (h : xs.dropWhile isJsSpace = xs) :
    (xs.flatMap f).dropWhile isJsSpace = xs.flatMap f := by
  cases xs with
  | nil => rfl
  | cons c cs =>
    have hc : isJsSpace c = false := by
      by_contra htrue
      rw [List.dropWhile_cons_of_pos (by simpa using htrue)] at h
      have hlen := congrArg List.length h
      have hle := (List.dropWhile_suffix isJsSpace (l := cs)).length_le
      simp only [List.length_cons] at hlen
      omega
    cases hu : f c with
    | nil => exact absurd hu (hne c)
    | cons d ds =>
      have hd : ¬ isJsSpace d = true := by
        intro htrue
        obtain rfl := hspace c d htrue (hu ▸ List.mem_cons_self)
        simp [hc] at htrue
      rw [List.flatMap_cons, hu, List.cons_append, List.dropWhile_cons_of_neg hd]

lemma trim_eq_self_iff (s : String) : trim s = s ↔
    s.toList.dropWhile isJsSpace = s.toList ∧
      s.toList.reverse.dropWhile isJsSpace = s.toList.reverse := by
  constructor
  · intro h
    have hlist : ((s.toList.dropWhile isJsSpace).reverse.dropWhile isJsSpace).reverse =
        s.toList := by
      exact String.toList_ofList.symm.trans (congrArg String.toList h)
    have hstart : s.toList.dropWhile isJsSpace <:+ s.toList := List.dropWhile_suffix _
    have hend : (s.toList.dropWhile isJsSpace).reverse.dropWhile isJsSpace <:+
      (s.toList.dropWhile isJsSpace).reverse := List.dropWhile_suffix _
    have hlen := congrArg List.length hlist
    have hle := hend.length_le
    rw [List.length_reverse] at hlen hle
    have hsame := hstart.eq_of_length (Nat.le_antisymm hstart.length_le (hlen ▸ hle))
    rw [hsame] at hlist
    exact ⟨hsame, List.reverse_eq_iff.mp hlist⟩
  · rintro ⟨hstart, hend⟩
    rw [trim, hstart, hend, List.reverse_reverse, String.ofList_toList]

lemma ibanNorm_ibanNorm (iban : String) : ibanNorm (ibanNorm iban) = ibanNorm iban := by
  have htrim : trim (toUpperCase (trim iban)) = toUpperCase (trim iban) := by
    obtain ⟨hstart, hend⟩ := (trim_eq_self_iff _).mp (trim_trim iban)
    apply (trim_eq_self_iff _).mpr
    rw [toUpperCase, String.toList_ofList, List.reverse_flatMap]
    constructor
    · exact dropWhile_flatMap upperCase_ne_nil (fun c d => upperCase_of_space) hstart
    · apply dropWhile_flatMap _ _ hend
      · intro c h
        exact upperCase_ne_nil c (List.reverse_eq_nil_iff.mp h)
      · intro c d hd h
        exact upperCase_of_space hd (List.mem_reverse.mp h)
  rw [ibanNorm, ibanNorm, htrim, toUpperCase_toUpperCase]

abbrev Beneficiary.Active (b : Beneficiary) : Prop := b.status = .active

/-- The ids stand for a customer and an IBAN, and the active rows are the beneficiaries the
customers have. -/
def Db.payees (db : Db) : Register Uuid (Uuid × String) :=
  db.beneficiaries.register Beneficiary.Active

structure Beneficiary.Tidy (b : Beneficiary) : Prop where
  normal : ibanNorm b.iban = b.iban
  archived : b.status = .active ↔ b.archivedAt = none

inductive BeneficiaryWrite (db db' : Db) : Prop
  | same (same : db'.beneficiaries = db.beneficiaries)
  | added (row : Beneficiary) (tidy : row.Tidy) (active : row.status = .active)
    (inserted : db.beneficiaries.insert row = some db'.beneficiaries)
  | reactivated (id : Uuid) (displayName : String) («alias» : Option String)
    (modified : db'.beneficiaries = db.beneficiaries.modify id
      (Beneficiary.reactivate displayName «alias»))
  | archived (id : Uuid) (archivedAt : Instant)
    (modified : db'.beneficiaries = db.beneficiaries.modify id (Beneficiary.archive archivedAt))

attribute [local irreducible] ibanNorm

lemma tidy_modify {t : Table Beneficiary} (ht : ∀ b ∈ t.rows, b.Tidy) {f : Patch Beneficiary}
    (hf : ∀ b, b.Tidy → (f.apply b).Tidy) {id : Uuid} : ∀ b ∈ (t.modify id f).rows, b.Tidy := by
  intro b hb
  rw [Table.modify_rows] at hb
  obtain ⟨c, hc, rfl⟩ := List.mem_map.mp hb
  split
  · exact hf c (ht c hc)
  · exact ht c hc

namespace BeneficiaryWrite

variable {db db' : Db} (h : BeneficiaryWrite db db')
include h

lemma tidy (hdb : ∀ b ∈ db.beneficiaries.rows, b.Tidy) : ∀ b ∈ db'.beneficiaries.rows, b.Tidy := by
  cases h with
  | same same => rwa [same]
  | added row tidy _ inserted =>
    intro b hb
    rw [(Table.insert_eq_some.mp inserted).2.2] at hb
    rcases List.mem_append.mp hb with hb | hb
    · exact hdb b hb
    · obtain rfl := List.mem_singleton.mp hb
      exact tidy
  | reactivated _ displayName _ modified =>
    rw [modified]
    exact tidy_modify hdb fun b hb => ⟨hb.normal, by simp [Beneficiary.reactivate]⟩
  | archived _ archivedAt modified =>
    rw [modified]
    exact tidy_modify hdb fun b hb => ⟨hb.normal, by simp [Beneficiary.archive]⟩

lemma keeps_names : db.payees.Extends db'.payees := by
  cases h with
  | same same =>
    rw [Db.payees, Db.payees, same]
    exact .refl _
  | added row _ active inserted => exact (Table.insert_admits inserted rfl active).extends
  | reactivated id _ _ modified =>
    rw [Db.payees, Db.payees, modified]
    exact Table.modify_extends _ _ _ _
  | archived id _ modified =>
    rw [Db.payees, Db.payees, modified]
    exact Table.modify_extends _ _ _ _

end BeneficiaryWrite

lemma Effect.beneficiaries {sha256 : String → String} {t : ℕ} {c : Call} {i : Inputs} {s s' : State}
    (h : Effect sha256 t c i s s') (hc : c.payer ≠ none) :
    s'.world.db.beneficiaries = s.world.db.beneficiaries := by
  cases h.onDb with
  | notified ns db _ => rw [db, Db.addNotifications_beneficiaries]
  | posted _ _ _ _ _ _ _ applied _ db _ =>
    rw [db, Db.addNotifications_beneficiaries, applied.beneficiaries]
  | credited _ _ _ _ _ _ call _ _ _ => exact absurd (by rw [call]; rfl) hc
  | kept call _ => exact absurd call hc

abbrev WritesBeneficiaries {α : Type} (p : Service α) : Prop :=
  p.Within fun w w' => BeneficiaryWrite w.db w'.db

section Within

variable {ρ κ ν α : Type} [Record ρ κ ν] [DecidableEq κ] [DecidableEq ν]

lemma writes_statement {l : Statement} {body : Inputs → Instant → Db → Except PrismaError (α × Db)}
    (h : ∀ i now db a db', body i now db = .ok (a, db') → BeneficiaryWrite db db') :
    WritesBeneficiaries (Service.statement l body) := by
  apply Prog.within_atomic
  intro i w
  split
  · exact .same rfl
  · split
    · exact .same rfl
    · rename_i a db' hb
      exact h i w.now w.db a db' hb

lemma writes_read {l : Statement} {f : ℕ → Db → α} : WritesBeneficiaries (Service.read l f) := by
  apply writes_statement
  intro i now db a db' h
  cases h
  exact .same rfl

lemma writes_create {m : Model ρ} (hm : ∀ db t, (m.set db t).beneficiaries = db.beneficiaries)
    {l : Statement} {row : Uuid → Instant → ρ} : WritesBeneficiaries (Service.create m l row) := by
  apply writes_statement
  intro i now db a db' h
  obtain ⟨_, t, _, rfl⟩ := Db.create_eq_ok h
  exact .same (hm db t)

lemma writes_newDate : WritesBeneficiaries Service.newDate :=
  Prog.within_atomic fun _ _ => .same rfl

lemma writes_notificationsCreate {l : Statement} {userId : Uuid} {type title message : String} :
    WritesBeneficiaries (Service.notificationsCreate l userId type title message) := by
  apply Prog.within_atomic
  intro i w
  split
  · exact .same rfl
  · exact .same (by simp)

lemma writes_updateMany {l : Statement} {p : Notification → Bool} {f : Patch Notification} :
    WritesBeneficiaries (Service.updateMany Db.notification l p f) := by
  apply writes_statement
  intro i now db n db' h
  simp only [Db.updateMany, Except.ok.injEq, Prod.mk.injEq] at h
  exact .same (by rw [← h.2]; rfl)

lemma writes_profileId {userId : Uuid} : WritesBeneficiaries (profileId userId) := by
  unfold profileId
  apply Prog.within_bind writes_read
  intro found
  split
  · exact Prog.within_throw
  · exact Prog.within_pure

lemma writes_createBeneficiary {userId : Uuid} {dto : CreateBeneficiaryDto} :
    WritesBeneficiaries (createBeneficiary userId dto) := by
  unfold createBeneficiary
  apply Prog.within_bind writes_profileId
  intro customerId
  apply Prog.within_bind writes_read
  intro existing
  cases existing with
  | some row =>
    dsimp only
    split
    · exact Prog.within_throw
    · apply Prog.within_bind
      · apply writes_statement
        intro i now db a db' h
        obtain ⟨_, _, _, rfl⟩ := Db.update_eq_ok h
        exact .reactivated row.id dto.name dto.alias.orNull rfl
      · intro ben
        apply Prog.within_bind (writes_create fun _ _ => rfl)
        exact fun _ => Prog.within_pure
  | none =>
    apply Prog.within_bind
    · apply writes_statement
      intro i now db a db' h
      obtain ⟨_, t, ht, rfl⟩ := Db.create_eq_ok h
      exact .added _ ⟨ibanNorm_ibanNorm dto.iban, by simp⟩ rfl ht
    · intro ben
      apply Prog.within_bind (writes_create fun _ _ => rfl)
      exact fun _ => Prog.within_pure

lemma writes_removeBeneficiary {userId beneficiaryId : Uuid} :
    WritesBeneficiaries (removeBeneficiary userId beneficiaryId) := by
  unfold removeBeneficiary
  apply Prog.within_bind writes_profileId
  intro customerId
  apply Prog.within_bind writes_read
  intro found
  cases found with
  | none => exact Prog.within_throw
  | some ben =>
    dsimp only
    split
    · exact Prog.within_throw
    · apply Prog.within_bind writes_newDate
      intro now
      apply Prog.within_bind
      · apply writes_statement
        intro i _ db a db' h
        obtain ⟨_, _, _, rfl⟩ := Db.update_eq_ok h
        exact .archived ben.id now rfl
      · intro _
        apply Prog.within_bind (writes_create fun _ _ => rfl)
        exact fun _ => Prog.within_pure

lemma writes_creditAccount {adminUserId accountId : Uuid} {dto : AdminCreditDto} :
    WritesBeneficiaries (creditAccount adminUserId accountId dto) := by
  unfold creditAccount
  split
  · exact Prog.within_throw
  · apply Prog.within_atomic
    intro i w
    dsimp only
    rcases Callback.transact_cases (.prisma .transactionAborted)
        (fun i => i.commitFault.map .prisma)
      (creditAccountTx_ends { i with now := w.now } w.db adminUserId accountId dto)
      (fun a session ⟨_, _, _, halive, _⟩ => halive) with
      ⟨a, session, ⟨p, applied, _⟩, _, ho⟩ | ⟨a, session, e, _, _, ho⟩ | ⟨e, session, _, ho⟩
    · rw [ho]
      exact .same (by simp [applied.beneficiaries])
    · rw [ho]
      exact .same (by simp)
    · rw [ho]
      exact .same (by simp)

lemma writes_handle (sha256 : String → String) {c : Call} (hc : c.payer = none) :
    WritesBeneficiaries (handle sha256 c) := by
  cases c with
  | payment userId request idempotencyKey => cases hc
  | confirmStepUp userId challengeId otp => cases hc
  | creditAccount adminUserId accountId dto =>
    exact Prog.within_bind writes_creditAccount fun _ => Prog.within_pure
  | updateKycStatus adminUserId customerId status =>
    apply Prog.within_bind _ fun _ => Prog.within_pure
    unfold updateKycStatus
    apply Prog.within_bind writes_read
    intro found
    split
    · exact Prog.within_throw
    · apply Prog.within_bind writes_newDate
      intro now
      apply Prog.within_bind
      · apply writes_statement
        intro i _ db a db' h
        obtain ⟨_, _, _, rfl⟩ := Db.update_eq_ok h
        exact .same rfl
      · intro updated
        apply Prog.within_bind (writes_create fun _ _ => rfl)
        intro _
        exact Prog.within_bind writes_notificationsCreate fun _ => Prog.within_pure
  | register dto =>
    apply Prog.within_bind _ fun _ => Prog.within_pure
    unfold register
    apply Prog.within_bind writes_read
    intro found
    split
    · exact Prog.within_throw
    · apply Prog.within_bind (Prog.within_atomic fun _ _ => .same rfl)
      intro iban
      apply Prog.within_bind
      · apply writes_statement
        intro i now db a db' h
        obtain ⟨⟨u, d⟩, hu, h⟩ := bind_eq_ok h
        obtain ⟨⟨profile, d'⟩, hp, h⟩ := bind_eq_ok h
        obtain ⟨⟨account, d''⟩, ha, h⟩ := bind_eq_ok h
        obtain ⟨-, users, -, rfl⟩ := Db.create_eq_ok hu
        obtain ⟨-, profiles, -, rfl⟩ := Db.create_eq_ok hp
        obtain ⟨-, accounts, -, rfl⟩ := Db.create_eq_ok ha
        cases h
        exact .same rfl
      · intro user
        apply Prog.within_bind (writes_create fun _ _ => rfl)
        intro _
        exact Prog.within_bind writes_notificationsCreate fun _ => Prog.within_pure
  | createBeneficiary userId dto =>
    exact Prog.within_bind writes_createBeneficiary fun _ => Prog.within_pure
  | removeBeneficiary userId beneficiaryId =>
    exact Prog.within_bind writes_removeBeneficiary fun _ => Prog.within_pure
  | markAsRead id userId =>
    apply Prog.within_bind _ fun _ => Prog.within_pure
    apply Prog.within_bind writes_newDate
    intro _
    cases Uuid.ofText id with
    | none => exact Prog.within_throw
    | some notificationId => exact writes_updateMany
  | markAllAsRead userId =>
    apply Prog.within_bind _ fun _ => Prog.within_pure
    exact Prog.within_bind writes_newDate fun _ => writes_updateMany

end Within

def beneficiaryDiscipline (sha256 : String → String) :
    Discipline (E := Event) (handle sha256) environment :=
  (discipline sha256).strengthen
    (fun _ c _ s s' => c.payer = none → BeneficiaryWrite s.world.db s'.world.db) fun t c s _ => by
    by_cases hc : c.payer = none
    · exact (writes_handle sha256 hc).safe.guar fun _ _ _ h _ => h
    · exact Prog.Safe.of_true (fun _ _ _ h => absurd h hc) fun _ _ => trivial

lemma environment_beneficiaries (e : Environment) (w : World) :
    (environment e w).db.beneficiaries = w.db.beneficiaries ∧
      (environment e w).db.customerProfiles = w.db.customerProfiles := by
  cases e with
  | tick elapsed => exact ⟨rfl, rfl⟩
  | audit event =>
    dsimp only [environment]
    split
    · rename_i a db h
      obtain ⟨-, t, -, rfl⟩ := Db.create_eq_ok h
      exact ⟨rfl, rfl⟩
    · exact ⟨rfl, rfl⟩
  | cardNotice notice => exact ⟨by simp [environment], by simp [environment]⟩

section Runs

variable {sha256 : String → String}

lemma run_beneficiaries {P : Db → Prop} (hP : ∀ db db', BeneficiaryWrite db db' → P db → P db')
    {b b' : Bank} {schedule : List Action} (hb : (beneficiaryDiscipline sha256).Holds b)
    (hstart : P b.db) (h : Bank.run sha256 b schedule = some b') : P b'.db := by
  refine ((beneficiaryDiscipline sha256).shared_invariant
    (P := fun s : State => P s.world.db) ?_ ?_ hb hstart
    (Discipline.meets_true _ _) h).2
  · rintro c t i call p s' _ _ _ hs ⟨heffect, hwrite⟩
    by_cases hc : call.payer = none
    · exact hP _ _ (hwrite hc) hs
    · exact hP _ _ (.same (heffect.beneficiaries hc)) hs
  · intro e s hs
    exact hP _ _ (.same (environment_beneficiaries e s.world).1) hs

end Runs

section Answers

variable {R R' : Register Uuid (Uuid × String)} {customerId id : Uuid} {iban : String}

structure CreatesPayee (R R' : Register Uuid (Uuid × String)) (customerId : Uuid) (iban : String)
    (r : Except Failure (ServiceResult Beneficiary)) : Prop where
  succeeds : (∃ result, r = .ok result) ↔ (customerId, iban) ∉ R.active
  adds : ∀ result, r = .ok result → R.Admits result.body.id (customerId, iban) R'
  reuses : ∀ result k, r = .ok result → R.names k = some (customerId, iban) → k = result.body.id
  refuses : ∀ e, r = .error e → R' = R

lemma CreatesPayee.of_admits {result : ServiceResult Beneficiary}
    (h : R.Admits result.body.id (customerId, iban) R') :
    CreatesPayee R R' customerId iban (.ok result) where
  succeeds := ⟨fun _ => h.absent, fun _ => ⟨result, rfl⟩⟩
  adds _ hr := Except.ok.inj hr ▸ h
  reuses _ _ hr hk := Except.ok.inj hr ▸ h.reuses hk
  refuses e he := by cases he

lemma CreatesPayee.of_present {e : Failure} (h : (customerId, iban) ∈ R.active) :
    CreatesPayee R R customerId iban (.error e) where
  succeeds := by
    constructor
    · rintro ⟨_, hr⟩
      cases hr
    · exact fun hnot => absurd h hnot
  adds _ hr := by cases hr
  reuses _ _ hr := by cases hr
  refuses _ _ := rfl

structure RemovesPayee (R R' : Register Uuid (Uuid × String)) (customerId id : Uuid)
    (r : Except Failure Unit) :
    Prop where
  succeeds : r = .ok () ↔ ∃ iban, R.names id = some (customerId, iban) ∧
    (customerId, iban) ∈ R.active
  removes : r = .ok () → ∃ iban, R.Dismisses id (customerId, iban) R'
  refuses : ∀ e, r = .error e → R' = R

lemma RemovesPayee.of_dismisses (h : R.Dismisses id (customerId, iban) R') :
    RemovesPayee R R' customerId id (.ok ()) where
  succeeds := ⟨fun _ => ⟨iban, h.named, h.present⟩, fun _ => rfl⟩
  removes _ := ⟨iban, h⟩
  refuses e he := by cases he

lemma RemovesPayee.of_absent {e : Failure}
    (h : ∀ iban, R.names id = some (customerId, iban) → (customerId, iban) ∉ R.active) :
    RemovesPayee R R customerId id (.error e) where
  succeeds := by
    constructor
    · intro hr
      cases hr
    · rintro ⟨iban, hnamed, hpresent⟩
      exact absurd hpresent (h iban hnamed)
  removes hr := by cases hr
  refuses _ _ := rfl

end Answers

structure Inputs.Reliable (i : Inputs) (s : State) : Prop where
  faultless : ∀ l, i.fault l = none
  row : ∀ b ∈ s.world.db.beneficiaries.rows, b.id ≠ i.uuid .beneficiaryWrite
  audit : ∀ e ∈ s.world.db.auditEvents.rows, e.id ≠ i.uuid .auditCreate

def SamePayees (s s' : State) : Prop :=
  s'.world.db.beneficiaries = s.world.db.beneficiaries ∧
    s'.world.db.customerProfiles = s.world.db.customerProfiles

lemma SamePayees.refl (s : State) : SamePayees s s := ⟨rfl, rfl⟩

lemma SamePayees.trans (s s' s'' : State) (h : SamePayees s s') (h' : SamePayees s' s'') :
    SamePayees s s'' :=
  ⟨h'.1.trans h.1, h'.2.trans h.2⟩

abbrev Turn {α : Type} (t : ℕ) (p : Service α) (s : State)
    (Q : Except Failure α → State → Prop) : Prop :=
  p.Safe SamePayees Inputs.Reliable (fun _ _ _ => True) t Q s

section Turn

variable {ρ κ ν α β : Type} [Record ρ κ ν] [DecidableEq κ] [DecidableEq ν] {t : ℕ} {s : State}
variable {T : Table Beneficiary} {P : Table CustomerProfile} {Q : Except Failure β → State → Prop}

structure At (T : Table Beneficiary) (P : Table CustomerProfile) (s : State) : Prop where
  beneficiaries : s.world.db.beneficiaries = T
  profiles : s.world.db.customerProfiles = P

omit [Record ρ κ ν] [DecidableEq κ] [DecidableEq ν] in
lemma At.same {s' : State} (h : At T P s) (hs : SamePayees s s') : At T P s' :=
  ⟨hs.1.trans h.beneficiaries, hs.2.trans h.profiles⟩

lemma turn_pure {b : β} (hs : At T P s) (h : ∀ u, At T P u → Q (.ok b) u) : Turn t (pure b) s Q :=
  Prog.safe_pure fun u hu => h u (hs.same hu)

lemma turn_throw {e : Failure} (hs : At T P s) (h : ∀ u, At T P u → Q (.error e) u) :
    Turn t (throw e) s Q :=
  Prog.safe_throw fun u hu => h u (hs.same hu)

lemma turn_bind {p : Service α} {f : α → Service β} {A : Except Failure α → State → Prop}
    (h : Turn t p s A) (hok : ∀ a u, A (.ok a) u → Turn t (f a) u Q)
    (herror : ∀ e u, A (.error e) u → ∀ v, SamePayees u v → Q (.error e) v) :
    Turn t (p >>= f) s Q := by
  apply Prog.safe_bind SamePayees.refl
  apply h.mono
  intro r u hr
  cases r with
  | ok a => exact hok a u hr
  | error e => exact herror e u hr

lemma turn_statement {l : Statement} {body : Inputs → Instant → Db → Except PrismaError (α × Db)}
    {f : α → Service β} (hs : At T P s)
    (h : ∀ i : Inputs, ∀ u, At T P u → i.Reliable u →
      ∃ a db, body i u.world.now u.world.db = .ok (a, db) ∧
      ∀ v, v.world.db = db → Turn t (f a) v Q) : Turn t (Service.statement l body >>= f) s Q := by
  apply turn_bind (A := fun r u => ∃ a, r = .ok a ∧ Turn t (f a) u Q)
  · apply Prog.safe_atomic
    intro u hu i hi
    obtain ⟨a, db, hbody, hnext⟩ := h i u (hs.same hu) hi
    refine ⟨trivial, fun v hv => ⟨a, ?_, ?_⟩⟩
    · simp only [hi.faultless l, hbody]
    · apply Prog.Safe.rely SamePayees.trans _ hv
      apply hnext
      simp only [Shared.after, hi.faultless l, hbody]
  · rintro a u ⟨_, ha, hnext⟩
    cases ha
    exact hnext
  · rintro e u ⟨a, ha, _⟩
    cases ha

lemma turn_read {l : Statement} {f : ℕ → Db → α} {k : α → Service β} (hs : At T P s)
    (h : ∀ n db, db.beneficiaries = T → db.customerProfiles = P → ∀ u, At T P u →
      Turn t (k (f n db)) u Q) :
    Turn t (Service.read l f >>= k) s Q := by
  apply turn_statement hs
  intro i u hu _
  refine ⟨_, _, rfl, fun v hv => h _ _ hu.beneficiaries hu.profiles v ?_⟩
  exact ⟨hv ▸ hu.beneficiaries, hv ▸ hu.profiles⟩

lemma turn_newDate {k : Instant → Service β} (hs : At T P s)
    (h : ∀ now u, At T P u → Turn t (k now) u Q) :
    Turn t (Service.newDate >>= k) s Q := by
  apply turn_bind (A := fun r u => ∃ now, r = .ok now ∧ At T P u)
  · apply Prog.safe_atomic
    intro u hu i _
    exact ⟨trivial, fun v hv => ⟨_, rfl, ((hs.same hu).same ⟨rfl, rfl⟩).same hv⟩⟩
  · rintro now u ⟨_, _, hu⟩
    exact h now u hu
  · rintro e u ⟨_, hnow, _⟩
    cases hnow

lemma turn_audit {row : Uuid → Instant → AuditEvent} {k : AuditEvent → Service β} (hs : At T P s)
    (hid : ∀ id now, (row id now).id = id) (h : ∀ a u, At T P u → Turn t (k a) u Q) :
    Turn t (Service.create Db.auditEvent .auditCreate row >>= k) s Q := by
  apply turn_statement hs
  intro i u hu hi
  obtain ⟨t', ht⟩ : ∃ t', u.world.db.auditEvents.insert (row (i.uuid .auditCreate) u.world.now) =
      some t' := by
    apply Table.exists_insert
    · intro e he hkey
      exact hi.audit e he (hkey.trans (hid _ _))
    · intro v hv
      cases hv
  refine ⟨_, _, by simp only [Db.create, Db.auditEvent, ht]; rfl, fun v hv => h _ v ?_⟩
  exact ⟨hv ▸ hu.beneficiaries, hv ▸ hu.profiles⟩

lemma turn_update {id : Uuid} {f : Patch Beneficiary} {row : Beneficiary}
    {k : Beneficiary → Service β} (hs : At T P s) (hrow : T.find id = some row)
    (h : ∀ u, At (T.modify id f) P u → Turn t (k (f.apply row)) u Q) :
    Turn t (Service.update Db.beneficiary .beneficiaryWrite id f >>= k) s Q := by
  apply turn_statement hs
  intro i u hu _
  have hfound : u.world.db.beneficiaries.find id = some row := by rw [hu.beneficiaries, hrow]
  refine ⟨_, _, by simp only [Db.update, Db.beneficiary, hfound]; rfl, fun v hv => h v ?_⟩
  refine ⟨?_, hv ▸ hu.profiles⟩
  rw [hv, ← hu.beneficiaries]

lemma turn_create {row : Uuid → Instant → Beneficiary} {k : Beneficiary → Service β} (hs : At T P s)
    (hid : ∀ id now, (row id now).id = id)
    (halt : ∀ id now, ∀ b ∈ T.rows, (b.customerId, b.iban) ≠
      ((row id now).customerId, (row id now).iban))
    (h : ∀ id now T', T.insert (row id now) = some T' → ∀ u, At T' P u →
      Turn t (k (row id now)) u Q) :
    Turn t (Service.create Db.beneficiary .beneficiaryWrite row >>= k) s Q := by
  apply turn_statement hs
  intro i u hu hi
  obtain ⟨T', hT⟩ : ∃ T', T.insert (row (i.uuid .beneficiaryWrite) u.world.now) = some T' := by
    apply Table.exists_insert
    · intro b hb hkey
      exact hi.row b (hu.beneficiaries ▸ hb) (hkey.trans (hid _ _))
    · rintro v hv b hb hbv
      exact halt _ _ b hb (Option.some.inj (hbv.trans hv.symm))
  have hinsert : u.world.db.beneficiaries.insert (row (i.uuid .beneficiaryWrite) u.world.now) =
      some T' := by
    rw [hu.beneficiaries, hT]
  refine ⟨_, _, by simp only [Db.create, Db.beneficiary, hinsert]; rfl,
    fun v hv => h _ _ T' hT v ?_⟩
  exact ⟨by rw [hv], hv ▸ hu.profiles⟩

lemma turn_profileId {userId : Uuid} {profile : CustomerProfile} {k : Uuid → Service β}
    (hs : At T P s) (hprofile : P.findAlt userId = some profile)
    (h : ∀ u, At T P u → Turn t (k profile.id) u Q) :
    Turn t (profileId userId >>= k) s Q := by
  apply turn_bind (A := fun r u => r = .ok profile.id ∧ At T P u)
  · unfold profileId
    apply turn_read hs
    intro n db _ hdb u hu
    rw [hdb, hprofile]
    exact turn_pure hu fun v hv => ⟨rfl, hv⟩
  · rintro a u ⟨ha, hu⟩
    cases ha
    exact h u hu
  · rintro e u ⟨he, _⟩
    cases he

variable {profile : CustomerProfile} {userId : Uuid}

lemma turn_createBeneficiary {dto : CreateBeneficiaryDto} (hs : At T P s)
    (hprofile : P.findAlt userId = some profile) :
    Turn t (createBeneficiary userId dto) s fun r u =>
      ∃ T', At T' P u ∧ CreatesPayee (T.register Beneficiary.Active)
        (T'.register Beneficiary.Active) profile.id
        (ibanNorm dto.iban) r := by
  unfold createBeneficiary
  apply turn_profileId hs hprofile
  intro u hu
  apply turn_read hu
  intro _ db hdb _ v hv
  rw [hdb]
  cases hexisting : T.findAlt (profile.id, ibanNorm dto.iban) with
  | some row =>
    obtain ⟨hm, halt⟩ := Table.findAlt_eq_some.mp hexisting
    dsimp only
    split
    · rename_i hactive
      refine turn_throw hv fun x hx => ⟨T, hx, .of_present ?_⟩
      exact (Table.mem_register_active hm halt).mpr hactive
    · rename_i hactive
      have hrow : T.find row.id = some row := Table.find_eq_some.mpr ⟨hm, rfl⟩
      apply turn_update hv hrow
      intro x hx
      apply turn_audit hx (fun _ _ => rfl)
      intro _ y hy
      exact turn_pure hy fun z hz => ⟨_, hz, .of_admits (Table.modify_admits hrow halt hactive rfl)⟩
  | none =>
    apply turn_create hv (fun _ _ => rfl)
    · intro _ _ b hb hsame
      exact Table.findAlt_eq_none.mp hexisting b hb (congrArg some hsame)
    · intro id now T' hT x hx
      apply turn_audit hx (fun _ _ => rfl)
      intro _ y hy
      exact turn_pure hy fun z hz => ⟨T', hz, .of_admits (Table.insert_admits hT rfl rfl)⟩

lemma turn_removeBeneficiary {id : Uuid} (hs : At T P s)
    (hprofile : P.findAlt userId = some profile) :
    Turn t (removeBeneficiary userId id) s fun r u => ∃ T', At T' P u ∧
      RemovesPayee (T.register Beneficiary.Active) (T'.register Beneficiary.Active)
        profile.id id r := by
  have hnamed : ∀ iban, (T.register Beneficiary.Active).names id = some (profile.id, iban) →
      ∃ b ∈ T.rows, b.id = id ∧ b.customerId = profile.id ∧ b.iban = iban := by
    intro iban hname
    obtain ⟨b, hb, halt⟩ := Option.bind_eq_some_iff.mp hname
    obtain ⟨hm, hid⟩ := Table.find_eq_some.mp hb
    obtain ⟨hc, hi⟩ := Prod.mk.injEq .. ▸ Option.some.inj halt
    exact ⟨b, hm, hid, hc, hi⟩
  unfold removeBeneficiary
  apply turn_profileId hs hprofile
  intro u hu
  apply turn_read hu
  intro choice db hdb _ v hv
  rw [hdb]
  cases hfound : T.findFirst (fun b => b.id = id ∧ b.customerId = profile.id) choice with
  | none =>
    refine turn_throw hv fun x hx => ⟨T, hx, .of_absent ?_⟩
    intro iban hname
    obtain ⟨b, hb, hid, hc, _⟩ := hnamed iban hname
    have hnone := Table.findFirst_eq_none hfound hb
    simp [hid, hc] at hnone
  | some ben =>
    obtain ⟨hm, hp⟩ := Table.findFirst_eq_some hfound
    obtain ⟨rfl, hc⟩ := of_decide_eq_true hp
    have halt : Record.alt ben = some (profile.id, ben.iban) := by rw [← hc]; rfl
    dsimp only
    split
    · rename_i harchived
      refine turn_throw hv fun x hx => ⟨T, hx, .of_absent ?_⟩
      intro iban hname hactive
      obtain ⟨b, hb, hid, _, rfl⟩ := hnamed iban hname
      obtain rfl := T.eq_of_key_eq hb hm hid
      have hon := (Table.mem_register_active hb halt).mp hactive
      simp [hon] at harchived
    · rename_i hkept
      have hactive : ben.status = .active := by
        cases hstatus : ben.status with
        | active => rfl
        | archived => exact absurd hstatus hkept
      have hrow : T.find ben.id = some ben := Table.find_eq_some.mpr ⟨hm, rfl⟩
      apply turn_newDate hv
      intro now w hw
      apply turn_update hw hrow
      intro x hx
      apply turn_audit hx (fun _ _ => rfl)
      intro _ y hy
      have harchived : ¬ ((Beneficiary.archive now).apply ben).Active := by
        simp [Beneficiary.archive]
      exact turn_pure hy fun z hz =>
        ⟨_, hz, .of_dismisses (Table.modify_dismisses hrow halt hactive harchived)⟩

end Turn

lemma findByUser_lists {userId : Uuid} {profile : CustomerProfile} {i : Inputs} {w : World}
    (hi : ∀ l, i.fault l = none) (hprofile : w.db.customerProfiles.findAlt userId = some profile) :
    ∃ listed, (findByUser userId).exec i w = (.ok listed, w) ∧ (listed.map Beneficiary.iban).Nodup ∧
      ∀ iban, iban ∈ listed.map Beneficiary.iban ↔ (profile.id, iban) ∈ w.db.payees.active := by
  have hread : ∀ {α : Type} (l : Statement) (f : ℕ → Db → α),
      (Service.read l f).exec i w = (.ok (f (i.choice l) w.db), w) := by
    intro α l f
    simp [Service.read, Service.statement, Prog.atomic, Prog.exec, hi]
  have hid : (profileId userId).exec i w = (.ok profile.id, w) := by
    rw [profileId, Prog.exec_bind, hread]
    simp only [hprofile]
    rfl
  let owned := w.db.beneficiaries.rows.filter fun b => b.customerId = profile.id ∧
    b.status = .active
  let listed := owned.mergeSort fun a b => b.createdAt ≤ a.createdAt
  have hperm : (listed.map Beneficiary.iban).Perm (owned.map Beneficiary.iban) :=
    (List.mergeSort_perm owned _).map _
  have howned : ∀ b, b ∈ owned ↔ b ∈ w.db.beneficiaries.rows ∧ b.customerId = profile.id ∧
      b.status = .active := by
    intro b
    simp [owned]
  refine ⟨listed, by rw [findByUser, Prog.exec_bind, hid]; exact hread _ _, ?_, ?_⟩
  · rw [hperm.nodup_iff]
    apply List.Nodup.map_on
    · intro a ha b hb hiban
      obtain ⟨ham, hac, _⟩ := (howned a).mp ha
      obtain ⟨hbm, hbc, _⟩ := (howned b).mp hb
      exact w.db.beneficiaries.eq_of_alt_eq ham hbm rfl (congrArg some (by rw [hac, hbc, hiban]))
    · exact (List.Nodup.of_map Record.key w.db.beneficiaries.keys_nodup).filter _
  · intro iban
    rw [hperm.mem_iff, List.mem_map]
    constructor
    · rintro ⟨b, hb, rfl⟩
      obtain ⟨hm, hc, hactive⟩ := (howned b).mp hb
      exact ⟨b, hm, by rw [← hc]; rfl, hactive⟩
    · rintro ⟨b, hm, halt, hactive⟩
      obtain ⟨hc, hiban⟩ := Prod.mk.injEq .. ▸ Option.some.inj halt
      exact ⟨b, (howned b).mpr ⟨hm, hc, hactive⟩, hiban⟩

section Refinement

variable {sha256 : String → String} {b b' : Bank} {t : ℕ} {c : Call} {turn : List Action}

lemma turn_ends {Q : Except Failure Response → State → Prop} (halone : Label.Alone t turn)
    (hreliable : Config.Meets (handle sha256) environment
      (fun d a => ∀ i, a = .act t i → i.Reliable d.shared) b
      (.spawn t c :: turn)) (h : Bank.run sha256 b (.spawn t c :: turn) = some b')
    (hp : Turn t (handle sha256 c) b.shared Q) {r : Except Failure Response}
    (hdone : b'.threads t = some (c, .done r)) : Q r b'.shared :=
  Config.alone_call SamePayees.trans SamePayees.refl
    (fun e s => environment_beneficiaries e s.world) halone
    hreliable h hp hdone

/-- Races and failures leave every customer a set of IBANs in normal form, and every id what it
stands for. A call whose turn it is adds the IBAN exactly if it is not in the set, removes it
exactly if the id is of one in the set, and finds the set. -/
theorem beneficiaries_refine_set {w : World} {before after : List Action}
    (hw : ∀ x ∈ w.db.beneficiaries.rows, x.Tidy)
    (h : Bank.run sha256 (Bank.start w) before = some b) (h' : Bank.run sha256 b after = some b') :
    (∀ x ∈ b.db.beneficiaries.rows, x.Tidy) ∧
    (∀ x ∈ b.db.beneficiaries.rows, ∀ y ∈ b.db.beneficiaries.rows, x.customerId = y.customerId →
      ibanNorm x.iban = ibanNorm y.iban → x = y) ∧
    b.db.payees.Extends b'.db.payees ∧
    ∀ userId profile, b.db.customerProfiles.findAlt userId = some profile →
      (∀ t c turn r, after = .spawn t c :: turn → Label.Alone t turn →
        Config.Meets (handle sha256) environment
          (fun d a => ∀ i, a = .act t i → i.Reliable d.shared) b after →
        b'.threads t = some (c, .done r) →
        (∀ dto, c = .createBeneficiary userId dto → ∃ answer, r = answer.map .beneficiary ∧
          CreatesPayee b.db.payees b'.db.payees profile.id (ibanNorm dto.iban) answer) ∧
        ∀ id, c = .removeBeneficiary userId id → ∃ answer, r = answer.map (fun _ => .removed) ∧
          RemovesPayee b.db.payees b'.db.payees profile.id id answer) ∧
      (∀ t c, b.threads t = none → ∀ inputs, ∃ n d r,
        Bank.run sha256 b (.spawn t c :: Label.solo t inputs n) = some d ∧
          d.threads t = some (c, .done r)) ∧
      ∀ i : Inputs, (∀ l, i.fault l = none) → ∃ listed,
        (findByUser userId).exec i b.shared.world = (.ok listed, b.shared.world) ∧
        (listed.map Beneficiary.iban).Nodup ∧
        ∀ iban, iban ∈ listed.map Beneficiary.iban ↔ (profile.id, iban) ∈ b.db.payees.active := by
  let D := beneficiaryDiscipline sha256
  have hholds : D.Holds b := D.holds_of_run (D.init_holds w) h
  have htidy : ∀ x ∈ b.db.beneficiaries.rows, x.Tidy :=
    run_beneficiaries (fun _ _ hwrite => hwrite.tidy) (D.init_holds w) hw h
  have hnames : b.db.payees.Extends b'.db.payees :=
    run_beneficiaries (P := fun db => b.db.payees.Extends db.payees)
      (fun _ _ hwrite hold => hold.trans hwrite.keeps_names) hholds (.refl _) h'
  refine ⟨htidy, ?_, hnames, fun userId profile hprofile =>
    ⟨?_, ?_, fun i hi => findByUser_lists hi hprofile⟩⟩
  · intro x hx y hy hcustomer hiban
    rw [(htidy x hx).normal, (htidy y hy).normal] at hiban
    exact b.db.beneficiaries.eq_of_alt_eq hx hy rfl (congrArg some (by rw [hcustomer, hiban]))
  · rintro t c turn r rfl halone hreliable hdone
    have hat : At b.db.beneficiaries b.db.customerProfiles b.shared := ⟨rfl, rfl⟩
    constructor
    · rintro dto rfl
      have hturn : Turn t (handle sha256 (.createBeneficiary userId dto)) b.shared fun r u =>
          ∃ answer, r = answer.map .beneficiary ∧
            CreatesPayee b.db.payees u.world.db.payees profile.id (ibanNorm dto.iban) answer := by
        apply turn_bind (turn_createBeneficiary hat hprofile)
        · rintro result u ⟨T', hT, hcreates⟩
          exact turn_pure hT fun v hv =>
            ⟨.ok result, rfl, by rwa [Db.payees, Db.payees, hv.beneficiaries]⟩
        · rintro e u ⟨T', hT, hcreates⟩ v hv
          exact ⟨.error e, rfl, by rwa [Db.payees, Db.payees, (hT.same hv).beneficiaries]⟩
      exact turn_ends halone hreliable h' hturn hdone
    · rintro id rfl
      have hturn : Turn t (handle sha256 (.removeBeneficiary userId id)) b.shared fun r u =>
          ∃ answer, r = answer.map (fun _ => .removed) ∧
            RemovesPayee b.db.payees u.world.db.payees profile.id id answer := by
        apply turn_bind (turn_removeBeneficiary hat hprofile)
        · rintro result u ⟨T', hT, hremoves⟩
          exact turn_pure hT fun v hv =>
            ⟨.ok result, rfl, by rwa [Db.payees, Db.payees, hv.beneficiaries]⟩
        · rintro e u ⟨T', hT, hremoves⟩ v hv
          exact ⟨.error e, rfl, by rwa [Db.payees, Db.payees, (hT.same hv).beneficiaries]⟩
      exact turn_ends halone hreliable h' hturn hdone
  · intro t c ht inputs
    obtain ⟨d, hd⟩ : ∃ d, Config.step (handle sha256) environment b (.spawn t c) = some d := by
      simp [Config.step, ht]
    obtain ⟨n, e, r, hrun, hdone⟩ := Config.alone_ends inputs (Discipline.spawned hd).2
    refine ⟨n, e, r, ?_, hdone⟩
    rw [Bank.run, Config.run, hd]
    exact hrun

end Refinement

def demoPayeeTurn (t n : ℕ) (call : Call) : List Action :=
  .spawn t call :: Label.solo t (fun k => demoInputs (10 * t + k)) n

def demoAdds (t : ℕ) : List Action :=
  demoPayeeTurn t 4 (.createBeneficiary (demoIds .user) demoBeneficiaryDto)

def demoPayeeId : Uuid := (demoInputs 2).uuid .beneficiaryWrite

def demoRemoves (t : ℕ) : List Action :=
  demoPayeeTurn t 5 (.removeBeneficiary (demoIds .user) demoPayeeId)

def Bank.isFresh (b : Bank) : Action → Bool
  | .act _ i => (b.db.beneficiaries.rows.all fun x => x.id ≠ i.uuid .beneficiaryWrite) &&
    b.db.auditEvents.rows.all fun e => e.id ≠ i.uuid .auditCreate
  | _ => true

def Bank.allFresh (b : Bank) (turn : List Action) : Bool :=
  (List.range turn.length).all fun k =>
    (Bank.run demoSha256 b (turn.take k)).all fun d => (turn[k]?).all d.isFresh

def Bank.activePayees (b : Bank) : ℕ × ℕ :=
  (b.db.beneficiaries.rows.length,
    (b.db.beneficiaries.rows.filter fun x => x.status = .active).length)

def Bank.customerOf (b : Bank) (userId : Uuid) : Option Uuid :=
  (b.db.customerProfiles.findAlt userId).map CustomerProfile.id

lemma demoPayeeTurn_acts {t n : ℕ} {call : Call} {i : Inputs}
    (h : .act t i ∈ demoPayeeTurn t n call) :
    ∃ k, i = demoInputs k := by
  rcases List.mem_cons.mp h with h | h
  · cases h
  · obtain ⟨k, _, hk⟩ := List.mem_map.mp h
    cases hk
    exact ⟨_, rfl⟩

lemma demo_reliable {b : Bank} {t n : ℕ} {call : Call}
    (h : b.allFresh (demoPayeeTurn t n call) = true) :
    Config.Meets (handle demoSha256) environment
      (fun d a => ∀ i, a = .act t i → i.Reliable d.shared) b
      (demoPayeeTurn t n call) := by
  refine Discipline.meets_of_takes fun k hk l d hnext hrun i hl => ?_
  subst hl
  obtain ⟨m, rfl⟩ := demoPayeeTurn_acts (List.mem_of_getElem? hnext)
  have hfresh := List.all_eq_true.mp h k (List.mem_range.mpr hk)
  rw [hnext, show Bank.run demoSha256 b _ = some d from hrun] at hfresh
  have hfresh : Bank.isFresh d (.act t (demoInputs m)) = true := hfresh
  obtain ⟨hrow, haudit⟩ := Bool.and_eq_true_iff.mp hfresh
  exact ⟨fun _ => rfl, fun x hx => of_decide_eq_true (List.all_eq_true.mp hrow x hx),
    fun e he => of_decide_eq_true (List.all_eq_true.mp haudit e he)⟩

lemma demoPayeeTurn_alone (t n : ℕ) :
    Label.Alone t (Label.solo t (fun k => demoInputs (10 * t + k)) n : List Action) := by
  intro a ha
  obtain ⟨k, _, rfl⟩ := List.mem_map.mp ha
  exact .inl ⟨_, rfl⟩

def Bank.turned (b : Bank) (t : ℕ) (turn : List Action) : Option Bank :=
  (Bank.run demoSha256 b turn).filter fun d => b.allFresh turn && (d.outcome t).isSome

lemma Bank.turned_spec {before : List Action} {b d : Bank} {t n : ℕ} {call : Call}
    (hb : Bank.run demoSha256 (Bank.start demoWorld) before = some b)
    (h : b.turned t (demoPayeeTurn t n call) = some d) :
    Bank.run demoSha256 b (demoPayeeTurn t n call) = some d ∧
      b.allFresh (demoPayeeTurn t n call) = true ∧
      (∃ r, d.threads t = some (call, .done r)) ∧
        Bank.run demoSha256 (Bank.start demoWorld) (before ++ demoPayeeTurn t n call) = some d := by
  obtain ⟨hrun, hends⟩ := Option.filter_eq_some_iff.mp h
  obtain ⟨hfresh, hended⟩ := Bool.and_eq_true_iff.mp hends
  obtain ⟨r, hr⟩ := Option.isSome_iff_exists.mp hended
  obtain ⟨c, ht⟩ := Bank.thread_of_outcome hr
  have hwhole : Bank.run demoSha256 (Bank.start demoWorld)
      (before ++ demoPayeeTurn t n call) = some d :=
    (Config.run_after hb).trans hrun
  have hholds := (discipline demoSha256).holds_of_run
    ((discipline demoSha256).init_holds demoWorld) hb
  obtain ⟨q, hq⟩ := (discipline demoSha256).call_of_spawn hholds hrun
  obtain ⟨rfl, rfl⟩ := Prod.mk.injEq .. ▸ Option.some.inj (hq.symm.trans ht)
  exact ⟨hrun, hfresh, ⟨r, ht⟩, hwhole⟩

theorem demo_beneficiaries_refine_set : ∃ b₁ b₂ b₃ added removed again,
    Bank.run demoSha256 (Bank.start demoWorld) (demoAdds 0) = some b₁ ∧
    Bank.run demoSha256 b₁ (demoRemoves 1) = some b₂ ∧
      Bank.run demoSha256 b₂ (demoAdds 2) = some b₃ ∧
    b₁.activePayees = (1, 1) ∧ b₂.activePayees = (1, 0) ∧ b₃.activePayees = (1, 1) ∧
    CreatesPayee demoWorld.db.payees b₁.db.payees (demoIds .profile)
      (ibanNorm demoBeneficiaryDto.iban) added ∧
    RemovesPayee b₁.db.payees b₂.db.payees (demoIds .profile) demoPayeeId removed ∧
    CreatesPayee b₂.db.payees b₃.db.payees (demoIds .profile)
      (ibanNorm demoBeneficiaryDto.iban) again := by
  have hrun : ((Bank.start demoWorld).turned 0 (demoAdds 0)).bind
      (fun b₁ => (b₁.turned 1 (demoRemoves 1)).bind fun b₂ =>
      (b₂.turned 2 (demoAdds 2)).map fun b₃ =>
        ((b₁.activePayees, b₂.activePayees, b₃.activePayees), b₁.customerOf (demoIds .user),
          b₂.customerOf (demoIds .user))) =
        some (((1, 1), (1, 0), (1, 1)), some (demoIds .profile), some (demoIds .profile)) := by
          decide +kernel
  obtain ⟨b₁, hb₁, hrun⟩ := Option.bind_eq_some_iff.mp hrun
  obtain ⟨b₂, hb₂, hrun⟩ := Option.bind_eq_some_iff.mp hrun
  obtain ⟨b₃, hb₃, hend⟩ := Option.map_eq_some_iff.mp hrun
  obtain ⟨hactive, hcustomer⟩ := Prod.mk.inj hend
  obtain ⟨hactive₁, hactive⟩ := Prod.mk.inj hactive
  obtain ⟨hactive₂, hactive₃⟩ := Prod.mk.inj hactive
  obtain ⟨hcustomer₁, hcustomer₂⟩ := Prod.mk.inj hcustomer
  have hcustomer₀ : (Bank.start demoWorld).customerOf (demoIds .user) = some
      (demoIds .profile) := by decide +kernel
  obtain ⟨profile₀, hprofile₀, hid₀⟩ := Option.map_eq_some_iff.mp hcustomer₀
  obtain ⟨profile₁, hprofile₁, hid₁⟩ := Option.map_eq_some_iff.mp hcustomer₁
  obtain ⟨profile₂, hprofile₂, hid₂⟩ := Option.map_eq_some_iff.mp hcustomer₂
  have hnone : demoWorld.db.beneficiaries.rows.length = 0 := by decide +kernel
  have hempty : ∀ x ∈ demoWorld.db.beneficiaries.rows, x.Tidy := by
    simp [List.eq_nil_of_length_eq_zero hnone]
  have hstart : Bank.run demoSha256 (Bank.start demoWorld) [] = some (Bank.start demoWorld) := rfl
  obtain ⟨hrun₁, hfresh₁, ⟨r₁, ht₁⟩, hbefore₁⟩ := Bank.turned_spec hstart hb₁
  obtain ⟨hrun₂, hfresh₂, ⟨r₂, ht₂⟩, hbefore₂⟩ := Bank.turned_spec hbefore₁ hb₂
  obtain ⟨hrun₃, hfresh₃, ⟨r₃, ht₃⟩, _⟩ := Bank.turned_spec hbefore₂ hb₃
  obtain ⟨_, _, _, hturns₁⟩ := beneficiaries_refine_set hempty hstart hrun₁
  obtain ⟨_, _, _, hturns₂⟩ := beneficiaries_refine_set hempty hbefore₁ hrun₂
  obtain ⟨_, _, _, hturns₃⟩ := beneficiaries_refine_set hempty hbefore₂ hrun₃
  obtain ⟨added, _, hadded⟩ := ((hturns₁ _ _ hprofile₀).1 0 _ _ r₁ rfl (demoPayeeTurn_alone 0 4)
    (demo_reliable hfresh₁) ht₁).1 demoBeneficiaryDto rfl
  obtain ⟨removed, _, hremoved⟩ := ((hturns₂ _ _ hprofile₁).1 1 _ _ r₂ rfl (demoPayeeTurn_alone 1 5)
    (demo_reliable hfresh₂) ht₂).2 demoPayeeId rfl
  obtain ⟨again, _, hagain⟩ := ((hturns₃ _ _ hprofile₂).1 2 _ _ r₃ rfl (demoPayeeTurn_alone 2 4)
    (demo_reliable hfresh₃) ht₃).1 demoBeneficiaryDto rfl
  exact ⟨b₁, b₂, b₃, added, removed, again, hrun₁, hrun₂, hrun₃, hactive₁, hactive₂, hactive₃,
    hid₀ ▸ hadded,
    hid₁ ▸ hremoved, hid₂ ▸ hagain⟩

end OnlineBanking
