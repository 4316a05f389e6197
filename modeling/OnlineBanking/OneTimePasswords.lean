import OnlineBanking.CardLifecycle
import OnlineBanking.Library.Logs

set_option autoImplicit false

/-! A one-time password authorises at most one success as long as no two requests hold it at
once. -/

namespace OnlineBanking

open Library

lemma mfaKey_injective {u v : Uuid} (h : mfaKey u = mfaKey v) : u = v := by
  have hlist : ("mfa:otp:" ++ u.text).toList = ("mfa:otp:" ++ v.text).toList :=
    congrArg String.toList h
  simp only [String.toList_append] at hlist
  rw [List.append_cancel_left_eq] at hlist
  exact Uuid.ext_text (String.ext hlist)

lemma revealKey_injective {u v cardId cardId' : Uuid}
    (h : revealKey u cardId = revealKey v cardId') :
    u = v ∧ cardId = cardId' := by
  have hlist : ("card:reveal:" ++ u.text ++ ":" ++ cardId.text).toList =
      ("card:reveal:" ++ v.text ++ ":" ++ cardId'.text).toList := congrArg String.toList h
  simp only [String.toList_append, List.append_assoc] at hlist
  rw [List.append_cancel_left_eq] at hlist
  obtain ⟨hu, hrest⟩ := List.append_inj hlist (u.text_length.trans v.text_length.symm)
  rw [List.append_cancel_left_eq] at hrest
  exact ⟨Uuid.ext_text (String.ext hu), Uuid.ext_text (String.ext hrest)⟩

lemma mfaKey_ne_revealKey {u v cardId : Uuid} : mfaKey u ≠ revealKey v cardId := by
  intro h
  have hlist : ("mfa:otp:" ++ u.text).toList.head? =
      ("card:reveal:" ++ v.text ++ ":" ++ cardId.text).toList.head? :=
    congrArg (List.head? ∘ String.toList) h
  simp only [String.toList_append] at hlist
  exact absurd hlist (by simp)

def Untouched (key : String) (es : List (ℕ × AppEvent)) : Prop :=
  ∀ t otp expiresAt, (t, .otpStored key otp expiresAt) ∉ es ∧ (t, .otpDeleted key) ∉ es

/-- The password that was written at place `n` of the log, by thread `u`, has been read by thread
`t` before it expired. -/
def Obtains (log : List (ℕ × AppEvent)) (n u t : ℕ) (key otp : String) : Prop :=
  ∃ pre mid post expiresAt at_, pre.length = n ∧ at_ < expiresAt ∧ Untouched key mid ∧
    log = pre ++ (u, .otpStored key otp expiresAt) :: (mid ++ (t, .otpRead key otp at_) :: post)

/-- Thread `u`, which runs the first call, issued the password to the user, and for the card, of the
second call. -/
inductive IssuedTo (u : ℕ) (s : AppState) : AppCall → AppCall → Prop
  | mfa (dto : LoginDto) (user : User) (token : Token) (otp : String) (info : RequestMeta)
      (accepted : (u, .passwordAccepted user) ∈ s.trace) (email : user.email = emailNorm dto.email)
      (same : user.id = token.payload.sub) : IssuedTo u s (.login dto) (.verifyMfa token otp info)
  | reveal (userId cardId : Uuid) (otp : String) :
    IssuedTo u s (.initiateReveal userId cardId) (.verifyReveal userId cardId otp)

def App.Succeeded (b : App) (t : ℕ) : Prop :=
  (∃ session, (t, .sessionCreated session) ∈ b.trace) ∨
    (∃ token, (t, .tokenSigned token) ∈ b.trace ∧ token.payload.mfaVerified = true) ∨
      ∃ call details, b.threads t = some (call, .done (.ok (.revealed details)))

/-- Thread `t` has not ended, and holds the password under the key that its call presents. -/
def App.Holding (b : App) (t : ℕ) (key otp : String) : Prop :=
  ∃ call p pre at_ post, b.threads t = some (call, p) ∧ (∀ r, p ≠ .done r) ∧ Presents call key otp ∧
    b.trace = pre ++ (t, .otpRead key otp at_) :: post ∧ Untouched key post

/-- A request that reads the password it presents finds no other request holding that password. -/
def ReadsAlone (host : Host) (b : App) (l : AppAction) : Prop :=
  ∀ t i call p b' key otp at_, l = .act t i → b.threads t = some (call, p) →
    b.step host l = some b' →
    Presents call key otp → b'.trace = b.trace ++ [(t, .otpRead key otp at_)] →
      ∀ u, u ≠ t → ¬ b.Holding u key otp

section Steps

variable {host : Host} {t : ℕ} {c : AppCall} {i : AppInputs} {s s' : AppState}

def AppEvent.IsOtp : AppEvent → Prop
  | .otpStored _ _ _ => True
  | .otpRead _ _ _ => True
  | .otpDeleted _ => True
  | _ => False

def AppEvent.SameKind : AppEvent → AppEvent → Prop
  | .otpRead _ _ _, .otpRead _ _ _ => True
  | .sessionCreated _, .sessionCreated _ => True
  | .tokenSigned _, .tokenSigned _ => True
  | _, _ => False

inductive OtpEffect (t : ℕ) (c : AppCall) (s s' : AppState) : Prop
  | same (es : List AppEvent) (none : ∀ e ∈ es, ¬ e.IsOtp) (otps : s'.world.otps = s.world.otps)
      (apart : es.Pairwise fun x y => ¬ x.SameKind y)
      (first : ∀ x, (t, x) ∈ s.trace → ∀ e ∈ es, ¬ x.SameKind e)
      (trace : s'.trace = s.trace ++ es.map (t, ·))
  | stored (key otp : String) (ttl : ℕ) (issues : Issues t s c key ttl)
      (otps : s'.world.otps = s.world.otps.set key otp (s.world.now + ttl))
      (trace : s'.trace = s.trace ++ [(t, .otpStored key otp (s.world.now + ttl))])
  | read (key presented otp : String) (presents : Presents c key presented)
      (first : ∀ e, (t, e) ∈ s.trace → ¬ e.IsOtpRead)
      (found : s.world.otps.get key s.world.now = some otp) (otps : s'.world.otps = s.world.otps)
      (trace : s'.trace = s.trace ++ [(t, .otpRead key otp s.world.now)])
  | deleted (key : String) (otps : s'.world.otps = s.world.otps.del key)
      (trace : s'.trace = s.trace ++ [(t, .otpDeleted key)])

lemma AppEffect.otps (h : AppEffect host t c i s s') : OtpEffect t c s s' := by
  have hother : ∀ {w : AppWorld} {es : List AppEvent}, s' = s.after t w es →
      (∀ e ∈ es, ¬ e.IsOtp ∧ ∀ x : AppEvent, ¬ x.SameKind e) → w.otps = s.world.otps →
        OtpEffect t c s s' := by
    rintro w es rfl hes hw
    refine .same es (fun e he => (hes e he).1) hw ?_ (fun x _ e he => (hes e he).2 x) rfl
    exact List.pairwise_of_forall_mem_list fun x _ y hy => (hes y hy).2 x
  cases h with
  | idle same => exact .same [] (by simp) (by rw [same]) (by simp) (by simp) (by simp [same])
  | bank _ _ v es _ after => exact hother after (by simp [AppEvent.IsOtp, AppEvent.SameKind]) rfl
  | noted _ _ after => exact hother after (by simp) rfl
  | cardChanged _ _ _ _ _ _ _ after => exact hother after (by simp) rfl
  | cardIssued _ _ _ _ _ _ _ _ _ _ after => exact hother after (by simp) rfl
  | passwordAccepted _ _ _ _ _ _ after =>
    exact hother after (by simp [AppEvent.IsOtp, AppEvent.SameKind]) rfl
  | otpStored key otp ttl issues after =>
    exact .stored key otp ttl issues (by rw [after]; rfl) (by rw [after]; rfl)
  | otpRead key presented otp presents first found after =>
    exact .read key presented otp presents first found (by rw [after]; rfl) (by rw [after]; rfl)
  | otpDeleted key _ _ _ _ after => exact .deleted key (by rw [after]; rfl) (by rw [after]; rfl)
  | sessionCreated _ _ _ session _ _ _ _ _ _ first _ _ _ after =>
    subst after
    refine .same [.sessionCreated session] (by simp [AppEvent.IsOtp]) rfl (by simp)
      (fun x hx e he => ?_) rfl
    obtain rfl := List.mem_singleton.mp he
    cases x with
    | sessionCreated x => exact fun _ => first x hx
    | _ => exact id
  | tokenSigned token _ first after =>
    subst after
    refine .same [.tokenSigned token] (by simp [AppEvent.IsOtp]) rfl (by simp)
      (fun x hx e he => ?_) rfl
    obtain rfl := List.mem_singleton.mp he
    cases x with
    | tokenSigned x => exact fun _ => first x hx
    | _ => exact id
  | sessionRead _ _ _ after => exact hother after (by simp [AppEvent.IsOtp, AppEvent.SameKind]) rfl
  | sessionsListed _ _ _ after =>
    exact hother after (by simp [AppEvent.IsOtp, AppEvent.SameKind]) rfl
  | sessionRevoked _ _ _ _ _ _ _ _ after => exact hother after (by simp) rfl
  | passed _ _ _ _ after => exact hother after (by simp [AppEvent.IsOtp, AppEvent.SameKind]) rfl

/-- Whatever stands in Redis was stored and not touched since, whatever was read was obtained, and
no thread reads, creates a session or signs a token twice. -/
structure Issued (s : AppState) : Prop where
  entries : ∀ e ∈ s.world.otps, ∃ u pre post,
    s.trace = pre ++ (u, .otpStored e.key e.value e.expiresAt) :: post ∧ Untouched e.key post
  reads : ∀ t key otp at_, (t, .otpRead key otp at_) ∈ s.trace →
    ∃ n u, Obtains s.trace n u t key otp
  once : s.trace.Pairwise fun x y => x.1 = y.1 → ¬ x.2.SameKind y.2

lemma Untouched.append {key : String} {es fs : List (ℕ × AppEvent)} (h : Untouched key es)
    (h' : Untouched key fs) :
    Untouched key (es ++ fs) := by
  intro t otp expiresAt
  simp only [List.mem_append, not_or]
  exact ⟨⟨(h t otp expiresAt).1, (h' t otp expiresAt).1⟩, (h t otp expiresAt).2,
    (h' t otp expiresAt).2⟩

lemma Obtains.append {log es : List (ℕ × AppEvent)} {n u t : ℕ} {key otp : String}
    (h : Obtains log n u t key otp) :
    Obtains (log ++ es) n u t key otp := by
  obtain ⟨pre, mid, post, expiresAt, at_, hn, hat, hmid, rfl⟩ := h
  exact ⟨pre, mid, post ++ es, expiresAt, at_, hn, hat, hmid, by simp⟩

lemma Issued.grows (hs : Issued s) {es : List (ℕ × AppEvent)} (htrace : s'.trace = s.trace ++ es)
    (hentries : ∀ e ∈ s'.world.otps, e ∈ s.world.otps ∧ Untouched e.key es ∨
      ∃ u, es = [(u, .otpStored e.key e.value e.expiresAt)])
    (hreads : ∀ t key otp at_, (t, .otpRead key otp at_) ∈ es →
      ∃ n u, Obtains s'.trace n u t key otp)
    (honce : es.Pairwise fun x y => x.1 = y.1 → ¬ x.2.SameKind y.2)
    (hfirst : ∀ x ∈ s.trace, ∀ y ∈ es, x.1 = y.1 → ¬ x.2.SameKind y.2) : Issued s' := by
  refine ⟨fun e he => ?_, fun t key otp at_ he => ?_, ?_⟩
  · rcases hentries e he with ⟨hold, huntouched⟩ | ⟨u, hnew⟩
    · obtain ⟨u, pre, post, hlog, hpost⟩ := hs.entries e hold
      exact ⟨u, pre, post ++ es, by simp [htrace, hlog], hpost.append huntouched⟩
    · exact ⟨u, s.trace, [], by rw [htrace, hnew], fun _ _ _ => ⟨by simp, by simp⟩⟩
  · rcases List.mem_append.mp (htrace ▸ he) with he | he
    · obtain ⟨n, u, hobtains⟩ := hs.reads t key otp at_ he
      exact ⟨n, u, htrace ▸ hobtains.append⟩
    · exact hreads t key otp at_ he
  · rw [htrace, List.pairwise_append]
    exact ⟨hs.once, honce, hfirst⟩

lemma untouched_of_not_otp {key : String} {es : List AppEvent} (h : ∀ e ∈ es, ¬ e.IsOtp) :
    Untouched key (es.map (t, ·)) := by
  intro u otp expiresAt
  constructor
  · intro hm
    obtain ⟨e, he, heq⟩ := List.mem_map.mp hm
    obtain ⟨rfl, rfl⟩ := Prod.mk.injEq .. ▸ heq
    exact h _ he trivial
  · intro hm
    obtain ⟨e, he, heq⟩ := List.mem_map.mp hm
    obtain ⟨rfl, rfl⟩ := Prod.mk.injEq .. ▸ heq
    exact h _ he trivial

theorem OtpEffect.issued (h : OtpEffect t c s s') (hs : Issued s) : Issued s' := by
  cases h with
  | same es none otps apart first trace =>
    refine hs.grows trace (fun e he => .inl ⟨otps ▸ he, untouched_of_not_otp none⟩)
      (fun u key otp at_ he => ?_) ?_ ?_
    · obtain ⟨e, he, heq⟩ := List.mem_map.mp he
      obtain ⟨rfl, rfl⟩ := Prod.mk.injEq .. ▸ heq
      exact absurd trivial (none _ he)
    · exact List.pairwise_map.mpr (apart.imp fun {x y} hxy (_ : t = t) => hxy)
    · rintro ⟨u, x⟩ hx y hy rfl
      obtain ⟨e, he, rfl⟩ := List.mem_map.mp hy
      exact first x hx e he
  | stored key otp ttl issues otps trace =>
    refine hs.grows trace (fun e he => ?_) (by simp) (by simp) (by simp [AppEvent.SameKind])
    rcases Expiring.mem_set.mp (otps ▸ he) with rfl | ⟨hold, hkey⟩
    · exact .inr ⟨t, rfl⟩
    · refine .inl ⟨hold, fun u otp' expiresAt => ?_⟩
      simp [hkey]
  | read key presented otp presents first found otps trace =>
    refine hs.grows trace (fun e he => .inl ⟨otps ▸ he, fun u otp' expiresAt => by simp⟩) ?_
      (by simp) ?_
    · intro u key' otp' at_ he
      obtain ⟨rfl, rfl, rfl, rfl⟩ : u = t ∧ key' = key ∧ otp' = otp ∧ at_ = s.world.now := by
        simpa using he
      obtain ⟨e, hm, rfl, hlt, rfl⟩ := Expiring.mem_of_get found
      obtain ⟨v, pre, post, hlog, huntouched⟩ := hs.entries e hm
      exact ⟨pre.length, v, pre, post, [], e.expiresAt, s.world.now, rfl, hlt,
        huntouched, by simp [trace, hlog]⟩
    · rintro ⟨u, x⟩ hx y hy hsame
      obtain rfl := List.mem_singleton.mp hy
      obtain rfl : u = t := hsame
      cases x with
      | otpRead key' otp' at_ => exact fun _ => first _ hx trivial
      | _ => exact id
  | deleted key otps trace =>
    refine hs.grows trace (fun e he => ?_) (by simp) (by simp) (by simp [AppEvent.SameKind])
    obtain ⟨hold, hkey⟩ := Expiring.mem_del.mp (otps ▸ he)
    exact .inl ⟨hold, fun u otp' expiresAt => by simp [hkey]⟩

end Steps

section Runs

variable {host : Host} {w : AppWorld} {schedule : List AppAction} {b : App}

theorem run_issued (hw : w.otps = []) (h : (App.start w).run host schedule = some b) :
    Issued b.shared := by
  refine ((appDiscipline host).run_invariant (P := fun d => Issued d.shared) ?_
    ((appDiscipline host).init_holds w)
    ?_ (Discipline.meets_true _ _) h).2
  · intro d l d' hd _ hissued hstep
    rcases (appDiscipline host).step_cases hd hstep with
      ⟨_, _, _, _, hs, _⟩ | ⟨t, i, call, _, _, _, _, heffect, _, _⟩ | ⟨e, _, hs, _⟩
    · exact hs ▸ hissued
    · exact (AppEffect.otps heffect).issued hissued
    · have htrace : d'.shared.trace = d.shared.trace ++ [] := by simp [hs]
      refine hissued.grows htrace (fun x hx => .inl ⟨?_, fun _ _ _ => by simp⟩) (by simp)
        (by simp) (by simp)
      rw [hs] at hx
      cases e <;> exact hx
  · exact ⟨by simp [Config.init, hw], by simp [Config.init], by simp [Config.init]⟩

lemma succeeded_consumed (h : (App.start w).run host schedule = some b) {t : ℕ}
    (ht : b.Succeeded t) :
    ∃ call p key otp, b.threads t = some (call, p) ∧ Presents call key otp ∧
      Consumed t key otp b.shared := by
  have hsession : ∀ session, (t, .sessionCreated session) ∈ b.trace → ∃ call p key otp,
      b.threads t = some (call, p) ∧ Presents call key otp ∧ Consumed t key otp b.shared := by
    intro session hm
    obtain ⟨call, p, hcall, token, otp, info, rfl, _, _, hsub, hconsumed, _⟩ := app_accounted h hm
    exact ⟨_, p, _, otp, hcall, hsub ▸ .mfa token otp info, hconsumed⟩
  rcases ht with ⟨session, hm⟩ | ⟨token, hm, hverified⟩ | ⟨call, details, hdone⟩
  · exact hsession session hm
  · obtain ⟨call, p, hcall, hsigned⟩ := app_accounted h hm
    obtain ⟨payload, iat, exp⟩ := token
    cases hsigned with
    | login dto user _ _ => cases hverified
    | mfa session email created => exact hsession session created
  · have hd := (appDiscipline host).holds_of_run ((appDiscipline host).init_holds w) h
    obtain ⟨userId, cardId, otp, rfl, hconsumed⟩ := (appDiscipline host).post_of_done hd hdone _ rfl
    exact ⟨_, _, _, otp, hdone, .reveal userId cardId otp, hconsumed⟩

lemma Issued.same_of_kind {s : AppState} (hs : Issued s) {t : ℕ} {x y : AppEvent}
    (hx : (t, x) ∈ s.trace) (hy : (t, y) ∈ s.trace) (hkind : x.SameKind y) : x = y := by
  have : Std.Symm fun x y : ℕ × AppEvent => x.1 = y.1 → ¬ x.2.SameKind y.2 := by
    refine ⟨?_⟩
    rintro ⟨u, x⟩ ⟨v, y⟩ hxy hsame hkind
    refine hxy hsame.symm ?_
    cases x <;> cases y <;> exact hkind
  by_contra hne
  exact hs.once.forall hx hy (fun heq => hne (congrArg Prod.snd heq)) rfl hkind

lemma Issued.place_unique {s : AppState} (hs : Issued s) {t : ℕ} {key otp : String} {at_ : Instant}
    {xs xs' ys ys' : List (ℕ × AppEvent)} (h : s.trace = xs ++ (t, .otpRead key otp at_) :: ys)
    (h' : s.trace = xs' ++ (t, .otpRead key otp at_) :: ys') : xs = xs' := by
  have honce := List.pairwise_append.mp (h ▸ hs.once)
  refine ((List.append_cons_inj_of_notMem ?_ ?_).mp (h.symm.trans h')).1
  · exact fun hm => honce.2.2 _ hm _ List.mem_cons_self rfl trivial
  · exact fun hm => (List.pairwise_cons.mp honce.2.1).1 _ hm rfl trivial

lemma Consumed.deleted_after {s : AppState} (hs : Issued s) {t : ℕ} {key otp otp' : String}
    {at_ : Instant} {pre post : List (ℕ × AppEvent)}
    (hlog : s.trace = pre ++ (t, .otpRead key otp at_) :: post) (h : Consumed t key otp' s) :
    (t, .otpDeleted key) ∈ post := by
  obtain ⟨at', hsub⟩ := h
  have hread : (t, AppEvent.otpRead key otp' at') ∉ pre := by
    intro hm
    have honce := hlog ▸ hs.once
    exact (List.pairwise_append.mp honce).2.2 _ hm _ List.mem_cons_self rfl trivial
  rw [hlog] at hsub
  obtain ⟨l₁, l₂, hl, h₁, h₂⟩ := List.sublist_append_iff.mp hsub
  cases l₁ with
  | nil =>
    obtain rfl : _ = l₂ := hl
    rcases h₂ with _ | h₂ | h₂
    · rename_i h₂
      exact h₂.subset (by simp)
    · rename_i h₂
      exact h₂.subset (by simp)
  | cons x l₁ =>
    obtain ⟨rfl, _⟩ := List.cons.inj hl
    exact absurd (h₁.subset List.mem_cons_self) hread

lemma read_logged (h : (App.start w).run host schedule = some b) {t : ℕ} {key otp : String}
    {at_ : Instant} (hread : (t, .otpRead key otp at_) ∈ b.trace) :
    ∃ ms i ns, ∃ d d' : App, ∃ call p,
      schedule = ms ++ .act t i :: ns ∧ (App.start w).run host ms = some d ∧
        d.threads t = some (call, p) ∧
        d.step host (.act t i) = some d' ∧ d'.run host ns = some b ∧
          d'.trace = d.trace ++ [(t, .otpRead key otp at_)] := by
  have hinit := (appDiscipline host).init_holds w
  obtain ⟨ms, i, ns, d, d', rfl, hms, hstep, hns, hbefore, hnow⟩ :=
    Discipline.logged_at h hread (by simp [Config.init])
  have hd := (appDiscipline host).holds_of_run hinit hms
  rcases (appDiscipline host).step_cases hd hstep with
    ⟨_, _, hl, _⟩ | ⟨v, j, call, p, p', hl, hcall, heffect, _, _⟩ | ⟨_, hl, _⟩
  · cases hl
  · obtain ⟨rfl, rfl⟩ : t = v ∧ i = j := by simpa using hl
    refine ⟨ms, i, ns, d, d', call, p, rfl, hms, hcall, hstep, hns, ?_⟩
    cases AppEffect.otps heffect with
    | same es none otps apart first trace =>
      rw [trace] at hnow
      rcases List.mem_append.mp hnow with hold | hnew
      · exact absurd hold hbefore
      · obtain ⟨e, he, heq⟩ := List.mem_map.mp hnew
        obtain ⟨_, rfl⟩ := Prod.mk.injEq .. ▸ heq
        exact absurd trivial (none _ he)
    | stored key' otp' ttl issues otps trace => simp [trace, hbefore] at hnow
    | deleted key' otps trace => simp [trace, hbefore] at hnow
    | read key' presented otp' presents first found otps trace =>
      obtain ⟨rfl, rfl, rfl⟩ : key = key' ∧ otp = otp' ∧ at_ = d.shared.world.now := by
        simpa [trace, hbefore] using hnow
      exact trace
  · cases hl

lemma not_both {t t' u : ℕ} {key otp : String} {pre mid mid' post : List (ℕ × AppEvent)}
    {expiresAt at_ at' : Instant} (hw : w.otps = []) (h : (App.start w).run host schedule = some b)
    (hm : Config.Meets (handleApp host) appEnvironment (ReadsAlone host) (App.start w) schedule)
    (hlog : b.trace = pre ++ (u, .otpStored key otp expiresAt) ::
      (mid ++ (t', .otpRead key otp at') :: (mid' ++ (t, .otpRead key otp at_) :: post)))
    (huntouched : Untouched key mid') (hne : t' ≠ t) (ht : b.Succeeded t) : ¬ b.Succeeded t' := by
  intro ht'
  change b.shared.trace = _ at hlog
  have hissued := run_issued hw h
  have hread : (t, AppEvent.otpRead key otp at_) ∈ b.shared.trace := by simp [hlog]
  have hread' : (t', AppEvent.otpRead key otp at') ∈ b.shared.trace := by simp [hlog]
  obtain ⟨ms, i, ns, d, d', call, p, rfl, hms, hcall, hstep, hns, htrace⟩ := read_logged h hread
  have hd := (appDiscipline host).holds_of_run ((appDiscipline host).init_holds w) hms
  have hd' := (appDiscipline host).step_holds hd hstep
  obtain ⟨rest, hrest⟩ := ((app_grows host).run hd' hns).trace
  have hall : b.shared.trace = d.shared.trace ++ (t, .otpRead key otp at_) :: rest := by
    refine hrest.symm.trans ?_
    rw [show d'.shared.trace = _ from htrace]
    simp
  have hbefore : d.shared.trace = pre ++ (u, .otpStored key otp expiresAt) ::
      (mid ++ (t', .otpRead key otp at') :: mid') := by
    have hplace : b.shared.trace = (pre ++ (u, .otpStored key otp expiresAt) ::
        (mid ++ (t', .otpRead key otp at') :: mid')) ++ (t, .otpRead key otp at_) :: post := by
          simp [hlog]
    exact hissued.place_unique hall hplace
  have hlater : d.run host (.act t i :: ns) = some b := by
    simp [App.run, Config.run, show Config.step _ _ d _ = _ from hstep,
      show Config.run _ _ d' ns = _ from hns]
  obtain ⟨call', p', hcall', -⟩ :=
    app_accounted hms (show (t', AppEvent.otpRead key otp at') ∈ d.shared.trace by simp [hbefore])
  have hpresents : ∀ {v call p}, d.threads v = some (call, p) →
      (v, AppEvent.otpRead key otp at_) ∈ b.shared.trace ∨
      (v, AppEvent.otpRead key otp at') ∈ b.shared.trace → b.Succeeded v →
        Presents call key otp ∧ Consumed v key otp b.shared := by
    intro v call p hv hreads hs
    obtain ⟨call₁, p₁, key₁, otp₁, hv₁, hpresents, hconsumed⟩ := succeeded_consumed h hs
    obtain ⟨q, hq⟩ := (appDiscipline host).call_persists_run hd hlater hv
    obtain ⟨rfl, _⟩ : call₁ = call ∧ p₁ = q := by simpa [hv₁] using hq
    obtain ⟨at₁, hsub⟩ := id hconsumed
    have hread₁ := hsub.subset List.mem_cons_self
    have hsame : key₁ = key ∧ otp₁ = otp := by
      rcases hreads with hr | hr
      · obtain ⟨rfl, rfl, _⟩ := by simpa using hissued.same_of_kind hread₁ hr trivial
        exact ⟨rfl, rfl⟩
      · obtain ⟨rfl, rfl, _⟩ := by simpa using hissued.same_of_kind hread₁ hr trivial
        exact ⟨rfl, rfl⟩
    obtain ⟨rfl, rfl⟩ := hsame
    exact ⟨hpresents, hconsumed⟩
  obtain ⟨hp, -⟩ := hpresents hcall (.inl hread) ht
  obtain ⟨hp', hconsumed⟩ := hpresents hcall' (.inr hread') ht'
  have halone := (Discipline.Meets.append hm hms).2.1
  refine halone t i call p d' key otp at_ rfl hcall hstep hp htrace t' hne ?_
  refine ⟨call', p', pre ++ (u, .otpStored key otp expiresAt) :: mid, at', mid', hcall', ?_,
    hp', ?_, huntouched⟩
  · -- the earlier reader has its deletion still before it
    rintro r rfl
    have hplace : b.shared.trace = (pre ++ (u, .otpStored key otp expiresAt) :: mid) ++
        (t', .otpRead key otp at') :: (mid' ++ (t, .otpRead key otp at_) :: post) := by
      rw [hlog]
      simp
    have hdeleted := hconsumed.deleted_after hissued hplace
    have hpost : (t', AppEvent.otpDeleted key) ∈ (t, .otpRead key otp at_) :: post := by
      rcases List.mem_append.mp hdeleted with hm | hm
      · exact absurd hm (huntouched t' "" 0).2
      · exact hm
    have hown := ((appDiscipline host).rely_of_done hd hlater hcall').2.own
    have hsplit : b.shared.trace = d.shared.trace ++ (t, .otpRead key otp at_) :: post := by
      rw [hlog, hbefore]
      simp
    rw [ownAppTrace, ownAppTrace, hsplit, List.filter_append] at hown
    have hnil := List.append_cancel_left (hown.trans (List.append_nil _).symm)
    exact List.filter_eq_nil_iff.mp hnil _ hpost (by simp)
  · rw [App.trace, hbefore]
    simp

lemma issuedTo_of_key {u ttl : ℕ} {s : AppState} {call call' : AppCall} {key key' otp : String}
    (hissues : Issues u s call' key' ttl) (hpresents : Presents call key otp) (hkey : key' = key) :
    IssuedTo u s call' call := by
  cases hissues with
  | login dto user email accepted =>
    cases hpresents with
    | mfa token otp info =>
      exact .mfa dto user token otp info accepted email (mfaKey_injective hkey)
    | reveal userId cardId otp => exact absurd hkey mfaKey_ne_revealKey
  | reveal userId cardId =>
    cases hpresents with
    | mfa token otp info => exact absurd hkey.symm mfaKey_ne_revealKey
    | reveal userId' cardId' otp =>
      obtain ⟨rfl, rfl⟩ := revealKey_injective hkey
      exact .reveal userId cardId otp

/-- A success consumes a password issued before to the same user and for the same card, and in a run
in which every reader reads alone no password authorises two. -/
theorem one_success_per_otp (hw : w.otps = [])
    (hm : Config.Meets (handleApp host) appEnvironment (ReadsAlone host) (App.start w) schedule)
    (h : (App.start w).run host schedule = some b) :
    (∀ t, b.Succeeded t → ∃ n u call call' p p' key otp, b.threads t = some (call, p) ∧
      b.threads u = some (call', p') ∧ Presents call key otp ∧ Obtains b.trace n u t key otp ∧
        IssuedTo u b.shared call' call ∧ Consumed t key otp b.shared) ∧
    (∀ n u u' t t' key key' otp otp', Obtains b.trace n u t key otp →
      Obtains b.trace n u' t' key' otp' → b.Succeeded t → b.Succeeded t' → t = t') ∧
    (∀ t session session', (t, .sessionCreated session) ∈ b.trace →
      (t, .sessionCreated session') ∈ b.trace → session = session') ∧
    (∀ t token token', (t, .tokenSigned token) ∈ b.trace → (t, .tokenSigned token') ∈ b.trace →
      token = token') := by
  have hissued := run_issued hw h
  refine ⟨fun t ht => ?_, fun n u u' t t' key key' otp otp' hob hob' ht ht' => ?_,
    fun t x y hx hy => ?_,
    fun t x y hx hy => ?_⟩
  · obtain ⟨call, p, key, otp, hcall, hpresents, hconsumed⟩ := succeeded_consumed h ht
    obtain ⟨at_, hsub⟩ := id hconsumed
    obtain ⟨n, u, hob⟩ := hissued.reads t key otp at_ (hsub.subset List.mem_cons_self)
    have hstored : ∃ expiresAt, (u, AppEvent.otpStored key otp expiresAt) ∈ b.trace := by
      obtain ⟨pre, mid, post, expiresAt, _, _, _, _, hlog⟩ := hob
      exact ⟨expiresAt, by rw [App.trace, hlog]; simp⟩
    obtain ⟨expiresAt, hstored⟩ := hstored
    obtain ⟨call', p', hcall', ttl, hissues⟩ := app_accounted h hstored
    exact ⟨n, u, call, call', p, p', key, otp, hcall, hcall', hpresents, hob,
      issuedTo_of_key hissues hpresents rfl,
      hconsumed⟩
  · obtain ⟨pre, mid, post, expiresAt, at_, hn, _, hmid, hlog⟩ := hob
    obtain ⟨pre', mid', post', expiresAt', at', hn', _, hmid', hlog'⟩ := hob'
    obtain ⟨rfl, hrest⟩ := List.append_inj (hlog.symm.trans hlog') (hn.trans hn'.symm)
    obtain ⟨hwrite, htail⟩ := List.cons.inj hrest
    obtain ⟨rfl, rfl, rfl, rfl⟩ : u = u' ∧ key = key' ∧ otp = otp' ∧ expiresAt = expiresAt' := by
      simpa using hwrite
    by_contra hne
    rcases append_eq_append_cons htail with ⟨zs, rfl, _⟩ | ⟨zs, hzs, rfl⟩
    · -- `t'` read first
      have hzs : Untouched key zs :=
        fun v o e => ⟨fun hv => (hmid v o e).1 (by simp [hv]), fun hv =>
          (hmid v o e).2 (by simp [hv])⟩
      exact not_both hw h hm (by simpa using hlog) hzs (Ne.symm hne) ht ht'
    · cases zs with
      | nil =>
        have hsame : t = t' ∧ at_ = at' := by simpa using (List.cons.inj hzs).1
        exact hne hsame.1
      | cons z zs =>
        obtain ⟨rfl, hzs⟩ := List.cons.inj hzs
        have hzs' : Untouched key zs :=
          fun v o e => ⟨fun hv => (hmid' v o e).1 (by simp [hv]), fun hv =>
            (hmid' v o e).2 (by simp [hv])⟩
        exact not_both hw h hm (by simpa using hlog') hzs' hne ht' ht
  · simpa using hissued.same_of_kind hx hy trivial
  · simpa using hissued.same_of_kind hx hy trivial

end Runs

def demoLogin : AppCall := .login { email := "demo@bank.local", password := "Demo1234!" }

def demoPreMfaToken : Token where
  payload := { sub := demoIds .user, email := "demo@bank.local", mfaVerified := false }
  iat := 0
  exp := 600

def demoVerifyMfa : AppCall := .verifyMfa demoPreMfaToken "123456" {}

def demoLoginSchedule : List AppAction := demoSolo 0 5 demoLogin ++ demoSolo 1 7 demoVerifyMfa

def demoRaceSchedule : List AppAction :=
  demoSolo 0 5 demoLogin ++ [.spawn 1 demoVerifyMfa, .spawn 2 demoVerifyMfa] ++
    ([1, 1, 2, 2, 1, 1, 1, 1, 1, 2, 2, 2, 2, 2].zipIdx 5).map fun (t, n) => .act t (demoAppInputs n)

def AppEvent.isSession : AppEvent → Bool
  | .sessionCreated _ => true
  | _ => false

lemma succeeded_of_find {b : App} {t : ℕ}
    (h : (b.trace.any fun e => e.1 = t && e.2.isSession) = true) :
    b.Succeeded t := by
  obtain ⟨⟨u, e⟩, hm, he⟩ := List.any_eq_true.mp h
  simp only [Bool.and_eq_true, decide_eq_true_eq] at he
  obtain ⟨rfl, he⟩ := he
  cases e with
  | sessionCreated session => exact .inl ⟨session, hm⟩
  | _ => cases he

/-- One password is written and two sessions are created. -/
theorem one_otp_two_sessions : demoAppWorld.otps = [] ∧ ∃ b,
    (App.start demoAppWorld).run demoHost demoRaceSchedule = some b ∧
    (b.trace.countP fun e => match e.2 with | .otpStored _ _ _ => true | _ => false) = 1 ∧
    b.Succeeded 1 ∧ b.Succeeded 2 := by
  have hrun : ((App.start demoAppWorld).run demoHost demoRaceSchedule).map (fun b =>
      ((b.trace.countP fun e => match e.2 with | .otpStored _ _ _ => true | _ => false),
        b.trace.any fun e => e.1 = 1 && e.2.isSession, b.trace.any fun e =>
          e.1 = 2 && e.2.isSession)) =
      some (1, true, true) := by decide +kernel
  obtain ⟨b, hb, hend⟩ := Option.map_eq_some_iff.mp hrun
  obtain ⟨hcount, hend⟩ := Prod.mk.injEq .. ▸ hend
  obtain ⟨hone, htwo⟩ := Prod.mk.injEq .. ▸ hend
  exact ⟨rfl, b, hb, hcount, succeeded_of_find hone, succeeded_of_find htwo⟩

lemma demoLoginSchedule_readsAlone :
    Config.Meets (handleApp demoHost) appEnvironment (ReadsAlone demoHost)
    (App.start demoAppWorld) demoLoginSchedule := by
  refine Discipline.meets_of_runs
    fun ms l b hprefix hrun t i call p b' key otp at_ hl ht _ hpresents _ u hu hholding => ?_
  obtain ⟨call', p', _, _, _, hu', _, hpresents', _⟩ := hholding
  have hspawn : ∀ {v call p}, b.threads v = some (call, p) → Presents call key otp → v = 1 := by
    intro v call p hv hp
    have hm := hprefix.subset (List.mem_append_left _
      ((appDiscipline demoHost).spawn_of_call hrun hv))
    have hcase : v = 0 ∧ call = demoLogin ∨ v = 1 ∧ call = demoVerifyMfa := by
      simpa [demoLoginSchedule, demoSolo, Label.solo] using hm
    rcases hcase with ⟨_, rfl⟩ | ⟨rfl, _⟩
    · cases hp
    · rfl
  exact hu ((hspawn hu' hpresents').trans (hspawn ht hpresents).symm)

theorem demo_one_success : ∃ b, (App.start demoAppWorld).run demoHost demoLoginSchedule = some b ∧
    b.Succeeded 1 ∧ ∃ n key otp, Obtains b.trace n 0 1 key otp ∧ Consumed 1 key otp b.shared := by
  have hrun : ((App.start demoAppWorld).run demoHost demoLoginSchedule).map (fun b =>
      b.trace.any fun e => e.1 = 1 && e.2.isSession) = some true := by decide +kernel
  obtain ⟨b, hb, hend⟩ := Option.map_eq_some_iff.mp hrun
  have hsucceeded := succeeded_of_find hend
  obtain ⟨n, u, call, call', p, p', key, otp, _, hu, _, hobtains, hissued, hconsumed⟩ :=
    (one_success_per_otp rfl demoLoginSchedule_readsAlone hb).1 1 hsucceeded
  have hm := (appDiscipline demoHost).spawn_of_call hb hu
  have hcase : u = 0 ∧ call' = demoLogin ∨ u = 1 ∧ call' = demoVerifyMfa := by
    simpa [demoLoginSchedule, demoSolo, Label.solo] using hm
  rcases hcase with ⟨rfl, _⟩ | ⟨_, rfl⟩
  · exact ⟨b, hb, hsucceeded, n, key, otp, hobtains, hconsumed⟩
  · cases hissued

end OnlineBanking
