import Telima.Auth.Codes

/-!
# Requests and logins as threads

`requestOtp` and `verifyOtp` as threads of a protocol.  `wp_requestOtp` and `wp_verifyOtp` are the rules
for the two: what holds before each of their commands, and what each of them leaves.  Every other call
keeps a protocol that admits its commands (`keeps_program`).
-/

namespace Telima.Auth

open AuthService

/-! ### `requestOtp` as a thread -/

/-- The commands between the check of the cooldown and the new row. -/
def Cmd.prepares : Cmd → Bool
  | .random | .bcryptHash _ | .date | .findUserByPhone _ => true
  | _ => false

/-- The message to the phone, and its id. -/
def Cmd.sends (phone : String) : Cmd → Bool
  | .sendSms receiver => decide (receiver = phone)
  | .otpSent .. => true
  | _ => false

section Threads

variable {P : Protocol system} {i : ℕ} {env : AuthEnv} {phone rawPhone : String} {app : JulakaiApp}
  {w : World Store Cmd}

theorem stable_lastOtpId (P : Protocol system) (i id : ℕ) :
    P.Stable i fun w => id ≤ w.store.lastOtpId := by
  rintro w _ ⟨j, c, n, -, -, -, -, -, -, -, rfl⟩ h
  rw [World.store_step]
  exact h.trans (c.lastOtpId_le_exec w.store)

/-- The cooldown is not over, or it is. -/
theorem checkCooldown_cases (env : AuthEnv) (last : Option OtpCode) (now : ℕ) :
    (∃ e, checkCooldown env last now = Async.throw e) ∨ checkCooldown env last now = pure () ∧
      ∀ otp ∈ last, otp.createdAt + env.config.otpResendCooldownSeconds * 1000 ≤ now := by
  cases last with
  | none => exact Or.inr ⟨rfl, fun otp hotp => by cases hotp⟩
  | some last =>
    by_cases hnow : now < last.createdAt + env.config.otpResendCooldownSeconds * 1000
    · exact Or.inl ⟨_, if_pos hnow⟩
    · refine Or.inr ⟨if_neg hnow, fun otp hotp => ?_⟩
      obtain rfl := Option.some.inj hotp
      exact Nat.le_of_not_lt hnow

theorem sends_sendCode (code : String) (otpId : ℕ) :
    (sendCode env phone code otpId).Only fun c => c.sends phone = true := by
  refine Async.Only.bind (Async.only_queryE.mpr (decide_eq_true rfl)) fun messageId => ?_
  split
  · split_ifs
    · trivial
    · exact Async.only_queryE.mpr rfl
  · trivial

/-- The rule for `requestOtp`. -/
theorem wp_requestOtp (Start : World Store Cmd → Prop)
    (Looked : Option OtpCode → World Store Cmd → Prop) (Passed : World Store Cmd → Prop)
    (Ready : ℕ → World Store Cmd → Prop) (hstart : P.Stable i Start)
    (hlooked : ∀ last, P.Stable i (Looked last)) (hpassed : P.Stable i Passed)
    (hready : ∀ id, P.Stable i (Ready id))
    (julakai : ∀ w path, Start w → P.inv w → P.Performs i (.julakai path) w Start)
    (find : ∀ w, Start w → P.inv w → P.Performs i (.findLastOtp (normalizePhone rawPhone)) w
      (Looked (lastOtp (w.store.otpCodes.findMany fun otp =>
        decide (otp.phone = normalizePhone rawPhone)))))
    (check : ∀ last w, Looked last w → P.inv w → P.Performs i .date w fun w' =>
      (∀ otp ∈ last, otp.createdAt + env.config.otpResendCooldownSeconds * 1000 ≤ w.store.now) →
        Passed w')
    (prepare : ∀ c w, c.prepares = true → Passed w → P.inv w → P.Performs i c w Passed)
    (create : ∀ codeHash expiresAt userId w, Passed w → P.inv w →
      P.Performs i (.createOtp (normalizePhone rawPhone) codeHash expiresAt userId) w
        (Ready w.store.newOtpId))
    (send : ∀ c id w, c.sends (normalizePhone rawPhone) = true → Ready id w → P.inv w →
      P.Performs i c w (Ready id))
    (delete : ∀ id w, Ready id w → P.inv w → P.Performs i (.deleteOtp id) w fun _ => True)
    (hw : Start w) : P.wp i (requestOtp env rawPhone app) (fun _ _ => True) w := by
  unfold requestOtp
  dsimp only
  by_cases hjulakai : useJulakai env app = true
  · rw [if_pos hjulakai]
    have hframe : P.Frame i (fun c => ∃ path, c = .julakai path) Start :=
      ⟨hstart, fun ⟨path, hc⟩ hw hinv => hc ▸ julakai _ path hw hinv⟩
    refine Protocol.wp_mono (fun _ _ _ => trivial) (hframe.wp ?_ hw)
    refine Async.Only.bind ?_ fun _ => trivial
    refine Async.Only.bind (only_julakaiCall _ _ ⟨_, rfl⟩) fun res => ?_
    split_ifs <;> trivial
  · rw [if_neg hjulakai]
    have hpassed' : P.Frame i (fun c => c.prepares = true) Passed :=
      ⟨hpassed, fun hc hw hinv => prepare _ _ hc hw hinv⟩
    refine Protocol.wp_query_bind hstart hw (fun w hw hinv hcond => ?_) fun _ _ _ _ _ => trivial
    obtain ⟨hguar, hfound⟩ := find w hw hinv hcond
    refine ⟨hguar, fun n hn hfresh => ?_⟩
    refine Protocol.wp_read_bind (hlooked _) (hfound n hn hfresh) fun w hw hinv hcond => ?_
    obtain ⟨hguar, hchecked⟩ := check _ w hw hinv hcond
    refine ⟨hguar, fun n hn hfresh => ?_⟩
    have hpass := hchecked n hn hfresh
    rcases checkCooldown_cases env (lastOtp _) w.store.now with ⟨e, he⟩ | ⟨hpure, hover⟩
    · rw [he]
      trivial
    · rw [hpure]
      -- the commands between the check and the insert all keep `Passed`
      have hprepare : ∀ {α : Type} {p : Prog α} {f : α → Prog OtpResponse} {w : World Store Cmd},
          p.Only (fun c => c.prepares = true) → Passed w →
            (∀ a w, Passed w → P.wp i (f a) (fun _ _ => True) w) →
              P.wp i (p.bind f) (fun _ _ => True) w :=
        fun hp hw hf => hpassed'.wp_bind hp hw hf fun _ _ _ => trivial
      show P.wp i ((generateOtpCode env env.config.otpLength).bind _) _ _
      refine hprepare (Async.only_read.mpr rfl) (hpass hover) fun code w hw => ?_
      refine hprepare (Async.only_query.mpr rfl) hw fun codeHash w hw => ?_
      refine hprepare (Async.only_read.mpr rfl) hw fun created w hw => ?_
      refine hprepare (Async.only_query.mpr rfl) hw fun user w hw => ?_
      refine Protocol.wp_query_bind hpassed hw (fun w hw hinv hcond => ?_) fun _ _ _ _ _ => trivial
      obtain ⟨hguar, hcreated⟩ := create codeHash _ (user.map User.id) w hw hinv hcond
      refine ⟨hguar, fun n hn hfresh => ?_⟩
      -- from here on the thread holds the row it has created
      have hown : P.Frame i (fun c => c.sends (normalizePhone rawPhone) = true)
          (Ready w.store.newOtpId) :=
        ⟨hready _, fun hc hw hinv => send _ _ _ hc hw hinv⟩
      apply Protocol.wp_bind
      apply Protocol.wp_tryCatch
      refine Protocol.wp_mono ?_ (hown.wp (sends_sendCode code _) (hcreated n hn hfresh))
      rintro (e | ok) w' hw'
      · -- the row is deleted
        have hdeletes : P.wp i ((updateOtp (.deleteOtp w.store.newOtpId) w.store.newOtpId).bind fun _ =>
            (Async.throw (.serviceUnavailable
              "Service SMS temporairement indisponible, veuillez reessayer") : Prog Unit))
            (fun r w => P.wp i ((Async.done r).bind fun _ => pure
              ({ phone := normalizePhone rawPhone
                 expiresInSeconds := env.config.otpExpiresMinutes * 60
                 devOtpCode := if env.config.otpExposeInResponse ∧ env.config.isProd = false then
                   some code else none } : OtpResponse)) (fun _ _ => True) w) w' := by
          refine Protocol.wp_queryE_bind (hready _) hw' (fun w' hw' hinv hcond => ?_)
            fun _ _ _ _ _ => trivial
          refine ⟨(delete _ w' hw' hinv hcond).1, fun _ _ _ => ?_⟩
          split_ifs <;> trivial
        cases e with
        | serviceUnavailable => trivial
        | badRequest | unauthorized | forbidden | recordNotFound | uniqueConstraint | other =>
          exact hdeletes
      · trivial

/-- A request keeps a protocol that admits its commands, and the deletion of the row it has created. -/
theorem keeps_requestOtp (hguar : ∀ w c, c.requests = true → P.guar i w c)
    (hdelete : ∀ w id, id ≤ w.store.lastOtpId → P.guar i w (.deleteOtp id)) :
    P.Keeps i (requestOtp env rawPhone app) := by
  intro w
  have hstep : ∀ {c : Cmd} {w : World Store Cmd}, c.requests = true →
      P.Performs i c w fun _ => True := fun hc _ => ⟨hguar _ _ hc, fun _ _ _ => trivial⟩
  refine wp_requestOtp (fun _ => True) (fun _ _ => True) (fun _ => True)
    (fun id w => id ≤ w.store.lastOtpId) (Protocol.stable_const i True)
    (fun _ => Protocol.stable_const i True) (Protocol.stable_const i True)
    (fun id => stable_lastOtpId P i id) (fun _ _ _ _ => hstep rfl) (fun _ _ _ => hstep rfl)
    (fun _ _ _ _ _ => ⟨hguar _ _ rfl, fun _ _ _ _ => trivial⟩) ?_ ?_ ?_
    (fun id w hid _ _ => ⟨hdelete w id hid, fun _ _ _ => trivial⟩) trivial
  · intro c w hc _ _
    refine hstep ?_
    cases c <;> first | rfl | cases hc
  · intro codeHash expiresAt userId w _ _ _
    refine ⟨hguar _ _ rfl, fun n _ _ => ?_⟩
    show _ ≤ (World.step system w i _ n).store.lastOtpId
    rw [World.store_step]
    exact le_rfl
  · intro c id w hc hid _ _
    refine ⟨hguar w c (by cases c <;> first | rfl | cases hc), fun n _ _ => ?_⟩
    show _ ≤ (World.step system w i c n).store.lastOtpId
    rw [World.store_step]
    exact hid.trans (c.lastOtpId_le_exec w.store)

/-- Every call but `verifyOtp`. -/
theorem keeps_program (haccount : ∀ w c, c.isAccount = true → P.guar i w c)
    (hrequests : ∀ w c, c.requests = true → P.guar i w c)
    (hdelete : ∀ w id, id ≤ w.store.lastOtpId → P.guar i w (.deleteOtp id)) {call : Call}
    (hverify : ∀ rawPhone code app, call ≠ .verifyOtp rawPhone code app) :
    P.Keeps i (call.program env) := by
  by_cases hrequest : ∃ rawPhone app, call = .requestOtp rawPhone app
  · obtain ⟨rawPhone, app, rfl⟩ := hrequest
    exact (keeps_requestOtp hrequests hdelete).as
  · have hframe : P.Frame i (fun c => c.isAccount = true) fun _ => True :=
      ⟨Protocol.stable_const i True, fun hc _ _ _ => ⟨haccount _ _ hc, fun _ _ _ => trivial⟩⟩
    exact hframe.keeps
      (account_program env (fun rawPhone app hcall => hrequest ⟨rawPhone, app, hcall⟩) hverify)

/-! ### `verifyOtp` as a thread -/

section Verify

variable {code : String} {α : Type} {Q : Except Error Login → World Store Cmd → Prop}

/-- An error ends a call. -/
theorem wp_query_then {A : World Store Cmd → Prop} {c : Cmd} {f : Store → α} {g : α → Prog Login}
    (hthrow : ∀ e w, Q (.error e) w) (hA : P.Stable i A) (hw : A w)
    (h : ∀ w, A w → P.inv w → P.Performs i c w fun w' => P.wp i (g (f w.store)) Q w') :
    P.wp i ((Async.query c f).bind g) Q w :=
  Protocol.wp_query_bind hA hw h fun e w _ _ _ => hthrow e w

/-- The rule for `verifyOtp`: what holds before each of its commands, and what each of them leaves.  A
call has nothing left to do when it throws. -/
theorem wp_verifyOtp (Start : World Store Cmd → Prop)
    (Read Open Judged : OtpCode → World Store Cmd → Prop) (Wrong : OtpCode → ℕ → World Store Cmd → Prop)
    (Right : OtpCode → World Store Cmd → Prop) (hlegacy : useJulakai env app = false) (hthrow : ∀ e w, Q (.error e) w)
    (hstart : P.Stable i Start) (hread : ∀ otp, P.Stable i (Read otp))
    (hopen : ∀ otp, P.Stable i (Open otp)) (hjudged : ∀ otp, P.Stable i (Judged otp))
    (hwrong : ∀ otp time, P.Stable i (Wrong otp time)) (hright : ∀ otp, P.Stable i (Right otp))
    (find : ∀ w, Start w → P.inv w → P.Performs i (.findPendingOtp (normalizePhone rawPhone)) w
      fun w' => ∀ otp, w.store.pendingOtp? (normalizePhone rawPhone) = some otp → Read otp w')
    (check : ∀ otp w, Read otp w → P.inv w → P.Performs i .date w fun w' =>
      (otp.lockedUntil.any fun lockedUntil => decide (w.store.now < lockedUntil)) = false → Open otp w')
    (compare : ∀ otp w, Open otp w → P.inv w →
      P.Performs i (.compareCode code otp.codeHash) w (Judged otp))
    (lock : ∀ otp w, env.bcryptCompare code otp.codeHash = false → Judged otp w → P.inv w →
      P.Performs i .date w (Wrong otp w.store.now))
    (attempt : ∀ otp time w, Wrong otp time w → P.inv w →
      P.Performs i (.attemptOtp otp.id (otp.attempts + 1)
        (if env.config.otpMaxAttempts ≤ otp.attempts + 1 then
          some (time + env.config.otpLockMinutes * 60 * 1000) else otp.lockedUntil)) w fun _ => True)
    (accept : ∀ otp w, env.bcryptCompare code otp.codeHash = true → Judged otp w → P.inv w →
      P.Performs i .date w (Right otp))
    (consume : ∀ otp w, Right otp w → P.inv w → P.Performs i (.consumeOtp otp.id) w fun w' =>
      P.wp i (completeLogin env (normalizePhone rawPhone)) Q w')
    (hw : Start w) : P.wp i (verifyOtp env rawPhone code app) Q w := by
  unfold verifyOtp
  dsimp only
  rw [if_neg (by simp [hlegacy])]
  refine wp_query_then hthrow hstart hw fun w hw hinv hcond => ?_
  obtain ⟨hguar, hfound⟩ := find w hw hinv hcond
  refine ⟨hguar, fun n hn hfresh => ?_⟩
  have hotp := hfound n hn hfresh
  split
  case h_1 => exact hthrow _ _
  case h_2 otp hpending =>
    refine Protocol.wp_read_bind (hread otp) (hotp otp hpending) fun w hw hinv hcond => ?_
    obtain ⟨hguar, hchecked⟩ := check otp w hw hinv hcond
    refine ⟨hguar, fun n hn hfresh => ?_⟩
    have hopened := hchecked n hn hfresh
    cases hlocked : otp.lockedUntil.any fun lockedUntil => decide (w.store.now < lockedUntil) with
    | true =>
      rw [if_pos rfl]
      exact hthrow _ _
    | false =>
      rw [if_neg Bool.false_ne_true]
      split_ifs
      · exact hthrow _ _
      · refine wp_query_then hthrow (hopen otp) (hopened hlocked) fun w hw hinv hcond => ?_
        obtain ⟨hguar, hcompared⟩ := compare otp w hw hinv hcond
        refine ⟨hguar, fun n hn hfresh => ?_⟩
        have hjudge := hcompared n hn hfresh
        cases hvalid : env.bcryptCompare code otp.codeHash with
        | false =>
          unfold answerCode
          rw [if_pos rfl]
          refine Protocol.wp_read_bind (hjudged otp) hjudge fun w hw hinv hcond => ?_
          obtain ⟨hguar, htimed⟩ := lock otp w hvalid hw hinv hcond
          refine ⟨hguar, fun n hn hfresh => ?_⟩
          refine Protocol.wp_queryE_bind (hwrong otp _) (htimed n hn hfresh)
            (fun w' hw' hinv' hcond' => ?_) fun e w _ _ _ => hthrow e w
          refine ⟨(attempt otp _ w' hw' hinv' hcond').1, fun n _ _ => ?_⟩
          split_ifs <;> exact hthrow _ _
        | true =>
          unfold answerCode
          rw [if_neg (by decide)]
          refine Protocol.wp_read_bind (hjudged otp) hjudge fun w hw hinv hcond => ?_
          obtain ⟨hguar, haccepted⟩ := accept otp w hvalid hw hinv hcond
          refine ⟨hguar, fun n hn hfresh => ?_⟩
          refine Protocol.wp_queryE_bind (hright otp) (haccepted n hn hfresh)
            (fun w hw hinv hcond => ?_) fun e w _ _ _ => hthrow e w
          obtain ⟨hguar, hconsumed⟩ := consume otp w hw hinv hcond
          refine ⟨hguar, fun n hn hfresh => ?_⟩
          split_ifs
          · exact hconsumed n hn hfresh
          · exact hthrow _ _

end Verify

end Threads

end Telima.Auth
