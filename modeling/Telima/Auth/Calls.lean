import Telima.Async.Sequential
import Telima.Auth.Codes

/-!
# Calls that run one after another

A call that runs alone, from its start to its end: what it returns, and what it leaves of the codes
(`requestCase`, `verifyCase`).
-/

namespace Telima.Auth

open AuthService

/-- The store, and the commands that were performed, newest first. -/
structure Trail where
  store : Store
  log : List Cmd := []

/-- The machine that calls run on, one after another. -/
def machine : Machine Store Cmd Trail where
  store := Trail.store
  perform c t := ⟨c.exec t.store, c :: t.log⟩

@[simp] theorem machine_store (t : Trail) : machine.store t = t.store := rfl

@[simp] theorem machine_perform (c : Cmd) (t : Trail) :
    machine.perform c t = ⟨c.exec t.store, c :: t.log⟩ := rfl

/-- What a call returns, and what it does. -/
def Call.play (env : AuthEnv) (call : Call) (s : Store) : Except Error (Option TokenPair) × Trail :=
  (call.program env).play machine ⟨s, []⟩

/-- A call runs to its end. -/
inductive Step (env : AuthEnv) (admits : Store → Call → Prop) : Store → Store → Prop
  | call {s : Store} {call : Call} (hadmits : admits s call) :
    Step env admits s (call.play env s).2.store

/-- Any number of calls. -/
def Run (env : AuthEnv) (admits : Store → Call → Prop) : Store → Store → Prop :=
  Relation.ReflTransGen (Step env admits)

/-- The store after some calls, one after another. -/
def playAll (env : AuthEnv) : Store → List Call → Store
  | s, [] => s
  | s, call :: calls => playAll env (call.play env s).2.store calls

/-- Some calls, each with the store it begins in. -/
def history (env : AuthEnv) : Store → List Call → List (Store × Call)
  | _, [] => []
  | s, call :: calls => (s, call) :: history env (call.play env s).2.store calls

/-- What each call of a history keeps, of what was done before and the store, the history keeps. -/
theorem playAll_induction {env : AuthEnv} {admits : Store → Call → Prop}
    {I : List (Store × Call) → Store → Prop}
    (hstep : ∀ past s call, I past s → admits s call →
      I (past ++ [(s, call)]) (call.play env s).2.store)
    {s : Store} {calls : List Call} (hadmits : ∀ e ∈ history env s calls, admits e.1 e.2)
    {past : List (Store × Call)} (hI : I past s) :
    I (past ++ history env s calls) (playAll env s calls) := by
  induction calls generalizing s past with
  | nil =>
    rw [history, List.append_nil]
    exact hI
  | cons call calls ih =>
    obtain ⟨hcall, hcalls⟩ := List.forall_mem_cons.mp hadmits
    rw [history, playAll, List.append_cons]
    exact ih hcalls (hstep past s call hI hcall)

/-- What each command of a program keeps, the program keeps. -/
theorem wlp_store {α : Type} {H : Cmd → Prop} {I : Store → Prop} {p : Prog α} (hp : p.Only H)
    (hI : ∀ c s, H c → I s → I (c.exec s)) {t : Trail} (ht : I t.store) :
    p.wlp machine (fun _ _ => True) (fun _ t => I t.store) t :=
  hp.wlp (A := fun t : Trail => I t.store) (fun c t hc _ ht => hI c t.store hc ht) ht

/-! ### Requests -/

/-- The cooldown of the last code of the phone is not over. -/
def Store.coolsDown (env : AuthEnv) (s : Store) (phone : String) : Bool :=
  (lastOtp (s.otpCodes.findMany fun otp => decide (otp.phone = phone))).any fun last =>
    decide (s.now < last.createdAt + env.config.otpResendCooldownSeconds * 1000)

/-- The store in which a request sends its message. -/
def Store.sending (env : AuthEnv) (s : Store) (phone : String) : Store :=
  let code := newCode env s
  let hashing := Cmd.random.exec s
  let creating := (Cmd.bcryptHash code).exec hashing
  (Cmd.createOtp phone (env.bcryptHash code hashing)
    (s.now + env.config.otpExpiresMinutes * 60 * 1000)
    ((s.users.findFirst fun u => decide (u.phone = phone)).map User.id)).exec creating

/-- The record of a request. -/
def newOtp (env : AuthEnv) (s : Store) (phone : String) (smsMessageId : Option String) : OtpCode where
  id := s.newOtpId
  phone := phone
  codeHash := env.bcryptHash (newCode env s) (Cmd.random.exec s)
  userId := (s.users.findFirst fun u => decide (u.phone = phone)).map User.id
  expiresAt := s.now + env.config.otpExpiresMinutes * 60 * 1000
  smsMessageId := smsMessageId
  createdAt := s.now

/-- What a call of `requestOtp` does. -/
inductive RequestCase (env : AuthEnv) (s : Store) (phone : String) (r : Except Error OtpResponse)
    (t : Trail) : Prop
  | refused (hcool : s.coolsDown env phone = true) (hr : ∃ e, r = .error e)
      (hotps : t.store.otpCodes = s.otpCodes) (hlog : .sendSms phone ∉ t.log)
  | sent (smsMessageId : Option String) (hcool : s.coolsDown env phone = false)
      (hsent : ∃ messageId, env.sendOtp phone (newCode env s) (s.sending env phone) = .ok messageId)
      (hr : ∃ response, r = .ok response)
      (hotps : t.store.otpCodes = s.otpCodes.insert (newOtp env s phone smsMessageId))
      (hlast : t.store.lastOtpId = s.newOtpId) (hlog : .sendSms phone ∈ t.log)
  | rolledBack (e : Error) (hcool : s.coolsDown env phone = false)
      (hthrown : env.sendOtp phone (newCode env s) (s.sending env phone) = .error e)
      (he : ∀ message, e ≠ .serviceUnavailable message)
      (hr : ∃ message, r = .error (.serviceUnavailable message))
      (hotps : t.store.otpCodes = s.otpCodes) (hlog : .sendSms phone ∈ t.log)
  | unavailable (message : String) (hcool : s.coolsDown env phone = false)
      (hthrown : env.sendOtp phone (newCode env s) (s.sending env phone) =
        .error (.serviceUnavailable message))
      (hr : r = .error (.serviceUnavailable message))
      (hotps : t.store.otpCodes = s.otpCodes.insert (newOtp env s phone none))
      (hlast : t.store.lastOtpId = s.newOtpId) (hlog : .sendSms phone ∈ t.log)

section Requests

variable {env : AuthEnv} {s : Store} {phone rawPhone : String} {app : JulakaiApp} {t : Trail}

theorem checkCooldown_throws (h : s.coolsDown env phone = true) :
    ∃ e, checkCooldown env (lastOtp (s.otpCodes.findMany fun otp => decide (otp.phone = phone)))
      s.now = Async.throw e := by
  unfold checkCooldown
  unfold Store.coolsDown at h
  cases hlast : lastOtp (s.otpCodes.findMany fun otp => decide (otp.phone = phone)) with
  | none =>
    rw [hlast] at h
    cases h
  | some last =>
    rw [hlast, Option.any_some] at h
    exact ⟨_, if_pos (of_decide_eq_true h)⟩

theorem checkCooldown_passes (h : s.coolsDown env phone = false) :
    checkCooldown env (lastOtp (s.otpCodes.findMany fun otp => decide (otp.phone = phone)))
      s.now = pure () := by
  unfold checkCooldown
  unfold Store.coolsDown at h
  cases hlast : lastOtp (s.otpCodes.findMany fun otp => decide (otp.phone = phone)) with
  | none => rfl
  | some last =>
    rw [hlast, Option.any_some] at h
    exact if_neg (of_decide_eq_false h)

theorem find?_newOtp (env : AuthEnv) (s : Store) (phone : String) (smsMessageId : Option String) :
    (s.otpCodes.insert (newOtp env s phone smsMessageId)).find? s.newOtpId =
      some (newOtp env s phone smsMessageId) :=
  Table.find?_insert_self (find?_newOtpId s)

/-- The message, whether it is sent or not. -/
theorem wlp_sendCode (ht : t.store = s.sending env phone)
    {Q : Except Error Unit → Trail → Prop}
    (hok : ∀ t messageId smsMessageId,
      env.sendOtp phone (newCode env s) (s.sending env phone) = .ok messageId →
      t.store.otpCodes = s.otpCodes.insert (newOtp env s phone smsMessageId) →
      t.store.lastOtpId = s.newOtpId → .sendSms phone ∈ t.log → Q (.ok ()) t)
    (hother : ∀ t e, env.sendOtp phone (newCode env s) (s.sending env phone) = .error e →
      (∀ message, e ≠ .serviceUnavailable message) → t.store.otpCodes = s.otpCodes →
      .sendSms phone ∈ t.log → ∀ message, Q (.error (.serviceUnavailable message)) t)
    (hunavailable : ∀ t message, env.sendOtp phone (newCode env s) (s.sending env phone) =
        .error (.serviceUnavailable message) →
      t.store.otpCodes = s.otpCodes.insert (newOtp env s phone none) →
      t.store.lastOtpId = s.newOtpId → .sendSms phone ∈ t.log →
        Q (.error (.serviceUnavailable message)) t) :
    (Async.tryCatch (sendCode env phone (newCode env s) s.newOtpId)
      (handleSmsError s.newOtpId)).wlp machine (fun _ _ => True) Q t := by
  obtain ⟨store, log⟩ := t
  obtain rfl := ht
  have hfound : (((Cmd.sendSms phone).exec (s.sending env phone)).otpCodes.find?
      s.newOtpId).isSome = true := by
    show ((s.otpCodes.insert (newOtp env s phone none)).find? s.newOtpId).isSome = true
    rw [find?_newOtp]
    rfl
  apply Async.wlp_tryCatch
  rw [sendCode, Async.bind_eq, Async.wlp_queryE_bind]
  intro _
  rw [machine_store, machine_perform]
  dsimp only
  cases hsend : env.sendOtp phone (newCode env s) (s.sending env phone) with
  | ok messageId =>
    rw [Async.done_ok_bind]
    cases messageId with
    | none => exact hok _ _ none hsend rfl rfl List.mem_cons_self
    | some messageId =>
      dsimp only
      split_ifs
      · exact hok _ _ none hsend rfl rfl List.mem_cons_self
      · rw [updateOtp, Async.wlp_queryE]
        intro _
        rw [machine_store, machine_perform, if_pos hfound]
        refine hok _ _ (some messageId) hsend ?_ rfl (by simp)
        exact Table.update_insert (r := newOtp env s phone none) (find?_newOtpId s)
          (OtpCode.id_sent messageId)
  | error e =>
    rw [Async.done_error_bind]
    have hdelete : (∀ message, e ≠ .serviceUnavailable message) →
        (Async.bind (updateOtp (.deleteOtp s.newOtpId) s.newOtpId) fun _ =>
          (Async.throw (.serviceUnavailable
            "Service SMS temporairement indisponible, veuillez reessayer") : Prog Unit)).wlp machine
            (fun _ _ => True) Q
              ⟨(Cmd.sendSms phone).exec (s.sending env phone), .sendSms phone :: log⟩ := by
      intro he
      rw [updateOtp, Async.wlp_queryE_bind]
      intro _
      rw [machine_store, machine_perform, if_pos hfound]
      refine hother _ e hsend he ?_ (by simp) _
      exact Table.delete_insert (r := newOtp env s phone none) (find?_newOtpId s)
    cases e with
    | serviceUnavailable message =>
      exact hunavailable _ message hsend rfl rfl List.mem_cons_self
    | badRequest | unauthorized | forbidden | recordNotFound | uniqueConstraint | other =>
      exact hdelete fun _ h => by cases h

theorem wlp_requestOtp (hlegacy : useJulakai env app = false) :
    (requestOtp env rawPhone app).wlp machine (fun _ _ => True)
      (RequestCase env s (normalizePhone rawPhone)) ⟨s, []⟩ := by
  unfold requestOtp
  dsimp only
  rw [if_neg (by simp [hlegacy]), Async.bind_eq, Async.wlp_query_bind]
  intro _
  rw [Async.bind_eq, newDate, Async.wlp_read_bind]
  intro _
  cases hcool : s.coolsDown env (normalizePhone rawPhone) with
  | true =>
    obtain ⟨e, he⟩ := checkCooldown_throws hcool
    show Async.wlp machine _ ((checkCooldown env (lastOtp (s.otpCodes.findMany fun otp =>
      decide (otp.phone = normalizePhone rawPhone))) s.now).bind _) _ _
    rw [he, Async.throw_bind]
    exact .refused hcool ⟨e, rfl⟩ rfl (by simp)
  | false =>
    show Async.wlp machine _ ((checkCooldown env (lastOtp (s.otpCodes.findMany fun otp =>
      decide (otp.phone = normalizePhone rawPhone))) s.now).bind _) _ _
    rw [checkCooldown_passes hcool, Async.pure_eq, Async.done_ok_bind]
    -- the code, its hash, the date, the user and the new record
    intro _ _ _ _ _
    show Async.wlp machine _ ((Async.tryCatch (sendCode env (normalizePhone rawPhone)
      (newCode env s) s.newOtpId) (handleSmsError s.newOtpId)).bind _) _
      ⟨s.sending env (normalizePhone rawPhone), _⟩
    apply Async.wlp_bind
    refine wlp_sendCode rfl ?_ ?_ ?_
    · exact fun t messageId smsMessageId hsent hotps hlast hlog =>
        .sent smsMessageId hcool ⟨messageId, hsent⟩ ⟨_, rfl⟩ hotps hlast hlog
    · exact fun t e hthrown he hotps hlog message =>
        .rolledBack e hcool hthrown he ⟨message, rfl⟩ hotps hlog
    · exact fun t message hthrown hotps hlast hlog =>
        .unavailable message hcool hthrown rfl hotps hlast hlog

end Requests

/-! ### Logins -/

/-- The answer of `verifyOtp` to the last of the attempts. -/
def lockError (env : AuthEnv) : Error :=
  .forbidden ("Trop de tentatives, blocage de " ++ toString env.config.otpLockMinutes ++ " minutes")

/-- The record that a call of `verifyOtp` consumes. -/
def Store.accepted? (env : AuthEnv) (s : Store) (phone code : String) : Option OtpCode :=
  (s.pendingOtp? phone).filter fun otp =>
    !(otp.lockedUntil.any fun lockedUntil => decide (s.now < lockedUntil)) &&
      decide (s.now ≤ otp.expiresAt) && env.bcryptCompare code otp.codeHash

/-- What a call of `verifyOtp` does. -/
inductive VerifyCase (env : AuthEnv) (s : Store) (phone code : String) (r : Except Error Login)
    (t : Trail) : Prop
  | refused (e : Error) (hr : r = .error e) (he : e ≠ lockError env)
      (hotps : t.store.otpCodes = s.otpCodes) (hlog : ∀ c ∈ t.log, c.comparesCode = false)
  | attempted (otp : OtpCode) (hotp : s.pendingOtp? phone = some otp)
      (hopen : (otp.lockedUntil.any fun lockedUntil => decide (s.now < lockedUntil)) = false)
      (e : Error) (hr : r = .error e)
      (he : e = lockError env → env.config.otpMaxAttempts ≤ otp.attempts + 1)
      (hotps : t.store.otpCodes = ((Cmd.attemptOtp otp.id (otp.attempts + 1)
        (if env.config.otpMaxAttempts ≤ otp.attempts + 1 then
          some (s.now + env.config.otpLockMinutes * 60 * 1000) else otp.lockedUntil)).exec s).otpCodes)
  | consumed (otp : OtpCode) (hotp : s.accepted? env phone code = some otp)
      (hr : r ≠ .error (lockError env))
      (hotps : t.store.otpCodes = ((Cmd.consumeOtp otp.id).exec s).otpCodes)

section Logins

variable {env : AuthEnv} {s : Store} {phone rawPhone code : String} {app : JulakaiApp} {t : Trail}

theorem accepted?_eq_some_iff {otp : OtpCode} : s.accepted? env phone code = some otp ↔
    s.pendingOtp? phone = some otp ∧
      (otp.lockedUntil.any fun lockedUntil => decide (s.now < lockedUntil)) = false ∧
        s.now ≤ otp.expiresAt ∧ env.bcryptCompare code otp.codeHash = true := by
  rw [Store.accepted?, Option.filter_eq_some_iff]
  simp [and_assoc]

theorem error_ne_lockError {message : String} (h : message.toList[20]? ≠ some 'b') :
    Error.forbidden message ≠ lockError env := by
  intro heq
  obtain rfl := Error.forbidden.inj heq
  exact h (by simp [String.toList_append])

theorem leavesOtps_completeLogin (env : AuthEnv) (phone : String) :
    (completeLogin env phone).Only fun c => c.leavesOtps = true :=
  only_completeLogin env phone (fun _ h => Cmd.leavesOtps_of_issues (Cmd.issues_of_first h)) rfl rfl

/-- A login does not answer that the code is locked. -/
theorem wlp_completeLogin_error (phone : String) :
    (completeLogin env phone).wlp machine (fun _ _ => True) (fun r _ => r ≠ .error (lockError env))
      t := by
  have hother : ∀ {α : Type} {e : Error}, (∀ message, e ≠ .forbidden message) →
      (Except.error e : Except Error α) ≠ .error (lockError env) := by
    intro α e he h
    exact he _ (Except.error.inj h)
  have hissue : ∀ (user : User) (t : Trail),
      (issueTokenPair env user.id user.phone user.role).wlp machine (fun _ _ => True)
        (fun r _ => r ≠ .error (lockError env)) t := by
    intro user t _ _ _ _
    dsimp only
    split_ifs
    · exact hother fun _ h => by cases h
    · exact fun h => by cases h
  have hlogin : ∀ (user : User) (isNewUser : Bool) (t : Trail),
      (loginUser env user isNewUser).wlp machine (fun _ _ => True)
        (fun r _ => r ≠ .error (lockError env)) t := by
    intro user isNewUser t
    unfold loginUser
    split_ifs
    · intro h
      exact error_ne_lockError (by decide) (Except.error.inj h)
    · apply Async.wlp_bind
      refine Async.wlp_mono (hissue user t) ?_
      rintro (e | tokens) t he
      · exact fun h => he (congrArg _ (Except.error.inj h))
      · exact fun h => by cases h
  unfold completeLogin findUserByPhone
  rw [Async.bind_eq, Async.wlp_query_bind]
  intro _
  rw [machine_store, machine_perform]
  cases t.store.users.findFirst fun u => decide (u.phone = phone) with
  | some user => exact hlogin user _ _
  | none =>
    dsimp only
    rw [createUser, Async.bind_eq, Async.wlp_queryE_bind]
    intro _
    split_ifs
    · exact hother fun _ h => by cases h
    · exact hlogin _ true _

theorem wlp_answerCode {otp : OtpCode} {isCodeValid : Bool}
    (hvalid : env.bcryptCompare code otp.codeHash = isCodeValid)
    (hotp : s.pendingOtp? phone = some otp)
    (hopen : (otp.lockedUntil.any fun lockedUntil => decide (s.now < lockedUntil)) = false)
    (hexpires : s.now ≤ otp.expiresAt) (ht : t.store = s) :
    (answerCode env phone otp isCodeValid).wlp machine (fun _ _ => True)
      (VerifyCase env s phone code) t := by
  obtain ⟨store, log⟩ := t
  obtain rfl := ht
  have hfound : (((Cmd.date.exec store).otpCodes.find? otp.id).isSome) = true := by
    show (store.otpCodes.find? otp.id).isSome = true
    rw [(mem_of_pendingOtp? hotp).1]
    rfl
  unfold answerCode
  cases isCodeValid with
  | false =>
    rw [if_pos rfl]
    dsimp only
    rw [Async.bind_eq, newDate, Async.wlp_read_bind]
    intro _
    rw [machine_store, machine_perform, Async.bind_eq, updateOtp, Async.wlp_queryE_bind]
    intro _
    rw [machine_store, machine_perform, if_pos hfound, Async.done_ok_bind]
    by_cases hlock : env.config.otpMaxAttempts ≤ otp.attempts + 1
    · rw [if_pos hlock, if_pos hlock]
      refine .attempted otp hotp hopen _ rfl (fun _ => hlock) ?_
      rw [if_pos hlock]
      rfl
    · rw [if_neg hlock, if_neg hlock]
      refine .attempted otp hotp hopen _ rfl (fun h => by cases h) ?_
      rw [if_neg hlock]
      rfl
  | true =>
    rw [if_neg (by decide), Async.bind_eq, newDate, Async.wlp_read_bind]
    intro _
    rw [machine_perform, Async.bind_eq, updateOtp, Async.wlp_queryE_bind]
    intro _
    rw [machine_store, machine_perform, if_pos hfound, Async.done_ok_bind]
    have hleaves : (completeLogin env phone).wlp machine (fun _ _ => True)
        (fun _ t => t.store.otpCodes = ((Cmd.consumeOtp otp.id).exec store).otpCodes)
        ⟨(Cmd.consumeOtp otp.id).exec store, .consumeOtp otp.id :: .date :: log⟩ :=
      wlp_store (I := fun s => s.otpCodes = ((Cmd.consumeOtp otp.id).exec store).otpCodes)
        (leavesOtps_completeLogin env phone) (fun c s hc hs => (Cmd.otpCodes_exec hc).trans hs) rfl
    refine Async.wlp_mono (Async.wlp_and hleaves (wlp_completeLogin_error phone)) ?_
    rintro r t ⟨hotps, hr⟩
    exact .consumed otp (accepted?_eq_some_iff.mpr ⟨hotp, hopen, hexpires, hvalid⟩) hr hotps

theorem wlp_verifyOtp (hlegacy : useJulakai env app = false) :
    (verifyOtp env rawPhone code app).wlp machine (fun _ _ => True)
      (VerifyCase env s (normalizePhone rawPhone) code) ⟨s, []⟩ := by
  unfold verifyOtp
  dsimp only
  rw [if_neg (by simp [hlegacy]), Async.bind_eq, Async.wlp_query_bind]
  intro _
  rw [machine_store, machine_perform]
  split
  case h_1 => exact .refused _ rfl (fun h => by cases h) rfl (by simp [Cmd.comparesCode])
  case h_2 otp hpending =>
    have hotp : s.pendingOtp? (normalizePhone rawPhone) = some otp := hpending
    rw [Async.bind_eq, newDate, Async.wlp_read_bind]
    intro _
    rw [machine_store, machine_perform]
    show Async.wlp machine _ (if (otp.lockedUntil.any fun lockedUntil =>
      decide (s.now < lockedUntil)) = true then _ else _) _ _
    cases hlocked : otp.lockedUntil.any fun lockedUntil => decide (s.now < lockedUntil) with
    | true =>
      rw [if_pos rfl]
      exact .refused _ rfl (error_ne_lockError (by simp [String.toList_append])) rfl
        (by simp [Cmd.comparesCode])
    | false =>
      rw [if_neg Bool.false_ne_true]
      split_ifs with hexpires
      · exact .refused _ rfl (fun h => by cases h) rfl (by simp [Cmd.comparesCode])
      · rw [Async.bind_eq, Async.wlp_query_bind]
        intro _
        exact wlp_answerCode rfl hotp hlocked (Nat.le_of_not_lt hexpires) rfl

end Logins

/-! ### Calls -/

section Calls

variable {env : AuthEnv} {s : Store}

theorem now_le_play (env : AuthEnv) (call : Call) (s : Store) :
    s.now ≤ (call.play env s).2.store.now :=
  Async.play_of_wlp (wlp_store (I := fun s' => s.now ≤ s'.now) (call.program env).only_true
    (fun c s' _ hs => hs.trans (c.now_le_exec s')) le_rfl)

/-- What a call of a client is. -/
theorem requestCase (hlegacy : ∀ app, useJulakai env app = false) (rawPhone : String)
    (app : JulakaiApp) (s : Store) :
    ∃ r, RequestCase env s (normalizePhone rawPhone) r ((Call.requestOtp rawPhone app).play env s).2 ∧
      ((Call.requestOtp rawPhone app).play env s).1 = r.map fun _ => none := by
  have hwlp : ((Call.requestOtp rawPhone app).program env).wlp machine (fun _ _ => True)
      (fun r' t => ∃ r, RequestCase env s (normalizePhone rawPhone) r t ∧
        r' = r.map fun _ => none) ⟨s, []⟩ := by
    apply Async.wlp_bind
    refine Async.wlp_mono (wlp_requestOtp (hlegacy app)) ?_
    rintro (e | response) t h
    · exact ⟨_, h, rfl⟩
    · exact ⟨_, h, rfl⟩
  exact Async.play_of_wlp hwlp

theorem verifyCase (hlegacy : ∀ app, useJulakai env app = false) (rawPhone code : String)
    (app : JulakaiApp) (s : Store) :
    ∃ r, VerifyCase env s (normalizePhone rawPhone) code r
        ((Call.verifyOtp rawPhone code app).play env s).2 ∧
      ((Call.verifyOtp rawPhone code app).play env s).1 = r.map fun login => some login.tokens := by
  have hwlp : ((Call.verifyOtp rawPhone code app).program env).wlp machine (fun _ _ => True)
      (fun r' t => ∃ r, VerifyCase env s (normalizePhone rawPhone) code r t ∧
        r' = r.map fun login => some login.tokens) ⟨s, []⟩ := by
    apply Async.wlp_bind
    refine Async.wlp_mono (wlp_verifyOtp (hlegacy app)) ?_
    rintro (e | login) t h
    · exact ⟨_, h, rfl⟩
    · exact ⟨_, h, rfl⟩
  exact Async.play_of_wlp hwlp

/-- Every other call leaves the codes. -/
theorem otpCodes_play {call : Call} (hrequest : ∀ rawPhone app, call ≠ .requestOtp rawPhone app)
    (hverify : ∀ rawPhone code app, call ≠ .verifyOtp rawPhone code app) :
    (call.play env s).2.store.otpCodes = s.otpCodes := by
  have hleaves : ∀ c : Cmd, c.isAccount = true → c.leavesOtps = true := by
    intro c hc
    cases c <;> first | rfl | cases hc
  exact Async.play_of_wlp (wlp_store (I := fun s' => s'.otpCodes = s.otpCodes)
    (account_program env hrequest hverify)
    (fun c s' hc hs => (Cmd.otpCodes_exec (hleaves c hc)).trans hs) rfl)

end Calls

end Telima.Auth
