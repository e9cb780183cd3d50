import Telima.Auth.Calls

/-!
# The lock after too many wrong codes

`verifyOtp` locks the record of a code; `requestOtp` creates a new record, which is not locked, and
`verifyOtp` looks at the last one.  So a new code opens the phone again.  If no new code comes out of a
request for a phone whose last code is locked, the lock binds the phone
(`lock_binds_phone`).
-/

namespace Telima.Auth

open AuthService

/-! ### The codes of a phone -/

/-- The code of the phone is locked. -/
def Store.isLocked (s : Store) (phone : String) : Bool :=
  (s.pendingOtp? phone).any fun otp => otp.lockedUntil.any fun lockedUntil =>
    decide (s.now < lockedUntil)

/-- The provider does not send the message of a request, and does not say that it is not available. -/
def smsRefused (env : AuthEnv) (s : Store) (phone : String) : Bool :=
  match env.sendOtp phone (newCode env s) (s.sending env phone) with
  | .ok _ | .error (.serviceUnavailable _) => false
  | .error _ => true

/-- No new code comes out of a request for a phone whose code is locked. -/
def KeepsLock (env : AuthEnv) (s : Store) : Call → Prop
  | .requestOtp phone _ => s.isLocked (normalizePhone phone) = true →
      s.coolsDown env (normalizePhone phone) = true ∨ smsRefused env s (normalizePhone phone) = true
  | _ => True

/-! ### What a command does to the codes -/

section Commands

variable {s : Store} {c : Cmd} {phone : String} {otpId : ℕ} {row : OtpCode}

/-- Codes of other phones do not matter. -/
theorem pendingOtps_update {f : OtpCode → OtpCode} (hf : ∀ otp, (f otp).id = otp.id)
    (hphone : ∀ otp, (f otp).phone = otp.phone) (hrow : s.otpCodes.find? otpId = some row)
    (hne : row.phone ≠ phone) :
    ((s.otpCodes.update otpId f hf).findMany fun otp =>
      decide (otp.phone = phone) && otp.consumedAt.isNone) = s.pendingOtps phone := by
  refine Table.findMany_update_of_not f hf fun otp hotp => ?_
  obtain rfl := Option.some.inj (hrow.symm.trans hotp)
  rw [hphone]
  simp [hne]

theorem lastOtp_map {g : OtpCode → OtpCode} (hg : ∀ otp, (g otp).createdAt = otp.createdAt)
    (otps : List OtpCode) : lastOtp (otps.map g) = (lastOtp otps).map g := by
  unfold lastOtp
  rw [← List.map_insertionSort (fun a b : OtpCode => b.createdAt ≤ a.createdAt), List.head?_map]
  intro a _ b _
  rw [hg, hg]

/-- The code of the phone after an attempt. -/
theorem pendingOtp?_attempt (h : s.pendingOtp? phone = some row) (attempts : ℕ)
    (lockedUntil : Option ℕ) :
    ((Cmd.attemptOtp row.id attempts lockedUntil).exec s).pendingOtp? phone =
      some (row.attempt attempts lockedUntil) := by
  show lastOtp ((s.otpCodes.update row.id (OtpCode.attempt attempts lockedUntil)
    (OtpCode.id_attempt attempts lockedUntil)).findMany fun otp =>
      decide (otp.phone = phone) && otp.consumedAt.isNone) = _
  have hlast : lastOtp (s.otpCodes.findMany fun otp =>
      decide (otp.phone = phone) && otp.consumedAt.isNone) = some row := h
  have hsame : ∀ otp : OtpCode,
      (if decide (otp.id = row.id) then otp.attempt attempts lockedUntil else otp).createdAt =
        otp.createdAt := fun otp => by split_ifs <;> rfl
  rw [Table.findMany_update (OtpCode.attempt attempts lockedUntil) _ fun _ => rfl, lastOtp_map hsame,
    hlast, Option.map_some, if_pos (decide_eq_true rfl)]

end Commands

/-! ### The invariant -/

/-- The code of the phone is locked at least until the time. -/
def Store.LockedUntil (s : Store) (phone : String) (time : ℕ) : Prop :=
  ∃ otp, s.pendingOtp? phone = some otp ∧ ∃ lockedUntil, otp.lockedUntil = some lockedUntil ∧
    time ≤ lockedUntil

/-- The time is over, or the code of the phone is locked until then. -/
def Bound (phone : String) (time : ℕ) (s : Store) : Prop :=
  time ≤ s.now ∨ s.LockedUntil phone time

section Invariant

variable {env : AuthEnv} {phone : String} {time : ℕ} {s s' : Store}

theorem Bound.congr (h : Bound phone time s) (hotps : s'.pendingOtps phone = s.pendingOtps phone)
    (hnow : s.now ≤ s'.now) : Bound phone time s' := by
  rcases h with h | ⟨otp, hotp, hlocked⟩
  · exact Or.inl (h.trans hnow)
  · refine Or.inr ⟨otp, ?_, hlocked⟩
    rw [Store.pendingOtp?, hotps]
    exact hotp

theorem pendingOtps_congr (hotps : s'.otpCodes = s.otpCodes) :
    s'.pendingOtps phone = s.pendingOtps phone := by
  rw [Store.pendingOtps, hotps, Store.pendingOtps]

/-- Before the time the code is locked. -/
theorem Bound.isLocked (h : Bound phone time s) (hnow : s.now < time) :
    ∃ otp, s.pendingOtp? phone = some otp ∧
      (otp.lockedUntil.any fun lockedUntil => decide (s.now < lockedUntil)) = true := by
  rcases h with h | ⟨otp, hotp, lockedUntil, hlocked, hle⟩
  · omega
  · refine ⟨otp, hotp, ?_⟩
    rw [hlocked, Option.any_some]
    exact decide_eq_true (by omega)

/-- A new code is for another phone, or comes when the time is over. -/
theorem Bound.insert (h : Bound phone time s) {receiver : String} {messageId : Option String}
    (hopen : s.isLocked receiver = false)
    (hotps : s'.otpCodes = s.otpCodes.insert (newOtp env s receiver messageId))
    (hnow : s.now ≤ s'.now) : Bound phone time s' := by
  by_cases hover : time ≤ s.now
  · exact Or.inl (hover.trans hnow)
  · have hne : receiver ≠ phone := by
      rintro rfl
      obtain ⟨otp, hotp, hlocked⟩ := h.isLocked (by omega)
      rw [Store.isLocked, hotp, Option.any_some, hlocked] at hopen
      cases hopen
    refine h.congr ?_ hnow
    rw [Store.pendingOtps, hotps]
    exact Table.findMany_insert_of_not (by simp [newOtp, hne])

/-- A code that is changed is the code of another phone, or the time is over. -/
theorem Bound.update (h : Bound phone time s) {receiver : String} {otp : OtpCode}
    (hotp : s.pendingOtp? receiver = some otp)
    (hopen : (otp.lockedUntil.any fun lockedUntil => decide (s.now < lockedUntil)) = false)
    {f : OtpCode → OtpCode} (hf : ∀ otp, (f otp).id = otp.id) (hphone : ∀ otp, (f otp).phone = otp.phone)
    (hotps : s'.otpCodes = s.otpCodes.update otp.id f hf) (hnow : s.now ≤ s'.now) :
    Bound phone time s' := by
  obtain ⟨hrow, hreceiver, -⟩ := mem_of_pendingOtp? hotp
  by_cases hover : time ≤ s.now
  · exact Or.inl (hover.trans hnow)
  · have hne : otp.phone ≠ phone := by
      intro hsame
      obtain ⟨otp', hotp', hlocked⟩ := h.isLocked (by omega)
      rw [hreceiver] at hsame
      rw [hsame, hotp'] at hotp
      obtain rfl := Option.some.inj hotp
      rw [hopen] at hlocked
      cases hlocked
    refine h.congr ?_ hnow
    rw [Store.pendingOtps, hotps]
    exact pendingOtps_update hf hphone hrow hne

theorem Bound.play (hlegacy : ∀ app, useJulakai env app = false) {call : Call}
    (hadmits : KeepsLock env s call) (h : Bound phone time s) :
    Bound phone time (call.play env s).2.store := by
  have hnow : s.now ≤ (call.play env s).2.store.now := now_le_play env call s
  by_cases hrequest : ∃ rawPhone app, call = .requestOtp rawPhone app
  · obtain ⟨rawPhone, app, rfl⟩ := hrequest
    obtain ⟨r, hcase, -⟩ := requestCase hlegacy rawPhone app s
    -- a new code comes out of a request when the cooldown is over and the message is not refused
    have hopen : s.coolsDown env (normalizePhone rawPhone) = false →
        smsRefused env s (normalizePhone rawPhone) = false →
          s.isLocked (normalizePhone rawPhone) = false := by
      intro hcool hsms
      rw [Bool.eq_false_iff]
      intro hlocked
      rcases hadmits hlocked with hcool' | hsms'
      · rw [hcool] at hcool'
        cases hcool'
      · rw [hsms] at hsms'
        cases hsms'
    cases hcase with
    | refused _ _ hotps => exact h.congr (pendingOtps_congr hotps) hnow
    | rolledBack _ _ _ _ _ hotps => exact h.congr (pendingOtps_congr hotps) hnow
    | sent _ hcool hsent _ hotps =>
      obtain ⟨messageId, hsent⟩ := hsent
      exact h.insert (hopen hcool (by rw [smsRefused, hsent])) hotps hnow
    | unavailable _ hcool hthrown _ hotps =>
      exact h.insert (hopen hcool (by rw [smsRefused, hthrown])) hotps hnow
  · by_cases hverify : ∃ rawPhone code app, call = .verifyOtp rawPhone code app
    · obtain ⟨rawPhone, code, app, rfl⟩ := hverify
      obtain ⟨r, hcase, -⟩ := verifyCase hlegacy rawPhone code app s
      cases hcase with
      | refused _ _ _ hotps => exact h.congr (pendingOtps_congr hotps) hnow
      | attempted otp hotp hopen _ _ _ hotps =>
        exact h.update hotp hopen (OtpCode.id_attempt _ _) (fun _ => rfl) hotps hnow
      | consumed otp hotp _ hotps =>
        obtain ⟨hpending, hopen, -⟩ := accepted?_eq_some_iff.mp hotp
        exact h.update hpending hopen (OtpCode.id_consume _) (fun _ => rfl) hotps hnow
    · exact h.congr (pendingOtps_congr (otpCodes_play
        (fun rawPhone app hcall => hrequest ⟨rawPhone, app, hcall⟩)
        fun rawPhone code app hcall => hverify ⟨rawPhone, code, app, hcall⟩)) hnow

/-- Runs keep the lock. -/
theorem Run.bound (hlegacy : ∀ app, useJulakai env app = false) (hrun : Run env (KeepsLock env) s s')
    (h : Bound phone time s) : Bound phone time s' := by
  induction hrun with
  | refl => exact h
  | tail _ hstep ih =>
    cases hstep with
    | call hadmits => exact ih.play hlegacy hadmits

end Invariant

/-! ### The answer that locks -/

section Lock

variable {env : AuthEnv} {rawPhone code : String} {app : JulakaiApp} {s : Store}

/-- The phone after the answer that locks. -/
theorem lockedUntil_of_lockError (hlegacy : ∀ app, useJulakai env app = false)
    (hlock : ((Call.verifyOtp rawPhone code app).play env s).1 = .error (lockError env)) :
    ((Call.verifyOtp rawPhone code app).play env s).2.store.LockedUntil (normalizePhone rawPhone)
      (s.now + env.config.otpLockMinutes * 60 * 1000) := by
  obtain ⟨r, hcase, hr⟩ := verifyCase hlegacy rawPhone code app s
  rw [hlock] at hr
  have herror : r = .error (lockError env) := by
    cases r with
    | error e => exact congrArg _ (Except.error.inj hr).symm
    | ok login => cases hr
  cases hcase with
  | refused e he hne =>
    rw [herror] at he
    exact absurd (Except.error.inj he).symm hne
  | attempted otp hotp _ e he hmax hotps =>
    rw [herror] at he
    have hlast : env.config.otpMaxAttempts ≤ otp.attempts + 1 := hmax (Except.error.inj he).symm
    rw [if_pos hlast] at hotps
    refine ⟨otp.attempt (otp.attempts + 1)
      (some (s.now + env.config.otpLockMinutes * 60 * 1000)), ?_, _, rfl, le_rfl⟩
    rw [Store.pendingOtp?, pendingOtps_congr hotps]
    exact pendingOtp?_attempt hotp _ _
  | consumed _ _ hne => exact absurd herror hne

/-- The answer while the phone is locked. -/
theorem refused_of_isLocked (hlegacy : ∀ app, useJulakai env app = false)
    (hlocked : s.isLocked (normalizePhone rawPhone) = true) :
    (∃ e, ((Call.verifyOtp rawPhone code app).play env s).1 = .error e) ∧
      ∀ c ∈ ((Call.verifyOtp rawPhone code app).play env s).2.log, c.comparesCode = false := by
  obtain ⟨r, hcase, hr⟩ := verifyCase hlegacy rawPhone code app s
  have hclosed : ∀ otp, s.pendingOtp? (normalizePhone rawPhone) = some otp →
      (otp.lockedUntil.any fun lockedUntil => decide (s.now < lockedUntil)) = true := by
    intro otp hotp
    rwa [Store.isLocked, hotp, Option.any_some] at hlocked
  cases hcase with
  | refused e he _ _ hlog =>
    rw [he] at hr
    exact ⟨⟨e, hr⟩, hlog⟩
  | attempted otp hotp hopen =>
    rw [hclosed otp hotp] at hopen
    cases hopen
  | consumed otp hotp =>
    obtain ⟨hpending, hopen, -⟩ := accepted?_eq_some_iff.mp hotp
    rw [hclosed otp hpending] at hopen
    cases hopen

end Lock

/-- With the codes of the program itself, after the answer that locks a phone no call of `verifyOtp` for
this phone compares a code or returns tokens until the minutes are over, in every run in which no new
code comes out of a request for a phone whose code is locked. -/
theorem lock_binds_phone (env : AuthEnv) (hlegacy : ∀ app, useJulakai env app = false)
    {s s' : Store} {rawPhone code : String} {app : JulakaiApp}
    (hlock : ((Call.verifyOtp rawPhone code app).play env s).1 = .error (lockError env))
    (hrun : Run env (KeepsLock env) ((Call.verifyOtp rawPhone code app).play env s).2.store s')
    (hnow : s'.now < s.now + env.config.otpLockMinutes * 60 * 1000)
    (rawPhone' code' : String) (app' : JulakaiApp)
    (hphone : normalizePhone rawPhone' = normalizePhone rawPhone) :
    (∃ e, ((Call.verifyOtp rawPhone' code' app').play env s').1 = .error e) ∧
      ∀ c ∈ ((Call.verifyOtp rawPhone' code' app').play env s').2.log, c.comparesCode = false := by
  have hbound : Bound (normalizePhone rawPhone) (s.now + env.config.otpLockMinutes * 60 * 1000)
      ((Call.verifyOtp rawPhone code app).play env s).2.store :=
    Or.inr (lockedUntil_of_lockError hlegacy hlock)
  obtain ⟨otp, hotp, hlocked⟩ := (hrun.bound hlegacy hbound).isLocked hnow
  refine refused_of_isLocked hlegacy ?_
  rw [Store.isLocked, hphone, hotp, Option.any_some]
  exact hlocked

namespace Lockout

open Town

/-- The codes of the town are 1000. -/
def requested : Store := ((Call.requestOtp "70000001" .client).play env store).2.store

def wrong (code : String) (s : Store) : Store :=
  ((Call.verifyOtp "70000001" code .client).play env s).2.store

/-- Two wrong answers to the code of user 1. -/
def twiceWrong : Store := wrong "1111" (wrong "0000" requested)

/-- The third wrong answer locks the code; a minute passes. -/
def minuteLater : Store := ((Call.wait 60000).play env (wrong "2222" twiceWrong)).2.store

theorem locked : ((Call.verifyOtp "70000001" "2222" .client).play env twiceWrong).1 =
    .error (lockError env) := by
  decide +kernel

end Lockout

open Town Lockout in
/-- A request within the cooldown changes nothing. -/
theorem lock_binds_phone_cooldown :
    ∃ e, ((Call.verifyOtp "+223 70 00 00 01" "1000" .driver).play env
      ((Call.requestOtp "70000001" .client).play env (wrong "2222" twiceWrong)).2.store).1 =
        .error e := by
  have hcool : (wrong "2222" twiceWrong).coolsDown env (normalizePhone "70000001") = true := by
    decide +kernel
  exact (lock_binds_phone env (fun _ => rfl) locked
    (.single (@Step.call _ _ _ (.requestOtp "70000001" .client) fun _ => Or.inl hcool))
    (by decide +kernel) "+223 70 00 00 01" "1000" .driver (by decide +kernel)).1

open Town Lockout in
/-- A minute after the lock a new code opens the phone. -/
theorem lock_evaded :
    ((Call.verifyOtp "70000001" "2222" .client).play env twiceWrong).1 = .error (lockError env) ∧
      ∃ s', Run env (fun _ _ => True) (wrong "2222" twiceWrong) s' ∧
        s'.now < twiceWrong.now + env.config.otpLockMinutes * 60 * 1000 ∧
        ∃ tokens, ((Call.verifyOtp "70000001" "1000" .client).play env s').1 = .ok tokens := by
  refine ⟨locked, ((Call.requestOtp "70000001" .client).play env minuteLater).2.store, ?_, ?_, ?_⟩
  · exact .tail (.single (@Step.call _ _ _ (.wait 60000) trivial)) (.call trivial)
  · decide +kernel
  · have hok : (((Call.verifyOtp "70000001" "1000" .client).play env
        ((Call.requestOtp "70000001" .client).play env minuteLater).2.store).1.toOption).isSome =
          true := by
      decide +kernel
    cases hresult : ((Call.verifyOtp "70000001" "1000" .client).play env
        ((Call.requestOtp "70000001" .client).play env minuteLater).2.store).1 with
    | ok tokens => exact ⟨tokens, rfl⟩
    | error e =>
      rw [hresult] at hok
      cases hok

end Telima.Auth
