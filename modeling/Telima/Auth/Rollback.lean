import Telima.Auth.Calls

/-!
# A code that could not be sent

`requestOtp` deletes the record of a code that could not be sent, unless the provider throws
`ServiceUnavailableException`: this exception is thrown on, and the record stays.  So a failed request
leaves the codes as they were, and the cooldown where it was, if and only if the provider throws something
else (`costs_nothing_iff`).
-/

namespace Telima.Auth

open AuthService

/-- A request throws `ServiceUnavailable`, leaves the codes as they were, and the next request sends its
code. -/
structure CostsNothing (env : AuthEnv) (s : Store) (rawPhone : String) (app : JulakaiApp) : Prop where
  unavailable : ∃ message,
    ((Call.requestOtp rawPhone app).play env s).1 = .error (.serviceUnavailable message)
  otpCodes : ((Call.requestOtp rawPhone app).play env s).2.store.otpCodes = s.otpCodes
  next : ∀ app', .sendSms (normalizePhone rawPhone) ∈
    ((Call.requestOtp rawPhone app').play env ((Call.requestOtp rawPhone app).play env s).2.store).2.log

section Rollback

variable {env : AuthEnv} {s s' : Store} {phone rawPhone : String} {app : JulakaiApp}

/-- A cooldown that is over stays over while no code is added. -/
theorem coolsDown_of_otpCodes (h : s.coolsDown env phone = false) (hotps : s'.otpCodes = s.otpCodes)
    (hnow : s.now ≤ s'.now) : s'.coolsDown env phone = false := by
  unfold Store.coolsDown at h ⊢
  rw [hotps]
  cases hlast : lastOtp (s.otpCodes.findMany fun otp => decide (otp.phone = phone)) with
  | none => rfl
  | some last =>
    rw [hlast, Option.any_some, decide_eq_false_iff_not] at h
    rw [Option.any_some, decide_eq_false_iff_not]
    omega

/-- When the cooldown is over, a request sends its code. -/
theorem sendSms_mem_of_coolsDown (hlegacy : ∀ app, useJulakai env app = false)
    (h : s.coolsDown env (normalizePhone rawPhone) = false) (app : JulakaiApp) :
    .sendSms (normalizePhone rawPhone) ∈ ((Call.requestOtp rawPhone app).play env s).2.log := by
  obtain ⟨r, hcase, -⟩ := requestCase hlegacy rawPhone app s
  cases hcase with
  | refused hcool =>
    rw [h] at hcool
    cases hcool
  | sent _ _ _ _ _ _ hlog => exact hlog
  | rolledBack _ _ _ _ _ _ hlog => exact hlog
  | unavailable _ _ _ _ _ _ hlog => exact hlog

/-- A new record changes the table. -/
theorem insert_newOtp_ne {messageId : Option String} :
    s.otpCodes.insert (newOtp env s phone messageId) ≠ s.otpCodes := by
  intro h
  have hnew := find?_newOtp env s phone messageId
  rw [h, find?_newOtpId] at hnew
  cases hnew

end Rollback

/-- With the codes of the program itself: a request whose code the provider fails to send costs nothing if
and only if the provider does not throw `ServiceUnavailable`. -/
theorem costs_nothing_iff (env : AuthEnv) (hlegacy : ∀ app, useJulakai env app = false) (s : Store)
    (rawPhone : String) (app : JulakaiApp) (e : Error)
    (hcool : s.coolsDown env (normalizePhone rawPhone) = false)
    (hthrown : env.sendOtp (normalizePhone rawPhone) (newCode env s)
      (s.sending env (normalizePhone rawPhone)) = .error e) :
    CostsNothing env s rawPhone app ↔ ∀ message, e ≠ .serviceUnavailable message := by
  obtain ⟨r, hcase, hr⟩ := requestCase hlegacy rawPhone app s
  cases hcase with
  | refused hcool' =>
    rw [hcool] at hcool'
    cases hcool'
  | sent _ _ hsent =>
    obtain ⟨messageId, hsent⟩ := hsent
    rw [hthrown] at hsent
    cases hsent
  | rolledBack e' _ hthrown' he hfailed hotps _ =>
    rw [hthrown] at hthrown'
    obtain rfl := Except.error.inj hthrown'
    obtain ⟨message, rfl⟩ := hfailed
    refine ⟨fun _ => he, fun _ => ⟨⟨message, hr⟩, hotps, sendSms_mem_of_coolsDown hlegacy ?_⟩⟩
    exact coolsDown_of_otpCodes hcool hotps (now_le_play env _ s)
  | unavailable message _ hthrown' _ hotps _ _ =>
    rw [hthrown] at hthrown'
    refine ⟨fun h => ?_, fun h => absurd (Except.error.inj hthrown') (h message)⟩
    exact absurd (hotps.symm.trans h.otpCodes) insert_newOtp_ne

namespace Rollback

open Town

/-- The provider throws the error. -/
def failing (e : Error) : AuthEnv := { env with sendOtp := fun _ _ _ => .error e }

end Rollback

open Town Rollback in
theorem costs_nothing_provider_down :
    CostsNothing (failing (.other "provider down")) store "70000001" .client :=
  (costs_nothing_iff (failing (.other "provider down")) (fun _ => rfl) store "70000001" .client
    (.other "provider down") (by decide +kernel) rfl).mpr fun _ => nofun

open Town Rollback in
/-- The record stays. -/
theorem unavailable_costs :
    ¬ CostsNothing (failing (.serviceUnavailable "SMS")) store "70000001" .client := by
  intro h
  have hrows : (((Call.requestOtp "70000001" .client).play (failing (.serviceUnavailable "SMS"))
      store).2.store.otpCodes.rows.length = 0) := by
    rw [h.otpCodes]
    rfl
  exact absurd hrows (by decide +kernel)

end Telima.Auth
