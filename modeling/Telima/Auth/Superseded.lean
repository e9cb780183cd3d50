import Telima.Auth.Calls

/-!
# Superseded codes

`verifyOtp` looks at the last code of a phone that is not consumed.  A login consumes this code, and so an
earlier one that is not expired becomes the last again.  If no login leaves such a code, no call logs in
with a code after a later code of the phone was sent or has logged in (`superseded_codes_dead`).
-/

namespace Telima.Auth

open AuthService

/-- The call has sent the code of the record. -/
def Sends (env : AuthEnv) (e : Store × Call) (otp : OtpCode) : Prop :=
  ∃ rawPhone app, e.2 = .requestOtp rawPhone app ∧ (e.2.play env e.1).1.isOk = true ∧
    (e.2.play env e.1).2.store.otpCodes.find? e.1.newOtpId = some otp

/-- The call has logged in with the code of the record. -/
def LogsIn (env : AuthEnv) (e : Store × Call) (otp : OtpCode) : Prop :=
  ∃ rawPhone code app, e.2 = .verifyOtp rawPhone code app ∧ (e.2.play env e.1).1.isOk = true ∧
    e.1.pendingOtp? (normalizePhone rawPhone) = some otp

/-- A code of the phone was sent or has logged in that is later than the record. -/
def Superseded (env : AuthEnv) (past : List (Store × Call)) (otp : OtpCode) : Prop :=
  ∃ e ∈ past, ∃ later, (Sends env e later ∨ LogsIn env e later) ∧ later.phone = otp.phone ∧
    otp.createdAt < later.createdAt

/-- A login leaves no code of the phone that is not expired. -/
def LeavesNone (env : AuthEnv) (s : Store) : Call → Prop
  | .verifyOtp rawPhone code _ => ∀ otp ∈ s.accepted? env (normalizePhone rawPhone) code,
    ∀ other ∈ s.pendingOtps (normalizePhone rawPhone), other.id ≠ otp.id → other.expiresAt < s.now
  | _ => True

instance (env : AuthEnv) (s : Store) (call : Call) : Decidable (LeavesNone env s call) := by
  unfold LeavesNone
  split <;> infer_instance

namespace Superseded

/-! ### Lifetimes -/

/-- What of a record decides whether its code is the last. -/
structure Lifetime where
  phone : String
  expiresAt : ℕ
  consumedAt : Option ℕ
  createdAt : ℕ

def lifetime (otp : OtpCode) : Lifetime where
  phone := otp.phone
  expiresAt := otp.expiresAt
  consumedAt := otp.consumedAt
  createdAt := otp.createdAt

def lifetimes (s : Store) : List Lifetime := s.otpCodes.rows.map lifetime

/-- No call logs in with the code: it is consumed or expired, or another one is the last. -/
inductive Dead (s : Store) (l : Lifetime) : Prop
  | consumed (h : l.consumedAt ≠ none)
  | expired (h : l.expiresAt < s.now)
  | shadowed (l' : Lifetime) (hmem : l' ∈ lifetimes s) (hphone : l'.phone = l.phone)
      (hpending : l'.consumedAt = none) (hlater : l.createdAt < l'.createdAt)

section Lifetimes

variable {env : AuthEnv} {s s' : Store} {phone : String} {otp : OtpCode} {l : Lifetime}

theorem mem_lifetimes (h : otp ∈ s.otpCodes.rows) : lifetime otp ∈ lifetimes s :=
  List.mem_map_of_mem h

theorem lifetimes_congr (h : s'.otpCodes = s.otpCodes) : lifetimes s' = lifetimes s := by
  rw [lifetimes, h, lifetimes]

theorem lifetimes_attempt (id attempts : ℕ) (lockedUntil : Option ℕ) :
    lifetimes ((Cmd.attemptOtp id attempts lockedUntil).exec s) = lifetimes s :=
  Table.map_updateMany (OtpCode.id_attempt attempts lockedUntil) fun _ => rfl

theorem lifetimes_insert {messageId : Option String}
    (h : s'.otpCodes = s.otpCodes.insert (newOtp env s phone messageId)) :
    lifetimes s' = lifetimes s ++ [lifetime (newOtp env s phone messageId)] := by
  have hfresh : s.otpCodes.find? (newOtp env s phone messageId).id = none := find?_newOtpId s
  rw [lifetimes, h, Table.rows_insert hfresh, List.map_append]
  rfl

/-- A lifetime after a login. -/
theorem mem_lifetimes_consume {id : ℕ} (h : l ∈ lifetimes ((Cmd.consumeOtp id).exec s)) :
    l.consumedAt ≠ none ∨ ∃ row ∈ s.otpCodes.rows, row.id ≠ id ∧ lifetime row = l := by
  obtain ⟨row, hrow, rfl⟩ := List.mem_map.mp h
  obtain ⟨row, hmem, rfl⟩ := List.mem_map.mp hrow
  by_cases hid : row.id = id
  · left
    simp [lifetime, OtpCode.consume, hid]
  · exact Or.inr ⟨row, hmem, hid, by simp [hid]⟩

/-- Other records keep their lifetimes. -/
theorem mem_lifetimes_consume_of_ne {id : ℕ} (h : otp ∈ s.otpCodes.rows) (hid : otp.id ≠ id) :
    lifetime otp ∈ lifetimes ((Cmd.consumeOtp id).exec s) := by
  refine mem_lifetimes (List.mem_map.mpr ⟨otp, h, ?_⟩)
  simp [hid]

theorem Dead.mono (h : Dead s l) (hmem : ∀ l' ∈ lifetimes s, l' ∈ lifetimes s')
    (hnow : s.now ≤ s'.now) : Dead s' l := by
  cases h with
  | consumed h => exact .consumed h
  | expired h => exact .expired (by omega)
  | shadowed l' hl' hphone hpending hlater =>
    exact .shadowed l' (hmem l' hl') hphone hpending hlater

/-- The last code of the phone, if it is not expired, is not dead. -/
theorem not_dead_of_pendingOtp? (h : s.pendingOtp? phone = some otp) (hexpires : s.now ≤ otp.expiresAt) :
    ¬ Dead s (lifetime otp) := by
  obtain ⟨-, hphone, hpending⟩ := mem_of_pendingOtp? h
  intro hdead
  cases hdead with
  | consumed hconsumed => exact hconsumed hpending
  | expired hexpired =>
    have : otp.expiresAt < s.now := hexpired
    omega
  | shadowed l' hl' hphone' hpending' hlater =>
    obtain ⟨row, hrow, rfl⟩ := List.mem_map.mp hl'
    have hmem : row ∈ s.pendingOtps phone := by
      refine List.mem_filter.mpr ⟨hrow, ?_⟩
      have hrowPhone : row.phone = phone := Eq.trans hphone' hphone
      have hrowPending : row.consumedAt = none := hpending'
      simp [hrowPhone, hrowPending]
    obtain ⟨last, hlast, hle⟩ := exists_lastOtp hmem
    have hsame : last = otp := Option.some.inj (hlast.symm.trans h)
    have hlt : otp.createdAt < row.createdAt := hlater
    rw [hsame] at hle
    omega

end Lifetimes

/-! ### The invariant -/

/-- Records that are earlier than a code that was sent or has logged in are dead. -/
structure Kept (env : AuthEnv) (past : List (Store × Call)) (s : Store) : Prop where
  created : ∀ l ∈ lifetimes s, l.createdAt ≤ s.now
  marked : ∀ e ∈ past, ∀ later, Sends env e later ∨ LogsIn env e later → later.createdAt ≤ s.now
  dead : ∀ e ∈ past, ∀ later, Sends env e later ∨ LogsIn env e later → ∀ l ∈ lifetimes s,
    l.phone = later.phone → l.createdAt < later.createdAt → Dead s l

section Invariant

variable {env : AuthEnv} {past : List (Store × Call)} {s s' : Store} {call : Call} {phone : String}

/-- A call that leaves the lifetimes, and neither sends a code nor logs in. -/
theorem Kept.same (h : Kept env past s) (hsame : lifetimes s' = lifetimes s) (hnow : s.now ≤ s'.now)
    (hnone : ∀ later, ¬ (Sends env (s, call) later ∨ LogsIn env (s, call) later)) :
    Kept env (past ++ [(s, call)]) s' where
  created l hl := by
    rw [hsame] at hl
    exact (h.created l hl).trans hnow
  marked e he later hlater := by
    rcases List.mem_append.mp he with hold | hnew
    · exact (h.marked e hold later hlater).trans hnow
    · obtain rfl := List.mem_singleton.mp hnew
      exact absurd hlater (hnone later)
  dead e he later hlater l hl hphone hlt := by
    rw [hsame] at hl
    rcases List.mem_append.mp he with hold | hnew
    · refine (h.dead e hold later hlater l hl hphone hlt).mono (fun l' hl' => ?_) hnow
      rwa [hsame]
    · obtain rfl := List.mem_singleton.mp hnew
      exact absurd hlater (hnone later)

/-- A call that adds a record: no other code is sent. -/
theorem Kept.insert (h : Kept env past s) {messageId : Option String}
    (hotps : s'.otpCodes = s.otpCodes.insert (newOtp env s phone messageId)) (hnow : s.now ≤ s'.now)
    (hsends : ∀ later, Sends env (s, call) later ∨ LogsIn env (s, call) later →
      later = newOtp env s phone messageId) : Kept env (past ++ [(s, call)]) s' := by
  have hrows := lifetimes_insert hotps
  have hmem : ∀ l ∈ lifetimes s', l ∈ lifetimes s ∨ l = lifetime (newOtp env s phone messageId) := by
    intro l hl
    rw [hrows, List.mem_append, List.mem_singleton] at hl
    exact hl
  have hmono : ∀ l ∈ lifetimes s, l ∈ lifetimes s' := by
    intro l hl
    rw [hrows]
    exact List.mem_append_left _ hl
  refine ⟨fun l hl => ?_, fun e he later hlater => ?_, fun e he later hlater l hl hphone hlt => ?_⟩
  · rcases hmem l hl with hold | rfl
    · exact (h.created l hold).trans hnow
    · exact hnow
  · rcases List.mem_append.mp he with hold | hnew
    · exact (h.marked e hold later hlater).trans hnow
    · obtain rfl := List.mem_singleton.mp hnew
      rw [hsends later hlater]
      exact hnow
  · rcases List.mem_append.mp he with hold | hnew
    · rcases hmem l hl with hl | rfl
      · exact (h.dead e hold later hlater l hl hphone hlt).mono hmono hnow
      · -- a code that was sent or has logged in is not later than the new record
        have hle := h.marked e hold later hlater
        have hnew : s.now < later.createdAt := hlt
        omega
    · obtain rfl := List.mem_singleton.mp hnew
      obtain rfl := hsends later hlater
      rcases hmem l hl with hl | rfl
      · -- the new record is the last
        refine .shadowed (lifetime (newOtp env s phone messageId)) ?_ hphone.symm rfl hlt
        rw [hrows]
        exact List.mem_append_right _ List.mem_cons_self
      · exact absurd hlt (lt_irrefl _)

/-- A login consumes the last code of the phone, and the others are expired. -/
theorem Kept.consume (h : Kept env past s) {otp : OtpCode} (hotp : s.pendingOtp? phone = some otp)
    (hothers : ∀ other ∈ s.pendingOtps phone, other.id ≠ otp.id → other.expiresAt < s.now)
    (hotps : s'.otpCodes = ((Cmd.consumeOtp otp.id).exec s).otpCodes) (hnow : s.now ≤ s'.now)
    (hlogs : ∀ later, Sends env (s, call) later ∨ LogsIn env (s, call) later → later = otp) :
    Kept env (past ++ [(s, call)]) s' := by
  obtain ⟨hrow, hphoneOtp, -⟩ := mem_of_pendingOtp? hotp
  have hcreatedOtp : otp.createdAt ≤ s.now :=
    h.created (lifetime otp) (mem_lifetimes (Table.mem_of_find? hrow))
  have hrows := lifetimes_congr hotps
  -- a record of the phone is consumed or expired
  have hphone : ∀ l ∈ lifetimes s', l.phone = phone → Dead s' l := by
    intro l hl hl'
    rw [hrows] at hl
    rcases mem_lifetimes_consume hl with hconsumed | ⟨row, hmem, hid, rfl⟩
    · exact .consumed hconsumed
    · by_cases hpending : row.consumedAt = none
      · have hrowPhone : row.phone = phone := hl'
        have hexpired := hothers row (List.mem_filter.mpr ⟨hmem, by simp [hrowPhone, hpending]⟩) hid
        exact .expired (Nat.lt_of_lt_of_le hexpired hnow)
      · exact .consumed hpending
  refine ⟨fun l hl => ?_, fun e he later hlater => ?_, fun e he later hlater l hl hl' hlt => ?_⟩
  · rw [hrows] at hl
    obtain ⟨row, hrow, rfl⟩ := List.mem_map.mp hl
    obtain ⟨row, hmem, rfl⟩ := List.mem_map.mp hrow
    have hcreated : row.createdAt ≤ s.now := h.created (lifetime row) (mem_lifetimes hmem)
    have hsame : (lifetime (if decide (row.id = otp.id) then row.consume s.now else row)).createdAt =
      row.createdAt := by split_ifs <;> rfl
    rw [hsame]
    exact hcreated.trans hnow
  · rcases List.mem_append.mp he with hold | hnew
    · exact (h.marked e hold later hlater).trans hnow
    · obtain rfl := List.mem_singleton.mp hnew
      rw [hlogs later hlater]
      exact hcreatedOtp.trans hnow
  · by_cases hsame : l.phone = phone
    · exact hphone l hl hsame
    · rcases List.mem_append.mp he with hold | hnew
      · rw [hrows] at hl
        rcases mem_lifetimes_consume hl with hconsumed | ⟨row, hmem, hid, rfl⟩
        · exact .consumed hconsumed
        · -- what makes a record of another phone dead is not the code that is consumed
          cases h.dead e hold later hlater (lifetime row) (mem_lifetimes hmem) hl' hlt with
          | consumed hconsumed => exact .consumed hconsumed
          | expired hexpired => exact .expired (Nat.lt_of_lt_of_le hexpired hnow)
          | shadowed l' hl' hphone' hpending hlater' =>
            obtain ⟨row', hmem', rfl⟩ := List.mem_map.mp hl'
            refine .shadowed (lifetime row') ?_ hphone' hpending hlater'
            rw [hrows]
            refine mem_lifetimes_consume_of_ne hmem' fun hid' => hsame ?_
            have heq : row' = otp :=
              Table.eq_of_mem_of_key_eq hmem' (Table.mem_of_find? hrow) hid'
            rw [← hphone', heq]
            exact hphoneOtp
      · obtain rfl := List.mem_singleton.mp hnew
        rw [hlogs later hlater, hphoneOtp] at hl'
        exact absurd hl' hsame

/-- A call of a run. -/
theorem Kept.play (hlegacy : ∀ app, useJulakai env app = false) (h : Kept env past s)
    (hadmits : LeavesNone env s call) : Kept env (past ++ [(s, call)]) (call.play env s).2.store := by
  have hnow : s.now ≤ (call.play env s).2.store.now := now_le_play env call s
  by_cases hrequest : ∃ rawPhone app, call = .requestOtp rawPhone app
  · obtain ⟨rawPhone, app, rfl⟩ := hrequest
    obtain ⟨r, hcase, hr⟩ := requestCase hlegacy rawPhone app s
    -- a request that throws sends nothing
    have hfailed : (∃ e, r = .error e) → ∀ later, ¬ (Sends env (s, .requestOtp rawPhone app) later ∨
        LogsIn env (s, .requestOtp rawPhone app) later) := by
      rintro ⟨e, rfl⟩ later (⟨_, _, -, hok, -⟩ | ⟨_, _, _, hcall, -⟩)
      · rw [show ((Call.requestOtp rawPhone app).play env s).1 = _ from hr] at hok
        cases hok
      · cases hcall
    cases hcase with
    | refused _ he hotps => exact h.same (lifetimes_congr hotps) hnow (hfailed he)
    | rolledBack _ _ _ _ he hotps =>
      obtain ⟨message, he⟩ := he
      exact h.same (lifetimes_congr hotps) hnow (hfailed ⟨_, he⟩)
    | unavailable message _ _ he hotps =>
      exact h.insert hotps hnow fun later hlater => absurd hlater (hfailed ⟨_, he⟩ later)
    | sent smsMessageId _ _ _ hotps =>
      refine h.insert hotps hnow fun later hlater => ?_
      rcases hlater with ⟨_, _, -, -, hrow⟩ | ⟨_, _, _, hcall, -⟩
      · have hnew : (s.otpCodes.insert (newOtp env s (normalizePhone rawPhone) smsMessageId)).find?
            s.newOtpId = some later := by
          rw [← hotps]
          exact hrow
        rw [find?_newOtp] at hnew
        exact (Option.some.inj hnew).symm
      · cases hcall
  · by_cases hverify : ∃ rawPhone code app, call = .verifyOtp rawPhone code app
    · obtain ⟨rawPhone, code, app, rfl⟩ := hverify
      obtain ⟨r, hcase, hr⟩ := verifyCase hlegacy rawPhone code app s
      have hfailed : (∃ e, r = .error e) → ∀ later, ¬ (Sends env (s, .verifyOtp rawPhone code app) later ∨
          LogsIn env (s, .verifyOtp rawPhone code app) later) := by
        rintro ⟨e, rfl⟩ later (⟨_, _, hcall, -⟩ | ⟨_, _, _, -, hok, -⟩)
        · cases hcall
        · rw [show ((Call.verifyOtp rawPhone code app).play env s).1 = _ from hr] at hok
          cases hok
      cases hcase with
      | refused e he _ hotps => exact h.same (lifetimes_congr hotps) hnow (hfailed ⟨e, he⟩)
      | attempted otp _ _ e he _ hotps =>
        refine h.same ?_ hnow (hfailed ⟨e, he⟩)
        rw [lifetimes_congr hotps]
        exact lifetimes_attempt _ _ _
      | consumed otp hotp _ hotps =>
        obtain ⟨hpending, -⟩ := accepted?_eq_some_iff.mp hotp
        refine h.consume hpending (hadmits otp hotp) hotps hnow fun later hlater => ?_
        rcases hlater with ⟨_, _, hcall, -⟩ | ⟨_, _, _, hcall, -, hlast⟩
        · cases hcall
        · obtain ⟨rfl, rfl, rfl⟩ := Call.verifyOtp.inj hcall
          exact Option.some.inj (hlast.symm.trans hpending)
    · refine h.same (lifetimes_congr (otpCodes_play
        (fun rawPhone app hcall => hrequest ⟨rawPhone, app, hcall⟩)
        fun rawPhone code app hcall => hverify ⟨rawPhone, code, app, hcall⟩)) hnow fun later hlater => ?_
      rcases hlater with ⟨rawPhone, app, hcall, -⟩ | ⟨rawPhone, code, app, hcall, -⟩
      · exact hrequest ⟨rawPhone, app, hcall⟩
      · exact hverify ⟨rawPhone, code, app, hcall⟩

end Invariant

end Superseded

/-- With the codes of the program itself, in every run in which no login leaves a code of the phone that is
not expired, no call logs in with a superseded code. -/
theorem superseded_codes_dead (env : AuthEnv) (hlegacy : ∀ app, useJulakai env app = false) (s : Store)
    (hpast : ∀ otp ∈ s.otpCodes.rows, otp.createdAt ≤ s.now) (calls : List Call)
    (hadmits : ∀ e ∈ history env s calls, LeavesNone env e.1 e.2) (rawPhone code : String)
    (app : JulakaiApp) (otp : OtpCode)
    (hlogs : LogsIn env (playAll env s calls, .verifyOtp rawPhone code app) otp) :
    ¬ Superseded env (history env s calls) otp := by
  have hstart : Superseded.Kept env [] s := by
    refine ⟨fun l hl => ?_, fun e he => ?_, fun e he => ?_⟩
    · obtain ⟨row, hrow, rfl⟩ := List.mem_map.mp hl
      exact hpast row hrow
    · exact absurd he List.not_mem_nil
    · exact absurd he List.not_mem_nil
  have hkept : Superseded.Kept env (history env s calls) (playAll env s calls) :=
    playAll_induction (fun _ _ _ hkept hleaves => Superseded.Kept.play hlegacy hkept hleaves) hadmits
      hstart
  rintro ⟨e, he, later, hlater, hphone, hlt⟩
  obtain ⟨_, _, _, hcall, hok, hlast⟩ := hlogs
  obtain ⟨rfl, rfl, rfl⟩ := Call.verifyOtp.inj hcall
  obtain ⟨r, hcase, hr⟩ := verifyCase hlegacy rawPhone code app (playAll env s calls)
  have hexpires : (playAll env s calls).now ≤ otp.expiresAt := by
    have hfailed : ∀ e, r ≠ .error e := by
      rintro e rfl
      rw [show ((Call.verifyOtp rawPhone code app).play env (playAll env s calls)).1 = _ from hr] at hok
      cases hok
    cases hcase with
    | refused e he => exact absurd he (hfailed e)
    | attempted _ _ _ e he => exact absurd he (hfailed e)
    | consumed otp' hotp =>
      obtain ⟨hpending, -, hle, -⟩ := accepted?_eq_some_iff.mp hotp
      obtain rfl := Option.some.inj (hpending.symm.trans hlast)
      exact hle
  have hmem : otp ∈ (playAll env s calls).otpCodes.rows :=
    Table.mem_of_find? (mem_of_pendingOtp? hlast).1
  exact Superseded.not_dead_of_pendingOtp? hlast hexpires
    (hkept.dead e he later hlater _ (Superseded.mem_lifetimes hmem) hphone.symm hlt)

/-! ### Runs -/

namespace Superseded

open Town

/-- Codes are numbered. -/
def numbered : AuthEnv := { env with randomInt := fun min _ s => min + s.externalCalls }

/-- The first code is expired when the second one logs in. -/
def late : List Call :=
  [.requestOtp "70000001" .client, .wait 360000, .requestOtp "70000001" .client,
    .verifyOtp "70000001" "1003" .client, .wait 60000, .requestOtp "70000001" .client]

/-- The second code logs in a minute after the first one. -/
def soon : List Call :=
  [.requestOtp "70000001" .client, .wait 60000, .requestOtp "70000001" .client,
    .verifyOtp "70000001" "1003" .client]

def first : OtpCode where
  id := 1
  phone := "+22370000001"
  codeHash := "1000"
  expiresAt := 300000
  createdAt := 0

def second : OtpCode where
  id := 2
  phone := "+22370000001"
  codeHash := "1003"
  expiresAt := 360000
  createdAt := 60000

def third : OtpCode where
  id := 3
  phone := "+22370000001"
  codeHash := "1008"
  userId := some 1
  expiresAt := 720000
  createdAt := 420000

end Superseded

open Superseded in
theorem superseded_codes_dead_late : ¬ Superseded numbered (history numbered {} late) third := by
  refine superseded_codes_dead numbered (fun _ => rfl) {} (fun _ h => absurd h List.not_mem_nil) late
    (by decide +kernel) "70000001" "1008" .driver third ?_
  exact ⟨_, _, _, rfl, by decide +kernel, by decide +kernel⟩

open Superseded in
/-- The first code logs in after the second one. -/
theorem superseded_code_logs_in :
    LogsIn numbered (playAll numbered {} soon, .verifyOtp "70000001" "1000" .client) first ∧
      Superseded numbered (history numbered {} soon) first := by
  refine ⟨⟨_, _, _, rfl, by decide +kernel, by decide +kernel⟩, ?_⟩
  refine ⟨(playAll numbered {} (soon.take 3), .verifyOtp "70000001" "1003" .client), ?_, second, ?_,
    rfl, by decide⟩
  · exact List.mem_of_getElem? (i := 3) rfl
  · exact Or.inr ⟨_, _, _, rfl, by decide +kernel, by decide +kernel⟩

end Telima.Auth
