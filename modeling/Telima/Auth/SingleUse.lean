import Telima.Async.OneShot
import Telima.Auth.Threads

/-!
# A code logs in once

`verifyOtp` reads the last code that is not consumed, compares it, and consumes it one await later
whatever has happened in between.  So two calls that read the code before either consumes it both log
in.  If no other call has consumed a code since the call that consumes it has read it, then at most one
call logs in with a code (`code_logs_in_once`).
-/

namespace Telima.Auth

open AuthService

/-- No call has consumed the code since the call that consumes it has read it. -/
def NotConsumedSince (i : ℕ) (w : World Store Cmd) : Cmd → Prop
  | .consumeOtp id => ∀ e ∈ w.since i Cmd.readsOtp, e.kind ≠ .did (.consumeOtp id)
  | _ => True

namespace SingleUse

/-- The codes, as records that are looked up and consumed. -/
def oneShot : OneShot system ℕ where
  reads := Cmd.readsOtp
  mark := .consumeOtp
  isOpen id s := ∃ row, s.otpCodes.find? id = some row ∧ row.consumedAt = none
  known id s := s.Used id
  admits c s := c.deletesUsed s
  quiet := system_handlers
  reads_mark _ := rfl
  known_exec hc h := h.exec hc
  isOpen_of_exec := by
    rintro c s id - hknown ⟨row, hrow, hconsumed⟩
    rcases Cmd.unconsumed_exec hrow hconsumed with hnew | ⟨-, hopen⟩
    · exact absurd hnew hknown.ne_newOtpId
    · exact hopen
  not_isOpen_mark := by
    rintro s id hknown ⟨row, hrow, hconsumed⟩
    rcases Cmd.unconsumed_exec hrow hconsumed with hnew | ⟨hne, -⟩
    · exact absurd hnew hknown.ne_newOtpId
    · exact hne rfl

theorem unmarked {i : ℕ} {w : World Store Cmd} {c : Cmd} (h : NotConsumedSince i w c) :
    oneShot.Unmarked i w c := by
  rintro id rfl
  exact h

def protocol (fault : Error → Prop) : Protocol system := oneShot.protocol NotConsumedSince unmarked fault

/-- The call has read the code of the phone. -/
structure HasRead (phone : String) (otp : OtpCode) (i : ℕ) (w : World Store Cmd) : Prop where
  read : ∃ s, w.lastRead i Cmd.readsOtp = some s ∧ s.pendingOtp? phone = some otp
  used : w.store.Used otp.id

/-- What a call leaves: a call that returns tokens for a code has read and consumed it. -/
def LoggedIn (calls : List Call) (i : ℕ) (r : Except Error (Option TokenPair)) (w : World Store Cmd) :
    Prop :=
  ∀ rawPhone code app tokens, calls[i]? = some (.verifyOtp rawPhone code app) → r = .ok (some tokens) →
    ∃ otp, HasRead (normalizePhone rawPhone) otp i w ∧ w.Did i (· = .consumeOtp otp.id)

section Threads

variable {fault : Error → Prop} {i : ℕ} {phone : String} {otp : OtpCode} {w : World Store Cmd}
  {env : AuthEnv}

theorem HasRead.step {j n : ℕ} {c : Cmd} (h : HasRead phone otp i w) (hc : j ≠ i ∨ c.readsOtp = false)
    (hdeletes : c.deletesUsed w.store) : HasRead phone otp i (w.step system j c n) where
  read := by
    rw [World.lastRead_step_of_not hc]
    exact h.read
  used := by
    rw [World.store_step]
    exact h.used.exec hdeletes

theorem stable_hasRead : (protocol fault).Stable i (HasRead phone otp i) := by
  rintro w _ ⟨j, c, n, hj, -, -, -, -, -, hguar, rfl⟩ h
  exact h.step (Or.inl hj) hguar.1

/-- A command that consumes no code. -/
theorem guards_of_ne {c : Cmd} (hdeletes : c.deletesUsed w.store) (hc : ∀ id, c ≠ .consumeOtp id) :
    oneShot.Guards i w c :=
  ⟨hdeletes, fun id h => absurd h (hc id)⟩

theorem guards_of_isAccount {c : Cmd} (hc : c.isAccount = true) : oneShot.Guards i w c := by
  refine guards_of_ne ?_ fun id h => by subst h; cases hc
  cases c <;> trivial

theorem frame_account (fault : Error → Prop) {A : World Store Cmd → Prop} (hA : (protocol fault).Stable i A)
    (hstep : ∀ w c n, c.isAccount = true → A w → A (w.step system i c n)) :
    (protocol fault).Frame i (fun c => c.isAccount = true) A where
  stable := hA
  performs hc hw _ _ := ⟨guards_of_isAccount hc, fun n _ _ => hstep _ _ n hc hw⟩

theorem Cmd.readsOtp_of_isAccount {c : Cmd} (h : c.isAccount = true) : c.readsOtp = false := by
  cases c <;> first | rfl | cases h

theorem Cmd.deletesUsed_of_isAccount {c : Cmd} {s : Store} (h : c.isAccount = true) :
    c.deletesUsed s := by
  cases c <;> trivial

theorem HasRead.guards (h : HasRead phone otp i w) :
    oneShot.Guards i w (.consumeOtp otp.id) := by
  obtain ⟨s, hread, hotp⟩ := h.read
  obtain ⟨hrow, -, hconsumed⟩ := mem_of_pendingOtp? hotp
  refine ⟨trivial, fun id hid => ?_⟩
  obtain rfl := Cmd.consumeOtp.inj hid
  exact ⟨⟨s, hread, otp, hrow, hconsumed⟩, h.used⟩

/-- A call that returns tokens has read the code it presents, and consumed it. -/
theorem wp_verifyOtp (hlegacy : ∀ app, useJulakai env app = false) (rawPhone code : String)
    (app : JulakaiApp) :
    (protocol fault).wp i (verifyOtp env rawPhone code app) (fun r w => ∀ login, r = .ok login →
      ∃ otp, HasRead (normalizePhone rawPhone) otp i w ∧ w.Did i (· = .consumeOtp otp.id)) w := by
  set phone := normalizePhone rawPhone with hphone
  have hkeep : ∀ otp c w, (∀ id, c ≠ .consumeOtp id) → c.readsOtp = false → c.deletesUsed w.store →
      HasRead phone otp i w → (protocol fault).Performs i c w (HasRead phone otp i) :=
    fun otp c w hne hread hdeletes h _ =>
      ⟨guards_of_ne hdeletes hne, fun _ _ _ => h.step (Or.inr hread) hdeletes⟩
  have hstable : ∀ otp, (protocol fault).Stable i (HasRead phone otp i) := fun _ => stable_hasRead
  refine Auth.wp_verifyOtp (fun _ => True) (HasRead phone · i) (HasRead phone · i) (HasRead phone · i)
    (fun otp _ => HasRead phone otp i) (HasRead phone · i) (hlegacy app) (fun _ _ _ => nofun)
    (Protocol.stable_const i True) hstable hstable hstable (fun otp _ => hstable otp) hstable ?_ ?_ ?_ ?_ ?_ ?_ ?_ trivial
  · intro w _ _ _
    refine ⟨guards_of_ne trivial fun _ => nofun, fun n _ _ otp hotp => ?_⟩
    refine ⟨⟨w.store, World.lastRead_step_self rfl, hotp⟩, ?_⟩
    rw [World.store_step]
    exact Store.Used.exec (Or.inl (by rw [(mem_of_pendingOtp? hotp).1]; rfl)) trivial
  · intro otp w h _ hcond
    obtain ⟨hguar, hnext⟩ := hkeep otp .date w (fun _ => nofun) rfl trivial h hcond
    exact ⟨hguar, fun n hn hfresh _ => hnext n hn hfresh⟩
  · exact fun otp w h _ => hkeep otp _ w (fun _ => nofun) rfl trivial h
  · exact fun otp w _ h _ => hkeep otp .date w (fun _ => nofun) rfl trivial h
  · exact fun otp _ w h _ _ => ⟨guards_of_ne trivial fun _ => nofun, fun _ _ _ => trivial⟩
  · exact fun otp w _ h _ => hkeep otp .date w (fun _ => nofun) rfl trivial h
  · intro otp w h _ _
    refine ⟨h.guards, fun n _ _ => ?_⟩
    have hdone : HasRead phone otp i (w.step system i (.consumeOtp otp.id) n) ∧
        (w.step system i (.consumeOtp otp.id) n).Did i (· = .consumeOtp otp.id) :=
      ⟨h.step (Or.inr rfl) trivial, World.did_step.mpr (Or.inl ⟨rfl, rfl⟩)⟩
    have hframe := frame_account fault (A := fun w => HasRead phone otp i w ∧ w.Did i (· = .consumeOtp otp.id))
      (stable_hasRead.and (Protocol.stable_did i _)) fun w c n hc hw =>
        ⟨hw.1.step (Or.inr (Cmd.readsOtp_of_isAccount hc)) (Cmd.deletesUsed_of_isAccount hc),
          World.did_step.mpr (Or.inr hw.2)⟩
    exact Protocol.wp_mono (fun r w hw _ _ => ⟨otp, hw⟩)
      (hframe.wp (account_completeLogin env phone) hdone)

theorem stable_loggedIn (calls : List Call) (r : Except Error (Option TokenPair)) :
    (protocol fault).Stable i (LoggedIn calls i r) := by
  intro w w' hother hw rawPhone code app tokens hcall hr
  obtain ⟨otp, hread, hdid⟩ := hw rawPhone code app tokens hcall hr
  exact ⟨otp, stable_hasRead hother hread, Protocol.stable_did i _ hother hdid⟩

theorem wp_program (hlegacy : ∀ app, useJulakai env app = false) {calls : List Call} {call : Call}
    (h : calls[i]? = some call) :
    (protocol fault).wp i (call.program env) (LoggedIn calls i) w := by
  -- only `verifyOtp` has anything to show
  have hother : (∀ rawPhone code app, call ≠ .verifyOtp rawPhone code app) →
      (protocol fault).Keeps i (call.program env) →
        (protocol fault).wp i (call.program env) (LoggedIn calls i) w := by
    intro hverify hkeeps
    refine Protocol.wp_mono (fun r w _ rawPhone code app tokens hcall _ => ?_) (hkeeps w)
    rw [h] at hcall
    exact absurd (Option.some.inj hcall) (hverify rawPhone code app)
  by_cases hverify : ∃ rawPhone code app, call = .verifyOtp rawPhone code app
  · obtain ⟨rawPhone, code, app, rfl⟩ := hverify
    apply Protocol.wp_bind
    refine Protocol.wp_mono ?_ (wp_verifyOtp hlegacy rawPhone code app)
    rintro (e | login) w hw rawPhone' code' app' tokens hcall hr
    · cases hr
    · rw [h] at hcall
      obtain ⟨rfl, -, -⟩ := Call.verifyOtp.inj (Option.some.inj hcall)
      exact hw login rfl
  · have hverify' : ∀ rawPhone code app, call ≠ .verifyOtp rawPhone code app :=
      fun rawPhone code app hcall => hverify ⟨rawPhone, code, app, hcall⟩
    refine hother hverify' (keeps_program (fun w c => guards_of_isAccount) (fun w c hc => ?_) ?_ hverify')
    · refine guards_of_ne ?_ fun id hid => by subst hid; cases hc
      cases c <;> trivial
    · exact fun w id hid => guards_of_ne hid fun _ => nofun

end Threads

end SingleUse

/-- The record whose code a call of `verifyOtp` has presented. -/
def matched? (env : AuthEnv) (calls : List Call) (w : World Store Cmd) (i : ℕ) : Option OtpCode :=
  match calls[i]? with
  | some (.verifyOtp rawPhone code _) =>
    ((w.lastRead i Cmd.readsOtp).bind fun s => s.pendingOtp? (normalizePhone rawPhone)).filter
      fun otp => env.bcryptCompare code otp.codeHash
  | _ => none

/-- The call has presented the code of the record, and has returned tokens. -/
def LogsInWith (env : AuthEnv) (calls : List Call) (q : Pool Store Cmd Error (Option TokenPair))
    (id i : ℕ) : Prop :=
  (matched? env calls q.world i).map OtpCode.id = some id ∧ (returned? q i).isSome = true

instance (env : AuthEnv) (calls : List Call) (q : Pool Store Cmd Error (Option TokenPair)) (id i : ℕ) :
    Decidable (LogsInWith env calls q id i) :=
  inferInstanceAs (Decidable (_ ∧ _))

theorem exists_verifyOtp_of_matched? {env : AuthEnv} {calls : List Call} {w : World Store Cmd} {i : ℕ}
    {otp : OtpCode} (h : matched? env calls w i = some otp) :
    ∃ rawPhone code app read, calls[i]? = some (.verifyOtp rawPhone code app) ∧
      w.lastRead i Cmd.readsOtp = some read ∧ read.pendingOtp? (normalizePhone rawPhone) = some otp := by
  unfold matched? at h
  split at h
  · next rawPhone code app hcall =>
    obtain ⟨hfound, -⟩ := Option.filter_eq_some_iff.mp h
    obtain ⟨read, hread, hotp⟩ := Option.bind_eq_some_iff.mp hfound
    exact ⟨rawPhone, code, app, read, hcall, hread, hotp⟩
  · cases h

/-- With the codes of the program itself, at most one call logs in with a code, in every run in which no
call consumes a code that another call has consumed since this call has read it. -/
theorem code_logs_in_once (env : AuthEnv) (hlegacy : ∀ app, useJulakai env app = false)
    (fault : Error → Prop) (s : Store) (calls : List Call)
    {q : Pool Store Cmd Error (Option TokenPair)}
    (hrun : Pool.Run system NotConsumedSince fault (start env s calls) q) (id i j : ℕ)
    (hi : LogsInWith env calls q id i) (hj : LogsInWith env calls q id j) : i = j := by
  have hsafe : (SingleUse.protocol fault).Safe (SingleUse.LoggedIn calls) q :=
    safe_of_run (P := SingleUse.protocol fault) (fun _ r => SingleUse.stable_loggedIn calls r)
      (OneShot.markedOnce_init s) (fun _ _ hcall => SingleUse.wp_program hlegacy hcall) hrun
  have hconsumed : ∀ k, LogsInWith env calls q id k → q.world.Did k (· = .consumeOtp id) := by
    rintro k ⟨hmatched, hreturned⟩
    obtain ⟨otp, hotp, rfl⟩ := Option.map_eq_some_iff.mp hmatched
    obtain ⟨rawPhone, code, app, read, hcall, hread, hpending⟩ := exists_verifyOtp_of_matched? hotp
    obtain ⟨tokens, htokens⟩ := Option.isSome_iff_exists.mp hreturned
    obtain ⟨otp', ⟨⟨read', hread', hpending'⟩, -⟩, hdid⟩ :=
      hsafe.threads (done_of_returned? htokens) rawPhone code app tokens hcall rfl
    obtain rfl := Option.some.inj (hread.symm.trans hread')
    obtain rfl := Option.some.inj (hpending.symm.trans hpending')
    exact hdid
  obtain ⟨e, he, rfl, _, hkind, rfl⟩ := hconsumed i hi
  obtain ⟨e', he', rfl, _, hkind', rfl⟩ := hconsumed j hj
  exact hsafe.inv.once id e he e' he' hkind hkind'

/-! ### Runs -/

instance (i : ℕ) (w : World Store Cmd) (c : Cmd) : Decidable (NotConsumedSince i w c) := by
  unfold NotConsumedSince
  split <;> infer_instance

namespace SingleUse

/-- The code is presented twice. -/
def twice : List Call :=
  [.verifyOtp "70000001" "1000" .client, .verifyOtp "+223 70 00 00 01" "1000" .driver]

/-- The first call runs to its end before the second one starts. -/
def oneByOne : List ℕ := [0, 0, 0, 0, 0, 0, 0, 0, 0, 0, 1]

/-- Both calls look the code up before either of them consumes it. -/
def together : List ℕ := [0, 0, 1, 1, 0, 0, 0, 0, 0, 0, 0, 0, 1, 1, 1, 1, 1, 1, 1, 1]

end SingleUse

open Town SingleUse in
/-- The second call finds no code. -/
theorem code_logs_in_once_one_by_one :
    ∃ q, LogsInWith env twice q 1 0 ∧ ¬ LogsInWith env twice q 1 1 ∧
      ∀ i, LogsInWith env twice q 1 i → i = 0 := by
  obtain ⟨q, hrun, hfirst, hsecond⟩ := Pool.exists_run_of_schedule? system NotConsumedSince
    (fun _ => False) (start env coded twice) oneByOne
    (fun q => LogsInWith env twice q 1 0 ∧ ¬ LogsInWith env twice q 1 1) (by decide +kernel)
  refine ⟨q, hfirst, hsecond, fun i hi => ?_⟩
  exact code_logs_in_once env (fun _ => rfl) _ coded twice hrun 1 i 0 hi hfirst

open Town SingleUse in
/-- Both calls return tokens. -/
theorem code_logs_in_twice :
    ∃ q, Pool.Run system (fun _ _ _ => True) (fun _ => False) (start env coded twice) q ∧
      LogsInWith env twice q 1 0 ∧ LogsInWith env twice q 1 1 :=
  Pool.exists_run_of_schedule? system (fun _ _ _ => True) (fun _ => False)
    (start env coded twice) together
    (fun q => LogsInWith env twice q 1 0 ∧ LogsInWith env twice q 1 1) (by decide +kernel)

end Telima.Auth
