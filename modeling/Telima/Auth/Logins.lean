import Telima.Auth.Runs

/-!
# Calls that return tokens

A login and `refresh` look a user up and issue tokens to him.  `Issues` says what a protocol has to admit
for this, and what holds when the tokens are issued then holds of the tokens of every call
(`Issues.wp_program`).
-/

namespace Telima.Auth

open AuthService

/-- The user whose row a command answers. -/
def Cmd.user? : Cmd → Store → Option User
  | findUserByPhone phone, s => s.users.findFirst fun u => decide (u.phone = phone)
  | findUserById userId, s => s.users.find? userId
  | findAdmin email, s =>
    s.users.findFirst fun u => decide (u.email = some email) && decide (u.role = .admin)
  | createUser phone, s =>
    if s.users.rows.any fun user => decide (user.phone = phone) then none
    else some { id := s.users.freshKey, phone }
  | _, _ => none

/-- The user whose row a call has read last. -/
def lastUser (w : World Store Cmd) (i : ℕ) : Option User := w.lastAnswer i Cmd.user?

theorem lastUser_step_of_not {w : World Store Cmd} {i j n : ℕ} {c : Cmd}
    (h : j ≠ i ∨ c.user? w.store = none) : lastUser (w.step system j c n) i = lastUser w i :=
  World.lastAnswer_step_of_not h

/-- The commands before the tokens of a call are signed. -/
def Cmd.precedesTokens : Cmd → Bool
  | .signJwt | .createRefreshToken .. | .replaceToken .. => false
  | _ => true

/-- The tokens of a call satisfy `Issued`: what holds while the call looks for its user, when it has found
him, and when it issues his tokens. -/
structure Issues (env : AuthEnv) (P : Protocol system) (i : ℕ) (Start : World Store Cmd → Prop)
    (Found Ready : User → World Store Cmd → Prop) (Issued : TokenPair → World Store Cmd → Prop) :
    Prop where
  search : P.Frame i (fun c => c.precedesTokens = true) Start
  stable_found : ∀ user, P.Stable i (Found user)
  find : ∀ c user w, c.user? w.store = some user → Start w → P.inv w → P.Performs i c w (Found user)
  compare : ∀ password passwordHash user w, Found user w → P.inv w →
    P.Performs i (.comparePassword password passwordHash) w (Found user)
  /-- A login looks at `isActive`. -/
  ready : ∀ user w, user.isActive = true → Found user w → Ready user w
  findById : ∀ userId user w, w.store.users.find? userId = some user → Start w → P.inv w →
    P.Performs i (.findUserById userId) w (Ready user)
  issue : ∀ user replacedTokenId w, Ready user w →
    P.wp i (issueTokenPair env user.id user.phone user.role replacedTokenId)
      (fun r w => ∀ tokens, r = .ok tokens → Issued tokens w) w

namespace Issues

variable {env : AuthEnv} {P : Protocol system} {i : ℕ} {Start : World Store Cmd → Prop}
  {Found Ready : User → World Store Cmd → Prop} {Issued : TokenPair → World Store Cmd → Prop}
  {w : World Store Cmd} {user : User} {α : Type}

theorem wp_loginUser (h : Issues env P i Start Found Ready Issued) (isNewUser : Bool)
    (hw : Found user w) : P.wp i (loginUser env user isNewUser)
      (fun r w => ∀ login, r = .ok login → Issued login.tokens w) w := by
  unfold loginUser
  by_cases hactive : user.isActive = false
  · rw [if_pos hactive]
    exact fun _ h => by cases h
  · rw [if_neg hactive]
    have hready : Ready user w := h.ready user w (Bool.of_not_eq_false hactive) hw
    apply Protocol.wp_bind
    refine Protocol.wp_mono ?_ (h.issue user none w hready)
    rintro (e | tokens) w htokens
    · exact fun _ h => by cases h
    · intro login hlogin
      obtain rfl := Except.ok.inj hlogin
      exact htokens tokens rfl

theorem wp_completeLogin (h : Issues env P i Start Found Ready Issued) (phone : String)
    (hw : Start w) : P.wp i (completeLogin env phone)
      (fun r w => ∀ login, r = .ok login → Issued login.tokens w) w := by
  refine Protocol.wp_query_bind h.search.stable hw (fun w hw hinv hcond => ?_) fun _ _ _ _ _ _ h => by cases h
  cases hfound : w.store.users.findFirst fun u => decide (u.phone = phone) with
  | some user =>
    obtain ⟨hguar, huser⟩ := h.find (.findUserByPhone phone) user w hfound hw hinv hcond
    exact ⟨hguar, fun n hn hfresh => h.wp_loginUser _ (huser n hn hfresh)⟩
  | none =>
    obtain ⟨hguar, hstart⟩ := h.search.performs (c := .findUserByPhone phone) rfl hw hinv hcond
    refine ⟨hguar, fun n hn hfresh => ?_⟩
    refine Protocol.wp_queryE_bind h.search.stable (hstart n hn hfresh) (fun w hw hinv hcond => ?_)
      fun _ _ _ _ _ _ h => by cases h
    by_cases htaken : (w.store.users.rows.any fun user => decide (user.phone = phone)) = true
    · rw [if_pos htaken]
      exact ⟨(h.search.performs rfl hw hinv hcond).1, fun _ _ _ _ h => by cases h⟩
    · rw [if_neg htaken]
      -- the new row is what the call has read
      have hrow : Cmd.user? (.createUser phone) w.store =
          some { id := w.store.users.freshKey, phone } := if_neg htaken
      obtain ⟨hguar, huser⟩ := h.find _ _ w hrow hw hinv hcond
      exact ⟨hguar, fun n hn hfresh => h.wp_loginUser true (huser n hn hfresh)⟩

theorem wp_verifyOtp (h : Issues env P i Start Found Ready Issued) (rawPhone code : String)
    (app : JulakaiApp) (hw : Start w) : P.wp i (verifyOtp env rawPhone code app)
      (fun r w => ∀ login, r = .ok login → Issued login.tokens w) w := by
  unfold verifyOtp
  dsimp only
  split_ifs
  · refine h.search.wp_bind ?_ hw (fun verified w hw => ?_) fun _ _ _ _ h => by cases h
    · refine Async.Only.bind (only_julakaiCall _ _ rfl) fun res => ?_
      split_ifs <;> trivial
    · split_ifs
      · exact fun _ h => by cases h
      · exact h.wp_completeLogin _ hw
  · refine h.search.wp_bind (Async.only_query.mpr rfl) hw (fun otpRecord w hw => ?_)
      fun _ _ _ _ h => by cases h
    cases otpRecord with
    | none => exact fun _ h => by cases h
    | some otpRecord =>
      refine h.search.wp_bind (Async.only_read.mpr rfl) hw (fun now w hw => ?_) fun _ _ _ _ h => by cases h
      split_ifs
      · exact fun _ h => by cases h
      · exact fun _ h => by cases h
      · refine h.search.wp_bind (Async.only_query.mpr rfl) hw (fun isCodeValid w hw => ?_)
          fun _ _ _ _ h => by cases h
        unfold answerCode
        split_ifs
        · refine h.search.wp_bind (Async.only_read.mpr rfl) hw (fun now w hw => ?_) fun _ _ _ _ h => by cases h
          refine h.search.wp_bind (Async.only_queryE.mpr rfl) hw (fun _ w hw => ?_) fun _ _ _ _ h => by cases h
          split_ifs <;> exact fun _ h => by cases h
        · refine h.search.wp_bind (Async.only_read.mpr rfl) hw (fun now w hw => ?_) fun _ _ _ _ h => by cases h
          exact h.search.wp_bind (Async.only_queryE.mpr rfl) hw
            (fun _ w hw => h.wp_completeLogin _ hw) fun _ _ _ _ h => by cases h

theorem wp_adminLogin (h : Issues env P i Start Found Ready Issued) (email password : String)
    (hw : Start w) : P.wp i (adminLogin env email password)
      (fun r w => ∀ login, r = .ok login → Issued login.tokens w) w := by
  refine Protocol.wp_query_bind h.search.stable hw (fun w hw hinv hcond => ?_) fun _ _ _ _ _ _ h => by cases h
  cases hfound : w.store.users.findFirst fun u =>
      decide (u.email = some email) && decide (u.role = .admin) with
  | none => exact ⟨(h.search.performs rfl hw hinv hcond).1, fun _ _ _ _ h => by cases h⟩
  | some user =>
    obtain ⟨hguar, huser⟩ := h.find (.findAdmin email) user w hfound hw hinv hcond
    refine ⟨hguar, fun n hn hfresh => ?_⟩
    dsimp only
    split
    · exact fun _ h => by cases h
    · split_ifs
      · exact fun _ h => by cases h
      · refine Protocol.wp_query_bind (h.stable_found user) (huser n hn hfresh)
          (fun w hw hinv hcond => ?_) fun _ _ _ _ _ _ h => by cases h
        obtain ⟨hguar, hcompared⟩ := h.compare _ _ user w hw hinv hcond
        refine ⟨hguar, fun n hn hfresh => ?_⟩
        split_ifs
        · exact fun _ h => by cases h
        · exact h.wp_loginUser false (hcompared n hn hfresh)

theorem wp_refresh (h : Issues env P i Start Found Ready Issued) (token : String) (hw : Start w) :
    P.wp i (refresh env token) (fun r w => ∀ tokens, r = .ok tokens → Issued tokens w) w := by
  refine h.search.wp_bind (Async.only_query.mpr rfl) hw (fun payload w hw => ?_) fun _ _ _ _ h => by cases h
  cases payload with
  | none => exact fun _ h => by cases h
  | some payload =>
    refine h.search.wp_bind (Async.only_query.mpr rfl) hw (fun row w hw => ?_) fun _ _ _ _ h => by cases h
    refine h.search.wp_bind (Async.only_read.mpr rfl) hw (fun now w hw => ?_) fun _ _ _ _ h => by cases h
    cases row with
    | none => exact fun _ h => by cases h
    | some row =>
      dsimp only
      split_ifs
      · exact fun _ h => by cases h
      · refine h.search.wp_bind (Async.only_read.mpr rfl) hw (fun _ w hw => ?_) fun _ _ _ _ h => by cases h
        refine h.search.wp_bind (Async.only_queryE.mpr rfl) hw (fun _ w hw => ?_) fun _ _ _ _ h => by cases h
        refine Protocol.wp_queryE_bind h.search.stable hw (fun w hw hinv hcond => ?_)
          fun _ _ _ _ _ _ h => by cases h
        cases hfound : w.store.users.find? payload.sub with
        | none => exact ⟨(h.search.performs rfl hw hinv hcond).1, fun _ _ _ _ h => by cases h⟩
        | some user =>
          obtain ⟨hguar, hready⟩ := h.findById payload.sub user w hfound hw hinv hcond
          exact ⟨hguar, fun n hn hfresh => h.issue user (some row.id) _ (hready n hn hfresh)⟩

/-- The tokens of what a function returns. -/
theorem wp_bind_tokens {f : α → TokenPair} {p : Prog α}
    (hp : P.wp i p (fun r w => ∀ a, r = .ok a → Issued (f a) w) w) :
    P.wp i (p.bind fun a => pure (some (f a)))
      (fun r w => ∀ tokens, r = .ok (some tokens) → Issued tokens w) w := by
  apply Protocol.wp_bind
  refine Protocol.wp_mono ?_ hp
  rintro (e | a) w hw
  · exact fun _ h => by cases h
  · intro tokens htokens
    obtain rfl := Option.some.inj (Except.ok.inj htokens)
    exact hw a rfl

/-- A call that returns no tokens. -/
theorem wp_as_none (h : Issues env P i Start Found Ready Issued) {p : Prog α}
    (hp : p.Only fun c => c.precedesTokens = true) (hw : Start w) : P.wp i (p.as none)
      (fun r w => ∀ tokens, r = .ok (some tokens) → Issued tokens w) w :=
  h.search.wp_bind hp hw (fun _ _ _ _ h => by cases h) fun _ _ _ _ h => by cases h

theorem wp_program (h : Issues env P i Start Found Ready Issued) (call : Call) (hw : Start w) :
    P.wp i (call.program env) (fun r w => ∀ tokens, r = .ok (some tokens) → Issued tokens w) w := by
  cases call with
  | requestOtp rawPhone app =>
    refine h.wp_as_none ((requests_requestOtp env rawPhone app).mono ?_) hw
    rintro c (hc | ⟨id, rfl⟩)
    · cases c <;> first | rfl | cases hc
    · rfl
  | verifyOtp rawPhone code app => exact wp_bind_tokens (h.wp_verifyOtp rawPhone code app hw)
  | adminLogin email password => exact wp_bind_tokens (h.wp_adminLogin email password hw)
  | refresh token => exact wp_bind_tokens (f := id) (h.wp_refresh token hw)
  | logout userId token =>
    exact h.wp_as_none (Async.only_read_bind.mpr ⟨rfl, fun _ => Async.only_perform.mpr rfl⟩) hw
  | updateUser userId dto =>
    exact h.wp_as_none (only_updateUser env userId dto (fun _ => rfl) fun _ _ => rfl) hw
  | wait ms => exact h.wp_as_none (Async.only_perform.mpr rfl) hw

end Issues

end Telima.Auth
