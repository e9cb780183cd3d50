import Telima.Auth.Logins

/-!
# Tokens are for active accounts

A login looks at `isActive` before it issues tokens; `refresh` does not.  So a user who has been
deactivated keeps obtaining tokens with a refresh token he holds.  If the user a refresh looks up is
active, every pair of tokens is for a user who was active when the call read his row
(`tokens_for_active_users`).
-/

namespace Telima.Auth

open AuthService

/-- The user a refresh looks up is active. -/
def FindsActive (_ : ℕ) (w : World Store Cmd) : Cmd → Prop
  | .findUserById userId => (w.store.users.find? userId).all User.isActive = true
  | _ => True

def User.payload (user : User) : JwtPayload := { sub := user.id, phone := user.phone, role := user.role }

/-- The tokens are signed for the user. -/
def TokenPair.IssuedTo (env : AuthEnv) (user : User) (tokens : TokenPair) : Prop :=
  (∃ s, tokens.accessToken = env.sign .access user.payload s) ∧
    ∃ s, tokens.refreshToken = env.sign .refresh user.payload s

/-- What a call leaves: tokens are for the user it has read last, who was active then. -/
def Issued (env : AuthEnv) (i : ℕ) (r : Except Error (Option TokenPair)) (w : World Store Cmd) :
    Prop :=
  ∀ tokens, r = .ok (some tokens) →
    ∃ user, lastUser w i = some user ∧ user.isActive = true ∧ tokens.IssuedTo env user

namespace Accounts

/-- The calls promise each other nothing. -/
def protocol (fault : Error → Prop) : Protocol system where
  cond := FindsActive
  fault := fault
  inv _ := True
  guar _ _ _ := True
  inv_step _ _ _ _ _ := trivial

section Threads

variable {fault : Error → Prop} {i : ℕ} {user : User} {w : World Store Cmd} {α β : Type}
  (env : AuthEnv)

theorem stable_lastUser : (protocol fault).Stable i fun w => lastUser w i = some user := by
  rintro w _ ⟨j, c, n, hj, -, -, -, -, -, -, rfl⟩ h
  rw [lastUser_step_of_not (Or.inl hj)]
  exact h

/-- Commands that answer no user leave the user that was read. -/
theorem frame_lastUser : (protocol fault).Frame i (fun c => ∀ s, c.user? s = none)
    fun w => lastUser w i = some user where
  stable := stable_lastUser
  performs hc hw _ _ := by
    refine ⟨trivial, fun n _ _ => ?_⟩
    show lastUser _ i = some user
    rw [lastUser_step_of_not (Or.inr (hc _))]
    exact hw

theorem user?_of_issues {c : Cmd} (h : c.issues = true) (s : Store) : c.user? s = none := by
  cases c <;> first | rfl | cases h

theorem yields_issueTokenPair (replacedTokenId : Option ℕ) :
    (issueTokenPair env user.id user.phone user.role replacedTokenId).Yields
      (TokenPair.IssuedTo env user) := by
  refine Async.yields_query_bind.mpr fun s => ?_
  refine Async.yields_query_bind.mpr fun s' => ?_
  have htokens : TokenPair.IssuedTo env user
      { accessToken := env.sign .access user.payload s
        refreshToken := env.sign .refresh user.payload s' } := ⟨⟨s, rfl⟩, ⟨s', rfl⟩⟩
  refine Async.Yields.bind _ fun now => Async.Yields.bind _ fun id => ?_
  cases replacedTokenId with
  | none => exact htokens
  | some id => exact Async.Yields.bind _ fun _ => htokens

/-- Tokens issued to the user whose row was read. -/
theorem wp_issueTokenPair (replacedTokenId : Option ℕ) (hw : lastUser w i = some user) :
    (protocol fault).wp i (issueTokenPair env user.id user.phone user.role replacedTokenId)
      (fun r w => lastUser w i = some user ∧ ∀ tokens, r = .ok tokens → tokens.IssuedTo env user)
      w :=
  frame_lastUser.wp_yields ((only_issueTokenPair env _ _ _ _).mono fun _ => user?_of_issues)
    (yields_issueTokenPair env replacedTokenId) hw

/-- What a call knows of the user it has found. -/
theorem issues (fault : Error → Prop) (i : ℕ) : Issues env (protocol fault) i (fun _ => True)
    (fun user w => lastUser w i = some user)
    (fun user w => lastUser w i = some user ∧ user.isActive = true)
    (fun tokens w => ∃ user, lastUser w i = some user ∧ user.isActive = true ∧
      tokens.IssuedTo env user) where
  search := ⟨Protocol.stable_const i True, fun _ _ _ _ => ⟨trivial, fun _ _ _ => trivial⟩⟩
  stable_found _ := stable_lastUser
  find _ _ _ huser _ _ _ := ⟨trivial, fun _ _ _ => World.lastAnswer_step_self huser⟩
  compare _ _ user w hw _ _ := by
    refine ⟨trivial, fun n _ _ => ?_⟩
    show lastUser _ i = some user
    rw [lastUser_step_of_not (Or.inr rfl)]
    exact hw
  ready _ _ hactive hw := ⟨hw, hactive⟩
  findById userId user w huser _ _ hcond := by
    -- only here the condition is used
    have hactive : (w.store.users.find? userId).all User.isActive = true := hcond
    rw [huser, Option.all_some] at hactive
    exact ⟨trivial, fun n _ _ => ⟨World.lastAnswer_step_self huser, hactive⟩⟩
  issue user replacedTokenId w hw := by
    refine Protocol.wp_mono ?_ (wp_issueTokenPair env replacedTokenId hw.1)
    rintro r w' ⟨hw', htokens⟩ tokens htoken
    exact ⟨user, hw', hw.2, htokens tokens htoken⟩

theorem stable_issued (r : Except Error (Option TokenPair)) :
    (protocol fault).Stable i (Issued env i r) := by
  intro w w' hother hw tokens hr
  obtain ⟨user, hrow, hissued⟩ := hw tokens hr
  exact ⟨user, stable_lastUser hother hrow, hissued⟩

end Threads

end Accounts

/-- In every run in which the users that refreshes look up are active, a call that has returned tokens
has returned them for the user whose row it has read last, and this row was active. -/
theorem tokens_for_active_users (env : AuthEnv) (fault : Error → Prop) (s : Store)
    (calls : List Call) {q : Pool Store Cmd Error (Option TokenPair)}
    (hrun : Pool.Run system FindsActive fault (start env s calls) q) {i : ℕ} {tokens : TokenPair}
    (hreturned : returned? q i = some tokens) :
    ∃ user, lastUser q.world i = some user ∧ user.isActive = true ∧ tokens.IssuedTo env user := by
  have hsafe : (Accounts.protocol fault).Safe (Issued env) q :=
    safe_of_run (fun _ r => Accounts.stable_issued env r) trivial
      (fun i call _ => (Accounts.issues env fault i).wp_program call trivial) hrun
  exact hsafe.threads (done_of_returned? hreturned) tokens rfl

/-! ### Runs -/

instance (i : ℕ) (w : World Store Cmd) (c : Cmd) : Decidable (FindsActive i w c) := by
  unfold FindsActive
  split <;> infer_instance

namespace Accounts

/-- User 1 refreshes his token after an administrator has deactivated him. -/
def deactivated : List Call := [.updateUser 1 { isActive := some false }, .refresh "t"]

end Accounts

open Town in
/-- An active user refreshes his token. -/
theorem tokens_for_active_users_refresh :
    ∃ q, Pool.Run system FindsActive (fun _ => False) (start env store [.refresh "t"]) q ∧
      ∃ tokens user, returned? q 0 = some tokens ∧ lastUser q.world 0 = some user ∧
        user.isActive = true ∧ tokens.IssuedTo env user := by
  obtain ⟨q, hrun, hreturned⟩ := Pool.exists_run_of_schedule? system FindsActive (fun _ => False)
    (start env store [.refresh "t"]) (List.replicate 11 0)
    (fun q => (returned? q 0).isSome = true) (by decide +kernel)
  obtain ⟨tokens, htokens⟩ := Option.isSome_iff_exists.mp hreturned
  obtain ⟨user, huser, hissued⟩ :=
    tokens_for_active_users env _ store _ hrun htokens
  exact ⟨q, hrun, tokens, user, htokens, huser, hissued⟩

open Town Accounts in
/-- A deactivated user refreshes his token. -/
theorem tokens_for_inactive_user :
    ∃ q, Pool.Run system (fun _ _ _ => True) (fun _ => False) (start env store deactivated) q ∧
      (returned? q 1).isSome = true ∧
      (lastUser q.world 1).map User.isActive = some false :=
  Pool.exists_run_of_schedule? system (fun _ _ _ => True) (fun _ => False)
    (start env store deactivated) (0 :: List.replicate 11 1)
    (fun q => (returned? q 1).isSome = true ∧ (lastUser q.world 1).map User.isActive = some false)
    (by decide +kernel)

end Telima.Auth
