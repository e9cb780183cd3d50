import Telima.Async.Failure
import Telima.Auth.Refreshing

/-!
# A refresh that fails half-way

`refresh` revokes the presented token before it looks the user up, signs the new tokens and stores the new
one.  So a failure of any later step leaves the session without a token that is not revoked; the session is
kept if and only if no later step fails (`keeps_session_iff`).
-/

namespace Telima.Auth

open AuthService

/-- A step of `refresh` after the rotation of the presented token. -/
inductive LaterStep where
  | findUser | signAccessToken | signRefreshToken | createToken | chainToken
  deriving DecidableEq

/-- The steps are awaited after the verification, the look-up and the rotation of the presented token. -/
def LaterStep.await : LaterStep → ℕ
  | findUser => 3
  | signAccessToken => 4
  | signRefreshToken => 5
  | createToken => 6
  | chainToken => 7

/-- A call that throws leaves the presented token unrevoked; a call that returns leaves exactly one new
token that is not revoked, which is the one it returns. -/
def KeepsSession (env : AuthEnv) (s : Store) (stored : RefreshToken)
    (o : Outcome Store Cmd Error TokenPair) : Prop :=
  match o.result with
  | .error _ => ∃ row, o.store.refreshTokens.find? stored.id = some row ∧ row.revokedAt = none
  | .ok tokens => ∃ new : RefreshToken, new.tokenHash = env.hashToken tokens.refreshToken ∧
    ∀ row, (row ∈ o.store.refreshTokens.rows ∧ s.refreshTokens.find? row.id = none ∧
      row.revokedAt = none) ↔ row = new

namespace Interrupted

section Steps

variable {env : AuthEnv} {s : Store} {refreshToken : String} {payload : JwtPayload}
  {stored : RefreshToken} {user : User}

/-- The token is stored and revoked. -/
def IsRevoked (id : ℕ) (s : Store) : Prop :=
  ∃ row, s.refreshTokens.find? id = some row ∧ row.revokedAt ≠ none

/-- A token that is revoked stays revoked. -/
theorem IsRevoked.exec {id : ℕ} (h : IsRevoked id s) (c : Cmd) : IsRevoked id (c.exec s) := by
  obtain ⟨row, hrow, hrevoked⟩ := h
  have hsome : ((c.exec s).refreshTokens.find? id).isSome = true :=
    Cmd.isSome_token_exec (by rw [hrow]; rfl)
  obtain ⟨row', hrow'⟩ := Option.isSome_iff_exists.mp hsome
  refine ⟨row', hrow', fun hopen => ?_⟩
  rcases Cmd.unrevoked_exec hrow' hopen with hnone | ⟨row'', hrow'', hopen'⟩
  · rw [hrow] at hnone
    cases hnone
  · obtain rfl := Option.some.inj (hrow.symm.trans hrow'')
    exact hrevoked hopen'

theorem isRevoked_rotating (h : s.presented? env refreshToken = some (payload, stored)) :
    IsRevoked stored.id (s.rotating stored) := by
  refine ⟨stored.revoke s.now, ?_, Option.some_ne_none _⟩
  rw [find?_rotating, find?_of_presented? h]
  rfl

/-- What follows the rotation. -/
def afterRotation (env : AuthEnv) (payload : JwtPayload) (stored : RefreshToken) : Prog TokenPair := do
  let user ← Async.queryE (.findUserById payload.sub) fun s =>
    (s.users.find? payload.sub).elim (.error .recordNotFound) .ok
  issueTokenPair env user.id user.phone user.role (some stored.id)

theorem propagates_afterRotation : (afterRotation env payload stored).Propagates := by
  refine Async.Propagates.bind (Async.propagates_queryE _ _) fun user => ?_
  refine Async.Propagates.bind (Async.propagates_query _ _) fun accessToken => ?_
  refine Async.Propagates.bind (Async.propagates_query _ _) fun refreshToken => ?_
  refine Async.Propagates.bind (fun _ => trivial) fun now => ?_
  refine Async.Propagates.bind (Async.propagates_queryE _ _) fun refreshTokenId => ?_
  exact Async.Propagates.bind (Async.propagates_queryE _ _) fun _ => trivial

/-- A refresh whose token is accepted comes to the rotation. -/
theorem comesTo_rotation (h : s.presented? env refreshToken = some (payload, stored)) :
    Async.ComesTo Cmd.exec (fun _ => True) s 2 (refresh env refreshToken)
      ((Async.queryE (.revokeToken stored.id) fun s =>
        if (s.refreshTokens.find? stored.id).isSome then .ok () else .error .recordNotFound).bind
          fun _ => afterRotation env payload stored) := by
  obtain ⟨hverify, htoken, hrevoked, hexpires⟩ := presented?_eq_some_iff.mp h
  refine .query_bind trivial rfl ?_
  rw [hverify]
  refine .query_bind trivial rfl (.read_bind trivial rfl ?_)
  have hfound : (s.refreshTokens.findFirst fun token =>
    decide (token.tokenHash = env.hashToken refreshToken)) = some stored := htoken
  have hopen : ¬ (stored.revokedAt.isSome = true ∨ stored.expiresAt < s.now) := by
    rw [hrevoked]
    simp [hexpires]
  rw [hfound]
  dsimp only
  rw [if_neg hopen]
  exact .read_bind trivial rfl (.refl _)

/-- A later step that fails makes the call throw, and the presented token is revoked. -/
theorem lost_of_failing (h : s.presented? env refreshToken = some (payload, stored))
    (step : LaterStep) {e : Error} {o : Outcome Store Cmd Error TokenPair}
    (ho : (refresh env refreshToken).runReject Cmd.exec e step.await s = some o) :
    o.result = .error e ∧ IsRevoked stored.id o.store := by
  obtain ⟨k, hk⟩ : ∃ k, step.await = 2 + (k + 1) := by
    cases step
    exacts [⟨0, rfl⟩, ⟨1, rfl⟩, ⟨2, rfl⟩, ⟨3, rfl⟩, ⟨4, rfl⟩]
  obtain ⟨cs, -, hrun⟩ := (comesTo_rotation h).runReject_add (e := e) (k + 1)
  have hrow : (s.refreshTokens.find? stored.id).isSome = true := by
    rw [find?_of_presented? h]
    rfl
  rw [hk, hrun, Async.runReject_queryE_bind_succ, if_pos hrow, Async.done_ok_bind, Option.map_map] at ho
  obtain ⟨o', ho', rfl⟩ := Option.map_eq_some_iff.mp ho
  have hrevoked : IsRevoked stored.id o'.store :=
    (Async.only_true _).runReject_store (I := IsRevoked stored.id) (fun c _ _ hs => hs.exec c) ho'
      (isRevoked_rotating h)
  have hresult : o'.result = .error e := propagates_afterRotation.runReject_result ho'
  exact ⟨hresult, hrevoked⟩

/-- The run in which nothing fails. -/
theorem exists_refreshCase (env : AuthEnv) (s : Store) (refreshToken : String) :
    ∃ t : Trail, t.store = ((refresh env refreshToken).run Cmd.exec s).store ∧
    RefreshCase env s refreshToken ((refresh env refreshToken).run Cmd.exec s).result t := by
  have hexec : ∀ c t, machine.store (machine.perform c t) = Cmd.exec c (machine.store t) :=
    fun _ _ => rfl
  obtain ⟨hresult, hstore⟩ := Async.play_eq_run (t := ⟨s, []⟩) hexec (refresh env refreshToken)
  have hcase : RefreshCase env s refreshToken _ _ := Async.play_of_wlp wlp_refresh
  rw [hresult] at hcase
  exact ⟨_, hstore, hcase⟩

/-- A call that throws when the presented token is revoked. -/
theorem not_keepsSession {o : Outcome Store Cmd Error TokenPair} {e : Error} (he : o.result = .error e)
    (h : IsRevoked stored.id o.store) : ¬ KeepsSession env s stored o := by
  obtain ⟨row, hrow, hrevoked⟩ := h
  rw [KeepsSession, he]
  rintro ⟨row', hrow', hopen⟩
  obtain rfl := Option.some.inj (hrow.symm.trans hrow')
  exact hrevoked hopen

end Steps

end Interrupted

/-- A call of `refresh` with a token that is accepted keeps the session if and only if no later step
fails: none is rejected, the user is found, and the hash of the new token is not taken. -/
theorem keeps_session_iff (env : AuthEnv) (s : Store) {refreshToken : String} {payload : JwtPayload}
    {stored : RefreshToken} (hpresented : s.presented? env refreshToken = some (payload, stored))
    (failure : Option (LaterStep × Error)) {o : Outcome Store Cmd Error TokenPair}
    (ho : (refresh env refreshToken).runFailing Cmd.exec
      (failure.map fun (step, e) => (step.await, e)) s = some o) :
    KeepsSession env s stored o ↔ failure = none ∧ ∃ user, s.users.find? payload.sub = some user ∧
      s.isTaken (env.hashToken (rotatedTokens env s stored user).refreshToken) = false := by
  cases failure with
  | some failing =>
    obtain ⟨step, e⟩ := failing
    obtain ⟨hresult, hrevoked⟩ := Interrupted.lost_of_failing hpresented step ho
    exact ⟨fun hkeeps => absurd hkeeps (Interrupted.not_keepsSession hresult hrevoked), fun h => by cases h.1⟩
  | none =>
    obtain rfl : (refresh env refreshToken).run Cmd.exec s = o := Option.some.inj ho
    obtain ⟨t, hstore, hcase⟩ := Interrupted.exists_refreshCase env s refreshToken
    cases hcase with
    | refused hnot =>
      rw [hpresented] at hnot
      cases hnot
    | revoked payload' stored' hpresented' hnot he htokens =>
      obtain ⟨rfl, rfl⟩ := Prod.mk.inj (Option.some.inj (hpresented.symm.trans hpresented'))
      obtain ⟨e, he⟩ := he
      have hrevoked : Interrupted.IsRevoked stored.id ((refresh env refreshToken).run Cmd.exec s).store := by
        rw [← hstore, Interrupted.IsRevoked, htokens]
        exact Interrupted.isRevoked_rotating hpresented
      refine ⟨fun hkeeps => absurd hkeeps (Interrupted.not_keepsSession he hrevoked), ?_⟩
      rintro ⟨-, user, huser, hfree⟩
      rw [exchanged?_eq_some_iff.mpr ⟨payload, hpresented, huser, hfree⟩] at hnot
      cases hnot
    | exchanged stored' user hexchanged hr htokens =>
      obtain ⟨payload', hpresented', huser, hfree⟩ := exchanged?_eq_some_iff.mp hexchanged
      obtain ⟨rfl, rfl⟩ := Prod.mk.inj (Option.some.inj (hpresented.symm.trans hpresented'))
      refine ⟨fun _ => ⟨rfl, user, huser, hfree⟩, fun _ => ?_⟩
      rw [KeepsSession, hr]
      refine ⟨successor env s stored user, rfl, fun row => ?_⟩
      rw [← hstore, htokens]
      exact mem_exchanged_iff hpresented user

namespace Interrupted

open Town

/-- The token of user 1. -/
def token : RefreshToken where
  id := 1
  userId := 1
  tokenHash := "t"
  expiresAt := 1000
  createdAt := 0

theorem presented_token : store.presented? env "t" =
    some ({ sub := 1, phone := "+22370000001", role := .client }, token) := by
  decide +kernel

/-- The commands of the later steps. -/
example : [LaterStep.findUser, .signAccessToken, .signRefreshToken, .createToken, .chainToken].map
      (fun step => (refresh env "t").failing Cmd.exec (.reject step.await (.other "timeout")) store) =
    [some (.findUserById 1), some .signJwt, some .signJwt,
      some (.createRefreshToken 1 "1" 2592000000 (some 1)), some (.replaceToken 1 2)] := by
  decide +kernel

end Interrupted

open Town Interrupted in
theorem keeps_session_iff_town : KeepsSession env store token ((refresh env "t").run Cmd.exec store) :=
  (keeps_session_iff env store presented_token none rfl).mpr
    ⟨rfl, { id := 1, phone := "+22370000001" }, by decide +kernel, by decide +kernel⟩

open Town Interrupted in
/-- The new token cannot be stored. -/
theorem session_lost : ∃ o, (refresh env "t").runReject Cmd.exec (.other "timeout")
    LaterStep.createToken.await store = some o ∧ ¬ KeepsSession env store token o := by
  obtain ⟨o, ho⟩ : ∃ o, (refresh env "t").runReject Cmd.exec (.other "timeout")
      LaterStep.createToken.await store = some o :=
    Option.isSome_iff_exists.mp (by decide +kernel)
  obtain ⟨hresult, hrevoked⟩ := lost_of_failing presented_token .createToken ho
  exact ⟨o, ho, not_keepsSession hresult hrevoked⟩

end Telima.Auth
