import Telima.Auth.Accounts
import Telima.Auth.Calls
import Telima.Auth.Tokens

/-!
# A refresh that runs alone

What a call of `refresh` returns, and what it leaves of the tokens (`refreshCase`): nothing happens to
them, or the presented token is revoked and the call throws, or it is revoked and chained with a new one.
-/

namespace Telima.Auth

open AuthService

/-- The payload and the row of a refresh token that is accepted. -/
def Store.presented? (env : AuthEnv) (s : Store) (refreshToken : String) :
    Option (JwtPayload × RefreshToken) :=
  (env.verify .refresh refreshToken s).bind fun payload =>
    ((s.token? (env.hashToken refreshToken)).filter fun stored =>
      stored.revokedAt.isNone && decide (s.now ≤ stored.expiresAt)).map fun stored => (payload, stored)

/-- The store in which the tokens of a refresh are signed. -/
def Store.rotating (s : Store) (stored : RefreshToken) : Store := (Cmd.revokeToken stored.id).exec s

/-- The tokens of a refresh. -/
def rotatedTokens (env : AuthEnv) (s : Store) (stored : RefreshToken) (user : User) : TokenPair where
  accessToken := env.sign .access user.payload (s.rotating stored)
  refreshToken := env.sign .refresh user.payload (Cmd.signJwt.exec (s.rotating stored))

/-- The row of the new refresh token. -/
def successor (env : AuthEnv) (s : Store) (stored : RefreshToken) (user : User) : RefreshToken where
  id := (s.rotating stored).refreshTokens.freshKey
  userId := user.id
  tokenHash := env.hashToken (rotatedTokens env s stored user).refreshToken
  replacedBy := some stored.id
  expiresAt := parseExpiryToDate env.config.jwtRefreshExpiresIn s.now
  createdAt := s.now

/-- The row of a refresh token that is exchanged, and its user: the new token can be stored. -/
def Store.exchanged? (env : AuthEnv) (s : Store) (refreshToken : String) :
    Option (RefreshToken × User) :=
  (s.presented? env refreshToken).bind fun (payload, stored) =>
    ((s.users.find? payload.sub).filter fun user =>
      !s.isTaken (env.hashToken (rotatedTokens env s stored user).refreshToken)).map fun user =>
        (stored, user)

/-- What a call of `refresh` does. -/
inductive RefreshCase (env : AuthEnv) (s : Store) (refreshToken : String) (r : Except Error TokenPair)
    (t : Trail) : Prop
  | refused (hnot : s.presented? env refreshToken = none) (hr : ∃ e, r = .error e)
      (htokens : t.store.refreshTokens = s.refreshTokens)
  | revoked (payload : JwtPayload) (stored : RefreshToken)
      (hpresented : s.presented? env refreshToken = some (payload, stored))
      (hnot : s.exchanged? env refreshToken = none) (hr : ∃ e, r = .error e)
      (htokens : t.store.refreshTokens = (s.rotating stored).refreshTokens)
  | exchanged (stored : RefreshToken) (user : User)
      (hexchanged : s.exchanged? env refreshToken = some (stored, user))
      (hr : r = .ok (rotatedTokens env s stored user))
      (htokens : t.store.refreshTokens =
        ((s.rotating stored).refreshTokens.insert (successor env s stored user)).update stored.id
          (RefreshToken.replace (successor env s stored user).id) (RefreshToken.id_replace _))

section Refreshes

variable {env : AuthEnv} {s : Store} {refreshToken : String} {payload : JwtPayload}
  {stored : RefreshToken} {user : User} {t : Trail}

theorem presented?_eq_some_iff : s.presented? env refreshToken = some (payload, stored) ↔
    env.verify .refresh refreshToken s = some payload ∧
      s.token? (env.hashToken refreshToken) = some stored ∧
        stored.revokedAt = none ∧ s.now ≤ stored.expiresAt := by
  rw [Store.presented?]
  cases env.verify .refresh refreshToken s with
  | none => simp
  | some payload' =>
    rw [Option.bind_some, Option.map_eq_some_iff]
    constructor
    · rintro ⟨stored', hstored, heq⟩
      obtain ⟨rfl, rfl⟩ := Prod.mk.inj heq
      obtain ⟨hfound, hgood⟩ := Option.filter_eq_some_iff.mp hstored
      rw [Bool.and_eq_true, Option.isNone_iff_eq_none, decide_eq_true_iff] at hgood
      exact ⟨rfl, hfound, hgood⟩
    · rintro ⟨hpayload, hfound, hrevoked, hexpires⟩
      obtain rfl := Option.some.inj hpayload
      refine ⟨stored, Option.filter_eq_some_iff.mpr ⟨hfound, ?_⟩, rfl⟩
      simp [hrevoked, hexpires]

theorem exchanged?_eq_some_iff : s.exchanged? env refreshToken = some (stored, user) ↔
    ∃ payload, s.presented? env refreshToken = some (payload, stored) ∧
      s.users.find? payload.sub = some user ∧
        s.isTaken (env.hashToken (rotatedTokens env s stored user).refreshToken) = false := by
  rw [Store.exchanged?]
  cases s.presented? env refreshToken with
  | none => simp
  | some presented =>
    obtain ⟨payload, stored'⟩ := presented
    rw [Option.bind_some, Option.map_eq_some_iff]
    constructor
    · rintro ⟨user', huser, heq⟩
      obtain ⟨rfl, rfl⟩ := Prod.mk.inj heq
      obtain ⟨hfound, hfree⟩ := Option.filter_eq_some_iff.mp huser
      exact ⟨payload, rfl, hfound, by simpa using hfree⟩
    · rintro ⟨payload', heq, hfound, hfree⟩
      obtain ⟨rfl, rfl⟩ := Prod.mk.inj (Option.some.inj heq)
      exact ⟨user, Option.filter_eq_some_iff.mpr ⟨hfound, by simp [hfree]⟩, rfl⟩

/-- The presented token is not exchanged: there is no user, or the new token is taken. -/
theorem exchanged?_eq_none (hpresented : s.presented? env refreshToken = some (payload, stored))
    (h : ∀ user, s.users.find? payload.sub = some user →
      s.isTaken (env.hashToken (rotatedTokens env s stored user).refreshToken) = true) :
    s.exchanged? env refreshToken = none := by
  rw [Option.eq_none_iff_forall_ne_some]
  rintro ⟨stored', user⟩ hexchanged
  obtain ⟨payload', hpresented', huser, hfree⟩ := exchanged?_eq_some_iff.mp hexchanged
  obtain ⟨rfl, rfl⟩ := Prod.mk.inj (Option.some.inj (hpresented.symm.trans hpresented'))
  rw [h user huser] at hfree
  cases hfree

/-- The stored token. -/
theorem find?_of_presented? (h : s.presented? env refreshToken = some (payload, stored)) :
    s.refreshTokens.find? stored.id = some stored :=
  (Table.find?_of_findFirst (presented?_eq_some_iff.mp h).2.1).1

theorem isTaken_rotating (stored : RefreshToken) (tokenHash : String) :
    (s.rotating stored).isTaken tokenHash = s.isTaken tokenHash := by
  have hhashes : (s.rotating stored).refreshTokens.rows.map RefreshToken.tokenHash =
      s.refreshTokens.rows.map RefreshToken.tokenHash :=
    Table.map_updateMany (RefreshToken.id_revoke s.now) fun _ => rfl
  have hany : ∀ s : Store, s.isTaken tokenHash =
      (s.refreshTokens.rows.map RefreshToken.tokenHash).any fun h => decide (h = tokenHash) := by
    intro s
    rw [List.any_map]
    rfl
  rw [hany, hany, hhashes]

theorem find?_rotating : (s.rotating stored).refreshTokens.find? stored.id =
    (s.refreshTokens.find? stored.id).map (RefreshToken.revoke s.now) :=
  Table.find?_update_self _ (RefreshToken.id_revoke s.now)

/-- The row of the presented token stays when the new one is stored. -/
theorem isSome_find?_insert (h : s.presented? env refreshToken = some (payload, stored))
    (row : RefreshToken) :
    (((s.rotating stored).refreshTokens.insert row).find? stored.id).isSome = true := by
  rw [Table.find?_insert, find?_rotating, find?_of_presented? h]
  rfl

/-- The new token is the only one that is new and not revoked. -/
theorem mem_exchanged_iff (h : s.presented? env refreshToken = some (payload, stored))
    (user : User) {row : RefreshToken} :
    (row ∈ (((s.rotating stored).refreshTokens.insert (successor env s stored user)).update stored.id
      (RefreshToken.replace (successor env s stored user).id) (RefreshToken.id_replace _)).rows ∧
        s.refreshTokens.find? row.id = none ∧ row.revokedAt = none) ↔
          row = successor env s stored user := by
  have hfresh : (s.rotating stored).refreshTokens.find? (successor env s stored user).id = none :=
    Table.find?_freshKey _
  have hmap : ∀ id, (s.rotating stored).refreshTokens.find? id = none ↔
      s.refreshTokens.find? id = none := by
    intro id
    rw [Store.rotating, Cmd.exec]
    dsimp only
    rw [Table.update, Table.find?_updateMany, Option.map_eq_none_iff]
  have hne : (successor env s stored user).id ≠ stored.id := by
    intro heq
    rw [heq, find?_rotating, find?_of_presented? h] at hfresh
    cases hfresh
  have hfind : ∀ id, id ≠ stored.id → s.refreshTokens.find? id = none →
      (((s.rotating stored).refreshTokens.insert (successor env s stored user)).update stored.id
        (RefreshToken.replace (successor env s stored user).id) (RefreshToken.id_replace _)).find? id =
          if (successor env s stored user).id = id then some (successor env s stored user) else none := by
    intro id hid hnone
    rw [Table.find?_update_of_ne hid, Table.find?_insert, (hmap id).mpr hnone, Option.none_or]
  constructor
  · rintro ⟨hmem, hnone, -⟩
    have hid : row.id ≠ stored.id := by
      intro heq
      rw [heq, find?_of_presented? h] at hnone
      cases hnone
    have hrow := Table.find?_of_mem hmem
    rw [hfind row.id hid hnone] at hrow
    split_ifs at hrow
    exact (Option.some.inj hrow).symm
  · rintro rfl
    have hnone := (hmap _).mp hfresh
    have hrow := hfind _ hne hnone
    rw [if_pos rfl] at hrow
    exact ⟨Table.mem_of_find? hrow, hnone, rfl⟩

/-- What follows the rotation of the presented token. -/
theorem wlp_issueTokenPair (hpresented : s.presented? env refreshToken = some (payload, stored))
    (huser : s.users.find? payload.sub = some user) (ht : t.store = s.rotating stored) :
    (issueTokenPair env user.id user.phone user.role (some stored.id)).wlp machine (fun _ _ => True)
      (RefreshCase env s refreshToken) t := by
  obtain ⟨store, log⟩ := t
  obtain rfl := ht
  have hsame := isTaken_rotating (s := s) stored
    (env.hashToken (rotatedTokens env s stored user).refreshToken)
  rw [issueTokenPair]
  dsimp only
  rw [Async.bind_eq, Async.wlp_query_bind]
  intro _
  rw [Async.bind_eq, Async.wlp_query_bind]
  intro _
  rw [Async.bind_eq, newDate, Async.wlp_read_bind]
  intro _
  rw [Async.bind_eq, Async.wlp_queryE_bind]
  intro _
  rw [machine_store, machine_perform]
  show Async.wlp machine _ ((Async.done (if (s.rotating stored).isTaken
    (env.hashToken (rotatedTokens env s stored user).refreshToken) = true then _ else _)).bind _) _ _
  cases htaken : s.isTaken (env.hashToken (rotatedTokens env s stored user).refreshToken) with
  | true =>
    rw [if_pos (hsame.trans htaken)]
    have hnone : s.exchanged? env refreshToken = none := by
      refine exchanged?_eq_none hpresented fun user' huser' => ?_
      obtain rfl := Option.some.inj (huser.symm.trans huser')
      exact htaken
    exact .revoked payload stored hpresented hnone ⟨_, rfl⟩ (if_pos (hsame.trans htaken))
  | false =>
    have hnot : ¬ (s.rotating stored).isTaken
        (env.hashToken (rotatedTokens env s stored user).refreshToken) = true := by
      rw [hsame, htaken]
      exact Bool.false_ne_true
    rw [if_neg hnot, Async.done_ok_bind, Async.bind_eq, Async.wlp_queryE_bind]
    intro _
    rw [machine_store, machine_perform]
    have hstored : ∀ s' : Store, s'.refreshTokens =
        (s.rotating stored).refreshTokens.insert (successor env s stored user) →
          (s'.refreshTokens.find? stored.id).isSome = true := by
      intro s' hs'
      rw [hs']
      exact isSome_find?_insert hpresented _
    rw [if_pos (hstored _ (if_neg hnot))]
    refine .exchanged stored user (exchanged?_eq_some_iff.mpr ⟨payload, hpresented, huser, htaken⟩) rfl ?_
    exact congrArg (fun tokens : Table ℕ RefreshToken RefreshToken.id => tokens.update stored.id
      (RefreshToken.replace (successor env s stored user).id) (RefreshToken.id_replace _)) (if_neg hnot)

theorem wlp_refresh : (refresh env refreshToken).wlp machine (fun _ _ => True)
    (RefreshCase env s refreshToken) ⟨s, []⟩ := by
  have hrefused : ∀ {e : Error} {t : Trail}, s.presented? env refreshToken = none →
      t.store.refreshTokens = s.refreshTokens →
        RefreshCase env s refreshToken (.error e) t := fun hnot htokens => .refused hnot ⟨_, rfl⟩ htokens
  unfold refresh
  rw [Async.bind_eq, Async.wlp_query_bind]
  intro _
  rw [machine_store, machine_perform]
  cases hverify : env.verify .refresh refreshToken s with
  | none =>
    refine hrefused ?_ rfl
    rw [Store.presented?, hverify]
    rfl
  | some payload =>
    dsimp only
    rw [Async.bind_eq, Async.wlp_query_bind]
    intro _
    rw [Async.bind_eq, newDate, Async.wlp_read_bind]
    intro _
    rw [machine_store, machine_perform]
    split
    case h_1 hnone =>
      have htoken : s.token? (env.hashToken refreshToken) = none := hnone
      refine hrefused ?_ rfl
      rw [Store.presented?, hverify, htoken]
      rfl
    case h_2 stored hstored =>
      have htoken : s.token? (env.hashToken refreshToken) = some stored := hstored
      show Async.wlp machine _
        (if stored.revokedAt.isSome = true ∨ stored.expiresAt < s.now then _ else _) _ _
      by_cases hclosed : stored.revokedAt.isSome = true ∨ stored.expiresAt < s.now
      · rw [if_pos hclosed]
        refine hrefused ?_ rfl
        rw [Option.eq_none_iff_forall_ne_some]
        rintro ⟨payload', stored'⟩ hpresented
        obtain ⟨-, hfound, hrevoked, hexpires⟩ := presented?_eq_some_iff.mp hpresented
        obtain rfl := Option.some.inj (htoken.symm.trans hfound)
        rcases hclosed with hclosed | hclosed
        · rw [hrevoked] at hclosed
          cases hclosed
        · omega
      · rw [if_neg hclosed]
        push Not at hclosed
        have hpresented : s.presented? env refreshToken = some (payload, stored) :=
          presented?_eq_some_iff.mpr ⟨hverify, htoken, by simpa using hclosed.1, hclosed.2⟩
        rw [Async.bind_eq, Async.wlp_read_bind]
        intro _
        rw [Async.bind_eq, Async.wlp_queryE_bind]
        intro _
        rw [machine_store, machine_perform]
        have hrow : (s.refreshTokens.find? stored.id).isSome = true := by
          rw [find?_of_presented? hpresented]
          rfl
        show Async.wlp machine _ ((Async.done (if (s.refreshTokens.find? stored.id).isSome = true
          then _ else _)).bind _) _ _
        rw [if_pos hrow, Async.done_ok_bind, Async.bind_eq, Async.wlp_queryE_bind]
        intro _
        rw [machine_store, machine_perform]
        show Async.wlp machine _ ((Async.done ((s.users.find? payload.sub).elim _ _)).bind _) _ _
        cases huser : s.users.find? payload.sub with
        | none =>
          have hnone : s.exchanged? env refreshToken = none := by
            refine exchanged?_eq_none hpresented fun user' huser' => ?_
            rw [huser] at huser'
            cases huser'
          exact .revoked payload stored hpresented hnone ⟨_, rfl⟩ rfl
        | some user => exact wlp_issueTokenPair hpresented huser rfl

/-- What a call of a client is. -/
theorem refreshCase (env : AuthEnv) (refreshToken : String) (s : Store) :
    ∃ r, RefreshCase env s refreshToken r ((Call.refresh refreshToken).play env s).2 ∧
      ((Call.refresh refreshToken).play env s).1 = r.map some := by
  have hwlp : ((Call.refresh refreshToken).program env).wlp machine (fun _ _ => True)
      (fun r' t => ∃ r, RefreshCase env s refreshToken r t ∧ r' = r.map some) ⟨s, []⟩ := by
    apply Async.wlp_bind
    refine Async.wlp_mono wlp_refresh ?_
    rintro (e | tokens) t h
    · exact ⟨_, h, rfl⟩
    · exact ⟨_, h, rfl⟩
  exact Async.play_of_wlp hwlp

end Refreshes

end Telima.Auth
