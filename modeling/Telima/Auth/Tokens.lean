import Telima.Auth.Runs

/-!
# Refresh tokens

What a command does to the rows of `refresh_tokens` (`Cmd.tokensStep`).
-/

namespace Telima.Auth

/-- The token with the hash. -/
def Store.token? (s : Store) (tokenHash : String) : Option RefreshToken :=
  s.refreshTokens.findFirst fun token => decide (token.tokenHash = tokenHash)

/-- The hash is the hash of a token. -/
def Store.isTaken (s : Store) (tokenHash : String) : Bool :=
  s.refreshTokens.rows.any fun token => decide (token.tokenHash = tokenHash)

section Commands

variable {s : Store} {id : ℕ} {tokenHash : String} {row' : RefreshToken} {c : Cmd}

/-- The tokens after a command. -/
inductive TokensStep (c : Cmd) (s : Store) : Prop
  | kept (h : (c.exec s).refreshTokens = s.refreshTokens)
  | updated {p : RefreshToken → Bool} {f : RefreshToken → RefreshToken}
      (hf : ∀ token, (f token).id = token.id)
      (h : (c.exec s).refreshTokens = s.refreshTokens.updateMany p f hf)
      (hhash : ∀ token, (f token).tokenHash = token.tokenHash)
      (hrevoked : ∀ token, (f token).revokedAt = none → token.revokedAt = none)
  | inserted {userId expiresAt : ℕ} {tokenHash : String} {replacedBy : Option ℕ}
      (hc : c = .createRefreshToken userId tokenHash expiresAt replacedBy)
      (hfree : s.isTaken tokenHash = false)
      (h : (c.exec s).refreshTokens = s.refreshTokens.insert
        { id := s.refreshTokens.freshKey, userId, tokenHash, expiresAt, replacedBy, createdAt := s.now })

theorem Cmd.tokensStep (c : Cmd) (s : Store) : TokensStep c s := by
  cases c with
  | revokeToken => exact .updated (RefreshToken.id_revoke s.now) rfl (fun _ => rfl) fun _ h => by cases h
  | revokeTokens => exact .updated (RefreshToken.id_revoke s.now) rfl (fun _ => rfl) fun _ h => by cases h
  | replaceToken _ successor =>
    exact .updated (RefreshToken.id_replace successor) rfl (fun _ => rfl) fun _ h => h
  | createRefreshToken userId tokenHash expiresAt replacedBy =>
    by_cases htaken : s.isTaken tokenHash = true
    · exact .kept (if_pos htaken)
    · exact .inserted rfl (Bool.eq_false_iff.mpr htaken) (if_neg htaken)
  | _ => exact .kept rfl

/-- A token is never deleted. -/
theorem Cmd.isSome_token_exec (h : (s.refreshTokens.find? id).isSome = true) :
    ((c.exec s).refreshTokens.find? id).isSome = true := by
  cases c.tokensStep s with
  | kept hkept => rwa [hkept]
  | updated hf hupdated =>
    rw [hupdated, Table.find?_updateMany, Option.isSome_map]
    exact h
  | inserted _ _ hinserted =>
    rw [hinserted, Table.find?_insert, Option.isSome_or, h, Bool.true_or]

/-- A token that is not revoked was not revoked before, or is new. -/
theorem Cmd.unrevoked_exec (h : (c.exec s).refreshTokens.find? id = some row')
    (hrow' : row'.revokedAt = none) :
    s.refreshTokens.find? id = none ∨
      ∃ row, s.refreshTokens.find? id = some row ∧ row.revokedAt = none := by
  cases hbefore : s.refreshTokens.find? id with
  | none => exact Or.inl rfl
  | some row =>
    refine Or.inr ⟨row, rfl, ?_⟩
    cases c.tokensStep s with
    | kept hkept =>
      rw [hkept, hbefore] at h
      rw [Option.some.inj h]
      exact hrow'
    | updated hf hupdated _ hrevoked =>
      rw [hupdated, Table.find?_updateMany, hbefore, Option.map_some] at h
      rw [← Option.some.inj h] at hrow'
      split_ifs at hrow'
      · exact hrevoked _ hrow'
      · exact hrow'
    | inserted _ _ hinserted =>
      rw [hinserted, Table.find?_insert, hbefore, Option.some_or] at h
      rw [Option.some.inj h]
      exact hrow'

/-- The token that is revoked. -/
theorem Cmd.not_unrevoked_exec (h : ((Cmd.revokeToken id).exec s).refreshTokens.find? id = some row') :
    row'.revokedAt ≠ none := by
  have hexec : ((Cmd.revokeToken id).exec s).refreshTokens.find? id =
      (s.refreshTokens.find? id).map (RefreshToken.revoke s.now) :=
    Table.find?_update_self _ (RefreshToken.id_revoke s.now)
  rw [hexec] at h
  obtain ⟨row, -, rfl⟩ := Option.map_eq_some_iff.mp h
  exact Option.some_ne_none _

/-- The token with a hash stays the token with this hash. -/
theorem Cmd.token?_exec (h : (s.token? tokenHash).map RefreshToken.id = some id) :
    ((c.exec s).token? tokenHash).map RefreshToken.id = some id := by
  obtain ⟨row, hrow, hid⟩ := Option.map_eq_some_iff.mp h
  cases c.tokensStep s with
  | kept hkept => rwa [Store.token?, hkept]
  | @updated _ f hf hupdated hhash _ =>
    have hp : ∀ token, decide ((f token).tokenHash = tokenHash) =
        decide (token.tokenHash = tokenHash) := fun token => by rw [hhash]
    rw [Store.token?, hupdated, Table.findFirst_updateMany f hf hp]
    have hrow' : s.refreshTokens.findFirst (fun token => decide (token.tokenHash = tokenHash)) =
      some row := hrow
    rw [hrow', Option.map_some, Option.map_some]
    split_ifs
    · rw [hf, hid]
    · rw [hid]
  | inserted _ _ hinserted =>
    rw [Store.token?, hinserted, Table.findFirst_insert_of_some hrow, Option.map_some, hid]

end Commands

end Telima.Auth
