import Telima.Auth.Refreshing

/-!
# The chain of refresh tokens

The successor of a refresh token is stored with the id of its predecessor in `replacedBy`, and then the
predecessor gets the id of the successor.  So the two lead to each other, and no chain ends.  The chains are
well formed as long as no token is exchanged, and not from the first exchange on (`well_chained_iff`).
-/

namespace Telima.Auth

/-- From the row `replacedBy` leads through the rows of the path, each created later than the one before, to
a row without a successor. -/
inductive Leads (s : Store) : RefreshToken → List RefreshToken → Prop
  | last {row : RefreshToken} (h : row.replacedBy = none) : Leads s row [row]
  | next {row row' : RefreshToken} {id : ℕ} {path : List RefreshToken} (h : row.replacedBy = some id)
      (hrow : s.refreshTokens.find? id = some row') (hlater : row.createdAt < row'.createdAt)
      (hpath : Leads s row' path) : Leads s row (row :: path)

/-- The call has exchanged the token with the id. -/
def Exchanges (env : AuthEnv) (e : Store × Call) (id : ℕ) : Prop :=
  ∃ refreshToken, e.2 = .refresh refreshToken ∧ (e.2.play env e.1).1.isOk = true ∧
    (e.1.token? (env.hashToken refreshToken)).map RefreshToken.id = some id

/-- Every token leads through distinct tokens to one that is not replaced, and a token that was never
exchanged is not replaced. -/
structure WellChained (env : AuthEnv) (past : List (Store × Call)) (s : Store) : Prop where
  leads : ∀ row ∈ s.refreshTokens.rows, ∃ path, Leads s row path ∧ path.Nodup
  unexchanged : ∀ row ∈ s.refreshTokens.rows, (∀ e ∈ past, ¬ Exchanges env e row.id) →
    row.replacedBy = none

/-- The call exchanges no token. -/
def ExchangesNone (env : AuthEnv) (s : Store) : Call → Prop
  | .refresh refreshToken => s.exchanged? env refreshToken = none
  | _ => True

instance (env : AuthEnv) (s : Store) (call : Call) : Decidable (ExchangesNone env s call) := by
  unfold ExchangesNone
  split <;> infer_instance

namespace Chains

/-- The ids of the tokens, with `replacedBy`. -/
def links (s : Store) : List (ℕ × Option ℕ) :=
  s.refreshTokens.rows.map fun row => (row.id, row.replacedBy)

/-- Only tokens that are not replaced are added. -/
def Extends (s s' : Store) : Prop := ∃ ids : List ℕ, links s' = links s ++ ids.map fun id => (id, none)

section Links

variable {env : AuthEnv} {s s' : Store} {c : Cmd} {call : Call}

theorem links_congr (h : s'.refreshTokens = s.refreshTokens) : links s' = links s := by
  rw [links, h, links]

theorem extends_of_links (h : links s' = links s) : Extends s s' := ⟨[], by simp [h]⟩

theorem Extends.exec {s₀ : Store} (h : Extends s₀ s) (hc : c.refreshes = false) : Extends s₀ (c.exec s) := by
  obtain ⟨ids, hids⟩ := h
  have hsame : links (c.exec s) = links s → Extends s₀ (c.exec s) := fun hlinks =>
    ⟨ids, hlinks.trans hids⟩
  cases c with
  | revokeTokens =>
    exact hsame (Table.map_updateMany (RefreshToken.id_revoke s.now) fun _ => rfl)
  | revokeToken | replaceToken => cases hc
  | createRefreshToken userId tokenHash expiresAt replacedBy =>
    obtain rfl : replacedBy = none := by
      cases replacedBy with
      | none => rfl
      | some id => cases hc
    by_cases htaken : s.isTaken tokenHash = true
    · exact hsame (links_congr (if_pos htaken))
    · have htokens : ((Cmd.createRefreshToken userId tokenHash expiresAt none).exec s).refreshTokens =
          s.refreshTokens.insert { id := s.refreshTokens.freshKey, userId, tokenHash, expiresAt
                                   createdAt := s.now } := if_neg htaken
      have hrows : ∀ row : RefreshToken, row.id = s.refreshTokens.freshKey →
          (s.refreshTokens.insert row).rows = s.refreshTokens.rows ++ [row] := by
        intro row hid
        refine Table.rows_insert ?_
        rw [hid]
        exact Table.find?_freshKey _
      refine ⟨ids ++ [s.refreshTokens.freshKey], ?_⟩
      rw [links, htokens, hrows _ rfl, List.map_append, List.map_append, ← List.append_assoc, ← hids]
      rfl
  | _ => exact hsame rfl

/-- A call that exchanges no token only adds tokens that are not replaced. -/
theorem extends_play (hnone : ExchangesNone env s call) : Extends s (call.play env s).2.store := by
  by_cases hrefresh : ∃ refreshToken, call = .refresh refreshToken
  · obtain ⟨refreshToken, rfl⟩ := hrefresh
    obtain ⟨r, hcase, -⟩ := refreshCase env refreshToken s
    cases hcase with
    | refused _ _ htokens => exact extends_of_links (links_congr htokens)
    | revoked payload stored _ _ _ htokens =>
      refine extends_of_links ((links_congr htokens).trans ?_)
      exact Table.map_updateMany (RefreshToken.id_revoke s.now) fun _ => rfl
    | exchanged stored user hexchanged =>
      rw [show s.exchanged? env refreshToken = none from hnone] at hexchanged
      cases hexchanged
  · have hplain : (call.program env).Only fun c => c.refreshes = false :=
      program_of_not_refresh env fun token htoken => hrefresh ⟨token, htoken⟩
    exact Async.play_of_wlp (wlp_store (I := Extends s) hplain (fun c s' hc hs => hs.exec hc)
      (extends_of_links rfl))

/-- A call that exchanges a token. -/
theorem exchanged?_of_exchanges {id : ℕ} (h : Exchanges env (s, call) id) :
    ∃ refreshToken stored user, call = .refresh refreshToken ∧
      s.exchanged? env refreshToken = some (stored, user) ∧ stored.id = id := by
  obtain ⟨refreshToken, rfl, hok, hid⟩ := h
  obtain ⟨r, hcase, hr⟩ := refreshCase env refreshToken s
  have hfailed : ¬ ∃ e, r = .error e := by
    rintro ⟨e, rfl⟩
    rw [show ((Call.refresh refreshToken).play env s).1 = _ from hr] at hok
    cases hok
  cases hcase with
  | refused _ he => exact absurd he hfailed
  | revoked _ _ _ _ he => exact absurd he hfailed
  | exchanged stored user hexchanged =>
    obtain ⟨payload, hpresented, -⟩ := exchanged?_eq_some_iff.mp hexchanged
    obtain ⟨-, htoken, -⟩ := presented?_eq_some_iff.mp hpresented
    refine ⟨refreshToken, stored, user, rfl, hexchanged, ?_⟩
    have hstored : (s.token? (env.hashToken refreshToken)).map RefreshToken.id = some id := hid
    rw [htoken] at hstored
    exact Option.some.inj hstored

/-- Tokens stay. -/
theorem isSome_play {id : ℕ} (h : (s.refreshTokens.find? id).isSome = true) :
    ((call.play env s).2.store.refreshTokens.find? id).isSome = true :=
  Async.play_of_wlp (wlp_store (I := fun s' => (s'.refreshTokens.find? id).isSome = true)
    (call.program env).only_true (fun _ _ _ hs => Cmd.isSome_token_exec hs) h)

/-- The successor of a token that is exchanged. -/
theorem exists_successor (hnone : ¬ ExchangesNone env s call) :
    ∃ row ∈ (call.play env s).2.store.refreshTokens.rows, row.replacedBy ≠ none ∧
      s.refreshTokens.find? row.id = none ∧ ¬ Exchanges env (s, call) row.id := by
  have hrefresh : ∃ refreshToken, call = .refresh refreshToken := by
    cases call with
    | refresh refreshToken => exact ⟨refreshToken, rfl⟩
    | _ => exact absurd trivial hnone
  obtain ⟨refreshToken, rfl⟩ := hrefresh
  obtain ⟨r, hcase, -⟩ := refreshCase env refreshToken s
  cases hcase with
  | refused hnot =>
    refine absurd ?_ hnone
    show s.exchanged? env refreshToken = none
    rw [Store.exchanged?, hnot]
    rfl
  | revoked _ _ _ hnot => exact absurd hnot hnone
  | exchanged stored user hexchanged _ htokens =>
    obtain ⟨payload, hpresented, -⟩ := exchanged?_eq_some_iff.mp hexchanged
    obtain ⟨hmem, hfresh, -⟩ := (mem_exchanged_iff hpresented user).mpr rfl
    refine ⟨successor env s stored user, ?_, Option.some_ne_none _, hfresh, fun hexchanges => ?_⟩
    · rw [htokens]
      exact hmem
    · -- the token that the call exchanges is stored
      obtain ⟨_, stored', _, hcall, hexchanged', hid⟩ := exchanged?_of_exchanges hexchanges
      obtain rfl := Call.refresh.inj hcall
      obtain ⟨rfl, -⟩ := Prod.mk.inj (Option.some.inj (hexchanged.symm.trans hexchanged'))
      rw [← hid, find?_of_presented? hpresented] at hfresh
      cases hfresh

end Links

/-! ### The invariant -/

/-- Tokens that were exchanged are stored; none is replaced as long as none was exchanged, and then there is
a token that is replaced and was not exchanged. -/
structure Kept (env : AuthEnv) (past : List (Store × Call)) (s : Store) : Prop where
  stored : ∀ e ∈ past, ∀ id, Exchanges env e id → (s.refreshTokens.find? id).isSome = true
  clean : (∀ e ∈ past, ExchangesNone env e.1 e.2) → ∀ l ∈ links s, l.2 = none
  chained : (∃ e ∈ past, ¬ ExchangesNone env e.1 e.2) →
    ∃ l ∈ links s, l.2 ≠ none ∧ ∀ e ∈ past, ¬ Exchanges env e l.1

section Invariant

variable {env : AuthEnv} {past : List (Store × Call)} {s : Store}

theorem Kept.play (h : Kept env past s) (call : Call) :
    Kept env (past ++ [(s, call)]) (call.play env s).2.store := by
  have hstored : ∀ e ∈ past ++ [(s, call)], ∀ id, Exchanges env e id →
      ((call.play env s).2.store.refreshTokens.find? id).isSome = true := by
    intro e he id hexchanges
    refine isSome_play ?_
    rcases List.mem_append.mp he with hold | hnew
    · exact h.stored e hold id hexchanges
    · obtain rfl := List.mem_singleton.mp hnew
      obtain ⟨_, stored, user, -, hexchanged, rfl⟩ := exchanged?_of_exchanges hexchanges
      obtain ⟨payload, hpresented, -⟩ := exchanged?_eq_some_iff.mp hexchanged
      rw [find?_of_presented? hpresented]
      rfl
  by_cases hnone : ExchangesNone env s call
  · obtain ⟨ids, hids⟩ := extends_play hnone
    refine ⟨hstored, fun hclean l hl => ?_, ?_⟩
    · rw [hids] at hl
      rcases List.mem_append.mp hl with hold | hnew
      · exact h.clean (fun e he => hclean e (List.mem_append_left _ he)) l hold
      · obtain ⟨id, -, rfl⟩ := List.mem_map.mp hnew
        rfl
    · rintro ⟨e, he, hexchanges⟩
      have hold : e ∈ past := by
        rcases List.mem_append.mp he with hold | hnew
        · exact hold
        · obtain rfl := List.mem_singleton.mp hnew
          exact absurd hnone hexchanges
      obtain ⟨l, hl, hreplaced, hnever⟩ := h.chained ⟨e, hold, hexchanges⟩
      refine ⟨l, ?_, hreplaced, fun e' he' hexchanges' => ?_⟩
      · rw [hids]
        exact List.mem_append_left _ hl
      · rcases List.mem_append.mp he' with hold | hnew
        · exact hnever e' hold hexchanges'
        · obtain rfl := List.mem_singleton.mp hnew
          obtain ⟨refreshToken, _, _, rfl, hexchanged, -⟩ := exchanged?_of_exchanges hexchanges'
          rw [show s.exchanged? env refreshToken = none from hnone] at hexchanged
          cases hexchanged
  · refine ⟨hstored, fun hclean => ?_, fun _ => ?_⟩
    · exact absurd (hclean _ (List.mem_append_right _ List.mem_cons_self)) hnone
    · obtain ⟨row, hmem, hreplaced, hfresh, hnot⟩ := exists_successor hnone
      refine ⟨(row.id, row.replacedBy), List.mem_map_of_mem hmem, hreplaced, fun e he hexchanges => ?_⟩
      rcases List.mem_append.mp he with hold | hnew
      · -- the successor was not stored before
        have hsome := h.stored e hold row.id hexchanges
        rw [hfresh] at hsome
        cases hsome
      · obtain rfl := List.mem_singleton.mp hnew
        exact hnot hexchanges

end Invariant

end Chains

/-- From tokens of which none is replaced, a run keeps the chains well formed if and only if none of its calls
exchanges a token. -/
theorem well_chained_iff (env : AuthEnv) (s : Store)
    (hstart : ∀ row ∈ s.refreshTokens.rows, row.replacedBy = none) (calls : List Call) :
    WellChained env (history env s calls) (playAll env s calls) ↔
      ∀ e ∈ history env s calls, ExchangesNone env e.1 e.2 := by
  have hinit : Chains.Kept env [] s := by
    refine ⟨fun e he => absurd he List.not_mem_nil, fun _ l hl => ?_, ?_⟩
    · obtain ⟨row, hrow, rfl⟩ := List.mem_map.mp hl
      exact hstart row hrow
    · rintro ⟨e, he, -⟩
      exact absurd he List.not_mem_nil
  have hkept : Chains.Kept env (history env s calls) (playAll env s calls) :=
    playAll_induction (I := Chains.Kept env) (fun _ _ call hkept (_ : True) => hkept.play call)
      (fun _ _ => trivial) hinit
  constructor
  · intro hwell
    by_contra hexchanges
    push Not at hexchanges
    obtain ⟨l, hl, hreplaced, hnever⟩ := hkept.chained hexchanges
    obtain ⟨row, hrow, rfl⟩ := List.mem_map.mp hl
    exact hreplaced (hwell.unexchanged row hrow hnever)
  · intro hnone
    have hclean : ∀ row ∈ (playAll env s calls).refreshTokens.rows, row.replacedBy = none :=
      fun row hrow => hkept.clean hnone _ (List.mem_map_of_mem hrow)
    exact ⟨fun row hrow => ⟨[row], .last (hclean row hrow), List.nodup_singleton row⟩,
      fun row hrow _ => hclean row hrow⟩

namespace Chains

open Town

/-- User 1 logs in, logs out, and refreshes with the token that is revoked. -/
def loggedOut : List Call :=
  [.requestOtp "70000001" .client, .verifyOtp "70000001" "1000" .client, .logout 1 "4", .refresh "4"]

/-- User 1 refreshes with the token `t`. -/
def refreshed : List Call := [.wait 500, .refresh "t"]

/-- The token `t` after the exchange. -/
def predecessor : RefreshToken where
  id := 1
  userId := 1
  tokenHash := "t"
  revokedAt := some 500
  replacedBy := some 2
  expiresAt := 1000
  createdAt := 0

/-- The token that user 1 gets for it. -/
def newToken : RefreshToken where
  id := 2
  userId := 1
  tokenHash := "1"
  replacedBy := some 1
  expiresAt := 2592000500
  createdAt := 500

end Chains

open Town Chains in
theorem well_chained_logged_out :
    WellChained env (history env {} loggedOut) (playAll env {} loggedOut) :=
  (well_chained_iff env {} (fun _ h => absurd h List.not_mem_nil) loggedOut).mpr (by decide +kernel)

open Town Chains in
/-- The token and its successor lead to each other. -/
theorem not_well_chained_refreshed :
    ¬ WellChained env (history env store refreshed) (playAll env store refreshed) := by
  have hpredecessor : (playAll env store refreshed).refreshTokens.find? 1 = some predecessor := by
    decide +kernel
  have hnew : (playAll env store refreshed).refreshTokens.find? 2 = some newToken := by
    decide +kernel
  intro hwell
  obtain ⟨path, hleads, -⟩ := hwell.leads predecessor (Table.mem_of_find? hpredecessor)
  cases hleads with
  | last hlast => cases hlast
  | next hid hrow _ hpath =>
    obtain rfl := Option.some.inj hid
    obtain rfl := Option.some.inj (hnew.symm.trans hrow)
    cases hpath with
    | last hlast => cases hlast
    | next hid' hrow' hlater' _ =>
      -- the successor of the successor is the token itself
      obtain rfl := Option.some.inj hid'
      obtain rfl := Option.some.inj (hpredecessor.symm.trans hrow')
      exact absurd hlater' (by decide)

end Telima.Auth
