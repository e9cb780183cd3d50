import Telima.Async.OneShot
import Telima.Auth.Tokens

/-!
# A refresh token is exchanged once

`refresh` reads whether a token is revoked, and revokes it one await later whatever has happened in
between.  So two calls that read the token before either revokes it both return tokens.  If no other
call has revoked a token since the call that revokes it has read it, then at most one call returns
tokens for it (`refresh_at_most_once`).
-/

namespace Telima.Auth

open AuthService

/-- The command looks a refresh token up. -/
def Cmd.readsToken : Cmd → Bool
  | .findRefreshToken _ => true
  | _ => false

/-- The command revokes the token without looking at it. -/
def Cmd.revokes (id : ℕ) : Cmd → Prop
  | .revokeToken tokenId => tokenId = id
  | _ => False

theorem Cmd.eq_of_revokes {id : ℕ} {c : Cmd} (h : c.revokes id) : c = .revokeToken id := by
  cases c with
  | revokeToken tokenId => exact congrArg Cmd.revokeToken h
  | _ => cases h

/-- No call has revoked the token since the call that revokes it has read it. -/
def NotRevokedSince (i : ℕ) (w : World Store Cmd) : Cmd → Prop
  | .revokeToken id => ∀ e ∈ w.since i Cmd.readsToken, e.kind ≠ .did (.revokeToken id)
  | _ => True

/-! ### The protocol -/

/-- No token is revoked by two calls, and a token that is not revoked has been revoked by none. -/
structure RevokedOnce (w : World Store Cmd) : Prop where
  once : ∀ id, ∀ e ∈ w.trace, ∀ e' ∈ w.trace, e.kind = .did (.revokeToken id) →
    e'.kind = .did (.revokeToken id) → e.tid = e'.tid
  before : ∀ newer e older, w.trace = newer ++ e :: older → ∀ id row,
    e.before.refreshTokens.find? id = some row → row.revokedAt = none →
      ∀ e' ∈ older, e'.kind ≠ .did (.revokeToken id)
  now : ∀ id row, w.store.refreshTokens.find? id = some row → row.revokedAt = none →
    ∀ e ∈ w.trace, e.kind ≠ .did (.revokeToken id)
  stored : ∀ id, ∀ e ∈ w.trace, e.kind = .did (.revokeToken id) →
    (w.store.refreshTokens.find? id).isSome = true

/-- A call revokes a token it has read, and that was not revoked then. -/
def Rotates (i : ℕ) (w : World Store Cmd) : Cmd → Prop
  | .revokeToken id => (∃ s row, w.lastRead i Cmd.readsToken = some s ∧
      s.refreshTokens.find? id = some row ∧ row.revokedAt = none) ∧
        (w.store.refreshTokens.find? id).isSome = true
  | _ => True

/-- The tokens, as records that are looked up and revoked. -/
def oneShot : OneShot system ℕ where
  reads := Cmd.readsToken
  mark := .revokeToken
  isOpen id s := ∃ row, s.refreshTokens.find? id = some row ∧ row.revokedAt = none
  known id s := (s.refreshTokens.find? id).isSome = true
  admits _ _ := True
  quiet := system_handlers
  reads_mark _ := rfl
  known_exec _ h := Cmd.isSome_token_exec h
  isOpen_of_exec := by
    rintro c s id - hknown ⟨row', hrow', hrevoked⟩
    rcases Cmd.unrevoked_exec hrow' hrevoked with hnone | hrow
    · rw [hnone] at hknown
      cases hknown
    · exact hrow
  not_isOpen_mark := by
    rintro s id - ⟨row', hrow', hrevoked⟩
    exact Cmd.not_unrevoked_exec hrow' hrevoked

theorem revokedOnce_iff {w : World Store Cmd} : RevokedOnce w ↔ oneShot.MarkedOnce w := by
  constructor
  · rintro ⟨honce, hbefore, hnow, hstored⟩
    exact ⟨honce, fun newer e older htrace id ⟨row, hrow⟩ =>
      hbefore newer e older htrace id row hrow.1 hrow.2, fun id ⟨row, hrow⟩ =>
        hnow id row hrow.1 hrow.2, hstored⟩
  · rintro ⟨honce, hbefore, hnow, hstored⟩
    exact ⟨honce, fun newer e older htrace id row hrow hrevoked =>
      hbefore newer e older htrace id ⟨row, hrow, hrevoked⟩, fun id row hrow hrevoked =>
        hnow id ⟨row, hrow, hrevoked⟩, hstored⟩

theorem RevokedOnce.step {w : World Store Cmd} (hw : RevokedOnce w) {i n : ℕ} {c : Cmd}
    (hcond : NotRevokedSince i w c) (hguar : Rotates i w c) :
    RevokedOnce (w.step system i c n) := by
  rw [revokedOnce_iff] at hw ⊢
  refine hw.step ?_ ⟨trivial, ?_⟩
  · rintro id rfl
    exact hcond
  · rintro id rfl
    obtain ⟨⟨s, row, hread, hrow⟩, hstored⟩ := hguar
    exact ⟨⟨s, hread, row, hrow⟩, hstored⟩

def protocol (fault : Error → Prop) : Protocol system where
  cond := NotRevokedSince
  fault := fault
  inv := RevokedOnce
  guar := Rotates
  inv_step hw hcond hguar _ _ := hw.step hcond hguar

/-- The call has read the token with the hash, which was not revoked then. -/
structure HasRead (tokenHash : String) (i id : ℕ) (w : World Store Cmd) : Prop where
  read : ∃ s row, w.lastRead i Cmd.readsToken = some s ∧ s.token? tokenHash = some row ∧
    row.id = id ∧ row.revokedAt = none
  same : (w.store.token? tokenHash).map RefreshToken.id = some id

/-- What a call leaves: a call that returns tokens for a token has read and revoked it. -/
def Exchanged (env : AuthEnv) (calls : List Call) (i : ℕ) (r : Except Error (Option TokenPair))
    (w : World Store Cmd) : Prop :=
  ∀ token tokens, calls[i]? = some (.refresh token) → r = .ok (some tokens) →
    ∃ id, HasRead (env.hashToken token) i id w ∧ w.Did i (Cmd.revokes id)

section Threads

variable {fault : Error → Prop} {i id : ℕ} {tokenHash : String} {w : World Store Cmd} {α : Type}

theorem HasRead.step {j n : ℕ} {c : Cmd} (h : HasRead tokenHash i id w)
    (hc : j ≠ i ∨ c.readsToken = false) : HasRead tokenHash i id (w.step system j c n) where
  read := by
    rw [World.lastRead_step_of_not hc]
    exact h.read
  same := by
    rw [World.store_step]
    exact Cmd.token?_exec h.same

theorem stable_hasRead : (protocol fault).Stable i (HasRead tokenHash i id) := by
  rintro w _ ⟨j, c, n, hj, -, -, -, -, -, -, rfl⟩ h
  exact h.step (Or.inl hj)

/-- The command is neither the look-up of a token nor its rotation. -/
def Cmd.isPlain : Cmd → Bool
  | .findRefreshToken _ | .revokeToken _ => false
  | _ => true

theorem Cmd.readsToken_of_isPlain {c : Cmd} (h : c.isPlain = true) : c.readsToken = false := by
  cases c <;> first | rfl | cases h

theorem Cmd.rotates_of_isPlain {c : Cmd} (h : c.isPlain = true) : Rotates i w c := by
  cases c with
  | revokeToken => cases h
  | _ => trivial

/-- Plain commands keep what a call has read and done. -/
theorem frame_hasRead : (protocol fault).Frame i (fun c => c.isPlain = true)
    fun w => HasRead tokenHash i id w ∧ w.Did i (Cmd.revokes id) where
  stable := stable_hasRead.and (Protocol.stable_did i _)
  performs hc hw _ _ := ⟨Cmd.rotates_of_isPlain hc, fun _ _ _ =>
    ⟨hw.1.step (Or.inr (Cmd.readsToken_of_isPlain hc)), World.did_step.mpr (Or.inr hw.2)⟩⟩

theorem frame_plain : (protocol fault).Frame i (fun c => c.isPlain = true) fun _ => True where
  stable := Protocol.stable_const i True
  performs hc _ _ _ := ⟨Cmd.rotates_of_isPlain hc, fun _ _ _ => trivial⟩

theorem Cmd.isPlain_of_issues {c : Cmd} (h : c.issues = true) : c.isPlain = true := by
  cases c <;> first | rfl | cases h

/-- Every call but `refresh`. -/
theorem plain_program (env : AuthEnv) {call : Call} (h : ∀ token, call ≠ .refresh token) :
    (call.program env).Only fun c => c.isPlain = true :=
  (program_of_not_refresh env h).mono fun c hc => by cases c <;> first | rfl | cases hc

/-! ### `refresh` -/

theorem HasRead.rotates {w : World Store Cmd} (h : HasRead tokenHash i id w) :
    Rotates i w (.revokeToken id) := by
  obtain ⟨s, row, hread, hrow, rfl, hrevoked⟩ := h.read
  obtain ⟨row', hrow', hid⟩ := Option.map_eq_some_iff.mp h.same
  refine ⟨⟨s, row, hread, (Table.find?_of_findFirst hrow).1, hrevoked⟩, ?_⟩
  rw [← hid, (Table.find?_of_findFirst hrow').1]
  rfl

/-- A call that returns tokens has read and revoked the token it presents. -/
theorem wp_refresh (env : AuthEnv) (token : String) :
    (protocol fault).wp i (refresh env token) (fun r w => ∀ tokens, r = .ok tokens →
      ∃ id, HasRead (env.hashToken token) i id w ∧ w.Did i (Cmd.revokes id)) w := by
  refine Protocol.wp_query_bind (Protocol.stable_const i True) trivial (fun w _ _ _ => ?_)
    fun e w _ _ _ tokens h => by cases h
  refine ⟨trivial, fun n _ _ => ?_⟩
  cases env.verify .refresh token w.store with
  | none =>
    intro tokens h
    cases h
  | some payload =>
    refine Protocol.wp_query_bind (Protocol.stable_const i True) trivial (fun w _ _ _ => ?_)
      fun e w _ _ _ tokens h => by cases h
    refine ⟨trivial, fun n _ _ => ?_⟩
    -- what was found is what the token will be
    have hread : ∀ row, w.store.token? (env.hashToken token) = some row → row.revokedAt = none →
        HasRead (env.hashToken token) i row.id
          (w.step system i (.findRefreshToken (env.hashToken token)) n) := by
      intro row hrow hrevoked
      refine ⟨⟨w.store, row, World.lastRead_step_self rfl, hrow, rfl, hrevoked⟩, ?_⟩
      rw [World.store_step]
      exact Cmd.token?_exec (by rw [hrow]; rfl)
    refine Protocol.wp_read_bind (A := fun w' => ∀ row,
      w.store.token? (env.hashToken token) = some row → row.revokedAt = none →
        HasRead (env.hashToken token) i row.id w') ?_ hread fun w₁ hw₁ _ _ => ?_
    · exact fun _ _ hother hw row hrow hrevoked => stable_hasRead hother (hw row hrow hrevoked)
    · refine ⟨trivial, fun n _ _ => ?_⟩
      split
      case h_1 =>
        intro tokens h
        cases h
      case h_2 row hfound =>
        split_ifs with hrefused
        · intro tokens h
          cases h
        · have hrevoked : row.revokedAt = none := by
            rw [not_or, Option.not_isSome_iff_eq_none] at hrefused
            exact hrefused.1
          have hrow : HasRead (env.hashToken token) i row.id (w₁.step system i .date n) :=
            (hw₁ row hfound hrevoked).step (Or.inr rfl)
          refine Protocol.wp_read_bind stable_hasRead hrow fun w₂ hw₂ _ _ => ?_
          refine ⟨trivial, fun n _ _ => ?_⟩
          refine Protocol.wp_queryE_bind stable_hasRead (hw₂.step (Or.inr rfl))
            (fun w₃ hw₃ _ _ => ?_) fun e w _ _ _ tokens h => by cases h
          refine ⟨hw₃.rotates, fun n _ _ => ?_⟩
          have hdid : HasRead (env.hashToken token) i row.id
              (w₃.step system i (.revokeToken row.id) n) ∧
                (w₃.step system i (.revokeToken row.id) n).Did i (Cmd.revokes row.id) :=
            ⟨hw₃.step (Or.inr rfl), World.did_step.mpr (Or.inl ⟨rfl, rfl⟩)⟩
          split_ifs
          · have hrest : Async.Only (fun c => c.isPlain = true) ((Async.queryE (.findUserById payload.sub) fun s =>
                (s.users.find? payload.sub).elim (.error .recordNotFound) .ok).bind fun user =>
                  issueTokenPair env user.id user.phone user.role (some row.id)) :=
              Async.Only.bind (Async.only_queryE.mpr rfl) fun user =>
                (only_issueTokenPair env _ _ _ _).mono fun _ => Cmd.isPlain_of_issues
            exact Protocol.wp_mono (fun r w hw _ _ => ⟨row.id, hw⟩) (frame_hasRead.wp hrest hdid)
          · intro tokens h
            cases h

theorem stable_exchanged (env : AuthEnv) (calls : List Call)
    (r : Except Error (Option TokenPair)) :
    (protocol fault).Stable i (Exchanged env calls i r) := by
  intro w w' hother hw token tokens hcall hr
  obtain ⟨id, hread, hdid⟩ := hw token tokens hcall hr
  exact ⟨id, stable_hasRead hother hread, Protocol.stable_did i _ hother hdid⟩

theorem wp_program (env : AuthEnv) {calls : List Call} {call : Call} (h : calls[i]? = some call) :
    (protocol fault).wp i (call.program env) (Exchanged env calls i) w := by
  by_cases hrefresh : ∃ token, call = .refresh token
  · obtain ⟨token, rfl⟩ := hrefresh
    apply Protocol.wp_bind
    refine Protocol.wp_mono ?_ (wp_refresh env token)
    rintro (e | tokens) w hw token' tokens' hcall hr
    · cases hr
    · rw [h] at hcall
      obtain rfl := Call.refresh.inj (Option.some.inj hcall)
      exact hw tokens rfl
  · have hplain : (call.program env).Only fun c => c.isPlain = true :=
      plain_program env fun token htoken => hrefresh ⟨token, htoken⟩
    refine Protocol.wp_mono ?_ (frame_plain.wp hplain trivial)
    intro r w _ token tokens hcall _
    rw [h] at hcall
    exact absurd ⟨token, Option.some.inj hcall⟩ hrefresh

end Threads

theorem revokedOnce_start (s : Store) : RevokedOnce (⟨s, []⟩ : World Store Cmd) :=
  revokedOnce_iff.mpr (OneShot.markedOnce_init s)

theorem safe_run {env : AuthEnv} {fault : Error → Prop} {s : Store} {calls : List Call}
    {q : Pool Store Cmd Error (Option TokenPair)}
    (hrun : Pool.Run system NotRevokedSince fault (start env s calls) q) :
    (protocol fault).Safe (Exchanged env calls) q :=
  safe_of_run (P := protocol fault) (fun _ r => stable_exchanged env calls r) (revokedOnce_start s)
    (fun _ _ hcall => wp_program env hcall) hrun

/-- A call has returned tokens for the token. -/
def Returned (calls : List Call) (q : Pool Store Cmd Error (Option TokenPair)) (token : String)
    (i : ℕ) : Prop :=
  calls[i]? = some (.refresh token) ∧ (returned? q i).isSome = true

instance (calls : List Call) (q : Pool Store Cmd Error (Option TokenPair)) (token : String)
    (i : ℕ) : Decidable (Returned calls q token i) :=
  inferInstanceAs (Decidable (_ ∧ _))

/-- In every run in which no call revokes a token that another call has revoked since this call has
read it, at most one call of `refresh` returns tokens for a token, and the token was not revoked when
this call read it. -/
theorem refresh_at_most_once (env : AuthEnv) (fault : Error → Prop) (s : Store) (calls : List Call)
    {q : Pool Store Cmd Error (Option TokenPair)}
    (hrun : Pool.Run system NotRevokedSince fault (start env s calls) q) (token : String) :
    (∀ i j, Returned calls q token i → Returned calls q token j → i = j) ∧
    ∀ i, Returned calls q token i → ∃ read row, q.world.lastRead i Cmd.readsToken = some read ∧
      read.token? (env.hashToken token) = some row ∧ row.revokedAt = none := by
  have hsafe := safe_run hrun
  have hexchanged : ∀ i, Returned calls q token i →
      ∃ id, HasRead (env.hashToken token) i id q.world ∧ q.world.Did i (Cmd.revokes id) := by
    rintro i ⟨hcall, hreturned⟩
    obtain ⟨tokens, htokens⟩ := Option.isSome_iff_exists.mp hreturned
    exact hsafe.threads (done_of_returned? htokens) token tokens hcall rfl
  refine ⟨fun i j hi hj => ?_, fun i hi => ?_⟩
  · obtain ⟨id, hread, e, he, rfl, c, hkind, hc⟩ := hexchanged i hi
    obtain ⟨id', hread', e', he', rfl, c', hkind', hc'⟩ := hexchanged j hj
    obtain rfl : id = id' := Option.some.inj (hread.same.symm.trans hread'.same)
    -- both calls have revoked the same token
    obtain rfl := Cmd.eq_of_revokes hc
    obtain rfl := Cmd.eq_of_revokes hc'
    exact hsafe.inv.once id e he e' he' hkind hkind'
  · obtain ⟨id, ⟨⟨read, row, hlast, hrow, -, hrevoked⟩, -⟩, -⟩ := hexchanged i hi
    exact ⟨read, row, hlast, hrow, hrevoked⟩

/-! ### Runs -/

instance (i : ℕ) (w : World Store Cmd) (c : Cmd) : Decidable (NotRevokedSince i w c) := by
  unfold NotRevokedSince
  split <;> infer_instance

namespace Rotation

/-- The token is presented twice. -/
def twice : List Call := [.refresh "t", .refresh "t"]

/-- The first call runs to its end before the second one starts. -/
def oneByOne : List ℕ := [0, 0, 0, 0, 0, 0, 0, 0, 0, 0, 0, 1, 1, 1]

/-- Both calls read the token before either of them revokes it. -/
def together : List ℕ :=
  [0, 0, 0, 0, 1, 1, 1, 1, 0, 0, 0, 0, 0, 0, 0, 1, 1, 1, 1, 1, 1, 1]

end Rotation

open Town Rotation in
/-- The second call finds the token revoked. -/
theorem refresh_at_most_once_one_by_one :
    ∃ q, Returned twice q "t" 0 ∧ ¬ Returned twice q "t" 1 ∧
      ∀ i, Returned twice q "t" i → i = 0 := by
  obtain ⟨q, hrun, hfirst, hsecond⟩ := Pool.exists_run_of_schedule? system NotRevokedSince
    (fun _ => False) (start env store twice) oneByOne
    (fun q => Returned twice q "t" 0 ∧ ¬ Returned twice q "t" 1) (by decide +kernel)
  refine ⟨q, hfirst, hsecond, fun i hi => ?_⟩
  exact (refresh_at_most_once env _ store twice hrun "t").1 i 0 hi hfirst

open Town Rotation in
/-- Both calls return tokens. -/
theorem refresh_twice :
    ∃ q, Pool.Run system (fun _ _ _ => True) (fun _ => False) (start env store twice) q ∧
      Returned twice q "t" 0 ∧ Returned twice q "t" 1 :=
  Pool.exists_run_of_schedule? system (fun _ _ _ => True) (fun _ => False)
    (start env store twice) together (fun q => Returned twice q "t" 0 ∧ Returned twice q "t" 1)
    (by decide +kernel)

end Telima.Auth
