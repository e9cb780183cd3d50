import Telima.Auth.Accounts
import Telima.Auth.Tokens

/-!
# The refresh tokens that are issued

A refresh token is signed from the user and the second, so two tokens of a user that are signed in one
second are one token, and its hash is refused the second time.  If no token is stored for a user and a
second for which one was stored before, then no hash is refused and the tokens that calls return are
distinct (`refresh_tokens_distinct`).
-/

namespace Telima.Auth

open AuthService

/-- A token is signed. -/
def Cmd.signs : Cmd → Bool
  | .signJwt => true
  | _ => false

/-- The command stores a refresh token. -/
def Cmd.storesToken : Cmd → Bool
  | .createRefreshToken .. => true
  | _ => false

/-- What a call signs, and in which second. -/
def signed? (w : World Store Cmd) (i : ℕ) : Option (JwtPayload × ℕ) :=
  (lastUser w i).bind fun user =>
    (w.lastRead i Cmd.signs).map fun s => (user.payload, s.now / 1000)

/-- No token was stored for the user and the second. -/
def NotInSecond (i : ℕ) (w : World Store Cmd) : Cmd → Prop
  | .createRefreshToken .. => ∀ e ∈ w.trace, e.kind.performs Cmd.storesToken = true →
    signed? w e.tid ≠ signed? w i
  | _ => True

instance (i : ℕ) (w : World Store Cmd) (c : Cmd) : Decidable (NotInSecond i w c) := by
  unfold NotInSecond
  split <;> infer_instance

/-- The token is not stored: its hash is taken. -/
def Refused (e : Event Store Cmd) : Bool :=
  match e.kind with
  | .did (.createRefreshToken _ tokenHash _ _) => e.before.isTaken tokenHash
  | _ => false

/-- Every token was stored. -/
def NoneRefused (w : World Store Cmd) : Prop := ∀ e ∈ w.trace, Refused e = false

instance (w : World Store Cmd) : Decidable (NoneRefused w) :=
  inferInstanceAs (Decidable (∀ e ∈ w.trace, _))

/-- The command decides what a call signs. -/
def Cmd.identifies : Cmd → Bool
  | .findUserByPhone _ | .createUser _ | .findAdmin _ | .findUserById _ | .signJwt => true
  | _ => false

namespace Issuing

/-- The call has signed a refresh token for the user in the store. -/
structure Signed (user : User) (s : Store) (i : ℕ) (w : World Store Cmd) : Prop where
  user : lastUser w i = some user
  read : w.lastRead i Cmd.signs = some s

section Steps

variable {w : World Store Cmd} {i j n : ℕ} {c : Cmd} {user : User} {s : Store}

theorem Cmd.user?_of_not (h : c.identifies = false) : c.user? s = none := by
  cases c <;> first | rfl | cases h

theorem Cmd.signs_of_not (h : c.identifies = false) : c.signs = false := by
  cases c <;> first | rfl | cases h

theorem Signed.signed? (h : Signed user s i w) :
    signed? w i = some (user.payload, s.now / 1000) := by
  rw [Auth.signed?, h.user, h.read]
  rfl

theorem Signed.step (h : Signed user s i w) (hc : j ≠ i ∨ c.identifies = false) :
    Signed user s i (w.step system j c n) where
  user := by
    rw [lastUser_step_of_not (hc.imp_right Cmd.user?_of_not)]
    exact h.user
  read := by
    rw [World.lastRead_step_of_not (hc.imp_right Cmd.signs_of_not)]
    exact h.read

/-- A row has the hash of a token that was stored. -/
theorem exists_stored {row : RefreshToken} (h : row ∈ (c.exec s).refreshTokens.rows) :
    (∃ row' ∈ s.refreshTokens.rows, row'.tokenHash = row.tokenHash) ∨
      ∃ userId expiresAt replacedBy,
        c = .createRefreshToken userId row.tokenHash expiresAt replacedBy := by
  cases c.tokensStep s with
  | kept hkept =>
    rw [hkept] at h
    exact Or.inl ⟨row, h, rfl⟩
  | updated hf hupdated hhash _ =>
    rw [hupdated] at h
    obtain ⟨row', hrow', rfl⟩ := List.mem_map.mp h
    refine Or.inl ⟨row', hrow', ?_⟩
    split_ifs
    · exact (hhash row').symm
    · rfl
  | inserted hc _ hinserted =>
    rw [hinserted] at h
    rcases Table.mem_insert h with hrow | rfl
    · exact Or.inl ⟨row, hrow, rfl⟩
    · exact Or.inr ⟨_, _, _, hc⟩

end Steps

/-! ### The protocol -/

/-- Every token that was stored was signed, its hash was not taken, and no two were signed for one user in
one second. -/
structure Distinct (env : AuthEnv) (w : World Store Cmd) : Prop where
  key : ∀ e ∈ w.trace, ∀ userId tokenHash expiresAt replacedBy,
    e.kind = .did (.createRefreshToken userId tokenHash expiresAt replacedBy) →
      ∃ user s, Signed user s e.tid w ∧ tokenHash = env.hashToken (env.sign .refresh user.payload s)
  rows : ∀ row ∈ w.store.refreshTokens.rows, ∃ e ∈ w.trace, ∃ userId expiresAt replacedBy,
    e.kind = .did (.createRefreshToken userId row.tokenHash expiresAt replacedBy)
  free : NoneRefused w
  apart : ∀ i j, i ≠ j → w.Did i (Cmd.storesToken · = true) → w.Did j (Cmd.storesToken · = true) →
    signed? w i ≠ signed? w j

/-- What a call promises when it performs a command. -/
def Guards (env : AuthEnv) (i : ℕ) (w : World Store Cmd) : Cmd → Prop
  | .findUserByPhone _ | .createUser _ | .findAdmin _ | .findUserById _ | .signJwt =>
    ¬ w.Did i (Cmd.storesToken · = true)
  | .createRefreshToken _ tokenHash _ _ => ∃ user s, Signed user s i w ∧
    tokenHash = env.hashToken (env.sign .refresh user.payload s)
  | _ => True

section Invariant

variable {env : AuthEnv} {w : World Store Cmd} {i n : ℕ} {c : Cmd}

theorem Guards.not_did (h : Guards env i w c) (hc : c.identifies = true) :
    ¬ w.Did i (Cmd.storesToken · = true) := by
  cases c <;> first | exact h | cases hc

/-- A call that has stored its token signs no more. -/
theorem Guards.of_did {k : ℕ} (h : Guards env i w c) (hdid : w.Did k (Cmd.storesToken · = true)) :
    i ≠ k ∨ c.identifies = false := by
  by_cases hi : i = k
  · subst hi
    exact Or.inr (Bool.eq_false_iff.mpr fun hc => h.not_did hc hdid)
  · exact Or.inl hi

theorem did_of_kind {e : Event Store Cmd} {userId expiresAt : ℕ} {tokenHash : String}
    {replacedBy : Option ℕ} (he : e ∈ w.trace)
    (hkind : e.kind = .did (.createRefreshToken userId tokenHash expiresAt replacedBy)) :
    w.Did e.tid (Cmd.storesToken · = true) :=
  ⟨e, he, rfl, _, hkind, rfl⟩

theorem signed?_step {k : ℕ} (hc : i ≠ k ∨ c.identifies = false) :
    signed? (w.step system i c n) k = signed? w k := by
  rw [signed?, signed?, lastUser_step_of_not (hc.imp_right Cmd.user?_of_not),
    World.lastRead_step_of_not (hc.imp_right Cmd.signs_of_not)]

/-- The hash of a new token. -/
theorem Distinct.free_new (hhash : Function.Injective env.hashToken)
    (hsign : ∀ payload payload' s s', env.sign .refresh payload s = env.sign .refresh payload' s' →
      payload = payload' ∧ s.now / 1000 = s'.now / 1000)
    (hw : Distinct env w) {userId expiresAt : ℕ} {tokenHash : String} {replacedBy : Option ℕ}
    (hcond : NotInSecond i w (.createRefreshToken userId tokenHash expiresAt replacedBy))
    (hguar : Guards env i w (.createRefreshToken userId tokenHash expiresAt replacedBy)) :
    w.store.isTaken tokenHash = false := by
  rw [Bool.eq_false_iff]
  intro htaken
  obtain ⟨row, hrow, hsame⟩ := List.any_eq_true.mp htaken
  obtain ⟨e, he, userId', expiresAt', replacedBy', hkind⟩ := hw.rows row hrow
  obtain ⟨user', s', hsigned', hhash'⟩ := hw.key e he _ _ _ _ hkind
  obtain ⟨user, s, hsigned, hhash''⟩ := hguar
  -- the token of the row was signed for this user in this second
  have htoken : env.sign .refresh user'.payload s' = env.sign .refresh user.payload s := by
    refine hhash ?_
    rw [← hhash', ← hhash'']
    exact of_decide_eq_true hsame
  obtain ⟨hpayload, hsecond⟩ := hsign _ _ _ _ htoken
  refine hcond e he (by rw [hkind]; rfl) ?_
  rw [hsigned'.signed?, hsigned.signed?, hpayload, hsecond]

theorem Distinct.step (hhash : Function.Injective env.hashToken)
    (hsign : ∀ payload payload' s s', env.sign .refresh payload s = env.sign .refresh payload' s' →
      payload = payload' ∧ s.now / 1000 = s'.now / 1000)
    (hw : Distinct env w) (hcond : NotInSecond i w c) (hguar : Guards env i w c) :
    Distinct env (w.step system i c n) where
  key := by
    intro e he userId tokenHash expiresAt replacedBy hkind
    rw [trace_step] at he
    rcases List.mem_cons.mp he with rfl | hold
    · obtain rfl := EventKind.did.inj hkind
      obtain ⟨user, s, hsigned, hhash'⟩ := hguar
      exact ⟨user, s, hsigned.step (Or.inr rfl), hhash'⟩
    · obtain ⟨user, s, hsigned, hhash'⟩ := hw.key e hold userId tokenHash expiresAt replacedBy hkind
      exact ⟨user, s, hsigned.step (hguar.of_did (did_of_kind hold hkind)), hhash'⟩
  rows := by
    intro row hrow
    rw [World.store_step] at hrow
    rw [trace_step]
    rcases exists_stored hrow with ⟨row', hrow', hsame⟩ | ⟨userId, expiresAt, replacedBy, rfl⟩
    · obtain ⟨e, he, userId, expiresAt, replacedBy, hkind⟩ := hw.rows row' hrow'
      rw [hsame] at hkind
      exact ⟨e, List.mem_cons_of_mem _ he, userId, expiresAt, replacedBy, hkind⟩
    · exact ⟨_, List.mem_cons_self, userId, expiresAt, replacedBy, rfl⟩
  free := by
    intro e he
    rw [trace_step] at he
    rcases List.mem_cons.mp he with rfl | hold
    · cases c with
      | createRefreshToken => exact hw.free_new hhash hsign hcond hguar
      | _ => rfl
    · exact hw.free e hold
  apart := by
    -- a call that stores its token now signs something new
    have hnew : ∀ k, c.storesToken = true → i ≠ k → w.Did k (Cmd.storesToken · = true) →
        signed? w k ≠ signed? w i := by
      intro k hc _ hdid
      obtain ⟨e, he, rfl, hkind⟩ := World.did_iff_performs.mp hdid
      cases c with
      | createRefreshToken => exact hcond e he hkind
      | _ => cases hc
    have hstays : c.storesToken = true → c.identifies = false := by
      intro hc
      cases c <;> first | rfl | cases hc
    intro k l hne hk hl
    rcases World.did_step.mp hk with ⟨rfl, hc⟩ | hk <;> rcases World.did_step.mp hl with ⟨rfl, hc'⟩ | hl
    · exact absurd rfl hne
    · rw [signed?_step (Or.inr (hstays hc)), signed?_step (Or.inr (hstays hc))]
      exact (hnew l hc hne hl).symm
    · rw [signed?_step (Or.inr (hstays hc')), signed?_step (Or.inr (hstays hc'))]
      exact hnew k hc' (Ne.symm hne) hk
    · rw [signed?_step (hguar.of_did hk), signed?_step (hguar.of_did hl)]
      exact hw.apart k l hne hk hl

end Invariant

def protocol (env : AuthEnv) (hhash : Function.Injective env.hashToken)
    (hsign : ∀ payload payload' s s', env.sign .refresh payload s = env.sign .refresh payload' s' →
      payload = payload' ∧ s.now / 1000 = s'.now / 1000) (fault : Error → Prop) : Protocol system where
  cond := NotInSecond
  fault := fault
  inv := Distinct env
  guar := Guards env
  inv_step hw hc hguar _ _ := hw.step hhash hsign hc hguar

/-- What a call leaves: a call that returns tokens has stored the refresh token it has signed. -/
def Issued (env : AuthEnv) (i : ℕ) (tokens : TokenPair) (w : World Store Cmd) : Prop :=
  ∃ user s, Signed user s i w ∧ tokens.refreshToken = env.sign .refresh user.payload s ∧
    w.Did i (Cmd.storesToken · = true)

section Threads

variable {env : AuthEnv} {fault : Error → Prop} {P : Protocol system} {w : World Store Cmd} {i n : ℕ}
  {user : User} {α : Type}

/-- The call has stored no token. -/
def NotYet (i : ℕ) (w : World Store Cmd) : Prop := ¬ w.Did i (Cmd.storesToken · = true)

/-- The call has found the user, and stored no token. -/
def HasUser (user : User) (i : ℕ) (w : World Store Cmd) : Prop :=
  NotYet i w ∧ lastUser w i = some user

theorem stable_hasUser (P : Protocol system) (user : User) (i : ℕ) : P.Stable i (HasUser user i) := by
  rintro w _ ⟨j, c, n, hj, -, -, -, -, -, -, rfl⟩ ⟨hdid, huser⟩
  refine ⟨by rwa [NotYet, World.did_step_of_ne hj], ?_⟩
  rwa [lastUser_step_of_not (Or.inl hj)]

theorem stable_signed (P : Protocol system) (user : User) (s : Store) (i : ℕ) :
    P.Stable i (Signed user s i) := by
  rintro w _ ⟨j, c, n, hj, -, -, -, -, -, -, rfl⟩ h
  exact h.step (Or.inl hj)

theorem NotYet.step {c : Cmd} (h : NotYet i w) (hc : c.storesToken = false) :
    NotYet i (w.step system i c n) := by
  rw [NotYet, World.did_step_of_not (by rw [hc]; exact Bool.false_ne_true)]
  exact h

theorem HasUser.step {c : Cmd} (h : HasUser user i w) (hc : c.storesToken = false)
    (huser : c.user? w.store = none) : HasUser user i (w.step system i c n) := by
  refine ⟨h.1.step hc, ?_⟩
  rw [lastUser_step_of_not (Or.inr huser)]
  exact h.2

/-- A look-up that finds the user. -/
theorem NotYet.hasUser {c : Cmd} (h : NotYet i w) (hc : c.storesToken = false)
    (huser : c.user? w.store = some user) : HasUser user i (w.step system i c n) :=
  ⟨h.step hc, World.lastAnswer_step_self huser⟩

variable (hP : ∀ {i w c}, Guards env i w c → P.guar i w c)

theorem guards_of_not {c : Cmd} (hc : c.storesToken = false) (hw : NotYet i w) : Guards env i w c := by
  cases c <;> first | exact hw | trivial

theorem Cmd.storesToken_of_precedes {c : Cmd} (h : c.precedesTokens = true) : c.storesToken = false := by
  cases c <;> first | rfl | cases h

theorem Cmd.storesToken_of_user? {c : Cmd} {s : Store} (h : c.user? s = some user) :
    c.storesToken = false := by
  cases c <;> first | rfl | cases h

include hP in
theorem wp_issueTokenPair (replacedTokenId : Option ℕ) (hw : HasUser user i w) :
    P.wp i (issueTokenPair env user.id user.phone user.role replacedTokenId)
      (fun r w => ∀ tokens, r = .ok tokens → Issued env i tokens w) w := by
  refine Protocol.wp_query_bind (stable_hasUser P user i) hw (fun w hw _ _ => ?_)
    fun _ _ _ _ _ _ h => by cases h
  refine ⟨hP hw.1, fun n _ _ => ?_⟩
  refine Protocol.wp_query_bind (stable_hasUser P user i) (hw.step rfl rfl) (fun w₁ hw₁ _ _ => ?_)
    fun _ _ _ _ _ _ h => by cases h
  refine ⟨hP hw₁.1, fun n _ _ => ?_⟩
  have hsigned : Signed user w₁.store i (w₁.step system i .signJwt n) :=
    ⟨(hw₁.step rfl rfl).2, World.lastRead_step_self rfl⟩
  refine Protocol.wp_read_bind (stable_signed P user w₁.store i) hsigned fun w₂ hw₂ _ _ => ?_
  refine ⟨hP trivial, fun n _ _ => ?_⟩
  refine Protocol.wp_queryE_bind (stable_signed P user w₁.store i) (hw₂.step (Or.inr rfl))
    (fun w₃ hw₃ _ _ => ?_) fun _ _ _ _ _ _ h => by cases h
  refine ⟨hP ⟨user, w₁.store, hw₃, rfl⟩, fun n _ _ => ?_⟩
  split_ifs
  · exact fun _ h => by cases h
  · -- the token is stored
    have hstable := (stable_signed P user w₁.store i).and
      (Protocol.stable_did (P := P) i (Cmd.storesToken · = true))
    cases replacedTokenId with
    | none =>
      rintro tokens h
      obtain rfl := Except.ok.inj h
      exact ⟨user, w₁.store, hw₃.step (Or.inr rfl), rfl, World.did_step.mpr (Or.inl ⟨rfl, rfl⟩)⟩
    | some id =>
      refine Protocol.wp_queryE_bind hstable
        ⟨hw₃.step (Or.inr rfl), World.did_step.mpr (Or.inl ⟨rfl, rfl⟩)⟩ (fun w₄ hw₄ _ _ => ?_)
        fun _ _ _ _ _ _ h => by cases h
      refine ⟨hP trivial, fun n _ _ => ?_⟩
      split_ifs
      · rintro tokens h
        obtain rfl := Except.ok.inj h
        exact ⟨user, w₁.store, hw₄.1.step (Or.inr rfl), rfl, World.did_step.mpr (Or.inr hw₄.2)⟩
      · exact fun _ h => by cases h

include hP in
/-- What a call knows of the user it has found. -/
theorem issues (i : ℕ) : Issues env P i (NotYet i) (fun user => HasUser user i)
    (fun user => HasUser user i) (Issued env i) where
  search := by
    refine ⟨Protocol.stable_not_did i _, fun hc hw _ _ => ?_⟩
    have hstores := Cmd.storesToken_of_precedes hc
    exact ⟨hP (guards_of_not hstores hw), fun _ _ _ => hw.step hstores⟩
  stable_found user := stable_hasUser P user i
  find c user w huser hw _ _ := by
    have hstores := Cmd.storesToken_of_user? huser
    exact ⟨hP (guards_of_not hstores hw), fun _ _ _ => hw.hasUser hstores huser⟩
  compare _ _ _ _ hw _ _ := ⟨hP trivial, fun _ _ _ => hw.step rfl rfl⟩
  ready _ _ _ hw := hw
  findById _ _ _ huser hw _ _ := ⟨hP hw, fun _ _ _ => hw.hasUser rfl huser⟩
  issue _ replacedTokenId _ hw := wp_issueTokenPair hP replacedTokenId hw

theorem stable_issued (P : Protocol system) (i : ℕ) (r : Except Error (Option TokenPair)) :
    P.Stable i fun w => ∀ tokens, r = .ok (some tokens) → Issued env i tokens w := by
  intro w w' hother h tokens hr
  obtain ⟨user, s, hsigned, htoken, hdid⟩ := h tokens hr
  exact ⟨user, s, stable_signed P user s i hother hsigned, htoken,
    Protocol.stable_did i _ hother hdid⟩

end Threads

end Issuing

/-- Where a hash determines a token, and a refresh token its user and the second in which it was signed:
from an empty table, in every run in which no token is stored for a user and a second for which one was
stored before, no new hash is taken, and the refresh tokens that two calls return are distinct. -/
theorem refresh_tokens_distinct (env : AuthEnv) (hhash : Function.Injective env.hashToken)
    (hsign : ∀ payload payload' s s', env.sign .refresh payload s = env.sign .refresh payload' s' →
      payload = payload' ∧ s.now / 1000 = s'.now / 1000)
    (fault : Error → Prop) (s : Store) (hempty : s.refreshTokens.rows = []) (calls : List Call)
    {q : Pool Store Cmd Error (Option TokenPair)}
    (hrun : Pool.Run system NotInSecond fault (start env s calls) q) :
    NoneRefused q.world ∧ ∀ i j tokens tokens', i ≠ j → returned? q i = some tokens →
      returned? q j = some tokens' → tokens.refreshToken ≠ tokens'.refreshToken := by
  have hnot : ∀ i, Issuing.NotYet i (⟨s, []⟩ : World Store Cmd) := by
    rintro i ⟨e, he, -⟩
    exact absurd he List.not_mem_nil
  have hinv : Issuing.Distinct env ⟨s, []⟩ := by
    refine ⟨fun e he => absurd he List.not_mem_nil, fun row hrow => ?_,
      fun e he => absurd he List.not_mem_nil, fun i j _ hi => absurd hi (hnot i)⟩
    rw [hempty] at hrow
    exact absurd hrow List.not_mem_nil
  have hsafe := safe_of_run (P := Issuing.protocol env hhash hsign fault)
    (fun i r => Issuing.stable_issued _ i r) hinv
    (fun i call _ => (Issuing.issues (fun h => h) i).wp_program call (hnot i)) hrun
  have hissued : ∀ i tokens, returned? q i = some tokens → Issuing.Issued env i tokens q.world :=
    fun i tokens h => hsafe.threads (done_of_returned? h) tokens rfl
  refine ⟨hsafe.inv.free, fun i j tokens tokens' hne hi hj hsame => ?_⟩
  obtain ⟨user, read, hsigned, htoken, hdid⟩ := hissued i tokens hi
  obtain ⟨user', read', hsigned', htoken', hdid'⟩ := hissued j tokens' hj
  rw [htoken, htoken'] at hsame
  obtain ⟨hpayload, hsecond⟩ := hsign _ _ _ _ hsame
  refine hsafe.inv.apart i j hne hdid hdid' ?_
  rw [hsigned.signed?, hsigned'.signed?, hpayload, hsecond]

/-! ### Runs -/

namespace Issuing

open Town

def letter : UserRole → Char
  | .client => 'c'
  | .driver => 'd'
  | .admin => 'a'

theorem letter_injective : Function.Injective letter := by
  intro role role' h
  cases role <;> cases role' <;> first | rfl | exact absurd h (by decide)

/-- A token that shows what it says and the second in which it was signed. -/
def token (payload : JwtPayload) (second : ℕ) : String :=
  String.ofList (List.replicate payload.sub '1' ++ '.' :: (List.replicate second '1' ++
    '.' :: letter payload.role :: payload.phone.toList))

/-- Tokens are signed from the user and the second. -/
def perSecond : AuthEnv :=
  { env with sign := fun _ payload s => token payload (s.now / 1000) }

theorem replicate_append_inj {m n : ℕ} {xs ys : List Char}
    (h : List.replicate m '1' ++ '.' :: xs = List.replicate n '1' ++ '.' :: ys) : m = n ∧ xs = ys := by
  induction m generalizing n with
  | zero =>
    cases n with
    | zero => exact ⟨rfl, (List.cons.inj h).2⟩
    | succ n => exact absurd (List.cons.inj h).1 (by decide)
  | succ m ih =>
    cases n with
    | zero => exact absurd (List.cons.inj h).1 (by decide)
    | succ n =>
      obtain ⟨rfl, hrest⟩ := ih (List.cons.inj h).2
      exact ⟨rfl, hrest⟩

theorem token_inj {payload payload' : JwtPayload} {second second' : ℕ}
    (h : token payload second = token payload' second') : payload = payload' ∧ second = second' := by
  obtain ⟨sub, phone, role⟩ := payload
  obtain ⟨sub', phone', role'⟩ := payload'
  obtain ⟨hsub, hrest⟩ := replicate_append_inj (String.ofList_injective h)
  obtain ⟨rfl, hrole⟩ := replicate_append_inj hrest
  obtain ⟨hletter, hphone⟩ := List.cons.inj hrole
  obtain rfl : sub = sub' := hsub
  obtain rfl : phone = phone' := String.toList_injective hphone
  obtain rfl : role = role' := letter_injective hletter
  exact ⟨rfl, rfl⟩

/-- User 1 is an administrator. -/
def admin : Store where
  users :=
    .single { id := 1
              phone := "+22370000001"
              role := .admin
              email := some "a@telima.ml"
              passwordHash := some "secret" }

/-- Two logins of user 1, and a second in between. -/
def twice : List Call :=
  [.adminLogin "a@telima.ml" "secret", .adminLogin "a@telima.ml" "secret", .wait 1000]

def secondLater : List ℕ := [0, 0, 0, 0, 0, 0, 2, 1, 1, 1, 1, 1, 1]

def sameSecond : List ℕ := [0, 0, 0, 0, 0, 0, 1, 1, 1, 1, 1, 1]

end Issuing

open Issuing in
/-- Two logins in two seconds return two tokens. -/
theorem refresh_tokens_distinct_second_later :
    ∃ q, NoneRefused q.world ∧ ∃ tokens tokens', returned? q 0 = some tokens ∧
      returned? q 1 = some tokens' ∧ tokens.refreshToken ≠ tokens'.refreshToken := by
  obtain ⟨q, hrun, hfirst, hsecond⟩ := Pool.exists_run_of_schedule? system NotInSecond
    (fun _ => False) (start perSecond admin twice) secondLater
    (fun q => (returned? q 0).isSome = true ∧ (returned? q 1).isSome = true) (by decide +kernel)
  obtain ⟨tokens, htokens⟩ := Option.isSome_iff_exists.mp hfirst
  obtain ⟨tokens', htokens'⟩ := Option.isSome_iff_exists.mp hsecond
  have hdistinct := refresh_tokens_distinct perSecond (fun _ _ h => h) (fun _ _ _ _ => token_inj) _
    admin rfl twice hrun
  exact ⟨q, hdistinct.1, tokens, tokens', htokens, htokens',
    hdistinct.2 0 1 tokens tokens' (by decide) htokens htokens'⟩

open Issuing in
/-- The second of two logins in one second fails. -/
theorem refresh_token_refused :
    Function.Injective perSecond.hashToken ∧
      (∀ secret payload s s', s.now / 1000 = s'.now / 1000 →
        perSecond.sign secret payload s = perSecond.sign secret payload s') ∧
      ∃ q, Pool.Run system (fun _ _ _ => True) (fun _ => False) (start perSecond admin twice) q ∧
        (returned? q 0).isSome = true ∧ ¬ NoneRefused q.world := by
  refine ⟨fun _ _ h => h, fun _ payload _ _ h => congrArg (token payload) h, ?_⟩
  exact Pool.exists_run_of_schedule? system (fun _ _ _ => True) (fun _ => False)
    (start perSecond admin twice) sameSecond
    (fun q => (returned? q 0).isSome = true ∧ ¬ NoneRefused q.world) (by decide +kernel)

end Telima.Auth
