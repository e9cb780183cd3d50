import Telima.Auth.Service

/-!
# What the functions of `AuthService` do to the tables

Which commands the functions that issue tokens perform.
-/

namespace Telima.Auth

open AuthService

/-- The commands of `issueTokenPair`. -/
def Cmd.issues : Cmd → Bool
  | .signJwt | .date | .createRefreshToken .. | .replaceToken .. => true
  | _ => false

/-- The commands of a login that issues tokens, the first of their chain. -/
def Cmd.issuesFirst : Cmd → Bool
  | .signJwt | .date | .createRefreshToken _ _ _ none => true
  | _ => false

theorem Cmd.issues_of_first {c : Cmd} (h : c.issuesFirst = true) : c.issues = true := by
  cases c <;> first | rfl | cases h

/-- The commands of the logins and of `refresh`, `logout` and `updateUser`: no code is read or
written, and no text is compared with the hash of a code. -/
def Cmd.leavesOtps : Cmd → Bool
  | .findLastOtp _ | .findPendingOtp _ | .createOtp .. | .attemptOtp .. | .consumeOtp _ | .otpSent ..
  | .deleteOtp _ | .compareCode .. => false
  | _ => true

theorem Cmd.leavesOtps_of_issues {c : Cmd} (h : c.issues = true) : c.leavesOtps = true := by
  cases c <;> first | rfl | cases h

variable (env : AuthEnv)

theorem only_issueTokenPair (userId : ℕ) (phone : String) (role : UserRole)
    (replacedTokenId : Option ℕ) :
    (issueTokenPair env userId phone role replacedTokenId).Only fun c => c.issues = true := by
  refine Async.only_query_bind.mpr ⟨rfl, fun _ => ?_⟩
  refine Async.only_query_bind.mpr ⟨rfl, fun _ => ?_⟩
  refine Async.only_read_bind.mpr ⟨rfl, fun _ => ?_⟩
  refine Async.Only.bind (Async.only_queryE.mpr rfl) fun _ => ?_
  cases replacedTokenId with
  | none => trivial
  | some id => exact Async.Only.bind (Async.only_queryE.mpr rfl) fun _ => trivial

theorem only_loginUser (user : User) (isNewUser : Bool) :
    (loginUser env user isNewUser).Only fun c => c.issuesFirst = true := by
  unfold loginUser
  split_ifs
  · trivial
  · refine Async.Only.bind ?_ fun _ => trivial
    refine Async.only_query_bind.mpr ⟨rfl, fun _ => ?_⟩
    refine Async.only_query_bind.mpr ⟨rfl, fun _ => ?_⟩
    refine Async.only_read_bind.mpr ⟨rfl, fun _ => ?_⟩
    exact Async.Only.bind (Async.only_queryE.mpr rfl) fun _ => trivial

/-- The commands of a login, where `H` is met by the look-up of the user and the new row. -/
theorem only_completeLogin {H : Cmd → Prop} (phone : String)
    (hissues : ∀ c, c.issuesFirst = true → H c)
    (hfind : H (.findUserByPhone phone)) (hcreate : H (.createUser phone)) :
    (completeLogin env phone).Only H := by
  refine Async.only_query_bind.mpr ⟨hfind, fun s => ?_⟩
  cases s.users.findFirst fun u => decide (u.phone = phone) with
  | none =>
    refine Async.Only.bind (Async.only_queryE.mpr hcreate) fun user => ?_
    exact (only_loginUser env user true).mono hissues
  | some user => exact (only_loginUser env user _).mono hissues

theorem only_adminLogin {H : Cmd → Prop} (email password : String)
    (hissues : ∀ c, c.issuesFirst = true → H c) (hfind : H (.findAdmin email))
    (hcompare : ∀ passwordHash, H (.comparePassword password passwordHash)) :
    (adminLogin env email password).Only H := by
  refine Async.only_query_bind.mpr ⟨hfind, fun s => ?_⟩
  split
  · trivial
  · split
    · trivial
    · split_ifs
      · trivial
      · refine Async.only_query_bind.mpr ⟨hcompare _, fun _ => ?_⟩
        split_ifs
        · trivial
        · exact (only_loginUser env _ false).mono hissues

theorem only_updateUser {H : Cmd → Prop} (userId : ℕ) (dto : UpdateUserDto)
    (hhash : ∀ text, H (.bcryptHash text))
    (hupdate : ∀ data : UserData, data.phone = dto.phone → H (.updateUser userId data)) :
    (AdminUsersTripsController.updateUser env userId dto).Only H := by
  refine Async.Only.bind ?_ fun _ => Async.only_queryE.mpr (hupdate _ rfl)
  unfold AdminUsersTripsController.hashPassword
  split
  · split_ifs
    · trivial
    · exact Async.only_query.mpr (hhash _)
  · trivial

/-- The commands of a refresh, where `H` is met by the look-ups and the rotation. -/
theorem only_refresh {H : Cmd → Prop} (token : String) (hissues : ∀ c, c.issues = true → H c)
    (hverify : H .verifyJwt) (hfind : H (.findRefreshToken (env.hashToken token)))
    (hrevoke : ∀ tokenId, H (.revokeToken tokenId)) (huser : ∀ userId, H (.findUserById userId)) :
    (refresh env token).Only H := by
  have hdate : H .date := hissues .date rfl
  refine Async.only_query_bind.mpr ⟨hverify, fun s => ?_⟩
  split
  · trivial
  · refine Async.only_query_bind.mpr ⟨hfind, fun s => ?_⟩
    refine Async.only_read_bind.mpr ⟨hdate, fun _ => ?_⟩
    split
    · trivial
    · split_ifs
      · trivial
      · refine Async.only_read_bind.mpr ⟨hdate, fun _ => ?_⟩
        refine Async.Only.bind (Async.only_queryE.mpr (hrevoke _)) fun _ => ?_
        refine Async.Only.bind (Async.only_queryE.mpr (huser _)) fun user => ?_
        exact (only_issueTokenPair env _ _ _ _).mono hissues

/-! ### Calls that do not touch the codes -/

/-- The commands of the logins and of `refresh`, `logout`, `updateUser` and `wait`. -/
def Cmd.isAccount : Cmd → Bool
  | .findUserByPhone _ | .findUserById _ | .findAdmin _ | .createUser _ | .updateUser ..
  | .findRefreshToken _ | .revokeToken _ | .revokeTokens .. | .createRefreshToken ..
  | .replaceToken .. | .date | .comparePassword .. | .bcryptHash _ | .signJwt | .verifyJwt
  | .tick _ => true
  | _ => false

theorem Cmd.isAccount_of_issues {c : Cmd} (h : c.issues = true) : c.isAccount = true := by
  cases c <;> first | rfl | cases h

theorem account_completeLogin (phone : String) :
    (completeLogin env phone).Only fun c => c.isAccount = true :=
  only_completeLogin env phone (fun _ h => Cmd.isAccount_of_issues (Cmd.issues_of_first h)) rfl rfl

/-- Every call but `requestOtp` and `verifyOtp`. -/
theorem account_program {call : Call} (hrequest : ∀ phone app, call ≠ .requestOtp phone app)
    (hverify : ∀ phone code app, call ≠ .verifyOtp phone code app) :
    (call.program env).Only fun c => c.isAccount = true := by
  cases call with
  | requestOtp phone app => exact absurd rfl (hrequest phone app)
  | verifyOtp phone code app => exact absurd rfl (hverify phone code app)
  | adminLogin email password =>
    refine Async.Only.bind ?_ fun _ => trivial
    exact only_adminLogin env email password
      (fun _ h => Cmd.isAccount_of_issues (Cmd.issues_of_first h)) rfl fun _ => rfl
  | refresh token =>
    refine Async.Only.bind ?_ fun _ => trivial
    exact only_refresh env token (fun _ => Cmd.isAccount_of_issues) rfl rfl (fun _ => rfl) fun _ => rfl
  | logout userId token =>
    refine Async.Only.bind ?_ fun _ => trivial
    exact Async.only_read_bind.mpr ⟨rfl, fun _ => Async.only_perform.mpr rfl⟩
  | updateUser userId dto =>
    exact (only_updateUser env userId dto (fun _ => rfl) fun _ _ => rfl).bind fun _ => trivial
  | wait ms => exact Async.Only.bind (Async.only_perform.mpr rfl) fun _ => trivial

/-! ### Calls that create no code -/

/-- The commands of all calls but `requestOtp`. -/
def Cmd.verifies : Cmd → Bool
  | .findPendingOtp _ | .compareCode .. | .attemptOtp .. | .consumeOtp _ | .julakai _ => true
  | c => c.isAccount

theorem Cmd.verifies_of_isAccount {c : Cmd} (h : c.isAccount = true) : c.verifies = true := by
  cases c <;> first | rfl | exact h

theorem only_julakaiCall {env : AuthEnv} {phone : String} {app : JulakaiApp} {H : Cmd → Prop}
    (path code : String) (h : H (.julakai path)) :
    (JulakaiOtpService.call env phone app path code).Only H := by
  unfold JulakaiOtpService.call
  split_ifs
  · exact Async.only_queryE.mpr h
  · trivial

/-- The commands of `verifyOtp` before the login. -/
def Cmd.checksCode : Cmd → Bool
  | .findPendingOtp _ | .compareCode .. | .attemptOtp .. | .consumeOtp _ | .julakai _ | .date => true
  | _ => false

theorem Cmd.verifies_of_checksCode {c : Cmd} (h : c.checksCode = true) : c.verifies = true := by
  cases c <;> first | rfl | cases h

theorem only_verifyOtp {H : Cmd → Prop} (rawPhone code : String) (app : JulakaiApp)
    (hchecks : ∀ c, c.checksCode = true → H c)
    (hlogin : (completeLogin env (normalizePhone rawPhone)).Only H) :
    (verifyOtp env rawPhone code app).Only H := by
  have hdate : H .date := hchecks _ rfl
  unfold verifyOtp
  dsimp only
  split_ifs
  · refine Async.Only.bind (Async.Only.bind (only_julakaiCall _ _ (hchecks _ rfl)) fun res => ?_)
      fun verified => ?_
    · split_ifs <;> trivial
    · split_ifs
      · trivial
      · exact hlogin
  · refine Async.only_query_bind.mpr ⟨hchecks _ rfl, fun s => ?_⟩
    split
    · trivial
    · refine Async.only_read_bind.mpr ⟨hdate, fun _ => ?_⟩
      split_ifs
      · trivial
      · trivial
      · refine Async.only_query_bind.mpr ⟨hchecks _ rfl, fun _ => ?_⟩
        unfold answerCode
        split_ifs
        · refine Async.only_read_bind.mpr ⟨hdate, fun _ => ?_⟩
          refine Async.Only.bind (Async.only_queryE.mpr (hchecks _ rfl)) fun _ => ?_
          split_ifs <;> trivial
        · refine Async.only_read_bind.mpr ⟨hdate, fun _ => ?_⟩
          exact Async.Only.bind (Async.only_queryE.mpr (hchecks _ rfl)) fun _ => hlogin

theorem verifies_verifyOtp (rawPhone code : String) (app : JulakaiApp) :
    (verifyOtp env rawPhone code app).Only fun c => c.verifies = true :=
  only_verifyOtp env rawPhone code app (fun _ => Cmd.verifies_of_checksCode)
    ((account_completeLogin env _).mono fun _ => Cmd.verifies_of_isAccount)

/-- Every call but `requestOtp`. -/
theorem verifies_program {call : Call} (hrequest : ∀ phone app, call ≠ .requestOtp phone app) :
    (call.program env).Only fun c => c.verifies = true := by
  by_cases hverify : ∃ phone code app, call = .verifyOtp phone code app
  · obtain ⟨phone, code, app, rfl⟩ := hverify
    exact (verifies_verifyOtp env phone code app).bind fun _ => trivial
  · refine (account_program env hrequest fun phone code app hcall => ?_).mono
      fun _ => Cmd.verifies_of_isAccount
    exact hverify ⟨phone, code, app, hcall⟩

/-! ### Requests -/

/-- The commands of a request, but the deletion of its row. -/
def Cmd.requests : Cmd → Bool
  | .findLastOtp _ | .date | .random | .bcryptHash _ | .findUserByPhone _ | .createOtp .. | .sendSms _
  | .otpSent .. | .julakai _ => true
  | _ => false

theorem only_checkCooldown {H : Cmd → Prop} (last : Option OtpCode) (now : ℕ) :
    (checkCooldown env last now).Only H := by
  unfold checkCooldown
  split
  · dsimp only
    split_ifs <;> trivial
  · trivial

theorem requests_requestOtp (rawPhone : String) (app : JulakaiApp) :
    (requestOtp env rawPhone app).Only fun c => c.requests = true ∨ ∃ id, c = .deleteOtp id := by
  have hask : ∀ {c : Cmd}, c.requests = true → c.requests = true ∨ ∃ id, c = .deleteOtp id :=
    fun hc => Or.inl hc
  unfold requestOtp
  dsimp only
  by_cases hjulakai : useJulakai env app = true
  · rw [if_pos hjulakai]
    refine Async.Only.bind ?_ fun _ => trivial
    refine Async.Only.bind (only_julakaiCall _ _ (hask rfl)) fun res => ?_
    split_ifs <;> trivial
  · rw [if_neg hjulakai]
    refine Async.only_query_bind.mpr ⟨hask rfl, fun s => ?_⟩
    refine Async.only_read_bind.mpr ⟨hask rfl, fun _ => ?_⟩
    refine Async.Only.bind (only_checkCooldown env _ _) fun _ => ?_
    refine Async.only_read_bind.mpr ⟨hask rfl, fun _ => ?_⟩
    refine Async.only_query_bind.mpr ⟨hask rfl, fun _ => ?_⟩
    refine Async.only_read_bind.mpr ⟨hask rfl, fun _ => ?_⟩
    refine Async.only_query_bind.mpr ⟨hask rfl, fun _ => ?_⟩
    refine Async.only_query_bind.mpr ⟨hask rfl, fun s => ?_⟩
    refine Async.Only.bind (Async.Only.tryCatch ?_ fun e => ?_) fun _ => trivial
    · refine Async.Only.bind (Async.only_queryE.mpr (hask rfl)) fun messageId => ?_
      split
      · split_ifs
        · trivial
        · exact Async.only_queryE.mpr (hask rfl)
      · trivial
    · cases e with
      | serviceUnavailable => trivial
      | badRequest | unauthorized | forbidden | recordNotFound | uniqueConstraint | other =>
        exact Async.Only.bind (Async.only_queryE.mpr (Or.inr ⟨_, rfl⟩)) fun _ => trivial

/-! ### Calls that exchange no token -/

/-- The commands that only `refresh` performs. -/
def Cmd.refreshes : Cmd → Bool
  | .verifyJwt | .findRefreshToken _ | .revokeToken _ | .findUserById _
  | .createRefreshToken _ _ _ (some _) | .replaceToken .. => true
  | _ => false

theorem Cmd.refreshes_of_issuesFirst {c : Cmd} (h : c.issuesFirst = true) : c.refreshes = false := by
  cases c with
  | createRefreshToken userId tokenHash expiresAt replacedBy =>
    cases replacedBy with
    | none => rfl
    | some id => cases h
  | _ => first | rfl | cases h

/-- Every call but `refresh`. -/
theorem program_of_not_refresh {call : Call} (hrefresh : ∀ token, call ≠ .refresh token) :
    (call.program env).Only fun c => c.refreshes = false := by
  cases call with
  | requestOtp rawPhone app =>
    refine ((requests_requestOtp env rawPhone app).mono fun c hc => ?_).bind fun _ => trivial
    rcases hc with hc | ⟨id, rfl⟩
    · cases c <;> first | rfl | cases hc
    · rfl
  | verifyOtp rawPhone code app =>
    refine Async.Only.bind (only_verifyOtp env rawPhone code app (fun c hc => ?_) ?_) fun _ => trivial
    · cases c <;> first | rfl | cases hc
    · exact only_completeLogin env _ (fun _ => Cmd.refreshes_of_issuesFirst) rfl rfl
  | adminLogin email password =>
    refine Async.Only.bind ?_ fun _ => trivial
    exact only_adminLogin env email password (fun _ => Cmd.refreshes_of_issuesFirst) rfl fun _ => rfl
  | refresh token => exact absurd rfl (hrefresh token)
  | logout userId token =>
    refine Async.Only.bind ?_ fun _ => trivial
    exact Async.only_read_bind.mpr ⟨rfl, fun _ => Async.only_perform.mpr rfl⟩
  | updateUser userId dto =>
    exact (only_updateUser env userId dto (fun _ => rfl) fun _ _ => rfl).bind fun _ => trivial
  | wait ms => exact Async.Only.bind (Async.only_perform.mpr rfl) fun _ => trivial

end Telima.Auth
