import Mathlib.Data.List.Sort
import Telima.Async.Pool
import Telima.Auth.Schema

/-!
# `AuthService`

The functions of `auth.service.ts`, with `JulakaiOtpService`, `normalizePhone` and the `updateUser`
of the admin controller.  Hashing, signing, random numbers and the answers of the SMS provider and of
JulakAI are parameters (`AuthEnv`).
-/

namespace Telima.Auth

inductive JulakaiApp where
  | client | driver
  deriving DecidableEq, Repr

def JulakaiApp.name : JulakaiApp → String
  | .client => "\"client\""
  | .driver => "\"driver\""

structure JwtPayload where
  sub : ℕ
  phone : String
  role : UserRole
  deriving DecidableEq, Repr

/-- `JWT_ACCESS_SECRET` and `JWT_REFRESH_SECRET` -/
inductive Secret where
  | access | refresh
  deriving DecidableEq, Repr

structure TokenPair where
  accessToken : String
  refreshToken : String
  deriving DecidableEq, Repr

/-- An answer of the JulakAI API; the body of a successful one has a verdict or an expiry. -/
structure JulakaiResponse where
  status : ℕ
  verified : Bool := false
  expiresInSeconds : ℕ := 0

/-- `res.ok` -/
def JulakaiResponse.ok (res : JulakaiResponse) : Bool :=
  decide (200 ≤ res.status) && decide (res.status < 300)

structure AuthConfig where
  /-- `OTP_PROVIDER` is `julakai`. -/
  julakai : Bool := false
  /-- `JulakaiOtpService.isConfigured` -/
  isConfigured : JulakaiApp → Bool := fun _ => false
  otpLength : ℕ := 4
  otpExpiresMinutes : ℕ := 5
  otpResendCooldownSeconds : ℕ := 60
  otpMaxAttempts : ℕ := 3
  otpLockMinutes : ℕ := 30
  otpExposeInResponse : Bool := false
  isProd : Bool := false
  jwtRefreshExpiresIn : String := "30d"

/-- What the functions rest on. -/
structure AuthEnv where
  config : AuthConfig
  /-- SHA-256 -/
  hashToken : String → String
  bcryptHash : String → Store → String
  bcryptCompare : String → String → Bool
  /-- `randomInt(min, max)` -/
  randomInt : (min max : ℕ) → Store → ℕ
  sign : Secret → JwtPayload → Store → String
  verify : Secret → String → Store → Option JwtPayload
  /-- `smsProvider.sendOtp`; the answer is the id of the message. -/
  sendOtp : (phone code : String) → Store → Except Error (Option String)
  /-- A call of the JulakAI API; it throws when there is no answer. -/
  julakaiCall : (path phone code : String) → JulakaiApp → Store → Except Error JulakaiResponse

/-! ### `utils` -/

/-- Only digits and `+` are kept, and the country code is put in front where it is missing. -/
def normalizePhone (rawPhone : String) : String :=
  let digitsOnly := rawPhone.toList.filter fun c => c.isDigit || c == '+'
  if ['+', '2', '2', '3'].isPrefixOf digitsOnly then String.ofList digitsOnly
  else if ['2', '2', '3'].isPrefixOf digitsOnly then String.ofList ('+' :: digitsOnly)
  else String.ofList (['+', '2', '2', '3'] ++ digitsOnly)

/-- A code of the length, from a random number. -/
def generateOtpCode (env : AuthEnv) (length : ℕ) : Prog String :=
  let min := 10 ^ (length - 1)
  let max := 10 ^ length - 1
  Async.read .random fun s => toString (env.randomInt min (max + 1) s)

namespace JulakaiOtpService

variable (env : AuthEnv) (phone : String) (app : JulakaiApp)

def call (path code : String) : Prog JulakaiResponse :=
  if env.config.isConfigured app then
    Async.queryE (.julakai path) (env.julakaiCall path phone code app)
  else Async.throw (.serviceUnavailable
    ("JulakAI non configure pour l'app " ++ app.name ++ " (cle manquante)"))

/-- The seconds until the code expires. -/
def sendOtp : Prog ℕ := do
  let res ← call env phone app "/v1/otp/send" ""
  if res.status = 429 then
    Async.throw (.badRequest "Veuillez patienter avant de redemander un code (cooldown JulakAI)")
  else if res.status = 402 then
    Async.throw (.serviceUnavailable "Service SMS temporairement indisponible")
  else if res.status = 400 then Async.throw (.badRequest "Numero de telephone invalide")
  else if res.ok = false then
    Async.throw (.serviceUnavailable "Service SMS temporairement indisponible")
  else pure res.expiresInSeconds

/-- The code is the one that was sent. -/
def verifyOtp (code : String) : Prog Bool := do
  let res ← call env phone app "/v1/otp/verify" code
  if res.status = 401 then Async.throw (.unauthorized "Code OTP invalide ou expire")
  else if res.status = 403 then
    Async.throw (.forbidden "Trop de tentatives, veuillez redemander un code")
  else if res.ok = false then
    Async.throw (.serviceUnavailable "Service de verification temporairement indisponible")
  else pure res.verified

end JulakaiOtpService

namespace AuthService

variable (env : AuthEnv)

def useJulakai (app : JulakaiApp) : Bool := env.config.julakai && env.config.isConfigured app

/-! ### Tokens -/

/-- The milliseconds of a unit of `expiresIn`. -/
def unitMs : Char → Option ℕ
  | 's' => some 1000
  | 'm' => some 60000
  | 'h' => some 3600000
  | 'd' => some 86400000
  | _ => none

/-- A number with a unit, such as `30d`; 30 days when the format is not recognized. -/
def parseExpiryToDate (expiresIn : String) (now : ℕ) : ℕ :=
  let digits := expiresIn.toList.dropLast
  match expiresIn.toList.getLast?.bind unitMs with
  | some unit =>
    if digits ≠ [] ∧ digits.all Char.isDigit then
      now + digits.foldl (fun n c => 10 * n + (c.toNat - '0'.toNat)) 0 * unit
    else now + 30 * 24 * 60 * 60 * 1000
  | none => now + 30 * 24 * 60 * 60 * 1000

def issueTokenPair (userId : ℕ) (phone : String) (role : UserRole)
    (replacedTokenId : Option ℕ := none) : Prog TokenPair := do
  let payload : JwtPayload := { sub := userId, phone, role }
  let accessToken ← Async.query .signJwt (env.sign .access payload)
  let refreshToken ← Async.query .signJwt (env.sign .refresh payload)
  let now ← newDate
  let tokenHash := env.hashToken refreshToken
  let refreshTokenId ← Async.queryE
    (.createRefreshToken userId tokenHash (parseExpiryToDate env.config.jwtRefreshExpiresIn now)
      replacedTokenId) fun s =>
    if s.refreshTokens.rows.any fun token => decide (token.tokenHash = tokenHash) then
      .error .uniqueConstraint
    else .ok s.refreshTokens.freshKey
  match replacedTokenId with
  | some replacedTokenId =>
    Async.queryE (.replaceToken replacedTokenId refreshTokenId) fun s =>
      if (s.refreshTokens.find? replacedTokenId).isSome then .ok () else .error .recordNotFound
  | none => pure ()
  pure { accessToken, refreshToken }

/-! ### Logging in -/

/-- What a login returns; that of an admin has no `isNewUser`. -/
structure Login where
  tokens : TokenPair
  isNewUser : Bool
  user : User

def findUserByPhone (phone : String) : Prog (Option User) :=
  Async.query (.findUserByPhone phone) fun s => s.users.findFirst fun u => decide (u.phone = phone)

/-- `prisma.user.create({ data: { phone } })` -/
def createUser (phone : String) : Prog User :=
  Async.queryE (.createUser phone) fun s =>
    if s.users.rows.any fun user => decide (user.phone = phone) then .error .uniqueConstraint
    else .ok { id := s.users.freshKey, phone }

/-- An empty or missing name. -/
def isBlank (name : Option String) : Bool := name.all fun n => decide (n = "")

/-- What follows the look-up of the user. -/
def loginUser (user : User) (isNewUser : Bool) : Prog Login :=
  if user.isActive = false then Async.throw (.forbidden "Ce compte a ete desactive")
  else do
    let tokens ← issueTokenPair env user.id user.phone user.role
    pure { tokens, isNewUser, user }

def completeLogin (phone : String) : Prog Login := do
  match ← findUserByPhone phone with
  | none => do
    let user ← createUser phone
    loginUser env user true
  | some user => loginUser env user (isBlank user.firstName || isBlank user.lastName)

def adminLogin (email password : String) : Prog Login := do
  let user ← Async.query (.findAdmin email) fun s =>
    s.users.findFirst fun u => decide (u.email = some email) && decide (u.role = .admin)
  match user with
  | none => Async.throw (.unauthorized "Identifiants invalides")
  | some user =>
    match user.passwordHash with
    | none => Async.throw (.unauthorized "Identifiants invalides")
    | some passwordHash =>
      if passwordHash = "" then Async.throw (.unauthorized "Identifiants invalides")
      else do
        let valid ← Async.query (.comparePassword password passwordHash) fun _ =>
          env.bcryptCompare password passwordHash
        if valid = false then Async.throw (.unauthorized "Identifiants invalides")
        else loginUser env user false

/-! ### One-time codes -/

structure OtpResponse where
  phone : String
  expiresInSeconds : ℕ
  devOtpCode : Option String := none

/-- The last of the codes.  Codes of one millisecond keep the order of the table. -/
def lastOtp (otps : List OtpCode) : Option OtpCode :=
  (otps.insertionSort fun a b => b.createdAt ≤ a.createdAt).head?

/-- Whether the cooldown of the last code is over. -/
def checkCooldown (last : Option OtpCode) (now : ℕ) : Prog Unit :=
  let resendCooldownMs := env.config.otpResendCooldownSeconds * 1000
  match last with
  | some last =>
    if now < last.createdAt + resendCooldownMs then
      let remaining := (last.createdAt + resendCooldownMs - now + 999) / 1000
      Async.throw (.badRequest
        ("Veuillez patienter " ++ toString remaining ++ "s avant de redemander un code"))
    else pure ()
  | none => pure ()

/-- `prisma.otpCode.create`; the answer is the id of the row. -/
def createOtp (phone codeHash : String) (expiresAt : ℕ) (userId : Option ℕ) : Prog ℕ :=
  Async.query (.createOtp phone codeHash expiresAt userId) Store.newOtpId

/-- `prisma.otpCode.update` answers an error when there is no such row. -/
def updateOtp (c : Cmd) (otpId : ℕ) : Prog Unit :=
  Async.queryE c fun s =>
    if (s.otpCodes.find? otpId).isSome then .ok () else .error .recordNotFound

/-- Send the code, and note the message. -/
def sendCode (phone code : String) (otpId : ℕ) : Prog Unit := do
  let messageId ← Async.queryE (.sendSms phone) (env.sendOtp phone code)
  match messageId with
  | some messageId =>
    if messageId = "" then pure () else updateOtp (.otpSent otpId messageId) otpId
  | none => pure ()

/-- A code that could not be sent is deleted, unless the provider says that it is not available. -/
def handleSmsError (otpId : ℕ) : Error → Prog Unit
  | .serviceUnavailable message => Async.throw (.serviceUnavailable message)
  | _ => do
    updateOtp (.deleteOtp otpId) otpId
    Async.throw
      (.serviceUnavailable "Service SMS temporairement indisponible, veuillez reessayer")

def requestOtp (rawPhone : String) (app : JulakaiApp := .client) : Prog OtpResponse := do
  let phone := normalizePhone rawPhone
  if useJulakai env app then do
    let expiresInSeconds ← JulakaiOtpService.sendOtp env phone app
    pure { phone, expiresInSeconds }
  else do
    let last ← Async.query (.findLastOtp phone) fun s =>
      lastOtp (s.otpCodes.findMany fun otp => decide (otp.phone = phone))
    let now ← newDate
    checkCooldown env last now
    let code ← generateOtpCode env env.config.otpLength
    let codeHash ← Async.query (.bcryptHash code) (env.bcryptHash code)
    let created ← newDate
    let existingUser ← findUserByPhone phone
    let otpId ← createOtp phone codeHash (created + env.config.otpExpiresMinutes * 60 * 1000)
      (existingUser.map User.id)
    Async.tryCatch (sendCode env phone code otpId) (handleSmsError otpId)
    pure
      { phone
        expiresInSeconds := env.config.otpExpiresMinutes * 60
        devOtpCode := if env.config.otpExposeInResponse ∧ env.config.isProd = false then some code
          else none }

/-- What follows the comparison of the code. -/
def answerCode (phone : String) (otpRecord : OtpCode) (isCodeValid : Bool) : Prog Login :=
  if isCodeValid = false then do
    let attempts := otpRecord.attempts + 1
    let shouldLock := env.config.otpMaxAttempts ≤ attempts
    let now ← newDate
    updateOtp (.attemptOtp otpRecord.id attempts
      (if shouldLock then some (now + env.config.otpLockMinutes * 60 * 1000)
        else otpRecord.lockedUntil)) otpRecord.id
    if shouldLock then
      Async.throw (.forbidden
        ("Trop de tentatives, blocage de " ++ toString env.config.otpLockMinutes ++ " minutes"))
    else Async.throw (.unauthorized "Code OTP invalide")
  else do
    let _ ← newDate
    updateOtp (.consumeOtp otpRecord.id) otpRecord.id
    completeLogin env phone

/-- The message of a locked code shows the end of the lock in milliseconds. -/
def verifyOtp (rawPhone code : String) (app : JulakaiApp := .client) : Prog Login := do
  let phone := normalizePhone rawPhone
  if useJulakai env app then do
    let verified ← JulakaiOtpService.verifyOtp env phone app code
    if verified = false then Async.throw (.unauthorized "Code OTP invalide ou expire")
    else completeLogin env phone
  else do
    let otpRecord ← Async.query (.findPendingOtp phone) fun s =>
      lastOtp (s.otpCodes.findMany fun otp =>
        decide (otp.phone = phone) && otp.consumedAt.isNone)
    match otpRecord with
    | none => Async.throw (.unauthorized "Aucun code OTP en attente pour ce numero")
    | some otpRecord => do
      let now ← newDate
      if otpRecord.lockedUntil.any fun lockedUntil => decide (now < lockedUntil) then
        Async.throw (.forbidden
          ("Trop de tentatives, reessayez apres " ++ toString (otpRecord.lockedUntil.getD 0)))
      else if otpRecord.expiresAt < now then Async.throw (.unauthorized "Code OTP expire")
      else do
        let isCodeValid ← Async.query (.compareCode code otpRecord.codeHash) fun _ =>
          env.bcryptCompare code otpRecord.codeHash
        answerCode env phone otpRecord isCodeValid

/-! ### Refreshing and logging out -/

def refresh (refreshToken : String) : Prog TokenPair := do
  match ← Async.query .verifyJwt (env.verify .refresh refreshToken) with
  | none => Async.throw (.unauthorized "Refresh token invalide ou expire")
  | some payload => do
    let tokenHash := env.hashToken refreshToken
    let storedToken ← Async.query (.findRefreshToken tokenHash) fun s =>
      s.refreshTokens.findFirst fun token => decide (token.tokenHash = tokenHash)
    let now ← newDate
    match storedToken with
    | none => Async.throw (.unauthorized "Refresh token invalide, revoque ou expire")
    | some storedToken =>
      if storedToken.revokedAt.isSome ∨ storedToken.expiresAt < now then
        Async.throw (.unauthorized "Refresh token invalide, revoque ou expire")
      else do
        let _ ← newDate
        Async.queryE (.revokeToken storedToken.id) fun s =>
          if (s.refreshTokens.find? storedToken.id).isSome then .ok () else .error .recordNotFound
        let user ← Async.queryE (.findUserById payload.sub) fun s =>
          (s.users.find? payload.sub).elim (.error .recordNotFound) .ok
        issueTokenPair env user.id user.phone user.role (some storedToken.id)

def logout (userId : ℕ) (refreshToken : String) : Prog Unit := do
  let tokenHash := env.hashToken refreshToken
  let _ ← newDate
  Async.perform (.revokeTokens userId tokenHash)

end AuthService

/-! ### The admin's update of a user -/

/-- `UpdateUserDto` -/
structure UpdateUserDto where
  firstName : Option String := none
  lastName : Option String := none
  phone : Option String := none
  email : Option String := none
  isActive : Option Bool := none
  password : Option String := none
  deriving DecidableEq

namespace AdminUsersTripsController

/-- The hash of the new password, if one is given. -/
def hashPassword (env : AuthEnv) : Option String → Prog (Option String)
  | some password =>
    if password = "" then pure none
    else Async.query (.bcryptHash password) fun s => some (env.bcryptHash password s)
  | none => pure none

def updateUser (env : AuthEnv) (userId : ℕ) (dto : UpdateUserDto) : Prog Unit := do
  let passwordHash ← hashPassword env dto.password
  let data : UserData :=
    { firstName := dto.firstName, lastName := dto.lastName, phone := dto.phone, email := dto.email
      isActive := dto.isActive, passwordHash }
  Async.queryE (.updateUser userId data) fun s =>
    if data.conflicts s userId then .error .uniqueConstraint
    else if (s.users.find? userId).isSome then .ok () else .error .recordNotFound

end AdminUsersTripsController

/-! ### Calls -/

/-- A call of a client, or the passing of time. -/
inductive Call where
  | requestOtp (phone : String) (app : JulakaiApp)
  | verifyOtp (phone code : String) (app : JulakaiApp)
  | adminLogin (email password : String)
  | refresh (refreshToken : String)
  | logout (userId : ℕ) (refreshToken : String)
  | updateUser (userId : ℕ) (dto : UpdateUserDto)
  | wait (ms : ℕ)
  deriving DecidableEq

/-- The tokens a call returns, if it returns some. -/
def Call.program (env : AuthEnv) : Call → Prog (Option TokenPair)
  | requestOtp phone app => (AuthService.requestOtp env phone app).as none
  | verifyOtp phone code app => do
    let login ← AuthService.verifyOtp env phone code app
    pure (some login.tokens)
  | adminLogin email password => do
    let login ← AuthService.adminLogin env email password
    pure (some login.tokens)
  | refresh refreshToken => do
    let tokens ← AuthService.refresh env refreshToken
    pure (some tokens)
  | logout userId refreshToken => (AuthService.logout env userId refreshToken).as none
  | updateUser userId dto => (AdminUsersTripsController.updateUser env userId dto).as none
  | wait ms => (Async.perform (.tick ms)).as none

/-- The calls share the tables and start no handlers. -/
def system : System Store Cmd Error (Option TokenPair) where
  exec := Cmd.exec
  handlers _ := []

@[simp] theorem system_exec : system.exec = Cmd.exec := rfl

@[simp] theorem system_handlers (c : Cmd) : system.handlers c = [] := rfl

/-- The calls start on the tables. -/
def start (env : AuthEnv) (s : Store) (calls : List Call) :
    Pool Store Cmd Error (Option TokenPair) :=
  Pool.init s (calls.map (Call.program env))

theorem exists_call_of_start {env : AuthEnv} {s : Store} {calls : List Call} {i : ℕ}
    {t : Prog (Option TokenPair)} (h : (start env s calls).threads[i]? = some t) :
    ∃ call, calls[i]? = some call ∧ t = call.program env := by
  have hmap : (calls.map (Call.program env))[i]? = some t := h
  rw [List.getElem?_map] at hmap
  obtain ⟨call, hcall, rfl⟩ := Option.map_eq_some_iff.mp hmap
  exact ⟨call, hcall, rfl⟩

/-- The tokens a call has returned. -/
def returned? (q : Pool Store Cmd Error (Option TokenPair)) (i : ℕ) : Option TokenPair :=
  match q.threads[i]? with
  | some (.done (.ok tokens)) => tokens
  | _ => none

theorem done_of_returned? {q : Pool Store Cmd Error (Option TokenPair)} {i : ℕ} {tokens : TokenPair}
    (h : returned? q i = some tokens) : q.threads[i]? = some (.done (.ok (some tokens))) := by
  unfold returned? at h
  split at h
  · next hdone => rw [hdone, h]
  · cases h

/-! ### A small town -/

namespace Town

/-- A token is its own hash; the tokens of user 1 are numbered. -/
def env : AuthEnv where
  config := {}
  hashToken token := token
  bcryptHash text _ := text
  bcryptCompare text hash := decide (text = hash)
  randomInt min _ _ := min
  sign _ _ s := toString s.externalCalls
  verify _ _ _ := some { sub := 1, phone := "+22370000001", role := .client }
  sendOtp _ _ _ := .ok none
  julakaiCall _ _ _ _ _ := .ok { status := 200 }

/-- User 1 holds the token `t`. -/
def store : Store where
  users := .single { id := 1, phone := "+22370000001" }
  refreshTokens :=
    .single { id := 1, userId := 1, tokenHash := "t", expiresAt := 1000, createdAt := 0 }

end Town

end Telima.Auth
