import Telima.Async.Basic
import Telima.Store.Schema

/-!
# The accounts

The tables `users`, `otp_codes` and `refresh_tokens` of `schema.prisma`, what `AuthService` can do to
them in one step (`Cmd`), and what its functions throw.  Ids are numbers, times are milliseconds.
-/

namespace Telima.Auth

structure User where
  id : ℕ
  phone : String
  role : UserRole := .client
  firstName : Option String := none
  lastName : Option String := none
  email : Option String := none
  passwordHash : Option String := none
  isActive : Bool := true
  deriving DecidableEq, Repr

structure OtpCode where
  id : ℕ
  phone : String
  codeHash : String
  userId : Option ℕ := none
  attempts : ℕ := 0
  expiresAt : ℕ
  lockedUntil : Option ℕ := none
  consumedAt : Option ℕ := none
  smsMessageId : Option String := none
  createdAt : ℕ
  deriving DecidableEq, Repr

structure RefreshToken where
  id : ℕ
  userId : ℕ
  tokenHash : String
  revokedAt : Option ℕ := none
  replacedBy : Option ℕ := none
  expiresAt : ℕ
  createdAt : ℕ
  deriving DecidableEq, Repr

structure Store where
  users : Table ℕ User User.id := .empty
  otpCodes : Table ℕ OtpCode OtpCode.id := .empty
  /-- The last id of a row of `otp_codes`, whose rows can be deleted. -/
  lastOtpId : ℕ := 0
  refreshTokens : Table ℕ RefreshToken RefreshToken.id := .empty
  /-- The number of answers that came from outside the program, so that two of them can differ. -/
  externalCalls : ℕ := 0
  now : ℕ := 0

/-- The id of the next row of `otp_codes`. -/
def Store.newOtpId (s : Store) : ℕ := max s.otpCodes.freshKey (s.lastOtpId + 1)

/-- What a function of `AuthService` can throw. -/
inductive Error where
  | badRequest (message : String)
  | unauthorized (message : String)
  | forbidden (message : String)
  | serviceUnavailable (message : String)
  /-- Prisma: the record does not exist. -/
  | recordNotFound
  /-- Prisma: a unique constraint fails. -/
  | uniqueConstraint
  /-- An error of another kind, such as a provider throws. -/
  | other (message : String)
  deriving DecidableEq, Repr

/-- The `data` of an update of a user; `none` leaves a column as it is. -/
structure UserData where
  firstName : Option String := none
  lastName : Option String := none
  phone : Option String := none
  email : Option String := none
  isActive : Option Bool := none
  passwordHash : Option String := none
  deriving DecidableEq

def UserData.apply (data : UserData) (user : User) : User :=
  { user with
    firstName := data.firstName.or user.firstName
    lastName := data.lastName.or user.lastName
    phone := data.phone.getD user.phone
    email := data.email.or user.email
    isActive := data.isActive.getD user.isActive
    passwordHash := data.passwordHash.or user.passwordHash }

theorem UserData.id_apply (data : UserData) (user : User) : (data.apply user).id = user.id := rfl

/-- The phone belongs to another user: `phone` is `@unique`. -/
def UserData.conflicts (data : UserData) (s : Store) (userId : ℕ) : Bool :=
  data.phone.any fun phone => s.users.rows.any fun user =>
    decide (user.id ≠ userId) && decide (user.phone = phone)

/-- The code after an attempt. -/
def OtpCode.attempt (attempts : ℕ) (lockedUntil : Option ℕ) (otp : OtpCode) : OtpCode :=
  { otp with attempts, lockedUntil }

theorem OtpCode.id_attempt (attempts : ℕ) (lockedUntil : Option ℕ) (otp : OtpCode) :
    (otp.attempt attempts lockedUntil).id = otp.id := rfl

def OtpCode.consume (now : ℕ) (otp : OtpCode) : OtpCode := { otp with consumedAt := some now }

theorem OtpCode.id_consume (now : ℕ) (otp : OtpCode) : (otp.consume now).id = otp.id := rfl

def OtpCode.sent (messageId : String) (otp : OtpCode) : OtpCode :=
  { otp with smsMessageId := some messageId }

theorem OtpCode.id_sent (messageId : String) (otp : OtpCode) : (otp.sent messageId).id = otp.id := rfl

def RefreshToken.revoke (now : ℕ) (token : RefreshToken) : RefreshToken :=
  { token with revokedAt := some now }

theorem RefreshToken.id_revoke (now : ℕ) (token : RefreshToken) : (token.revoke now).id = token.id :=
  rfl

def RefreshToken.replace (successor : ℕ) (token : RefreshToken) : RefreshToken :=
  { token with replacedBy := some successor }

theorem RefreshToken.id_replace (successor : ℕ) (token : RefreshToken) :
    (token.replace successor).id = token.id := rfl

inductive Cmd where
  -- `users`
  | findUserByPhone (phone : String)
  | findUserById (userId : ℕ)
  /-- The user with the email whose role is `admin`. -/
  | findAdmin (email : String)
  /-- The new row is the answer. -/
  | createUser (phone : String)
  | updateUser (userId : ℕ) (data : UserData)
  -- `otp_codes`
  | findLastOtp (phone : String)
  /-- The last code of the phone that is not consumed. -/
  | findPendingOtp (phone : String)
  | createOtp (phone codeHash : String) (expiresAt : ℕ) (userId : Option ℕ)
  | attemptOtp (otpId attempts : ℕ) (lockedUntil : Option ℕ)
  | consumeOtp (otpId : ℕ)
  | otpSent (otpId : ℕ) (messageId : String)
  | deleteOtp (otpId : ℕ)
  -- `refresh_tokens`
  | findRefreshToken (tokenHash : String)
  /-- The rotation of `refresh`. -/
  | revokeToken (tokenId : ℕ)
  /-- `updateMany` of the tokens of a user with the hash that are not revoked. -/
  | revokeTokens (userId : ℕ) (tokenHash : String)
  | createRefreshToken (userId : ℕ) (tokenHash : String) (expiresAt : ℕ) (replacedBy : Option ℕ)
  | replaceToken (tokenId replacedBy : ℕ)
  -- synchronous
  /-- `new Date()` -/
  | date
  | random
  -- outside the program
  /-- `bcrypt.compare` of a code -/
  | compareCode (code codeHash : String)
  /-- `bcrypt.compare` of a password -/
  | comparePassword (password passwordHash : String)
  | bcryptHash (text : String)
  | sendSms (phone : String)
  | julakai (path : String)
  | signJwt
  | verifyJwt
  /-- Time passes. -/
  | tick (ms : ℕ)
  deriving DecidableEq

namespace Cmd

/-- The effect of a command. -/
def exec : Cmd → Store → Store
  | createUser phone, s =>
    { s with
      users := if s.users.rows.any fun user => decide (user.phone = phone) then s.users
        else s.users.insert { id := s.users.freshKey, phone } }
  | updateUser userId data, s =>
    { s with
      users := if data.conflicts s userId then s.users
        else s.users.update userId data.apply data.id_apply }
  | createOtp phone codeHash expiresAt userId, s =>
    { s with
      otpCodes := s.otpCodes.insert
        { id := s.newOtpId, phone, codeHash, userId, expiresAt, createdAt := s.now }
      lastOtpId := s.newOtpId }
  | attemptOtp otpId attempts lockedUntil, s =>
    { s with
      otpCodes := s.otpCodes.update otpId (OtpCode.attempt attempts lockedUntil)
        (OtpCode.id_attempt attempts lockedUntil) }
  | consumeOtp otpId, s =>
    { s with otpCodes := s.otpCodes.update otpId (OtpCode.consume s.now) (OtpCode.id_consume s.now) }
  | otpSent otpId messageId, s =>
    { s with
      otpCodes := s.otpCodes.update otpId (OtpCode.sent messageId) (OtpCode.id_sent messageId) }
  | deleteOtp otpId, s => { s with otpCodes := s.otpCodes.delete otpId }
  | revokeToken tokenId, s =>
    { s with
      refreshTokens := s.refreshTokens.update tokenId (RefreshToken.revoke s.now)
        (RefreshToken.id_revoke s.now) }
  | revokeTokens userId tokenHash, s =>
    { s with
      refreshTokens := s.refreshTokens.updateMany
        (fun token => decide (token.userId = userId) && decide (token.tokenHash = tokenHash) &&
          token.revokedAt.isNone) (RefreshToken.revoke s.now) (RefreshToken.id_revoke s.now) }
  | createRefreshToken userId tokenHash expiresAt replacedBy, s =>
    { s with
      refreshTokens := if s.refreshTokens.rows.any fun token => decide (token.tokenHash = tokenHash)
        then s.refreshTokens
        else s.refreshTokens.insert
          { id := s.refreshTokens.freshKey, userId, tokenHash, expiresAt, replacedBy
            createdAt := s.now } }
  | replaceToken tokenId replacedBy, s =>
    { s with
      refreshTokens := s.refreshTokens.update tokenId (RefreshToken.replace replacedBy)
        (RefreshToken.id_replace replacedBy) }
  | random, s | bcryptHash _, s | sendSms _, s | julakai _, s | signJwt, s =>
    { s with externalCalls := s.externalCalls + 1 }
  | tick ms, s => { s with now := s.now + ms }
  | _, s => s

end Cmd

/-- A function of `AuthService`. -/
abbrev Prog (α : Type) : Type := Async Store Cmd Error α

/-- `new Date()` -/
def newDate : Prog ℕ := Async.read .date Store.now

end Telima.Auth
