import AgentRemote.Identity.System

/-!
# Records of logins

Device codes and the refreshable sessions of the command line, next to the tables of devices and
tokens. A raw token, its hash and the identifier of its row are one number, as are a device code
and its hash.
-/

namespace AgentRemote.Logins
open Library Identity PortForwards

structure CliLoginSession where
  id : Uuid
  userId : Uuid
  accessTokenId : Uuid
  refreshToken : Uuid
  expiresAt : Instant

inductive CliCodeStatus where
  | pending
  | approved
  | consumed
  | expired
  deriving DecidableEq

/-- The access token of a completion receipt, its lifetime, and the end of the receipt. -/
structure CompletionReceipt where
  accessToken : Uuid
  expiresIn : ℕ
  expiresAt : Instant

structure CliLoginCode where
  id : Uuid
  deviceCode : Uuid
  userCode : Text
  status : CliCodeStatus
  approvedUserId : Option Uuid
  expiresAt : Instant
  completionRequestId : Option Uuid
  receipt : Option CompletionReceipt

structure LoginDb where
  identity : IdentityDb
  sessions : List CliLoginSession
  codes : List CliLoginCode

inductive LoginFailure where
  | apiError (code message : String) (statusCode : ℕ)
  | staleDataError
  | integrityError

namespace LoginDb

variable (db : LoginDb)

def clock : Instant := db.identity.clock

def nextId : Uuid := db.identity.nextId

def tokens : List Identity.AuthToken := db.identity.tokens

/-- Draws `n` identifiers and issues the token. -/
def issue (n : ℕ) (token : Identity.AuthToken) : LoginDb :=
  { db with identity := { db.identity.draw n with tokens := db.identity.tokens ++ [token] } }

def revokeTokens (ids : List Uuid) : LoginDb :=
  { db with identity := db.identity.revokeTokens ids }

/-- Updates the row of a locked code. -/
def setCode (code : CliLoginCode) : LoginDb :=
  { db with codes := replace CliLoginCode.id db.codes code }

/-- Updates the row of a locked session. -/
def setSession (login : CliLoginSession) : LoginDb :=
  { db with sessions := replace CliLoginSession.id db.sessions login }

end LoginDb

end AgentRemote.Logins
