import Gatehouse.Net.Address
import Gatehouse.RateLimit.Limiter
import Gatehouse.Settings.Environment
import Gatehouse.Settings.Error
import Gatehouse.Text.Blank
import Gatehouse.Token.Config

/-!
All settings of the service, read from the environment once. What may be missing has a
default; the first part that cannot be used is reported.
-/

namespace Gatehouse.Settings

/-- Where the service listens; times are in seconds. -/
structure Server where
  bindAddress : Net.Endpoint := ⟨.v4 [0, 0, 0, 0], 8080, 0⟩
  requestTimeout : Nat := 15
  cleanupInterval : Nat := 3600
  deriving DecidableEq, Repr

def Server.read (env : Environment) : Except Error Server :=
  let server (address : Net.Endpoint) : Server :=
    ⟨address, env.positive "REQUEST_TIMEOUT_SECS" 15,
      env.positive "CLEANUP_INTERVAL_SECS" 3600⟩
  match env.get? "BIND_ADDRESS" with
  | none => .ok (server ({} : Server).bindAddress)
  | some text =>
      match Net.Endpoint.read? text with
      | some address => .ok (server address)
      | none => .error (.badAddress text)

/-- The database and how many connections to it are kept; times are in seconds. -/
structure Database where
  url : String
  maxConnections : Nat := 10
  minConnections : Nat := 1
  connectionTimeout : Nat := 30
  idleTimeout : Nat := 600
  deriving DecidableEq, Repr

def Database.missingUrl : String := "DATABASE_URL environment variable not set"

def Database.tooManyIdle (least most : Nat) : String :=
  s!"DATABASE_MIN_CONNECTIONS ({least}) exceeds DATABASE_MAX_CONNECTIONS ({most})"

def Database.read (env : Environment) : Except Error Database :=
  match (env.get? "DATABASE_URL").filter (!Text.isBlankText ·) with
  | none => .error (.database (.configuration missingUrl))
  | some url =>
      let d : Database := ⟨url, env.number "DATABASE_MAX_CONNECTIONS" Bounds.max32 10,
        env.number "DATABASE_MIN_CONNECTIONS" Bounds.max32 1,
        env.number "DATABASE_CONNECTION_TIMEOUT" Bounds.max64 30,
        env.number "DATABASE_IDLE_TIMEOUT" Bounds.max64 600⟩
      if d.maxConnections < d.minConnections then
        .error (.database (.configuration (tooManyIdle d.minConnections d.maxConnections)))
      else .ok d

/-- The address of the counter store. -/
def counterUrl (env : Environment) : String :=
  (env.get? "REDIS_URL").getD "redis://localhost:6379"

def tokens (env : Environment) : Except Error Token.Config :=
  match env.get? "JWT_SECRET" with
  | none => .error .secretMissing
  | some secret =>
      if Text.isBlankText secret then .error .secretBlank
      else .ok {
        secret := secret
        issuer := (env.get? "JWT_ISSUER").getD "resume_generator"
        audience := (env.get? "JWT_AUDIENCE").getD "resume_generator_users"
        accessLifetime := env.number "JWT_ACCESS_TOKEN_EXPIRY" Bounds.max64 900
        refreshLifetime := env.number "JWT_REFRESH_TOKEN_EXPIRY" Bounds.max64 604800
        resetLifetime := env.number "JWT_RESET_TOKEN_EXPIRY" Bounds.max64 3600 }

/-- Settings that a password could not be hashed with are refused, as far as their cost can
tell. -/
def hashing (env : Environment) : Except Error Password.Settings :=
  let s : Password.Settings := ⟨env.number "ARGON2_MEMORY_KIB" Bounds.max32 65536,
    env.number "ARGON2_ITERATIONS" Bounds.max32 3, env.number "ARGON2_PARALLELISM" Bounds.max32 4,
    env.number "ARGON2_SALT_LENGTH" Bounds.max64 16, env.number "ARGON2_KEY_LENGTH" Bounds.max64 32⟩
  match s.check with
  | .ok () => .ok s
  | .error cause => .error (.hashing cause)

def limits (env : Environment) : RateLimit.Limits :=
  ⟨.ofNat (env.positive "RATE_LIMIT_MAX_REQUESTS" 100),
    .ofNat (env.positive "RATE_LIMIT_WINDOW_SECS" 60)⟩

structure Application where
  server : Server
  database : Database
  counterUrl : String
  tokens : Token.Config
  hashing : Password.Settings
  limits : RateLimit.Limits
  deriving DecidableEq, Repr

def Application.read (env : Environment) : Except Error Application := do
  let server ← Server.read env
  let database ← Database.read env
  let tokens ← Settings.tokens env
  let hashing ← Settings.hashing env
  return ⟨server, database, Settings.counterUrl env, tokens, hashing, Settings.limits env⟩

end Gatehouse.Settings
