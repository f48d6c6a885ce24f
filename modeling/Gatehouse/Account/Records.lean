import Gatehouse.Account.Role
import Gatehouse.Json.Record
import Gatehouse.Timestamp.Text
import Gatehouse.Uuid

/-!
What is stored about accounts: the users, the sessions behind their refresh tokens, and the
records of password resets. Digests of passwords and tokens are read but never written out.
-/

namespace Gatehouse.Account

structure User where
  id : Uuid
  email : String
  passwordHash : String
  role : Role
  createdAt : Timestamp
  updatedAt : Timestamp
  deriving DecidableEq, Repr

/-- A session lives as long as its refresh token. -/
structure Session where
  id : Uuid
  userId : Uuid
  refreshToken : String
  userAgent : String
  clientIp : String
  expiresAt : Timestamp
  createdAt : Timestamp
  deriving DecidableEq, Repr

/-- A reset token that was issued, and when it was used. -/
structure Reset where
  id : Uuid
  userId : Uuid
  token : String
  expiresAt : Timestamp
  createdAt : Timestamp
  usedAt : Option Timestamp
  deriving DecidableEq, Repr

/-- What is known about the client of a session. -/
structure Client where
  userAgent : String
  ip : String
  deriving DecidableEq, Repr

/-- A session is expired strictly after its last moment. -/
def Session.isExpired (s : Session) (now : Timestamp) : Bool := s.expiresAt < now

def Reset.isExpired (r : Reset) (now : Timestamp) : Bool := r.expiresAt < now

def Reset.isUsed (r : Reset) : Bool := r.usedAt.isSome

def timeValue (t : Timestamp) : Json.Value := .text t.text

def User.toValue (u : User) : Json.Value :=
  .object [
    ("id", .text u.id.text),
    ("email", .text u.email),
    ("role", .text u.role.name),
    ("created_at", timeValue u.createdAt),
    ("updated_at", timeValue u.updatedAt)]

def Session.toValue (s : Session) : Json.Value :=
  .object [
    ("id", .text s.id.text),
    ("user_id", .text s.userId.text),
    ("user_agent", .text s.userAgent),
    ("client_ip", .text s.clientIp),
    ("expires_at", timeValue s.expiresAt),
    ("created_at", timeValue s.createdAt)]

def Reset.toValue (r : Reset) : Json.Value :=
  .object [
    ("id", .text r.id.text),
    ("user_id", .text r.userId.text),
    ("expires_at", timeValue r.expiresAt),
    ("created_at", timeValue r.createdAt),
    ("used_at", r.usedAt.elim .null timeValue)]

def User.fields : List Json.Field := [
  ⟨"id", .text, false⟩,
  ⟨"email", .text, false⟩,
  ⟨"password_hash", .text, false⟩,
  ⟨"role", .name, false⟩,
  ⟨"created_at", .text, false⟩,
  ⟨"updated_at", .text, false⟩]

def Session.fields : List Json.Field := [
  ⟨"id", .text, false⟩,
  ⟨"user_id", .text, false⟩,
  ⟨"refresh_token", .text, false⟩,
  ⟨"user_agent", .text, false⟩,
  ⟨"client_ip", .text, false⟩,
  ⟨"expires_at", .text, false⟩,
  ⟨"created_at", .text, false⟩]

def User.ofEntries? (es : Json.Entries) : Option User := do
  return {
    id := ← (← es.text? "id") |> Uuid.read?
    email := ← es.text? "email"
    passwordHash := ← es.text? "password_hash"
    role := ← (← es.text? "role") |> Role.ofName?
    createdAt := ← (← es.text? "created_at") |> Timestamp.read?
    updatedAt := ← (← es.text? "updated_at") |> Timestamp.read? }

def Session.ofEntries? (es : Json.Entries) : Option Session := do
  return {
    id := ← (← es.text? "id") |> Uuid.read?
    userId := ← (← es.text? "user_id") |> Uuid.read?
    refreshToken := ← es.text? "refresh_token"
    userAgent := ← es.text? "user_agent"
    clientIp := ← es.text? "client_ip"
    expiresAt := ← (← es.text? "expires_at") |> Timestamp.read?
    createdAt := ← (← es.text? "created_at") |> Timestamp.read? }

def User.read? (text : Bytes) : Option User :=
  (Json.whole (Json.record "User" User.fields) text).bind User.ofEntries?

def Session.read? (text : Bytes) : Option Session :=
  (Json.whole (Json.record "Session" Session.fields) text).bind Session.ofEntries?

end Gatehouse.Account
