import Gatehouse.Account.Records
import Gatehouse.Sql.Server

/-!
Rows and records. A record is written into a row column by column, and read back from a row of
a result by the names of the columns; the order of the columns does not matter there, nor do
columns of other names, and of two columns of one name the later one counts.
-/

namespace Gatehouse.Sql

open Account (Role User Session Reset)
open Store (Failure)

/-- The values of a user, in the order of the columns of its table. -/
def ofUser (u : User) : List Cell :=
  [.uuid u.id, .text u.email, .text u.passwordHash, .text u.role.name, .time u.createdAt,
    .time u.updatedAt]

def ofSession (s : Session) : List Cell :=
  [.uuid s.id, .uuid s.userId, .text s.refreshToken, .text s.userAgent, .text s.clientIp,
    .time s.expiresAt, .time s.createdAt]

def ofReset (r : Reset) : List Cell :=
  [.uuid r.id, .uuid r.userId, .text r.token, .time r.expiresAt, .time r.createdAt,
    r.usedAt.elim .null .time]

/-- A row of a result with the names and types of its columns. -/
abbrev Row := List ((String × ColumnType) × Cell)

/-- The first row of a result. -/
def Result.first? (r : Result) : Option Row := r.rows.head?.map r.columns.zip

def ColumnType.name : ColumnType → String
  | .uuid => "UUID"
  | .text => "TEXT"
  | .time => "TIMESTAMPTZ"
  | .integer => "INT4"
  | .bigInteger => "INT8"

/-- The names that messages use for what a column is read as. -/
def ColumnType.target : ColumnType → String
  | .uuid => "uuid::Uuid"
  | .text => "alloc::string::String"
  | .time => "chrono::datetime::DateTime<chrono::offset::utc::Utc>"
  | .integer => "i32"
  | .bigInteger => "i64"

def unexpectedNull : String := "unexpected null; try decoding as an `Option`"

def mistyped (target : String) (wanted found : ColumnType) : String :=
  s!"mismatched types; Rust type `{target}` (as SQL type `{wanted.name}`) is not compatible"
    ++ s!" with SQL type `{found.name}`"

/-- The last column of a name. -/
def Row.find (row : Row) (c : Column) : Except Failure (ColumnType × Cell) :=
  match row.reverse.find? (·.1.1 == c.name) with
  | some ((_, t), cell) => .ok (t, cell)
  | none => .error (.noColumn c.name)

/-- The value of a column, read as a type. -/
def Row.read {α : Type} (row : Row) (c : Column) (type : ColumnType)
    (value? : Cell → Option α) : Except Failure α := do
  let (found, cell) ← row.find c
  if cell = .null then .error (.undecodable c.name unexpectedNull)
  else if found ≠ type then .error (.undecodable c.name (mistyped type.target type found))
  else
    match value? cell with
    | some a => .ok a
    | none => .error (.undecodable c.name (mistyped type.target type found))

def Cell.uuid? : Cell → Option Uuid
  | .uuid u => some u
  | _ => none

def Cell.text? : Cell → Option String
  | .text s => some s
  | _ => none

def Cell.time? : Cell → Option Timestamp
  | .time t => some t
  | _ => none

def Row.uuid (row : Row) (c : Column) : Except Failure Uuid := row.read c .uuid Cell.uuid?

def Row.text (row : Row) (c : Column) : Except Failure String := row.read c .text Cell.text?

def Row.time (row : Row) (c : Column) : Except Failure Timestamp := row.read c .time Cell.time?

/-- A time that may be absent. -/
def Row.time? (row : Row) (c : Column) : Except Failure (Option Timestamp) := do
  let (found, cell) ← row.find c
  match cell with
  | .null => return none
  | cell =>
      match if found = .time then cell.time? else none with
      | some t => return some t
      | none =>
          let target := s!"core::option::Option<{ColumnType.time.target}>"
          .error (.undecodable c.name (mistyped target .time found))

/-- The role is read before the other columns. -/
def Row.user (row : Row) : Except Store.Error User := do
  let name ← (row.text .role).mapError .ofQuery
  let some role := Role.ofName? name | .error (.unavailable (Role.unknownMessage name))
  Except.mapError .ofQuery do
    return {
      id := ← row.uuid .id
      email := ← row.text .email
      passwordHash := ← row.text .passwordHash
      role := role
      createdAt := ← row.time .createdAt
      updatedAt := ← row.time .updatedAt }

def Row.session (row : Row) : Except Store.Error Session :=
  Except.mapError .ofQuery do
    return {
      id := ← row.uuid .id
      userId := ← row.uuid .userId
      refreshToken := ← row.text .refreshToken
      userAgent := ← row.text .userAgent
      clientIp := ← row.text .clientIp
      expiresAt := ← row.time .expiresAt
      createdAt := ← row.time .createdAt }

def Row.reset (row : Row) : Except Store.Error Reset :=
  Except.mapError .ofQuery do
    return {
      id := ← row.uuid .id
      userId := ← row.uuid .userId
      token := ← row.text .token
      expiresAt := ← row.time .expiresAt
      createdAt := ← row.time .createdAt
      usedAt := ← row.time? .usedAt }

end Gatehouse.Sql
