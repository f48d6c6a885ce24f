import Gatehouse.Timestamp.Basic
import Gatehouse.Uuid

/-!
The statements that a database is sent, and their text. A statement names its parameters by
number, from one on; the values travel beside the text.
-/

namespace Gatehouse.Sql

inductive Table where
  | users | sessions | resets
  deriving DecidableEq, Repr

inductive Column where
  | id | email | passwordHash | role | createdAt | updatedAt
  | userId | refreshToken | userAgent | clientIp | expiresAt
  | token | usedAt
  deriving DecidableEq, Repr

def Table.name : Table → String
  | .users => "users"
  | .sessions => "sessions"
  | .resets => "password_resets"

def Column.name : Column → String
  | .id => "id"
  | .email => "email"
  | .passwordHash => "password_hash"
  | .role => "role"
  | .createdAt => "created_at"
  | .updatedAt => "updated_at"
  | .userId => "user_id"
  | .refreshToken => "refresh_token"
  | .userAgent => "user_agent"
  | .clientIp => "client_ip"
  | .expiresAt => "expires_at"
  | .token => "token"
  | .usedAt => "used_at"

/-- The columns of a table, in order. -/
def Table.columns : Table → List Column
  | .users => [.id, .email, .passwordHash, .role, .createdAt, .updatedAt]
  | .sessions =>
      [.id, .userId, .refreshToken, .userAgent, .clientIp, .expiresAt, .createdAt]
  | .resets => [.id, .userId, .token, .expiresAt, .createdAt, .usedAt]

/-- A value in a row or of a parameter. -/
inductive Cell where
  | null
  | uuid (u : Uuid)
  | text (s : String)
  | time (t : Timestamp)
  | integer (n : Int)
  deriving DecidableEq, Repr

/-- A test of one column, against a parameter or against null. -/
inductive Test where
  | equals (column : Column) (parameter : Nat)
  | before (column : Column) (parameter : Nat)
  | notBefore (column : Column) (parameter : Nat)
  | isNull (column : Column)
  | isPresent (column : Column)
  deriving DecidableEq, Repr

/-- Which rows are meant: those that pass every test, or those that pass one. -/
inductive Condition where
  | every (tests : List Test)
  | some (tests : List Test)
  deriving DecidableEq, Repr

inductive Statement where
  /-- Add a row; the parameters are its columns in order. -/
  | insert (table : Table)
  | select (table : Table) (condition : Condition)
  /-- Give columns of some rows the values of the parameters, from the first on. -/
  | update (table : Table) (columns : List Column) (condition : Condition)
  | delete (table : Table) (condition : Condition)
  /-- Select the number one. -/
  | probe
  deriving DecidableEq, Repr

/-- A statement with the values of its parameters. -/
structure Query where
  statement : Statement
  parameters : List Cell
  deriving DecidableEq, Repr

def listText (xs : List String) : String := String.intercalate ", " xs

def columnsText (cs : List Column) : String := listText (cs.map Column.name)

def Test.text : Test → String
  | .equals c n => s!"{c.name} = ${n}"
  | .before c n => s!"{c.name} < ${n}"
  | .notBefore c n => s!"{c.name} >= ${n}"
  | .isNull c => s!"{c.name} IS NULL"
  | .isPresent c => s!"{c.name} IS NOT NULL"

def Condition.text : Condition → String
  | .every tests => String.intercalate " AND " (tests.map Test.text)
  | .some tests => String.intercalate " OR " (tests.map Test.text)

/-- The numbers of so many parameters. -/
def numbers (count : Nat) : List Nat := (List.range count).map (· + 1)

def Statement.text : Statement → String
  | .insert t =>
      let values := (numbers t.columns.length).map fun n => s!"${n}"
      s!"INSERT INTO {t.name} ({columnsText t.columns}) VALUES ({listText values})"
  | .select t c => s!"SELECT {columnsText t.columns} FROM {t.name} WHERE {c.text}"
  | .update t cs c =>
      let sets := cs.zip (numbers cs.length) |>.map fun p => s!"{p.1.name} = ${p.2}"
      s!"UPDATE {t.name} SET {listText sets} WHERE {c.text}"
  | .delete t c => s!"DELETE FROM {t.name} WHERE {c.text}"
  | .probe => "SELECT 1"

end Gatehouse.Sql
