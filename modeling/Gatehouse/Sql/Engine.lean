import Gatehouse.Sql.Server

/-!
What statements mean. A database holds the rows of its tables in the order in which they were
added. A statement finds and changes the rows that its condition holds of; a change of a unique
column that would leave two rows with one value there is refused, and then nothing is changed.
What a transaction changed is undone when it is rolled back.
-/

namespace Gatehouse.Sql

open Store (Failure)

/-- The values of a row, in the order of the columns of its table. -/
abbrev Record := List Cell

structure Database where
  users : List Record := []
  sessions : List Record := []
  resets : List Record := []
  deriving DecidableEq, Repr

def Database.rows (d : Database) : Table → List Record
  | .users => d.users
  | .sessions => d.sessions
  | .resets => d.resets

def Database.put (d : Database) (rows : List Record) : Table → Database
  | .users => { d with users := rows }
  | .sessions => { d with sessions := rows }
  | .resets => { d with resets := rows }

/-- The columns in which no two rows have the same value. -/
def Table.uniqueColumns : Table → List Column
  | .users => [.id, .email]
  | .sessions => [.id]
  | .resets => [.id, .token]

def Column.type : Column → ColumnType
  | .id | .userId => .uuid
  | .createdAt | .updatedAt | .expiresAt | .usedAt => .time
  | _ => .text

/-- The value of a row in a column. -/
def Table.cell (t : Table) (row : Record) (c : Column) : Cell :=
  ((t.columns.zip row).lookup c).getD .null

/-- Give a column of a row a value. -/
def Table.assign (t : Table) (row : Record) (c : Column) (value : Cell) : Record :=
  (t.columns.zip row).map fun p => if p.1 = c then value else p.2

/-- The value of the parameter of a number. -/
def argument (parameters : List Cell) (number : Nat) : Cell :=
  (parameters[number - 1]?).getD .null

/-- Null is equal to nothing, not even to itself. -/
def Cell.isSame (a b : Cell) : Bool := a != .null && a == b

/-- Times are ordered; other values are not compared by the statements. -/
def Cell.isBefore : Cell → Cell → Bool
  | .time a, .time b => a < b
  | _, _ => false

def Cell.isNotBefore : Cell → Cell → Bool
  | .time a, .time b => b ≤ a
  | _, _ => false

def Test.holds (t : Table) (parameters : List Cell) (row : Record) : Test → Bool
  | .equals c n => (t.cell row c).isSame (argument parameters n)
  | .before c n => (t.cell row c).isBefore (argument parameters n)
  | .notBefore c n => (t.cell row c).isNotBefore (argument parameters n)
  | .isNull c => t.cell row c == .null
  | .isPresent c => t.cell row c != .null

/-- There is no negation, so a test whose outcome is unknown counts as one that fails. -/
def Condition.holds (t : Table) (parameters : List Cell) (row : Record) : Condition → Bool
  | .every tests => tests.all fun x => x.holds t parameters row
  | .some tests => tests.any fun x => x.holds t parameters row

/-- Two rows have one value in a unique column. -/
def Table.clash (t : Table) (a b : Record) : Bool :=
  t.uniqueColumns.any fun c => (t.cell a c).isSame (t.cell b c)

/-- No row clashes with a later one. -/
def Table.isConsistent (t : Table) : List Record → Bool
  | [] => true
  | row :: rows => rows.all (fun other => !t.clash row other) && t.isConsistent rows

def duplicate : Failure :=
  refusal uniqueViolation "duplicate key value violates unique constraint"

/-- Replace the rows of a table, unless two of the new ones clash. -/
def Database.replace (d : Database) (t : Table) (affected : Nat) (rows : List Record) :
    Except Failure Result × Database :=
  if t.isConsistent rows then (.ok ⟨affected, [], []⟩, d.put rows t) else (.error duplicate, d)

/-- Give some columns of a row the values of the first parameters. -/
def Table.assignAll (t : Table) (row : Record) (columns : List Column) (values : List Cell) :
    Record :=
  (columns.zip values).foldl (fun r p => t.assign r p.1 p.2) row

def Database.execute (d : Database) (q : Query) : Except Failure Result × Database :=
  match q.statement with
  | .insert t => d.replace t 1 (d.rows t ++ [q.parameters])
  | .select t c =>
      let found := (d.rows t).filter fun row => c.holds t q.parameters row
      (.ok ⟨found.length, t.columns.map fun x => (x.name, x.type), found⟩, d)
  | .update t columns c =>
      let isMeant (row : Record) := c.holds t q.parameters row
      let affected := (d.rows t).countP isMeant
      let rows := (d.rows t).map fun row =>
        if isMeant row then t.assignAll row columns q.parameters else row
      if columns.any t.uniqueColumns.contains then d.replace t affected rows
      else (.ok ⟨affected, [], []⟩, d.put rows t)
  | .delete t c =>
      let isMeant (row : Record) := c.holds t q.parameters row
      (.ok ⟨(d.rows t).countP isMeant, [], []⟩,
        d.put ((d.rows t).filter fun row => !isMeant row) t)
  | .probe => (.ok ⟨1, [("?column?", .integer)], [[.integer 1]]⟩, d)

/-- A database, and what it was when the open transaction began. -/
structure Engine where
  current : Database := {}
  before : Option Database := none
  deriving DecidableEq, Repr

/-- The server that gives statements their meaning. -/
def engine : Server (StateM Engine) where
  execute q := fun e =>
    let (r, d) := e.current.execute q
    (r, { e with current := d })
  start := fun e => (.ok (), { e with before := some e.current })
  commit := fun e => (.ok (), { e with before := none })
  rollback := fun e => ((), ⟨e.before.getD e.current, none⟩)

end Gatehouse.Sql
