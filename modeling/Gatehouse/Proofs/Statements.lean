import Gatehouse.Sql.Engine
import Gatehouse.Sql.Store
import Gatehouse.Store.Tables
import Mathlib.Data.List.Nodup

/-!
What the statements of the store do to the rows of tables. A condition on columns is a test of
records, a list of values that is found is read back as the record that was written, and so a
request to a database whose rows are those of tables is a request to the tables.
-/

namespace Gatehouse.Sql

open Account (User Session Reset)
open Store (Tables Failure)

/-- The database that holds the rows of tables. -/
def Database.of (t : Tables) : Database where
  users := t.users.map ofUser
  sessions := t.sessions.map ofSession
  resets := t.resets.map ofReset

section
variable {β : Type} {d : Database} {table : Table} {rows : List β} {write : β → Record}
  {c : Condition} {parameters : List Cell} {meant : β → Bool}

theorem filter_stored (stored : d.rows table = rows.map write)
    (holds : ∀ b, c.holds table parameters (write b) = meant b) :
    (d.rows table).filter (fun row => c.holds table parameters row)
      = (rows.filter meant).map write := by
  rw [stored, List.filter_map]
  congr 2
  exact funext holds

theorem countP_stored (stored : d.rows table = rows.map write)
    (holds : ∀ b, c.holds table parameters (write b) = meant b) :
    (d.rows table).countP (fun row => c.holds table parameters row) = rows.countP meant := by
  rw [stored, List.countP_map]
  congr 1
  exact funext holds

theorem execute_select (stored : d.rows table = rows.map write)
    (holds : ∀ b, c.holds table parameters (write b) = meant b) :
    d.execute ⟨.select table c, parameters⟩
      = (.ok ⟨(rows.filter meant).length, table.columns.map fun x => (x.name, x.type),
          (rows.filter meant).map write⟩, d) := by
  simp only [Database.execute, filter_stored stored holds, List.length_map]

theorem execute_delete (stored : d.rows table = rows.map write)
    (holds : ∀ b, c.holds table parameters (write b) = meant b) :
    d.execute ⟨.delete table c, parameters⟩
      = (.ok ⟨rows.countP meant, [], []⟩,
          d.put ((rows.filter fun b => !meant b).map write) table) := by
  have others : (d.rows table).filter (fun row => !c.holds table parameters row)
      = (rows.filter fun b => !meant b).map write := by
    rw [stored, List.filter_map]
    congr 2
    exact funext fun b => congrArg _ (holds b)
  simp only [Database.execute, countP_stored stored holds, others]

theorem map_stored (stored : d.rows table = rows.map write)
    (holds : ∀ b, c.holds table parameters (write b) = meant b) {columns : List Column}
    {f : β → β} (assigned : ∀ b, table.assignAll (write b) columns parameters = write (f b)) :
    (d.rows table).map (fun row => if c.holds table parameters row then
        table.assignAll row columns parameters else row)
      = (rows.map fun b => if meant b then f b else b).map write := by
  rw [stored, List.map_map, List.map_map]
  apply List.map_congr_left
  intro b _
  rw [Function.comp_apply, Function.comp_apply, holds, apply_ite write, assigned]

theorem execute_update (stored : d.rows table = rows.map write)
    (holds : ∀ b, c.holds table parameters (write b) = meant b) {columns : List Column}
    (free : columns.any table.uniqueColumns.contains = false) {f : β → β}
    (assigned : ∀ b, table.assignAll (write b) columns parameters = write (f b)) :
    d.execute ⟨.update table columns c, parameters⟩
      = (.ok ⟨rows.countP meant, [], []⟩,
          d.put ((rows.map fun b => if meant b then f b else b).map write) table) := by
  simp only [Database.execute, free, countP_stored stored holds, map_stored stored holds assigned,
    Bool.false_eq_true, if_false]

theorem execute_update_unique (stored : d.rows table = rows.map write)
    (holds : ∀ b, c.holds table parameters (write b) = meant b) {columns : List Column}
    (unique : columns.any table.uniqueColumns.contains = true) {f : β → β}
    (assigned : ∀ b, table.assignAll (write b) columns parameters = write (f b)) :
    d.execute ⟨.update table columns c, parameters⟩
      = d.replace table (rows.countP meant)
          ((rows.map fun b => if meant b then f b else b).map write) := by
  simp only [Database.execute, unique, countP_stored stored holds,
    map_stored stored holds assigned, if_true]

theorem isConsistent_concat (t : Table) (rows : List Record) (new : Record) :
    t.isConsistent (rows ++ [new])
      = (t.isConsistent rows && rows.all fun row => !t.clash row new) := by
  induction rows with
  | nil => rfl
  | cons row rows ih =>
      simp only [List.cons_append, Table.isConsistent, ih, List.all_append, List.all_cons,
        List.all_nil, Bool.and_true, Bool.and_assoc, Bool.and_left_comm]

theorem isConsistent_of_pairwise {meets : β → β → Bool}
    (clash : ∀ a b, table.clash (write a) (write b) = meets a b)
    (apart : rows.Pairwise fun a b => meets a b = false) :
    table.isConsistent (rows.map write) = true := by
  induction rows with
  | nil => rfl
  | cons row rows ih =>
      obtain ⟨first, rest⟩ := List.pairwise_cons.1 apart
      rw [List.map_cons, Table.isConsistent, ih rest, Bool.and_true, List.all_map,
        List.all_eq_true]
      intro b hb
      rw [Function.comp_apply, clash, first b hb]
      rfl

theorem pairwise_of_isConsistent {meets : β → β → Bool}
    (clash : ∀ a b, table.clash (write a) (write b) = meets a b)
    (consistent : table.isConsistent (rows.map write) = true) :
    rows.Pairwise fun a b => meets a b = false := by
  induction rows with
  | nil => exact .nil
  | cons row rows ih =>
      rw [List.map_cons, Table.isConsistent, Bool.and_eq_true, List.all_map,
        List.all_eq_true] at consistent
      obtain ⟨first, rest⟩ := consistent
      refine .cons ?_ (ih rest)
      intro b hb
      simpa [clash] using first b hb

theorem execute_insert (stored : d.rows table = rows.map write) {meets : β → β → Bool}
    (clash : ∀ a b, table.clash (write a) (write b) = meets a b)
    (apart : rows.Pairwise fun a b => meets a b = false) (new : β) :
    d.execute ⟨.insert table, write new⟩
      = if rows.any (meets · new) then (.error duplicate, d)
        else (.ok ⟨1, [], []⟩, d.put ((rows ++ [new]).map write) table) := by
  have none : (rows.map write).all (fun row => !table.clash row (write new))
      = !rows.any (meets · new) := by
    rw [List.all_map, List.not_any_eq_all_not]
    congr 1
    exact funext fun b => congrArg _ (clash b new)
  have consistent : table.isConsistent (d.rows table ++ [write new])
      = !rows.any (meets · new) := by
    rw [stored, isConsistent_concat, isConsistent_of_pairwise clash apart, Bool.true_and, none]
  have added : d.rows table ++ [write new] = (rows ++ [new]).map write := by
    rw [stored, List.map_append, List.map_singleton]
  rw [added] at consistent
  simp only [Database.execute, Database.replace, added, consistent]
  cases rows.any (meets · new) <;> rfl

end

theorem isSame_uuid (a b : Uuid) : (Cell.uuid a).isSame (.uuid b) = decide (a = b) := by
  simp [Cell.isSame, beq_eq_decide]

theorem isSame_text (a b : String) : (Cell.text a).isSame (.text b) = decide (a = b) := by
  simp [Cell.isSame, beq_eq_decide]

theorem holds_userId (id : Uuid) (u : User) (a b : Cell) :
    (Condition.every [.equals .id 3]).holds .users [a, b, .uuid id] (ofUser u)
      = decide (u.id = id) :=
  (Bool.and_true _).trans (isSame_uuid u.id id)

theorem holds_userIdAlone (id : Uuid) (u : User) :
    (Condition.every [.equals .id 1]).holds .users [.uuid id] (ofUser u) = decide (u.id = id) :=
  (Bool.and_true _).trans (isSame_uuid u.id id)

theorem holds_userIdLast (id : Uuid) (u : User) (a b c d : Cell) :
    (Condition.every [.equals .id 5]).holds .users [a, b, c, d, .uuid id] (ofUser u)
      = decide (u.id = id) :=
  (Bool.and_true _).trans (isSame_uuid u.id id)

theorem holds_userEmail (email : String) (u : User) :
    (Condition.every [.equals .email 1]).holds .users [.text email] (ofUser u)
      = decide (u.email = email) :=
  (Bool.and_true _).trans (isSame_text u.email email)

theorem holds_sessionId (id : Uuid) (x : Session) :
    (Condition.every [.equals .id 1]).holds .sessions [.uuid id] (ofSession x)
      = decide (x.id = id) :=
  (Bool.and_true _).trans (isSame_uuid x.id id)

theorem holds_sessionUser (userId : Uuid) (x : Session) :
    (Condition.every [.equals .userId 1]).holds .sessions [.uuid userId] (ofSession x)
      = decide (x.userId = userId) :=
  (Bool.and_true _).trans (isSame_uuid x.userId userId)

theorem holds_sessionToken (token : String) (x : Session) :
    (Condition.every [.equals .refreshToken 1]).holds .sessions [.text token] (ofSession x)
      = decide (x.refreshToken = token) :=
  (Bool.and_true _).trans (isSame_text x.refreshToken token)

theorem holds_sessionExpired (now : Timestamp) (x : Session) :
    (Condition.every [.before .expiresAt 1]).holds .sessions [.time now] (ofSession x)
      = x.isExpired now :=
  Bool.and_true _

theorem holds_resetToken (token : String) (r : Reset) :
    (Condition.every [.equals .token 1]).holds .resets [.text token] (ofReset r)
      = decide (r.token = token) :=
  (Bool.and_true _).trans (isSame_text r.token token)

theorem isNull_usedAt (r : Reset) (parameters : List Cell) :
    (Test.isNull .usedAt).holds .resets parameters (ofReset r) = !r.isUsed := by
  obtain ⟨id, userId, token, expiresAt, createdAt, usedAt⟩ := r
  cases usedAt <;> rfl

theorem isPresent_usedAt (r : Reset) (parameters : List Cell) :
    (Test.isPresent .usedAt).holds .resets parameters (ofReset r) = r.isUsed := by
  obtain ⟨id, userId, token, expiresAt, createdAt, usedAt⟩ := r
  cases usedAt <;> rfl

theorem holds_claim (id : Uuid) (at_ : Timestamp) (r : Reset) :
    (Condition.every [.equals .id 2, .isNull .usedAt]).holds .resets [.time at_, .uuid id]
      (ofReset r) = (decide (r.id = id) && !r.isUsed) := by
  rw [Condition.holds, List.all_cons, List.all_cons, isNull_usedAt, List.all_nil, Bool.and_true]
  congr 1
  exact isSame_uuid r.id id

theorem notBefore_time (a b : Timestamp) :
    (Cell.time a).isNotBefore (.time b) = !decide (a < b) := by
  rw [Cell.isNotBefore, ← decide_not]
  exact decide_eq_decide.2 Timestamp.le_def

theorem holds_claimUnexpired (id : Uuid) (at_ : Timestamp) (r : Reset) :
    (Condition.every [.equals .id 2, .isNull .usedAt, .notBefore .expiresAt 1]).holds .resets
      [.time at_, .uuid id] (ofReset r) = (decide (r.id = id) && Tables.isClaimable r at_) := by
  rw [Condition.holds, List.all_cons, List.all_cons, isNull_usedAt, List.all_cons, List.all_nil,
    Bool.and_true]
  congr 1
  · exact isSame_uuid r.id id
  · rw [Tables.isClaimable]
    congr 1
    exact notBefore_time r.expiresAt at_

theorem holds_spent (now : Timestamp) (r : Reset) :
    (Condition.some [.before .expiresAt 1, .isPresent .usedAt]).holds .resets [.time now]
      (ofReset r) = !Tables.isClaimable r now := by
  have expired : (Test.before .expiresAt 1).holds .resets [.time now] (ofReset r)
      = r.isExpired now := rfl
  rw [Condition.holds, List.any_cons, List.any_cons, List.any_nil, Bool.or_false, expired,
    isPresent_usedAt, Tables.isClaimable]
  cases r.isUsed <;> cases r.isExpired now <;> rfl

theorem clash_users (a b : User) :
    Table.users.clash (ofUser a) (ofUser b)
      = (decide (a.id = b.id) || decide (a.email = b.email)) := by
  rw [Table.clash, Table.uniqueColumns, List.any_cons, List.any_cons, List.any_nil, Bool.or_false]
  congr 1
  · exact isSame_uuid a.id b.id
  · exact isSame_text a.email b.email

theorem clash_sessions (a b : Session) :
    Table.sessions.clash (ofSession a) (ofSession b) = decide (a.id = b.id) :=
  (Bool.or_false _).trans (isSame_uuid a.id b.id)

theorem clash_resets (a b : Reset) :
    Table.resets.clash (ofReset a) (ofReset b)
      = (decide (a.id = b.id) || decide (a.token = b.token)) := by
  rw [Table.clash, Table.uniqueColumns, List.any_cons, List.any_cons, List.any_nil, Bool.or_false]
  congr 1
  · exact isSame_uuid a.id b.id
  · exact isSame_text a.token b.token

theorem assign_usedAt (r : Reset) (at_ : Timestamp) (id : Cell) :
    Table.resets.assignAll (ofReset r) [.usedAt] [.time at_, id]
      = ofReset { r with usedAt := some at_ } := rfl

theorem assign_password (u : User) (hash : String) (at_ : Timestamp) (id : Cell) :
    Table.users.assignAll (ofUser u) [.passwordHash, .updatedAt] [.text hash, .time at_, id]
      = ofUser { u with passwordHash := hash, updatedAt := at_ } := rfl

theorem assign_user (u v : User) (now : Timestamp) (id : Cell) :
    Table.users.assignAll (ofUser v) [.email, .passwordHash, .role, .updatedAt]
        [.text u.email, .text u.passwordHash, .text u.role.name, .time now, id]
      = ofUser { v with
          email := u.email, passwordHash := u.passwordHash, role := u.role, updatedAt := now } :=
  rfl

theorem user_ofUser (u : User) :
    Row.user ((Table.users.columns.map fun c => (c.name, c.type)).zip (ofUser u)) = .ok u := by
  obtain ⟨id, email, passwordHash, role, createdAt, updatedAt⟩ := u
  cases role <;> rfl

theorem session_ofSession (x : Session) :
    Row.session ((Table.sessions.columns.map fun c => (c.name, c.type)).zip (ofSession x))
      = .ok x := rfl

theorem reset_ofReset (r : Reset) :
    Row.reset ((Table.resets.columns.map fun c => (c.name, c.type)).zip (ofReset r))
      = .ok r := by
  obtain ⟨id, userId, token, expiresAt, createdAt, usedAt⟩ := r
  cases usedAt <;> rfl

end Gatehouse.Sql
