import Gatehouse.Proofs.Refinement
import Gatehouse.Sql.Outage

/-!
What a statement that fails leaves behind: nothing. A query outside of a transaction has no
effect when it fails, and a transaction is rolled back, whichever of its statements failed.
-/

namespace Gatehouse.Sql

open Store (Failure Op)

variable {α β : Type}

/-- When a statement fails, the answer is an error. What to go back to stays known. -/
def Tells (x : StateM Connection (Except Store.Error α)) : Prop :=
  ∀ c : Connection, c.failed = false →
    (x c).2.engine.before = c.engine.before ∧
      ((x c).2.failed = true → ∃ e, (x c).1 = .error e)

/-- When a statement fails, the answer is an error, and the database is as it was. -/
def Undone (x : StateM Connection (Except Store.Error α)) : Prop :=
  ∀ c : Connection, c.failed = false → c.engine.before = none → (x c).2.failed = true →
    (∃ e, (x c).1 = .error e) ∧ (x c).2.engine = c.engine

theorem execute_of_error {d : Database} {q : Query} {f : Failure}
    (h : (d.execute q).1 = .error f) : (d.execute q).2 = d := by
  have replaced (t : Table) (n : Nat) (rows : List Record)
      (h : (d.replace t n rows).1 = .error f) : (d.replace t n rows).2 = d := by
    rw [Database.replace] at h ⊢
    split at h
    · cases h
    next clash => rw [if_neg clash]
  obtain ⟨statement, parameters⟩ := q
  cases statement with
  | insert t => exact replaced _ _ _ h
  | select t c | delete t c | probe => cases h
  | update t columns c =>
      simp only [Database.execute] at h ⊢
      split at h
      next unique =>
        rw [if_pos unique]
        exact replaced _ _ _ h
      next => cases h

section
variable (faults : Nat → Option Failure)

theorem attempt_cases (statement : StateM Engine (Except Failure α)) (c : Connection)
    (undone : ∀ f, (statement c.engine).1 = .error f → (statement c.engine).2 = c.engine) :
    (∃ f n, attempt faults statement c = (.error f, ⟨c.engine, n, true⟩)) ∨
    (∃ a n, attempt faults statement c = (.ok a, ⟨(statement c.engine).2, n, c.failed⟩)) := by
  rw [attempt]
  split
  next f _ => exact .inl ⟨f, _, rfl⟩
  next =>
    split
    next a e answer =>
      rw [answer]
      exact .inr ⟨a, _, rfl⟩
    next f e answer =>
      obtain rfl : e = c.engine := by simpa only [answer] using undone f (by rw [answer])
      exact .inl ⟨f, _, rfl⟩

theorem query_cases (q : Query) (c : Connection) :
    (∃ e n, (faulty faults).query q c = (.error e, ⟨c.engine, n, true⟩)) ∨
    (∃ r d n, (faulty faults).query q c = (.ok r, ⟨⟨d, c.engine.before⟩, n, c.failed⟩)) := by
  have undone (f : Failure) (h : (engine.execute q c.engine).1 = .error f) :
      (engine.execute q c.engine).2 = c.engine := by
    have same : (c.engine.current.execute q).2 = c.engine.current := execute_of_error h
    rw [execute_engine, same]
  have sent : (faulty faults).execute q = attempt faults (engine.execute q) := rfl
  rw [Server.query, bind_apply, sent]
  rcases attempt_cases faults _ c undone with ⟨f, n, failed⟩ | ⟨r, n, done⟩
  · rw [failed]
    exact .inl ⟨_, n, rfl⟩
  · rw [done]
    exact .inr ⟨r, _, n, rfl⟩

theorem Tells.query (q : Query) : Tells ((faulty faults).query q) := by
  intro c sound
  rcases query_cases faults q c with ⟨e, n, failed⟩ | ⟨r, d, n, done⟩
  · rw [failed]
    exact ⟨rfl, fun _ => ⟨e, rfl⟩⟩
  · rw [done]
    exact ⟨rfl, fun failed => absurd failed (sound ▸ Bool.false_ne_true)⟩

theorem Tells.answer (a : Except Store.Error α) :
    Tells (pure a : StateM Connection (Except Store.Error α)) := fun _ sound =>
  ⟨rfl, fun failed => absurd failed (sound ▸ Bool.false_ne_true)⟩

/-- What comes after an error is an error, and nothing else. -/
def Passes (k : Except Store.Error α → StateM Connection (Except Store.Error β)) : Prop :=
  ∀ e, ∃ e', k (.error e) = pure (.error e')

theorem Tells.bind {x : StateM Connection (Except Store.Error α)}
    {k : Except Store.Error α → StateM Connection (Except Store.Error β)} (first : Tells x)
    (passes : Passes k) (next : ∀ a, Tells (k (.ok a))) : Tells (x >>= k) := by
  intro c sound
  obtain ⟨kept, told⟩ := first c sound
  rw [bind_apply]
  cases answer : (x c).1 with
  | error e =>
      obtain ⟨e', ends⟩ := passes e
      rw [ends]
      exact ⟨kept, fun _ => ⟨e', rfl⟩⟩
  | ok a =>
      have still : (x c).2.failed = false := by
        refine Bool.eq_false_iff.2 fun failed => ?_
        obtain ⟨e, h⟩ := told failed
        cases answer.symm.trans h
      obtain ⟨kept', told'⟩ := next a (x c).2 still
      exact ⟨kept'.trans kept, told'⟩

/-- A single query, and an answer made of its result. -/
theorem Undone.query {k : Except Store.Error Result → StateM Connection (Except Store.Error α)}
    (q : Query) (passes : Passes k) (ends : ∀ r, ∃ a, k (.ok r) = pure a) :
    Undone ((faulty faults).query q >>= k) := by
  intro c sound _ failed
  rw [bind_apply] at failed ⊢
  rcases query_cases faults q c with ⟨e, n, lost⟩ | ⟨r, d, n, done⟩
  · obtain ⟨e', h⟩ := passes e
    rw [lost, h]
    exact ⟨⟨e', rfl⟩, rfl⟩
  · obtain ⟨a, h⟩ := ends r
    rw [done, h] at failed
    exact absurd (sound.symm.trans failed) Bool.false_ne_true

theorem rollback_faulty {c : Connection} {d : Database} (before : c.engine.before = some d) :
    (faulty faults).rollback c = ((), ⟨⟨d, none⟩, c.statements, c.failed⟩) := by
  obtain ⟨⟨d', _⟩, n, failed⟩ := c
  obtain rfl := before
  rfl

theorem Undone.transaction {body : StateM Connection (Except Store.Error Unit)}
    (told : Tells body) : Undone ((faulty faults).transaction body) := by
  intro c sound closed
  obtain ⟨⟨d, before⟩, n, _⟩ := c
  obtain rfl : before = none := closed
  obtain rfl : _ = false := sound
  have begun : (faulty faults).start = attempt faults engine.start := rfl
  have ended : (faulty faults).commit = attempt faults engine.commit := rfl
  rw [Server.transaction, bind_apply, begun]
  rcases attempt_cases faults engine.start ⟨⟨d, none⟩, n, false⟩ (fun _ h => by cases h) with
    ⟨f, m, lost⟩ | ⟨_, m, started⟩
  · rw [lost]
    exact fun _ => ⟨⟨_, rfl⟩, rfl⟩
  -- From here on `d` is what a rollback goes back to, and the body cannot change that.
  rw [started]
  dsimp only
  rw [bind_apply]
  obtain ⟨kept, told⟩ := told ⟨⟨d, some d⟩, m, false⟩ rfl
  rw [start_engine]
  cases reached : body ⟨⟨d, some d⟩, m, false⟩ with
  | mk answer c =>
  rw [reached] at kept told
  replace kept : c.engine.before = some d := kept
  cases answer with
  | error e =>
      dsimp only
      rw [bind_apply, rollback_faulty faults kept]
      exact fun _ => ⟨⟨e, rfl⟩, rfl⟩
  | ok _ =>
      dsimp only
      rw [bind_apply, ended]
      rcases attempt_cases faults engine.commit c (fun _ h => by cases h) with
        ⟨f, m, lost⟩ | ⟨_, m, done⟩
      · have back := rollback_faulty faults (c := ⟨c.engine, m, true⟩) kept
        rw [lost]
        dsimp only
        rw [bind_apply, back]
        exact fun _ => ⟨⟨_, rfl⟩, rfl⟩
      · rw [done]
        intro failed
        obtain ⟨e, h⟩ := told failed
        cases h

theorem Tells.run (q : Query) : Tells ((faulty faults).run q) :=
  .bind (.query faults q) (fun e => ⟨e, rfl⟩) fun _ => .answer _

theorem Tells.change (q : Query) : Tells ((faulty faults).change q) :=
  .bind (.query faults q) (fun e => ⟨e, rfl⟩) fun _ => .answer _

theorem Tells.changeThen (q : Query) {next : StateM Connection (Except Store.Error Unit)}
    (h : Tells next) : Tells ((faulty faults).changeThen q next) :=
  .bind (.change faults q) (fun e => ⟨e, rfl⟩) fun _ => h

theorem Undone.run (q : Query) : Undone ((faulty faults).run q) :=
  .query faults q (fun e => ⟨e, rfl⟩) fun _ => ⟨_, rfl⟩

theorem Undone.tally (q : Query) : Undone ((faulty faults).tally q) :=
  .query faults q (fun e => ⟨e, rfl⟩) fun _ => ⟨_, rfl⟩

theorem Undone.change (q : Query) : Undone ((faulty faults).change q) :=
  .query faults q (fun e => ⟨e, rfl⟩) fun _ => ⟨_, rfl⟩

theorem Undone.fetch (q : Query) (read : Row → Except Store.Error α) :
    Undone ((faulty faults).fetch q read) :=
  .query faults q (fun e => ⟨e, rfl⟩) fun _ => ⟨_, rfl⟩

theorem perform_undone (op : Op α) : Undone (perform (faulty faults) op) := by
  cases op with
  | createUser | createSession | createReset => exact .run faults _
  | userById | userByEmail | sessionById | sessionByToken | resetByToken => exact .fetch faults _ _
  | updateUser | deleteSession | markResetUsed => exact .change faults _
  | deleteUserSessions | deleteExpiredSessions | deleteExpiredResets => exact .tally faults _
  | rotateSession old x => exact .transaction faults (.changeThen faults _ (.run faults _))
  | consumeReset id u at_ => exact .transaction faults (.changeThen faults _ (.change faults _))

end

end Gatehouse.Sql
