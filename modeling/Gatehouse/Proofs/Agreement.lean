import Gatehouse.Proofs.Rollback
import Mathlib.Data.List.Induction

/-!
The store in a database and the store in memory, asked the same things one after another: as
long as no two sessions have the same refresh token they give the same answers, and hold the
same rows after each. Where a statement fails the store in a database changes nothing.
-/

namespace Gatehouse.Sql

open Account (User Session Reset)
open Store (Tables Failure Op memory)
open Store.Tables (Keyed SameRows)

/-- A request, whatever it returns. -/
structure Request where
  {α : Type}
  op : Op α

def Request.isOnUsers (r : Request) : Bool := r.op.method.isOnUsers

/-- The state behind a store after some requests. -/
def after {σ : Type} (s : Store (StateM σ)) (start : σ) (rs : List Request) : σ :=
  rs.foldl (fun x r => (s.run r.op x).2) start

theorem after_concat {σ : Type} (s : Store (StateM σ)) (start : σ) (rs : List Request)
    (r : Request) : after s start (rs ++ [r]) = (s.run r.op (after s start rs)).2 := by
  rw [after, List.foldl_append]
  rfl

/-- A database that holds the rows of tables, in any order, and has no open transaction. -/
def Holds (e : Engine) (t : Tables) : Prop :=
  e.before = none ∧ ∃ t', SameRows t t' ∧ e.current = .of t'

/-- No two sessions have the same refresh token. -/
def Apart (t : Tables) : Prop := (t.sessions.map (·.refreshToken)).Nodup

section
variable {e : Engine} {t : Tables}

theorem Holds.step (holds : Holds e t) (keyed : Keyed t) (apart : Apart t) {α : Type} (op : Op α)
    (ours : op.method.isOnUsers = false) :
    ((store engine).run op e).1 = (memory.run op t).1 ∧
      Holds ((store engine).run op e).2 (memory.run op t).2 := by
  obtain ⟨current, before⟩ := e
  obtain ⟨rfl, t', same, rfl⟩ := holds
  obtain ⟨answer, rows⟩ := same.run keyed apart op ours
  have served : (store engine).run op ⟨.of t', none⟩ = recorded (Tables.run op t') :=
    perform_engine (keyed.ofSameRows same) op ours
  rw [served]
  exact ⟨answer.symm, rfl, _, rows, rfl⟩

theorem Holds.run (holds : Holds e t) (keyed : Keyed t) {rs : List Request}
    (ours : ∀ r ∈ rs, r.isOnUsers = false)
    (apart : ∀ ran, ran <+: rs → Apart (after memory t ran)) :
    Holds (after (store engine) e rs) (after memory t rs) ∧ Keyed (after memory t rs) := by
  induction rs using List.reverseRecOn with
  | nil => exact ⟨holds, keyed⟩
  | append_singleton rs r ih =>
      obtain ⟨holds, keyed⟩ := ih (fun r hr => ours r (List.mem_append_left _ hr))
        fun ran h => apart ran (h.trans (List.prefix_append _ _))
      have now := apart rs (List.prefix_append _ _)
      have last := ours r (List.mem_append_right _ List.mem_cons_self)
      rw [after_concat, after_concat]
      exact ⟨(holds.step keyed now r.op last).2, keyed.run r.op⟩

/-- The session that a request adds. -/
def newSession? {α : Type} : Op α → Option Session
  | .createSession x => some x
  | .rotateSession _ x => some x
  | _ => none

theorem sessions_run {α : Type} (op : Op α) (t : Tables) :
    (Tables.run op t).2.sessions.Sublist (t.sessions ++ (newSession? op).toList) := by
  have same (xs : List Session) : t.sessions.Sublist (t.sessions ++ xs) :=
    List.sublist_append_left _ xs
  have fewer (keep : Session → Bool) (xs : List Session) :
      (t.sessions.filter keep).Sublist (t.sessions ++ xs) := List.filter_sublist.trans (same xs)
  cases op with
  | userById | userByEmail | sessionById | sessionByToken | resetByToken =>
      rw [Tables.run, Tables.orNotFound_snd]
      exact same _
  | createUser | updateUser | createReset | markResetUsed | consumeReset =>
      simp only [Tables.run, Tables.createUser, Tables.updateUser, Tables.createReset,
        Tables.markResetUsed, Tables.consumeReset]
      repeat' split
      all_goals exact same _
  | deleteExpiredResets now => exact same _
  | createSession x =>
      rw [Tables.run, Tables.createSession]
      split
      · exact same _
      · exact .refl _
  | deleteSession id =>
      rw [Tables.run, Tables.deleteSession]
      split
      · exact same _
      · exact fewer _ _
  | deleteUserSessions | deleteExpiredSessions => exact fewer _ _
  | rotateSession old x =>
      rw [Tables.run, Tables.rotateSession]
      split
      · exact same _
      · split
        · exact same _
        · exact List.filter_sublist.append_right _

def newSessions (rs : List Request) : List Session := rs.filterMap fun r => newSession? r.op

theorem newSessions_concat (rs : List Request) (r : Request) :
    newSessions (rs ++ [r]) = newSessions rs ++ (newSession? r.op).toList := by
  rw [newSessions, List.filterMap_append]
  cases h : newSession? r.op <;> simp [newSessions, h]

theorem sessions_after (t : Tables) (rs : List Request) :
    (after memory t rs).sessions.Sublist (t.sessions ++ newSessions rs) := by
  induction rs using List.reverseRecOn with
  | nil => exact List.sublist_append_left _ _
  | append_singleton rs r ih =>
      rw [after_concat, newSessions_concat, ← List.append_assoc]
      exact (sessions_run r.op _).trans (ih.append_right _)

/-- Sessions stay apart when no token is stored already or added twice. -/
theorem apart_of_nodup {rs : List Request}
    (unique : ((t.sessions ++ newSessions rs).map (·.refreshToken)).Nodup) (ran : List Request)
    (h : ran <+: rs) : Apart (after memory t ran) := by
  have fewer : (newSessions ran).Sublist (newSessions rs) := h.sublist.filterMap _
  have all := (sessions_after t ran).trans ((List.Sublist.refl t.sessions).append fewer)
  exact unique.sublist (all.map _)

end

/-- Of a sequence of requests about sessions and resets, each has the same answer in a database
as in memory, and leaves the same rows in both, from any tables with unique keys, as long as the
sessions have different refresh tokens. And if one of the statements of any request fails, the
beginning and the end of a transaction included, then the answer is an error, and the database
is what it was. -/
theorem stores_agree {t : Tables} {e : Engine} (keyed : Keyed t) (holds : Holds e t)
    {rs : List Request} (ours : ∀ r ∈ rs, r.isOnUsers = false)
    (apart : ∀ ran, ran <+: rs → Apart (after memory t ran)) :
    (∀ ran r rest, rs = ran ++ r :: rest →
      ((store engine).run r.op (after (store engine) e ran)).1
          = (memory.run r.op (after memory t ran)).1 ∧
        Holds (after (store engine) e (ran ++ [r])) (after memory t (ran ++ [r]))) ∧
    ∀ (faults : Nat → Option Failure) (r : Request) (d : Database) (n : Nat),
      let (answer, c) := (store (faulty faults)).run r.op ⟨⟨d, none⟩, n, false⟩
      c.failed = true → (∃ e, answer = .error e) ∧ c.engine = ⟨d, none⟩ := by
  refine ⟨?_, ?_⟩
  · rintro ran r rest rfl
    have before : ran <+: ran ++ r :: rest := List.prefix_append _ _
    obtain ⟨holds, keyed⟩ := holds.run keyed (fun q hq => ours q (List.mem_append_left _ hq))
      fun q h => apart q (h.trans before)
    have last := ours r (List.mem_append_right _ List.mem_cons_self)
    rw [after_concat, after_concat]
    exact holds.step keyed (apart ran before) r.op last
  · intro faults r d n
    exact perform_undone faults r.op ⟨⟨d, none⟩, n, false⟩ rfl rfl

/-- A session is rotated, so its token is found no more; and when the rotation does not commit,
it never happened. -/
theorem stores_agree_rotation :
    let x : Session := ⟨⟨2⟩, ⟨1⟩, "first", "", "", ⟨100, 0⟩, ⟨0, 0⟩⟩
    let y : Session := ⟨⟨3⟩, ⟨1⟩, "second", "", "", ⟨100, 0⟩, ⟨0, 0⟩⟩
    let t : Tables := { sessions := [x] }
    let rotate : Request := ⟨.rotateSession x.id y⟩
    let find : Request := ⟨.sessionByToken x.refreshToken⟩
    let lost (n : Nat) : Option Failure := if n = 3 then some .closed else none
    let (answer, c) := (store (faulty lost)).run rotate.op ⟨⟨.of t, none⟩, 0, false⟩
    Keyed t ∧ Holds ⟨.of t, none⟩ t ∧ (∀ r ∈ [rotate, find], r.isOnUsers = false) ∧
      (∀ ran, ran <+: [rotate, find] → Apart (after memory t ran)) ∧
      ((store engine).run find.op (after (store engine) ⟨.of t, none⟩ [rotate])).1
        = .error .notFound ∧
      c.failed = true ∧ (∃ e, answer = .error e) ∧ c.engine = ⟨.of t, none⟩ := by
  intro x y t rotate find lost
  have keyed : Keyed t := ⟨by decide, by decide, by decide⟩
  have holds : Holds ⟨.of t, none⟩ t := ⟨rfl, t, .refl t, rfl⟩
  have ours : ∀ r ∈ [rotate, find], r.isOnUsers = false := by decide
  have apart : ∀ ran, ran <+: [rotate, find] → Apart (after memory t ran) :=
    apart_of_nodup (by decide)
  obtain ⟨same, undone⟩ := stores_agree keyed holds ours apart
  have failed : ((store (faulty lost)).run rotate.op ⟨⟨.of t, none⟩, 0, false⟩).2.failed
      = true := by decide
  exact ⟨keyed, holds, ours, apart, (same [rotate] find [] rfl).1, failed,
    undone lost rotate (.of t) 0 failed⟩

end Gatehouse.Sql
