import Gatehouse.Proofs.Contention
import Gatehouse.Proofs.KeyedMaps

/-!
What no request can do to tables in memory, whatever it carries. Rows keep their keys apart;
users stay, with the identifier and the time of their creation; and as long as a session or a
reset is there, it is the one that was stored, but for the time at which a reset is used and for
a session that is rotated to its own identifier.
-/

namespace Gatehouse.Store

open Account (User Session Reset)
open Sql (Request after after_concat)

namespace Tables

section
variable {α : Type} {op : Op α} {t : Tables} {id : Uuid}

theorem user?_changeUser (t : Tables) (id id' : Uuid) (f : User → User)
    (keeps : ∀ v, (f v).id = v.id) :
    (t.changeUser id' f).user? id
      = (t.user? id).map fun v => if v.id = id' then f v else v :=
  find?_changed (p := fun v : User => v.id = id') (q := fun v => v.id = id)
    (fun v => by rw [keeps]) t.users

/-- What stays of a user, whatever is asked; only an update gives another address or role. -/
structure UserKept {α : Type} (op : Op α) (u v : User) : Prop where
  id : v.id = u.id
  createdAt : v.createdAt = u.createdAt
  emailAndRole : op.method ≠ .updateUser → v.email = u.email ∧ v.role = u.role

theorem UserKept.refl (op : Op α) (u : User) : UserKept op u u := ⟨rfl, rfl, fun _ => ⟨rfl, rfl⟩⟩

theorem UserWrite.find? {us : List User} (write : UserWrite t op us) {u : User}
    (found : t.user? id = some u) : ∃ v, us.find? (·.id = id) = some v ∧ UserKept op u v := by
  cases write with
  | kept => exact ⟨u, found, .refl _ u⟩
  | added =>
      refine ⟨u, ?_, .refl _ u⟩
      rw [List.find?_append, ← Tables.user?, found]
      rfl
  | @changed w now =>
      refine ⟨_, (user?_changeUser t id w.id (updated w now) fun _ => rfl).trans
        (by rw [found, Option.map_some]), ?_⟩
      split
      · exact ⟨rfl, rfl, fun other => absurd rfl other⟩
      · exact .refl _ u
  | @rehashed _ w at_ =>
      refine ⟨_, (user?_changeUser t id w.id (Tables.rehashed w at_) fun _ => rfl).trans
        (by rw [found, Option.map_some]), ?_⟩
      split
      · exact ⟨rfl, rfl, fun _ => ⟨rfl, rfl⟩⟩
      · exact .refl _ u

/-- What a request does to the sessions. -/
inductive SessionWrite (t : Tables) : {α : Type} → Op α → List Session → Prop where
  | fewer {α : Type} {op : Op α} {xs} (sub : xs.Sublist t.sessions) : SessionWrite t op xs
  | added {x} (new : t.session? x.id = none) :
      SessionWrite t (.createSession x) (t.sessions ++ [x])
  | replaced {old x} (free : x.id = old ∨ t.session? x.id = none) :
      SessionWrite t (.rotateSession old x) (t.sessions.filter (·.id ≠ old) ++ [x])

theorem SessionWrite.kept : SessionWrite t op t.sessions := .fewer (.refl _)

theorem sessionWrite_run (t : Tables) (op : Op α) :
    SessionWrite t op (run op t).2.sessions := by
  cases op with
  | userById | userByEmail | sessionById | sessionByToken | resetByToken =>
      rw [Tables.run, orNotFound_snd]
      exact .kept
  | createUser | updateUser | createReset | markResetUsed | consumeReset =>
      simp only [Tables.run, createUser, updateUser, createReset, markResetUsed, consumeReset]
      repeat' split
      all_goals exact .kept
  | deleteExpiredResets now => exact .kept
  | createSession x =>
      rw [Tables.run, createSession]
      split
      · exact .kept
      next new => exact .added (Option.not_isSome_iff_eq_none.1 new)
  | deleteSession id =>
      rw [Tables.run, deleteSession]
      split
      · exact .kept
      · exact .fewer List.filter_sublist
  | deleteUserSessions | deleteExpiredSessions => exact .fewer List.filter_sublist
  | rotateSession old x =>
      rw [Tables.run, rotateSession]
      split
      · exact .kept
      · split
        · exact .kept
        next free =>
          refine .replaced ?_
          by_cases own : x.id = old
          · exact .inl own
          · exact .inr (by simpa [own] using free)

/-- The session of an identifier stays what it was, unless a rotation replaces it by another of
that identifier. -/
theorem SessionWrite.eq_or_rotated {xs : List Session} (write : SessionWrite t op xs)
    (unique : (t.sessions.map (·.id)).Nodup) {x y : Session} (hx : x ∈ t.sessions) (hy : y ∈ xs)
    (same : y.id = x.id) : y = x ∨ (⟨op⟩ : Request) = ⟨.rotateSession x.id y⟩ := by
  have old (hy : y ∈ t.sessions) : y = x := List.inj_on_of_nodup_map unique hy hx same
  have not_new {z : Session} (new : t.session? z.id = none) (hz : y = z) : False :=
    List.find?_eq_none.1 new x hx (decide_eq_true (hz ▸ same.symm))
  cases write with
  | fewer sub => exact .inl (old (sub.subset hy))
  | added new =>
      rcases List.mem_append.1 hy with hy | hy
      · exact .inl (old hy)
      · exact (not_new new (List.mem_singleton.1 hy)).elim
  | replaced free =>
      rcases List.mem_append.1 hy with hy | hy
      · exact .inl (old (List.mem_of_mem_filter hy))
      · obtain rfl := List.mem_singleton.1 hy
        rcases free with own | new
        · exact .inr (by rw [← own, same])
        · exact (not_new new rfl).elim

end

/-- Rows are told apart by their identifiers, users also by their addresses, and resets by their
tokens. -/
structure Sound (t : Tables) : Prop where
  users : UsersKeyed t
  others : Keyed t

theorem Sound.run {t : Tables} (sound : Sound t) {α : Type} (op : Op α) : Sound (run op t).2 :=
  ⟨sound.users.run op, sound.others.run op⟩

end Tables

open Tables (Sound SessionWrite UserWrite)

section
variable {t : Tables} {id : Uuid} {rs : List Request}

theorem sound_after (sound : Sound t) (rs : List Request) : Sound (after memory t rs) := by
  induction rs generalizing t with
  | nil => exact sound
  | cons r rs ih => exact ih (sound.run r.op)

theorem user?_after {u : User} (found : t.user? id = some u) :
    ∃ v, (after memory t rs).user? id = some v ∧ v.id = u.id ∧ v.createdAt = u.createdAt ∧
      ((∀ r ∈ rs, r.op.method ≠ .updateUser) → v.email = u.email ∧ v.role = u.role) := by
  induction rs generalizing t u with
  | nil => exact ⟨u, found, rfl, rfl, fun _ => ⟨rfl, rfl⟩⟩
  | cons r rs ih =>
      obtain ⟨v, next, kept⟩ := (Tables.userWrite_run t r.op).find? found
      obtain ⟨w, last, sameId, created, plain⟩ := ih next
      refine ⟨w, last, sameId.trans kept.id, created.trans kept.createdAt, ?_⟩
      intro others
      obtain ⟨email, role⟩ := plain fun q hq => others q (List.mem_cons_of_mem _ hq)
      obtain ⟨email', role'⟩ := kept.emailAndRole (others r List.mem_cons_self)
      exact ⟨email.trans email', role.trans role'⟩

theorem there_tail {r : Request} {p : Tables → Prop}
    (there : ∀ ran, ran <+: r :: rs → p (after memory t ran)) :
    p (memory.run r.op t).2 ∧ ∀ ran, ran <+: rs → p (after memory (memory.run r.op t).2 ran) :=
  ⟨there [r] ⟨rs, rfl⟩, fun ran before => there (r :: ran) (List.cons_prefix_cons.2 ⟨rfl, before⟩)⟩

theorem session?_after (sound : Sound t) {x : Session} (found : t.session? id = some x)
    (there : ∀ ran, ran <+: rs → (after memory t ran).session? id ≠ none) :
    ∃ y, (after memory t rs).session? id = some y ∧ (y = x ∨ ⟨.rotateSession id y⟩ ∈ rs) := by
  induction rs generalizing t x with
  | nil => exact ⟨x, found, .inl rfl⟩
  | cons r rs ih =>
      obtain ⟨now, later⟩ := there_tail (p := fun t => t.session? id ≠ none) there
      obtain ⟨y, next⟩ := Option.ne_none_iff_exists'.1 now
      have own : x.id = id := by simpa using List.find?_some found
      have same : y.id = id := by simpa using List.find?_some next
      have step := (Tables.sessionWrite_run t r.op).eq_or_rotated sound.others.sessions
        (List.mem_of_find?_eq_some found) (List.mem_of_find?_eq_some next) (same.trans own.symm)
      obtain ⟨z, last, kept⟩ := ih (sound.run r.op) next later
      refine ⟨z, last, ?_⟩
      rcases kept with rfl | rotated
      · rcases step with rfl | rotated
        · exact .inl rfl
        · rw [own] at rotated
          exact .inr (rotated ▸ List.mem_cons_self)
      · exact .inr (List.mem_cons_of_mem _ rotated)

theorem Fate.eq_stamped {α : Type} {op : Op α} {ok : Bool} {q : Reset} {row : Option Reset}
    (fate : Fate q op ok row) (left : row ≠ none) :
    ∃ used, row = some { q with usedAt := used } := by
  cases fate with
  | stays => exact ⟨q.usedAt, rfl⟩
  | swept => exact absurd rfl left
  | used => exact ⟨_, rfl⟩

theorem reset?_after (sound : Sound t) {q : Reset} (found : t.reset? id = some q)
    (there : ∀ ran, ran <+: rs → (after memory t ran).reset? id ≠ none) :
    ∃ used, (after memory t rs).reset? id = some { q with usedAt := used } := by
  induction rs generalizing t q with
  | nil => exact ⟨q.usedAt, found⟩
  | cons r rs ih =>
      obtain ⟨now, later⟩ := there_tail (p := fun t => t.reset? id ≠ none) there
      have fate := (resetWrite_run t r.op).fate sound.others.resets found
      obtain ⟨used, next⟩ := fate.eq_stamped now
      obtain ⟨used', last⟩ := ih (sound.run r.op) next later
      exact ⟨used', last⟩

end

/-- In every state that requests reach from empty tables, the maps from identifiers to rows hold
each row under its own identifier and answer what the tables answer; each row is found by its own
identifier, and no address of a user or token of a reset stands twice. Whatever is asked from
there on: every user stays, with its identifier and the time of its creation, and keeps address
and role unless there is an update, so also when a reset is consumed; a session that stays is the
same, unless it was rotated to its own identifier; a reset that stays is the same but for the time
of its use. -/
theorem tables_integrity (before later : List Request) :
    let t := after memory {} before
    let t' := after memory t later
    after Maps.store {} before = .ofTables t ∧
    (∀ r : Request, (Maps.store.run r.op (.ofTables t)).1 = (memory.run r.op t).1) ∧
    (∀ u ∈ t.users, t.user? u.id = some u) ∧ (∀ x ∈ t.sessions, t.session? x.id = some x) ∧
    (∀ q ∈ t.resets, t.reset? q.id = some q) ∧ (t.users.map (·.email)).Nodup ∧
    (t.resets.map (·.token)).Nodup ∧
    (∀ id u, t.user? id = some u → ∃ v, t'.user? id = some v ∧ v.id = u.id ∧
      v.createdAt = u.createdAt ∧
      ((∀ r ∈ later, r.op.method ≠ .updateUser) → v.email = u.email ∧ v.role = u.role)) ∧
    (∀ id x, t.session? id = some x →
      (∀ ran, ran <+: later → (after memory t ran).session? id ≠ none) →
      ∃ y, t'.session? id = some y ∧ (y = x ∨ ⟨.rotateSession id y⟩ ∈ later)) ∧
    ∀ id q, t.reset? id = some q →
      (∀ ran, ran <+: later → (after memory t ran).reset? id ≠ none) →
      ∃ used, t'.reset? id = some { q with usedAt := used } := by
  intro t t'
  have empty : Sound {} := ⟨⟨.nil, .nil⟩, ⟨.nil, .nil, .nil⟩⟩
  have sound : Sound t := sound_after empty before
  refine ⟨Maps.after_ofTables {} before, ?_, ?_, ?_, ?_, sound.users.emails, sound.others.tokens,
    ?_, ?_, ?_⟩
  · intro r
    exact congrArg Prod.fst (Maps.run_ofTables t r.op)
  · intro u hu
    exact find?_key sound.users.ids hu
  · intro x hx
    exact find?_key sound.others.sessions hx
  · intro q hq
    exact find?_key sound.others.resets hq
  · intro id u found
    exact user?_after found
  · intro id x found there
    exact session?_after sound found there
  · intro id q found there
    exact reset?_after sound found there

/-- A reset is consumed, and the user that is handed in has another address and role. -/
theorem tables_integrity_consume :
    let u : User := ⟨⟨1⟩, "a@b.cd", "first", .user, ⟨0, 0⟩, ⟨0, 0⟩⟩
    let q : Reset := ⟨⟨5⟩, ⟨1⟩, "reset", ⟨100, 0⟩, ⟨0, 0⟩, none⟩
    let stale : User := { u with email := "c@d.ef", passwordHash := "second", role := .admin }
    let t := after memory {} [⟨.createUser u⟩, ⟨.createReset q⟩]
    let t' := after memory t [⟨.consumeReset q.id stale ⟨7, 0⟩⟩]
    t.user? ⟨1⟩ = some u ∧ ∃ v, t'.user? ⟨1⟩ = some v ∧ v.email = u.email ∧ v.role = u.role ∧
      v.passwordHash = stale.passwordHash := by
  intro u q stale t t'
  have stored : t.user? ⟨1⟩ = some u := by decide
  have hash : (t'.user? ⟨1⟩).map (·.passwordHash) = some stale.passwordHash := by decide
  obtain ⟨-, -, -, -, -, -, -, users, -, -⟩ := tables_integrity [⟨.createUser u⟩, ⟨.createReset q⟩]
    [⟨.consumeReset q.id stale ⟨7, 0⟩⟩]
  obtain ⟨v, found, -, -, plain⟩ := users ⟨1⟩ u stored
  obtain ⟨email, role⟩ := plain (by simp [Op.method])
  refine ⟨stored, v, found, email, role, ?_⟩
  rw [found] at hash
  exact Option.some.inj hash

end Gatehouse.Store
