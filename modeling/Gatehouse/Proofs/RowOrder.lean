import Gatehouse.Proofs.Lookup
import Gatehouse.Store.Tables

/-!
Tables whose rows are told apart by their keys. Requests keep them so, and what a request about
sessions or resets gives does not depend on the order in which the rows stand.
-/

namespace Gatehouse.Store

open Account (User Session Reset)

/-- The requests that are about users; the others are about sessions and resets. -/
def Method.isOnUsers : Method → Bool
  | .createUser | .userById | .userByEmail | .updateUser => true
  | _ => false

namespace Tables

/-- Sessions are told apart by their identifiers, resets by these and by their tokens. -/
structure Keyed (t : Tables) : Prop where
  sessions : (t.sessions.map (·.id)).Nodup
  resets : (t.resets.map (·.id)).Nodup
  tokens : (t.resets.map (·.token)).Nodup

/-- The same rows, in another order. -/
structure SameRows (t t' : Tables) : Prop where
  users : t.users.Perm t'.users
  sessions : t.sessions.Perm t'.sessions
  resets : t.resets.Perm t'.resets

theorem SameRows.refl (t : Tables) : SameRows t t := ⟨.refl _, .refl _, .refl _⟩

section
variable {t t' : Tables}

theorem Keyed.ofSameRows (keyed : Keyed t) (same : SameRows t t') : Keyed t' where
  sessions := (same.sessions.map _).nodup_iff.1 keyed.sessions
  resets := (same.resets.map _).nodup_iff.1 keyed.resets
  tokens := (same.resets.map _).nodup_iff.1 keyed.tokens

theorem Keyed.filterSessions (keyed : Keyed t) (keep : Session → Bool) :
    Keyed { t with sessions := t.sessions.filter keep } :=
  ⟨keyed.sessions.sublist (List.filter_sublist.map _), keyed.resets, keyed.tokens⟩

theorem Keyed.filterResets (keyed : Keyed t) (keep : Reset → Bool) :
    Keyed { t with resets := t.resets.filter keep } :=
  ⟨keyed.sessions, keyed.resets.sublist (List.filter_sublist.map _),
    keyed.tokens.sublist (List.filter_sublist.map _)⟩

theorem Keyed.addSession (keyed : Keyed t) {x : Session} (new : t.session? x.id = none) :
    Keyed { t with sessions := t.sessions ++ [x] } :=
  ⟨nodup_concat keyed.sessions new, keyed.resets, keyed.tokens⟩

theorem Keyed.addReset (keyed : Keyed t) {r : Reset} (new : t.reset? r.id = none)
    (newToken : t.resetOf? r.token = none) :
    Keyed { t with resets := t.resets ++ [r] } :=
  ⟨keyed.sessions, nodup_concat keyed.resets new, nodup_concat keyed.tokens newToken⟩

theorem map_stampReset {β : Type} (f : Reset → β)
    (hf : ∀ (r : Reset) used, f { r with usedAt := used } = f r) (t : Tables) (id : Uuid)
    (at_ : Timestamp) : (t.stampReset id at_).resets.map f = t.resets.map f :=
  map_changed (fun r => hf r _) t.resets

theorem Keyed.stampReset (keyed : Keyed t) (id : Uuid) (at_ : Timestamp) :
    Keyed (t.stampReset id at_) where
  sessions := keyed.sessions
  resets := by
    rw [map_stampReset (·.id) fun _ _ => rfl]
    exact keyed.resets
  tokens := by
    rw [map_stampReset (·.token) fun _ _ => rfl]
    exact keyed.tokens

theorem session?_filter (t : Tables) (old id : Uuid) :
    (session? { t with sessions := t.sessions.filter (·.id ≠ old) } id).isSome
      = (decide (id ≠ old) && (t.session? id).isSome) := by
  rw [session?, session?, List.isSome_find?, List.isSome_find?, List.any_filter, Bool.eq_iff_iff]
  constructor
  · intro h
    obtain ⟨x, hx, hid⟩ := List.any_eq_true.1 h
    simp only [Bool.and_eq_true, decide_eq_true_eq] at hid
    obtain ⟨other, rfl⟩ := hid
    simpa [other] using ⟨x, hx, rfl⟩
  · intro h
    obtain ⟨other, h⟩ := Bool.and_eq_true_iff.1 h
    obtain ⟨x, hx, hid⟩ := List.any_eq_true.1 h
    simp only [decide_eq_true_eq] at other hid
    subst hid
    exact List.any_eq_true.2 ⟨x, hx, by simpa using other⟩

theorem Keyed.rotateSession (keyed : Keyed t) (old : Uuid) (x : Session) :
    Keyed (rotateSession old x t).2 := by
  rw [Tables.rotateSession]
  split
  · exact keyed
  · split
    · exact keyed
    next free =>
      refine (keyed.filterSessions (·.id ≠ old)).addSession (Option.not_isSome_iff_eq_none.1 ?_)
      rw [session?_filter]
      exact free

theorem orNotFound_snd {α : Type} (row : Option α) (t : Tables) : (orNotFound row t).2 = t := by
  cases row <;> rfl

theorem Keyed.run (keyed : Keyed t) {α : Type} (op : Op α) : Keyed (run op t).2 := by
  cases op with
  | userById | userByEmail | sessionById | sessionByToken | resetByToken =>
      rw [Tables.run, orNotFound_snd]
      exact keyed
  | createUser u =>
      rw [Tables.run, createUser]
      split <;> exact ⟨keyed.sessions, keyed.resets, keyed.tokens⟩
  | updateUser u now =>
      rw [Tables.run, updateUser]
      split
      · exact keyed
      · split <;> exact ⟨keyed.sessions, keyed.resets, keyed.tokens⟩
  | createSession x =>
      rw [Tables.run, createSession]
      split
      · exact keyed
      next new => exact keyed.addSession (Option.not_isSome_iff_eq_none.1 new)
  | deleteSession id =>
      rw [Tables.run, deleteSession]
      split
      · exact keyed
      · exact keyed.filterSessions _
  | deleteUserSessions userId => exact keyed.filterSessions _
  | rotateSession old x => exact keyed.rotateSession old x
  | deleteExpiredSessions now => exact keyed.filterSessions _
  | createReset r =>
      rw [Tables.run, createReset]
      split
      · exact keyed
      next new =>
        obtain ⟨id, token⟩ := not_or.1 (mt Bool.or_eq_true_iff.2 new)
        exact keyed.addReset (Option.not_isSome_iff_eq_none.1 id)
          (Option.not_isSome_iff_eq_none.1 token)
  | markResetUsed id at_ =>
      rw [Tables.run, markResetUsed]
      split
      · split
        · exact keyed
        · exact keyed.stampReset id at_
      · exact keyed
  | consumeReset id u at_ =>
      have stamped := keyed.stampReset id at_
      rw [Tables.run, consumeReset]
      split
      · split
        · exact ⟨stamped.sessions, stamped.resets, stamped.tokens⟩
        · exact keyed
      · exact keyed
  | deleteExpiredResets now => exact keyed.filterResets _

/-- The same answer, and the same rows. -/
def Agree {α : Type} (o o' : Outcome α) : Prop := o.1 = o'.1 ∧ SameRows o.2 o'.2

section
variable (same : SameRows t t')
include same

theorem SameRows.session? (keyed : Keyed t) (id : Uuid) : t.session? id = t'.session? id :=
  find?_perm keyed.sessions same.sessions id

theorem SameRows.sessionOf? (tokens : (t.sessions.map (·.refreshToken)).Nodup) (token : String) :
    t.sessionOf? token = t'.sessionOf? token :=
  find?_perm tokens same.sessions token

theorem SameRows.reset? (keyed : Keyed t) (id : Uuid) : t.reset? id = t'.reset? id :=
  find?_perm keyed.resets same.resets id

theorem SameRows.resetOf? (keyed : Keyed t) (token : String) :
    t.resetOf? token = t'.resetOf? token :=
  find?_perm keyed.tokens same.resets token

theorem SameRows.hasUser (id : Uuid) : (t.user? id).isSome = (t'.user? id).isSome := by
  rw [Tables.user?, Tables.user?, List.isSome_find?, List.isSome_find?, same.users.any_eq]

theorem SameRows.orNotFound {α : Type} (row : Option α) :
    Agree (orNotFound row t) (orNotFound row t') := by
  cases row <;> exact ⟨rfl, same⟩

theorem SameRows.refused {α : Type} (e : Error) :
    Agree ((.error e, t) : Outcome α) (.error e, t') := ⟨rfl, same⟩

theorem SameRows.withSessions {xs ys : List Session} (h : xs.Perm ys) :
    SameRows { t with sessions := xs } { t' with sessions := ys } :=
  ⟨same.users, h, same.resets⟩

theorem SameRows.withResets {rs qs : List Reset} (h : rs.Perm qs) :
    SameRows { t with resets := rs } { t' with resets := qs } :=
  ⟨same.users, same.sessions, h⟩

theorem SameRows.stampReset (id : Uuid) (at_ : Timestamp) :
    SameRows (t.stampReset id at_) (t'.stampReset id at_) :=
  same.withResets (same.resets.map _)

theorem SameRows.changeUser (id : Uuid) (f : User → User) :
    SameRows (t.changeUser id f) (t'.changeUser id f) :=
  ⟨same.users.map _, same.sessions, same.resets⟩

theorem SameRows.keepSessions (keep : Session → Bool) :
    Agree (keepSessions keep t) (keepSessions keep t') :=
  ⟨congrArg Except.ok (same.sessions.filter _).length_eq,
    same.withSessions (same.sessions.filter keep)⟩

theorem SameRows.rotateSession (keyed : Keyed t) (old : Uuid) (x : Session) :
    Agree (rotateSession old x t) (rotateSession old x t') := by
  rw [Tables.rotateSession, Tables.rotateSession, ← same.session? keyed, ← same.session? keyed]
  split
  · exact same.refused _
  · split
    · exact same.refused _
    · exact ⟨rfl, same.withSessions ((same.sessions.filter _).append_right _)⟩

theorem SameRows.consumeReset (keyed : Keyed t) (id : Uuid) (u : User) (at_ : Timestamp) :
    Agree (consumeReset id u at_ t) (consumeReset id u at_ t') := by
  rw [Tables.consumeReset, Tables.consumeReset, ← same.reset? keyed, ← same.hasUser]
  split
  · split
    · exact ⟨rfl, (same.stampReset id at_).changeUser _ _⟩
    · exact same.refused _
  · exact same.refused _

theorem SameRows.run (keyed : Keyed t) (tokens : (t.sessions.map (·.refreshToken)).Nodup)
    {α : Type} (op : Op α) (ours : op.method.isOnUsers = false) :
    Agree (run op t) (run op t') := by
  cases op with
  | createUser | userById | userByEmail | updateUser => cases ours
  | createSession x =>
      rw [Tables.run, Tables.run, createSession, createSession, ← same.session? keyed]
      split
      · exact same.refused _
      · exact ⟨rfl, same.withSessions (same.sessions.append_right _)⟩
  | sessionById id =>
      rw [Tables.run, Tables.run, ← same.session? keyed]
      exact same.orNotFound _
  | sessionByToken token =>
      rw [Tables.run, Tables.run, ← same.sessionOf? tokens]
      exact same.orNotFound _
  | deleteSession id =>
      rw [Tables.run, Tables.run, deleteSession, deleteSession, ← same.session? keyed]
      split
      · exact same.refused _
      · exact ⟨rfl, same.withSessions (same.sessions.filter _)⟩
  | deleteUserSessions userId => exact same.keepSessions _
  | rotateSession old x => exact same.rotateSession keyed old x
  | deleteExpiredSessions now => exact same.keepSessions _
  | createReset r =>
      rw [Tables.run, Tables.run, createReset, createReset, ← same.reset? keyed,
        ← same.resetOf? keyed]
      split
      · exact same.refused _
      · exact ⟨rfl, same.withResets (same.resets.append_right _)⟩
  | resetByToken token =>
      rw [Tables.run, Tables.run, ← same.resetOf? keyed]
      exact same.orNotFound _
  | markResetUsed id at_ =>
      rw [Tables.run, Tables.run, markResetUsed, markResetUsed, ← same.reset? keyed]
      split
      · split
        · exact same.refused _
        · exact ⟨rfl, same.stampReset id at_⟩
      · exact same.refused _
  | consumeReset id u at_ => exact same.consumeReset keyed id u at_
  | deleteExpiredResets now =>
      exact ⟨congrArg Except.ok (same.resets.filter _).length_eq,
        same.withResets (same.resets.filter _)⟩

end

end

end Tables

end Gatehouse.Store
