import Gatehouse.Proofs.Agreement

/-!
Requests that race for one row. A store in memory serves one request after another, so whatever
the interleaving there is an order; in every order one request at most takes a session away or
uses a reset, and the others are told that there is none. A request that is refused leaves the
tables as they were.
-/

namespace Gatehouse.Store

open Account (User Session Reset)
open Sql (Request after after_concat newSession? sessions_run)

/-- Tables are left as they were unless the request is served. -/
def Harmless {α : Type} (t : Tables) (o : Tables.Outcome α) : Prop := ∀ e, o.1 = .error e → o.2 = t

section
variable {α : Type} {t : Tables}

theorem Harmless.refused (e : Error) : Harmless t ((.error e, t) : Tables.Outcome α) :=
  fun _ _ => rfl

theorem Harmless.served (a : α) (t' : Tables) : Harmless t (.ok a, t') := nofun

theorem harmless_orNotFound (row : Option α) : Harmless t (Tables.orNotFound row t) := by
  cases row with
  | none => exact .refused _
  | some a => exact .served a t

theorem harmless_run (op : Op α) : Harmless t (Tables.run op t) := by
  cases op with
  | userById | userByEmail | sessionById | sessionByToken | resetByToken =>
      exact harmless_orNotFound _
  | deleteUserSessions | deleteExpiredSessions | deleteExpiredResets => exact .served _ _
  | createUser u =>
      rw [Tables.run, Tables.createUser]
      split
      · exact .refused _
      · exact .served _ _
  | createSession x =>
      rw [Tables.run, Tables.createSession]
      split
      · exact .refused _
      · exact .served _ _
  | createReset r =>
      rw [Tables.run, Tables.createReset]
      split
      · exact .refused _
      · exact .served _ _
  | deleteSession id =>
      rw [Tables.run, Tables.deleteSession]
      split
      · exact .refused _
      · exact .served _ _
  | updateUser u now =>
      rw [Tables.run, Tables.updateUser]
      split
      · exact .refused _
      · split
        · exact .refused _
        · exact .served _ _
  | rotateSession old x =>
      rw [Tables.run, Tables.rotateSession]
      split
      · exact .refused _
      · split
        · exact .refused _
        · exact .served _ _
  | markResetUsed id at_ =>
      rw [Tables.run, Tables.markResetUsed]
      split
      · split
        · exact .refused _
        · exact .served _ _
      · exact .refused _
  | consumeReset id u at_ =>
      rw [Tables.run, Tables.consumeReset]
      split
      · split
        · exact .served _ _
        · exact .refused _
      · exact .refused _

theorem run_of_not_isOk {op : Op α} (refused : (memory.run op t).1.isOk = false) :
    (memory.run op t).2 = t := by
  cases answer : (memory.run op t).1 with
  | ok a =>
      rw [answer] at refused
      cases refused
  | error e => exact harmless_run op e answer

end

section
variable {α : Type}

/-- The session that a request takes away. -/
def takenSession? : Op α → Option Uuid
  | .deleteSession id => some id
  | .rotateSession old _ => some old
  | _ => none

/-- The reset that a request uses, and when. -/
def usedReset? : Op α → Option (Uuid × Timestamp)
  | .markResetUsed id at_ => some (id, at_)
  | .consumeReset id _ at_ => some (id, at_)
  | _ => none

/-- The reset that a request adds. -/
def newReset? : Op α → Option Reset
  | .createReset r => some r
  | _ => none

end

section
variable {α : Type} {op : Op α} {t : Tables} {id : Uuid}

theorem run_of_takenSession (takes : takenSession? op = some id) (gone : t.session? id = none) :
    (memory.run op t).1 = .error .notFound := by
  cases op with
  | deleteSession old =>
      obtain rfl : old = id := Option.some.inj takes
      exact congrArg Prod.fst (if_pos (by rw [gone]; rfl))
  | rotateSession old x =>
      obtain rfl : old = id := Option.some.inj takes
      exact congrArg Prod.fst (if_pos (by rw [gone]; rfl))
  | createUser | userById | userByEmail | updateUser | createSession | sessionById
  | sessionByToken | deleteUserSessions | deleteExpiredSessions | createReset | resetByToken
  | markResetUsed | consumeReset | deleteExpiredResets => cases takes

/-- In the place of a session that is taken away stands at most the one that the request adds. -/
theorem sessions_of_takenSession (takes : takenSession? op = some id)
    (served : (memory.run op t).1.isOk = true) :
    (memory.run op t).2.sessions = t.sessions.filter (·.id ≠ id) ++ (newSession? op).toList := by
  cases op with
  | deleteSession old =>
      obtain rfl : old = id := Option.some.inj takes
      simp only [memory, Tables.run, Tables.deleteSession] at served ⊢
      split at served
      · cases served
      next found =>
        rw [if_neg found]
        exact (List.append_nil _).symm
  | rotateSession old x =>
      obtain rfl : old = id := Option.some.inj takes
      simp only [memory, Tables.run, Tables.rotateSession] at served ⊢
      split at served
      · cases served
      next found =>
        split at served
        · cases served
        next free =>
          rw [if_neg found, if_neg free]
          rfl
  | createUser | userById | userByEmail | updateUser | createSession | sessionById
  | sessionByToken | deleteUserSessions | deleteExpiredSessions | createReset | resetByToken
  | markResetUsed | consumeReset | deleteExpiredResets => cases takes

/-- What a request does to the resets, and whether it is served. -/
inductive ResetWrite (t : Tables) : {α : Type} → Op α → Bool → List Reset → Prop where
  | kept {α ok} {op : Op α} (idle : ok = true → usedReset? op = none) :
      ResetWrite t op ok t.resets
  | added {r} (new : t.reset? r.id = none) :
      ResetWrite t (.createReset r) true (t.resets ++ [r])
  | stamped {α id at_ q} {op : Op α} (uses : usedReset? op = some (id, at_))
      (found : t.reset? id = some q) (unused : q.usedAt = none) :
      ResetWrite t op true (t.stampReset id at_).resets
  | swept {now} :
      ResetWrite t (.deleteExpiredResets now) true (t.resets.filter (Tables.isClaimable · now))

theorem usedAt_of_isUsed {r : Reset} (unused : r.isUsed = false) : r.usedAt = none := by
  simpa [Reset.isUsed] using unused

theorem ResetWrite.idle {ok : Bool} (idle : usedReset? op = none) :
    ResetWrite t op ok t.resets := .kept fun _ => idle

theorem ResetWrite.refused : ResetWrite t op false t.resets := .kept fun served => by cases served

theorem resetWrite_run (t : Tables) (op : Op α) :
    ResetWrite t op (memory.run op t).1.isOk (memory.run op t).2.resets := by
  cases op with
  | userById | userByEmail | sessionById | sessionByToken | resetByToken =>
      simp only [memory, Tables.run, Tables.orNotFound_snd]
      exact .idle rfl
  | createUser | updateUser | createSession | deleteSession | rotateSession =>
      simp only [memory, Tables.run, Tables.createUser, Tables.updateUser, Tables.createSession,
        Tables.deleteSession, Tables.rotateSession]
      repeat' split
      all_goals exact .idle rfl
  | deleteUserSessions | deleteExpiredSessions => exact .idle rfl
  | createReset r =>
      by_cases taken : ((t.reset? r.id).isSome || (t.resetOf? r.token).isSome) = true
      · simp only [memory, Tables.run, Tables.createReset, if_pos taken]
        exact .idle rfl
      · simp only [memory, Tables.run, Tables.createReset, if_neg taken]
        obtain ⟨id, token⟩ := not_or.1 (mt Bool.or_eq_true_iff.2 taken)
        exact .added (Option.not_isSome_iff_eq_none.1 id)
  | markResetUsed id at_ =>
      simp only [memory, Tables.run, Tables.markResetUsed]
      cases found : t.reset? id with
      | none => exact .refused
      | some q =>
          by_cases used : q.isUsed = true
          · simp only [if_pos used]
            exact .refused
          · simp only [if_neg used]
            exact .stamped rfl found (usedAt_of_isUsed (Bool.eq_false_iff.2 used))
  | consumeReset id u at_ =>
      simp only [memory, Tables.run, Tables.consumeReset]
      cases found : t.reset? id with
      | none => exact .refused
      | some q =>
          by_cases free : (Tables.isClaimable q at_ && (t.user? u.id).isSome) = true
          · simp only [if_pos free]
            simp only [Tables.isClaimable, Bool.and_eq_true, Bool.not_eq_true'] at free
            exact .stamped rfl found (usedAt_of_isUsed free.1.1)
          · simp only [if_neg free]
            exact .refused
  | deleteExpiredResets now => exact .swept

theorem reset_of_consumeReset {u : User} {at_ : Timestamp}
    (served : (memory.run (.consumeReset id u at_) t).1.isOk = true) :
    ∃ q, t.reset? id = some q ∧ q.usedAt = none ∧ at_ ≤ q.expiresAt := by
  simp only [memory, Tables.run, Tables.consumeReset] at served
  split at served
  next q found =>
    split at served
    next free =>
      simp only [Tables.isClaimable, Bool.and_eq_true, Bool.not_eq_true'] at free
      exact ⟨q, found, usedAt_of_isUsed free.1.1, of_decide_eq_false free.1.2⟩
    next => cases served
  next => cases served

theorem run_of_usedReset {at_ : Timestamp} (uses : usedReset? op = some (id, at_))
    (gone : ∀ q, t.reset? id = some q → q.isUsed = true) :
    (memory.run op t).1 = .error .notFound := by
  cases op with
  | markResetUsed id' at_' =>
      obtain ⟨rfl, rfl⟩ := Prod.mk.inj (Option.some.inj uses)
      simp only [memory, Tables.run, Tables.markResetUsed]
      split
      next q found => rw [if_pos (gone q found)]
      next => rfl
  | consumeReset id' u at_' =>
      obtain ⟨rfl, rfl⟩ := Prod.mk.inj (Option.some.inj uses)
      simp only [memory, Tables.run, Tables.consumeReset]
      split
      next q found => rw [if_neg (by simp [Tables.isClaimable, gone q found])]
      next => rfl
  | createUser | userById | userByEmail | updateUser | createSession | sessionById
  | sessionByToken | deleteSession | rotateSession | deleteUserSessions | deleteExpiredSessions
  | createReset | resetByToken | deleteExpiredResets => cases uses

end

/-- Whether a request is served. -/
def isServed (t : Tables) (r : Request) : Bool := (memory.run r.op t).1.isOk

/-- Requests in turn, with whether each is served. -/
def outcomes (t : Tables) : List Request → List (Request × Bool)
  | [] => []
  | r :: rs => (r, isServed t r) :: outcomes (memory.run r.op t).2 rs

/-- What requests may race for. A request that takes it leaves it gone, unless it makes it anew;
gone it stays until a request makes it anew; and while it is gone nobody takes it. -/
structure Race where
  takes : Request → Bool
  makes : Request → Bool
  Gone : Tables → Prop
  gone_of_taken : ∀ {t r}, takes r = true → isServed t r = true → makes r = false →
    Gone (memory.run r.op t).2
  gone_run : ∀ {t r}, Gone t → isServed t r = true → makes r = false →
    Gone (memory.run r.op t).2
  run_of_gone : ∀ {t r}, Gone t → takes r = true → (memory.run r.op t).1 = .error .notFound

/-- No request that is served makes anew what is raced for. -/
def Race.Quiet (race : Race) (t : Tables) (rs : List Request) : Prop :=
  ∀ x ∈ outcomes t rs, x.2 = true → race.makes x.1 = false

instance (race : Race) (t : Tables) (rs : List Request) : Decidable (race.Quiet t rs) :=
  inferInstanceAs (Decidable (∀ x ∈ _, _))

section
variable {race : Race} {t : Tables} {r : Request} {rs : List Request}

theorem Race.gone_step (gone : race.Gone t) (quiet : race.Quiet t (r :: rs)) :
    race.Gone (memory.run r.op t).2 := by
  cases served : isServed t r with
  | false =>
      rw [run_of_not_isOk served]
      exact gone
  | true => exact race.gone_run gone served (quiet (r, isServed t r) List.mem_cons_self served)

theorem Race.Quiet.tail (quiet : race.Quiet t (r :: rs)) :
    race.Quiet (memory.run r.op t).2 rs := fun x hx => quiet x (List.mem_cons_of_mem _ hx)

theorem Race.gone_after (gone : race.Gone t) (quiet : race.Quiet t rs) :
    race.Gone (after memory t rs) := by
  induction rs generalizing t with
  | nil => exact gone
  | cons r rs ih => exact ih (race.gone_step gone quiet) quiet.tail

theorem Race.gone_of_winner (takes : race.takes r = true) (served : isServed t r = true)
    (quiet : race.Quiet t (r :: rs)) : race.Gone (memory.run r.op t).2 :=
  race.gone_of_taken takes served (quiet (r, isServed t r) List.mem_cons_self served)

/-- How often it is taken. -/
def Race.wins (race : Race) (t : Tables) (rs : List Request) : Nat :=
  (outcomes t rs).countP fun x => x.2 && race.takes x.1

theorem Race.wins_of_gone (gone : race.Gone t) (quiet : race.Quiet t rs) : race.wins t rs = 0 := by
  induction rs generalizing t with
  | nil => rfl
  | cons r rs ih =>
      have lost : (isServed t r && race.takes r) = false := by
        cases takes : race.takes r with
        | false => exact Bool.and_false _
        | true =>
            rw [isServed, race.run_of_gone gone takes]
            rfl
      rw [Race.wins, outcomes, List.countP_cons_of_neg (by simp [lost])]
      exact ih (race.gone_step gone quiet) quiet.tail

theorem Race.wins_le_one (quiet : race.Quiet t rs) : race.wins t rs ≤ 1 := by
  induction rs generalizing t with
  | nil => exact Nat.zero_le 1
  | cons r rs ih =>
      have rest := quiet.tail
      rw [Race.wins, outcomes, List.countP_cons]
      split
      next won =>
        obtain ⟨served, takes⟩ := Bool.and_eq_true_iff.1 won
        have none := race.wins_of_gone (race.gone_of_winner takes served quiet) rest
        exact Nat.le_of_eq (congrArg (· + 1) none)
      next => exact ih rest

end

/-- What becomes of a reset: it stays as it is, or it is swept away, or it is used, which it was
not before. -/
inductive Fate (q : Reset) : {α : Type} → Op α → Bool → Option Reset → Prop where
  | stays {α ok} {op : Op α} : Fate q op ok (some q)
  | swept {now} (spent : Tables.isClaimable q now = false) :
      Fate q (.deleteExpiredResets now) true none
  | used {α at_} {op : Op α} (uses : usedReset? op = some (q.id, at_)) (unused : q.usedAt = none) :
      Fate q op true (some { q with usedAt := some at_ })

section
variable {α : Type} {op : Op α} {ok : Bool} {t : Tables} {rs : List Reset} {id : Uuid}

theorem Fate.eq_of_used {q : Reset} {row : Option Reset} (fate : Fate q op ok row)
    (used : q.usedAt ≠ none) (left : row ≠ none) : row = some q := by
  cases fate with
  | stays => rfl
  | swept => exact absurd rfl left
  | used _ unused => exact absurd unused used

theorem ResetWrite.used {at_ : Timestamp} (write : ResetWrite t op true rs)
    (uses : usedReset? op = some (id, at_)) : ∀ q ∈ rs, q.id = id → q.isUsed = true := by
  intro q hq same
  cases write with
  | kept idle =>
      rw [idle rfl] at uses
      cases uses
  | added | swept => cases uses
  | stamped uses' =>
      obtain ⟨rfl, rfl⟩ := Prod.mk.inj (Option.some.inj (uses.symm.trans uses'))
      obtain ⟨q', -, rfl⟩ := List.mem_map.1 hq
      split at same
      next own =>
        rw [if_pos own]
        rfl
      next other => exact absurd same other

theorem ResetWrite.gone (write : ResetWrite t op ok rs)
    (gone : ∀ q ∈ t.resets, q.id = id → q.isUsed = true)
    (makes : (newReset? op).any (·.id = id) = false) : ∀ q ∈ rs, q.id = id → q.isUsed = true := by
  intro q hq same
  cases write with
  | kept => exact gone q hq same
  | added =>
      rcases List.mem_append.1 hq with hq | hq
      · exact gone q hq same
      · rw [List.mem_singleton] at hq
        simp [newReset?, ← hq, same] at makes
  | stamped =>
      obtain ⟨q', hq', rfl⟩ := List.mem_map.1 hq
      split at same
      next own =>
        rw [if_pos own]
        rfl
      next other =>
        rw [if_neg other]
        exact gone q' hq' same
  | swept => exact gone q (List.mem_of_mem_filter hq) same

theorem reset?_stampReset (t : Tables) (id id' : Uuid) (at_ : Timestamp) :
    (t.stampReset id' at_).reset? id
      = (t.reset? id).map fun r => if r.id = id' then { r with usedAt := some at_ } else r :=
  find?_changed (p := fun r : Reset => r.id = id') (q := fun r => r.id = id)
    (g := fun r => { r with usedAt := some at_ }) (fun _ => rfl) t.resets

theorem ResetWrite.fate (write : ResetWrite t op ok rs) (unique : (t.resets.map (·.id)).Nodup)
    {q : Reset} (found : t.reset? id = some q) : Fate q op ok (rs.find? (·.id = id)) := by
  have own : q.id = id := by simpa using List.find?_some found
  cases write with
  | kept =>
      rw [← Tables.reset?, found]
      exact .stays
  | added =>
      rw [List.find?_append, ← Tables.reset?, found]
      exact .stays
  | @stamped _ id' at_ q' _ uses found' unused =>
      rw [← Tables.reset?, reset?_stampReset, found, Option.map_some]
      split
      next same =>
        obtain rfl : id = id' := own.symm.trans same
        obtain rfl : q = q' := Option.some.inj (found.symm.trans found')
        exact .used (own.symm ▸ uses) unused
      next => exact .stays
  | @swept now =>
      have hq := List.mem_of_find?_eq_some found
      cases free : Tables.isClaimable q now with
      | true =>
          have kept : q ∈ t.resets.filter (Tables.isClaimable · now) :=
            List.mem_filter.2 ⟨hq, free⟩
          have first := find?_key (unique.sublist (List.filter_sublist.map _)) kept
          rw [own] at first
          rw [first]
          exact .stays
      | false =>
          have none : (t.resets.filter (Tables.isClaimable · now)).find? (·.id = id) = none := by
            refine List.find?_eq_none.2 fun q' hq' same => ?_
            obtain ⟨hq', free'⟩ := List.mem_filter.1 hq'
            have eq := List.inj_on_of_nodup_map unique hq' hq
              ((of_decide_eq_true same).trans own.symm)
            rw [eq, free] at free'
            cases free'
          rw [none]
          exact .swept free

theorem ResetWrite.nodup (write : ResetWrite t op ok rs) (unique : (t.resets.map (·.id)).Nodup) :
    (rs.map (·.id)).Nodup := by
  cases write with
  | kept => exact unique
  | added new => exact nodup_concat unique new
  | @stamped _ id at_ =>
      rw [Tables.map_stampReset (·.id) fun _ _ => rfl]
      exact unique
  | swept => exact unique.sublist (List.filter_sublist.map _)

end

/-- The race for a session, which rotations and deletions take and which insertions make. -/
def sessionRace (id : Uuid) : Race where
  takes r := takenSession? r.op = some id
  makes r := (newSession? r.op).any (·.id = id)
  Gone t := ∀ x ∈ t.sessions, x.id ≠ id
  gone_of_taken := by
    intro t r takes served makes x hx
    rw [sessions_of_takenSession (of_decide_eq_true takes) served, List.mem_append] at hx
    rcases hx with hx | hx
    · simpa using (List.mem_filter.1 hx).2
    · rw [Option.mem_toList] at hx
      simpa [hx] using makes
  gone_run := by
    intro t r gone served makes x hx
    rcases List.mem_append.1 ((sessions_run r.op t).subset hx) with hx | hx
    · exact gone x hx
    · rw [Option.mem_toList] at hx
      simpa [hx] using makes
  run_of_gone := by
    intro t r gone takes
    refine run_of_takenSession (of_decide_eq_true takes) (List.find?_eq_none.2 fun x hx => ?_)
    simpa using gone x hx

/-- The race for the use of a reset, which an insertion makes. -/
def resetRace (id : Uuid) : Race where
  takes r := (usedReset? r.op).any (·.1 = id)
  makes r := (newReset? r.op).any (·.id = id)
  Gone t := ∀ q ∈ t.resets, q.id = id → q.isUsed = true
  gone_of_taken := by
    intro t r takes served makes q hq same
    obtain ⟨⟨id', at_⟩, uses, own⟩ := (Option.any_eq_true _ _).1 takes
    obtain rfl : id' = id := of_decide_eq_true own
    have write := resetWrite_run t r.op
    rw [isServed] at served
    rw [served] at write
    exact write.used uses q hq same
  gone_run := by
    intro t r gone served makes q hq same
    exact (resetWrite_run t r.op).gone gone makes q hq same
  run_of_gone := by
    intro t r gone takes
    obtain ⟨⟨id', at_⟩, uses, own⟩ := (Option.any_eq_true _ _).1 takes
    obtain rfl : id' = id := of_decide_eq_true own
    refine run_of_usedReset uses fun q found => ?_
    exact gone q (List.mem_of_find?_eq_some found) (by simpa using List.find?_some found)

section
variable {t : Tables} {id : Uuid}

theorem nodup_after (unique : (t.resets.map (·.id)).Nodup) (rs : List Request) :
    ((after memory t rs).resets.map (·.id)).Nodup := by
  induction rs generalizing t with
  | nil => exact unique
  | cons r rs ih => exact ih ((resetWrite_run t r.op).nodup unique)

theorem after_append (t : Tables) (rs qs : List Request) :
    after memory t (rs ++ qs) = after memory (after memory t rs) qs := List.foldl_append

theorem used_after (unique : (t.resets.map (·.id)).Nodup) {rs : List Request} {q : Reset}
    (found : t.reset? id = some q) (used : q.usedAt ≠ none)
    (there : ∀ ran, ran <+: rs → (after memory t ran).reset? id ≠ none) :
    (after memory t rs).reset? id = some q := by
  induction rs generalizing t with
  | nil => exact found
  | cons r rs ih =>
      have fate := (resetWrite_run t r.op).fate unique found
      have left : (memory.run r.op t).2.reset? id ≠ none := there [r] ⟨rs, rfl⟩
      have next := fate.eq_of_used used left
      refine ih ((resetWrite_run t r.op).nodup unique) next fun ran before => ?_
      exact there (r :: ran) (List.cons_prefix_cons.2 ⟨rfl, before⟩)

/-- In every sequence of requests, from any tables: after a session was taken away, or a reset was
used, whoever tries the same does not find it until it is made anew, so if it is not, one request
at most gets it; a reset is used only once, while it is not expired, and the time of its use stays
as long as it does; and whatever is refused changes nothing. -/
theorem single_winner (unique : (t.resets.map (·.id)).Nodup) (rs : List Request) :
    (∀ id, ∀ race ∈ [sessionRace id, resetRace id],
      (∀ before r middle r' rest, rs = before ++ r :: middle ++ r' :: rest →
        race.takes r = true → isServed (after memory t before) r = true →
        race.Quiet (after memory t before) (r :: middle) → race.takes r' = true →
        (memory.run r'.op (after memory t (before ++ r :: middle))).1 = .error .notFound) ∧
      (race.Quiet t rs → race.wins t rs ≤ 1)) ∧
    (∀ ran r rest, rs = ran ++ r :: rest →
      let s := after memory t ran
      (∀ id q, s.reset? id = some q →
        Fate q r.op (isServed s r) ((after memory t (ran ++ [r])).reset? id)) ∧
      (∀ id u at_, r = ⟨.consumeReset id u at_⟩ → isServed s r = true →
        ∃ q, s.reset? id = some q ∧ q.usedAt = none ∧ at_ ≤ q.expiresAt) ∧
      ∀ e, (memory.run r.op s).1 = .error e → after memory t (ran ++ [r]) = s) ∧
    ∀ ran later rest, rs = ran ++ later ++ rest → ∀ id q,
      (after memory t ran).reset? id = some q → q.usedAt ≠ none →
      (∀ part, part <+: later → (after memory t (ran ++ part)).reset? id ≠ none) →
      (after memory t (ran ++ later)).reset? id = some q := by
  refine ⟨?_, ?_, ?_⟩
  · intro id race _
    refine ⟨?_, race.wins_le_one⟩
    rintro before r middle r' rest rfl takes served quiet takes'
    rw [after_append]
    have gone := race.gone_of_winner takes served quiet
    have late := race.gone_after gone quiet.tail
    exact race.run_of_gone late takes'
  · rintro ran r rest rfl s
    rw [after_concat]
    refine ⟨?_, ?_, harmless_run r.op⟩
    · intro id q found
      exact (resetWrite_run s r.op).fate (nodup_after unique ran) found
    · rintro id u at_ rfl served
      exact reset_of_consumeReset served
  · rintro ran later rest rfl id q found used there
    rw [after_append]
    refine used_after (nodup_after unique ran) found used fun part before => ?_
    rw [← after_append]
    exact there part before

end

/-- Two rotations and a deletion race for a session, and two requests for a reset: the first of
each is served, and the others do not find what they ask for. -/
theorem single_winner_rotations :
    let x : Session := ⟨⟨1⟩, ⟨9⟩, "first", "", "", ⟨100, 0⟩, ⟨0, 0⟩⟩
    let u : User := ⟨⟨9⟩, "a@b.cd", "", .user, ⟨0, 0⟩, ⟨0, 0⟩⟩
    let q : Reset := ⟨⟨5⟩, ⟨9⟩, "reset", ⟨100, 0⟩, ⟨0, 0⟩, none⟩
    let t : Tables := ⟨[u], [x], [q]⟩
    let rotation : Request := ⟨.rotateSession ⟨1⟩ { x with id := ⟨2⟩ }⟩
    let consumption : Request := ⟨.consumeReset ⟨5⟩ u ⟨100, 0⟩⟩
    let rotation' : Request := ⟨.rotateSession ⟨1⟩ { x with id := ⟨3⟩ }⟩
    let mark : Request := ⟨.markResetUsed ⟨5⟩ ⟨7, 0⟩⟩
    let deletion : Request := ⟨.deleteSession ⟨1⟩⟩
    let rs := [rotation, consumption, rotation', mark, deletion]
    (t.resets.map (·.id)).Nodup ∧ (sessionRace ⟨1⟩).Quiet t rs ∧ (resetRace ⟨5⟩).Quiet t rs ∧
      isServed t rotation = true ∧ isServed (after memory t [rotation]) consumption = true ∧
      (memory.run rotation'.op (after memory t [rotation, consumption])).1 = .error .notFound ∧
      (memory.run mark.op (after memory t [rotation, consumption, rotation'])).1
        = .error .notFound ∧
      (memory.run deletion.op (after memory t [rotation, consumption, rotation', mark])).1
        = .error .notFound ∧
      (sessionRace ⟨1⟩).wins t rs ≤ 1 ∧ (resetRace ⟨5⟩).wins t rs ≤ 1 := by
  intro x u q t rotation consumption rotation' mark deletion rs
  have unique : (t.resets.map (·.id)).Nodup := by decide
  have quiet : (sessionRace ⟨1⟩).Quiet t rs := by decide
  have quiet' : (resetRace ⟨5⟩).Quiet t rs := by decide
  have rotated : isServed t rotation = true := by decide
  have consumed : isServed (after memory t [rotation]) consumption = true := by decide
  obtain ⟨races, -, -⟩ := single_winner unique rs
  obtain ⟨late, once⟩ := races ⟨1⟩ (sessionRace ⟨1⟩) (by simp)
  obtain ⟨late', once'⟩ := races ⟨5⟩ (resetRace ⟨5⟩) (by simp)
  refine ⟨unique, quiet, quiet', rotated, consumed, ?_, ?_, ?_, once quiet, once' quiet'⟩
  · exact late [] rotation [consumption] rotation' [mark, deletion] rfl rfl rotated (by decide) rfl
  · exact late' [rotation] consumption [rotation'] mark [deletion] rfl rfl consumed (by decide) rfl
  · exact late [] rotation [consumption, rotation', mark] deletion [] rfl rfl rotated (by decide)
      rfl

end Gatehouse.Store
