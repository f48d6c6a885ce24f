import Gatehouse.Proofs.Ownership

/-!
What a change of a password leaves. A reset that is free is used, its user has another digest and
no session, and every other row stands as before. Nothing else changes a password, and what is
refused changes nothing.
-/

namespace Gatehouse.Service

open Account (User Session Reset)
open Store (Tables)

/-- The tables after the password of a user was changed with a reset. -/
def passwordChanged (t : Tables) (u : User) (r : Reset) (hash : String) (at_ : Timestamp) :
    Tables where
  users := t.users.map fun v =>
    if v = u then { u with passwordHash := hash, updatedAt := at_ } else v
  sessions := t.sessions.filter (·.userId ≠ u.id)
  resets := t.resets.map fun q => if q = r then { r with usedAt := some at_ } else q

section
variable {s : Service (StateM Tables)} {t : Tables} {token password hash : String}
  {now later : Timestamp} {salt : Bytes} {u : User} {r : Reset}

/-- Where identifiers are unique, what is done to the rows of one is done to one row. -/
theorem withDigest_eq_passwordChanged (users : (t.users.map (·.id)).Nodup)
    (resets : (t.resets.map (·.id)).Nodup) (hu : u ∈ t.users) (hr : r ∈ t.resets) (hash : String)
    (at_ : Timestamp) :
    withoutSessionsOf (withDigest t r u hash at_) u.id = passwordChanged t u r hash at_ := by
  have user := map_key users hu fun v => rehashed v hash at_
  have reset := map_key resets hr fun q => { q with usedAt := some at_ }
  rw [passwordChanged, ← user, ← reset]
  rfl

/-- The reset that is redeemed is a row that is free at both times. -/
theorem Redeems.row (h : Redeems s t token password now later salt u r hash)
    (resets : (t.resets.map (·.id)).Nodup) :
    r ∈ t.resets ∧ r.token = token ∧ r.userId = u.id ∧ r.usedAt = none ∧
      now ≤ r.expiresAt ∧ later ≤ r.expiresAt := by
  obtain ⟨hr, same⟩ := mem_of_resetOf? h.behind
  obtain ⟨q, claimed, free⟩ := h.free
  obtain ⟨unused, lasting⟩ := free_of_claimed resets hr claimed free
  exact ⟨hr, same, h.own, unused, of_decide_eq_false h.early, lasting⟩

end

section
variable (tokens : Token.Config) (hashing : Password.Hasher) {t : Tables}
  (token password : String) (now later : Timestamp) (salt : Bytes)

/-- A password is changed if the token names a user, its reset is of that user, not used and not
past its time when it is looked at and when it is consumed, and the new password can be hashed.
Then the reset is used at the time of the change, the user has the digest, and the sessions of the
user are gone; nothing else differs. In every other case nothing does. -/
theorem resetPassword_exact (users : (t.users.map (·.id)).Nodup) (keys : t.Keyed) :
    let answer := (inMemory tokens hashing).resetPassword token password now later salt t
    (∀ t', answer = (.ok {}, t') ↔
      ∃ claims, tokens.validate .reset now.seconds token = .ok claims ∧
      ∃ u ∈ t.users, u.id = claims.userId ∧
      ∃ r ∈ t.resets, r.token = token ∧ r.userId = u.id ∧ r.usedAt = none ∧
        now ≤ r.expiresAt ∧ later ≤ r.expiresAt ∧
      ∃ hash, Password.hash hashing.settings salt password = .ok hash ∧
        t' = passwordChanged t u r hash later) ∧
    (answer.1 ≠ .ok {} → answer.2 = t) := by
  intro answer
  have effect := resetPassword_cases tokens hashing t token password now later salt
  refine ⟨fun t' => ⟨fun done => ?_, ?_⟩, fun refused => ?_⟩
  · rcases effect with ⟨u, r, hash, redeems, changed⟩ | ⟨e, failed⟩
    · obtain ⟨claims, valid, known⟩ := redeems.named
      obtain ⟨hu, named⟩ := mem_of_user? known
      obtain ⟨hr, same, own, unused, early, lasting⟩ := redeems.row keys.resets
      have tables : t' = withoutSessionsOf (withDigest t r u hash later) u.id :=
        congrArg Prod.snd (done.symm.trans changed)
      rw [withDigest_eq_passwordChanged users keys.resets hu hr hash later] at tables
      exact ⟨claims, valid, u, hu, named, r, hr, same, own, unused, early, lasting, hash,
        redeems.hashed, tables⟩
    · cases congrArg Prod.fst (done.symm.trans failed)
  · rintro ⟨claims, valid, u, hu, named, r, hr, rfl, own, unused, early, lasting, hash, hashed, rfl⟩
    have known : t.user? claims.userId = some u := named ▸ find?_key users hu
    have free : Tables.isClaimable r later = true := by
      rw [Tables.isClaimable, Reset.isUsed, unused, Reset.isExpired, decide_eq_false lasting]
      rfl
    rw [← withDigest_eq_passwordChanged users keys.resets hu hr hash later]
    exact resetPassword_of_free valid known (find?_key keys.tokens hr) own (decide_eq_false early)
      (find?_key keys.resets hr) free hashed
  · rcases effect with ⟨u, r, hash, redeems, changed⟩ | ⟨e, failed⟩
    · exact absurd (congrArg Prod.fst changed) refused
    · exact congrArg Prod.snd failed

end

/-- Another reset of the same user stays, and so does the session of another user. -/
theorem resetPassword_exact_outstanding :
    let u : User := ⟨sampleUser, "a@b.cd", "", .user, ⟨0, 0⟩, ⟨0, 0⟩⟩
    let v : User := ⟨⟨4⟩, "c@d.ef", "", .admin, ⟨0, 0⟩, ⟨0, 0⟩⟩
    let x : Session := ⟨⟨5⟩, u.id, "x", "", "", ⟨100, 0⟩, ⟨0, 0⟩⟩
    let y : Session := ⟨⟨6⟩, v.id, "y", "", "", ⟨100, 0⟩, ⟨0, 0⟩⟩
    let other := sampleTokens.issue .reset u.id u.email .user 10 ⟨7⟩
    let q : Reset := ⟨⟨8⟩, u.id, other, ⟨3610, 0⟩, ⟨10, 0⟩, none⟩
    let t : Tables := ⟨[u, v], [x, y], [q, sampleReset]⟩
    ((t.users.map (·.id)).Nodup ∧ t.Keyed) ∧
      ∃ hash, Password.hash {} sampleSalt "second" = .ok hash ∧
        (inMemory sampleTokens {}).resetPassword sampleToken "second" ⟨20, 0⟩ ⟨3610, 0⟩ sampleSalt t
          = (.ok {}, ⟨[{ u with passwordHash := hash, updatedAt := ⟨3610, 0⟩ }, v], [y],
            [q, { sampleReset with usedAt := some ⟨3610, 0⟩ }]⟩) := by
  intro u v x y other q t
  obtain ⟨hash, hashed⟩ : ∃ hash, Password.hash {} sampleSalt "second" = .ok hash := ⟨_, rfl⟩
  have users : (t.users.map (·.id)).Nodup := by decide
  have resets : (t.resets.map (·.id)).Nodup := by decide
  have apart : other ≠ sampleToken := fun same =>
    absurd (Token.Config.id_eq_of_issue_eq same) (by decide)
  have tokens : (t.resets.map (·.token)).Nodup :=
    List.nodup_cons.2 ⟨fun h => apart (List.mem_singleton.1 h), List.nodup_singleton _⟩
  have keys : t.Keyed := ⟨by decide, resets, tokens⟩
  have valid : sampleTokens.validate .reset 20 sampleToken = .ok sampleClaims :=
    sampleTokens_validate (by decide) (by decide)
  have hu : u ∈ t.users := List.mem_cons_self
  have hr : sampleReset ∈ t.resets := List.mem_cons_of_mem _ List.mem_cons_self
  have tables := withDigest_eq_passwordChanged users resets hu hr hash ⟨3610, 0⟩
  refine ⟨⟨users, keys⟩, hash, hashed, ?_⟩
  exact ((resetPassword_exact sampleTokens {} sampleToken "second" ⟨20, 0⟩ ⟨3610, 0⟩ sampleSalt
    users keys).1 _).2 ⟨sampleClaims, valid, u, hu, rfl, sampleReset, hr, rfl, rfl, rfl,
      by decide, by decide, hash, hashed, tables⟩

end Gatehouse.Service
