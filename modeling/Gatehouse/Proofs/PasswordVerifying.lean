import Gatehouse.Proofs.PasswordReading

/-!
Which passwords a text accepts. A digest that was made accepts the password it was made of, and
any other only if it has the same output under the cost, the salt and the length that the digest
itself names. No text of another form accepts a password: neither other variants and versions nor
digests that lack a version or an output.
-/

namespace Gatehouse.Password

open Text (splitAt splitAt_append splitAt_of_not_mem splitAt_eq_nil_cons_iff)

/-- The password has the output of the target, under the recipe, the salt and the length that the
target names. A password that is too long has no output at all. -/
def Target.IsDigestOf (t : Target) (password : String) : Prop :=
  (Text.utf8 password).length ≤ Digest.Argon2.maxPassword ∧
    Digest.Argon2.digest t.recipe.cost t.digest.length (Text.utf8 password) t.salt
      t.recipe.context = t.digest

section
variable {t : Target} {s : Settings} {salt : Bytes} {password text encoded : String}

theorem Target.isMet_iff : t.isMet password = true ↔ t.IsDigestOf password := by
  rw [isMet, Bool.and_eq_true, decide_eq_true_eq, beq_iff_eq, IsDigestOf]

theorem verify_iff : verify password text = true ↔ ∃ t, Names text t ∧ t.IsDigestOf password := by
  rw [verify]
  split
  next unread =>
    refine iff_of_false Bool.false_ne_true ?_
    rintro ⟨t, names, -⟩
    rw [read?_eq_some_iff.2 names] at unread
    cases unread
  next t read =>
    have names := read?_eq_some_iff.1 read
    rw [Target.isMet_iff]
    refine ⟨fun met => ⟨t, names, met⟩, ?_⟩
    rintro ⟨u, other, met⟩
    rw [read?_eq_some_iff.2 other, Option.some.injEq] at read
    exact read ▸ met

/-- A digest that was made names what it was made with. -/
theorem names_hash (fits : Fits s.cost) (hashed : hash s salt password = .ok encoded) :
    ∃ t, Names encoded t ∧
      (t.recipe = ⟨s.cost, []⟩ ∧ t.salt = salt ∧ t.digest.length = s.keyLength) ∧
      ∀ other, verify other encoded = true ↔ t.IsDigestOf other := by
  have read := target_hash fits hashed
  obtain ⟨-, made, -⟩ := hash_eq_ok_iff.1 hashed
  refine ⟨_, read?_eq_some_iff.1 read, ⟨rfl, rfl, ?_⟩, fun other => ?_⟩
  · exact Digest.Argon2.length_digest s.cost made.long (Text.utf8 password) salt []
  · rw [verify, read, ← Target.isMet_iff]

theorem splitAt_of_names (names : Names text t) :
    ∃ ps, splitAt '$' text.toList = [] :: fieldsOf ps t := by
  obtain ⟨ps, described, written⟩ := names
  exact ⟨ps, (splitAt_eq_nil_cons_iff (dollar_not_mem_fieldsOf described.bounded)).2 written⟩

/-- Every text that accepts a password has the fields of some target. -/
theorem verify_eq_false {fields : List (List Char)} (password : String)
    (split : splitAt '$' text.toList = [] :: fields)
    (other : ∀ ps t, fields ≠ fieldsOf ps t) : verify password text = false := by
  refine Bool.eq_false_iff.2 fun accepted => ?_
  obtain ⟨t, names, -⟩ := verify_iff.1 accepted
  obtain ⟨ps, same⟩ := splitAt_of_names names
  exact other ps t (List.cons.inj (split.symm.trans same)).2

theorem verify_of_variant {variant : String} (apart : '$' ∉ variant.toList)
    (other : variant ≠ "argon2id") (password rest : String) :
    verify password ("$" ++ variant ++ "$" ++ rest) = false := by
  have split : splitAt '$' ("$" ++ variant ++ "$" ++ rest).toList
      = [] :: variant.toList :: splitAt '$' rest.toList := by
    rw [← splitAt_append apart]
    simp only [String.toList_append, List.append_assoc]
    exact splitAt_append List.not_mem_nil
  refine verify_eq_false password split fun ps t same => ?_
  exact other (String.toList_injective (List.cons.inj same).1)

/-- The second field is the version; it can neither be another one nor be left out. -/
theorem verify_of_version {field : String} (apart : '$' ∉ field.toList) (other : field ≠ "v=19")
    (password rest : String) : verify password ("$argon2id$" ++ field ++ "$" ++ rest) = false := by
  have split : splitAt '$' ("$argon2id$" ++ field ++ "$" ++ rest).toList
      = [] :: "argon2id".toList :: field.toList :: splitAt '$' rest.toList := by
    rw [← splitAt_append apart, ← splitAt_append (show '$' ∉ "argon2id".toList by decide)]
    simp only [String.toList_append, List.append_assoc]
    exact splitAt_append List.not_mem_nil
  refine verify_eq_false password split fun ps t same => ?_
  exact other (String.toList_injective (List.cons.inj (List.cons.inj same).2).1)

theorem splitAt_latest (rest : String) : splitAt '$' ("$argon2id$v=19$" ++ rest).toList
    = [] :: "argon2id".toList :: "v=19".toList :: splitAt '$' rest.toList := by
  rw [← splitAt_append (show '$' ∉ "v=19".toList by decide),
    ← splitAt_append (show '$' ∉ "argon2id".toList by decide), String.toList_append]
  exact splitAt_append List.not_mem_nil

/-- One field behind the version is not enough. -/
theorem verify_of_field {field : String} (apart : '$' ∉ field.toList) (password : String) :
    verify password ("$argon2id$v=19$" ++ field) = false := by
  refine verify_eq_false password (splitAt_latest field) fun ps t same => ?_
  rw [splitAt_of_not_mem apart, fieldsOf] at same
  have length := congrArg List.length same
  simp only [List.length_cons, List.length_append, List.length_nil] at length
  omega

/-- Parameters and a salt are not enough. -/
theorem verify_of_salt {parameters salt : String} (apart : '$' ∉ parameters.toList)
    (equals : '=' ∈ parameters.toList) (apart' : '$' ∉ salt.toList) (password : String) :
    verify password ("$argon2id$v=19$" ++ parameters ++ "$" ++ salt) = false := by
  have split : splitAt '$' ("$argon2id$v=19$" ++ parameters ++ "$" ++ salt).toList = []
      :: "argon2id".toList :: "v=19".toList :: parameters.toList :: [salt.toList] := by
    rw [← splitAt_of_not_mem apart', ← splitAt_append apart, String.append_assoc,
      String.append_assoc, splitAt_latest]
    simp only [String.toList_append]
    rfl
  refine verify_eq_false password split fun ps t same => ?_
  rw [fieldsOf] at same
  cases ps with
  | nil =>
      obtain ⟨first, -⟩ := List.cons.inj (List.cons.inj (List.cons.inj same).2).2
      rw [first] at equals
      exact not_mem_encode rfl t.salt equals
  | cons p ps =>
      have length := congrArg List.length same
      simp [parameterFields] at length

end

/-- A digest that was made accepts the password it was made of, and another password exactly if
that has the same output under what the digest names: the cost, the salt and the length that it
was made with. A text accepts a password exactly if it is an Argon2id digest of version 19, with a
salt and an output, and the output is that of the password under what the text names. So texts of
another variant or version, without a version or without an output accept none. -/
theorem verify_exact :
    (∀ s salt password encoded, Fits s.cost → hash s salt password = .ok encoded →
      verify password encoded = true ∧
      ∃ t, Names encoded t ∧
        (t.recipe = ⟨s.cost, []⟩ ∧ t.salt = salt ∧ t.digest.length = s.keyLength) ∧
        ∀ other, verify other encoded = true ↔ t.IsDigestOf other) ∧
    (∀ text password, verify password text = true ↔ ∃ t, Names text t ∧ t.IsDigestOf password) ∧
    (∀ password variant rest, '$' ∉ variant.toList → variant ≠ "argon2id" →
      verify password ("$" ++ variant ++ "$" ++ rest) = false) ∧
    (∀ password field rest, '$' ∉ field.toList → field ≠ "v=19" →
      verify password ("$argon2id$" ++ field ++ "$" ++ rest) = false) ∧
    ∀ password parameters salt, '$' ∉ parameters.toList → '$' ∉ salt.toList →
      verify password ("$argon2id$v=19$" ++ parameters) = false ∧
      ('=' ∈ parameters.toList →
        verify password ("$argon2id$v=19$" ++ parameters ++ "$" ++ salt) = false) := by
  refine ⟨fun s salt password encoded fits hashed => ?_, fun text password => verify_iff,
    fun password variant rest apart other => verify_of_variant apart other password rest,
    fun password field rest apart other => verify_of_version apart other password rest,
    fun password parameters salt apart apart' => ?_⟩
  · exact ⟨verify_hash hashed fits.memory fits.passes, names_hash fits hashed⟩
  · exact ⟨verify_of_field apart password, fun named => verify_of_salt apart named apart' password⟩

/-- A digest of the least cost, and the same fields with another variant, with an earlier version,
without a version and without an output. -/
theorem verify_exact_least :
    let s : Settings := ⟨8, 1, 1, 8, 10⟩
    let salt : Bytes := List.replicate 8 0
    let password := "Passw0rd!"
    let cost := "m=8,t=1,p=1"
    let ends := "AAAAAAAAAAA$AAAAAAAAAAAAAA"
    (∃ encoded, hash s salt password = .ok encoded ∧ verify password encoded = true) ∧
      (∀ variant ∈ ["argon2i", "argon2d"],
        verify password ("$" ++ variant ++ "$" ++ ("v=19$" ++ cost ++ "$" ++ ends)) = false) ∧
      (∀ field ∈ ["v=16", cost], verify password ("$argon2id$" ++ field ++ "$" ++ ends) = false) ∧
      verify password ("$argon2id$v=19$" ++ cost) = false ∧
      verify password ("$argon2id$v=19$" ++ cost ++ "$" ++ "AAAAAAAAAAA") = false := by
  intro s salt password cost ends
  obtain ⟨made, -, variants, versions, incomplete⟩ := verify_exact
  have fits : Fits s.cost := ⟨by decide, by decide, by decide⟩
  have digestible : Digestible s salt password :=
    ⟨by decide, by decide, by decide, by decide, by decide⟩
  have hashed := hash_eq_ok_iff.2 ⟨(by decide : s.check = .ok ()), digestible, rfl⟩
  have accepted := (made s salt password _ fits hashed).1
  have lacking := incomplete password cost "AAAAAAAAAAA" (by decide) (by decide)
  refine ⟨⟨_, hashed, accepted⟩, fun variant named => ?_, fun field named => ?_, lacking.1,
    lacking.2 (by decide)⟩
  · have other : ∀ v ∈ ["argon2i", "argon2d"], '$' ∉ v.toList ∧ v ≠ "argon2id" := by decide
    exact variants password variant _ (other variant named).1 (other variant named).2
  · have other : ∀ f ∈ ["v=16", cost], '$' ∉ f.toList ∧ f ≠ "v=19" := by decide
    exact versions password field ends (other field named).1 (other field named).2

end Gatehouse.Password
