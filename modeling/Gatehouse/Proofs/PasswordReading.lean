import Gatehouse.Proofs.DigestText

/-!
What hashing a password gives, and when it gives it. A digest is read as what it was made with, so
the password that it was made of is accepted by it.
-/

namespace Gatehouse.Digest

theorem Blake2b.size_absorb (h : Array UInt64) (total seen : Nat) (blocks : List Bytes) :
    (absorb h total seen blocks).size = 8 := by
  induction blocks generalizing h seen with
  | nil => exact Array.size_ofFn
  | cons b rest ih =>
      cases rest with
      | nil => exact Array.size_ofFn
      | cons c rest => exact ih _ _

theorem Blake2b.length_digest {size : Nat} (h : size ≤ 64) (message : Bytes) :
    (digest size message).length = size := by
  rw [digest, List.length_take, List.length_flatMap]
  simp only [length_littleEndian, List.map_const', Array.length_toList, size_absorb,
    List.sum_replicate_nat]
  omega

theorem Argon2.length_longDigest {size : Nat} (h : size ≤ 64) (message : Bytes) :
    (longDigest size message).length = size := by
  rw [longDigest]
  cases size with
  | zero => exact Blake2b.length_digest h _
  | succ n =>
      rw [stretch, if_pos h]
      exact Blake2b.length_digest h _

theorem Argon2.length_digest (c : Cost) {size : Nat} (h : size ≤ 64)
    (password salt context : Bytes) : (digest c size password salt context).length = size :=
  length_longDigest h _

end Gatehouse.Digest

namespace Gatehouse.Password

/-- The numbers of a cost fit thirty-two bits. -/
structure Fits (c : Digest.Argon2.Cost) : Prop where
  memory : c.memory ≤ Bounds.max32
  passes : c.passes ≤ Bounds.max32
  lanes : c.lanes ≤ Bounds.max32

/-- The parameters that a cost is written as. -/
def costParameters (c : Digest.Argon2.Cost) : List Parameter :=
  [.memory c.memory, .passes c.passes, .lanes c.lanes]

section
variable {c : Digest.Argon2.Cost} {salt digest : Bytes}

theorem toList_write (c : Digest.Argon2.Cost) (salt digest : Bytes) :
    (Encoded.write c salt digest).toList
      = (fieldsOf (costParameters c) ⟨⟨c, []⟩, salt, digest⟩).flatMap ('$' :: ·) := by
  have written : Encoded.write c salt digest = "$argon2id$v=" ++ "19" ++ "$m="
      ++ toString c.memory ++ ",t=" ++ toString c.passes ++ ",p=" ++ toString c.lanes ++ "$"
      ++ Text.Base64.text .standard salt ++ "$" ++ Text.Base64.text .standard digest := rfl
  rw [written]
  simp only [String.toList_append, Text.Base64.text, String.toList_ofList,
    Nat.toString_eq_ofList_toDigits, fieldsOf, parameterFields, parametersText, costParameters,
    Parameter.text, Parameter.name, Parameter.value, List.isEmpty_cons, Bool.false_eq_true,
    if_false, List.map_cons, List.map_nil, Text.intercalate_cons, List.flatMap_cons,
    List.flatMap_nil, List.append_assoc, List.cons_append, List.nil_append, List.append_nil]
  rfl

theorem names_write (fits : Fits c) (cost : Affordable c)
    (low : 8 ≤ salt.length) (high : salt.length ≤ 48)
    (range : 10 ≤ digest.length ∧ digest.length ≤ 64) :
    Names (Encoded.write c salt digest) ⟨⟨c, []⟩, salt, digest⟩ := by
  have bounded : ∀ p ∈ costParameters c, p.Bounded := by
    intro p hp
    simp only [costParameters, List.mem_cons, List.not_mem_nil, or_false] at hp
    rcases hp with rfl | rfl | rfl
    · exact fits.memory
    · exact fits.passes
    · exact fits.lanes
  have short : (parametersText (costParameters c)).length ≤ 127 := by
    have m := length_toDigits fits.memory
    have t := length_toDigits fits.passes
    have p := length_toDigits fits.lanes
    have length : (parametersText (costParameters c)).length = (Nat.toDigits 10 c.memory).length
        + (Nat.toDigits 10 c.passes).length + (Nat.toDigits 10 c.lanes).length + 8 := by
      simp [parametersText, costParameters, Parameter.text, Parameter.name, Parameter.value]
      omega
    omega
  exact ⟨costParameters c, ⟨bounded, short, rfl, cost, ⟨low, high⟩, range⟩,
    toList_write c salt digest⟩

end

theorem Settings.check_eq_ok_iff {s : Settings} :
    s.check = .ok () ↔ (8 ≤ s.saltLength ∧ s.saltLength ≤ 48) ∧
      checkCost s.cost (some s.keyLength) = .ok () := by
  rw [check]
  split
  next wrong => exact iff_of_false (by rintro ⟨⟩) fun h => by omega
  next right =>
    cases cost : checkCost s.cost (some s.keyLength) with
    | ok u => exact iff_of_true rfl ⟨by omega, rfl⟩
    | error cause => exact iff_of_false (by rintro ⟨⟩) (by rintro ⟨-, ⟨⟩⟩)

/-- What a salt and a password have to be for a digest of them to be made and written. -/
structure Digestible (s : Settings) (salt : Bytes) (password : String) : Prop where
  short : 10 ≤ s.keyLength
  long : s.keyLength ≤ 64
  low : 8 ≤ salt.length
  high : salt.length ≤ 48
  bounded : (Text.utf8 password).length ≤ Digest.Argon2.maxPassword

/-- A digest is made of what the settings and the limits of the written form admit. -/
theorem hash_eq_ok_iff {s : Settings} {salt : Bytes} {password encoded : String} :
    hash s salt password = .ok encoded ↔
      s.check = .ok () ∧ Digestible s salt password ∧
        encoded = Encoded.write s.cost salt
          (Digest.Argon2.digest s.cost s.keyLength (Text.utf8 password) salt []) := by
  have length := Text.Base64.length_encode .standard salt
  rw [hash]
  cases checked : s.check with
  | error cause => exact iff_of_false (by rintro ⟨⟩) (by rintro ⟨⟨⟩, -⟩)
  | ok u =>
      dsimp only
      split_ifs with high short long bounded low
      case neg =>
        rw [Digest.Argon2.minSalt] at low
        have fits : Digestible s salt password :=
          ⟨by omega, by omega, by omega, by omega, Nat.le_of_not_lt bounded⟩
        exact ⟨fun h => ⟨rfl, fits, (Except.ok.inj h).symm⟩, fun h => congrArg _ h.2.2.symm⟩
      all_goals
        refine iff_of_false (by rintro ⟨⟩) ?_
        rintro ⟨-, fits, -⟩
      · exact absurd fits.high (by omega)
      · exact absurd fits.short (by omega)
      · exact absurd fits.long (by omega)
      · exact absurd fits.bounded (Nat.not_le_of_lt bounded)
      · exact absurd fits.low (Nat.not_le_of_lt low)

section
variable {s : Settings} {salt : Bytes} {password encoded : String}

/-- A digest that was made is read as what it was made with. -/
theorem target_hash (fits : Fits s.cost) (hashed : hash s salt password = .ok encoded) :
    Target.read? encoded = some ⟨⟨s.cost, []⟩, salt,
      Digest.Argon2.digest s.cost s.keyLength (Text.utf8 password) salt []⟩ := by
  obtain ⟨checked, made, rfl⟩ := hash_eq_ok_iff.1 hashed
  have cost := (checkCost_eq_ok_iff.1 (Settings.check_eq_ok_iff.1 checked).2).1
  have length := Digest.Argon2.length_digest s.cost made.long (Text.utf8 password) salt []
  exact read?_eq_some_iff.2 (names_write fits cost made.low made.high
    (length.symm ▸ ⟨made.short, made.long⟩))

/-- The password that a digest was made of is accepted. -/
theorem verify_hash (hashed : hash s salt password = .ok encoded)
    (memory : s.memoryKib ≤ Bounds.max32) (passes : s.iterations ≤ Bounds.max32) :
    verify password encoded = true := by
  obtain ⟨checked, made, -⟩ := hash_eq_ok_iff.1 hashed
  have kept := (checkCost_eq_ok_iff.1 (Settings.check_eq_ok_iff.1 checked).2).1
  have length := Digest.Argon2.length_digest s.cost made.long (Text.utf8 password) salt []
  rw [verify, target_hash ⟨memory, passes, Nat.le_trans kept.lanes (by decide)⟩ hashed]
  dsimp only
  rw [Target.isMet, length, decide_eq_true made.bounded, Bool.true_and]
  exact beq_self_eq_true _

end

end Gatehouse.Password
