import Gatehouse.Proofs.PasswordReading
import Gatehouse.Settings.Application

/-!
What the check at the start says of hashing. Settings that it refuses hash no password. Of those
that it accepts, the length of the digest alone may still be wrong: the check asks for four bytes
and has no upper bound but that of thirty-two bits, the written form takes ten to sixty-four.
-/

namespace Gatehouse.Settings

open Password (Affordable Digestible HashError checkCost_eq_ok_iff hash hash_eq_ok_iff)

/-- The settings of hashing as they stand in the environment, not checked yet. -/
def hashingRead (env : Environment) : Password.Settings :=
  ⟨env.number "ARGON2_MEMORY_KIB" Bounds.max32 65536,
    env.number "ARGON2_ITERATIONS" Bounds.max32 3, env.number "ARGON2_PARALLELISM" Bounds.max32 4,
    env.number "ARGON2_SALT_LENGTH" Bounds.max64 16, env.number "ARGON2_KEY_LENGTH" Bounds.max64 32⟩

/-- What the check at the start asks of settings. -/
structure Startable (s : Password.Settings) : Prop where
  salt : 8 ≤ s.saltLength ∧ s.saltLength ≤ 48
  cost : Affordable s.cost
  key : 4 ≤ s.keyLength ∧ s.keyLength ≤ 0xFFFFFFFF

section
variable {env : Environment} {s : Password.Settings}

theorem check_eq_ok_iff_startable : s.check = .ok () ↔ Startable s := by
  rw [Password.Settings.check_eq_ok_iff, checkCost_eq_ok_iff]
  exact ⟨fun h => ⟨h.1, h.2.1, h.2.2⟩, fun h => ⟨h.salt, h.cost, h.key⟩⟩

theorem hashing_eq_ok_iff : hashing env = .ok s ↔ s = hashingRead env ∧ Startable s := by
  rw [← check_eq_ok_iff_startable, hashing, ← hashingRead]
  cases checked : (hashingRead env).check with
  | ok u => exact ⟨fun h => Except.ok.inj h ▸ ⟨rfl, checked⟩, fun h => h.1 ▸ rfl⟩
  | error cause =>
      refine iff_of_false (by rintro ⟨⟩) ?_
      rintro ⟨rfl, ok⟩
      rw [checked] at ok
      cases ok

theorem hashing_eq_error_iff {cause : Password.SettingsError} :
    hashing env = .error (.hashing cause) ↔ (hashingRead env).check = .error cause := by
  rw [hashing, ← hashingRead]
  cases (hashingRead env).check with
  | ok u => exact iff_of_false (by rintro ⟨⟩) (by rintro ⟨⟩)
  | error cause => simp

end

/-- A fault that hashing may still run into after the check, and when it does. -/
def Remains (s : Password.Settings) (password : String) : HashError → Prop
  | .digestTooShort => s.keyLength < 10
  | .digestTooLong => 64 < s.keyLength
  | .passwordTooLong => Digest.Argon2.maxPassword < (Text.utf8 password).length
  | .settings _ | .saltTooLong | .saltTooShort => False

section
variable {s : Password.Settings} {salt : Bytes} {password : String}

theorem hash_isOk_iff (startable : Startable s) (drawn : salt.length = s.saltLength) :
    (hash s salt password).isOk = true ↔ (10 ≤ s.keyLength ∧ s.keyLength ≤ 64) ∧
      (Text.utf8 password).length ≤ Digest.Argon2.maxPassword := by
  have checked : s.check = .ok () := check_eq_ok_iff_startable.2 startable
  have salts := startable.salt
  constructor
  · intro ok
    cases hashed : hash s salt password with
    | error fault =>
        rw [hashed] at ok
        cases ok
    | ok encoded =>
        obtain ⟨-, made, -⟩ := hash_eq_ok_iff.1 hashed
        exact ⟨⟨made.short, made.long⟩, made.bounded⟩
  · rintro ⟨⟨short, long⟩, bounded⟩
    have made : Digestible s salt password := ⟨short, long, by omega, by omega, bounded⟩
    rw [hash_eq_ok_iff.2 ⟨checked, made, rfl⟩]
    rfl

theorem remains_of_hash (startable : Startable s) (drawn : salt.length = s.saltLength)
    {fault : HashError} (hashed : hash s salt password = .error fault) :
    Remains s password fault := by
  have checked : s.check = .ok () := check_eq_ok_iff_startable.2 startable
  have salts := startable.salt
  have length := Text.Base64.length_encode .standard salt
  rw [Password.hash, checked] at hashed
  dsimp only at hashed
  split_ifs at hashed with wide short long bounded low
  · omega
  · cases hashed
    exact short
  · cases hashed
    exact long
  · cases hashed
    exact bounded
  · rw [Digest.Argon2.minSalt] at low
    omega

end

/-- No password is hashed with settings that the check at the start refuses. With those that it
accepts and a salt of the length they ask for, a password is hashed if and only if the digest has
ten to sixty-four bytes and the password has not too many; nothing else can go wrong. -/
theorem hashing_covers (env : Environment) :
    (∀ cause, hashing env = .error (.hashing cause) →
      ∀ salt password, hash (hashingRead env) salt password = .error (.settings cause)) ∧
    ∀ s, hashing env = .ok s → ∀ salt password, salt.length = s.saltLength →
      ((hash s salt password).isOk = true ↔ (10 ≤ s.keyLength ∧ s.keyLength ≤ 64) ∧
        (Text.utf8 password).length ≤ Digest.Argon2.maxPassword) ∧
      ∀ fault, hash s salt password = .error fault → Remains s password fault := by
  refine ⟨fun cause refused salt password => ?_, fun s accepted salt password drawn => ?_⟩
  · rw [Password.hash, hashing_eq_error_iff.1 refused]
  · have startable := (hashing_eq_ok_iff.1 accepted).2
    exact ⟨hash_isOk_iff startable drawn, fun _ hashed => remains_of_hash startable drawn hashed⟩

theorem hashing_covers_least :
    let env : Environment := [("ARGON2_MEMORY_KIB", "8"), ("ARGON2_ITERATIONS", "1"),
      ("ARGON2_PARALLELISM", "1"), ("ARGON2_SALT_LENGTH", "8"), ("ARGON2_KEY_LENGTH", "10")]
    let s : Password.Settings := ⟨8, 1, 1, 8, 10⟩
    let salt : Bytes := List.replicate 8 0
    let dear : Environment := [("ARGON2_MEMORY_KIB", "31")]
    (hashing env = .ok s ∧ salt.length = s.saltLength ∧
      (hash s salt "Passw0rd!").isOk = true) ∧
    hashing dear = .error (.hashing (.cost .memoryTooLittle)) ∧
      hash (hashingRead dear) salt "Passw0rd!" = .error (.settings (.cost .memoryTooLittle)) := by
  intro env s salt dear
  have accepted : hashing env = .ok s := by decide
  have drawn : salt.length = s.saltLength := by decide
  have refused : hashing dear = .error (.hashing (.cost .memoryTooLittle)) := by decide
  have hashed := ((hashing_covers env).2 s accepted salt "Passw0rd!" drawn).1.2
    ⟨by decide, by decide⟩
  exact ⟨⟨accepted, drawn, hashed⟩, refused, (hashing_covers dear).1 _ refused salt "Passw0rd!"⟩

/-- Digests of nine bytes are accepted at the start, and then no password can be hashed. -/
theorem hashing_accepts_unusable :
    let env : Environment := [("ARGON2_KEY_LENGTH", "9")]
    let s : Password.Settings := { keyLength := 9 }
    hashing env = .ok s ∧ ∀ salt password, salt.length = s.saltLength →
      hash s salt password = .error .digestTooShort := by
  intro env s
  refine ⟨by decide, fun salt password drawn => ?_⟩
  have length := Text.Base64.length_encode .standard salt
  have narrow : ¬ 64 < (Text.Base64.encode .standard salt).length := by
    rw [length, drawn]
    decide
  have checked : s.check = .ok () := by decide
  rw [Password.hash, checked]
  dsimp only
  rw [if_neg narrow]
  rfl

end Gatehouse.Settings
