import Gatehouse.Password.Phc
import Gatehouse.Text.Hex

/-!
Hashing and checking passwords. A digest names its own cost and salt, so checking needs no
settings; whatever cannot be read as an Argon2id digest of version 19 matches no password. Where
there is no account a decoy is checked, so that it takes as long.
-/

namespace Gatehouse.Password

inductive HashError where
  | settings (cause : SettingsError)
  | saltTooLong
  | digestTooShort
  | digestTooLong
  | passwordTooLong
  | saltTooShort
  deriving DecidableEq, Repr

def HashError.message : HashError → String
  | .settings cause => cause.message
  | .saltTooLong => "Failed to encode salt: invalid Base64 length"
  | .digestTooShort => "Failed to hash password: output size too short, expected at least 10 bytes"
  | .digestTooLong => "Failed to hash password: output size too long, expected at most 64 bytes"
  | .passwordTooLong => "Failed to hash password: invalid password"
  | .saltTooShort => "Failed to hash password: salt invalid: value to short"

/-- The digest of a password under settings and a salt, in its string form. The salt has to fit
sixty-four characters there. -/
def hash (s : Settings) (salt : Bytes) (password : String) : Except HashError String :=
  match s.check with
  | .error cause => .error (.settings cause)
  | .ok () =>
      if 64 < (Text.Base64.encode .standard salt).length then .error .saltTooLong
      else if s.keyLength < 10 then .error .digestTooShort
      else if 64 < s.keyLength then .error .digestTooLong
      else if Digest.Argon2.maxPassword < (Text.utf8 password).length then
        .error .passwordTooLong
      else if salt.length < Digest.Argon2.minSalt then .error .saltTooShort
      else .ok (Encoded.write s.cost salt
        (Digest.Argon2.digest s.cost s.keyLength (Text.utf8 password) salt []))

/-- The cost and the context that the parameters of a string form give. -/
structure Recipe where
  cost : Digest.Argon2.Cost := ⟨19456, 2, 1⟩
  context : Bytes := []
  deriving DecidableEq, Repr

/-- At most `limit` bytes in base 64. -/
def bytes? (limit : Nat) (value : String) : Option Bytes :=
  (Text.Base64.decode? .standard value.toList).filter (·.length ≤ limit)

/-- Take one parameter. A key identifier is read and has no effect. -/
def Recipe.take? (r : Recipe) (p : String × String) : Option Recipe :=
  match p.1 with
  | "m" => (decimal? p.2.toList).map fun n => { r with cost := { r.cost with memory := n } }
  | "t" => (decimal? p.2.toList).map fun n => { r with cost := { r.cost with passes := n } }
  | "p" => (decimal? p.2.toList).map fun n => { r with cost := { r.cost with lanes := n } }
  | "keyid" => (bytes? 8 p.2).map fun _ => r
  | "data" => (bytes? 32 p.2).map fun b => { r with context := b }
  | _ => none

/-- The recipe of a string form; of a parameter given twice the last value counts. -/
def Encoded.recipe? (e : Encoded) : Option Recipe :=
  (e.parameters.foldlM Recipe.take? {}).filter fun r =>
    (checkCost r.cost (e.digest.map (·.length))).toBool

/-- A digest that a password can be checked against. -/
structure Target where
  recipe : Recipe
  salt : Bytes
  digest : Bytes
  deriving DecidableEq, Repr

/-- Read an Argon2id digest of version 19 that has a salt of at least eight bytes. -/
def Target.read? (encoded : String) : Option Target :=
  match Encoded.read? encoded with
  | none => none
  | some e =>
      if e.algorithm ≠ "argon2id" ∨ e.version ≠ some Digest.Argon2.version then none
      else match e.recipe?, e.salt.bind (bytes? 64 ·), e.digest with
        | some r, some salt, some digest =>
            if salt.length < Digest.Argon2.minSalt then none else some ⟨r, salt, digest⟩
        | _, _, _ => none

/-- The password has this digest. One that is too long has none. -/
def Target.isMet (t : Target) (password : String) : Bool :=
  (Text.utf8 password).length ≤ Digest.Argon2.maxPassword
    && Digest.Argon2.digest t.recipe.cost t.digest.length (Text.utf8 password) t.salt
      t.recipe.context == t.digest

/-- Check a password against an encoded digest. -/
def verify (password encoded : String) : Bool :=
  match Target.read? encoded with
  | none => false
  | some t => t.isMet password

/-- What a decoy is made from: a random password, and the salt of its digest. They are drawn when
it is first needed, and then it is kept. -/
structure Decoy where
  random : Bytes := []
  salt : Bytes := []
  deriving DecidableEq, Repr

def Decoy.password (d : Decoy) : String := String.ofList (Text.hexOfBytes d.random)

/-- The settings of hashing, and the decoy. -/
structure Hasher where
  settings : Settings := {}
  decoy : Decoy := {}
  deriving DecidableEq, Repr

/-- The digest of the decoy. There is none when hashing fails. -/
def Hasher.decoyDigest? (h : Hasher) : Option String :=
  match hash h.settings h.decoy.salt h.decoy.password with
  | .ok digest => some digest
  | .error _ => none

/-- Check a password against the decoy, if there is one. Nobody is told what comes of it. -/
def Hasher.verifyDecoy (h : Hasher) (password : String) : Except HashError Unit :=
  match h.decoyDigest? with
  | some digest =>
      let _ := verify password digest
      .ok ()
  | none => .ok ()

/-- Neither a decoy that cannot be made nor one that matches is an error. -/
theorem Hasher.verifyDecoy_eq (h : Hasher) (password : String) :
    h.verifyDecoy password = .ok () := by
  rw [verifyDecoy]
  cases h.decoyDigest? <;> rfl

end Gatehouse.Password
