import Gatehouse.Json.Value

/-!
Keys that a token may carry in its header. They are never used, but one that is not well
formed spoils the token. A key has common members, all optional, and the members of one of
four families.
-/

namespace Gatehouse.Token.WebKey

abbrev Members := List (String × Json.Value)

/-- The value of a member that stands at most once: `none` when it stands twice, and
`some none` when it is missing. -/
def once (name : String) (ms : Members) : Option (Option Json.Value) :=
  match ms.filter (·.1 = name) with
  | [] => some none
  | [m] => some (some m.2)
  | _ => none

def isText : Json.Value → Bool
  | .text _ => true
  | _ => false

def isTexts : Json.Value → Bool
  | .list vs => vs.all isText
  | _ => false

/-- One of some names, or an object of that one member with nothing in it. -/
def isName (emptyIsNothing : Bool) (names : List String) : Json.Value → Bool
  | .text s => names.contains s
  | .object [(s, .null)] => names.contains s
  | .object [(s, .object [])] => emptyIsNothing && names.contains s
  | _ => false

def optionally (name : String) (test : Json.Value → Bool) (ms : Members) : Bool :=
  match once name ms with
  | none => false
  | some none | some (some .null) => true
  | some (some v) => test v

def required (name : String) (test : Json.Value → Bool) (ms : Members) : Bool :=
  match once name ms with
  | some (some v) => test v
  | _ => false

def algorithms : List String :=
  ["HS256", "HS384", "HS512", "ES256", "ES384", "RS256", "RS384", "RS512", "PS256", "PS384",
    "PS512", "EdDSA", "RSA1_5", "RSA-OAEP", "RSA-OAEP-256"]

def curves : List String := ["P-256", "P-384", "P-521", "Ed25519"]

def commonOk (ms : Members) : Bool :=
  optionally "use" isText ms && optionally "key_ops" isTexts ms
    && optionally "alg" (isName true algorithms) ms && optionally "kid" isText ms
    && optionally "x5u" isText ms && optionally "x5c" isTexts ms
    && optionally "x5t" isText ms && optionally "x5t#S256" isText ms

/-- The members of a family: its name, its curve if it has one, and texts. -/
def family (name : String) (curve : Bool) (names : List String) (ms : Members) : Bool :=
  required "kty" (isName false [name]) ms
    && (!curve || required "crv" (isName false curves) ms)
    && names.all fun n => required n isText ms

def isWellFormed (ms : Members) : Bool :=
  commonOk ms &&
    (family "EC" true ["x", "y"] ms || family "RSA" false ["n", "e"] ms
      || family "oct" false ["k"] ms || family "OKP" true ["x"] ms)

end Gatehouse.Token.WebKey
