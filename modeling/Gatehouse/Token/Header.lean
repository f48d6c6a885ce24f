import Gatehouse.Json.Record
import Gatehouse.Token.WebKey

/-!
The header of a token, which names the algorithm of its signature. Only HS256 is written and
accepted.
-/

namespace Gatehouse.Token.Header

def algorithm : String := "HS256"

def fields : List Json.Field := [
  ⟨"typ", .optionalText, false⟩,
  ⟨"alg", .name, false⟩,
  ⟨"cty", .optionalText, false⟩,
  ⟨"jku", .optionalText, false⟩,
  ⟨"jwk", .optionalObject, false⟩,
  ⟨"kid", .optionalText, false⟩,
  ⟨"x5u", .optionalText, false⟩,
  ⟨"x5c", .optionalTexts, false⟩,
  ⟨"x5t", .optionalText, false⟩,
  ⟨"x5t#S256", .optionalText, false⟩]

def value : Json.Value := .object [("typ", .text "JWT"), ("alg", .text algorithm)]

/-- A key in the header, if there is one, is well formed. -/
def keyOk (es : Json.Entries) : Bool :=
  match List.lookup "jwk" es with
  | some (.object ms) => WebKey.isWellFormed ms
  | _ => true

/-- The algorithm that a header names, where the header is well formed. -/
def algorithm? (text : Bytes) : Option String :=
  match Json.whole (Json.record "Header" fields) text with
  | some es => if keyOk es then es.text? "alg" else none
  | none => none

end Gatehouse.Token.Header
