import Gatehouse.Proofs.Base64
import Gatehouse.Proofs.Identifier
import Gatehouse.Token.Signed

/-!
What the text of a token settles. The claims are written last of all with their identifier,
and neither escaping nor base 64 loses anything, so tokens of different identifiers are
different texts, whoever they are for and whatever signs them.
-/

namespace Gatehouse

theorem Text.utf8_injective {s t : String} (h : utf8 s = utf8 t) : s = t := by
  have e := congrArg Json.textOfBytes? h
  simpa only [Json.textOfBytes?_utf8, Option.some.injEq] using e

namespace Json

theorem escapeChar_hexDigit : ∀ n < 16, escapeChar (Text.hexDigit n) = [Text.hexDigit n] := by
  decide

theorem flatMap_escapeChar {cs : List Char} (h : ∀ c ∈ cs, escapeChar c = [c]) :
    cs.flatMap escapeChar = cs := by
  induction cs with
  | nil => rfl
  | cons c cs ih =>
      rw [List.flatMap_cons, h c List.mem_cons_self, ih fun d hd => h d (.tail c hd)]
      rfl

/-- An identifier needs no escapes. -/
theorem writeText_identifier (u : Uuid) :
    writeText u.text = '"' :: (u.text.toList ++ ['"']) := by
  rw [writeText, flatMap_escapeChar]
  intro c hc
  rcases Uuid.mem_text hc with rfl | ⟨n, hn, rfl⟩
  · decide
  · exact escapeChar_hexDigit n hn

theorem writeMembers_append (ms ns : List (String × Value)) :
    Value.writeMembers (ms ++ ns) = Value.writeMembers ms ++ Value.writeMembers ns := by
  induction ms with
  | nil => rfl
  | cons m ms ih =>
      simp only [List.cons_append, Value.writeMembers, ih, List.append_assoc]

/-- The value of the last member stands at the end of an object. -/
theorem write_object_concat (m : String × Value) (ms : List (String × Value)) (k : String)
    (v : Value) : ∃ front, (Value.object (m :: (ms ++ [(k, v)]))).write
      = front ++ (v.write ++ ['\x7d']) := by
  refine ⟨'\x7b' :: (writeText m.1 ++ ':' :: (m.2.write ++ (Value.writeMembers ms
    ++ ',' :: (writeText k ++ [':'])))), ?_⟩
  simp [Value.write, Value.writeMembers, writeMembers_append]

end Json

namespace Token

/-- The written claims end with their identifier. -/
theorem Claims.write_eq_append (c : Claims) :
    ∃ front, c.toValue.write = front ++ (c.id.text.toList ++ ['"', '\x7d']) := by
  obtain ⟨front, h⟩ := Json.write_object_concat ("user_id", .text c.userId.text)
    [("email", .text c.email), ("role", .text c.role.name), ("token_type", .text c.kind.name),
      ("iss", .text c.issuer), ("sub", .text c.subject), ("aud", .text c.audience),
      ("exp", .ofInt c.expires), ("nbf", .ofInt c.notBefore), ("iat", .ofInt c.issued)]
    "jti" (.text c.id.text)
  refine ⟨front ++ ['"'], ?_⟩
  rw [Json.Value.write, Json.writeText_identifier] at h
  calc c.toValue.write = front ++ ('"' :: (c.id.text.toList ++ ['"']) ++ ['\x7d']) := h
    _ = front ++ ['"'] ++ (c.id.text.toList ++ ['"', '\x7d']) := by simp

theorem Claims.id_eq_of_write_eq {c d : Claims} (h : c.toValue.write = d.toValue.write) :
    c.id = d.id := by
  obtain ⟨front, hc⟩ := c.write_eq_append
  obtain ⟨front', hd⟩ := d.write_eq_append
  rw [hc, hd] at h
  have ends := List.append_inj_right' h (by simp [Uuid.length_text])
  have texts := List.append_inj_left' ends rfl
  exact Uuid.text_injective (String.toList_inj.1 texts)

theorem encodeJson_injective {v w : Json.Value} (h : encodeJson v = encodeJson w) :
    v.write = w.write := by
  have bytes := Text.Base64.encode_injective h
  exact String.ofList_injective (Text.utf8_injective bytes)

/-- What is signed: the header and the claims. -/
def message (c : Claims) : List Char := encodeJson Header.value ++ '.' :: encodeJson c.toValue

theorem dot_not_mem_encodeJson (v : Json.Value) : '.' ∉ encodeJson v :=
  Text.Base64.dot_not_mem_encode _ _

theorem dot_not_mem_signature (secret : String) (cs : List Char) : '.' ∉ signature secret cs :=
  Text.Base64.dot_not_mem_encode _ _

theorem cutLast_message (c : Claims) :
    Text.cutLast '.' (message c) = some (encodeJson Header.value, encodeJson c.toValue) :=
  Text.cutLast_eq_some_iff.2 ⟨rfl, dot_not_mem_encodeJson _⟩

theorem cutLast_sign (secret : String) (c : Claims) :
    Text.cutLast '.' (sign secret c).toList = some (message c, signature secret (message c)) := by
  rw [sign, String.toList_ofList]
  exact Text.cutLast_eq_some_iff.2 ⟨rfl, dot_not_mem_signature _ _⟩

theorem Header.algorithm?_value :
    Header.algorithm? (Text.utf8 Header.value.compact) = some Header.algorithm := by
  decide +kernel

/-- A token that was signed is read as what it says. -/
theorem verified?_sign (secret : String) (c : Claims) :
    verified? secret (sign secret c) = some (Text.utf8 c.toValue.compact) := by
  have header : Text.Base64.decode? .urlSafe (encodeJson Header.value)
      = some (Text.utf8 Header.value.compact) := Text.Base64.decode?_encode ..
  have claims : Text.Base64.decode? .urlSafe (encodeJson c.toValue)
      = some (Text.utf8 c.toValue.compact) := Text.Base64.decode?_encode ..
  simp only [verified?, cutLast_sign, cutLast_message, header, Header.algorithm?_value, claims,
    and_self, if_true]

/-- Tokens of one text are of one identifier. -/
theorem id_eq_of_sign_eq {secret secret' : String} {c d : Claims}
    (h : sign secret c = sign secret' d) : c.id = d.id := by
  have cuts := cutLast_sign secret c
  rw [h, cutLast_sign, Option.some.injEq, Prod.mk.injEq] at cuts
  have parts := cutLast_message c
  rw [← cuts.1, cutLast_message, Option.some.injEq, Prod.mk.injEq] at parts
  exact (Claims.id_eq_of_write_eq (encodeJson_injective parts.2)).symm

theorem Config.id_eq_of_issue_eq {config config' : Config} {k k' : Kind} {u u' : Uuid}
    {email email' : String} {r r' : Account.Role} {now now' : Int} {id id' : Uuid}
    (h : config.issue k u email r now id = config'.issue k' u' email' r' now' id') : id = id' :=
  id_eq_of_sign_eq h

end Token
end Gatehouse
