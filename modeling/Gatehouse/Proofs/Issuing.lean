import Gatehouse.Proofs.RecordReading
import Gatehouse.Proofs.Signing
import Gatehouse.Proofs.Validation

/-!
Tokens that are issued are accepted. The claims of an issued token are read back from it,
whatever their texts hold, so at each second the answer is settled by its times and its kind.
-/

namespace Gatehouse.Token

open Json (Written)

/-- The times are whole numbers of 64 bits. -/
structure Claims.InRange (c : Claims) : Prop where
  expires : Bounds.minSigned ≤ c.expires ∧ c.expires ≤ Bounds.maxSigned
  notBefore : Bounds.minSigned ≤ c.notBefore ∧ c.notBefore ≤ Bounds.maxSigned
  issued : Bounds.minSigned ≤ c.issued ∧ c.issued ≤ Bounds.maxSigned

/-- The fields of claims as they are written. -/
def Claims.written (c : Claims) (h : c.InRange) : List Written := [
  ⟨⟨"user_id", .text, false⟩, .text c.userId.text, .text c.userId.text, Json.Shape.reads_text _⟩,
  ⟨⟨"email", .text, false⟩, .text c.email, .text c.email, Json.Shape.reads_text _⟩,
  ⟨⟨"role", .name, false⟩, .text c.role.name, .text c.role.name, Json.Shape.reads_name _⟩,
  ⟨⟨"token_type", .name, false⟩, .text c.kind.name, .text c.kind.name, Json.Shape.reads_name _⟩,
  ⟨⟨"iss", .text, false⟩, .text c.issuer, .text c.issuer, Json.Shape.reads_text _⟩,
  ⟨⟨"sub", .text, false⟩, .text c.subject, .text c.subject, Json.Shape.reads_text _⟩,
  ⟨⟨"aud", .text, false⟩, .text c.audience, .text c.audience, Json.Shape.reads_text _⟩,
  ⟨⟨"exp", .integer, false⟩, .ofInt c.expires, .integer c.expires,
    Json.Shape.reads_integer h.expires.1 h.expires.2⟩,
  ⟨⟨"nbf", .integer, false⟩, .ofInt c.notBefore, .integer c.notBefore,
    Json.Shape.reads_integer h.notBefore.1 h.notBefore.2⟩,
  ⟨⟨"iat", .integer, false⟩, .ofInt c.issued, .integer c.issued,
    Json.Shape.reads_integer h.issued.1 h.issued.2⟩,
  ⟨⟨"jti", .text, false⟩, .text c.id.text, .text c.id.text, Json.Shape.reads_text _⟩]

theorem Claims.ofEntries?_written {c : Claims} (h : c.InRange) :
    Claims.ofEntries? ((c.written h).map Written.entry) = some c := by
  simp [Claims.ofEntries?, Claims.written, Written.entry, Json.Entries.text?,
    Json.Entries.integer?, List.lookup_cons, Uuid.read?_text, Kind.ofName?_name,
    Account.Role.ofName?_name]

theorem Claims.read?_write {c : Claims} (h : c.InRange) :
    Claims.read? (Text.utf8 c.toValue.compact) = some c := by
  have names : (c.written h).map (·.field.name) = Claims.fields.map Json.Field.name := rfl
  have once : ((c.written h).map (·.field.name)).Nodup := by
    rw [names]
    decide
  have fields : (c.written h).map (·.field) = Claims.fields := rfl
  have value : Json.Value.object ((c.written h).map Written.member) = c.toValue := rfl
  have filled : c.written h ≠ [] := List.cons_ne_nil _ _
  rw [Claims.read?, ← value, ← fields, Json.whole_record_write "Claims" filled once,
    Option.bind_some,
    Claims.ofEntries?_written h]

theorem claims?_write {c : Claims} (h : c.InRange) :
    claims? (Text.utf8 c.toValue.compact) = some c := by
  have opening : (Json.skipSpace (Text.utf8 c.toValue.compact)).head? = some 123 := by
    rw [Json.Value.compact, Json.utf8_ofList, Claims.toValue]
    rfl
  rw [claims?, if_pos opening, Claims.read?_write h]

theorem read_sign (secret : String) {c : Claims} (h : c.InRange) :
    (verified? secret (sign secret c)).bind claims? = some c := by
  rw [verified?_sign, Option.bind_some, claims?_write h]

theorem isSigned_sign (secret : String) {c : Claims} (h : c.InRange) :
    IsSigned secret (sign secret c) := (read_eq_some_iff.1 (read_sign secret h)).1

theorem carries_sign (secret : String) {c : Claims} (h : c.InRange) :
    Carries (sign secret c) c := (read_eq_some_iff.1 (read_sign secret h)).2

section
variable (config : Config) (kind : Kind) (userId : Uuid) (email : String) (role : Account.Role)
  (id : Uuid) {s : Int}

/-- No lifetime is too long to be added. -/
theorem Config.expires_claims (start : 0 ≤ s) :
    (config.claims kind userId email role s id).expires
      = min (s + config.lifetime kind) maxTime := by
  change min (s + min (config.lifetime kind : Int) maxTime) maxTime = _
  omega

theorem Config.inRange_claims (low : Bounds.minSigned ≤ s) (high : s ≤ maxTime) :
    (config.claims kind userId email role s id).InRange := by
  have expires : (config.claims kind userId email role s id).expires
      = min (s + min (config.lifetime kind : Int) maxTime) maxTime := rfl
  have top : 0 ≤ maxTime := by decide
  have bottom : Bounds.minSigned ≤ 0 := by decide
  refine ⟨⟨?_, ?_⟩, ⟨low, high⟩, ⟨low, high⟩⟩
  · rw [expires]
    omega
  · rw [expires]
    exact Int.min_le_right ..

theorem Config.decode_issue (start : 0 ≤ s) (inTime : s ≤ maxTime) (now : Int) :
    config.decode now (config.issue kind userId email role s id)
      = if now < s then .error .invalid
        else if (config.claims kind userId email role s id).expires < now then .error .expired
        else .ok (config.claims kind userId email role s id) := by
  let c := config.claims kind userId email role s id
  have range : c.InRange := config.inRange_claims kind userId email role id
    (Int.le_trans (by decide) start) inTime
  have expires : c.expires = min (s + config.lifetime kind) maxTime :=
    config.expires_claims kind userId email role id start
  have begins : c.notBefore = s := rfl
  have reads : config.decode now (config.issue kind userId email role s id)
      = config.checkClaims now c := by
    rw [decode, issue, read_sign config.secret range]
  rw [reads, checkClaims, if_neg (by omega)]
  by_cases early : now < s
  · rw [if_pos early, if_neg (by omega), if_pos (.inl early)]
  · rw [if_neg early]
    by_cases late : c.expires < now
    · rw [if_pos late]
      exact (if_pos late).symm
    · rw [if_neg late, if_neg]
      · exact (if_neg late).symm
      rintro (h | h | h | h)
      · exact early h
      · exact h rfl
      · exact h rfl
      · exact h rfl

/-- What is issued is accepted as what it is, with what it says. -/
theorem Config.validate_issue (start : 0 ≤ s) (inTime : s ≤ maxTime) {now : Int} (since : s ≤ now)
    (lasting : now ≤ (config.claims kind userId email role s id).expires) :
    config.validate kind now (config.issue kind userId email role s id)
      = .ok (config.claims kind userId email role s id) := by
  refine Config.validate_eq_ok_iff.2 ⟨?_, rfl⟩
  rw [config.decode_issue kind userId email role id start inTime, if_neg (by omega),
    if_neg (by omega)]

theorem Config.claims_eq (start : 0 ≤ s) : config.claims kind userId email role s id = {
    userId := userId
    email := email
    role := if kind = .reset then .user else role
    kind := kind
    issuer := config.issuer
    subject := userId.text
    audience := config.audience
    expires := min (s + config.lifetime kind) maxTime
    notBefore := s
    issued := s
    id := id } := by
  rw [← config.expires_claims kind userId email role id start]
  rfl

/-- An issued token says whose it is, what it is for, who issued it to whom and when. It is
accepted from the second on in which it was issued, up to the end of its lifetime or of time, with
the claims that it was issued with, and as no other kind. Later it has expired and earlier it does
not hold, whatever kind is asked for. -/
theorem issue_validate (start : 0 ≤ s) (inTime : s ≤ maxTime) :
    let token := config.issue kind userId email role s id
    let c : Claims := {
      userId := userId
      email := email
      role := if kind = .reset then .user else role
      kind := kind
      issuer := config.issuer
      subject := userId.text
      audience := config.audience
      expires := min (s + config.lifetime kind) maxTime
      notBefore := s
      issued := s
      id := id }
    Carries token c ∧
      ∀ now,
        (s ≤ now → now ≤ c.expires → config.validate kind now token = .ok c ∧
          ∀ other, other ≠ kind →
            config.validate other now token = .error (.wrongKind other kind)) ∧
        (c.expires < now → ∀ asked, config.validate asked now token = .error .expired) ∧
        (now < s → ∀ asked, config.validate asked now token = .error .invalid) := by
  intro token c
  have same : config.claims kind userId email role s id = c :=
    config.claims_eq kind userId email role id start
  have range : c.InRange := same ▸ config.inRange_claims kind userId email role id
    (Int.le_trans (by decide) start) inTime
  have expires : c.expires = min (s + config.lifetime kind) maxTime := rfl
  have decoded (now : Int) : config.decode now token
      = if now < s then .error .invalid
        else if c.expires < now then .error .expired else .ok c :=
    same ▸ config.decode_issue kind userId email role id start inTime now
  have written : token = sign config.secret c := congrArg (sign config.secret) same
  refine ⟨written ▸ carries_sign config.secret range, fun now => ⟨?_, ?_, ?_⟩⟩
  · intro since lasting
    have accepted : config.decode now token = .ok c := by
      rw [decoded, if_neg (by omega), if_neg (by omega)]
    refine ⟨Config.validate_eq_ok_iff.2 ⟨accepted, rfl⟩, ?_⟩
    intro other differs
    rw [Config.validate_eq_wrongKind_iff]
    exact ⟨rfl, differs.symm, c, Config.validate_eq_ok_iff.2 ⟨accepted, rfl⟩⟩
  · intro late asked
    rw [Config.validate_eq_expired_iff, decoded, if_neg (by omega), if_pos late]
  · intro early asked
    have rejected : config.decode now token = .error .invalid := by
      rw [decoded, if_pos early]
    rw [Config.validate, rejected]

end

/-- A lifetime beyond the end of time, and texts that need escapes. -/
theorem issue_validate_quoted :
    let config : Config := {
      secret := "s"
      issuer := "a \"b\"\\\n"
      audience := "\x00\x1fé𝄞"
      accessLifetime := Bounds.max64 }
    let token := config.issue .access ⟨7⟩ "\"@\\" .admin 5 ⟨8⟩
    let c : Claims := {
      userId := ⟨7⟩
      email := "\"@\\"
      role := .admin
      kind := .access
      issuer := "a \"b\"\\\n"
      subject := "00000000-0000-0000-0000-000000000007"
      audience := "\x00\x1fé𝄞"
      expires := 0x7FFFFFFFFFFFFFFF
      notBefore := 5
      issued := 5
      id := ⟨8⟩ }
    (0 ≤ (5 : Int) ∧ (5 : Int) ≤ maxTime) ∧ config.validate .access 5 token = .ok c ∧
      config.validate .reset maxTime token = .error (.wrongKind .reset .access) ∧
      config.validate .access (maxTime + 1) token = .error .expired ∧
      config.validate .refresh 4 token = .error .invalid := by
  intro config token c
  have start : 0 ≤ (5 : Int) := by decide
  have inTime : (5 : Int) ≤ maxTime := by decide
  obtain ⟨-, validates⟩ := issue_validate config .access ⟨7⟩ "\"@\\" .admin ⟨8⟩ start inTime
  have ends : min (5 + config.lifetime .access : Int) maxTime = maxTime := by decide
  have subject : (⟨7⟩ : Uuid).text = "00000000-0000-0000-0000-000000000007" := by decide +kernel
  rw [ends, subject] at validates
  refine ⟨⟨start, inTime⟩, ?_, ?_, ?_, ?_⟩
  · exact ((validates 5).1 (by decide) (by decide)).1
  · exact ((validates maxTime).1 (by decide) (by decide)).2 .reset (by decide)
  · exact (validates (maxTime + 1)).2.1 (by decide) .access
  · exact (validates 4).2.2 (by decide) .refresh

end Gatehouse.Token
