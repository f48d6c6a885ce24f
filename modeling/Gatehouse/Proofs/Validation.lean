import Gatehouse.Proofs.Base64
import Gatehouse.Token.Signed

/-!
Which tokens are accepted, and why the others are not. Three things are said apart from how a
token is taken to pieces: that its last segment is the keyed digest of what stands before it,
that its other segments carry claims under a header of the one algorithm, and that the claims
hold at a time. Every answer of validation is a combination of the three.
-/

namespace Gatehouse.Token

/-- The last segment is, in base 64, the keyed digest of all that stands before the last
point. -/
def IsSigned (secret token : String) : Prop :=
  ∃ message signed, token.toList = message ++ '.' :: signed ∧ '.' ∉ signed ∧
    Text.Base64.decode? .urlSafe signed
      = some (Digest.Sha256.hmac (Text.utf8 secret) (Text.utf8 (String.ofList message)))

/-- The segment before the last point is, in base 64, an object that writes the claims, and
what stands before that segment is a header that names HS256. Nothing is said of the last
segment. -/
def Carries (token : String) (c : Claims) : Prop :=
  ∃ header claims signed text written,
    token.toList = (header ++ '.' :: claims) ++ '.' :: signed ∧ '.' ∉ claims ∧ '.' ∉ signed ∧
    Text.Base64.decode? .urlSafe header = some text ∧ Header.algorithm? text = some "HS256" ∧
    Text.Base64.decode? .urlSafe claims = some written ∧ claims? written = some c

/-- The claims hold at a second: between its bounds, of this issuer, for this audience, and of
the user that they name. -/
structure Config.Grants (config : Config) (now : Int) (c : Claims) : Prop where
  issuer : c.issuer = config.issuer
  audience : c.audience = config.audience
  subject : c.subject = c.userId.text
  notBefore_nonneg : 0 ≤ c.notBefore
  notBefore_le : c.notBefore ≤ now
  le_expires : now ≤ c.expires

theorem signed_iff {secret : String} {message signed : List Char} :
    signed = signature secret message ↔ Text.Base64.decode? .urlSafe signed
      = some (Digest.Sha256.hmac (Text.utf8 secret) (Text.utf8 (String.ofList message))) :=
  Text.Base64.decode?_eq_some_iff.symm

theorem verified?_of_segments {secret token : String} {header claims signed : List Char}
    {text : Bytes} (split : token.toList = (header ++ '.' :: claims) ++ '.' :: signed)
    (hc : '.' ∉ claims) (hs : '.' ∉ signed)
    (hh : Text.Base64.decode? .urlSafe header = some text) :
    verified? secret token =
      if Header.algorithm? text = some Header.algorithm
          ∧ signed = signature secret (header ++ '.' :: claims) then
        Text.Base64.decode? .urlSafe claims
      else none := by
  have outer := Text.cutLast_eq_some_iff.2 ⟨split, hs⟩
  have inner : Text.cutLast '.' (header ++ '.' :: claims) = some (header, claims) :=
    Text.cutLast_eq_some_iff.2 ⟨rfl, hc⟩
  simp only [verified?, outer, inner, hh]

theorem segments_of_verified? {secret token : String} {written : Bytes}
    (h : verified? secret token = some written) :
    ∃ header claims signed text,
      token.toList = (header ++ '.' :: claims) ++ '.' :: signed ∧ '.' ∉ claims ∧ '.' ∉ signed ∧
      Text.Base64.decode? .urlSafe header = some text ∧
      Header.algorithm? text = some Header.algorithm ∧
      signed = signature secret (header ++ '.' :: claims) ∧
      Text.Base64.decode? .urlSafe claims = some written := by
  unfold verified? at h
  split at h
  · cases h
  next message signed outer =>
    split at h
    · cases h
    next header claims inner =>
      obtain ⟨split, hs⟩ := Text.cutLast_eq_some_iff.1 outer
      obtain ⟨rfl, hc⟩ := Text.cutLast_eq_some_iff.1 inner
      split at h
      · cases h
      next text hh =>
        obtain ⟨⟨ha, hd⟩, hw⟩ := Option.ite_none_right_eq_some.1 h
        exact ⟨header, claims, signed, text, split, hc, hs, hh, ha, hd, hw⟩

/-- What is read from a token is what it carries, if it is signed. -/
theorem read_eq_some_iff {secret token : String} {c : Claims} :
    (verified? secret token).bind claims? = some c ↔ IsSigned secret token ∧ Carries token c := by
  constructor
  · intro h
    obtain ⟨written, hv, hw⟩ := Option.bind_eq_some_iff.1 h
    obtain ⟨header, claims, signed, text, split, hc, hs, hh, ha, hd, hr⟩ :=
      segments_of_verified? hv
    exact ⟨⟨header ++ '.' :: claims, signed, split, hs, signed_iff.1 hd⟩,
      header, claims, signed, text, written, split, hc, hs, hh, ha, hr, hw⟩
  · rintro ⟨⟨message, signed, split, hs, hd⟩, header, claims, signed', text, written, split',
      hc, hs', hh, ha, hr, hw⟩
    -- The last point is in one place only, so both splits are the same.
    have cuts := Text.cutLast_eq_some_iff.2 ⟨split, hs⟩
    rw [Text.cutLast_eq_some_iff.2 ⟨split', hs'⟩, Option.some.injEq, Prod.mk.injEq] at cuts
    obtain ⟨rfl, rfl⟩ := cuts
    rw [verified?_of_segments split' hc hs' hh, if_pos ⟨ha, signed_iff.2 hd⟩, hr,
      Option.bind_some, hw]

section
variable {config : Config} {now : Int} {token : String}

theorem Config.checkClaims_eq_ok_iff {c d : Claims} :
    config.checkClaims now c = .ok d ↔ c = d ∧ config.Grants now c := by
  unfold checkClaims
  constructor
  · intro h
    split at h
    · cases h
    split at h
    · cases h
    split at h
    · cases h
    next bounds live rest =>
      simp only [not_or, Decidable.not_not, Int.not_lt] at bounds live rest
      cases h
      exact ⟨rfl, rest.2.1, rest.2.2.1, rest.2.2.2, bounds.2, rest.1, live⟩
  · rintro ⟨rfl, h⟩
    have h1 := h.notBefore_nonneg
    have h2 := h.notBefore_le
    have h3 := h.le_expires
    rw [if_neg (by omega), if_neg (by omega), if_neg]
    simp only [not_or, Decidable.not_not, Int.not_lt]
    exact ⟨h2, h.issuer, h.audience, h.subject⟩

theorem Config.checkClaims_eq_expired_iff {c : Claims} :
    config.checkClaims now c = .error .expired ↔
      0 ≤ c.expires ∧ 0 ≤ c.notBefore ∧ c.expires < now := by
  unfold checkClaims
  by_cases bounds : c.expires < 0 ∨ c.notBefore < 0
  · rw [if_pos bounds]
    constructor
    · intro h
      cases h
    · omega
  rw [if_neg bounds]
  by_cases late : c.expires < now
  · rw [if_pos late]
    exact ⟨fun _ => by omega, fun _ => rfl⟩
  rw [if_neg late]
  constructor
  · intro h
    split at h <;> cases h
  · intro h
    exact absurd h.2.2 late

theorem Config.decode_eq_ok_iff {c : Claims} :
    config.decode now token = .ok c ↔
      IsSigned config.secret token ∧ Carries token c ∧ config.Grants now c := by
  rw [← and_assoc, ← read_eq_some_iff, decode]
  cases hr : (verified? config.secret token).bind claims? with
  | none => simp
  | some d =>
      rw [Option.some.injEq]
      exact checkClaims_eq_ok_iff.trans (by constructor <;> rintro ⟨rfl, h⟩ <;> exact ⟨rfl, h⟩)

theorem Config.decode_eq_expired_iff :
    config.decode now token = .error .expired ↔
      IsSigned config.secret token ∧
        ∃ c, Carries token c ∧ 0 ≤ c.expires ∧ 0 ≤ c.notBefore ∧ c.expires < now := by
  rw [decode]
  constructor
  · intro h
    cases hr : (verified? config.secret token).bind claims? with
    | none => simp [hr] at h
    | some c =>
        obtain ⟨hs, hc⟩ := read_eq_some_iff.1 hr
        rw [hr] at h
        exact ⟨hs, c, hc, checkClaims_eq_expired_iff.1 h⟩
  · rintro ⟨hs, c, hc, h⟩
    rw [read_eq_some_iff.2 ⟨hs, hc⟩]
    exact checkClaims_eq_expired_iff.2 h

theorem Config.decode_ne_wrongKind {expected actual : Kind} :
    config.decode now token ≠ .error (.wrongKind expected actual) := by
  intro h
  unfold decode checkClaims at h
  repeat' split at h
  all_goals cases h

theorem Config.validate_eq_ok_iff {kind : Kind} {c : Claims} :
    config.validate kind now token = .ok c ↔ config.decode now token = .ok c ∧ c.kind = kind := by
  rw [validate]
  cases config.decode now token with
  | error e => simp
  | ok d =>
      by_cases hk : d.kind = kind
      · simp only [hk, if_true, Except.ok.injEq]
        constructor
        · rintro rfl
          exact ⟨rfl, hk⟩
        · exact fun h => h.1
      · simp only [hk, if_false, reduceCtorEq, Except.ok.injEq, false_iff, not_and]
        rintro rfl
        exact hk

theorem Config.validate_eq_expired_iff {kind : Kind} :
    config.validate kind now token = .error .expired ↔
      config.decode now token = .error .expired := by
  rw [validate]
  cases config.decode now token with
  | error e => simp
  | ok d => by_cases hk : d.kind = kind <;> simp [hk]

theorem Config.validate_eq_wrongKind_iff {kind expected actual : Kind} :
    config.validate kind now token = .error (.wrongKind expected actual) ↔
      expected = kind ∧ actual ≠ kind ∧ ∃ c, config.validate actual now token = .ok c := by
  simp only [validate_eq_ok_iff]
  rw [validate]
  cases hd : config.decode now token with
  | error e =>
      have ne : e ≠ .wrongKind expected actual := fun h => decode_ne_wrongKind (h ▸ hd)
      simp [ne]
  | ok d =>
      by_cases hk : d.kind = kind
      · simp only [hk, if_true, reduceCtorEq, Except.ok.injEq, false_iff, not_and,
          not_exists]
        rintro rfl ne c rfl e
        exact ne (e.symm.trans hk)
      · simp only [hk, if_false, Except.error.injEq, Rejection.wrongKind.injEq,
          Except.ok.injEq]
        constructor
        · rintro ⟨rfl, rfl⟩
          exact ⟨rfl, hk, d, rfl, rfl⟩
        · rintro ⟨rfl, -, c, rfl, rfl⟩
          exact ⟨rfl, rfl⟩

/-- A token that was accepted is accepted until it expires. -/
theorem Config.validate_of_le {kind : Kind} {c : Claims} {later : Int}
    (h : config.validate kind now token = .ok c) (le : now ≤ later) :
    config.validate kind later token
      = if c.expires < later then .error .expired else .ok c := by
  obtain ⟨accepted, hk⟩ := validate_eq_ok_iff.1 h
  obtain ⟨signed, carries, grants⟩ := decode_eq_ok_iff.1 accepted
  have begun := grants.notBefore_nonneg
  have since := grants.notBefore_le
  have lasting := grants.le_expires
  by_cases late : c.expires < later
  · rw [if_pos late, validate_eq_expired_iff, decode_eq_expired_iff]
    exact ⟨signed, c, carries, by omega, begun, late⟩
  · rw [if_neg late, validate_eq_ok_iff, decode_eq_ok_iff]
    exact ⟨⟨signed, carries, { grants with
      notBefore_le := by omega
      le_expires := by omega }⟩, hk⟩

end

/-- What is answered is settled by the signature, by the claims that the token carries and by
the time. Of several kinds a token is accepted as one at most, at whatever times it is tried;
asked for another kind while it holds, it is told apart by its own; and without the signature
nothing about it matters. -/
theorem validate_classification (config : Config) (token : String) :
    (∀ kind now c, config.validate kind now token = .ok c ↔
      IsSigned config.secret token ∧ Carries token c ∧ c.kind = kind ∧ config.Grants now c) ∧
    (∀ kind now, config.validate kind now token = .error .expired ↔
      IsSigned config.secret token ∧
        ∃ c, Carries token c ∧ 0 ≤ c.expires ∧ 0 ≤ c.notBefore ∧ c.expires < now) ∧
    (∀ kind now expected actual,
      config.validate kind now token = .error (.wrongKind expected actual) ↔
        expected = kind ∧ actual ≠ kind ∧ ∃ c, config.validate actual now token = .ok c) ∧
    (∀ kind kind' now now' c c', config.validate kind now token = .ok c →
      config.validate kind' now' token = .ok c' → kind = kind') ∧
    (∀ kind now, ¬ IsSigned config.secret token →
      config.validate kind now token = .error .invalid) := by
  refine ⟨?_, ?_, ?_, ?_, ?_⟩
  · intro kind now c
    rw [Config.validate_eq_ok_iff, Config.decode_eq_ok_iff]
    constructor
    · rintro ⟨⟨hs, hc, hg⟩, hk⟩
      exact ⟨hs, hc, hk, hg⟩
    · rintro ⟨hs, hc, hk, hg⟩
      exact ⟨⟨hs, hc, hg⟩, hk⟩
  · intro kind now
    rw [Config.validate_eq_expired_iff, Config.decode_eq_expired_iff]
  · intro kind now expected actual
    exact Config.validate_eq_wrongKind_iff
  · intro kind kind' now now' c c' h h'
    obtain ⟨hd, rfl⟩ := Config.validate_eq_ok_iff.1 h
    obtain ⟨hd', rfl⟩ := Config.validate_eq_ok_iff.1 h'
    obtain ⟨hs, hc, -⟩ := Config.decode_eq_ok_iff.1 hd
    obtain ⟨-, hc', -⟩ := Config.decode_eq_ok_iff.1 hd'
    have e := read_eq_some_iff.2 ⟨hs, hc⟩
    rw [read_eq_some_iff.2 ⟨hs, hc'⟩, Option.some.injEq] at e
    rw [e]
  · intro kind now hs
    have unread : (verified? config.secret token).bind claims? = none := by
      rw [Option.eq_none_iff_forall_not_mem]
      exact fun c hc => hs (read_eq_some_iff.1 hc).1
    simp only [Config.validate, Config.decode, unread]

end Gatehouse.Token
