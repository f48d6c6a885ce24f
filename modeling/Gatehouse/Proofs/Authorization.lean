import Gatehouse.Proofs.Issuing
import Gatehouse.Proofs.Routing
import Gatehouse.Proofs.Step

/-!
Who reaches the routes that need a caller: exactly those who present an access token that is
valid, and for the route of administrators one of theirs. All others are refused before the
store is asked, and the status and the code tell why. A route acts for the user of the token,
whatever else the request says.
-/

namespace Gatehouse.Api

open Service (inMemory withoutSessionsOf)
open Store (Tables)
open Token (Claims)

/-- The first header for authorization is text and presents a token, which is not empty and has
no white space in it. -/
def Presents (hs : Net.Headers) (token : String) : Prop :=
  ∃ value, hs.first? "authorization" = some value ∧
    Net.valueText? value = some ("Bearer " ++ token) ∧
    token ≠ "" ∧ ∀ c ∈ token.toList, Text.isBlank c = false

/-- A caller with these claims may use the route. -/
structure Permits (tokens : Token.Config) (now : Int) (hs : Net.Headers) (route : Route)
    (claims : Claims) : Prop where
  valid : ∃ token, Presents hs token ∧ tokens.validate .access now token = .ok claims
  role : route = .adminUsers → claims.role = .admin

/-- Why nobody may use the route, as a status and a code. -/
inductive Refused (tokens : Token.Config) (now : Int) (hs : Net.Headers) (route : Route) :
    Nat → String → Prop where
  | noToken (absent : ∀ token, ¬ Presents hs token) :
      Refused tokens now hs route 401 "UNAUTHORIZED"
  | invalid {token : String} (presents : Presents hs token)
      (rejected : tokens.validate .access now token = .error .invalid) :
      Refused tokens now hs route 401 "INVALID_TOKEN"
  | expired {token : String} (presents : Presents hs token)
      (rejected : tokens.validate .access now token = .error .expired) :
      Refused tokens now hs route 401 "TOKEN_EXPIRED"
  | wrongKind {token : String} {expected found : Token.Kind} (presents : Presents hs token)
      (rejected : tokens.validate .access now token = .error (.wrongKind expected found)) :
      Refused tokens now hs route 401 "WRONG_TOKEN_TYPE"
  | otherRole {token : String} {claims : Claims} (presents : Presents hs token)
      (valid : tokens.validate .access now token = .ok claims) (admins : route = .adminUsers)
      (other : claims.role ≠ .admin) :
      Refused tokens now hs route 403 "FORBIDDEN"

def refusal (status : Nat) (code message : String) : Reply :=
  .json status (.object [("error", .text message), ("code", .text code)])

theorem toList_bearer (token : String) : ("Bearer " ++ token).toList = scheme ++ token.toList :=
  String.toList_append

section
variable {hs : Net.Headers} {value : Bytes} {text token : String}

theorem bearerToken_of_scheme (first : hs.first? "authorization" = some value)
    (readable : Net.valueText? value = some text) (behind : text.toList = scheme ++ token.toList) :
    bearerToken hs
      = if token.toList.isEmpty || token.toList.any Text.isBlank then .error .malformed
        else .ok token := by
  have starts : scheme.isPrefixOf text.toList = true :=
    List.isPrefixOf_iff_prefix.2 ⟨token.toList, behind.symm⟩
  have rest : text.toList.drop scheme.length = token.toList := by rw [behind, List.drop_left]
  simp only [bearerToken, first, readable, starts, if_true, rest, String.ofList_toList]

theorem Presents.bearerToken (presents : Presents hs token) : bearerToken hs = .ok token := by
  obtain ⟨value, first, readable, filled, solid⟩ := presents
  rw [bearerToken_of_scheme first readable (toList_bearer token)]
  have some_ : token.toList.isEmpty = false := by simpa using filled
  have whole : token.toList.any Text.isBlank = false := by simpa using solid
  rw [some_, whole]
  rfl

theorem presents_of_bearerToken (read : Api.bearerToken hs = .ok token) : Presents hs token := by
  cases first : hs.first? "authorization" with
  | none => simp only [Api.bearerToken, first, reduceCtorEq] at read
  | some value =>
      cases readable : Net.valueText? value with
      | none => simp only [Api.bearerToken, first, readable, reduceCtorEq] at read
      | some text =>
          by_cases starts : scheme.isPrefixOf text.toList = true
          · obtain ⟨rest, behind⟩ := List.isPrefixOf_iff_prefix.1 starts
            have parts : text.toList = scheme ++ (String.ofList rest).toList := by
              rw [String.toList_ofList, behind]
            rw [bearerToken_of_scheme first readable parts] at read
            split at read
            · cases read
            · rename_i solid
              cases read
              have same : text = "Bearer " ++ String.ofList rest :=
                String.toList_inj.1 (parts.trans (toList_bearer _).symm)
              rw [Bool.or_eq_true, not_or] at solid
              refine ⟨value, first, same ▸ readable, ?_, ?_⟩
              · simpa using solid.1
              · simpa using solid.2
          · simp only [Api.bearerToken, first, readable, starts] at read
            cases read

end

/-- Characters that may stand in a token. -/
def IsVisible (c : Char) : Prop := 33 ≤ c.toNat ∧ c.toNat ≤ 126

instance (c : Char) : Decidable (IsVisible c) := inferInstanceAs (Decidable (_ ∧ _))

theorem IsVisible.not_blank {c : Char} (visible : IsVisible c) : Text.isBlank c = false := by
  obtain ⟨low, high⟩ := visible
  simp only [Text.isBlank, Bool.or_eq_false_iff, Bool.and_eq_false_iff, decide_eq_false_iff_not,
    beq_eq_false_iff_ne]
  omega

theorem isVisible_char : ∀ n < 64, IsVisible (Text.Base64.Alphabet.urlSafe.char n) := by
  decide

theorem isVisible_of_mem_encode {bytes : Bytes} {c : Char}
    (hc : c ∈ Text.Base64.encode .urlSafe bytes) : IsVisible c := by
  obtain ⟨n, hn, rfl⟩ := Text.Base64.value?_of_mem_encode hc
  exact isVisible_char n hn

theorem isVisible_of_mem_sign {secret : String} {claims : Claims} {c : Char}
    (hc : c ∈ (Token.sign secret claims).toList) : IsVisible c := by
  have dot : IsVisible '.' := by decide
  simp only [Token.sign, String.toList_ofList, List.mem_append, List.mem_cons] at hc
  obtain ((hc | rfl | hc) | rfl | hc) := hc
  · exact isVisible_of_mem_encode hc
  · exact dot
  · exact isVisible_of_mem_encode hc
  · exact dot
  · exact isVisible_of_mem_encode hc

/-- A header whose value is written in visible characters and spaces can be read. -/
theorem valueText?_utf8 {text : String}
    (plain : ∀ c ∈ text.toList, 32 ≤ c.toNat ∧ c.toNat ≤ 126) :
    Net.valueText? (Text.utf8 text) = some text := by
  have bytes : Text.utf8 text = text.toList.map fun c => UInt8.ofNat c.toNat := by
    rw [← Json.bytesOf_toList, Json.bytesOf, List.map_eq_flatMap]
    refine List.flatMap_congr fun c hc => ?_
    have := plain c hc
    exact Json.utf8EncodeChar_of_lt (by omega)
  have byte {c : Char} (hc : c ∈ text.toList) : (UInt8.ofNat c.toNat).toNat = c.toNat := by
    have := plain c hc
    rw [UInt8.toNat_ofNat']
    omega
  have readable : (Text.utf8 text).all Net.isTextByte = true := by
    rw [bytes, List.all_map, List.all_eq_true]
    intro c hc
    have := plain c hc
    simp only [Function.comp, Net.isTextByte, Bool.or_eq_true, Bool.and_eq_true, decide_eq_true_eq,
      UInt8.le_iff_toNat_le, byte hc]
    exact .inl this
  rw [Net.valueText?, if_pos readable, bytes, List.map_map]
  have same : text.toList.map ((fun b => Char.ofNat b.toNat) ∘ fun c => UInt8.ofNat c.toNat)
      = text.toList := by
    refine (List.map_congr_left fun c hc => ?_).trans (List.map_id _)
    rw [Function.comp, byte hc, Char.ofNat_toNat, id]
  rw [same, String.ofList_toList]

theorem scheme_printed {c : Char} (hc : c ∈ scheme) : 32 ≤ c.toNat ∧ c.toNat ≤ 126 := by
  have printed : scheme.all (fun c => 32 ≤ c.toNat && c.toNat ≤ 126) = true := by decide
  simpa using List.all_eq_true.1 printed c hc

def bearing (token : String) : Net.Headers := [("authorization", Text.utf8 ("Bearer " ++ token))]

theorem presents_bearing {token : String} (filled : token ≠ "")
    (visible : ∀ c ∈ token.toList, IsVisible c) : Presents (bearing token) token := by
  refine ⟨_, rfl, valueText?_utf8 fun c hc => ?_, filled, fun c hc => (visible c hc).not_blank⟩
  rw [toList_bearer, List.mem_append] at hc
  cases hc with
  | inl hc => exact scheme_printed hc
  | inr hc => exact ⟨Nat.le_of_succ_le (visible c hc).1, (visible c hc).2⟩

theorem presents_sign (secret : String) (claims : Claims) :
    Presents (bearing (Token.sign secret claims)) (Token.sign secret claims) := by
  refine presents_bearing (fun empty => ?_) fun c hc => isVisible_of_mem_sign hc
  have length := congrArg (fun s => s.toList.length) empty
  simp [Token.sign] at length

/-- An access token lets its user pass from the second on in which it was issued, for as long as
it lasts. -/
theorem permits_issue (tokens : Token.Config) (userId : Uuid) (email : String)
    (role : Account.Role) (id : Uuid) {issued now : Int} (start : 0 ≤ issued)
    (since : issued ≤ now)
    (lasting : now ≤ (tokens.claims .access userId email role issued id).expires)
    {route : Route} (admin : route = .adminUsers → role = .admin) :
    Permits tokens now (bearing (tokens.issue .access userId email role issued id)) route
      (tokens.claims .access userId email role issued id) where
  valid := by
    have expires := tokens.expires_claims .access userId email role id start
    have inTime : issued ≤ Token.maxTime := by omega
    have decoded := tokens.decode_issue .access userId email role id start inTime now
    rw [if_neg (by omega), if_neg (by omega)] at decoded
    exact ⟨_, presents_sign .., Token.Config.validate_eq_ok_iff.2 ⟨decoded, rfl⟩⟩
  role := admin

/-- The routes that need a caller. -/
def Route.personal : List Route := [.logoutAll, .profile, .adminUsers]

theorem Route.personal_cases {route : Route} (personal : route ∈ Route.personal) :
    route = .logoutAll ∨ route = .profile ∨ route = .adminUsers := by
  simpa [Route.personal] using personal

section
variable (tokens : Token.Config) (now : Int) {hs : Net.Headers}

theorem authenticate_of_presents {token : String} (presents : Presents hs token) :
    authenticate tokens now hs
      = match tokens.validate .access now token with
        | .error rejection => .error (.ofService (.ofRejection rejection))
        | .ok claims => .ok (.ofClaims claims) := by
  cases checked : tokens.validate .access now token with
  | error rejection => simp only [authenticate, presents.bearerToken, checked]
  | ok claims => simp only [authenticate, presents.bearerToken, checked]

end

theorem exists_refused {tokens : Token.Config} {now : Int} {hs : Net.Headers} {route : Route}
    (nobody : ∀ claims, ¬ Permits tokens now hs route claims) :
    ∃ status code, Refused tokens now hs route status code := by
  by_cases absent : ∀ token, ¬ Presents hs token
  · exact ⟨_, _, .noToken absent⟩
  · obtain ⟨token, presents⟩ := not_forall_not.1 absent
    cases checked : tokens.validate .access now token with
    | error rejection =>
        cases rejection with
        | expired => exact ⟨_, _, .expired presents checked⟩
        | invalid => exact ⟨_, _, .invalid presents checked⟩
        | wrongKind expected found => exact ⟨_, _, .wrongKind presents checked⟩
    | ok claims =>
        by_cases admins : route = .adminUsers
        · refine ⟨_, _, .otherRole presents checked admins fun role => ?_⟩
          exact nobody claims ⟨⟨token, presents, checked⟩, fun _ => role⟩
        · refine absurd ⟨⟨token, presents, checked⟩, fun same => ?_⟩ (nobody claims)
          exact absurd same admins

section
variable {m : Type → Type} [Monad m] [MonadExceptOf Panic m] {ε : Type} (app : App m ε)
  (at_ : Moment) {r : Request} {route : Route}

theorem guarded_of_authenticate_error (personal : route ∈ Route.personal) {p : Problem}
    (fails : authenticate app.service.tokens at_.now.seconds r.headers = .error p)
    (next : Option Caller → m Reply) : guarded app at_ r route next = pure (.ofProblem p) := by
  obtain rfl | rfl | rfl := Route.personal_cases personal
  · simp only [guarded, Route.access, fails]
  · simp only [guarded, Route.access, fails]
  · simp only [guarded, Route.access, fails]

theorem guarded_of_permits (personal : route ∈ Route.personal) {claims : Claims}
    (permits : Permits app.service.tokens at_.now.seconds r.headers route claims)
    (next : Option Caller → m Reply) :
    guarded app at_ r route next = next (some (.ofClaims claims)) := by
  obtain ⟨token, presents, valid⟩ := permits.valid
  have passes := authenticate_of_presents app.service.tokens at_.now.seconds presents
  rw [valid] at passes
  obtain rfl | rfl | rfl := Route.personal_cases personal
  · simp only [guarded, Route.access, passes]
  · simp only [guarded, Route.access, passes]
  · have admin : requireRole .admin (some (.ofClaims claims)) = .ok (.ofClaims claims) :=
      if_pos (permits.role rfl)
    simp only [guarded, Route.access, passes, admin]

/-- Whoever is refused is told why, and nothing else is done. -/
theorem guarded_of_refused (personal : route ∈ Route.personal) {status : Nat} {code : String}
    (refused : Refused app.service.tokens at_.now.seconds r.headers route status code) :
    ∃ message, ∀ next, guarded app at_ r route next = pure (refusal status code message) := by
  cases refused with
  | noToken absent =>
      cases read : bearerToken r.headers with
      | ok token => exact absurd (presents_of_bearerToken read) (absent token)
      | error problem =>
          have fails : authenticate app.service.tokens at_.now.seconds r.headers
              = .error (.unauthorized problem.message) := by
            rw [authenticate, read]
          exact ⟨problem.message, guarded_of_authenticate_error app at_ personal fails⟩
  | invalid presents rejected =>
      have fails := authenticate_of_presents app.service.tokens at_.now.seconds presents
      rw [rejected] at fails
      exact ⟨"Invalid token", guarded_of_authenticate_error app at_ personal fails⟩
  | expired presents rejected =>
      have fails := authenticate_of_presents app.service.tokens at_.now.seconds presents
      rw [rejected] at fails
      exact ⟨"Token expired", guarded_of_authenticate_error app at_ personal fails⟩
  | wrongKind presents rejected =>
      have fails := authenticate_of_presents app.service.tokens at_.now.seconds presents
      rw [rejected] at fails
      exact ⟨"Token cannot be used for this operation",
        guarded_of_authenticate_error app at_ personal fails⟩
  | @otherRole token claims presents valid admins other =>
      have passes := authenticate_of_presents app.service.tokens at_.now.seconds presents
      rw [valid] at passes
      have fails : requireRole .admin (some (.ofClaims claims)) = .error .forbidden := if_neg other
      subst admins
      refine ⟨"Forbidden", fun next => ?_⟩
      simp only [guarded, Route.access, passes, fails]
      rfl

end

/-- In a state, the route is run for a caller, whatever it does. -/
def Runs {σ ε : Type} (app : App (PanicM σ) ε) (at_ : Moment) (r : Request) (route : Route)
    (s : σ) (c : Caller) : Prop :=
  ∀ next, guarded app at_ r route next s = next (some c) s

section
variable {σ ε : Type} (app : App (PanicM σ) ε) (at_ : Moment) {r : Request} {route : Route}

theorem not_runs_of_refused (personal : route ∈ Route.personal) {status : Nat} {code : String}
    (refused : Refused app.service.tokens at_.now.seconds r.headers route status code) (s : σ)
    (c : Caller) : ¬ Runs app at_ r route s c := by
  intro runs
  obtain ⟨message, refuses⟩ := guarded_of_refused app at_ personal refused
  -- A refusal asks for no reset, and some route does.
  have told := runs fun _ => pure ⟨.empty 200, some ""⟩
  rw [refuses] at told
  cases told

theorem runs_iff (personal : route ∈ Route.personal) (s : σ) (c : Caller) :
    Runs app at_ r route s c ↔
      ∃ claims, Permits app.service.tokens at_.now.seconds r.headers route claims ∧
        c = ⟨claims.userId, claims.email, claims.role⟩ := by
  constructor
  · intro runs
    by_cases somebody :
        ∃ claims, Permits app.service.tokens at_.now.seconds r.headers route claims
    · obtain ⟨claims, permits⟩ := somebody
      refine ⟨claims, permits, ?_⟩
      -- A route that tells whether its caller is `c`.
      have told := runs fun d => pure ⟨.empty 200, if d = some c then some "" else none⟩
      rw [guarded_of_permits app at_ personal permits] at told
      by_cases same : Caller.ofClaims claims = c
      · exact same.symm
      · rw [PanicM.pure_apply] at told
        simp only [Option.some.injEq, same, if_false, if_true] at told
        cases told
    · obtain ⟨status, code, refused⟩ := exists_refused (not_exists.1 somebody)
      exact absurd runs (not_runs_of_refused app at_ personal refused s c)
  · intro ⟨claims, permits, same⟩ next
    rw [guarded_of_permits app at_ personal permits, same]
    rfl

end

/-- What a caller of this identifier and address is answered from tables, and the tables behind the
answer. -/
def personalAnswer (t : Tables) (userId : Uuid) (email : String) : Route → Reply × Tables
  | .logoutAll =>
      (.json 200 (.object [("message", .text "Logged out from all sessions"),
        ("sessions_revoked", .ofNat (t.sessions.filter (·.userId = userId)).length)]),
        { t with sessions := t.sessions.filter (·.userId ≠ userId) })
  | .profile =>
      (match t.users.find? (·.id = userId) with
        | none => refusal 404 "NOT_FOUND" "User not found"
        | some u => .json 200 (.object [("created_at", Account.timeValue u.createdAt),
            ("email", .text u.email), ("role", .text u.role.name), ("user_id", .text u.id.text)]),
        t)
  | _ =>
      (.json 200 (.object [("admin_id", .text userId.text), ("email", .text email),
        ("message", .text "Admin access granted")]), t)

section
variable {σ ε : Type} (tokens : Token.Config) (hashing : Password.Hasher) (l : RateLimit.Limits)
  (counter : RateLimit.Counter (PanicM σ) ε) (at_ : Moment) (r : Request) (t : Tables)

theorem logoutAll_inMemory (userId : Uuid) :
    (inMemory tokens hashing).logoutAll userId t
      = (.ok (t.sessionCount userId), withoutSessionsOf t userId) := by
  have ended : (t.sessions.filter fun x => !decide (x.userId ≠ userId)).length
      = t.sessionCount userId := by
    simp [Tables.sessionCount]
  rw [← ended]
  rfl

theorem user_inMemory (id : Uuid) :
    (inMemory tokens hashing).user id t = ((t.user? id).elim (.error .userNotFound) .ok, t) := by
  rw [Service.user, bind_apply, Service.run_inMemory, Tables.run]
  cases t.user? id <;> rfl

theorem handle_personal {route : Route} (personal : route ∈ Route.personal) (c : Caller) (w : σ) :
    handle (hosted (inMemory tokens hashing) l counter) at_ r (some c) route (w, t)
      = (.ok (personalAnswer t c.userId c.email route).1,
        (w, (personalAnswer t c.userId c.email route).2)) := by
  obtain rfl | rfl | rfl := Route.personal_cases personal
  · simp only [handle, withCaller, requireCaller, logoutAll, hosted]
    rw [logoutAll_lift, PanicM.bind_apply, onSecond, logoutAll_inMemory]
    rfl
  · simp only [handle, withCaller, requireCaller, profile, hosted]
    rw [user_lift, PanicM.bind_apply, onSecond, user_inMemory, personalAnswer, ← Tables.user?]
    cases t.user? c.userId <;> rfl
  · rfl

end

/-- The routes that need a caller, asked with their own method. Over every store, the route is run
for a caller exactly if the request presents an access token that is valid, of an administrator
where that is needed, and the caller is the user, the address and the role that the token names.
It is run for nobody exactly if there is a reason to refuse; each reason is answered by its status
and code, and nothing changes. Whoever passes is served for the user of the token: the sessions of
that user are ended and counted, the row of that user is shown. -/
theorem personal_routes_guarded (tokens : Token.Config) (at_ : Moment) {r : Request} {route : Route}
    (personal : route ∈ Route.personal) (path : pathOf r.target = base ++ route.path)
    (method : r.method = route.method) :
    let permits := Permits tokens at_.now.seconds r.headers route
    let refused := Refused tokens at_.now.seconds r.headers route
    (∀ {σ ε : Type} (app : App (PanicM σ) ε) (s : σ), app.service.tokens = tokens →
      (∀ c, Runs app at_ r route s c ↔
        ∃ claims, permits claims ∧ c = ⟨claims.userId, claims.email, claims.role⟩) ∧
      (∀ c, Runs app at_ r route s c → answer app at_ r s = handle app at_ r (some c) route s) ∧
      ((∀ c, ¬ Runs app at_ r route s c) ↔ ∃ status code, refused status code) ∧
      ∀ status code, refused status code →
        ∃ message, answer app at_ r s = (.ok (refusal status code message), s)) ∧
    ∀ {σ ε : Type} (hashing : Password.Hasher) (l : RateLimit.Limits)
      (counter : RateLimit.Counter (PanicM σ) ε) (w : σ) (t : Tables) (claims : Claims),
      permits claims →
      let served := personalAnswer t claims.userId claims.email route
      answer (hosted (inMemory tokens hashing) l counter) at_ r (w, t)
        = (.ok served.1, (w, served.2)) := by
  intro permits refused
  have versioned : route ∈ Route.versioned := by
    obtain rfl | rfl | rfl := Route.personal_cases personal <;> decide
  constructor
  · intro σ ε app s same
    subst same
    have asked := congrFun (answer_eq_guarded app at_ versioned path method) s
    have runs := runs_iff (r := r) app at_ personal s
    refine ⟨runs, fun c run => asked.trans (run _), ⟨fun nobody => ?_, ?_⟩, ?_⟩
    · exact exists_refused fun claims allowed => nobody _ ((runs _).2 ⟨claims, allowed, rfl⟩)
    · intro ⟨status, code, reason⟩
      exact not_runs_of_refused app at_ personal reason s
    · intro status code reason
      obtain ⟨message, refuses⟩ := guarded_of_refused app at_ personal reason
      refine ⟨message, ?_⟩
      rw [asked, refuses]
      rfl
  · intro σ ε hashing l counter w t claims allowed served
    rw [answer_eq_guarded _ _ versioned path method,
      guarded_of_permits _ _ personal allowed, handle_personal tokens hashing l counter at_ r t
        personal]
    rfl

/-- A user with two sessions ends them all, while the session of another user stays, and is sent
away from the route of administrators. -/
theorem personal_routes_guarded_plain_user :
    let tokens : Token.Config := { secret := "k" }
    let claims := tokens.claims .access ⟨5⟩ "a@b.cd" .user 10 ⟨2⟩
    let hs := bearing (tokens.issue .access ⟨5⟩ "a@b.cd" .user 10 ⟨2⟩)
    let leave : Request := { method := "POST", target := "/api/v1/logout-all", headers := hs }
    let manage : Request := {
      method := "GET", target := "/api/v1/admin/users?page=2", headers := hs }
    let at_ : Moment := ⟨⟨20, 0⟩, ⟨20, 0⟩, ⟨⟨3⟩, ⟨4⟩, ⟨6⟩, []⟩, "p"⟩
    let session (id userId : Uuid) (token : String) : Account.Session :=
      ⟨id, userId, token, "", "", ⟨100, 0⟩, ⟨10, 0⟩⟩
    let t : Tables := {
      sessions := [session ⟨6⟩ ⟨5⟩ "x", session ⟨7⟩ ⟨9⟩ "y", session ⟨8⟩ ⟨5⟩ "z"] }
    let app := hosted (ε := Empty) (inMemory tokens {}) {} (RateLimit.memory 0)
    (claims.userId = ⟨5⟩ ∧ claims.email = "a@b.cd" ∧ claims.role = .user) ∧
      Runs app at_ leave .logoutAll ([], t) ⟨⟨5⟩, "a@b.cd", .user⟩ ∧
      answer app at_ leave ([], t)
        = (.ok (.json 200 (.object [("message", .text "Logged out from all sessions"),
            ("sessions_revoked", .ofNat 2)])), ([], { sessions := [session ⟨7⟩ ⟨9⟩ "y"] })) ∧
      ∃ text, answer app at_ manage ([], t) = (.ok (refusal 403 "FORBIDDEN" text), ([], t)) := by
  intro tokens claims hs leave manage at_ session t app
  have permits : Permits tokens at_.now.seconds hs .logoutAll claims :=
    permits_issue tokens ⟨5⟩ "a@b.cd" .user ⟨2⟩ (by decide) (by decide) (by decide) nofun
  have refused : Refused tokens at_.now.seconds hs .adminUsers 403 "FORBIDDEN" := by
    obtain ⟨token, presents, valid⟩ := permits.valid
    exact .otherRole presents valid rfl nofun
  have personal : Route.logoutAll ∈ Route.personal := by decide
  have path : pathOf leave.target = base ++ Route.logoutAll.path := by decide
  have personal' : Route.adminUsers ∈ Route.personal := by decide
  have path' : pathOf manage.target = base ++ Route.adminUsers.path := by decide
  obtain ⟨gate, served⟩ := personal_routes_guarded tokens at_ personal path rfl
  obtain ⟨gate', -⟩ := personal_routes_guarded tokens at_ personal' path' rfl
  obtain ⟨runs, -⟩ := gate app ([], t) rfl
  obtain ⟨-, -, -, told⟩ := gate' app ([], t) rfl
  exact ⟨⟨rfl, rfl, rfl⟩, (runs _).2 ⟨claims, permits, rfl⟩,
    served {} {} _ [] t claims permits, told _ _ refused⟩

end Gatehouse.Api
