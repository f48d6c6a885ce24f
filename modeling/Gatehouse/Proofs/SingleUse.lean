import Gatehouse.Proofs.Run
import Gatehouse.Proofs.Validation
import Mathlib.Data.List.Nodup

/-!
Reset tokens are good for one change of a password. The row of a token that was used says so
until a sweep takes it away, and no row of that token comes again.
-/

namespace Gatehouse.Service

open Account (User Session Reset)
open Store (Tables)

/-- Why a token is refused that was used: the claims are those that it carries, the row is the
one that it had. -/
def refusal (claims : Token.Claims) (r : Reset) (now : Timestamp) (swept : Bool) : Error :=
  if claims.expires < now.seconds then .tokenExpired
  else if swept then .invalidToken
  else if r.isExpired now then .passwordResetExpired
  else .passwordResetUsed

/-- Whenever a token is tried after a run, it is refused and nothing is changed. -/
def RefusedAfter (s : Service (StateM Tables)) (run after : List Event) (token : String)
    (claims : Token.Claims) (r : Reset) : Prop :=
  ∀ middle password now later salt rest,
    after = middle ++ .resetPassword token password now later salt :: rest →
    let t := (history s (run ++ middle)).tables
    (Event.resetPassword token password now later salt).serve s t
      = (.change (.error (refusal claims r now (middle.any Event.isSweep))), t)

/-- A password was changed with a token. -/
def isChange (token : String) : Event × Answer → Bool
  | (.resetPassword token' _ _ _ _, .change (.ok _)) => token' = token
  | _ => false

theorem eq_resetPassword_of_isChange {token : String} {x : Event × Answer}
    (h : isChange token x = true) :
    ∃ password now later salt, x.1 = .resetPassword token password now later salt ∧
      x.2.isOk = true := by
  unfold isChange at h
  split at h
  next => exact ⟨_, _, _, _, by rw [of_decide_eq_true h], rfl⟩
  next => cases h

/-- What has become of a reset that was used: its row says so, or a sweep took it away. -/
structure Used (c : Token.Config) (ids : List Uuid) (t : Tables) (r : Reset) (swept : Bool) :
    Prop where
  issued : Issued c ids r.token
  owner : (t.user? r.userId).isSome = true
  row : swept = false → ∃ q, t.resetOf? r.token = some q ∧ q.userId = r.userId ∧
    q.expiresAt = r.expiresAt ∧ q.isUsed = true
  gone : swept = true → t.resetOf? r.token = none

section
variable {t : Tables}

theorem resetOf?_withReset (t : Tables) {r : Reset} {token : String} (other : r.token ≠ token) :
    (withReset t r).resetOf? token = t.resetOf? token := by
  rw [Tables.resetOf?, withReset, List.find?_append, ← Tables.resetOf?]
  simp [other]

theorem resetOf?_withDigest (t : Tables) (r : Reset) (u : User) (hash : String)
    (at_ : Timestamp) (token : String) :
    (withDigest t r u hash at_).resetOf? token = (t.resetOf? token).map fun q =>
      if q.id = r.id then { q with usedAt := some at_ } else q := by
  change (t.resets.map _).find? _ = _
  rw [find?_changed]
  · rfl
  · exact fun _ => rfl

theorem resetOf?_swept (unique : (resetTokens t).Nodup) {token : String} {q : Reset}
    (h : t.resetOf? token = some q) (used : q.isUsed = true) (now : Timestamp) :
    (Service.swept t now).resetOf? token = none := by
  obtain ⟨hq, rfl⟩ := mem_of_resetOf? h
  rw [resetOf?_eq_none_iff]
  intro ht
  obtain ⟨r, hr, same⟩ := List.mem_map.1 ht
  rw [Service.swept, List.mem_filter] at hr
  have eq := List.inj_on_of_nodup_map unique hr.1 hq same
  have free := hr.2
  rw [eq, Tables.isClaimable, used] at free
  cases free

end

section
variable {s : Service (StateM Tables)} {t t' : Tables} {e : Event} {a : Answer}
  {ids : List Uuid}

theorem Step.user?_isSome (step : Step s t e a t') {id : Uuid}
    (h : (t.user? id).isSome = true) : (t'.user? id).isSome = true := by
  rw [Tables.user?, List.find?_isSome] at h ⊢
  obtain ⟨v, hv, same⟩ := h
  cases step with
  | refused | late | absent | lapsed | closed | allClosed | opened | renewed | requested
  | swept => exact ⟨v, hv, same⟩
  | registered => exact ⟨v, List.mem_append_left _ hv, same⟩
  | changed =>
      refine ⟨_, List.mem_map_of_mem hv, ?_⟩
      split <;> exact same

/-- A reset that was used stays so until it is swept away, and is not made again. -/
theorem Used.step {r : Reset} {swept : Bool} (h : Used s.tokens ids t r swept)
    (recorded : Recorded s.tokens ids t) (apart : ids.Disjoint e.drawn) (step : Step s t e a t') :
    Used s.tokens (ids ++ e.drawn) t' r (swept || e.isSweep) where
  issued := h.issued.mono (List.subset_append_left _ _)
  owner := step.user?_isSome h.owner
  row := by
    intro unswept
    obtain ⟨before, other⟩ := Bool.or_eq_false_iff.1 unswept
    obtain ⟨q, hq, own, ending, used⟩ := h.row before
    cases step with
    | refused | late | absent | lapsed | closed | allClosed | opened | renewed | registered =>
        exact ⟨q, hq, own, ending, used⟩
    | @requested email now draws u known new unknown =>
        have issued : Issued s.tokens (Event.requestReset email now draws).drawn
            (resetToken s u now draws) := issued_resetToken s u now (by simp [Event.drawn])
        have other : (s.resetFor u (resetToken s u now draws) now draws).token ≠ r.token :=
          fun same => h.issued.disjoint (same ▸ issued) apart
        refine ⟨q, ?_, own, ending, used⟩
        rw [resetOf?_withReset t other]
        exact hq
    | @changed token password now later salt claims u q' r' hash =>
        have row := resetOf?_withDigest t q' u hash later r.token
        rw [hq, Option.map_some] at row
        refine ⟨_, row, ?_⟩
        split
        · exact ⟨own, ending, rfl⟩
        · exact ⟨own, ending, used⟩
    | swept => cases other
  gone := by
    intro gone
    -- it was gone already, or this is the sweep that takes it
    cases before : swept with
    | true =>
        rw [resetOf?_eq_none_iff]
        intro ht
        rcases step.turnover_resets.mem ht with ht | issued
        · exact resetOf?_eq_none_iff.1 (h.gone before) ht
        · exact h.issued.disjoint issued apart
    | false =>
        rw [before, Bool.false_or] at gone
        obtain ⟨q, hq, -, -, used⟩ := h.row before
        cases step with
        | refused failed early asked =>
            rw [asked] at gone
            cases gone
        | late | absent | lapsed | closed | allClosed | opened | renewed | registered | requested
        | changed => cases gone
        | swept => exact resetOf?_swept recorded.resetTokens hq used _

/-- What is claimed by the identifier of a row is the row itself, so that is free. -/
theorem free_of_claimed (unique : (t.resets.map (·.id)).Nodup) {q r : Reset} (hr : r ∈ t.resets)
    {at_ : Timestamp} (claimed : t.reset? r.id = some q) (free : Tables.isClaimable q at_ = true) :
    r.usedAt = none ∧ at_ ≤ r.expiresAt := by
  have found : t.reset? r.id = some r := find?_key unique hr
  obtain rfl : q = r := Option.some.inj (claimed.symm.trans found)
  obtain ⟨unused, lasting⟩ := Bool.and_eq_true_iff.1 free
  have early : ¬ q.expiresAt < at_ := by simpa [Reset.isExpired] using lasting
  exact ⟨by simpa [Reset.isUsed] using unused, early⟩

/-- A change takes a row that is unused and not past its last moment, and uses it. -/
theorem Step.used {token password : String} {now later : Timestamp} {salt : Bytes}
    (recorded : Recorded s.tokens ids t)
    (step : Step s t (.resetPassword token password now later salt) a t') (ok : a.isOk = true) :
    ∃ claims r, s.tokens.validate .reset now.seconds token = .ok claims ∧
      t.resetOf? token = some r ∧ r.usedAt = none ∧ later ≤ r.expiresAt ∧
      r.userId = claims.userId ∧ Used s.tokens ids t' r false := by
  have stays : ∀ id, (t.user? id).isSome = true → (t'.user? id).isSome = true :=
    fun _ => step.user?_isSome
  cases step with
  | refused failed =>
      rw [failed] at ok
      cases ok
  | @changed _ _ _ _ _ claims u r q hash valid known behind own unused claimed free =>
      obtain ⟨hr, rfl⟩ := mem_of_resetOf? behind
      obtain ⟨unused, lasting⟩ := free_of_claimed recorded.resetIds hr claimed free
      have owner : u.id = claims.userId := by simpa using List.find?_some known
      refine ⟨claims, r, valid, behind, unused, lasting, own.trans owner, ?_, ?_, ?_, nofun⟩
      · exact recorded.resets _ (List.mem_map_of_mem hr)
      · exact stays _ (by rw [own, owner, known]; rfl)
      · intro _
        have row := resetOf?_withDigest t r u hash later r.token
        rw [behind, Option.map_some, if_pos rfl] at row
        exact ⟨_, row, rfl, rfl, rfl⟩

end

section
variable {tokens : Token.Config} {hashing : Password.Hasher} {t : Tables}
  {token password : String} {now later : Timestamp} {salt : Bytes} {claims : Token.Claims}

theorem resetPassword_of_free {hash : String} {u : User} {r : Reset}
    (valid : tokens.validate .reset now.seconds token = .ok claims)
    (known : t.user? claims.userId = some u) (behind : t.resetOf? token = some r)
    (own : r.userId = u.id) (early : r.isExpired now = false) (claimed : t.reset? r.id = some r)
    (free : Tables.isClaimable r later = true)
    (hashed : Password.hash hashing.settings salt password = .ok hash) :
    (inMemory tokens hashing).resetPassword token password now later salt t
      = (.ok {}, withoutSessionsOf (withDigest t r u hash later) u.id) := by
  have unused : r.isUsed = false := by
    cases h : r.isUsed with
    | false => rfl
    | true => simp [Tables.isClaimable, h] at free
  have found : (t.user? u.id).isSome = true := by
    have id : u.id = claims.userId := by simpa using List.find?_some known
    rw [id, known]
    rfl
  have consumed : Tables.consumeReset r.id (rehashed u hash later) later t
      = (.ok (), withDigest t r u hash later) := by
    simp only [Tables.consumeReset, claimed, free, found, Bool.and_self, if_true]
    rfl
  have tokens_eq : (inMemory tokens hashing).tokens = tokens := rfl
  have hashing_eq : (inMemory tokens hashing).hashing = hashing := rfl
  simp only [Service.resetPassword, tokens_eq, valid, user, bind_apply, run_inMemory, Tables.run,
    known, Tables.orNotFound, pure_apply, behind]
  rw [if_neg (Decidable.not_not.2 own)]
  simp only [early, unused, Bool.false_eq_true, if_false, hashing_eq, hashed, commitReset,
    bind_apply, run_inMemory, Tables.run, consumed]
  rfl

theorem Used.resetPassword {ids : List Uuid} {r : Reset} {swept : Bool}
    (h : Used tokens ids t r swept) (own : r.userId = claims.userId)
    (valid : tokens.validate .reset now.seconds r.token
      = if claims.expires < now.seconds then .error .expired else .ok claims) :
    (inMemory tokens hashing).resetPassword r.token password now later salt t
      = (.error (refusal claims r now swept), t) := by
  have tokens_eq : (inMemory tokens hashing).tokens = tokens := rfl
  simp only [Service.resetPassword, tokens_eq, valid, refusal]
  by_cases late : claims.expires < now.seconds
  · simp only [if_pos late]
    rfl
  · simp only [if_neg late, user, bind_apply, run_inMemory, Tables.run]
    obtain ⟨u, known⟩ := Option.isSome_iff_exists.1 h.owner
    have id : u.id = r.userId := by simpa using List.find?_some known
    rw [own] at known
    simp only [known, Tables.orNotFound, pure_apply, bind_apply, run_inMemory, Tables.run]
    cases swept with
    | true =>
        simp only [h.gone rfl]
        rfl
    | false =>
        obtain ⟨q, hq, qown, ending, used⟩ := h.row rfl
        have expired : q.isExpired now = r.isExpired now := by
          rw [Reset.isExpired, Reset.isExpired, ending]
        rw [hq]
        dsimp only
        rw [if_neg (by simp [id, qown])]
        simp only [expired, used]
        cases r.isExpired now <;> rfl

end

theorem seconds_le {a b : Timestamp} (h : a ≤ b) : a.seconds ≤ b.seconds := by
  rw [Timestamp.le_def, Timestamp.lt_def] at h
  omega

section
variable (tokens : Token.Config) (hashing : Password.Hasher) {es : List Event} {e : Event}

theorem used_history {later : List Event} (h : Distinct (es ++ later)) {r : Reset} {swept : Bool}
    (used : Used tokens (drawnBy es) (history (inMemory tokens hashing) es).tables r
      swept) :
    Used tokens (drawnBy (es ++ later))
      (history (inMemory tokens hashing) (es ++ later)).tables r
      (swept || later.any Event.isSweep) := by
  induction later using List.reverseRecOn with
  | nil => simpa using used
  | append_singleton later e ih =>
      rw [← List.append_assoc] at h ⊢
      have recorded := recorded_history tokens hashing h.init
      rw [drawnBy_concat, List.any_append, List.any_cons, List.any_nil, Bool.or_false,
        ← Bool.or_assoc]
      exact (ih h.init).step recorded h.disjoint (step_history tokens hashing _ e)

theorem Used.refusedAfter {run after : List Event} {claims : Token.Claims} {r : Reset} {now : Int}
    (distinct : Distinct (run ++ after))
    (used : Used tokens (drawnBy run) (history (inMemory tokens hashing) run).tables r
      false)
    (own : r.userId = claims.userId) (valid : tokens.validate .reset now r.token = .ok claims)
    (ordered : ∀ e ∈ after, ∀ x ∈ e.times, now ≤ x.seconds) :
    RefusedAfter (inMemory tokens hashing) run after r.token claims r := by
  rintro middle password now' later salt rest rfl t
  have le : now ≤ now'.seconds :=
    ordered (.resetPassword r.token password now' later salt) (by simp) now' (by simp [Event.times])
  rw [← List.append_assoc] at distinct
  have still := used_history tokens hashing distinct.init used
  have refused : (inMemory tokens hashing).resetPassword r.token password now' later salt t
      = (.error (refusal claims r now' (middle.any Event.isSweep)), t) :=
    still.resetPassword own (Token.Config.validate_of_le valid le)
  simp only [Event.serve, bind_apply, pure_apply, refused]

theorem change_spends (ordered : Ordered es) (distinct : Distinct es) {before after : List Event}
    {token password : String} {now later : Timestamp} {salt : Bytes}
    (split : es = before ++ .resetPassword token password now later salt :: after)
    (ok : (answerAfter (inMemory tokens hashing) before
      (.resetPassword token password now later salt)).isOk = true) :
    ∃ claims r, tokens.validate .reset now.seconds token = .ok claims ∧
      (history (inMemory tokens hashing) before).tables.resetOf? token = some r ∧
      r.usedAt = none ∧ later ≤ r.expiresAt ∧
      RefusedAfter (inMemory tokens hashing)
        (before ++ [.resetPassword token password now later salt]) after token claims r := by
  subst split
  rw [List.append_cons] at distinct
  obtain ⟨claims, r, valid, behind, unused, lasting, own, used⟩ :=
    (step_history tokens hashing before _).used
      (recorded_history tokens hashing distinct.init.init) ok
  refine ⟨claims, r, valid, behind, unused, lasting, ?_⟩
  obtain ⟨-, rfl⟩ := mem_of_resetOf? behind
  refine Used.refusedAfter tokens hashing distinct ?_ own valid ?_
  · rw [drawnBy_concat, Event.drawn, List.append_nil]
    exact used
  · intro e he x hx
    exact seconds_le (ordered.le he (by simp [Event.times]) hx)

theorem not_isChange_of_change (ordered : Ordered (es ++ [e])) (distinct : Distinct (es ++ [e]))
    {token : String} {x : Event × Answer} (hx : x ∈ (history (inMemory tokens hashing) es).log)
    (change : isChange token x = true) :
    isChange token (e, answerAfter (inMemory tokens hashing) es e) = false := by
  obtain ⟨before, after, split, answer⟩ := eq_append_of_mem_log _ _ hx
  obtain ⟨password, now, later, salt, first, ok⟩ := eq_resetPassword_of_isChange change
  rw [first] at split answer
  rw [answer] at ok
  subst split
  obtain ⟨claims, r, -, -, -, -, refused⟩ := change_spends tokens hashing ordered distinct
    (List.append_assoc before (_ :: after) [e]) ok
  refine Bool.eq_false_iff.2 fun again => ?_
  -- the earlier change has settled how this one is answered
  obtain ⟨password', now', later', salt', rfl, ok'⟩ := eq_resetPassword_of_isChange again
  have told := congrArg Prod.fst (refused after password' now' later' salt' [] rfl)
  rw [← List.append_cons] at told
  rw [answerAfter, told] at ok'
  cases ok'

/-- A reset token changes a password once at most. It does so with a row that is unused and not
past its last moment; whenever it is tried afterwards, it is refused as expired once its claims
say so, else as invalid if there was a sweep, else by what the row says. -/
theorem reset_single_use (ordered : Ordered es) (distinct : Distinct es) (token : String) :
    let s := inMemory tokens hashing
    (∀ before password now later salt after,
      let e := Event.resetPassword token password now later salt
      es = before ++ e :: after → (answerAfter s before e).isOk = true →
      ∃ claims r, s.tokens.validate .reset now.seconds token = .ok claims ∧
        (history s before).tables.resetOf? token = some r ∧ r.usedAt = none ∧
        later ≤ r.expiresAt ∧ RefusedAfter s (before ++ [e]) after token claims r) ∧
    ((history s es).log.filter (isChange token)).length ≤ 1 := by
  refine ⟨?_, ?_⟩
  · intro before password now later salt after e split ok
    exact change_spends tokens hashing ordered distinct split ok
  induction es using List.reverseRecOn with
  | nil => exact Nat.zero_le _
  | append_singleton es e ih =>
      rw [history_concat, List.filter_append, List.length_append]
      cases change : isChange token (e, answerAfter (inMemory tokens hashing) es e) with
      | false =>
          rw [List.filter_cons_of_neg (by simp [change])]
          exact ih ordered.init distinct.init
      | true =>
          have none : (history (inMemory tokens hashing) es).log.filter (isChange token) = [] := by
            rw [List.filter_eq_nil_iff]
            intro x hx before
            rw [not_isChange_of_change tokens hashing ordered distinct hx before] at change
            cases change
          rw [none, List.filter_cons_of_pos change]
          exact Nat.le_refl 1

end

def sampleTokens : Token.Config := { secret := "k" }

def sampleUser : Uuid := ⟨1⟩

def sampleSalt : Bytes := List.replicate 16 0

/-- A user registers and requests a reset ten seconds later. -/
def sampleRun : List Event := [
  .register "a@b.cd" "first" none ⟨0, 0⟩ ⟨⟨0⟩, ⟨0⟩, sampleUser, sampleSalt⟩,
  .requestReset "a@b.cd" ⟨10, 0⟩ ⟨⟨2⟩, ⟨0⟩, ⟨3⟩, []⟩]

def sampleClaims : Token.Claims := sampleTokens.claims .reset sampleUser "a@b.cd" .user 10 ⟨2⟩

def sampleToken : String := sampleTokens.issue .reset sampleUser "a@b.cd" .user 10 ⟨2⟩

def sampleReset : Reset := ⟨⟨3⟩, sampleUser, sampleToken, ⟨3610, 0⟩, ⟨10, 0⟩, none⟩

theorem sampleTokens_validate {now : Int} (h : 10 ≤ now) (h' : now ≤ 3610) :
    sampleTokens.validate .reset now sampleToken = .ok sampleClaims := by
  have read : (Token.verified? sampleTokens.secret sampleToken).bind Token.claims?
      = some sampleClaims := by
    rw [sampleToken, Token.Config.issue, Token.verified?_sign]
    decide +kernel
  have grants : sampleTokens.Grants now sampleClaims := ⟨rfl, rfl, rfl, by decide, h, h'⟩
  rw [Token.Config.validate_eq_ok_iff, Token.Config.decode, read]
  exact ⟨Token.Config.checkClaims_eq_ok_iff.2 ⟨rfl, grants⟩, rfl⟩

theorem tables_sampleRun : ∃ u, u.id = sampleUser ∧
    (history (inMemory sampleTokens {}) sampleRun).tables = ⟨[u], [], [sampleReset]⟩ :=
  ⟨⟨sampleUser, "a@b.cd", _, .user, ⟨0, 0⟩, ⟨0, 0⟩⟩, rfl, rfl⟩

theorem reset_single_use_sampleRun :
    let s := inMemory sampleTokens {}
    let change := Event.resetPassword sampleToken "second" ⟨20, 0⟩ ⟨21, 0⟩ sampleSalt
    let again := Event.resetPassword sampleToken "third" ⟨30, 0⟩ ⟨31, 0⟩ sampleSalt
    Ordered (sampleRun ++ [change, again]) ∧ Distinct (sampleRun ++ [change, again]) ∧
      (answerAfter s sampleRun change).isOk = true ∧
      answerAfter s (sampleRun ++ [change]) again = .change (.error .passwordResetUsed) := by
  intro s change again
  have ordered : Ordered (sampleRun ++ [change, again]) := by decide
  have distinct : Distinct (sampleRun ++ [change, again]) := by decide
  obtain ⟨u, hu, tables⟩ := tables_sampleRun
  have valid : sampleTokens.validate .reset (Timestamp.mk 20 0).seconds sampleToken
      = .ok sampleClaims := sampleTokens_validate (by decide) (by decide)
  have known : (Tables.mk [u] [] [sampleReset]).user? sampleClaims.userId = some u := by
    rw [Tables.user?, List.find?_cons_of_pos (by simp [hu, sampleClaims, Token.Config.claims])]
  have behind : (Tables.mk [u] [] [sampleReset]).resetOf? sampleToken = some sampleReset := by
    rw [Tables.resetOf?, List.find?_cons_of_pos (by simp [sampleReset])]
  obtain ⟨hash, hashed⟩ :
      ∃ hash, Password.hash ({} : Password.Hasher).settings sampleSalt "second" = .ok hash :=
    ⟨_, rfl⟩
  have ok : (answerAfter s sampleRun change).isOk = true := by
    have free : Tables.isClaimable sampleReset (Timestamp.mk 21 0) = true := rfl
    have done := resetPassword_of_free valid known behind hu.symm rfl rfl free hashed
    rw [answerAfter, tables, Event.serve, bind_apply, done]
    rfl
  obtain ⟨claims, r, valid', behind', -, -, refused⟩ :=
    (reset_single_use sampleTokens {} ordered distinct sampleToken).1 _ _ _ _ _ _ rfl ok
  rw [tables, behind, Option.some.injEq] at behind'
  have same : claims = sampleClaims := Except.ok.inj (valid'.symm.trans valid)
  subst same behind'
  have told := refused [] "third" ⟨30, 0⟩ ⟨31, 0⟩ sampleSalt [] rfl
  have why : refusal sampleClaims sampleReset ⟨30, 0⟩ false = .passwordResetUsed := by decide
  dsimp only at told
  rw [List.append_nil, List.any_nil, why] at told
  refine ⟨ordered, distinct, ok, ?_⟩
  rw [answerAfter]
  exact congrArg Prod.fst told

end Gatehouse.Service
