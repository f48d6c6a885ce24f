import Gatehouse.Api.Router
import Gatehouse.Proofs.FailOpen
import Gatehouse.Settings.Application

/-!
The numbers of the limiter, for every limit that the environment can set. The window is counted
in words of 64 bits: a key is to live for a minute longer than its window, and where that does
not fit a word, or the clock cannot tell the deadline, the request breaks off with its member
added. So it does where the second at which the window is over does not fit a word. All else
stays within its bounds.
-/

namespace Gatehouse.RateLimit

open Settings (Environment)

theorem Environment.positive_bounds (env : Environment) (name : String) (default : Nat)
    (fits : 0 < default ∧ default ≤ Bounds.max64) :
    0 < env.positive name default ∧ env.positive name default ≤ Bounds.max64 := by
  rw [Environment.positive]
  cases read : ((env.get? name).bind (Text.natural? Bounds.max64)).filter (0 < ·) with
  | none => exact fits
  | some n =>
      obtain ⟨found, positive⟩ := Option.filter_eq_some_iff.1 read
      obtain ⟨text, -, number⟩ := Option.bind_eq_some_iff.1 found
      rw [Text.natural?] at number
      have bounded := (Option.filter_eq_some_iff.1 number).2
      exact ⟨of_decide_eq_true positive, of_decide_eq_true bounded⟩

theorem limits_positive (env : Environment) :
    0 < (Settings.limits env).maxRequests.toNat ∧
      0 < (Settings.limits env).windowSeconds.toNat := by
  have requests := Environment.positive_bounds env "RATE_LIMIT_MAX_REQUESTS" 100 (by decide)
  have window := Environment.positive_bounds env "RATE_LIMIT_WINDOW_SECS" 60 (by decide)
  simp only [Bounds.max64] at requests window
  simp only [Settings.limits, UInt64.toNat_ofNat']
  omega

theorem clampTime_le (t : Int) : clampTime t ≤ maxTime := by
  have order : minTime ≤ maxTime := by decide
  rw [clampTime]
  omega

/-- A time to wait is told in seconds, of which the bounds of times hold few. -/
theorem secondsUntil_bounds (oldest window now : Int) :
    1 ≤ secondsUntil oldest window now ∧ secondsUntil oldest window now ≤ Bounds.max64 := by
  have within := clampTime_le (clampTime (oldest + window) - now)
  simp only [maxTime, Bounds.maxSigned] at within
  rw [secondsUntil]
  simp only [Bounds.max64]
  split <;> omega

variable {ε : Type}

theorem Attempt.seconds_bounds (l : Limits) (a : Attempt ε) (ws : Windows) :
    1 ≤ a.seconds l ws ∧ a.seconds l ws ≤ Bounds.max64 := by
  rw [seconds]
  split
  · exact secondsUntil_bounds _ _ _
  · have word := l.windowSeconds.toNat_lt
    simp only [Bounds.max64]
    omega

/-- A request of which no call is lost. -/
def Arrival.attempt (a : Arrival) : Attempt ε := ⟨a, fun _ => none⟩

section
variable (l : Limits) (a : Arrival) (ws : Windows)

/-- There is something under a key that has been added to. -/
theorem extended_attempt (word : l.windowSeconds.toNat + 60 ≤ Bounds.max64) :
    let e : Attempt ε := a.attempt
    let deadline := a.instant + (l.windowSeconds.toNat + 60) * 1000
    e.extended l (e.added ws) =
      if deadline ≤ maxInstant then .ok ((e.added ws).setDeadline a.key deadline)
      else .error .instant := by
  intro e deadline
  have seconds : (l.windowSeconds + grace).toNat = l.windowSeconds.toNat + 60 := toNat_addWords word
  have stored : ∃ w, (e.added ws).get? a.key = some w :=
    ⟨_, (Windows.get?_put _ _ _ _).trans (if_pos rfl)⟩
  obtain ⟨w, stored⟩ := stored
  have kept : e.lost (e.expireCall l) = none := rfl
  have own : (e.added ws).get? e.key = some w := stored
  have told : deadline? e.instant (l.windowSeconds + grace)
      = if deadline ≤ maxInstant then some deadline else none := by
    rw [deadline?, seconds]
    rfl
  rw [Attempt.extended, kept, own, told]
  by_cases fits : deadline ≤ maxInstant
  · rw [if_pos fits, if_pos fits]
    rfl
  · rw [if_neg fits, if_neg fits]

theorem serve_attempt :
    let e : Attempt ε := a.attempt
    let kept := e.kept l ws
    let n := kept.count a.instant a.key
    let deadline := a.instant + (l.windowSeconds.toNat + 60) * 1000
    let calls := [e.evictCall l, e.countCall, e.addCall]
    e.serve l ws =
      if l.maxRequests.toNat ≤ n then
        ⟨.ok (.error ⟨n, e.seconds l kept⟩), [e.evictCall l, e.countCall, e.earliestCall], kept⟩
      else if l.windowSeconds.toNat + 60 ≤ Bounds.max64 then
        if deadline ≤ maxInstant then
          ⟨.ok (.ok (n + 1)), calls ++ [e.expireCall l],
            (e.added kept).setDeadline a.key deadline⟩
        else ⟨.error .instant, calls ++ [e.expireCall l], e.added kept⟩
      else ⟨.error .overflow, calls, e.added kept⟩ := by
  intro e kept n deadline calls
  have whole : e.lost (e.evictCall l) = none ∧ e.lost e.countCall = none := ⟨rfl, rfl⟩
  rw [Attempt.serve_eq, whole.1, whole.2]
  dsimp only
  refine if_congr Iff.rfl rfl ?_
  split
  next word =>
    have extended := extended_attempt (ε := ε) l a kept word
    rw [extended]
    by_cases fits : deadline ≤ maxInstant
    · rw [if_pos fits, if_pos fits]
      rfl
    · rw [if_neg fits, if_neg fits]
      rfl
  next => rfl

end

/-- The second at which a window is over breaks off a request that is admitted, before its route
sees it, unless it fits a word. -/
theorem limited_of_admitted {service : Service (PanicM Noted)} {l : Limits}
    {counter : Counter (PanicM Noted) ε} {at_ : Api.Moment} {r : Api.Request} {route : Api.Route}
    {next : PanicM Noted Api.Reply} {s : Noted} {n : Nat}
    (word : at_.now.seconds.toNat ≤ Bounds.max64)
    (admitted : (check l counter (key (clientAddress r.headers r.peer) route.path) at_.suffix
      at_.now.millis s).1 = .ok (.ok n)) :
    let left := (check l counter (key (clientAddress r.headers r.peer) route.path) at_.suffix
      at_.now.millis s).2
    let ends := at_.now.seconds.toNat + l.windowSeconds.toNat
    Api.limited ⟨service, l, counter⟩ at_ r route next s =
      if ends ≤ Bounds.max64 then
        (do
          let reply ← next
          pure { reply with response := Api.tellLimit l (.ofNat ends) n reply.response }) left
      else (.error .overflow, left) := by
  intro left ends
  have now : (UInt64.ofNat at_.now.seconds.toNat).toNat = at_.now.seconds.toNat := by
    rw [UInt64.toNat_ofNat']
    exact Nat.mod_eq_of_lt (Nat.lt_succ_of_le word)
  have sum : UInt64.ofNat at_.now.seconds.toNat + l.windowSeconds = UInt64.ofNat ends := by
    rw [UInt64.ofNat_add, UInt64.ofNat_toNat]
  rw [Api.limited, PanicM.bind_apply, admitted]
  dsimp only
  rw [Api.windowEnd, PanicM.addWords_bind_apply, now, sum]

/-- For every limit of the environment, every request of which no call is lost and all windows.
A request for which there is no room is told a time to wait that fits a word. For any other a
minute is added to the window: the request breaks off if the sum does not fit a word, and if the
clock cannot tell the deadline. Else it is told a number up to the limit, its last call sets the
lifetime of the key to a minute more than the window, and the key has that deadline. The route
behind the limiter then sees the request as long as the second at which the window is over fits a
word, and it breaks off before that otherwise. -/
theorem limiter_bounds (env : Environment) (a : Arrival) (ws : Windows) :
    let l := Settings.limits env
    let window := l.windowSeconds.toNat
    let e : Attempt ε := a.attempt
    let o := e.serve l ws
    let room := (e.kept l ws).count a.instant a.key < l.maxRequests.toNat
    let deadline := a.instant + (window + 60) * 1000
    (0 < l.maxRequests.toNat ∧ 0 < window) ∧
    (o.answer = .error .overflow ↔ room ∧ Bounds.max64 < window + 60) ∧
    (o.answer = .error .instant ↔
      room ∧ window + 60 ≤ Bounds.max64 ∧ maxInstant < deadline) ∧
    (∀ n, o.answer = .ok (.ok n) → room ∧ 0 < n ∧ n ≤ l.maxRequests.toNat ∧
      (∃ ttl : UInt64, ttl.toNat = window + 60 ∧
        o.calls = [e.evictCall l, e.countCall, e.addCall, .expire a.key ttl]) ∧
      (o.windows.get? a.key).bind (·.deadline) = some deadline) ∧
    (∀ x, o.answer = .ok (.error x) → ¬ room ∧ x.current = (e.kept l ws).count a.instant a.key ∧
      1 ≤ x.retryAfter ∧ x.retryAfter ≤ Bounds.max64) ∧
    ∀ (service : Service (PanicM Noted)) (at_ : Api.Moment) (r : Api.Request) (route : Api.Route)
      (next : PanicM Noted Api.Reply) (n : Nat),
      a.key = key (clientAddress r.headers r.peer) route.path → a.suffix = at_.suffix →
      a.now = at_.now.millis → at_.now.seconds.toNat ≤ Bounds.max64 → o.answer = .ok (.ok n) →
      let ends := at_.now.seconds.toNat + window
      Api.limited ⟨service, l, e.store⟩ at_ r route next ⟨ws, []⟩ =
        if ends ≤ Bounds.max64 then
          (do
            let reply ← next
            pure { reply with response := Api.tellLimit l (.ofNat ends) n reply.response })
            ⟨o.windows, o.calls⟩
        else (.error .overflow, ⟨o.windows, o.calls⟩) := by
  intro l window e o room deadline
  have served : o = _ := serve_attempt l a ws
  refine ⟨limits_positive env, ?_, ?_, fun n admitted => ?_, fun x refused => ?_, ?_⟩
  · rw [served]
    split
    next full => exact iff_of_false nofun fun h => Nat.not_lt.2 full h.1
    next free =>
      split
      next fits =>
        refine iff_of_false ?_ fun h => Nat.not_lt.2 fits h.2
        split <;> nofun
      next beyond => exact iff_of_true rfl ⟨Nat.not_le.1 free, Nat.not_le.1 beyond⟩
  · rw [served]
    split
    next full => exact iff_of_false nofun fun h => Nat.not_lt.2 full h.1
    next free =>
      split
      next fits =>
        split
        next told => exact iff_of_false nofun fun h => Nat.not_lt.2 told h.2.2
        next late => exact iff_of_true rfl ⟨Nat.not_le.1 free, fits, Nat.not_le.1 late⟩
      next beyond => exact iff_of_false nofun fun h => beyond h.2.1
  · split at served
    next => rw [served] at admitted; cases admitted
    next free =>
      split at served
      next fits =>
        split at served
        next told =>
          rw [served] at admitted ⊢
          cases admitted
          refine ⟨Nat.not_le.1 free, Nat.succ_pos _, Nat.not_le.1 free,
            ⟨_, toNat_addWords fits, rfl⟩, ?_⟩
          have stored : (e.added (e.kept l ws)).get? a.key = _ :=
            (Windows.get?_put _ _ _ _).trans (if_pos rfl)
          rw [Windows.get?_setDeadline, if_pos rfl, stored]
          rfl
        next => rw [served] at admitted; cases admitted
      next => rw [served] at admitted; cases admitted
  · split at served
    next full =>
      rw [served] at refused
      cases refused
      exact ⟨Nat.not_lt.2 full, rfl, Attempt.seconds_bounds l _ _⟩
    next =>
      split at served
      · split at served <;> rw [served] at refused <;> cases refused
      · rw [served] at refused; cases refused
  · intro service at_ r route next n key suffix now word admitted ends
    have same : check l e.store (RateLimit.key (clientAddress r.headers r.peer) route.path)
        at_.suffix at_.now.millis ⟨ws, []⟩ = (o.answer, ⟨o.windows, o.calls⟩) := by
      rw [← key, ← suffix, ← now]
      rfl
    rw [limited_of_admitted word ((congrArg Prod.fst same).trans admitted), same]

/-- A window just short of the largest breaks off the first request of a limit of one, which
leaves a member without a deadline; and one for which the clock can tell no deadline. -/
theorem limiter_bounds_overflow :
    let breaksOff (seconds : String) (p : Panic) (a : Arrival) : Prop :=
      let env : Environment :=
        [("RATE_LIMIT_MAX_REQUESTS", "1"), ("RATE_LIMIT_WINDOW_SECS", seconds)]
      let l := Settings.limits env
      let o := (a.attempt : Attempt Empty).serve l []
      l.maxRequests = 1 ∧ o.answer = .error p ∧
        o.windows = [(a.key, ⟨[(memberName a.now a.suffix, a.now)], none⟩)]
    breaksOff "18446744073709551556" .overflow ⟨"a", "x", 0, 0⟩ ∧
      breaksOff "9223372036854775807" .instant ⟨"a", "x", 0, 0⟩ := by
  decide +kernel

end Gatehouse.RateLimit
