import Gatehouse.Proofs.BehindLimiter
import Gatehouse.Proofs.ClientAddress
import Gatehouse.Proofs.SlidingWindow
import Gatehouse.Proofs.Step

/-!
Requests to the public routes, one after the other, with the service and its limiter. What the
limiter says in a response is a matter of the earlier requests that are charged to the same
address and route. A request that it refuses leaves no trace: all that follows is as if it had
not been made.
-/

namespace Gatehouse.RateLimit

section
variable {l : Limits} {as bs : List Arrival} {a b : Arrival}

theorem serve_fst_trace (h : Orderly l (as ++ [a])) :
    (a.serve l (trace l as).windows).1 = .ok (l.verdict a.now
      ((above (a.now - l.windowMillis) (admitted a.key (trace l as).log)).map (·.2))) :=
  (mirrors_trace h.init).serve_fst h.follows

/-- A request is admitted, or as many as the limit have been within its window. -/
theorem serve_fst_cases (h : Orderly l (as ++ [a])) :
    let n := admittedSince a.key (a.now - l.windowMillis) (trace l as).log
    (n < l.maxRequests.toNat ∧ (a.serve l (trace l as).windows).1 = .ok (.ok (n + 1))) ∨
    (n = l.maxRequests.toNat ∧
      ∃ seconds, (a.serve l (trace l as).windows).1 = .ok (.error ⟨n, seconds⟩)) := by
  intro n
  have le : n ≤ l.maxRequests.toNat := admittedSince_le h
  have length : ((above (a.now - l.windowMillis)
      (admitted a.key (trace l as).log)).map (·.2)).length = n := by
    rw [List.length_map, length_above_admitted]
  rw [serve_fst_trace h]
  rw [← length] at le ⊢
  rcases Nat.lt_or_eq_of_le le with lt | eq
  · exact .inl ⟨lt, congrArg _ (Limits.verdict_of_lt lt)⟩
  · obtain ⟨seconds, refused⟩ := Limits.verdict_of_le a.now (Nat.le_of_eq eq.symm)
    exact .inr ⟨eq, seconds, congrArg _ refused⟩

theorem serve_fst_filter (h : Orderly l (as ++ [a])) :
    (a.serve l (trace l as).windows).1
      = (a.serve l (trace l (as.filter (·.key = a.key))).windows).1 := by
  have alone : Orderly l (as.filter (·.key = a.key) ++ [a]) :=
    h.sublist (List.filter_sublist.append_right [a])
  rw [serve_fst_trace h, serve_fst_trace alone, ← log_filter_key h.init, admitted_filter]

theorem admitted_skip (key : String) (log more : Log) (a : Arrival) (e : Exceeded) :
    admitted key (log ++ (a, .ok (.error e)) :: more) = admitted key (log ++ more) := by
  have refused : ¬ (a.key = key ∧ Told.isAdmitted (.ok (.error e)) = true) :=
    fun h => nomatch h.2
  rw [admitted, admitted, List.filter_append, List.filter_append,
    List.filter_cons_of_neg (by simpa using refused)]

/-- Without a request that is refused, the others are told what they are told with it. -/
theorem log_skip {e : Exceeded} (h : Orderly l (as ++ a :: bs))
    (refused : (a.serve l (trace l as).windows).1 = .ok (.error e)) :
    ∃ more, (trace l (as ++ a :: bs)).log
        = (trace l as).log ++ (a, .ok (.error e)) :: more ∧
      (trace l (as ++ bs)).log = (trace l as).log ++ more := by
  induction bs using List.reverseRecOn with
  | nil =>
      refine ⟨[], ?_, by simp⟩
      rw [trace_concat, Trace.next, refused]
  | append_singleton bs b ih =>
      have whole : as ++ a :: (bs ++ [b]) = (as ++ a :: bs) ++ [b] := by simp
      have rest : (as ++ (bs ++ [b])) = (as ++ bs) ++ [b] := by simp
      rw [whole] at h
      have without : Orderly l ((as ++ bs) ++ [b]) :=
        h.sublist (((List.sublist_cons_self a bs).append_left as).append_right [b])
      obtain ⟨more, long, short⟩ := ih h.init
      rw [whole, rest, log_concat h, log_concat without, long, short, admitted_skip]
      refine ⟨_, ?_, List.append_assoc _ _ _⟩
      rw [List.append_assoc, List.cons_append]

theorem serve_fst_skip {e : Exceeded} (h : Orderly l (as ++ a :: bs ++ [b]))
    (refused : (a.serve l (trace l as).windows).1 = .ok (.error e)) :
    (b.serve l (trace l (as ++ a :: bs)).windows).1
      = (b.serve l (trace l (as ++ bs)).windows).1 := by
  have without : Orderly l ((as ++ bs) ++ [b]) :=
    h.sublist (((List.sublist_cons_self a bs).append_left as).append_right [b])
  obtain ⟨more, long, short⟩ := log_skip h.init refused
  rw [serve_fst_trace h, serve_fst_trace without, long, short, admitted_skip]

end

end Gatehouse.RateLimit

namespace Gatehouse.Api

open Service (inMemory)
open RateLimit (Limits Exceeded Windows Arrival Orderly trace admitted admittedSince above
  minTime maxTime ComesFrom)

variable {τ : Type}

theorem Route.versioned_of_limited {route : Route} (counted : route.access = .limited) :
    route ∈ versioned := by
  cases route with
  | register | login | refreshToken | logout | requestReset | resetPassword => decide
  | health | logoutAll | profile | adminUsers => cases counted

theorem Route.method_of_limited {route : Route} (counted : route.access = .limited) :
    route.method = "POST" := by
  cases route with
  | register | login | refreshToken | logout | requestReset | resetPassword => rfl
  | health | logoutAll | profile | adminUsers => cases counted

/-- A request to a public route, with what the clock of the windows shows at its time. -/
structure Visit where
  route : Route
  request : Request
  moment : Moment
  instant : Nat
  counted : route.access = .limited
  path : pathOf request.target = base ++ route.path
  method : request.method = "POST"

namespace Visit

def address (v : Visit) : String :=
  RateLimit.clientAddress v.request.headers v.request.peer

/-- Whom a visit is charged to. -/
def payer (v : Visit) : String × Route := (v.address, v.route)

/-- What is digested for a payer. -/
def charge (v : Visit) : Bytes := Text.utf8 (RateLimit.charge v.address v.route.path)

def time (v : Visit) : Int := v.moment.now.millis

/-- What the limiter sees of a visit. -/
def arrival (v : Visit) : Arrival :=
  ⟨RateLimit.key v.address v.route.path, v.moment.suffix, v.time, v.instant⟩

def app (service : Service (StateM τ)) (l : Limits) (v : Visit) :
    App (PanicM (Windows × τ)) Empty :=
  hosted service l (RateLimit.memory v.instant)

/-- The response to a visit. What is to be done behind it is done before the next. -/
def serve (service : Service (StateM τ)) (l : Limits) (v : Visit) :
    PanicM (Windows × τ) Response := do
  let reply ← answer (v.app service l) v.moment v.request
  finish (v.app service l) v.moment reply
  pure reply.response

/-- What the limiter makes of a visit: how many have been admitted, and when the window is
over. -/
def verdict (l : Limits) (v : Visit) (w : Windows) :
    Except Panic (Except Exceeded (Nat × UInt64)) :=
  (v.arrival.serve l w).1.bind (withEnd l v.moment.now)

theorem serve_spec (service : Service (StateM τ)) (l : Limits) (v : Visit) :
    ∃ y : StateM τ Response, (∀ t, (y t).1.status ≠ 429) ∧ ∀ w t,
      let left := (v.arrival.serve l w).2
      v.serve service l (w, t) =
        match v.verdict l w with
        | .error p => (.error p, (left, t))
        | .ok (.error e) => (.ok (Problem.rateLimited e.retryAfter).response, (left, t))
        | .ok (.ok (n, ends)) => (.ok (tellLimit l ends n (y t).1), (left, (y t).2)) := by
  let counter : RateLimit.Counter (PanicM Windows) Empty := RateLimit.memory v.instant
  obtain ⟨work, same, other⟩ := handle_behind v.counted service l counter v.moment v.request
  choose rest behind using finish_beside service l counter v.moment
  refine ⟨fun t => ((work t).1.response, (rest (work t).1 (work t).2).2), other, fun w t => ?_⟩
  intro left
  have method : v.request.method = v.route.method := by
    rw [v.method, Route.method_of_limited v.counted]
  -- what is done behind a response does not hang on what the limiter has put into it
  have finished (reply : Reply) (told : Response) :
      finish (hosted service l counter) v.moment { reply with response := told }
        = onSecond (rest reply) := behind reply
  have asked : admission counter l v.moment v.request v.route w = (v.verdict l w, left) :=
    admission_apply w
  rw [serve, app, answer_eq_guarded _ _ (Route.versioned_of_limited v.counted) v.path method,
    guarded, v.counted]
  dsimp only
  rw [limited_hosted, PanicM.bind_apply, PanicM.bind_apply, onFirst, asked]
  cases v.verdict l w with
  | error p => rfl
  | ok verdict =>
      cases verdict with
      | error e => rfl
      | ok told =>
          dsimp only
          rw [PanicM.bind_apply, same]
          dsimp only [onSecond]
          rw [PanicM.pure_apply]
          dsimp only
          rw [PanicM.bind_apply, finished]
          rfl

end Visit

/-- What the limiter has put into a response. -/
structure Ruling where
  refusal : Option Response
  limit : Option String
  remaining : Option String
  reset : Option String
  deriving DecidableEq, Repr

def Response.ruling (r : Response) : Ruling where
  refusal := if r.status = 429 then some r else none
  limit := r.header? "x-ratelimit-limit"
  remaining := r.header? "x-ratelimit-remaining"
  reset := r.header? "x-ratelimit-reset"

theorem lookup_filter_of_ne {name other : String} (differs : other ≠ name)
    (hs : List (String × String)) : (hs.filter (·.1 ≠ name)).lookup other = hs.lookup other := by
  induction hs with
  | nil => rfl
  | cons h hs ih =>
      by_cases own : h.1 = name
      · have skipped : (other == h.1) = false := by simpa [own] using differs
        rw [List.filter_cons_of_neg (by simpa using own), ih, List.lookup_cons, skipped]
      · rw [List.filter_cons_of_pos (by simpa using own), List.lookup_cons, List.lookup_cons, ih]

theorem Response.header?_setHeader (r : Response) (name value other : String) :
    (r.setHeader name value).header? other =
      if other = name then some value else r.header? other := by
  rw [setHeader, header?, header?, List.lookup_cons]
  split
  next same => rw [if_pos (by simpa using same)]
  next differs =>
    have ne : other ≠ name := by simpa using differs
    rw [if_neg ne, lookup_filter_of_ne ne]

/-- The ruling that a verdict of the limiter makes. -/
def rulingOf (l : Limits) : Except Exceeded (Nat × UInt64) → Ruling
  | .error e => (Problem.rateLimited e.retryAfter).response.ruling
  | .ok (n, ends) => ⟨none, some (toString l.maxRequests),
      some (toString (l.maxRequests.toNat - n)), some (toString ends)⟩

theorem ruling_tellLimit (l : Limits) (ends : UInt64) (n : Nat) {r : Response}
    (other : r.status ≠ 429) : (tellLimit l ends n r).ruling = rulingOf l (.ok (n, ends)) := by
  have status : (tellLimit l ends n r).status = r.status := rfl
  rw [Response.ruling, status, if_neg other, tellLimit]
  simp [Response.header?_setHeader, rulingOf]

/-- What comes of a visit, if it is not broken off. -/
abbrev Said := Except Panic Response

def Said.isAdmitted : Said → Bool
  | .ok r => r.status ≠ 429
  | .error _ => false

namespace Visit

variable (service : Service (StateM τ)) (l : Limits) (v : Visit) (w : Windows) (t : τ)

theorem windows_serve : (v.serve service l (w, t)).2.1 = (v.arrival.serve l w).2 := by
  obtain ⟨y, -, served⟩ := v.serve_spec service l
  rw [served]
  rcases v.verdict l w with _ | _ | _ <;> rfl

theorem ruling_serve :
    (v.serve service l (w, t)).1.map (·.ruling) = (v.verdict l w).map (rulingOf l) := by
  obtain ⟨y, other, served⟩ := v.serve_spec service l
  rw [served]
  rcases v.verdict l w with p | e | ⟨n, ends⟩
  · rfl
  · rfl
  · exact congrArg Except.ok (ruling_tellLimit l ends n (other t))

theorem isAdmitted_serve :
    Said.isAdmitted (v.serve service l (w, t)).1 = true ↔
      ∃ told, v.verdict l w = .ok (.ok told) := by
  obtain ⟨y, other, served⟩ := v.serve_spec service l
  rw [served]
  rcases v.verdict l w with p | e | told
  · exact iff_of_false nofun nofun
  · exact iff_of_false nofun nofun
  · have status : (tellLimit l told.2 told.1 (y t).1).status ≠ 429 := other t
    exact iff_of_true (decide_eq_true status) ⟨told, rfl⟩

variable {service l v w t}

/-- A refusal is the limiter's, and does not reach the service. -/
theorem of_refused {r : Response} (said : (v.serve service l (w, t)).1 = .ok r)
    (refused : r.status = 429) :
    (∃ e, (v.arrival.serve l w).1 = .ok (.error e)) ∧ (v.serve service l (w, t)).2.2 = t := by
  obtain ⟨y, other, served⟩ := v.serve_spec service l
  rw [served] at said ⊢
  cases told : v.verdict l w with
  | error p => rw [told] at said; cases said
  | ok verdict =>
      rw [told] at said
      cases verdict with
      | ok admitted =>
          cases said
          exact absurd refused (other t)
      | error e =>
          refine ⟨⟨e, ?_⟩, rfl⟩
          rw [verdict] at told
          cases checked : (v.arrival.serve l w).1 with
          | error p => rw [checked] at told; cases told
          | ok answer =>
              rw [checked] at told
              cases answer with
              | error e => cases told; rfl
              | ok n =>
                  dsimp only [Except.bind, withEnd] at told
                  split at told <;> cases told

/-- The service is asked alike after two verdicts that are alike. -/
theorem serve_congr {w' : Windows}
    (same : (v.arrival.serve l w).1 = (v.arrival.serve l w').1) :
    (v.serve service l (w, t)).1 = (v.serve service l (w', t)).1 ∧
      (v.serve service l (w, t)).2.2 = (v.serve service l (w', t)).2.2 := by
  obtain ⟨y, -, served⟩ := v.serve_spec service l
  have verdicts : v.verdict l w = v.verdict l w' := congrArg (Except.bind · _) same
  rw [served, served, verdicts]
  rcases v.verdict l w' with _ | _ | _ <;> exact ⟨rfl, rfl⟩

end Visit

/-- Windows, the state of the service, and the visits with what came of them. -/
structure Served (τ : Type) where
  windows : Windows := []
  state : τ
  log : List (Visit × Said) := []

section
variable (service : Service (StateM τ)) (l : Limits) (t : τ)

def Served.next (d : Served τ) (v : Visit) : Served τ :=
  let r := v.serve service l (d.windows, d.state)
  ⟨r.2.1, r.2.2, d.log ++ [(v, r.1)]⟩

/-- Serve visits, with no windows at first. -/
def served (vs : List Visit) : Served τ :=
  vs.foldl (Served.next service l) ⟨[], t, []⟩

def response (vs : List Visit) (v : Visit) : Said :=
  let d := served service l t vs
  (v.serve service l (d.windows, d.state)).1

/-- How many visits of a payer were admitted after a time. -/
def Served.admitted (d : Served τ) (payer : String × Route) (after : Int) : Nat :=
  (d.log.filter fun e => e.1.payer = payer ∧ e.2.isAdmitted ∧ after < e.1.time).length

theorem served_concat (vs : List Visit) (v : Visit) :
    served service l t (vs ++ [v]) = (served service l t vs).next service l v := by
  simp [served]

theorem log_served_concat (vs : List Visit) (v : Visit) :
    (served service l t (vs ++ [v])).log
      = (served service l t vs).log ++ [(v, response service l t vs v)] := by
  rw [served_concat]
  rfl

/-- The limiter goes its way whatever the service does. -/
theorem windows_served (vs : List Visit) :
    (served service l t vs).windows = (trace l (vs.map Visit.arrival)).windows := by
  induction vs using List.reverseRecOn with
  | nil => rfl
  | append_singleton vs v ih =>
      rw [served_concat, Served.next, List.map_append, List.map_singleton,
        RateLimit.trace_concat, RateLimit.Trace.next, v.windows_serve, ih]

end

/-- What is asked of visits: the window fits the bounds of times, and so do the times and where
their windows begin; one clock, of whatever origin, tells the times and drives the windows, and
does not go back; no suffix is drawn twice, and no two of their charges have one digest. -/
structure Timely (l : Limits) (vs : List Visit) : Prop where
  window_le : l.windowSeconds.toNat * 1000 ≤ maxTime
  sorted : vs.Pairwise fun v w => v.time ≤ w.time
  clock : ∃ origin : Int, minTime ≤ origin ∧ ∀ v ∈ vs, v.time = origin + v.instant
  in_range : ∀ v ∈ vs, minTime ≤ v.time - l.windowSeconds.toNat * 1000 ∧ v.time ≤ maxTime
  suffixes : (vs.map (·.moment.suffix)).Nodup
  digests : ∀ v ∈ vs, ∀ w ∈ vs,
    Uuid.named Uuid.urlSpace v.charge = Uuid.named Uuid.urlSpace w.charge → v.charge = w.charge

section
variable {l : Limits} {vs ws : List Visit} {v : Visit}

theorem Timely.sublist (h : Timely l vs) (fewer : ws.Sublist vs) : Timely l ws where
  window_le := h.window_le
  sorted := h.sorted.sublist fewer
  clock := h.clock.imp fun _ ⟨low, told⟩ => ⟨low, fun w hw => told w (fewer.subset hw)⟩
  in_range w hw := h.in_range w (fewer.subset hw)
  suffixes := h.suffixes.sublist (fewer.map _)
  digests w hw u hu := h.digests w (fewer.subset hw) u (fewer.subset hu)

theorem Timely.orderly (h : Timely l vs) : Orderly l (vs.map Visit.arrival) := by
  obtain ⟨origin, low, clock⟩ := h.clock
  have bound := h.window_le
  simp only [minTime, maxTime, Bounds.minSigned, Bounds.maxSigned] at low bound
  refine ⟨h.window_le, List.pairwise_map.2 h.sorted, ?_, List.forall_mem_map.2 h.in_range, ?_, ?_⟩
  · simp only [List.forall_mem_map]
    intro v hv w hw
    have first := clock v hv
    have second := clock w hw
    simp only [Visit.arrival]
    omega
  · simp only [List.forall_mem_map]
    intro v hv
    have told := clock v hv
    have late := (h.in_range v hv).2
    simp only [maxTime, Bounds.maxSigned] at late
    -- the clock tells seconds in as many bits as times have for milliseconds
    simp only [Visit.arrival, RateLimit.maxInstant]
    omega
  · rw [List.map_map]
    exact h.suffixes

theorem charge_eq_iff {a a' : String} {r r' : Route} (counted : r.access = .limited)
    (counted' : r'.access = .limited) :
    Text.utf8 (RateLimit.charge a r.path) = Text.utf8 (RateLimit.charge a' r'.path) ↔
      a = a' ∧ r = r' := by
  constructor
  · intro same
    obtain ⟨address, path⟩ := RateLimit.charge_injective (RateLimit.bar_not_mem_path r)
      (RateLimit.bar_not_mem_path r') (Text.utf8_injective same)
    exact ⟨address, Route.path_injective (Route.versioned_of_limited counted)
      (Route.versioned_of_limited counted') path⟩
  · rintro ⟨rfl, rfl⟩
    rfl

/-- Keys tell payers apart. -/
theorem Timely.key_eq_iff (h : Timely l vs) {v w : Visit} (hv : v ∈ vs) (hw : w ∈ vs) :
    w.arrival.key = v.arrival.key ↔ w.payer = v.payer := by
  constructor
  · intro same
    have charges := h.digests w hw v hv (RateLimit.named_of_key same)
    obtain ⟨address, route⟩ := (charge_eq_iff w.counted v.counted).1 charges
    exact Prod.ext address route
  · intro same
    obtain ⟨address, route⟩ := Prod.mk.inj same
    simp only [Visit.arrival, address, route]

/-- The second at which the window of a visit is over fits a word. -/
theorem Timely.verdict_eq (h : Timely l vs) (hv : v ∈ vs) (w : Windows) :
    v.verdict l w = (v.arrival.serve l w).1.map fun checked => checked.map fun n =>
      (n, .ofNat v.moment.now.seconds.toNat + l.windowSeconds) := by
  have fits : (UInt64.ofNat v.moment.now.seconds.toNat).toNat + l.windowSeconds.toNat
      ≤ Bounds.max64 := by
    have late := (h.in_range v hv).2
    have bound := h.window_le
    have modulo := Nat.mod_le v.moment.now.seconds.toNat (2 ^ 64)
    rw [UInt64.toNat_ofNat']
    simp only [Visit.time, Timestamp.millis, maxTime, Bounds.maxSigned, Bounds.max64] at *
    omega
  rw [Visit.verdict]
  rcases (v.arrival.serve l w).1 with p | e | n
  · rfl
  · rfl
  · exact if_pos fits

theorem Timely.isAdmitted_serve (h : Timely l vs) (hv : v ∈ vs) (service : Service (StateM τ))
    (w : Windows) (t : τ) :
    Said.isAdmitted (v.serve service l (w, t)).1 = true ↔
      RateLimit.Told.isAdmitted (v.arrival.serve l w).1 = true := by
  rw [v.isAdmitted_serve, h.verdict_eq hv]
  rcases (v.arrival.serve l w).1 with p | e | n
  · exact iff_of_false nofun nofun
  · exact iff_of_false nofun nofun
  · exact iff_of_true ⟨_, rfl⟩ rfl

variable (service : Service (StateM τ)) (t : τ)

theorem admitted_served (h : Timely l (vs ++ [v])) (after : Int) :
    (served service l t vs).admitted v.payer after
      = admittedSince v.arrival.key after (trace l (vs.map Visit.arrival)).log := by
  induction vs using List.reverseRecOn with
  | nil => rfl
  | append_singleton vs w ih =>
      have fewer : (vs ++ [v]).Sublist (vs ++ [w] ++ [v]) :=
        (List.sublist_append_left vs [w]).append_right [v]
      have own : w ∈ vs ++ [w] ++ [v] := by simp
      have key := h.key_eq_iff (v := v) (by simp) own
      have counts := h.isAdmitted_serve own service (served service l t vs).windows
        (served service l t vs).state
      rw [Served.admitted, log_served_concat, List.filter_append, List.length_append,
        ← Served.admitted, ih (h.sublist fewer), List.map_append, List.map_singleton,
        RateLimit.trace_concat, RateLimit.Trace.next, admittedSince, admittedSince,
        List.filter_append, List.length_append, ← windows_served service l t]
      congr 1
      have same : (w.payer = v.payer ∧ (response service l t vs w).isAdmitted = true ∧
            after < w.time) ↔
          w.arrival.key = v.arrival.key ∧
            RateLimit.Told.isAdmitted
              (w.arrival.serve l (served service l t vs).windows).1 = true ∧
            after < w.arrival.now :=
        and_congr key.symm (and_congr counts Iff.rfl)
      by_cases count : w.payer = v.payer ∧ (response service l t vs w).isAdmitted = true ∧
          after < w.time
      · rw [List.filter_cons_of_pos (by simpa using count),
          List.filter_cons_of_pos (by simpa using same.1 count)]
        rfl
      · rw [List.filter_cons_of_neg (by simpa using count),
          List.filter_cons_of_neg (by simpa using mt same.2 count)]
        rfl

/-- Visits of other payers are no matter for what the limiter says. -/
theorem ruling_filter (h : Timely l (vs ++ [v])) (t' : τ) :
    (response service l t vs v).map (·.ruling)
      = (response service l t' (vs.filter (·.payer = v.payer)) v).map (·.ruling) := by
  have orderly := h.orderly
  rw [List.map_append, List.map_singleton] at orderly
  have own : (vs.map Visit.arrival).filter (·.key = v.arrival.key)
      = (vs.filter (·.payer = v.payer)).map Visit.arrival := by
    rw [List.filter_map]
    congr 1
    apply List.filter_congr
    intro w hw
    have key := h.key_eq_iff (v := v) (w := w) (by simp) (by simp [hw])
    simp [key]
  rw [response, response, v.ruling_serve, v.ruling_serve, Visit.verdict, Visit.verdict,
    windows_served, windows_served, RateLimit.serve_fst_filter orderly, own]

/-- All that follows a refusal is as if the refused visit had not been made. -/
theorem served_skip (h : Timely l (vs ++ v :: ws)) {r : Response}
    (said : response service l t vs v = .ok r) (refused : r.status = 429) :
    (served service l t (vs ++ v :: ws)).state = (served service l t (vs ++ ws)).state ∧
      ∃ later, (served service l t (vs ++ v :: ws)).log
          = (served service l t vs).log ++ (v, .ok r) :: later ∧
        (served service l t (vs ++ ws)).log = (served service l t vs).log ++ later := by
  obtain ⟨⟨e, error⟩, unmoved⟩ := Visit.of_refused said refused
  rw [windows_served] at error
  induction ws using List.reverseRecOn with
  | nil =>
      rw [List.append_nil]
      refine ⟨?_, [], ?_, (List.append_nil _).symm⟩
      · rw [served_concat]
        exact unmoved
      · rw [log_served_concat, said]
  | append_singleton ws w ih =>
      have whole : vs ++ v :: (ws ++ [w]) = (vs ++ v :: ws) ++ [w] := by simp
      have rest : vs ++ (ws ++ [w]) = (vs ++ ws) ++ [w] := by simp
      rw [whole] at h
      obtain ⟨state, later, long, short⟩ := ih (h.sublist (List.sublist_append_left _ _))
      have orderly := h.orderly
      simp only [List.map_append, List.map_cons, List.map_nil] at orderly
      -- the logs differ by the refused visit only, so `w` has the same verdict in both runs, and
      -- the service, in the same state, then does the same
      have verdict := RateLimit.serve_fst_skip orderly error
      have same (us : List Visit) : (served service l t us).windows
          = (trace l (us.map Visit.arrival)).windows := windows_served service l t us
      have alike : response service l t (vs ++ v :: ws) w
            = response service l t (vs ++ ws) w ∧
          (served service l t (vs ++ v :: ws ++ [w])).state
            = (served service l t (vs ++ ws ++ [w])).state := by
        rw [response, response, served_concat, served_concat, Served.next, Served.next, state]
        refine Visit.serve_congr ?_
        rw [same, same, List.map_append, List.map_cons, List.map_append, verdict]
      rw [whole, rest, log_served_concat, log_served_concat, long, short, alike.1]
      refine ⟨alike.2, _, ?_, List.append_assoc _ _ _⟩
      rw [List.append_assoc, List.cons_append]

/-- Visits to the public routes, one of which has others before and behind it. It comes from the
first forwarder, else the real address, else the peer, else nobody known; and no two pairs of such
an address and a route are digested from one text. With `n` for the visits of its pair that were
admitted within its window, it is refused if they are as many as the limit, and else is told how
many are left with itself. The limiter says the same when visits of other pairs are left out. A
refusal leaves the state of the service alone, and all that follows is as if it had not been
there. -/
theorem public_routes_limited (h : Timely l (vs ++ v :: ws)) :
    let said := response service l t vs v
    let window : Int := l.windowSeconds.toNat * 1000
    let n := (served service l t vs).admitted v.payer (v.time - window)
    (∀ a, ComesFrom v.request.headers v.request.peer a ↔ a = v.address) ∧
    (∀ (a a' : String) (r r' : Route), r.access = .limited → r'.access = .limited →
      (Text.utf8 (RateLimit.charge a r.path) = Text.utf8 (RateLimit.charge a' r'.path) ↔
        a = a' ∧ r = r')) ∧
    (∃ r, said = .ok r ∧
      ((n < l.maxRequests.toNat ∧ r.status ≠ 429 ∧ r.header? "x-ratelimit-remaining"
          = some (toString (l.maxRequests.toNat - (n + 1)))) ∨
        (n = l.maxRequests.toNat ∧ r.status = 429))) ∧
    (∀ t', said.map (·.ruling)
      = (response service l t' (vs.filter (·.payer = v.payer)) v).map (·.ruling)) ∧
    (∀ r, said = .ok r → r.status = 429 →
      (served service l t (vs ++ [v])).state = (served service l t vs).state ∧
      (served service l t (vs ++ v :: ws)).state = (served service l t (vs ++ ws)).state ∧
      ∃ later, (served service l t (vs ++ v :: ws)).log
          = (served service l t vs).log ++ (v, said) :: later ∧
        (served service l t (vs ++ ws)).log = (served service l t vs).log ++ later) := by
  intro said window n
  have millis : window = l.windowMillis := (RateLimit.Limits.windowMillis_eq h.window_le).symm
  have before : Timely l (vs ++ [v]) :=
    h.sublist ((List.singleton_sublist.2 List.mem_cons_self).append_left vs)
  have orderly := before.orderly
  rw [List.map_append, List.map_singleton] at orderly
  refine ⟨fun a => RateLimit.comesFrom_iff, fun a a' r r' => charge_eq_iff, ?_,
    ruling_filter service t before, fun r answered refused => ?_⟩
  · obtain ⟨y, other, spec⟩ := v.serve_spec service l
    have verdicts := RateLimit.serve_fst_cases orderly
    have count : n = admittedSince v.arrival.key (v.arrival.now - l.windowMillis)
        (trace l (vs.map Visit.arrival)).log := by
      rw [← millis]
      exact admitted_served service t before _
    have verdict := before.verdict_eq (v := v) (by simp) (served service l t vs).windows
    have answered : said = _ := congrArg Prod.fst (spec (served service l t vs).windows _)
    rw [← count, ← windows_served service l t] at verdicts
    rcases verdicts with ⟨few, admitted⟩ | ⟨full, seconds, refused⟩
    · rw [admitted] at verdict
      rw [verdict] at answered
      have told := ruling_tellLimit l (.ofNat v.moment.now.seconds.toNat + l.windowSeconds) (n + 1)
        (other (served service l t vs).state)
      exact ⟨_, answered, .inl ⟨few, other _, congrArg Ruling.remaining told⟩⟩
    · rw [refused] at verdict
      rw [verdict] at answered
      exact ⟨_, answered, .inr ⟨full, rfl⟩⟩
  · obtain ⟨state, later, long, short⟩ := served_skip service t h answered refused
    refine ⟨?_, state, later, answered ▸ long, short⟩
    rw [served_concat]
    exact (Visit.of_refused answered refused).2

end

/-- A visit to log in, with a list of forwarders. -/
def sampleVisit (forwarders : String) (second : Nat) (suffix : String) : Visit where
  route := .login
  request := {
    method := "POST"
    target := base ++ Route.login.path
    headers := [("x-forwarded-for", Text.utf8 forwarders)] }
  moment := ⟨⟨second, 0⟩, ⟨second, 0⟩, ⟨⟨0⟩, ⟨0⟩, ⟨0⟩, []⟩, suffix⟩
  instant := second * 1000
  counted := rfl
  path := (by decide : pathOf (base ++ Route.login.path) = base ++ Route.login.path)
  method := rfl

/-- One in ninety seconds: an address that is written like the beginning of a charge pays for
itself only, and the second visit of one client is refused. -/
theorem public_routes_limited_one_in_ninety_seconds :
    let l : Limits := ⟨1, 90⟩
    let service := inMemory { secret := "k" } {}
    let stranger := sampleVisit "a|/login, b" 10 "x"
    let first := sampleVisit " a ,b" 20 "y"
    let second := sampleVisit "a" 109 "z"
    let other := sampleVisit "b" 110 "u"
    Timely l ([stranger, first] ++ second :: [other]) ∧
      ∃ r, response service l {} [stranger, first] second = .ok r ∧ r.status = 429 ∧
        (served service l {} ([stranger, first] ++ second :: [other])).state
          = (served service l {} ([stranger, first] ++ [other])).state := by
  intro l service stranger first second other
  have timely : Timely l ([stranger, first] ++ second :: [other]) :=
    ⟨by decide, by decide, ⟨0, by decide⟩, by decide, by decide, by decide +kernel⟩
  have refused : (response service l {} [stranger, first] second).map (·.status) = .ok 429 := by
    decide +kernel
  obtain ⟨-, -, ⟨r, said, -⟩, -, skipped⟩ := public_routes_limited service {} timely
  rw [said] at refused
  have status : r.status = 429 := Except.ok.inj refused
  exact ⟨timely, r, said, status, (skipped r said status).2.1⟩

end Gatehouse.Api
