import Gatehouse.Api.Hosted

/-!
Requests with a route's own method, and what the limiter makes of them. The service and the
limiter each see their own state only.
-/

namespace Gatehouse.Api

open RateLimit (Limits Counter Exceeded)

/-- The method that a route is made for. -/
def Route.method (r : Route) : String := if r.isRead then "GET" else "POST"

theorem Route.accepts_method (r : Route) : r.accepts r.method = true := by
  cases r <;> decide

theorem Route.method_ne_head (r : Route) : r.method ≠ "HEAD" := by
  cases r <;> decide

theorem Route.ofPath?_path {route : Route} (versioned : route ∈ Route.versioned) :
    Route.ofPath? (base ++ route.path) = some route := by
  cases route with
  | health => exact absurd versioned (by decide)
  | register | login | refreshToken | logout | requestReset | resetPassword | logoutAll | profile
  | adminUsers => decide

section
variable {m : Type → Type} [Monad m] [LawfulMonad m] [MonadExceptOf Panic m] {ε : Type}
  (app : App m ε) (at_ : Moment)
  {r : Request} {route : Route}

theorem answer_eq_guarded (versioned : route ∈ Route.versioned)
    (path : pathOf r.target = base ++ route.path) (method : r.method = route.method) :
    answer app at_ r = guarded app at_ r route fun caller => handle app at_ r caller route := by
  rw [answer, path, Route.ofPath?_path versioned]
  simp only [method, route.accepts_method, route.method_ne_head, if_true, if_false, bind_pure]

end

section
variable {σ τ : Type} (s : Service (StateM τ))

theorem register_lift (email password : String) (role : Option Account.Role) (now : Timestamp)
    (draws : Service.Draws) :
    ((s.lift onSecond).register email password role now draws : PanicM (σ × τ) _)
      = onSecond (s.register email password role now draws) := by
  rw [Service.register, Service.register, onSecond_bind]
  refine bind_congr fun answer => ?_
  cases answer with
  | ok u => rfl
  | error e =>
      cases e with
      | unavailable _ | database _ | conflict => rfl
      | notFound =>
          have hashing : (s.lift onSecond : Service (PanicM (σ × τ))).hashing = s.hashing := rfl
          simp only [hashing]
          cases Password.hash s.hashing.settings draws.salt password with
          | error e => rfl
          | ok hash =>
              dsimp only
              rw [onSecond_bind]
              refine bind_congr fun answer => ?_
              split <;> rfl

theorem login_lift (email password : String) (client : Account.Client) (now : Timestamp)
    (draws : Service.Draws) :
    ((s.lift onSecond).login email password client now draws : PanicM (σ × τ) _)
      = onSecond (s.login email password client now draws) := by
  rw [Service.login_eq, Service.login_eq, onSecond_bind]
  refine bind_congr fun answer => ?_
  cases answer with
  | error e => cases e <;> rfl
  | ok u =>
      dsimp only
      split
      · rfl
      · rw [onSecond_bind]
        refine bind_congr fun answer => ?_
        cases answer <;> rfl

theorem user_lift (id : Uuid) :
    ((s.lift onSecond).user id : PanicM (σ × τ) _) = onSecond (s.user id) := by
  rw [Service.user, Service.user, onSecond_bind]
  refine bind_congr fun answer => ?_
  cases answer with
  | error e => cases e <;> rfl
  | ok u => rfl

theorem logoutAll_lift (userId : Uuid) :
    ((s.lift onSecond).logoutAll userId : PanicM (σ × τ) _) = onSecond (s.logoutAll userId) := by
  rw [Service.logoutAll, Service.logoutAll, onSecond_bind]
  refine bind_congr fun answer => ?_
  cases answer <;> rfl

end

section
variable {σ τ ε : Type} (counter : Counter (PanicM σ) ε) (l : Limits) (key : String) (now : Int)

theorem addWords_onFirst (a b : UInt64) :
    (addWords a b : PanicM (σ × τ) UInt64) = onFirst (addWords a b) := by
  rw [addWords, addWords]
  split <;> rfl

theorem retryAfter_lift :
    (RateLimit.retryAfter l (counter.lift onFirst) key now : PanicM (σ × τ) Nat)
      = onFirst (RateLimit.retryAfter l counter key now) := by
  rw [RateLimit.retryAfter, RateLimit.retryAfter, onFirst_bind]
  refine bind_congr fun answer => ?_
  split <;> rfl

/-- The limiter does not see the state of the service. -/
theorem check_lift (suffix : String) :
    (RateLimit.check l (counter.lift onFirst) key suffix now :
        PanicM (σ × τ) (Except Exceeded Nat))
      = onFirst (RateLimit.check l counter key suffix now) := by
  rw [RateLimit.check, RateLimit.check, onFirst_bind]
  refine bind_congr fun evicted => ?_
  cases evicted with
  | error e => rfl
  | ok n =>
      rw [onFirst_bind]
      refine bind_congr fun counted => ?_
      cases counted with
      | error e => rfl
      | ok n =>
          dsimp only
          split
          · rw [retryAfter_lift, onFirst_bind]
            rfl
          · rw [onFirst_bind]
            refine bind_congr fun added => ?_
            rw [Limits.lifetime, Limits.lifetime, addWords_onFirst, onFirst_bind]
            refine bind_congr fun seconds => ?_
            rw [onFirst_bind]
            rfl

end

section
variable {σ ε : Type}

/-- Whether a request breaks off does not hang on the name under which it is counted. -/
structure Nameless (counter : Counter (PanicM σ) ε) : Prop where
  added : ∀ key member member' score w,
    (counter.add key member score w).1.map (fun _ => ())
      = (counter.add key member' score w).1.map fun _ => ()
  extended : ∀ key member member' score seconds w,
    ((counter.add key member score >>= fun _ => counter.expire key seconds) w).1.map (fun _ => ())
      = ((counter.add key member' score >>= fun _ => counter.expire key seconds) w).1.map
        fun _ => ()

theorem fst_bind_congr {α β : Type} {x : PanicM σ α} {f g : α → PanicM σ β}
    (same : ∀ a s, (f a s).1 = (g a s).1) (s : σ) : ((x >>= f) s).1 = ((x >>= g) s).1 := by
  rw [PanicM.bind_apply, PanicM.bind_apply]
  cases (x s).1 with
  | error p => rfl
  | ok a => exact same a (x s).2

variable {counter : Counter (PanicM σ) ε} (l : Limits) (key : String) (now : Int)

theorem fst_counted {α : Type} (member : String) (told : α) (w : σ) :
    ((do
      let _ ← counter.add key member now
      let seconds ← l.lifetime
      let _ ← counter.expire key seconds
      pure told) w).1
      = if l.windowSeconds.toNat + RateLimit.grace.toNat ≤ Bounds.max64 then
          ((counter.add key member now >>= fun _ =>
            counter.expire key (l.windowSeconds + RateLimit.grace)) w).1.map (fun _ => ())
            |>.map fun _ => told
        else (counter.add key member now w).1.map (fun _ => ()) |>.bind fun _ =>
          .error .overflow := by
  rw [PanicM.bind_apply (counter.add key member now),
    PanicM.bind_apply (counter.add key member now)]
  cases (counter.add key member now w).1 with
  | error p =>
      dsimp only
      split <;> rfl
  | ok added =>
      dsimp only
      rw [Limits.lifetime, PanicM.addWords_bind_apply]
      split
      · rw [PanicM.bind_apply]
        cases (counter.expire key (l.windowSeconds + RateLimit.grace)
          (counter.add key member now w).2).1 <;> rfl
      · rfl

theorem Nameless.check (nameless : Nameless counter) (suffix suffix' : String) (w : σ) :
    (RateLimit.check l counter key suffix now w).1
      = (RateLimit.check l counter key suffix' now w).1 := by
  refine fst_bind_congr (fun evicted w => ?_) w
  cases evicted with
  | error e => rfl
  | ok n =>
      refine fst_bind_congr (fun counted w => ?_) w
      cases counted with
      | error e => rfl
      | ok n =>
          dsimp only
          split
          · rfl
          · rw [fst_counted, fst_counted, nameless.added key _ (RateLimit.memberName now suffix'),
              nameless.extended key _ (RateLimit.memberName now suffix')]

end

/-- A reply behind the limiter: the limiter's own if there have been too many requests. -/
def counted (l : Limits) (admission : Except Exceeded (Nat × UInt64)) (reply : Reply) : Reply :=
  match admission with
  | .error e => .ofProblem (.rateLimited e.retryAfter)
  | .ok (n, ends) => { reply with response := tellLimit l ends n reply.response }

theorem counted_response (l : Limits) (admission : Except Exceeded (Nat × UInt64))
    {reply reply' : Reply} (same : reply.response = reply'.response) :
    (counted l admission reply).response = (counted l admission reply').response := by
  cases admission with
  | error e => rfl
  | ok admitted =>
      dsimp only [counted]
      rw [same]

/-- What the limiter answers to a request: how many there have been, and when the window is
over. -/
def admission {m : Type → Type} [Monad m] [MonadExceptOf Panic m] {ε : Type}
    (counter : Counter m ε) (l : Limits) (at_ : Moment) (r : Request) (route : Route) :
    m (Except Exceeded (Nat × UInt64)) := do
  let key := RateLimit.key (RateLimit.clientAddress r.headers r.peer) route.path
  match ← RateLimit.check l counter key at_.suffix at_.now.millis with
  | .error e => pure (.error e)
  | .ok n =>
      let ends ← windowEnd l at_.now
      pure (.ok (n, ends))

/-- An admission is told when the window is over, if that fits a word. -/
def withEnd (l : Limits) (now : Timestamp) :
    Except Exceeded Nat → Except Panic (Except Exceeded (Nat × UInt64))
  | .error e => .ok (.error e)
  | .ok n =>
      let second := UInt64.ofNat now.seconds.toNat
      if second.toNat + l.windowSeconds.toNat ≤ Bounds.max64 then
        .ok (.ok (n, second + l.windowSeconds))
      else .error .overflow

section
variable {σ τ ε : Type} {service : Service (StateM τ)} {l : Limits}
  {counter : Counter (PanicM σ) ε} {at_ : Moment} {r : Request} {route : Route}

theorem admission_apply (w : σ) :
    let key := RateLimit.key (RateLimit.clientAddress r.headers r.peer) route.path
    let checked := RateLimit.check l counter key at_.suffix at_.now.millis w
    admission counter l at_ r route w = (checked.1.bind (withEnd l at_.now), checked.2) := by
  intro key checked
  have done : RateLimit.check l counter key at_.suffix at_.now.millis w = checked := rfl
  rw [admission, PanicM.bind_apply, done]
  cases checked.1 with
  | error p => rfl
  | ok verdict =>
      cases verdict with
      | error e => rfl
      | ok n =>
          dsimp only [Except.bind, withEnd]
          rw [windowEnd, PanicM.addWords_bind_apply]
          split <;> rfl

theorem limited_hosted (next : PanicM (σ × τ) Reply) :
    limited (hosted service l counter) at_ r route next
      = (do
        match ← onFirst (admission counter l at_ r route) with
        | .error e => pure (.ofProblem (.rateLimited e.retryAfter))
        | .ok (n, ends) =>
            let reply ← next
            pure { reply with response := tellLimit l ends n reply.response }) := by
  rw [admission, onFirst_bind, bind_assoc, ← check_lift, limited]
  refine bind_congr fun checked => ?_
  cases checked with
  | error e => rfl
  | ok n =>
      dsimp only
      rw [onFirst_bind, bind_assoc, windowEnd, windowEnd, ← addWords_onFirst]
      rfl

/-- A route whose reply is the same whatever the limiter counts, and which leaves both states
alone. -/
theorem guarded_of_steady (open_ : route.access = .limited)
    {next : Option Caller → PanicM (σ × τ) Reply} {reply : Reply} {t : τ}
    (steady : ∀ w, next none (w, t) = (.ok reply, (w, t))) (w : σ) :
    guarded (hosted service l counter) at_ r route next (w, t)
      = ((admission counter l at_ r route w).1.map fun admitted => counted l admitted reply,
          ((admission counter l at_ r route w).2, t)) := by
  rw [guarded, open_]
  dsimp only
  rw [limited_hosted, PanicM.bind_apply, onFirst]
  cases (admission counter l at_ r route w).1 with
  | error p => rfl
  | ok admitted =>
      cases admitted with
      | error e => rfl
      | ok admitted =>
          dsimp only
          rw [PanicM.bind_apply, steady]
          rfl

/-- A request that is admitted is answered by its route, and told how many are left. -/
theorem answer_of_admitted (versioned : route ∈ Route.versioned) (open_ : route.access = .limited)
    (path : pathOf r.target = base ++ route.path) (method : r.method = route.method)
    {w : σ} {n : Nat} {ends : UInt64}
    (admitted : (admission counter l at_ r route w).1 = .ok (.ok (n, ends)))
    {reply : Reply} {t t' : τ}
    (handled : ∀ w,
      handle (hosted service l counter) at_ r none route (w, t) = (.ok reply, (w, t'))) :
    answer (hosted service l counter) at_ r (w, t)
      = (.ok { reply with response := tellLimit l ends n reply.response },
          ((admission counter l at_ r route w).2, t')) := by
  rw [answer_eq_guarded _ _ versioned path method, guarded, open_]
  dsimp only
  rw [limited_hosted, PanicM.bind_apply, onFirst, admitted]
  dsimp only
  rw [PanicM.bind_apply, handled]
  rfl

end

end Gatehouse.Api
