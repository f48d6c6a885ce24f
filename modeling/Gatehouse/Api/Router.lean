import Gatehouse.Api.Handler
import Gatehouse.Api.Route
import Gatehouse.Api.Target
import Gatehouse.RateLimit.Limiter

/-!
Requests from their arrival to the response. The guard of a route comes before the check of
the method, so a request with a wrong method is counted, or needs a token, all the same.
-/

namespace Gatehouse.Api

/-- The service behind its interface, with the limiter of its public routes. -/
structure App (m : Type → Type) (ε : Type) where
  service : Service m
  limits : RateLimit.Limits
  counter : RateLimit.Counter m ε

/-- Tell how many requests are left, of which `counted` have been made, and when the window is
over. -/
def tellLimit (l : RateLimit.Limits) (ends : UInt64) (counted : Nat) (r : Response) : Response :=
  ((r.setHeader "x-ratelimit-limit" (toString l.maxRequests)).setHeader
    "x-ratelimit-remaining" (toString (l.maxRequests.toNat - counted))).setHeader
    "x-ratelimit-reset" (toString ends)

variable {m : Type → Type} [Monad m] {ε : Type}

/-- Go on with a caller, who must be there. -/
def withCaller (caller : Option Caller) (next : Caller → m Reply) : m Reply :=
  match requireCaller caller with
  | .error p => pure (.ofProblem p)
  | .ok c => next c

/-- What a route does. -/
def handle (app : App m ε) (at_ : Moment) (r : Request) (caller : Option Caller) :
    Route → m Reply
  | .health => pure healthy
  | .register => register app.service at_ r
  | .login => login app.service at_ r
  | .refreshToken => refreshToken app.service at_ r
  | .logout => logout app.service r
  | .requestReset => requestReset r
  | .resetPassword => resetPassword app.service at_ r
  | .logoutAll => withCaller caller (logoutAll app.service)
  | .profile => withCaller caller (profile app.service)
  | .adminUsers => withCaller caller fun c => pure (adminUsers c)

/-- Do what is to be done behind a response. Nobody is told how it ends. -/
def finish (app : App m ε) (at_ : Moment) (reply : Reply) : m Unit :=
  match reply.reset with
  | none => pure ()
  | some email => do
      let _ ← app.service.requestReset email at_.now at_.draws
      pure ()

/-- The response when answering takes too long. -/
def timedOut : Response := .empty 408

variable [MonadExceptOf Panic m]

/-- The seconds at which a window that starts now is over. -/
def windowEnd (l : RateLimit.Limits) (now : Timestamp) : m UInt64 :=
  addWords (.ofNat now.seconds.toNat) l.windowSeconds

/-- Count a request, and go on unless there have been too many. -/
def limited (app : App m ε) (at_ : Moment) (r : Request) (route : Route) (next : m Reply) :
    m Reply := do
  let key := RateLimit.key (RateLimit.clientAddress r.headers r.peer) route.path
  match ← RateLimit.check app.limits app.counter key at_.suffix at_.now.millis with
  | .error e => pure (.ofProblem (.rateLimited e.retryAfter))
  | .ok n =>
      let ends ← windowEnd app.limits at_.now
      let reply ← next
      pure { reply with response := tellLimit app.limits ends n reply.response }

/-- Go on with the caller that the guard of a route lets pass. -/
def guarded (app : App m ε) (at_ : Moment) (r : Request) (route : Route)
    (next : Option Caller → m Reply) : m Reply :=
  match route.access with
  | .open => next none
  | .limited => limited app at_ r route (next none)
  | .authenticated =>
      match authenticate app.service.tokens at_.now.seconds r.headers with
      | .error p => pure (.ofProblem p)
      | .ok c => next (some c)
  | .administrators =>
      match authenticate app.service.tokens at_.now.seconds r.headers with
      | .error p => pure (.ofProblem p)
      | .ok c =>
          match requireRole .admin (some c) with
          | .error p => pure (.ofProblem p)
          | .ok c => next (some c)

/-- Answer a request. What is to be done behind the response is left to the caller. -/
def answer (app : App m ε) (at_ : Moment) (r : Request) : m Reply :=
  match Route.ofPath? (pathOf r.target) with
  | none => pure ⟨.empty 404, none⟩
  | some route => do
      if route.accepts r.method then
        let reply ← guarded app at_ r route fun caller => handle app at_ r caller route
        pure (if r.method = "HEAD" then
          { reply with response := { reply.response with body := "" } } else reply)
      else
        let reply ← guarded app at_ r route fun _ => pure ⟨.empty 405, none⟩
        pure { reply with response := reply.response.setHeader "allow" route.allow }

end Gatehouse.Api
