import Gatehouse.Proofs.Routing
import Mathlib.Tactic.Choose

/-!
What is done behind the limiter. The service works in its own state: it neither reads nor writes
what the limiter counts, and its responses are never the refusal of the limiter.
-/

namespace Gatehouse.Api

variable {σ τ ε α β : Type}

/-- Done in the second of two states, without a look at the first. -/
def Beside (x : PanicM (σ × τ) α) : Prop := ∃ y : StateM τ α, x = onSecond y

theorem Beside.pure (a : α) : Beside (pure a : PanicM (σ × τ) α) := ⟨Pure.pure a, rfl⟩

theorem Beside.bind {x : PanicM (σ × τ) α} {f : α → PanicM (σ × τ) β} (first : Beside x)
    (rest : ∀ a, Beside (f a)) : Beside (x >>= f) := by
  obtain ⟨y, rfl⟩ := first
  choose g same using rest
  refine ⟨y >>= g, ?_⟩
  rw [onSecond_bind]
  exact bind_congr same

section
variable (s : Service (StateM τ))

theorem run_beside (op : Store.Op α) :
    Beside ((s.lift onSecond).store.run op : PanicM (σ × τ) _) := ⟨s.store.run op, rfl⟩

theorem register_beside (email password : String) (role : Option Account.Role) (now : Timestamp)
    (draws : Service.Draws) :
    Beside ((s.lift onSecond).register email password role now draws : PanicM (σ × τ) _) :=
  ⟨_, register_lift s email password role now draws⟩

theorem login_beside (email password : String) (client : Account.Client) (now : Timestamp)
    (draws : Service.Draws) :
    Beside ((s.lift onSecond).login email password client now draws : PanicM (σ × τ) _) :=
  ⟨_, login_lift s email password client now draws⟩

theorem user_beside (id : Uuid) : Beside ((s.lift onSecond).user id : PanicM (σ × τ) _) :=
  ⟨_, user_lift s id⟩

theorem renew_beside (u : Account.User) (session : Account.Session) (client : Account.Client)
    (now : Timestamp) (draws : Service.Draws) :
    Beside ((s.lift onSecond).renew u session client now draws : PanicM (σ × τ) _) := by
  refine .bind (run_beside s _) fun rotated => ?_
  split <;> exact .pure _

theorem refresh_beside (token : String) (client : Account.Client) (now : Timestamp)
    (draws : Service.Draws) :
    Beside ((s.lift onSecond).refresh token client now draws : PanicM (σ × τ) _) := by
  rw [Service.refresh]
  split
  · exact .pure _
  · refine .bind (user_beside s _) fun user => ?_
    split
    · exact .pure _
    · refine .bind (run_beside s _) fun session => ?_
      split
      · exact .pure _
      · exact .pure _
      · split
        · exact .pure _
        · split
          · exact .bind (run_beside s _) fun _ => .pure _
          · exact renew_beside s _ _ _ _ _

theorem logout_beside (token : String) :
    Beside ((s.lift onSecond).logout token : PanicM (σ × τ) _) := by
  refine .bind (run_beside s _) fun session => ?_
  split
  · exact .pure _
  · exact .pure _
  · refine .bind (run_beside s _) fun deleted => ?_
    split <;> exact .pure _

theorem requestReset_beside (email : String) (now : Timestamp) (draws : Service.Draws) :
    Beside ((s.lift onSecond).requestReset email now draws : PanicM (σ × τ) _) := by
  refine .bind (run_beside s _) fun user => ?_
  split
  · exact .pure _
  · exact .pure _
  · refine .bind (run_beside s _) fun created => ?_
    split
    · exact .pure _
    · exact .bind ⟨_, rfl⟩ fun _ => .pure _

theorem commitReset_beside (r : Account.Reset) (u : Account.User) (now : Timestamp) :
    Beside ((s.lift onSecond).commitReset r u now : PanicM (σ × τ) _) := by
  refine .bind (run_beside s _) fun consumed => ?_
  split
  · exact .pure _
  · exact .pure _
  · refine .bind (run_beside s _) fun ended => ?_
    split <;> exact .pure _

theorem resetPassword_beside (token password : String) (now later : Timestamp) (salt : Bytes) :
    Beside ((s.lift onSecond).resetPassword token password now later salt :
      PanicM (σ × τ) _) := by
  rw [Service.resetPassword]
  split
  · exact .pure _
  · refine .bind (user_beside s _) fun user => ?_
    split
    · exact .pure _
    · refine .bind (run_beside s _) fun reset => ?_
      split
      · exact .pure _
      · exact .pure _
      · split
        · exact .pure _
        · split
          · exact .pure _
          · split
            · exact .pure _
            · split
              · exact .pure _
              · exact commitReset_beside s _ _ _

end

/-- A reply that is made in the second of two states and is not a refusal of the limiter. -/
def Behind (x : PanicM (σ × τ) Reply) : Prop :=
  ∃ y : StateM τ Reply, x = onSecond y ∧ ∀ t, (y t).1.response.status ≠ 429

theorem Behind.pure {reply : Reply} (other : reply.response.status ≠ 429) :
    Behind (pure reply : PanicM (σ × τ) Reply) := ⟨Pure.pure reply, rfl, fun _ => other⟩

theorem Problem.status_response (p : Problem) : p.response.status = p.status := by
  rw [response]
  split <;> rfl

theorem Behind.badRequest {p : Problem} (bad : p.status = 400) :
    Behind (Pure.pure (.ofProblem p) : PanicM (σ × τ) Reply) :=
  .pure (by rw [Reply.ofProblem, Problem.status_response, bad]; decide)

theorem Problem.status_ofService (e : Service.Error) : (ofService e).status ≠ 429 := by
  cases e <;> simp [ofService, internal]

theorem Reply.status_json {status : Nat} (v : Json.Value) (other : status ≠ 429) :
    (Reply.json status v).response.status ≠ 429 := other

/-- Routes tell what the service answers. -/
theorem Behind.told {x : PanicM (σ × τ) (Except Service.Error α)} {reply : α → Reply}
    (own : Beside x) (other : ∀ a, (reply a).response.status ≠ 429) :
    Behind (x >>= fun answer => Pure.pure (told answer reply)) := by
  obtain ⟨y, rfl⟩ := own
  refine ⟨y >>= fun answer => Pure.pure (Api.told answer reply), rfl, fun t => ?_⟩
  rw [bind_apply, pure_apply]
  cases (y t).1 with
  | error e => exact (Problem.status_response _).symm ▸ Problem.status_ofService e
  | ok a => exact other a

theorem Behind.body {r : Request} {form : Form} {next : Json.Entries → PanicM (σ × τ) Reply}
    (rest : ∀ es, Behind (next es)) : Behind (withBody r form next) := by
  rw [withBody]
  split
  · exact .badRequest rfl
  · exact rest _

/-- What a counted route does behind the limiter. -/
theorem handle_behind {route : Route} (counted : route.access = .limited)
    (service : Service (StateM τ)) (l : RateLimit.Limits) (counter : RateLimit.Counter (PanicM σ) ε)
    (at_ : Moment) (r : Request) :
    Behind (handle (hosted service l counter) at_ r none route) := by
  cases route with
  | register =>
      refine .body fun es => ?_
      dsimp only
      split
      · exact .badRequest rfl
      · exact .told (register_beside service _ _ _ _ _) fun _ =>
          Reply.status_json _ (by decide)
  | login =>
      exact .body fun es => .told (login_beside service _ _ _ _ _) fun _ =>
        Reply.status_json _ (by decide)
  | refreshToken =>
      exact .body fun es => .told (refresh_beside service _ _ _ _) fun _ =>
        Reply.status_json _ (by decide)
  | logout =>
      exact .body fun es => .told (logout_beside service _) fun _ =>
        Reply.status_json _ (by decide)
  | requestReset =>
      refine .body fun es => ?_
      dsimp only
      split
      · exact .badRequest rfl
      · exact .pure (Reply.status_json _ (by decide))
  | resetPassword =>
      refine .body fun es => ?_
      dsimp only
      split
      · exact .badRequest rfl
      · exact .told (resetPassword_beside service _ _ _ _ _) fun _ =>
          Reply.status_json _ (by decide)
  | health | logoutAll | profile | adminUsers => cases counted

theorem finish_beside (service : Service (StateM τ)) (l : RateLimit.Limits)
    (counter : RateLimit.Counter (PanicM σ) ε) (at_ : Moment) (reply : Reply) :
    Beside (finish (hosted service l counter) at_ reply) := by
  rw [finish]
  split
  · exact .pure _
  · exact .bind (requestReset_beside service _ _ _) fun _ => .pure _

end Gatehouse.Api
