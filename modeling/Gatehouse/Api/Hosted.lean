import Gatehouse.Api.Router

/-!
The service and the limiter over states of their own: neither sees the other's.
-/

namespace Gatehouse

/-- The same service inside a larger state. -/
def Service.lift {m n : Type → Type} (f : {α : Type} → m α → n α) (s : Service m) : Service n where
  store := s.store.lift f
  tokens := s.tokens
  hashing := s.hashing
  deliver u token := f (s.deliver u token)

end Gatehouse

namespace Gatehouse.Api

variable {σ τ ε : Type}

/-- Run in the first of two states. -/
def onFirst {α : Type} (x : PanicM σ α) : PanicM (σ × τ) α := fun s =>
  ((x s.1).1, ((x s.1).2, s.2))

theorem onFirst_bind {α β : Type} (x : PanicM σ α) (f : α → PanicM σ β) :
    (onFirst (x >>= f) : PanicM (σ × τ) β) = onFirst x >>= fun a => onFirst (f a) := by
  funext s
  rw [PanicM.bind_apply, onFirst, onFirst, PanicM.bind_apply]
  cases (x s.1).1 <;> rfl

/-- Run in the second of two states. -/
def onSecond {α : Type} (x : StateM τ α) : PanicM (σ × τ) α := fun s =>
  (.ok (x s.2).1, (s.1, (x s.2).2))

theorem onSecond_bind {α β : Type} (x : StateM τ α) (f : α → StateM τ β) :
    (onSecond (x >>= f) : PanicM (σ × τ) β) = onSecond x >>= fun a => onSecond (f a) := rfl

/-- A service, with its requests limited by what is counted in a store beside its own. -/
def hosted (service : Service (StateM τ)) (limits : RateLimit.Limits)
    (counter : RateLimit.Counter (PanicM σ) ε) : App (PanicM (σ × τ)) ε where
  service := service.lift onSecond
  limits := limits
  counter := counter.lift onFirst

end Gatehouse.Api
