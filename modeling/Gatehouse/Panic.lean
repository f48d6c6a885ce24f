import Gatehouse.Bounds

/-!
Computations that may break off. There is no answer then, and what was done before stays done.
-/

namespace Gatehouse

/-- Why a computation breaks off. -/
inductive Panic where
  /-- A sum does not fit its word. -/
  | overflow
  /-- The clock cannot tell an instant. -/
  | instant
  deriving DecidableEq, Repr

/-- Computations over a state that may break off. -/
abbrev PanicM (σ : Type) := ExceptT Panic (StateM σ)

/-- The sum of two words. -/
def addWords {m : Type → Type} [Monad m] [MonadExceptOf Panic m] (a b : UInt64) : m UInt64 :=
  if a.toNat + b.toNat ≤ Bounds.max64 then pure (a + b) else throwThe Panic .overflow

namespace PanicM

variable {σ α β : Type}

theorem bind_apply (x : PanicM σ α) (f : α → PanicM σ β) (s : σ) :
    (x >>= f) s = match (x s).1 with
      | .ok a => f a (x s).2
      | .error p => (.error p, (x s).2) := by
  change ExceptT.bindCont f (x s).1 (x s).2 = _
  cases (x s).1 <;> rfl

theorem pure_apply (a : α) (s : σ) : (pure a : PanicM σ α) s = (.ok a, s) := rfl

theorem addWords_bind_apply (a b : UInt64) (f : UInt64 → PanicM σ α) (s : σ) :
    (addWords a b >>= f) s
      = if a.toNat + b.toNat ≤ Bounds.max64 then f (a + b) s else (.error .overflow, s) := by
  rw [addWords]
  split <;> rfl

end PanicM

theorem toNat_addWords {a b : UInt64} (fits : a.toNat + b.toNat ≤ Bounds.max64) :
    (a + b).toNat = a.toNat + b.toNat := by
  rw [UInt64.toNat_add]
  exact Nat.mod_eq_of_lt (Nat.lt_succ_of_le fits)

end Gatehouse
