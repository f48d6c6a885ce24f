import Gatehouse.Json.Value

/-!
Responses. A header is set at most once, and a later setting replaces an earlier one.
-/

namespace Gatehouse.Api

structure Response where
  status : Nat
  headers : List (String × String) := []
  body : String := ""
  deriving DecidableEq, Repr

def Response.header? (r : Response) (name : String) : Option String := r.headers.lookup name

def Response.setHeader (r : Response) (name value : String) : Response :=
  { r with headers := (name, value) :: r.headers.filter (·.1 ≠ name) }

def Response.json (status : Nat) (value : Json.Value) : Response :=
  ⟨status, [("content-type", "application/json")], value.compact⟩

def Response.text (status : Nat) (body : String) : Response :=
  ⟨status, [("content-type", "text/plain; charset=utf-8")], body⟩

def Response.empty (status : Nat) : Response := ⟨status, [], ""⟩

end Gatehouse.Api
