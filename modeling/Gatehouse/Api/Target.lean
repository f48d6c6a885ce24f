/-!
The target of a request. It is a path, perhaps with a query and a fragment, or a whole address
of which scheme and host do not matter.
-/

namespace Gatehouse.Api

def isSchemeChar (c : Char) : Bool := c.isAlphanum || c == '+' || c == '-' || c == '.'

/-- The path goes up to the query or the fragment. -/
def isPathEnd (c : Char) : Bool := c == '?' || c == '#'

/-- What stands behind scheme and host of a whole address. -/
def behindHost? (cs : List Char) : Option (List Char) :=
  match cs.dropWhile isSchemeChar with
  | ':' :: '/' :: '/' :: rest => some (rest.dropWhile fun c => c != '/' && !isPathEnd c)
  | _ => none

/-- The path of a target; that of an address without one is the root. A target of another form
has no path. -/
def pathOf (target : String) : String :=
  let path (cs : List Char) := String.ofList (cs.takeWhile fun c => !isPathEnd c)
  match target.toList with
  | '/' :: cs => path ('/' :: cs)
  | cs =>
      match behindHost? cs with
      | some rest => if (path rest).isEmpty then "/" else path rest
      | none => ""

end Gatehouse.Api
