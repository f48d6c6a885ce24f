import Gatehouse.Bounds
import Gatehouse.Net.Url

/-!
Where a server of sorted sets is: behind a host and a port, or behind a socket in the file
system. Connections are not encrypted, so addresses that ask for that are refused.
-/

namespace Gatehouse.SortedSet

inductive Location where
  | host (host : Net.Host) (port : Nat) (database : Int)
  | socket (path : List Char) (database : Int)
  deriving DecidableEq, Repr

namespace Location

def defaultPort : Nat := 6379

/-- The number of a database. -/
def database? (text : String) : Option Int :=
  Text.integer? Bounds.minSigned Bounds.maxSigned text

/-- The number of a database from a path, zero when the path is empty. -/
def ofPath? (path : List Char) : Option Int :=
  let inner := ((path.dropWhile (· == '/')).reverse.dropWhile (· == '/')).reverse
  if inner.isEmpty then some 0 else database? (String.ofList inner)

/-- The version of the language that the server is asked to speak. -/
def isProtocol (text : String) : Bool := ["2", "3", "resp2", "resp3"].contains text

/-- The names of the user and the password are text once they are decoded. -/
def isText (cs : List Char) : Bool := (Text.utf8Fault? (Net.decodedBytes cs)).isNone

def ofUrl? (u : Net.Url) : Option Location :=
  if !(u.parameter? "protocol").all isProtocol then none
  else
    match u.scheme, u.host with
    | "redis", some place =>
        if !isText u.user || !isText (u.password.getD []) then none
        else (ofPath? u.path).map fun n => .host place (u.port.getD defaultPort) n
    | "unix", place | "redis+unix", place =>
        if !place.all (· == .text "localhost".toList) || u.path.head? != some '/' then none
        else
          match u.parameter? "db" with
          | none => some (.socket u.path 0)
          | some text => (database? text).map fun n => .socket u.path n
    | _, _ => none

/-- Read an address of a server. -/
def read? (s : String) : Option Location :=
  match Net.Url.read s with
  | .ok u => ofUrl? u
  | .error _ => none

end Location
end Gatehouse.SortedSet
