import Gatehouse.Net.Host
import Gatehouse.Net.Path
import Gatehouse.Text.Integer

/-!
Addresses of services: a scheme, perhaps a user, a password, a host and a port, a path and
parameters. The schemes of the web have hosts that are not empty, and a backslash counts as a
slash in their addresses; so it does for files, which need no host and have no port.
-/

namespace Gatehouse.Net

/-- Why a text is no address of a service. -/
inductive UrlFault where
  | noScheme
  | badHost (cause : HostFault)
  | badPort
  deriving DecidableEq, Repr

def UrlFault.message : UrlFault → String
  | .noScheme => "relative URL without a base"
  | .badHost cause => cause.message
  | .badPort => "invalid port number"

/-- The parts are not decoded. The host is `none` when it is missing or empty. -/
structure Url where
  scheme : String
  user : List Char := []
  password : Option (List Char) := none
  host : Option Host := none
  port : Option Nat := none
  path : List Char
  query : List Char
  deriving DecidableEq, Repr

namespace Url

/-- Control characters and spaces are dropped at both ends, line ends and tabs everywhere. -/
def tidy (s : String) : List Char :=
  let isEdge (c : Char) : Bool := c ≤ ' '
  let inner := ((s.toList.dropWhile isEdge).reverse.dropWhile isEdge).reverse
  inner.filter fun c => c != '\t' && c != '\n' && c != '\x0d'

/-- The scheme in lower case, and what is behind its colon. -/
def scheme? (cs : List Char) : Option (String × List Char) :=
  match Text.cutFirst ':' cs with
  | some (c :: name, rest) =>
      if c.isAlpha && name.all fun x => x.isAlphanum || x == '+' || x == '-' || x == '.' then
        some (String.ofList ((c :: name).map Char.toLower), rest)
      else none
  | _ => none

/-- Kinds of schemes that are read in ways of their own. -/
inductive Kind where
  | web
  | files
  | other
  deriving DecidableEq, Repr

def Kind.ofScheme (scheme : String) : Kind :=
  if ["http", "https", "ws", "wss", "ftp"].contains scheme then .web
  else if scheme = "file" then .files
  else .other

def Kind.isSlash (k : Kind) (c : Char) : Bool := c == '/' || (k != .other && c == '\\')

/-- Where the part in front of the path ends. -/
def Kind.isEnd (k : Kind) (c : Char) : Bool := k.isSlash c || c == '?' || c == '#'

/-- Add path and parameters, which `rest` holds. Where a host stands in front, or for the web
and for files, the path begins with a slash, written or not. -/
def withRest (u : Url) (k : Kind) (rooted : Bool) (rest : List Char) : Url :=
  let path := rest.takeWhile fun c => c != '?' && c != '#'
  let query := ((Text.untilFirst '#' rest).dropWhile (· != '?')).drop 1
  let slashed := path.map fun c => if k.isSlash c then '/' else c
  let path := match slashed with
    | '/' :: cs => Path.settled (k == .files) cs
    | [] => if k == .other then [] else ['/']
    | cs => if rooted then Path.settled (k == .files) cs else cs
  { u with path := path, query := query }

/-- Where the host ends: at a colon outside of brackets. -/
def hostLength (inside : Bool) : List Char → Nat
  | [] => 0
  | c :: cs =>
      if c = ':' ∧ !inside then 0
      else 1 + hostLength (c == '[' || (inside && c != ']')) cs

/-- The number behind the colon and what follows it, which is nothing but a backslash and more;
none when there are no digits. -/
def readPort (cs : List Char) : Except UrlFault (Option Nat × List Char) :=
  let (digits, rest) := (cs.takeWhile (· != '\\'), cs.dropWhile (· != '\\'))
  match digits with
  | [] => .ok (none, rest)
  | ds =>
      match Text.digits? ds with
      | some n => if n ≤ 65535 then .ok (some n, rest) else .error .badPort
      | none => .error .badPort

/-- The name of the user and, where something is behind the first colon, the password. -/
def credentials (cs : List Char) : List Char × Option (List Char) :=
  match Text.cutFirst ':' cs with
  | some (user, []) => (user, none)
  | some (user, password) => (user, some password)
  | none => (cs, none)

def readHost (k : Kind) (cs : List Char) : Except UrlFault (Option Host) :=
  let host := if k == .other then Host.readPlain cs else Host.readName cs
  match host with
  | .error cause => .error (.badHost cause)
  | .ok host => .ok (if cs.isEmpty then none else some host)

/-- Read what follows the two slashes. -/
def readAuthority (scheme : String) (k : Kind) (cs : List Char) : Except UrlFault Url := do
  let authority := cs.takeWhile fun c => !k.isEnd c
  let rest := cs.dropWhile fun c => !k.isEnd c
  let (known, place) := (Text.cutLast '@' authority).getD ([], authority)
  if known.isEmpty && authority.contains '@' && place.isEmpty && !rest.isEmpty then
    .error (.badHost .empty)
  let (user, password) := credentials known
  let size := hostLength false place
  if size = 0 && (k == .web || !user.isEmpty || password.isSome || size < place.length) then
    .error (.badHost .empty)
  let host ← readHost k (place.take size)
  let (port, behind) ← readPort (place.drop (size + 1))
  return withRest ⟨scheme, user, password, host, port, [], []⟩ k true (behind ++ rest)

/-- Read what follows the scheme of an address of a file. A host may stand behind two slashes,
unless it is a drive. -/
def readFile (scheme : String) (cs : List Char) : Except UrlFault Url := do
  let u : Url := { scheme := scheme, path := [], query := [] }
  match cs with
  | a :: b :: behind =>
      if Kind.files.isSlash a && Kind.files.isSlash b then
        let place := behind.takeWhile fun c => !Kind.files.isEnd c
        if place.isEmpty || Path.isDrive place then
          return withRest u .files true behind
        else
          let host ← readHost .files place
          return withRest { u with host := host } .files true (behind.drop place.length)
      else return withRest u .files true cs
  | cs => return withRest u .files true cs

/-- Read an address. -/
def read (s : String) : Except UrlFault Url :=
  match scheme? (tidy s) with
  | none => .error .noScheme
  | some (scheme, rest) =>
      match Kind.ofScheme scheme, rest with
      | .files, cs => readFile scheme cs
      | .web, cs => readAuthority scheme .web (cs.dropWhile Kind.web.isSlash)
      | .other, '/' :: '/' :: cs => readAuthority scheme .other cs
      | .other, cs => .ok (withRest { scheme := scheme, path := [], query := [] } .other false cs)

/-- The parameters, decoded. -/
def parameters (u : Url) : List (String × String) :=
  ((Text.splitAt '&' u.query).filter (!·.isEmpty)).map fun p =>
    let (name, value) := (Text.cutFirst '=' p).getD (p, [])
    (Text.lossyText (queryBytes name), Text.lossyText (queryBytes value))

/-- The last parameter of a name. -/
def parameter? (u : Url) (name : String) : Option String := u.parameters.reverse.lookup name

end Url
end Gatehouse.Net
