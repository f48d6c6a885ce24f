import Gatehouse.Net.Address
import Gatehouse.Net.Headers
import Gatehouse.Uuid

/-!
Whom a request is charged to: the address of the client and the path. The address is what
proxies say it is, or else that of the peer. The key of a pair is a digest, so its length does
not depend on the headers.
-/

namespace Gatehouse.RateLimit

/-- A trimmed text that is not empty. -/
def nonBlank? (s : String) : Option String :=
  let t := Text.trim s
  if t.isEmpty then none else some t

/-- The address that the first entry of a list of forwarders names. -/
def forwardedFor? (hs : Net.Headers) : Option String :=
  (hs.text? "x-forwarded-for").bind fun s =>
    nonBlank? (String.ofList (Text.untilFirst ',' s.toList))

def realIp? (hs : Net.Headers) : Option String := (hs.text? "x-real-ip").bind nonBlank?

/-- The address of the client. -/
def clientAddress (hs : Net.Headers) (peer : Option Net.Endpoint) : String :=
  match forwardedFor? hs with
  | some ip => ip
  | none =>
      match realIp? hs with
      | some ip => ip
      | none =>
          match peer with
          | some e => e.address.text
          | none => "unknown"

/-- What stands for a pair before it is digested. -/
def charge (address path : String) : String := address ++ "|" ++ path

/-- The key of a pair of address and path. -/
def key (address path : String) : String :=
  "ratelimit:" ++ (Uuid.named Uuid.urlSpace (Text.utf8 (charge address path))).text

end Gatehouse.RateLimit
