import Gatehouse.Bounds
import Gatehouse.Net.Url
import Gatehouse.Store.Error
import Gatehouse.Text.Quoted

/-!
The address of a database. It has to be an address of a service whose names are text, and of its
parameters those for encryption, numbers and addresses have to be of their form. The first fault
counts: of the address, of the parts in their order, of the parameters in theirs.
-/

namespace Gatehouse.Sql

inductive LocationFault where
  | malformed (cause : Net.UrlFault)
  | notText (cause : Text.Utf8Fault)
  | badEncryption (text : String)
  | badNumber (cause : Text.NumeralFault)
  | badAddress
  deriving DecidableEq, Repr

def LocationFault.message : LocationFault → String
  | .malformed cause => cause.message
  | .notText cause => cause.message
  | .badEncryption text =>
      s!"error with configuration: unknown value {Text.quoted text} for `ssl_mode`"
  | .badNumber cause => cause.message
  | .badAddress => "invalid IP address syntax"

/-- The failure to open a database at an address. -/
def LocationFault.error (f : LocationFault) : Store.DatabaseError :=
  .configuration s!"Invalid database URL: error with configuration: {f.message}"

def encryptions : List String :=
  ["disable", "allow", "prefer", "require", "verify-ca", "verify-full"]

/-- A part of an address that stands for text. -/
def checkText (cs : List Char) : Except LocationFault Unit :=
  match Text.utf8Fault? (Net.decodedBytes cs) with
  | some cause => .error (.notText cause)
  | none => .ok ()

/-- A host whose text begins with a slash is a socket in the file system. -/
def checkHost : Option Net.Host → Except LocationFault Unit
  | some (.text cs) =>
      if (Net.decodedBytes cs).head? = some 47 then checkText cs else .ok ()
  | _ => .ok ()

def checkNumber (bound : Nat) (value : String) : Except LocationFault Unit :=
  match Text.readNatural bound value with
  | .error cause => .error (.badNumber cause)
  | .ok _ => .ok ()

/-- Check a parameter; those of other names are of any form. -/
def checkParameter (p : String × String) : Except LocationFault Unit :=
  match p.1 with
  | "sslmode" | "ssl-mode" =>
      if encryptions.contains (String.ofList (p.2.toList.map Char.toLower)) then .ok ()
      else .error (.badEncryption p.2)
  | "statement-cache-capacity" => checkNumber Bounds.max64 p.2
  | "port" => checkNumber 65535 p.2
  | "hostaddr" => if (Net.Address.read? p.2).isSome then .ok () else .error .badAddress
  | _ => .ok ()

/-- Check an address of a database. -/
def locate (s : String) : Except LocationFault Unit :=
  match Net.Url.read s with
  | .error cause => .error (.malformed cause)
  | .ok u => do
      checkHost u.host
      checkText u.user
      checkText (u.password.getD [])
      checkText (u.path.dropWhile (· == '/'))
      u.parameters.forM checkParameter

end Gatehouse.Sql
