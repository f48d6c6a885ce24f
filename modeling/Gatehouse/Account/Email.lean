import Gatehouse.Text.Cut

/-!
The addresses that accounts can be registered under: a local part, an at sign, and a domain
whose last label is of two or more letters.
-/

namespace Gatehouse.Account.Email

def isLetter (c : Char) : Bool := ('a' ≤ c && c ≤ 'z') || ('A' ≤ c && c ≤ 'Z')

def isDigit (c : Char) : Bool := '0' ≤ c && c ≤ '9'

def isLocal (c : Char) : Bool :=
  isLetter c || isDigit c || c == '.' || c == '_' || c == '%' || c == '+' || c == '-'

def isDomain (c : Char) : Bool := isLetter c || isDigit c || c == '.' || c == '-'

/-- The longest address, in bytes. -/
def maxBytes : Nat := 254

/-- The form of an address. -/
def isWellFormed (cs : List Char) : Bool :=
  match Text.cutFirst '@' cs with
  | none => false
  | some (before, domain) =>
      !before.isEmpty && before.all isLocal &&
        match Text.cutLast '.' domain with
        | none => false
        | some (host, top) =>
            !host.isEmpty && host.all isDomain && 2 ≤ top.length && top.all isLetter

inductive Problem where
  | missing
  | tooLong
  | malformed
  deriving DecidableEq, Repr

def Problem.message : Problem → String
  | .missing => "Email is required"
  | .tooLong => "Email must be at most 254 characters long"
  | .malformed => "Invalid email format"

def check (email : String) : Except Problem Unit :=
  if email.isEmpty then .error .missing
  else if maxBytes < email.utf8ByteSize then .error .tooLong
  else if isWellFormed email.toList then .ok ()
  else .error .malformed

end Gatehouse.Account.Email
