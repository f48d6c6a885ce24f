import Gatehouse.Net.Headers

/-!
Media types of request bodies. A body is taken as JSON when its type is `application/json` or
ends in `+json`; a type that is not well formed is none.
-/

namespace Gatehouse.Api

/-- Characters of tokens. -/
def isToken (c : Char) : Bool := c.isAlphanum || "!#$%&'*+-.^_\x60|~".toList.contains c

/-- Parameters, each a name with a value; a value may stand in quotes. -/
inductive Parameter where
  /-- Before a name; spaces may stand here. -/
  | start
  | name
  /-- Behind the equals sign. -/
  | value
  | token
  | quote
  | quoted
  /-- Behind a closing quote. -/
  | behind
  deriving DecidableEq, Repr

/-- The state behind one more character. -/
def Parameter.next? : Parameter → Char → Option Parameter
  | .start, c => if c = ' ' then some .start else if isToken c then some .name else none
  | .name, c => if isToken c then some .name else if c = '=' then some .value else none
  | .value, c => if c = '"' then some .quote else if isToken c then some .token else none
  | .token, c => if c = ';' then some .start else if isToken c then some .token else none
  | .quote, c => if 31 < c.toNat ∧ c.toNat ≠ 127 then some .quoted else none
  | .quoted, c =>
      if c = '"' then some .behind
      else if 31 < c.toNat ∧ c.toNat ≠ 127 then some .quoted else none
  | .behind, c => if c = ';' then some .start else if c = ' ' then some .behind else none

/-- Parameters may end here. -/
def Parameter.isEnd : Parameter → Bool
  | .start | .value | .token | .behind => true
  | .name | .quote | .quoted => false

def parametersOk (cs : List Char) : Bool :=
  match cs.foldlM Parameter.next? .start with
  | some p => p.isEnd
  | none => false

/-- A type, a subtype and the suffix behind the last plus sign of the subtype, in lower
case. -/
structure MediaType where
  type : String
  subtype : String
  suffix : Option String
  deriving DecidableEq, Repr

def lower (cs : List Char) : String := String.ofList (cs.map Char.toLower)

/-- A plus sign at the start of a subtype does not part it. -/
def MediaType.ofParts (type subtype : List Char) : MediaType :=
  match Text.cutLast '+' subtype with
  | some (c :: cs, suffix) => ⟨lower type, lower (c :: cs), some (lower suffix)⟩
  | _ => ⟨lower type, lower subtype, none⟩

def MediaType.read? (text : String) : Option MediaType :=
  match Text.cutFirst '/' text.toList with
  | none => none
  | some (type, rest) =>
      let (subtype, parameters) := match Text.cutFirst ';' rest with
        | some (s, ps) => (s, some ps)
        | none => (rest, none)
      if type.isEmpty || !type.all isToken || !subtype.all isToken then none
      else match parameters with
        | none => some (.ofParts type subtype)
        | some ps =>
            if subtype.isEmpty || !parametersOk ps then none else some (.ofParts type subtype)

def MediaType.isJson (t : MediaType) : Bool :=
  t.type == "application" && (t.subtype == "json" || t.suffix == some "json")

/-- The body of a request is said to be JSON. -/
def saysJson (hs : Net.Headers) : Bool :=
  ((hs.text? "content-type").bind MediaType.read?).any (·.isJson)

end Gatehouse.Api
