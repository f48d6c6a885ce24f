import Gatehouse.Json.Numeral
import Gatehouse.Text.Quoted

/-!
What may be wrong with a JSON text, and where. A fault is of form, when the text is no JSON,
or of content, when a value is not the one that is wanted. The place is kept as the number of
bytes that are left, and is told as a line and a column.
-/

namespace Gatehouse.Json

/-- A value in the place of another. -/
inductive Found where
  | null
  | boolean (b : Bool)
  | number (n : Numeral)
  | text (s : String)
  | list
  | object
  deriving DecidableEq, Repr

def Found.message : Found → String
  | .null => "null"
  | .boolean b => s!"boolean `{b}`"
  | .number (.real p s e) => s!"floating point `{(Numeral.real p s e).text}`"
  | .number n => s!"integer `{n.text}`"
  | .text s => "string " ++ Text.quoted s
  | .list => "sequence"
  | .object => "map"

inductive Cause where
  | endInList
  | endInObject
  | endInString
  | endInValue
  | noColon
  | noCommaInList
  | noCommaInObject
  | noWord
  | noValue
  | badEscape
  | badNumber
  | numberOutOfRange
  | badCodePoint
  | controlCharacter
  | keyNotString
  | loneSurrogate
  | trailingComma
  | trailingCharacters
  | endOfHexEscape
  | tooDeep
  | wrongType (found : Found) (expected : String)
  | wrongLength (length : Nat) (expected : String)
  | missingField (name : String)
  | duplicateField (name : String)
  | wrongValue
  deriving DecidableEq, Repr

def Cause.isContent : Cause → Bool
  | .wrongType .. | .wrongLength .. | .missingField _ | .duplicateField _ | .wrongValue => true
  | _ => false

def Cause.message : Cause → String
  | .endInList => "EOF while parsing a list"
  | .endInObject => "EOF while parsing an object"
  | .endInString => "EOF while parsing a string"
  | .endInValue => "EOF while parsing a value"
  | .noColon => "expected `:`"
  | .noCommaInList => "expected `,` or `]`"
  | .noCommaInObject => "expected `,` or `\x7d`"
  | .noWord => "expected ident"
  | .noValue => "expected value"
  | .badEscape => "invalid escape"
  | .badNumber => "invalid number"
  | .numberOutOfRange => "number out of range"
  | .badCodePoint => "invalid unicode code point"
  | .controlCharacter => "control character (\\u0000-\\u001F) found while parsing a string"
  | .keyNotString => "key must be a string"
  | .loneSurrogate => "lone leading surrogate in hex escape"
  | .trailingComma => "trailing comma"
  | .trailingCharacters => "trailing characters"
  | .endOfHexEscape => "unexpected end of hex escape"
  | .tooDeep => "recursion limit exceeded"
  | .wrongType found expected => s!"invalid type: {found.message}, expected {expected}"
  | .wrongLength n expected => s!"invalid length {n}, expected {expected}"
  | .missingField name => s!"missing field `{name}`"
  | .duplicateField name => s!"duplicate field `{name}`"
  | .wrongValue => "invalid value"

structure Fault where
  cause : Cause
  left : Nat
  /-- The field or the element in whose value the fault is. -/
  path : Option String := none
  deriving DecidableEq, Repr

/-- Line and column behind the bytes that have been read; lines count from one, and a column
is the number of bytes since the line began. -/
def place (text : Bytes) (left : Nat) : Nat × Nat :=
  let read := text.take (text.length - left)
  (read.count 10 + 1, (read.reverse.takeWhile (· != 10)).length)

def Fault.message (f : Fault) (text : Bytes) : String :=
  let (line, column) := place text f.left
  let path := match f.path with
    | none => ""
    | some p => p ++ ": "
  s!"{path}{f.cause.message} at line {line} column {column}"

end Gatehouse.Json
