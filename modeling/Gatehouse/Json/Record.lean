import Gatehouse.Json.Document

/-!
Reading a value of a known shape: a record, written as an object of its fields or as a list of
them in order. Fields that are not known are passed over, a known one may stand only once, and
of the fields that must be there the first one missing is named.
-/

namespace Gatehouse.Json

/-- What a field holds. -/
inductive Shape where
  | text
  | optionalText
  | integer
  /-- One of a few names: a string, or an object of that one key with null. -/
  | name
  | optionalTexts
  | optionalObject
  deriving DecidableEq, Repr

structure Field where
  name : String
  shape : Shape
  /-- The field may be left out at the end of a list. -/
  mayEnd : Bool := false
  deriving DecidableEq, Repr

inductive Slot where
  | absent
  | text (s : String)
  | integer (n : Int)
  | texts (ss : List String)
  | object (members : List (String × Value))

def Shape.isOptional : Shape → Bool
  | .optionalText | .optionalTexts | .optionalObject => true
  | _ => false

/-- Fail because another value stands where one is expected; a scalar is taken first. -/
def mismatch {α : Type} (expected : String) : Reader α := do
  match ← peek with
  | some 110 => drop; word restOfNull; fail (.wrongType .null expected)
  | some 116 => drop; word restOfTrue; fail (.wrongType (.boolean true) expected)
  | some 102 => drop; word restOfFalse; fail (.wrongType (.boolean false) expected)
  | some 34 => drop; let s ← string; fail (.wrongType (.text s) expected)
  | some 45 => drop; let n ← numeral false; fail (.wrongType (.number n) expected)
  | some 91 => fail (.wrongType .list expected)
  | some 123 => fail (.wrongType .object expected)
  | some b =>
      if isDigit b then
        let n ← numeral true
        fail (.wrongType (.number n) expected)
      else failNext .noValue
  | none => failNext .endInValue

def text : Reader String := do
  match ← peek with
  | some 34 => drop; string
  | _ => mismatch "a string"

/-- Null, or a value. -/
def optional (read : Reader Slot) : Reader Slot := do
  match ← peek with
  | some 110 => drop; word restOfNull; pure .absent
  | _ => read

def integer : Reader Int := do
  let n ← match ← peek with
    | some 45 => do drop; numeral false
    | some b => if isDigit b then numeral true else mismatch "i64"
    | none => failNext .endInValue
  match n.integer? with
  | some i => pure i
  | none => fail .wrongValue

def name : Reader String := do
  match ← peek with
  | some 34 => drop; string
  | some 123 =>
      drop
      match ← peek with
      | some 34 =>
          let s ← key
          colon
          match ← peek with
          | some 110 =>
              drop
              word restOfNull
              match ← peek with
              | some 125 => drop; pure s
              | _ => fail .noValue
          | _ => mismatch "unit"
      | _ => mismatch "variant identifier"
  | some _ => failNext .noValue
  | none => failNext .endInValue

/-- The texts behind those read, which stand in reverse. -/
def textsFrom : Nat → List String → Reader (List String)
  | 0, _ => fail .endInList
  | fuel + 1, got => do
      if ← more 91 got.isEmpty then
        let s ← text
        textsFrom fuel (s :: got)
      else
        drop
        pure got.reverse

def texts : Reader (List String) := do
  match ← peek with
  | some 91 => drop; fun bs => textsFrom (bs.length + 1) [] bs
  | _ => mismatch "a sequence"

/-- The deepest nesting of brackets below a member of a record. -/
def depthBelow : Nat := 126

def object : Reader (List (String × Value)) := do
  match ← peek with
  | some 123 =>
      match ← document depthBelow with
      | .object ms => pure ms
      | _ => fail .wrongValue
  | _ => mismatch "a map"

def Shape.read : Shape → Reader Slot
  | .text => return .text (← Json.text)
  | .optionalText => optional (return .text (← Json.text))
  | .integer => return .integer (← Json.integer)
  | .name => return .text (← Json.name)
  | .optionalTexts => optional (return .texts (← Json.texts))
  | .optionalObject => optional (return .object (← Json.object))

/-- Note the field or element in whose value a fault is. -/
def within {α : Type} (path : String) (read : Reader α) : Reader α := fun bs =>
  match read bs with
  | .ok r => .ok r
  | .error f => .error { f with path := some path }

/-- What is left behind a closing bracket, or before whatever stands in its place. -/
def leftBehind (opening : UInt8) (bs : Bytes) : Nat :=
  match skipSpace bs with
  | [] => 0
  | b :: rest =>
      if b = closer opening then rest.length
      else if opening = 91 ∧ b = 44 then (skipSpace rest).length
      else rest.length + 1

/-- Fail for what a record holds; the place is behind the record, if it ends here. -/
def failBehind {α : Type} (opening : UInt8) (c : Cause) : Reader α := fun bs =>
  .error ⟨c, leftBehind opening bs, none⟩

abbrev Entries := List (String × Slot)

/-- The members of an object behind those read. -/
def fieldsFrom (fields : List Field) : Nat → Bool → Entries → Reader Entries
  | 0, _, _ => fail .endInObject
  | fuel + 1, first, got => do
      if ← more 123 first then
        let k ← key
        match fields.find? (·.name = k) with
        | none =>
            colon
            within k skim
            fieldsFrom fields fuel false got
        | some field =>
            if (got.lookup k).isSome then failBehind 123 (.duplicateField k)
            else
              colon
              let v ← within k field.shape.read
              fieldsFrom fields fuel false ((k, v) :: got)
      else pure got

/-- Every field in order; an optional one that was left out is absent. -/
def complete (fields : List Field) (got : Entries) : Reader Entries :=
  fields.mapM fun field =>
    match got.lookup field.name with
    | some v => pure (field.name, v)
    | none =>
        if field.shape.isOptional then pure (field.name, .absent)
        else failBehind 123 (.missingField field.name)

/-- The fields as elements of a list, from the field of number `i` on. -/
def elementsOf (expected : String) : Nat → List Field → Reader Entries
  | _, [] => pure []
  | i, field :: rest => do
      if ← more 91 (i == 0) then
        let v ← within s!"[{i}]" field.shape.read
        return (field.name, v) :: (← elementsOf expected (i + 1) rest)
      else if field.mayEnd then
        return (field.name, .absent) :: (← elementsOf expected (i + 1) rest)
      else failBehind 91 (.wrongLength i expected)

/-- The end of an object. -/
def endOfObject : Reader Unit := do
  match ← peek with
  | some 125 => drop
  | some 44 => failNext .trailingComma
  | some _ => failNext .trailingCharacters
  | none => failNext .endInObject

/-- The end of a list, which holds no more than its fields. -/
def endOfList : Reader Unit := do
  match ← peek with
  | some 93 => drop
  | some 44 =>
      drop
      match ← peek with
      | some 93 => failNext .trailingComma
      | _ => failNext .trailingCharacters
  | some _ => failNext .trailingCharacters
  | none => failNext .endInList

/-- Read a record. -/
def record (title : String) (fields : List Field) : Reader Entries := do
  match ← peek with
  | some 123 =>
      drop
      let got ← (fun bs => fieldsFrom fields (bs.length + 1) true [] bs : Reader Entries)
      let all ← complete fields got
      endOfObject
      pure all
  | some 91 =>
      drop
      let count := fields.length
      let expected :=
        s!"struct {title} with {count} element" ++ (if count = 1 then "" else "s")
      let all ← elementsOf expected 0 fields
      endOfList
      pure all
  | _ => mismatch s!"struct {title}"

/-- Read a text that holds one value and nothing but white space behind it. -/
def whole {α : Type} (read : Reader α) (text : Bytes) : Option α :=
  match read text with
  | .ok (v, rest) => if (skipSpace rest).isEmpty then some v else none
  | .error _ => none

/-- How deep the brackets of a text may nest that holds nothing but one value. -/
def maxDepth : Nat := 127

/-- Read a text that holds one value; the members of its objects are sorted. -/
def read? (text : Bytes) : Option Value := (whole (document maxDepth) text).map Value.arranged

/-- The fields of entries, as texts. -/
def Entries.text? (es : Entries) (name : String) : Option String :=
  match List.lookup name es with
  | some (.text s) => some s
  | _ => none

def Entries.integer? (es : Entries) (name : String) : Option Int :=
  match List.lookup name es with
  | some (.integer n) => some n
  | _ => none

end Gatehouse.Json
