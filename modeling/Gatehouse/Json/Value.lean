import Gatehouse.Json.Numeral
import Gatehouse.Text.Hex

/-!
JSON values and their compact text. Members of an object are written in the order they stand
in; a text escapes quotes, backslashes and the characters below the space.
-/

namespace Gatehouse.Json

inductive Value where
  | null
  | boolean (b : Bool)
  | number (n : Numeral)
  | text (s : String)
  | list (values : List Value)
  | object (members : List (String × Value))
  deriving Inhabited

/-- The letter behind the backslash, for the controls that have one. -/
def shortEscape? (c : Char) : Option Char :=
  if c = '"' ∨ c = '\\' then some c
  else if c = '\x08' then some 'b'
  else if c = '\x0c' then some 'f'
  else if c = '\n' then some 'n'
  else if c = '\r' then some 'r'
  else if c = '\t' then some 't'
  else none

def escapeChar (c : Char) : List Char :=
  match shortEscape? c with
  | some e => ['\\', e]
  | none =>
      if c.toNat < 32 then
        ['\\', 'u', '0', '0', Text.hexDigit (c.toNat / 16), Text.hexDigit (c.toNat % 16)]
      else [c]

/-- The written form of a text. -/
def writeText (s : String) : List Char := '"' :: (s.toList.flatMap escapeChar ++ ['"'])

mutual

def Value.write : Value → List Char
  | .null => ['n', 'u', 'l', 'l']
  | .boolean true => ['t', 'r', 'u', 'e']
  | .boolean false => ['f', 'a', 'l', 's', 'e']
  | .number n => n.text.toList
  | .text s => writeText s
  | .list [] => ['[', ']']
  | .list (v :: vs) => '[' :: (v.write ++ (Value.writeTail vs ++ [']']))
  | .object [] => ['\x7b', '\x7d']
  | .object (m :: ms) =>
      '\x7b' :: (writeText m.1 ++ ':' :: (m.2.write ++ (Value.writeMembers ms ++ ['\x7d'])))

/-- Elements behind the first, each after a comma. -/
def Value.writeTail : List Value → List Char
  | [] => []
  | v :: vs => ',' :: (v.write ++ Value.writeTail vs)

/-- Members behind the first, each after a comma. -/
def Value.writeMembers : List (String × Value) → List Char
  | [] => []
  | (k, v) :: ms => ',' :: (writeText k ++ ':' :: (v.write ++ Value.writeMembers ms))

end

def Value.compact (v : Value) : String := String.ofList v.write

def Value.ofNat (n : Nat) : Value := .number (.natural n)

def Value.ofInt : Int → Value
  | .ofNat n => .number (.natural n)
  | .negSucc n => .number (.negative (n + 1))

/-- Put an entry into a list sorted by key, in the place of an older one of the same key. -/
def insertEntry (k : String) (v : Value) : List (String × Value) → List (String × Value)
  | [] => [(k, v)]
  | (k', v') :: rest =>
      if k = k' then (k, v) :: rest
      else if k < k' then (k, v) :: (k', v') :: rest
      else (k', v') :: insertEntry k v rest

/-- An object whose members are sorted by key; of members of one key the last counts. -/
def Value.sorted (members : List (String × Value)) : Value :=
  .object (members.foldl (fun acc m => insertEntry m.1 m.2 acc) [])

mutual

/-- A value in which the members of every object are sorted. -/
def Value.arranged : Value → Value
  | .list vs => .list (Value.arrangedElements vs)
  | .object ms => .sorted (Value.arrangedMembers ms)
  | v => v

def Value.arrangedElements : List Value → List Value
  | [] => []
  | v :: vs => v.arranged :: Value.arrangedElements vs

def Value.arrangedMembers : List (String × Value) → List (String × Value)
  | [] => []
  | (k, v) :: ms => (k, v.arranged) :: Value.arrangedMembers ms

end

end Gatehouse.Json
