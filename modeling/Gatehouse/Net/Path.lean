import Gatehouse.Text.Cut

/-!
Paths in addresses of services. A segment that is one dot stands for nothing, and two dots take
back the segment before them; either leaves an empty segment at the end. A drive, a letter and
a colon in front of a path of files, is never taken back.
-/

namespace Gatehouse.Net.Path

/-- The letters of a segment, in lower case, with dots for their percent form. -/
def withDots : List Char → List Char
  | '%' :: '2' :: c :: cs => if c = 'e' ∨ c = 'E' then '.' :: withDots cs
      else '%' :: '2' :: c :: withDots cs
  | c :: cs => c :: withDots cs
  | [] => []

def isDot (segment : List Char) : Bool := withDots segment == ['.']

def isTwoDots (segment : List Char) : Bool := withDots segment == ['.', '.']

/-- A letter and a colon or a bar. -/
def isDrive : List Char → Bool
  | [a, b] => a.isAlpha && (b == ':' || b == '|')
  | _ => false

/-- Take back the last segment of those that stand in reverse. -/
def takeBack (files : Bool) (done : List (List Char)) : List (List Char) :=
  match done with
  | [] => []
  | [drive] => if files && isDrive drive then [drive] else []
  | _ :: before => before

/-- A drive is written with a colon. -/
def segment (files : Bool) (done : List (List Char)) (s : List Char) : List Char :=
  if files && done.isEmpty && isDrive s then s.take 1 ++ [':'] else s

/-- Settle the segments behind those that are done, which stand in reverse. -/
def settle (files : Bool) : List (List Char) → List (List Char) → List (List Char)
  | done, [] => done.reverse
  | done, [s] =>
      if isTwoDots s then ([] :: takeBack files done).reverse
      else if isDot s then ([] :: done).reverse
      else (segment files done s :: done).reverse
  | done, s :: rest =>
      if isTwoDots s then settle files (takeBack files done) rest
      else if isDot s then settle files done rest
      else settle files (segment files done s :: done) rest

/-- The path behind its first slash, as it is when its dots are settled. -/
def settled (files : Bool) (cs : List Char) : List Char :=
  (settle files [] (Text.splitAt '/' cs)).flatMap ('/' :: ·)

end Gatehouse.Net.Path
