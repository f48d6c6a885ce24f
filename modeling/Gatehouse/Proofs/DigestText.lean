import Gatehouse.Password.Hasher
import Gatehouse.Proofs.Base64
import Mathlib.Data.String.Basic

/-!
The texts that are read as digests, and what each of them says. Fields and values have one
spelling, so that reading undoes writing in both directions: parameters may come in any order and
more than once, and all else is fixed.
-/

namespace Gatehouse.Text

section
variable {sep : Char} {cs ds : List Char}

theorem splitAt_eq_splitOn (sep : Char) (cs : List Char) : splitAt sep cs = cs.splitOn sep := by
  induction cs with
  | nil => rfl
  | cons c cs ih =>
      rw [splitAt, ih, List.splitOn_cons_eq_if_modifyHead, beq_eq_decide]
      simp only [decide_eq_true_eq]
      split
      · rfl
      · cases parts : cs.splitOn sep with
        | nil => exact absurd parts (List.splitOn_ne_nil sep cs)
        | cons first rest => rfl

theorem intercalate_splitAt (sep : Char) (cs : List Char) :
    [sep].intercalate (splitAt sep cs) = cs := by
  rw [splitAt_eq_splitOn, List.intercalate_splitOn]

theorem splitAt_of_not_mem (h : sep ∉ cs) : splitAt sep cs = [cs] := by
  rw [splitAt_eq_splitOn, List.splitOn_eq_singleton h]

theorem splitAt_append (h : sep ∉ cs) :
    splitAt sep (cs ++ sep :: ds) = cs :: splitAt sep ds := by
  rw [splitAt_eq_splitOn, splitAt_eq_splitOn, List.splitOn_append_cons_self_of_not_mem h]

theorem splitAt_intercalate {fields : List (List Char)} (apart : ∀ f ∈ fields, sep ∉ f)
    (some : fields ≠ []) : splitAt sep ([sep].intercalate fields) = fields := by
  rw [splitAt_eq_splitOn, List.splitOn_intercalate sep apart some]

theorem intercalate_cons (f : List Char) (fields : List (List Char)) :
    [sep].intercalate (f :: fields) = f ++ fields.flatMap (sep :: ·) := by
  induction fields generalizing f with
  | nil => simp
  | cons g fields ih =>
      rw [List.intercalate_cons_cons, ih, List.flatMap_cons, List.append_assoc,
        List.singleton_append, List.cons_append]

/-- Fields that all stand behind a separator are the fields behind the first one. -/
theorem splitAt_eq_nil_cons_iff {fields : List (List Char)} (apart : ∀ f ∈ fields, sep ∉ f) :
    splitAt sep cs = [] :: fields ↔ cs = fields.flatMap (sep :: ·) := by
  have joined : [sep].intercalate ([] :: fields) = fields.flatMap (sep :: ·) :=
    intercalate_cons [] fields
  constructor
  · intro split
    rw [← joined, ← split, intercalate_splitAt]
  · rintro rfl
    rw [← joined]
    exact splitAt_intercalate (by simpa using apart) (List.cons_ne_nil _ _)

end

theorem digit?_eq_some_iff {c : Char} {d : Nat} :
    digit? c = some d ↔ d < 10 ∧ c = d.digitChar := by
  simp only [digit?, Option.ite_none_right_eq_some, Option.some.injEq, Char.le_def,
    UInt32.le_iff_toNat_le]
  change (48 ≤ c.toNat ∧ c.toNat ≤ 57) ∧ c.toNat - 48 = d ↔ _
  constructor
  · rintro ⟨range, rfl⟩
    refine ⟨by omega, Char.toNat_inj.1 ?_⟩
    rw [Nat.toNat_digitChar_of_lt_ten (by omega)]
    omega
  · rintro ⟨small, rfl⟩
    rw [Nat.toNat_digitChar_of_lt_ten small]
    omega

theorem digitsFrom_of_isDigit {cs : List Char} (h : ∀ c ∈ cs, c.isDigit = true) (acc : Nat) :
    digitsFrom acc cs = some (Nat.ofDigitChars 10 cs acc) := by
  induction cs generalizing acc with
  | nil => rfl
  | cons c cs ih =>
      have digit : digit? c = some (c.toNat - '0'.toNat) := by
        have range := h c List.mem_cons_self
        simp only [Char.isDigit, Bool.and_eq_true, decide_eq_true_eq] at range
        exact if_pos ⟨range.1, range.2⟩
      rw [digitsFrom, digit, Option.bind_some, ih fun d hd => h d (List.mem_cons_of_mem c hd)]
      rfl

theorem digits?_toDigits (n : Nat) : digits? (Nat.toDigits 10 n) = some n := by
  have all : ∀ c ∈ Nat.toDigits 10 n, c.isDigit = true :=
    fun _ => Nat.isDigit_of_mem_toDigits (by decide) (by decide)
  have read := digitsFrom_of_isDigit all 0
  rw [Nat.ofDigitChars_toDigits (by decide) (by decide)] at read
  cases digits : Nat.toDigits 10 n with
  | nil => exact absurd digits Nat.toDigits_ne_nil
  | cons c cs =>
      rw [digits] at read
      exact read

/-- Digits behind a number that is not zero are written as they were read. -/
theorem toDigits_of_digitsFrom {cs : List Char} {acc n : Nat} (positive : 0 < acc)
    (read : digitsFrom acc cs = some n) : Nat.toDigits 10 n = Nat.toDigits 10 acc ++ cs := by
  induction cs generalizing acc with
  | nil =>
      cases read
      rw [List.append_nil]
  | cons c cs ih =>
      obtain ⟨d, digit, rest⟩ := Option.bind_eq_some_iff.1 read
      obtain ⟨small, rfl⟩ := digit?_eq_some_iff.1 digit
      have shifted := Nat.toDigits_append_toDigits (b := 10) (by decide) positive small
      rw [ih (by omega) rest, ← shifted, Nat.toDigits_of_lt_base small, List.append_assoc,
        List.singleton_append]

/-- A numeral is written as it was read, unless zeros stand in front of it. -/
theorem toDigits_of_digits? {cs : List Char} {n : Nat} (read : digits? cs = some n)
    (plain : cs.head? = some '0' → cs.length ≤ 1) : cs = Nat.toDigits 10 n := by
  cases cs with
  | nil => cases read
  | cons c cs =>
      obtain ⟨d, digit, rest⟩ := Option.bind_eq_some_iff.1 read
      obtain ⟨small, rfl⟩ := digit?_eq_some_iff.1 digit
      rcases Nat.eq_zero_or_pos d with rfl | positive
      · have alone : cs = [] := List.eq_nil_of_length_eq_zero (by simpa using plain rfl)
        subst alone
        cases rest
        rfl
      · rw [toDigits_of_digitsFrom (by omega) rest, Nat.mul_zero, Nat.zero_add,
          Nat.toDigits_of_lt_base small, List.singleton_append]

theorem head?_toDigits {n : Nat} (h : 10 ≤ n) : (Nat.toDigits 10 n).head? ≠ some '0' := by
  induction n using Nat.strongRecOn with
  | ind n ih =>
      rw [Nat.toDigits_of_base_le (by decide) h]
      rcases Nat.lt_or_ge (n / 10) 10 with small | large
      · have first : ∀ k < 10, 0 < k → k.digitChar ≠ '0' := by decide
        rw [Nat.toDigits_of_lt_base small, List.singleton_append, List.head?_cons, ne_eq,
          Option.some.injEq]
        exact first (n / 10) small (by omega)
      · have first := ih (n / 10) (by omega) large
        cases digits : Nat.toDigits 10 (n / 10) with
        | nil => exact absurd digits Nat.toDigits_ne_nil
        | cons c cs =>
            rw [digits] at first
            exact first

end Gatehouse.Text

namespace Gatehouse.Password

open Text (splitAt splitAt_append splitAt_of_not_mem splitAt_intercalate intercalate_splitAt
  intercalate_cons splitAt_eq_nil_cons_iff digits?_toDigits head?_toDigits toDigits_of_digits?)

/-- The characters of a value. -/
def isValueChar (c : Char) : Bool :=
  ('a' ≤ c && c ≤ 'z') || ('A' ≤ c && c ≤ 'Z') || ('0' ≤ c && c ≤ '9') || c == '-' || c == '+'
    || c == '/' || c == '.'

theorem isValue_iff {cs : List Char} :
    isValue cs = true ↔ cs.length ≤ 64 ∧ ∀ c ∈ cs, isValueChar c = true := by
  rw [isValue, Bool.and_eq_true, decide_eq_true_eq, List.all_eq_true]
  rfl

theorem isValueChar_of_isDigit {c : Char} (h : c.isDigit = true) : isValueChar c = true := by
  simp only [Char.isDigit, Bool.and_eq_true, decide_eq_true_eq] at h
  have digit : '0' ≤ c ∧ c ≤ '9' := h
  simp [isValueChar, digit]

theorem isValueChar_char : ∀ n < 64, isValueChar (Text.Base64.Alphabet.standard.char n) = true := by
  decide

theorem isValueChar_of_mem_encode {bytes : Bytes} {c : Char}
    (h : c ∈ Text.Base64.encode .standard bytes) : isValueChar c = true := by
  obtain ⟨n, hn, rfl⟩ := Text.Base64.value?_of_mem_encode h
  exact isValueChar_char n hn

theorem not_mem_of_isValueChar {sep : Char} (h : isValueChar sep = false) {cs : List Char}
    (all : ∀ c ∈ cs, isValueChar c = true) : sep ∉ cs := by
  intro hsep
  rw [all sep hsep] at h
  cases h

theorem isValueChar_of_isName {cs : List Char} (name : isName cs = true) :
    ∀ c ∈ cs, isValueChar c = true := by
  intro c hc
  rw [isName, Bool.and_eq_true, List.all_eq_true] at name
  have char := name.2 c hc
  simp only [Bool.or_eq_true, isValueChar] at char ⊢
  tauto

theorem utf8Size_of_isValueChar {c : Char} (h : isValueChar c = true) : c.utf8Size = 1 := by
  simp only [isValueChar, Bool.or_eq_true, Bool.and_eq_true, decide_eq_true_eq, beq_iff_eq] at h
  have low : c ≤ 'z' := by
    rcases h with (((((⟨-, h⟩ | ⟨-, h⟩) | ⟨-, h⟩) | rfl) | rfl) | rfl) | rfl
    · exact h
    · exact Char.le_trans h (by decide)
    · exact Char.le_trans h (by decide)
    all_goals decide
  exact Char.utf8Size_eq_one_iff.2 (UInt32.le_trans low (by decide))

theorem isValue_encode {bytes : Bytes} (short : bytes.length ≤ 48) :
    isValue (Text.Base64.encode .standard bytes) = true := by
  have length := Text.Base64.length_encode .standard bytes
  exact isValue_iff.2 ⟨by omega, fun _ => isValueChar_of_mem_encode⟩

section
variable {n : Nat} {cs : List Char}

theorem length_toDigits (h : n ≤ Bounds.max32) : (Nat.toDigits 10 n).length ≤ 10 := by
  rw [Nat.length_toDigits_le_iff (by decide) (by decide)]
  exact Nat.lt_of_le_of_lt h (by decide)

theorem isValue_toDigits (h : n ≤ Bounds.max32) : isValue (Nat.toDigits 10 n) = true :=
  isValue_iff.2 ⟨Nat.le_trans (length_toDigits h) (by decide), fun _ hc =>
    isValueChar_of_isDigit (Nat.isDigit_of_mem_toDigits (by decide) (by decide) hc)⟩

/-- A number has one spelling. -/
theorem decimal?_eq_some_iff :
    decimal? cs = some n ↔ cs = Nat.toDigits 10 n ∧ n ≤ Bounds.max32 := by
  constructor
  · intro read
    simp only [decimal?, Option.ite_none_left_eq_some, Option.filter_eq_some_iff, Bool.or_eq_true,
      Bool.and_eq_true, Bool.not_eq_true', decide_eq_true_eq, beq_iff_eq, not_or, not_and] at read
    obtain ⟨⟨-, plain⟩, read, fits⟩ := read
    exact ⟨Text.toDigits_of_digits? read fun zero => by
      by_contra long
      exact plain (Nat.lt_of_not_le long) zero, fits⟩
  · rintro ⟨rfl, fits⟩
    have plain : ((Nat.toDigits 10 n).length > 1 && (Nat.toDigits 10 n).head? == some '0')
        = false := by
      rw [Bool.and_eq_false_iff, decide_eq_false_iff_not]
      rcases Nat.lt_or_ge n 10 with small | large
      · rw [Nat.toDigits_of_lt_base small]
        exact .inl (Nat.lt_irrefl 1)
      · exact .inr (beq_eq_false_iff_ne.2 (head?_toDigits large))
    rw [decimal?, isValue_toDigits fits, plain, if_neg (by decide), digits?_toDigits]
    exact if_pos (decide_eq_true fits)

end

theorem bytes?_eq_some_iff {limit : Nat} {value : String} {bytes : Bytes} :
    bytes? limit value = some bytes ↔
      value.toList = Text.Base64.encode .standard bytes ∧ bytes.length ≤ limit := by
  rw [bytes?, Option.filter_eq_some_iff, Text.Base64.decode?_eq_some_iff, decide_eq_true_eq]

/-- A parameter that is understood. -/
inductive Parameter where
  | memory (kib : Nat)
  | passes (count : Nat)
  | lanes (count : Nat)
  | keyId (bytes : Bytes)
  | context (bytes : Bytes)

namespace Parameter

def name : Parameter → String
  | memory _ => "m"
  | passes _ => "t"
  | lanes _ => "p"
  | keyId _ => "keyid"
  | context _ => "data"

def value : Parameter → List Char
  | memory n | passes n | lanes n => Nat.toDigits 10 n
  | keyId bytes | context bytes => Text.Base64.encode .standard bytes

/-- A parameter as it is written. -/
def text (p : Parameter) : List Char := p.name.toList ++ '=' :: p.value

def pair (p : Parameter) : String × String := (p.name, String.ofList p.value)

/-- Numbers of thirty-two bits, identifiers of at most eight bytes, contexts of at most 32. -/
def Bounded : Parameter → Prop
  | memory n | passes n | lanes n => n ≤ Bounds.max32
  | keyId bytes => bytes.length ≤ 8
  | context bytes => bytes.length ≤ 32

/-- What a parameter does to a recipe. -/
def set (r : Recipe) : Parameter → Recipe
  | memory n => { r with cost := { r.cost with memory := n } }
  | passes n => { r with cost := { r.cost with passes := n } }
  | lanes n => { r with cost := { r.cost with lanes := n } }
  | keyId _ => r
  | context bytes => { r with context := bytes }

theorem isName_name (p : Parameter) : isName p.name.toList = true := by
  have names : ∀ n ∈ ["m", "t", "p", "keyid", "data"], isName n.toList = true := by decide
  exact names p.name (by cases p <;> simp [name])

theorem isValue_value {p : Parameter} (bounded : p.Bounded) : isValue p.value = true := by
  cases p with
  | memory n | passes n | lanes n => exact isValue_toDigits bounded
  | keyId bytes => exact isValue_encode (Nat.le_trans bounded (by decide))
  | context bytes => exact isValue_encode (Nat.le_trans bounded (by decide))

end Parameter

section
variable {cs : List Char} {q : String × String} {r r' : Recipe} {p : Parameter}
  {ps : List Parameter}

theorem parameter?_eq_some_iff : parameter? cs = some q ↔
    isName q.1.toList = true ∧ isValue q.2.toList = true ∧
      cs = q.1.toList ++ '=' :: q.2.toList := by
  constructor
  · intro read
    rw [parameter?] at read
    split at read
    next name value split =>
      rw [Option.ite_none_right_eq_some, Bool.and_eq_true, Option.some.injEq] at read
      obtain ⟨⟨isName, isValue⟩, rfl⟩ := read
      simp only [String.toList_ofList]
      refine ⟨isName, isValue, ?_⟩
      rw [← intercalate_splitAt '=' cs, split]
      simp
    · cases read
  · rintro ⟨name, value, rfl⟩
    have front : '=' ∉ q.1.toList := not_mem_of_isValueChar rfl (isValueChar_of_isName name)
    have back : '=' ∉ q.2.toList := not_mem_of_isValueChar rfl (isValue_iff.1 value).2
    rw [parameter?, splitAt_append front, splitAt_of_not_mem back]
    dsimp only
    rw [name, value, String.ofList_toList, String.ofList_toList]
    rfl

theorem parameter?_text (bounded : p.Bounded) : parameter? p.text = some p.pair := by
  rw [parameter?_eq_some_iff, Parameter.pair, String.toList_ofList]
  exact ⟨p.isName_name, Parameter.isValue_value bounded, rfl⟩

theorem take?_eq_some_iff :
    r.take? q = some r' ↔ ∃ p : Parameter, p.Bounded ∧ q = p.pair ∧ r' = p.set r := by
  obtain ⟨name, value⟩ := q
  have spelled {cs : List Char} (h : value.toList = cs) : value = String.ofList cs := by
    rw [← h, String.ofList_toList]
  constructor
  · intro taken
    rw [Recipe.take?] at taken
    split at taken
    all_goals simp only [Option.map_eq_some_iff, decimal?_eq_some_iff, bytes?_eq_some_iff,
      reduceCtorEq] at taken
    next named =>
      obtain ⟨n, ⟨same, bound⟩, rfl⟩ := taken
      exact ⟨.memory n, bound, Prod.ext named (spelled same), rfl⟩
    next named =>
      obtain ⟨n, ⟨same, bound⟩, rfl⟩ := taken
      exact ⟨.passes n, bound, Prod.ext named (spelled same), rfl⟩
    next named =>
      obtain ⟨n, ⟨same, bound⟩, rfl⟩ := taken
      exact ⟨.lanes n, bound, Prod.ext named (spelled same), rfl⟩
    next named =>
      obtain ⟨bytes, ⟨same, bound⟩, rfl⟩ := taken
      exact ⟨.keyId bytes, bound, Prod.ext named (spelled same), rfl⟩
    next named =>
      obtain ⟨bytes, ⟨same, bound⟩, rfl⟩ := taken
      exact ⟨.context bytes, bound, Prod.ext named (spelled same), rfl⟩
  · rintro ⟨p, bounded, same, rfl⟩
    rw [same]
    cases p with
    | memory n | passes n | lanes n =>
        have read : decimal? (String.ofList (Nat.toDigits 10 n)).toList = some n := by
          rw [String.toList_ofList]
          exact decimal?_eq_some_iff.2 ⟨rfl, bounded⟩
        simp only [Recipe.take?, Parameter.pair, Parameter.name, Parameter.value, read]
        rfl
    | keyId bytes =>
        have read : bytes? 8 (String.ofList (Text.Base64.encode .standard bytes)) = some bytes :=
          bytes?_eq_some_iff.2 ⟨String.toList_ofList, bounded⟩
        simp only [Recipe.take?, Parameter.pair, Parameter.name, Parameter.value, read]
        rfl
    | context bytes =>
        have read : bytes? 32 (String.ofList (Text.Base64.encode .standard bytes)) = some bytes :=
          bytes?_eq_some_iff.2 ⟨String.toList_ofList, bounded⟩
        simp only [Recipe.take?, Parameter.pair, Parameter.name, Parameter.value, read]
        rfl

theorem mapM_parameter?_text (bounded : ∀ p ∈ ps, p.Bounded) :
    (ps.map Parameter.text).mapM parameter? = some (ps.map Parameter.pair) := by
  induction ps with
  | nil => rfl
  | cons p ps ih =>
      rw [List.map_cons, List.mapM_cons, parameter?_text (bounded p List.mem_cons_self),
        ih fun q hq => bounded q (List.mem_cons_of_mem p hq)]
      rfl

theorem foldlM_take?_pair (bounded : ∀ p ∈ ps, p.Bounded) (r : Recipe) :
    (ps.map Parameter.pair).foldlM Recipe.take? r = some (ps.foldl Parameter.set r) := by
  induction ps generalizing r with
  | nil => rfl
  | cons p ps ih =>
      have taken : r.take? p.pair = some (p.set r) :=
        take?_eq_some_iff.2 ⟨p, bounded p List.mem_cons_self, rfl, rfl⟩
      rw [List.map_cons, List.foldlM_cons, taken, List.foldl_cons]
      exact ih (fun q hq => bounded q (List.mem_cons_of_mem p hq)) _

/-- Fields that are read, and that can be taken, are parameters that were written. -/
theorem exists_parameters {fields : List (List Char)} {qs : List (String × String)}
    (read : fields.mapM parameter? = some qs) (taken : qs.foldlM Recipe.take? r = some r') :
    ∃ ps : List Parameter, (∀ p ∈ ps, p.Bounded) ∧ fields = ps.map Parameter.text ∧
      ps.foldl Parameter.set r = r' := by
  induction fields generalizing qs r with
  | nil =>
      cases read
      cases taken
      exact ⟨[], by simp, rfl, rfl⟩
  | cons field fields ih =>
      rw [List.mapM_cons] at read
      obtain ⟨q, first, read⟩ := Option.bind_eq_some_iff.1 read
      obtain ⟨qs', rest, read⟩ := Option.bind_eq_some_iff.1 read
      obtain rfl : q :: qs' = qs := Option.some.inj read
      rw [List.foldlM_cons] at taken
      obtain ⟨next, one, taken⟩ := Option.bind_eq_some_iff.1 taken
      obtain ⟨p, bounded, rfl, rfl⟩ := take?_eq_some_iff.1 one
      obtain ⟨ps, all, rfl, done⟩ := ih rest taken
      have spelled : field = p.text := by
        obtain ⟨-, -, eq⟩ := parameter?_eq_some_iff.1 first
        rw [eq, Parameter.pair, String.toList_ofList, Parameter.text]
      exact ⟨p :: ps, by simpa using ⟨bounded, all⟩, by rw [spelled, List.map_cons], done⟩

end

/-- A cost that keeps its bounds. Every lane has eight blocks at least. -/
structure Affordable (c : Digest.Argon2.Cost) : Prop where
  memory : 8 ≤ c.memory
  share : 8 * c.lanes ≤ c.memory
  passes : 1 ≤ c.passes
  someLane : 1 ≤ c.lanes
  lanes : c.lanes ≤ 0xFFFFFF

theorem checkCost_eq_ok_iff {c : Digest.Argon2.Cost} {size : Nat} :
    checkCost c (some size) = .ok () ↔ Affordable c ∧ 4 ≤ size ∧ size ≤ 0xFFFFFFFF := by
  rw [checkCost]
  split_ifs with memory share passes someLane lanes short long
  case neg =>
    have whole : c.lanes * 8 % 0x100000000 = c.lanes * 8 := Nat.mod_eq_of_lt (by omega)
    exact iff_of_true rfl ⟨⟨by omega, by omega, by omega, by omega, by omega⟩, by omega⟩
  all_goals
    refine iff_of_false (by rintro ⟨⟩) ?_
    rintro ⟨kept, low, high⟩
  · exact absurd kept.memory (by omega)
  · have whole : c.lanes * 8 % 0x100000000 ≤ c.lanes * 8 := Nat.mod_le _ _
    exact absurd kept.share (by omega)
  · exact absurd kept.passes (by omega)
  · exact absurd kept.someLane (by omega)
  · exact absurd kept.lanes (by omega)
  · omega
  · omega

/-- Parameters as they are written. -/
def parametersText (ps : List Parameter) : List Char :=
  [','].intercalate (ps.map Parameter.text)

/-- The parameters take a field, if there are any. -/
def parameterFields (ps : List Parameter) : List (List Char) :=
  if ps.isEmpty then [] else [parametersText ps]

/-- The fields of a digest that parameters, a salt and the bytes of the digest make. -/
def fieldsOf (ps : List Parameter) (t : Target) : List (List Char) :=
  "argon2id".toList :: "v=19".toList :: (parameterFields ps
    ++ [Text.Base64.encode .standard t.salt, Text.Base64.encode .standard t.digest])

/-- What parameters, salt and digest have to be. Of a parameter given twice the last value
counts, and one that is not given has its default. -/
structure Describes (ps : List Parameter) (t : Target) : Prop where
  bounded : ∀ p ∈ ps, p.Bounded
  short : (parametersText ps).length ≤ 127
  recipe : ps.foldl Parameter.set {} = t.recipe
  cost : Affordable t.recipe.cost
  salt : 8 ≤ t.salt.length ∧ t.salt.length ≤ 48
  digest : 10 ≤ t.digest.length ∧ t.digest.length ≤ 64

/-- The text is an Argon2id digest of version 19 with a salt and an output: every field stands
behind a dollar sign, and its parameters, its salt and its output are those of the target. -/
def Names (text : String) (t : Target) : Prop :=
  ∃ ps, Describes ps t ∧ text.toList = (fieldsOf ps t).flatMap ('$' :: ·)

section
variable {cs : List Char} {s : String} {d : Bytes} {ps : List Parameter} {t : Target}
  {text : String} {e e' : Encoded}

theorem salt?_eq_some_iff :
    salt? cs = some s ↔ cs = s.toList ∧ isValue cs = true ∧ 4 ≤ cs.length := by
  rw [salt?, Option.ite_none_right_eq_some, Bool.and_eq_true, decide_eq_true_eq,
    Option.some.injEq, and_comm]
  exact and_congr_left' ⟨fun h => h ▸ String.toList_ofList.symm, fun h => h ▸ String.ofList_toList⟩

theorem digest?_eq_some_iff : digest? cs = some d ↔
    cs = Text.Base64.encode .standard d ∧ 10 ≤ d.length ∧ d.length ≤ 64 := by
  rw [digest?, Option.filter_eq_some_iff, Text.Base64.decode?_eq_some_iff, Bool.and_eq_true,
    decide_eq_true_eq, decide_eq_true_eq]

theorem not_mem_encode {sep : Char} (h : isValueChar sep = false) (bytes : Bytes) :
    sep ∉ Text.Base64.encode .standard bytes :=
  not_mem_of_isValueChar h fun _ => isValueChar_of_mem_encode

theorem of_mem_text {p : Parameter} (bounded : p.Bounded) {c : Char} (h : c ∈ p.text) :
    c = '=' ∨ isValueChar c = true := by
  rw [Parameter.text, List.mem_append, List.mem_cons] at h
  rcases h with front | same | back
  · exact .inr (isValueChar_of_isName p.isName_name c front)
  · exact .inl same
  · exact .inr ((isValue_iff.1 (Parameter.isValue_value bounded)).2 c back)

theorem mem_intercalate {sep c : Char} {fields : List (List Char)}
    (h : c ∈ [sep].intercalate fields) : c = sep ∨ ∃ f ∈ fields, c ∈ f := by
  cases fields with
  | nil => simp at h
  | cons f fields =>
      rw [intercalate_cons, List.mem_append, List.mem_flatMap] at h
      rcases h with h | ⟨g, hg, h⟩
      · exact .inr ⟨f, List.mem_cons_self, h⟩
      · rcases List.mem_cons.1 h with rfl | h
        · exact .inl rfl
        · exact .inr ⟨g, List.mem_cons_of_mem f hg, h⟩

theorem of_mem_parametersText (bounded : ∀ p ∈ ps, p.Bounded) {c : Char}
    (h : c ∈ parametersText ps) : c = ',' ∨ c = '=' ∨ isValueChar c = true := by
  rcases mem_intercalate h with same | ⟨f, hf, h⟩
  · exact .inl same
  · obtain ⟨p, hp, rfl⟩ := List.mem_map.1 hf
    exact .inr (of_mem_text (bounded p hp) h)

theorem utf8Len_of_ones {cs : List Char} (ones : ∀ c ∈ cs, c.utf8Size = 1) :
    String.utf8Len cs = cs.length := by
  induction cs with
  | nil => rfl
  | cons c cs ih =>
      rw [String.utf8Len_cons, ih fun d hd => ones d (List.mem_cons_of_mem c hd),
        ones c List.mem_cons_self, List.length_cons]

theorem size_parametersText (bounded : ∀ p ∈ ps, p.Bounded) :
    (String.ofList (parametersText ps)).utf8ByteSize = (parametersText ps).length := by
  rw [String.utf8ByteSize_ofList]
  refine utf8Len_of_ones fun c hc => ?_
  rcases of_mem_parametersText bounded hc with rfl | rfl | h
  · rfl
  · rfl
  · exact utf8Size_of_isValueChar h

theorem dollar_not_mem_fieldsOf (bounded : ∀ p ∈ ps, p.Bounded) :
    ∀ f ∈ fieldsOf ps t, '$' ∉ f := by
  have parameters : '$' ∉ parametersText ps := fun h =>
    absurd (of_mem_parametersText bounded h) (by decide)
  intro f hf
  simp only [fieldsOf, parameterFields, List.mem_cons, List.mem_append, List.not_mem_nil,
    or_false] at hf
  rcases hf with rfl | rfl | hf | rfl | rfl
  · decide
  · decide
  · split at hf
    · cases hf
    · rw [List.mem_singleton.1 hf]
      exact parameters
  · exact not_mem_encode rfl _
  · exact not_mem_encode rfl _

theorem equals_mem_parametersText (some : ps ≠ []) : (parametersText ps).contains '=' = true := by
  cases ps with
  | nil => exact absurd rfl some
  | cons p ps =>
      rw [parametersText, List.map_cons, intercalate_cons]
      simp [Parameter.text]

theorem parameters?_text (bounded : ∀ p ∈ ps, p.Bounded) (some : ps ≠ [])
    (short : (parametersText ps).length ≤ 127) :
    parameters? (parametersText ps) = .some (ps.map Parameter.pair) := by
  have apart : ∀ f ∈ ps.map Parameter.text, ',' ∉ f := by
    intro f hf h
    obtain ⟨p, hp, rfl⟩ := List.mem_map.1 hf
    exact absurd (of_mem_text (bounded p hp) h) (by decide)
  rw [parameters?, size_parametersText bounded, if_neg (Nat.not_lt.2 short), parametersText,
    splitAt_intercalate apart (by simpa using some), mapM_parameter?_text bounded]

theorem readEnd_text (e : Encoded) (low : 8 ≤ t.salt.length) (high : t.salt.length ≤ 48)
    (digest : 10 ≤ t.digest.length ∧ t.digest.length ≤ 64) :
    e.readEnd [Text.Base64.encode .standard t.salt, Text.Base64.encode .standard t.digest]
      = some { e with
          salt := some (Text.Base64.text .standard t.salt)
          digest := some t.digest } := by
  have length := Text.Base64.length_encode .standard t.salt
  have salt : salt? (Text.Base64.encode .standard t.salt)
      = some (Text.Base64.text .standard t.salt) :=
    salt?_eq_some_iff.2 ⟨String.toList_ofList.symm, isValue_encode high, by omega⟩
  rw [Encoded.readEnd, salt, digest?_eq_some_iff.2 ⟨rfl, digest⟩]

theorem fields_of_readEnd (missing : e.digest = none) {fields : List (List Char)}
    (read : e.readEnd fields = some e') (found : e'.digest = some d) :
    ∃ salt, fields = [salt.toList, Text.Base64.encode .standard d] ∧
      (10 ≤ d.length ∧ d.length ≤ 64) ∧ isValue salt.toList = true ∧
      e' = { e with salt := some salt, digest := some d } := by
  rw [Encoded.readEnd.eq_def] at read
  split at read
  · cases read
    rw [missing] at found
    cases found
  · obtain ⟨s, -, rfl⟩ := Option.map_eq_some_iff.1 read
    rw [missing] at found
    cases found
  next s c =>
    split at read
    next salt digest hs hd =>
      cases read
      cases found
      obtain ⟨rfl, value, -⟩ := salt?_eq_some_iff.1 hs
      obtain ⟨rfl, range⟩ := digest?_eq_some_iff.1 hd
      exact ⟨salt, rfl, range, value, rfl⟩
    · cases read
  · cases read

theorem readParameters_fields (described : Describes ps t) (e : Encoded)
    (first : e.parameters = []) :
    e.readParameters (parameterFields ps ++
        [Text.Base64.encode .standard t.salt, Text.Base64.encode .standard t.digest])
      = some { e with
          parameters := ps.map Parameter.pair
          salt := some (Text.Base64.text .standard t.salt)
          digest := some t.digest } := by
  have read (e : Encoded) := readEnd_text e described.salt.1 described.salt.2 described.digest
  cases ps with
  | nil =>
      have plain : (Text.Base64.encode .standard t.salt).contains '=' = false := by
        simpa using not_mem_encode rfl t.salt
      rw [parameterFields, List.isEmpty_nil, if_pos rfl, List.nil_append, Encoded.readParameters,
        plain, if_neg Bool.false_ne_true, read, List.map_nil, ← first]
  | cons p ps =>
      have some : p :: ps ≠ [] := List.cons_ne_nil p ps
      rw [parameterFields, if_neg (by simp), List.singleton_append, Encoded.readParameters,
        equals_mem_parametersText some, if_pos rfl,
        parameters?_text described.bounded some described.short, Option.bind_some, read]

/-- What is read behind the version, where an output is found and the parameters can be taken. -/
theorem fields_of_readParameters (missing : e.digest = none) (first : e.parameters = [])
    {fields : List (List Char)} {r : Recipe} (read : e.readParameters fields = some e')
    (found : e'.digest = some d) (taken : e'.parameters.foldlM Recipe.take? {} = some r) :
    ∃ ps salt, (∀ p ∈ ps, p.Bounded) ∧
      (parametersText ps).length ≤ 127 ∧ ps.foldl Parameter.set {} = r ∧
      fields = parameterFields ps ++ [salt.toList, Text.Base64.encode .standard d] ∧
      (10 ≤ d.length ∧ d.length ≤ 64) ∧ isValue salt.toList = true ∧ e'.salt = some salt := by
  cases fields with
  | nil =>
      cases read
      rw [missing] at found
      cases found
  | cons field rest =>
      rw [Encoded.readParameters] at read
      split at read
      · obtain ⟨qs, parameters, read⟩ := Option.bind_eq_some_iff.1 read
        have missing : ({ e with parameters := qs } : Encoded).digest = none := missing
        obtain ⟨salt, rfl, range, value, rfl⟩ := fields_of_readEnd missing read found
        rw [parameters?, Option.ite_none_left_eq_some, Nat.not_lt] at parameters
        obtain ⟨ps, bounded, split, done⟩ := exists_parameters parameters.2 taken
        have spelled : parametersText ps = field := by
          rw [parametersText, ← split, intercalate_splitAt]
        have some : ps ≠ [] := by
          rintro rfl
          exact absurd split (by rw [Text.splitAt_eq_splitOn]; exact List.splitOn_ne_nil _ _)
        have short : (parametersText ps).length ≤ 127 := by
          rw [← size_parametersText bounded, spelled]
          exact parameters.1
        refine ⟨ps, salt, bounded, short, done, ?_, range, value, rfl⟩
        rw [parameterFields, if_neg (by simpa using some), spelled]
        rfl
      · obtain ⟨salt, same, range, value, rfl⟩ := fields_of_readEnd missing read found
        refine ⟨[], salt, by simp, by decide, ?_, same, range, value, rfl⟩
        rw [show ({ e with salt := some salt, digest := some d } : Encoded).parameters = []
          from first] at taken
        exact Option.some.inj taken

theorem versionField?_eq_some_iff {rest : List Char} :
    versionField? cs = some rest ↔ cs = 'v' :: '=' :: rest ∧ ',' ∉ rest := by
  rw [versionField?.eq_def]
  split
  next rest' =>
    rw [Option.ite_none_left_eq_some, List.contains_iff_mem, Option.some.injEq, List.cons.injEq,
      List.cons.injEq]
    exact ⟨fun ⟨apart, same⟩ => ⟨⟨rfl, rfl, same⟩, same ▸ apart⟩,
      fun ⟨⟨_, _, same⟩, apart⟩ => ⟨same ▸ apart, same⟩⟩
  next other => exact iff_of_false (by rintro ⟨⟩) (by rintro ⟨rfl, -⟩; exact other _ rfl)

theorem version?_eq_some_iff {rest : List Char} :
    versionField? cs = some rest ∧ decimal? rest = some Digest.Argon2.version ↔
      cs = "v=19".toList ∧ rest = "19".toList := by
  have numeral : Nat.toDigits 10 Digest.Argon2.version = "19".toList := by decide
  have fits : Digest.Argon2.version ≤ Bounds.max32 := by decide
  rw [versionField?_eq_some_iff, decimal?_eq_some_iff, numeral]
  constructor
  · rintro ⟨⟨rfl, -⟩, rfl, -⟩
    exact ⟨rfl, rfl⟩
  · rintro ⟨rfl, rfl⟩
    exact ⟨⟨rfl, by decide⟩, rfl, fits⟩

theorem recipe?_eq_some_iff {r : Recipe} (found : e.digest = some d)
    (range : 10 ≤ d.length ∧ d.length ≤ 64) : e.recipe? = some r ↔
      e.parameters.foldlM Recipe.take? {} = some r ∧ Affordable r.cost := by
  have bounds : 4 ≤ d.length ∧ d.length ≤ 0xFFFFFFFF := by omega
  have affordable : (checkCost r.cost (some d.length)).toBool = true ↔ Affordable r.cost := by
    rw [← and_iff_left (a := Affordable r.cost) bounds, ← checkCost_eq_ok_iff]
    cases checkCost r.cost (some d.length) <;> simp [Except.toBool]
  rw [Encoded.recipe?, Option.filter_eq_some_iff, found, Option.map_some, affordable]

theorem readEnd_keeps {fields : List (List Char)} (read : e.readEnd fields = some e') :
    e'.algorithm = e.algorithm ∧ e'.version = e.version := by
  rw [Encoded.readEnd.eq_def] at read
  split at read
  · cases read
    exact ⟨rfl, rfl⟩
  · obtain ⟨s, -, rfl⟩ := Option.map_eq_some_iff.1 read
    exact ⟨rfl, rfl⟩
  · split at read
    · cases read
      exact ⟨rfl, rfl⟩
    · cases read
  · cases read

theorem readParameters_keeps {fields : List (List Char)}
    (read : e.readParameters fields = some e') :
    e'.algorithm = e.algorithm ∧ e'.version = e.version := by
  rw [Encoded.readParameters.eq_def] at read
  split at read
  · cases read
    exact ⟨rfl, rfl⟩
  · split at read
    · obtain ⟨qs, -, read⟩ := Option.bind_eq_some_iff.1 read
      exact readEnd_keeps (e := { e with parameters := qs }) read
    · exact readEnd_keeps read

theorem fields_of_read? (encoded : Encoded.read? text = some e)
    (algorithm : e.algorithm = "argon2id") (version : e.version = some Digest.Argon2.version) :
    ∃ fields, splitAt '$' text.toList = [] :: "argon2id".toList :: "v=19".toList :: fields ∧
      Encoded.readParameters ⟨"argon2id", some Digest.Argon2.version, [], none, none⟩ fields
        = some e := by
  rw [Encoded.read?] at encoded
  split at encoded
  next name rest split =>
    rw [Option.ite_none_left_eq_some] at encoded
    obtain ⟨-, encoded⟩ := encoded
    split at encoded
    · cases encoded
      cases version
    next field fields =>
      split at encoded
      next v versioned =>
        obtain ⟨n, numeral, read⟩ := Option.bind_eq_some_iff.1 encoded
        have kept := readParameters_keeps read
        obtain rfl : n = Digest.Argon2.version := Option.some.inj (kept.2.symm.trans version)
        have named : String.ofList name = "argon2id" := kept.1.symm.trans algorithm
        have spelled : name = "argon2id".toList := by rw [← named, String.toList_ofList]
        obtain ⟨versioned, -⟩ := version?_eq_some_iff.1 ⟨versioned, numeral⟩
        rw [named] at read
        exact ⟨fields, by rw [split, spelled, versioned], read⟩
      next bare =>
        rw [(readParameters_keeps encoded).2] at version
        cases version
  · cases encoded

theorem names_of_read? (read : Target.read? text = some t) : Names text t := by
  rw [Target.read?] at read
  split at read
  · cases read
  next e encoded =>
    rw [Option.ite_none_left_eq_some, not_or, not_not, not_not] at read
    obtain ⟨⟨algorithm, version⟩, read⟩ := read
    split at read
    next r salt digest recipe salted found =>
      rw [Option.ite_none_left_eq_some, Nat.not_lt, Option.some.injEq] at read
      obtain ⟨low, rfl⟩ := read
      obtain ⟨fields, split, read⟩ := fields_of_read? encoded algorithm version
      have taken := Option.filter_eq_some_iff.1 recipe
      obtain ⟨ps, spelled, bounded, short, done, rfl, range, value, written⟩ :=
        fields_of_readParameters rfl rfl read found taken.1
      rw [written, Option.bind_some, bytes?_eq_some_iff] at salted
      have cost := (recipe?_eq_some_iff found range).1 recipe
      have length := Text.Base64.length_encode .standard salt
      rw [salted.1] at split value
      have narrow := (isValue_iff.1 value).1
      have high : salt.length ≤ 48 := by omega
      have described : Describes ps ⟨r, salt, digest⟩ :=
        ⟨bounded, short, done, cost.2, ⟨low, high⟩, range⟩
      exact ⟨ps, described, (splitAt_eq_nil_cons_iff (dollar_not_mem_fieldsOf bounded)).1 split⟩
    · cases read

theorem read?_of_names (names : Names text t) : Target.read? text = some t := by
  obtain ⟨ps, described, written⟩ := names
  have split := (splitAt_eq_nil_cons_iff (dollar_not_mem_fieldsOf described.bounded)).2 written
  have name : isName "argon2id".toList = true := by decide
  obtain ⟨field, version⟩ := version?_eq_some_iff.2 ⟨rfl, rfl⟩
  have encoded : Encoded.read? text = some ⟨"argon2id", some Digest.Argon2.version,
      ps.map Parameter.pair, some (Text.Base64.text .standard t.salt), some t.digest⟩ := by
    rw [Encoded.read?, split, fieldsOf]
    simp only [name, field, version, Bool.not_true, Bool.false_eq_true, if_false,
      Option.bind_some, String.ofList_toList]
    exact readParameters_fields described _ rfl
  have recipe : Encoded.recipe? ⟨"argon2id", some Digest.Argon2.version, ps.map Parameter.pair,
      some (Text.Base64.text .standard t.salt), some t.digest⟩ = some t.recipe :=
    (recipe?_eq_some_iff rfl described.digest).2
      ⟨described.recipe ▸ foldlM_take?_pair described.bounded {}, described.cost⟩
  have salt : bytes? 64 (Text.Base64.text .standard t.salt) = some t.salt :=
    bytes?_eq_some_iff.2 ⟨String.toList_ofList, Nat.le_trans described.salt.2 (by decide)⟩
  rw [Target.read?, encoded]
  simp only [recipe, salt, Option.bind_some]
  exact (if_neg (by simp)).trans (if_neg (Nat.not_lt.2 described.salt.1))

/-- The texts that are read are those that name a target, and they name what is read. -/
theorem read?_eq_some_iff : Target.read? text = some t ↔ Names text t :=
  ⟨names_of_read?, read?_of_names⟩

end

end Gatehouse.Password
