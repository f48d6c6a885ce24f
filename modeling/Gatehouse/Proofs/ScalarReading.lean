import Gatehouse.Json.Record

/-!
Texts and whole numbers are read back from what is written. A text is followed character by
character: each is written as itself or as one escape, and either leaves its own bytes behind.
A number ends where a mark follows it that belongs to no number.
-/

namespace Gatehouse.Json

/-- The bytes of characters. -/
def bytesOf (cs : List Char) : Bytes := cs.flatMap String.utf8EncodeChar

theorem utf8_ofList (cs : List Char) : Text.utf8 (String.ofList cs) = bytesOf cs := by
  rw [Text.utf8, String.toUTF8_eq_toByteArray, String.toByteArray_ofList, List.utf8Encode,
    List.data_toByteArray]
  rfl

theorem bytesOf_toList (s : String) : bytesOf s.toList = Text.utf8 s := by
  rw [← utf8_ofList, String.ofList_toList]

theorem bytesOf_cons (c : Char) (cs : List Char) :
    bytesOf (c :: cs) = String.utf8EncodeChar c ++ bytesOf cs := List.flatMap_cons ..

theorem bytesOf_append (cs ds : List Char) : bytesOf (cs ++ ds) = bytesOf cs ++ bytesOf ds :=
  List.flatMap_append ..

theorem length_utf8_le (s : String) : (Text.utf8 s).length ≤ 4 * s.length := by
  rw [← bytesOf_toList, ← String.length_toList]
  induction s.toList with
  | nil => exact Nat.le_refl _
  | cons c cs ih =>
      have own := c.utf8Size_le_four
      rw [bytesOf_cons, List.length_append, List.length_cons, String.length_utf8EncodeChar]
      omega

theorem utf8EncodeChar_of_lt {c : Char} (h : c.toNat < 128) :
    String.utf8EncodeChar c = [UInt8.ofNat c.toNat] := by
  have le : c.val.toNat ≤ 127 := Nat.le_of_lt_succ h
  rw [String.utf8EncodeChar, if_pos le]
  rfl

theorem le_of_mem_utf8EncodeChar {c : Char} (h : ¬ c.toNat < 128) {b : UInt8}
    (hb : b ∈ String.utf8EncodeChar c) : 128 ≤ b.toNat := by
  have big : ¬ c.val.toNat ≤ 127 := fun le => h (Nat.lt_succ_of_le le)
  have bound := c.val.toNat_lt
  simp only [String.utf8EncodeChar, if_neg big] at hb
  split at hb
  · simp only [List.mem_cons, List.not_mem_nil, or_false] at hb
    rcases hb with rfl | rfl <;> rw [UInt8.toNat_ofNat'] <;> omega
  split at hb
  · simp only [List.mem_cons, List.not_mem_nil, or_false] at hb
    rcases hb with rfl | rfl | rfl <;> rw [UInt8.toNat_ofNat'] <;> omega
  · simp only [List.mem_cons, List.not_mem_nil, or_false] at hb
    rcases hb with rfl | rfl | rfl | rfl <;> rw [UInt8.toNat_ofNat'] <;> omega

/-- Bytes that stand for themselves inside a string. -/
def IsPlain (b : UInt8) : Prop := b ≠ 34 ∧ b ≠ 92 ∧ 32 ≤ b.toNat

theorem stringBytes_plain {bs : Bytes} (h : ∀ b ∈ bs, IsPlain b) (out rest : Bytes) :
    stringBytes .plain out (bs ++ rest) = stringBytes .plain (bs.reverse ++ out) rest := by
  induction bs generalizing out with
  | nil => rfl
  | cons b bs ih =>
      obtain ⟨quote, slash, low⟩ := h b List.mem_cons_self
      have one : step .plain b = .ok (.go .plain [b]) := by
        rw [step, if_neg quote, if_neg slash, if_neg (by rwa [UInt8.lt_iff_toNat_lt, Nat.not_lt])]
      rw [List.cons_append, stringBytes, one]
      simp only [ih fun c hc => h c (.tail b hc)]
      simp

theorem hexDigit_lt : ∀ n < 16, (Text.hexDigit n).toNat < 128 := by decide

theorem withDigit_hexDigit (v : Nat) {n : Nat} (h : n < 16) :
    withDigit (some v) (UInt8.ofNat (Text.hexDigit n).toNat) = some (16 * v + n) := by
  have value : ∀ n < 16, hexDigit? (UInt8.ofNat (Text.hexDigit n).toNat) = some n := by decide
  simp only [withDigit, value n h]

theorem stringBytes_cons {m : Mode} {b : UInt8} (next : Mode) (more : Bytes)
    (h : step m b = .ok (.go next more)) (out rest : Bytes) :
    stringBytes m out (b :: rest) = stringBytes next (more.reverse ++ out) rest := by
  simp only [stringBytes, h]

/-- A code unit below the space, in four digits of which the first two are zeros. -/
theorem stringBytes_unit {n : Nat} (h : n < 32) (out rest : Bytes) :
    stringBytes .plain out (bytesOf ['\\', 'u', '0', '0', Text.hexDigit (n / 16),
      Text.hexDigit (n % 16)] ++ rest)
      = stringBytes .plain ((utf8OfCode n).reverse ++ out) rest := by
  have high : n / 16 < 16 := by omega
  have low : n % 16 < 16 := by omega
  have bytes : bytesOf ['\\', 'u', '0', '0', Text.hexDigit (n / 16), Text.hexDigit (n % 16)]
      = [92, 117, 48, 48, UInt8.ofNat (Text.hexDigit (n / 16)).toNat,
        UInt8.ofNat (Text.hexDigit (n % 16)).toNat] := by
    simp only [bytesOf, List.flatMap_cons, List.flatMap_nil,
      utf8EncodeChar_of_lt (hexDigit_lt _ high), utf8EncodeChar_of_lt (hexDigit_lt _ low)]
    rfl
  have third : step (.unit 1 (some 0) none) (UInt8.ofNat (Text.hexDigit (n / 16)).toNat)
      = .ok (.go (.unit 0 (some (16 * 0 + n / 16)) none) []) := by
    rw [step, withDigit_hexDigit 0 high]
  have code : 16 * (16 * 0 + n / 16) + n % 16 = n := by omega
  have trailing : isTrailing n = false := by simp [isTrailing]; omega
  have leading : isLeading n = false := by simp [isLeading]; omega
  have fourth : step (.unit 0 (some (16 * 0 + n / 16)) none)
      (UInt8.ofNat (Text.hexDigit (n % 16)).toNat) = .ok (.go .plain (utf8OfCode n)) := by
    rw [step, withDigit_hexDigit _ low, code, unitRead, trailing, leading]
    rfl
  rw [bytes]
  simp only [List.cons_append, List.nil_append]
  rw [stringBytes_cons .escape [] rfl, stringBytes_cons (.unit 3 (some 0) none) [] rfl,
    stringBytes_cons (.unit 2 (some 0) none) [] rfl,
    stringBytes_cons (.unit 1 (some 0) none) [] rfl,
    stringBytes_cons _ _ third, stringBytes_cons _ _ fourth]
  rfl

/-- The characters that are written with a letter behind the backslash. -/
theorem stringBytes_short {c e : Char} (h : shortEscape? c = some e) (out rest : Bytes) :
    stringBytes .plain out (bytesOf ['\\', e] ++ rest)
      = stringBytes .plain ((String.utf8EncodeChar c).reverse ++ out) rest := by
  unfold shortEscape? at h
  split at h
  next same =>
    cases h
    rcases same with rfl | rfl <;> rfl
  split at h
  next same => cases h; subst same; rfl
  split at h
  next same => cases h; subst same; rfl
  split at h
  next same => cases h; subst same; rfl
  split at h
  next same => cases h; subst same; rfl
  split at h
  next same => cases h; subst same; rfl
  · cases h

/-- A character without an escape of its own is written as it is. -/
theorem isPlain_of_mem {c : Char} (short : shortEscape? c = none) (low : ¬ c.toNat < 32)
    {b : UInt8} (hb : b ∈ String.utf8EncodeChar c) : IsPlain b := by
  by_cases ascii : c.toNat < 128
  · rw [utf8EncodeChar_of_lt ascii, List.mem_singleton] at hb
    subst hb
    have code : (UInt8.ofNat c.toNat).toNat = c.toNat := by
      rw [UInt8.toNat_ofNat']
      omega
    have same {x : UInt8} (h : UInt8.ofNat c.toNat = x) : c = Char.ofNat x.toNat := by
      rw [← h, code, Char.ofNat_toNat]
    refine ⟨fun h => ?_, fun h => ?_, by omega⟩
    · rw [same h] at short
      cases short
    · rw [same h] at short
      cases short
  · have high := le_of_mem_utf8EncodeChar ascii hb
    refine ⟨?_, ?_, by omega⟩
    · rintro rfl
      exact absurd high (by decide)
    · rintro rfl
      exact absurd high (by decide)

theorem stringBytes_escapeChar (c : Char) (out rest : Bytes) :
    stringBytes .plain out (bytesOf (escapeChar c) ++ rest)
      = stringBytes .plain ((String.utf8EncodeChar c).reverse ++ out) rest := by
  cases short : shortEscape? c with
  | some e =>
      have escape : escapeChar c = ['\\', e] := by simp only [escapeChar, short]
      rw [escape, stringBytes_short short]
  | none =>
      by_cases low : c.toNat < 32
      · have escape : escapeChar c = ['\\', 'u', '0', '0', Text.hexDigit (c.toNat / 16),
            Text.hexDigit (c.toNat % 16)] := by simp only [escapeChar, short, if_pos low]
        have code : utf8OfCode c.toNat = String.utf8EncodeChar c := by
          rw [utf8OfCode, Char.ofNat_toNat]
        rw [escape, stringBytes_unit low, code]
      · have escape : escapeChar c = [c] := by simp only [escapeChar, short, if_neg low]
        have bytes : bytesOf [c] = String.utf8EncodeChar c := List.append_nil _
        rw [escape, bytes]
        exact stringBytes_plain (fun b => isPlain_of_mem short low) out rest

theorem stringBytes_flatMap (cs : List Char) (out rest : Bytes) :
    stringBytes .plain out (bytesOf (cs.flatMap escapeChar) ++ 34 :: rest)
      = .ok (out.reverse ++ bytesOf cs, rest) := by
  induction cs generalizing out with
  | nil => simp [bytesOf, stringBytes, step]
  | cons c cs ih =>
      rw [List.flatMap_cons, bytesOf_append, List.append_assoc, stringBytes_escapeChar, ih,
        bytesOf_cons]
      simp

theorem bind_apply_of_ok {α β : Type} {read : Reader α} {f : α → Reader β} {bs rest : Bytes}
    {a : α} (h : read bs = .ok (a, rest)) : (read >>= f) bs = f a rest := by
  show (read bs >>= fun p => f p.1 p.2) = _
  rw [h]
  rfl

/-- The closing quote is taken too. -/
theorem string_flatMap (s : String) (rest : Bytes) :
    string (bytesOf (s.toList.flatMap escapeChar) ++ 34 :: rest) = .ok (s, rest) := by
  rw [string, bind_apply_of_ok (stringBytes_flatMap s.toList [] rest), List.reverse_nil,
    List.nil_append, bytesOf_toList, textOfBytes?_utf8]
  rfl

theorem bytesOf_writeText (s : String) (rest : Bytes) : bytesOf (writeText s) ++ rest
    = 34 :: (bytesOf (s.toList.flatMap escapeChar) ++ 34 :: rest) := by
  rw [writeText, bytesOf_cons, bytesOf_append]
  simp only [List.append_assoc]
  rfl

theorem peek_cons {b : UInt8} (h : isSpace b = false) (rest : Bytes) :
    peek (b :: rest) = .ok (some b, b :: rest) := by
  simp [peek, skipSpace, h]

theorem text_writeText (s : String) (rest : Bytes) :
    text (bytesOf (writeText s) ++ rest) = .ok (s, rest) := by
  rw [bytesOf_writeText, text, bind_apply_of_ok (peek_cons rfl _)]
  exact string_flatMap s rest

theorem name_writeText (s : String) (rest : Bytes) :
    name (bytesOf (writeText s) ++ rest) = .ok (s, rest) := by
  rw [bytesOf_writeText, name, bind_apply_of_ok (peek_cons rfl _)]
  exact string_flatMap s rest

theorem key_writeText (s : String) (rest : Bytes) :
    key (bytesOf (writeText s) ++ rest) = .ok (s, rest) := by
  rw [bytesOf_writeText]
  exact string_flatMap s rest

theorem absorb_of_le {bound : Nat} (ds : List Nat) (n : Nat)
    (h : ds.foldl (fun acc d => 10 * acc + d) n ≤ bound) :
    absorb bound n ds = (ds.foldl (fun acc d => 10 * acc + d) n, []) := by
  have grows (ds : List Nat) (n : Nat) : n ≤ ds.foldl (fun acc d => 10 * acc + d) n := by
    induction ds generalizing n with
    | nil => exact Nat.le_refl n
    | cons d ds ih => exact Nat.le_trans (by omega) (ih (10 * n + d))
  induction ds generalizing n with
  | nil => rfl
  | cons d ds ih =>
      rw [absorb, if_neg (Nat.not_lt.2 (Nat.le_trans (grows ds _) h))]
      exact ih _ h

/-- The values of the digits of a number. -/
def valuesOf (n : Nat) : List Nat := (Nat.toDigits 10 n).map fun c => c.toNat - 48

theorem foldl_valuesOf (n : Nat) : (valuesOf n).foldl (fun acc d => 10 * acc + d) 0 = n := by
  have h := Nat.ofDigitChars_toDigits (b := 10) (n := n) (by decide) (by decide)
  rw [valuesOf, List.foldl_map]
  exact h

theorem valuesOf_of_pos {n : Nat} (h : 0 < n) : ∃ d ds, valuesOf n = (d + 1) :: ds := by
  induction n using Nat.strongRecOn with
  | ind n ih =>
      rcases Nat.lt_or_ge n 10 with small | large
      · have digit : ∀ n < 10, 0 < n → n.digitChar.toNat - 48 = n - 1 + 1 := by decide
        refine ⟨n - 1, [], ?_⟩
        rw [valuesOf, Nat.toDigits_of_lt_base small, List.map_singleton, digit n small h]
      · obtain ⟨d, ds, e⟩ := ih (n / 10) (by omega) (by omega)
        refine ⟨d, ds ++ [(n % 10).digitChar.toNat - 48], ?_⟩
        rw [valuesOf] at e
        rw [valuesOf, Nat.toDigits_of_base_le (by decide) large, List.map_append, e]
        rfl

theorem digit_byte {c : Char} (h : c.isDigit = true) :
    String.utf8EncodeChar c = [UInt8.ofNat c.toNat] ∧ isDigit (UInt8.ofNat c.toNat) = true ∧
      (UInt8.ofNat c.toNat).toNat = c.toNat := by
  simp only [Char.isDigit, ge_iff_le, Bool.and_eq_true, decide_eq_true_eq,
    UInt32.le_iff_toNat_le] at h
  have high : c.toNat ≤ 57 := h.2
  have code : (UInt8.ofNat c.toNat).toNat = c.toNat := by
    rw [UInt8.toNat_ofNat']
    omega
  refine ⟨utf8EncodeChar_of_lt (by omega), ?_, code⟩
  simp only [isDigit, Bool.and_eq_true, decide_eq_true_eq, UInt8.le_iff_toNat_le, code]
  exact h

theorem digits_append {cs : List Char} (h : ∀ c ∈ cs, c.isDigit = true) {b : UInt8}
    (hb : isDigit b = false) (rest : Bytes) :
    digits (bytesOf cs ++ b :: rest) = .ok (cs.map fun c => c.toNat - 48, b :: rest) := by
  rw [digits]
  induction cs with
  | nil => simp [bytesOf, hb]
  | cons c cs ih =>
      obtain ⟨byte, digit, code⟩ := digit_byte (h c List.mem_cons_self)
      have tail := ih fun d hd => h d (.tail c hd)
      rw [Except.ok.injEq, Prod.mk.injEq] at tail ⊢
      rw [bytesOf_cons, byte, List.append_assoc, List.singleton_append,
        List.takeWhile_cons_of_pos digit, List.dropWhile_cons_of_pos digit, List.map_cons,
        List.map_cons, tail.1, code]
      exact ⟨rfl, tail.2⟩

theorem isDigit_of_mem_toDigits {n : Nat} {c : Char} (h : c ∈ Nat.toDigits 10 n) :
    c.isDigit = true := Nat.isDigit_of_mem_toDigits (by decide) (by decide) h

/-- What follows a number in an object. -/
def IsMark (b : UInt8) : Prop := b = 44 ∨ b = 125

theorem accept_mark {b : UInt8} (mark : IsMark b) {choices : Bytes}
    (other : choices.contains 44 = false ∧ choices.contains 125 = false) (rest : Bytes) :
    accept choices (b :: rest) = .ok (none, b :: rest) := by
  rcases mark with rfl | rfl
  · rw [accept, other.1]
    rfl
  · rw [accept, other.2]
    rfl

theorem numeral_toDigits {n : Nat} (h : n ≤ maxNatural) {b : UInt8} (mark : IsMark b)
    (positive : Bool) (rest : Bytes) :
    numeral positive (bytesOf (Nat.toDigits 10 n) ++ b :: rest)
      = afterWhole positive n 0 (b :: rest) := by
  have end_ : isDigit b = false := by rcases mark with rfl | rfl <;> rfl
  have read := digits_append (fun _ => isDigit_of_mem_toDigits (n := n)) end_ rest
  rw [numeral, bind_apply_of_ok read]
  rcases Nat.eq_zero_or_pos n with rfl | pos
  · rfl
  · obtain ⟨d, ds, e⟩ := valuesOf_of_pos pos
    have whole := foldl_valuesOf n
    have fits : absorb maxNatural 0 (valuesOf n) = (n, []) := by
      rw [absorb_of_le _ _ (by rwa [whole]), whole]
    rw [valuesOf] at e fits
    rw [e] at fits ⊢
    simp only [fits]
    rfl

theorem afterWhole_mark (positive : Bool) (n : Nat) {b : UInt8} (mark : IsMark b) (rest : Bytes) :
    afterWhole positive n 0 (b :: rest)
      = if positive then .ok (.natural n, b :: rest)
        else if n = 0 ∨ 0x8000000000000000 < n then real false n 0 (b :: rest)
        else .ok (.negative n, b :: rest) := by
  rw [afterWhole, bind_apply_of_ok (accept_mark mark (by decide) rest)]
  dsimp only
  rw [bind_apply_of_ok (accept_mark mark (by decide) rest)]
  cases positive with
  | true => rfl
  | false =>
      simp only [Bool.false_eq_true, if_false, ne_eq, not_true_eq_false]
      split <;> rfl

theorem ne_of_isDigit {b : UInt8} (h : isDigit b = true) : b ≠ 45 ∧ isSpace b = false := by
  refine ⟨?_, Bool.eq_false_iff.2 fun space => ?_⟩
  · rintro rfl
    cases h
  · simp only [isSpace, Bool.or_eq_true, beq_iff_eq] at space
    rcases space with ((rfl | rfl) | rfl) | rfl <;> cases h

theorem peek_toDigits (n : Nat) (rest : Bytes) :
    ∃ b, b ≠ 45 ∧ isDigit b = true ∧
      peek (bytesOf (Nat.toDigits 10 n) ++ rest)
        = .ok (some b, bytesOf (Nat.toDigits 10 n) ++ rest) := by
  cases h : Nat.toDigits 10 n with
  | nil => exact absurd h Nat.toDigits_ne_nil
  | cons c cs =>
      obtain ⟨byte, digit, -⟩ := digit_byte (isDigit_of_mem_toDigits (h ▸ List.mem_cons_self))
      obtain ⟨sign, visible⟩ := ne_of_isDigit digit
      refine ⟨_, sign, digit, ?_⟩
      rw [bytesOf_cons, byte, List.append_assoc, List.singleton_append, peek_cons visible]

/-- A whole number of 64 bits is read back, whatever its sign. -/
theorem integer_ofInt {i : Int} (low : Bounds.minSigned ≤ i) (high : i ≤ Bounds.maxSigned)
    {b : UInt8} (mark : IsMark b) (rest : Bytes) :
    integer (bytesOf (Value.ofInt i).write ++ b :: rest) = .ok (i, b :: rest) := by
  rw [Bounds.minSigned] at low
  rw [Bounds.maxSigned] at high
  cases i with
  | ofNat n =>
      rw [Int.ofNat_eq_natCast] at high ⊢
      have written : (Value.ofInt n).write = Nat.toDigits 10 n := String.toList_ofList
      have small : n ≤ maxNatural := by
        rw [maxNatural, Bounds.max64]
        omega
      have read := (numeral_toDigits small mark true rest).trans (afterWhole_mark true n mark rest)
      have value : (Numeral.natural n).integer? = some (n : Int) := by
        rw [Numeral.integer?, if_pos (by omega)]
      obtain ⟨d, sign, digit, ahead⟩ := peek_toDigits n (b :: rest)
      rw [written, integer, bind_apply_of_ok ahead]
      simp only [digit, if_true]
      rw [bind_apply_of_ok read]
      simp only [value]
      rfl
  | negSucc n =>
      have written : (Value.ofInt (Int.negSucc n)).write = '-' :: Nat.toDigits 10 (n + 1) := by
        rw [Value.ofInt, Value.write, Numeral.text, String.toList_append]
        exact congrArg ('-' :: ·) String.toList_ofList
      have small : n + 1 ≤ maxNatural := by
        rw [maxNatural, Bounds.max64]
        omega
      have read := (numeral_toDigits small mark false rest).trans
        (afterWhole_mark false (n + 1) mark rest)
      rw [if_neg Bool.false_ne_true, if_neg (by omega)] at read
      have signed : bytesOf ('-' :: Nat.toDigits 10 (n + 1)) ++ b :: rest
          = 45 :: (bytesOf (Nat.toDigits 10 (n + 1)) ++ b :: rest) := rfl
      have taken : drop (45 :: (bytesOf (Nat.toDigits 10 (n + 1)) ++ b :: rest))
          = .ok ((), bytesOf (Nat.toDigits 10 (n + 1)) ++ b :: rest) := rfl
      rw [written, signed, integer, bind_apply_of_ok (peek_cons rfl _)]
      simp only
      rw [bind_apply_of_ok taken, bind_apply_of_ok read]
      rfl

end Gatehouse.Json
