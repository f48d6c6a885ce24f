import Gatehouse.Account.Email
import Mathlib.Computability.RegularExpressions

/-!
Which addresses are accepted. The check cuts a text at its first at sign, and what is behind it at
its last dot. The form of an address is told here in two other ways: by its parts, and as a
regular expression, which may match in any way there is. A text can be cut into such parts in one
way only, since what is in front of the at sign has none and the letters at the end have no dot.
-/

namespace Gatehouse.Account.Email

open Text (cutFirst_eq_some_iff cutLast_eq_some_iff)

/-- The characters from one to another. -/
def range (first last : Char) : List Char :=
  (List.range' first.toNat (last.toNat + 1 - first.toNat)).map Char.ofNat

def letters : List Char := range 'a' 'z' ++ range 'A' 'Z'

def locals : List Char := letters ++ range '0' '9' ++ ['.', '_', '%', '+', '-']

def domains : List Char := letters ++ range '0' '9' ++ ['.', '-']

section
variable {first last c : Char}

theorem mem_range (low : last.toNat < 0xd800) :
    c ∈ range first last ↔ first ≤ c ∧ c ≤ last := by
  have bounds : first ≤ c ∧ c ≤ last ↔ first.toNat ≤ c.toNat ∧ c.toNat ≤ last.toNat := Iff.rfl
  simp only [bounds, range, List.mem_map, List.mem_range'_1]
  constructor
  · rintro ⟨n, between, rfl⟩
    have valid : n.isValidChar := .inl (by omega)
    have same : (Char.ofNat n).toNat = n := by
      rw [Char.ofNat, dif_pos valid]
      rfl
    omega
  · exact fun between => ⟨c.toNat, by omega, Char.ofNat_toNat c⟩

theorem mem_letters : c ∈ letters ↔ isLetter c = true := by
  rw [letters, List.mem_append, mem_range (by decide), mem_range (by decide), isLetter,
    Bool.or_eq_true, Bool.and_eq_true, Bool.and_eq_true]
  simp only [decide_eq_true_eq]

theorem mem_digits : c ∈ range '0' '9' ↔ isDigit c = true := by
  rw [mem_range (by decide), isDigit, Bool.and_eq_true, decide_eq_true_eq, decide_eq_true_eq]

theorem mem_locals : c ∈ locals ↔ isLocal c = true := by
  simp only [locals, List.mem_append, mem_letters, mem_digits, isLocal, Bool.or_eq_true,
    List.mem_cons, List.not_mem_nil, or_false, beq_iff_eq, or_assoc]

theorem mem_domains : c ∈ domains ↔ isDomain c = true := by
  simp only [domains, List.mem_append, mem_letters, mem_digits, isDomain, Bool.or_eq_true,
    List.mem_cons, List.not_mem_nil, or_false, beq_iff_eq, or_assoc]

end

/-- One of some characters. -/
def oneOf (cs : List Char) : RegularExpression Char := (cs.map .char).sum

/-- So many of some characters, or more. -/
def atLeast (n : Nat) (cs : List Char) : RegularExpression Char := oneOf cs ^ n * (oneOf cs).star

/-- The form of an address. -/
def pattern : RegularExpression Char :=
  atLeast 1 locals * .char '@' * (atLeast 1 domains * .char '.' * atLeast 2 letters)

section
variable {cs w : List Char} {n : Nat}

theorem mem_oneOf : w ∈ (oneOf cs).matches' ↔ ∃ c ∈ cs, w = [c] := by
  induction cs with
  | nil => exact iff_of_false id (by simp)
  | cons c cs ih =>
      have sum : oneOf (c :: cs) = .char c + oneOf cs := rfl
      have single : w ∈ (RegularExpression.char c).matches' ↔ w = [c] := Iff.rfl
      rw [sum, RegularExpression.matches'_add, Language.mem_add, single, ih]
      simp

theorem mem_mul_char {p : RegularExpression Char} {c : Char} :
    w ∈ (p * .char c).matches' ↔ ∃ v ∈ p.matches', v ++ [c] = w := by
  rw [RegularExpression.matches'_mul, Language.mem_mul]
  constructor
  · rintro ⟨v, hv, _, rfl, same⟩
    exact ⟨v, hv, same⟩
  · rintro ⟨v, hv, same⟩
    exact ⟨v, hv, _, rfl, same⟩

theorem flatten_of_singles {ws : List (List Char)} (single : ∀ v ∈ ws, ∃ c ∈ cs, v = [c]) :
    ws.flatten.length = ws.length ∧ ∀ c ∈ ws.flatten, c ∈ cs := by
  induction ws with
  | nil => exact ⟨rfl, nofun⟩
  | cons v ws ih =>
      obtain ⟨c, hc, rfl⟩ := single v List.mem_cons_self
      obtain ⟨length, among⟩ := ih fun u hu => single u (.tail _ hu)
      rw [List.flatten_cons, List.singleton_append]
      exact ⟨congrArg (· + 1) length, List.forall_mem_cons.2 ⟨hc, among⟩⟩

theorem mem_atLeast : w ∈ (atLeast n cs).matches' ↔ n ≤ w.length ∧ ∀ c ∈ w, c ∈ cs := by
  have singles (v : List Char) : v = (v.map ([·])).flatten := by
    rw [← List.flatMap_def, List.flatMap_singleton']
  have one {v : List Char} (among : ∀ c ∈ v, c ∈ cs) :
      ∀ u ∈ v.map ([·]), u ∈ (oneOf cs).matches' := by
    intro u hu
    obtain ⟨c, hc, rfl⟩ := List.mem_map.1 hu
    exact mem_oneOf.2 ⟨c, among c hc, rfl⟩
  rw [atLeast, RegularExpression.matches'_mul, RegularExpression.matches'_pow,
    RegularExpression.matches'_star, Language.mem_mul]
  constructor
  · rintro ⟨a, first, b, rest, rfl⟩
    obtain ⟨as, rfl, count, ones⟩ := Language.mem_pow.1 first
    obtain ⟨bs, rfl, ones'⟩ := Language.mem_kstar.1 rest
    obtain ⟨length, among⟩ := flatten_of_singles fun v hv => mem_oneOf.1 (ones v hv)
    obtain ⟨-, among'⟩ := flatten_of_singles fun v hv => mem_oneOf.1 (ones' v hv)
    refine ⟨by rw [List.length_append]; omega, fun c hc => ?_⟩
    exact (List.mem_append.1 hc).elim (among c) (among' c)
  · rintro ⟨enough, among⟩
    refine ⟨w.take n, ?_, w.drop n, ?_, List.take_append_drop n w⟩
    · refine Language.mem_pow.2 ⟨_, singles _, ?_,
        one fun c hc => among c (List.mem_of_mem_take hc)⟩
      rw [List.length_map, List.length_take]
      omega
    · exact Language.mem_kstar.2 ⟨_, singles _, one fun c hc => among c (List.mem_of_mem_drop hc)⟩

end

/-- A text is cut into the parts of an address. -/
structure Cut (cs before host top : List Char) : Prop where
  text : cs = before ++ '@' :: (host ++ '.' :: top)
  named : before ≠ []
  hosted : host ≠ []
  long : 2 ≤ top.length
  front : ∀ c ∈ before, c ∈ locals
  middle : ∀ c ∈ host, c ∈ domains
  last : ∀ c ∈ top, c ∈ letters

/-- An address has one at sign. In front of it stand letters, digits and a few marks. Behind it
stand letters, digits, dots and dashes: something, the last dot, and two letters or more. -/
structure IsAddress (cs : List Char) : Prop where
  single : cs.count '@' = 1
  parts : ∃ before domain, cs = before ++ '@' :: domain ∧
    (before ≠ [] ∧ ∀ c ∈ before, c ∈ locals) ∧ (∀ c ∈ domain, c ∈ domains) ∧
    ∃ host top, domain = host ++ '.' :: top ∧ '.' ∉ top ∧
      host ≠ [] ∧ 2 ≤ top.length ∧ ∀ c ∈ top, c ∈ letters

section
variable {cs before host top : List Char}

theorem at_not_mem_locals : '@' ∉ locals := by decide

theorem at_not_mem_domains : '@' ∉ domains := by decide

theorem dot_not_mem_letters : '.' ∉ letters := by decide

theorem letters_subset_domains : letters ⊆ domains :=
  fun _ hc => List.mem_append_left _ (List.mem_append_left _ hc)

theorem printable : ∀ c ∈ locals ++ '@' :: domains, 32 < c.toNat ∧ c.toNat < 127 := by
  have all : (locals ++ '@' :: domains).all fun c => 32 < c.toNat ∧ c.toNat < 127 := by decide
  exact fun c hc => of_decide_eq_true (List.all_eq_true.1 all c hc)

namespace Cut

theorem at_not_mem (h : Cut cs before host top) : '@' ∉ before :=
  fun hc => at_not_mem_locals (h.front _ hc)

theorem dot_not_mem (h : Cut cs before host top) : '.' ∉ top :=
  fun hc => dot_not_mem_letters (h.last _ hc)

theorem domain (h : Cut cs before host top) : ∀ c ∈ host ++ '.' :: top, c ∈ domains := by
  intro c hc
  rcases List.mem_append.1 hc with hc | hc
  · exact h.middle c hc
  rcases List.mem_cons.1 hc with rfl | hc
  · decide
  · exact letters_subset_domains (h.last c hc)

theorem among (h : Cut cs before host top) : ∀ c ∈ cs, c ∈ locals ++ '@' :: domains := by
  intro c hc
  rw [h.text] at hc
  rcases List.mem_append.1 hc with hc | hc
  · exact List.mem_append_left _ (h.front c hc)
  rcases List.mem_cons.1 hc with rfl | hc
  · exact List.mem_append_right _ List.mem_cons_self
  · exact List.mem_append_right _ (.tail _ (h.domain c hc))

end Cut

/-- The way that the check takes is the only one. -/
theorem isWellFormed_iff : isWellFormed cs = true ↔ ∃ before host top, Cut cs before host top := by
  rw [isWellFormed]
  constructor
  · intro formed
    split at formed
    · cases formed
    next before domain first =>
      obtain ⟨text, -⟩ := cutFirst_eq_some_iff.1 first
      rw [Bool.and_eq_true, Bool.and_eq_true] at formed
      obtain ⟨⟨named, front⟩, formed⟩ := formed
      split at formed
      · cases formed
      next host top last =>
        obtain ⟨rfl, -⟩ := cutLast_eq_some_iff.1 last
        simp only [Bool.and_eq_true, decide_eq_true_eq] at formed
        obtain ⟨⟨⟨hosted, middle⟩, long⟩, last⟩ := formed
        exact ⟨before, host, top, text, by simpa using named, by simpa using hosted, long,
          fun c hc => mem_locals.2 (List.all_eq_true.1 front c hc),
          fun c hc => mem_domains.2 (List.all_eq_true.1 middle c hc),
          fun c hc => mem_letters.2 (List.all_eq_true.1 last c hc)⟩
  · rintro ⟨before, host, top, cut⟩
    have front : before.all isLocal = true :=
      List.all_eq_true.2 fun c hc => mem_locals.1 (cut.front c hc)
    have middle : host.all isDomain = true :=
      List.all_eq_true.2 fun c hc => mem_domains.1 (cut.middle c hc)
    have last : top.all isLetter = true :=
      List.all_eq_true.2 fun c hc => mem_letters.1 (cut.last c hc)
    simp only [cutFirst_eq_some_iff.2 ⟨cut.text, cut.at_not_mem⟩,
      cutLast_eq_some_iff.2 ⟨rfl, cut.dot_not_mem⟩, front, middle, last, cut.long]
    simp [cut.named, cut.hosted]

theorem isAddress_iff : IsAddress cs ↔ ∃ before host top, Cut cs before host top := by
  constructor
  · rintro ⟨-, before, domain, text, ⟨named, front⟩, among, host, top, rfl, -, hosted, long, last⟩
    exact ⟨before, host, top, text, named, hosted, long, front,
      fun c hc => among c (List.mem_append_left _ hc), last⟩
  · rintro ⟨before, host, top, cut⟩
    refine ⟨?_, before, _, cut.text, ⟨cut.named, cut.front⟩, cut.domain, host, top, rfl,
      cut.dot_not_mem, cut.hosted, cut.long, cut.last⟩
    have behind : '@' ∉ host ++ '.' :: top := fun hc => at_not_mem_domains (cut.domain _ hc)
    rw [cut.text, List.count_append, List.count_eq_zero_of_not_mem cut.at_not_mem,
      List.count_cons_self, List.count_eq_zero_of_not_mem behind]

theorem mem_pattern : cs ∈ pattern.matches' ↔ ∃ before host top, Cut cs before host top := by
  constructor
  · intro matched
    obtain ⟨a, first, b, second, rfl⟩ := Language.mem_mul.1 matched
    obtain ⟨d, third, top, fourth, rfl⟩ := Language.mem_mul.1 second
    obtain ⟨before, locals, rfl⟩ := mem_mul_char.1 first
    obtain ⟨host, domains, rfl⟩ := mem_mul_char.1 third
    obtain ⟨named, front⟩ := mem_atLeast.1 locals
    obtain ⟨hosted, middle⟩ := mem_atLeast.1 domains
    obtain ⟨long, last⟩ := mem_atLeast.1 fourth
    exact ⟨before, host, top, by simp, List.ne_nil_of_length_pos named,
      List.ne_nil_of_length_pos hosted, long, front, middle, last⟩
  · rintro ⟨before, host, top, cut⟩
    have front := mem_atLeast.2 ⟨List.length_pos_iff.2 cut.named, cut.front⟩
    have middle := mem_atLeast.2 ⟨List.length_pos_iff.2 cut.hosted, cut.middle⟩
    have last := mem_atLeast.2 ⟨cut.long, cut.last⟩
    have domain : host ++ ['.'] ++ top ∈ _ :=
      Language.append_mem_mul (mem_mul_char.2 ⟨host, middle, rfl⟩) last
    have whole : before ++ ['@'] ++ (host ++ ['.'] ++ top) ∈ pattern.matches' :=
      Language.append_mem_mul (mem_mul_char.2 ⟨before, front, rfl⟩) domain
    rw [cut.text]
    simpa using whole

end

/-- What makes an address be refused for a reason. -/
def Problem.Applies (email : String) : Problem → Prop
  | .missing => email = ""
  | .tooLong => 254 < email.utf8ByteSize
  | .malformed => email ≠ "" ∧ email.utf8ByteSize ≤ 254 ∧ ¬ IsAddress email.toList

section
variable {email : String} {p : Problem}

theorem not_isAddress_empty : ¬ IsAddress "".toList := fun h => nomatch h.single

theorem check_eq_error_iff : check email = .error p ↔ p.Applies email := by
  have formed : isWellFormed email.toList = true ↔ IsAddress email.toList :=
    isWellFormed_iff.trans isAddress_iff.symm
  rw [check, maxBytes]
  split_ifs with empty long good
  · have empty := String.isEmpty_iff.1 empty
    cases p <;> simp [Problem.Applies, empty]
  · have filled := mt String.isEmpty_iff.2 empty
    cases p <;> simp [Problem.Applies, filled, long]
  · have filled := mt String.isEmpty_iff.2 empty
    have address := formed.1 good
    cases p <;> simp [Problem.Applies, filled, address, Nat.le_of_not_lt long]
  · have filled := mt String.isEmpty_iff.2 empty
    have other := mt formed.2 good
    cases p <;> simp [Problem.Applies, filled, other, Nat.le_of_not_lt long]

theorem check_eq_ok_iff :
    check email = .ok () ↔ email.utf8ByteSize ≤ 254 ∧ IsAddress email.toList := by
  cases checked : check email with
  | error p =>
      refine iff_of_false nofun fun ⟨short, address⟩ => ?_
      have applies := check_eq_error_iff.1 checked
      cases p with
      | missing =>
          rw [show email = "" from applies] at address
          exact not_isAddress_empty address
      | tooLong => exact Nat.not_lt_of_le short applies
      | malformed => exact applies.2.2 address
  | ok u =>
      have free (p : Problem) : ¬ p.Applies email := fun applies => by
        rw [check_eq_error_iff.2 applies] at checked
        cases checked
      have short := Nat.le_of_not_lt (free .tooLong)
      refine iff_of_true rfl ⟨short, ?_⟩
      by_contra other
      exact free .malformed ⟨free .missing, short, other⟩

theorem Problem.message_injective : Function.Injective Problem.message := by
  intro p q same
  cases p <;> cases q <;> first | rfl | exact absurd same (by decide)

/-- An address is refused with the text of a reason if and only if the reason applies. -/
theorem mapError_check_eq_error_iff :
    (check email).mapError Problem.message = .error p.message ↔ p.Applies email := by
  rw [← check_eq_error_iff]
  cases check email with
  | ok u => exact iff_of_false nofun nofun
  | error q => simp [Except.mapError, Problem.message_injective.eq_iff]

theorem mapError_check_eq_ok_iff : (check email).mapError Problem.message = .ok () ↔
    email.utf8ByteSize ≤ 254 ∧ IsAddress email.toList := by
  rw [← check_eq_ok_iff]
  cases check email with
  | ok u => exact iff_of_true rfl rfl
  | error q => exact iff_of_false nofun nofun

end

/-- An address is accepted if and only if it has at most 254 bytes and the form of an address,
which is that of the regular expression. So its characters are all printable, and no line end is
passed over. The empty text, a text that is too long and one of another form are told apart. -/
theorem check_grammar (email : String) :
    let answer := (check email).mapError Problem.message
    (answer = .ok () ↔ email.utf8ByteSize ≤ 254 ∧ IsAddress email.toList) ∧
    (IsAddress email.toList ↔ email.toList ∈ pattern.matches') ∧
    (answer = .ok () → ∀ c ∈ email.toList, 32 < c.toNat ∧ c.toNat < 127) ∧
    (answer = .error "Email is required" ↔ email = "") ∧
    (answer = .error "Email must be at most 254 characters long" ↔ 254 < email.utf8ByteSize) ∧
    (answer = .error "Invalid email format" ↔
      email ≠ "" ∧ email.utf8ByteSize ≤ 254 ∧ ¬ IsAddress email.toList) := by
  intro answer
  refine ⟨mapError_check_eq_ok_iff, isAddress_iff.trans mem_pattern.symm, fun accepted c hc => ?_,
    mapError_check_eq_error_iff (p := .missing), mapError_check_eq_error_iff (p := .tooLong),
    mapError_check_eq_error_iff (p := .malformed)⟩
  obtain ⟨before, host, top, cut⟩ := isAddress_iff.1 (mapError_check_eq_ok_iff.1 accepted).2
  exact printable c (cut.among c hc)

/-- A domain with several dots, and the same text with a line end. -/
theorem check_grammar_newline :
    let email := "a.b+tag@sub.example.org"
    let answer := (check email).mapError Problem.message
    let other := (check (email ++ "\n")).mapError Problem.message
    (answer = .ok () ∧ email.toList ∈ pattern.matches' ∧
      ∀ c ∈ email.toList, 32 < c.toNat ∧ c.toNat < 127) ∧
    other = .error "Invalid email format" ∧ ¬ IsAddress (email ++ "\n").toList := by
  intro email answer other
  have accepted : answer = .ok () := by decide
  have refused : other = .error "Invalid email format" := by decide
  obtain ⟨form, same, plain, -⟩ := check_grammar email
  obtain ⟨-, -, -, -, -, malformed⟩ := check_grammar (email ++ "\n")
  exact ⟨⟨accepted, same.1 (form.1 accepted).2, plain accepted⟩, refused, (malformed.1 refused).2.2⟩

end Gatehouse.Account.Email
