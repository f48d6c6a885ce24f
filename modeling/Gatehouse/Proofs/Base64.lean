import Gatehouse.Text.Base64

/-!
Base 64 is canonical: a text that can be read is the one that writing gives, so different
bytes have different texts and a text has one reading.
-/

namespace Gatehouse.Text.Base64

theorem Alphabet.char_of_value? {a : Alphabet} {c : Char} {n : Nat} (h : a.value? c = some n) :
    a.char n = c ∧ n < 64 := by
  have code : ∀ m, m = c.toNat → Char.ofNat m = c := by rintro m rfl; exact Char.ofNat_toNat c
  simp only [value?, Char.le_def, UInt32.le_iff_toNat_le] at h
  change (if 65 ≤ c.toNat ∧ c.toNat ≤ 90 then _ else if 97 ≤ c.toNat ∧ c.toNat ≤ 122 then _
    else if 48 ≤ c.toNat ∧ c.toNat ≤ 57 then _ else _) = _ at h
  split at h
  · cases h
    refine ⟨?_, by omega⟩
    rw [char, if_pos (by omega)]
    exact code _ (by omega)
  split at h
  · cases h
    refine ⟨?_, by omega⟩
    rw [char, if_neg (by omega), if_pos (by omega)]
    exact code _ (by omega)
  split at h
  · cases h
    refine ⟨?_, by omega⟩
    rw [char, if_neg (by omega), if_neg (by omega), if_pos (by omega)]
    exact code _ (by omega)
  split at h
  · next e => cases h; exact ⟨e.symm, by omega⟩
  split at h
  · next e => cases h; exact ⟨e.symm, by omega⟩
  · cases h

theorem Alphabet.char_eq {a : Alphabet} {c : Char} {n m : Nat}
    (h : a.value? c = some n) (e : m = n) : a.char m = c :=
  e ▸ (char_of_value? h).1

private theorem toNat_of_lt {n : Nat} (h : n < 256) : (UInt8.ofNat n).toNat = n := by
  simpa using h

/-- Unused low bits have to be zero, so nothing is lost in reading. -/
theorem encode_of_decode? {a : Alphabet} : ∀ {cs : List Char} {bytes : Bytes},
    decode? a cs = some bytes → encode a bytes = cs
  | [], _, h => by cases h; rfl
  | [_], _, h => by cases h
  | [c, d], bytes, h => by
      cases hc : a.value? c <;> cases hd : a.value? d <;>
        simp only [decode?, hc, hd, reduceCtorEq, Option.ite_none_right_eq_some,
          Option.some.injEq] at h
      next p q =>
        obtain ⟨low, rfl⟩ := h
        have hp := (Alphabet.char_of_value? hc).2
        have hq := (Alphabet.char_of_value? hd).2
        rw [encode, toNat_of_lt (by omega), Alphabet.char_eq hc (by omega),
          Alphabet.char_eq hd (by omega)]
  | [c, d, e], bytes, h => by
      cases hc : a.value? c <;> cases hd : a.value? d <;> cases he : a.value? e <;>
        simp only [decode?, hc, hd, he, reduceCtorEq, Option.ite_none_right_eq_some,
          Option.some.injEq] at h
      next p q r =>
        obtain ⟨low, rfl⟩ := h
        have hp := (Alphabet.char_of_value? hc).2
        have hq := (Alphabet.char_of_value? hd).2
        have hr := (Alphabet.char_of_value? he).2
        rw [encode, toNat_of_lt (by omega), toNat_of_lt (by omega),
          Alphabet.char_eq hc (by omega), Alphabet.char_eq hd (by omega),
          Alphabet.char_eq he (by omega)]
  | c :: d :: e :: f :: rest, bytes, h => by
      cases hc : a.value? c <;> cases hd : a.value? d <;> cases he : a.value? e <;>
        cases hf : a.value? f <;> cases hrest : decode? a rest <;>
        simp only [decode?, hc, hd, he, hf, hrest, reduceCtorEq, Option.some.injEq] at h
      next p q r s tail =>
        subst h
        have hp := (Alphabet.char_of_value? hc).2
        have hq := (Alphabet.char_of_value? hd).2
        have hr := (Alphabet.char_of_value? he).2
        have hs := (Alphabet.char_of_value? hf).2
        rw [encode, toNat_of_lt (by omega), toNat_of_lt (by omega), toNat_of_lt (by omega),
          Alphabet.char_eq hc (by omega), Alphabet.char_eq hd (by omega),
          Alphabet.char_eq he (by omega), Alphabet.char_eq hf (by omega),
          encode_of_decode? hrest]

theorem decode?_eq_some_iff {a : Alphabet} {cs : List Char} {bytes : Bytes} :
    decode? a cs = some bytes ↔ cs = encode a bytes :=
  ⟨fun h => (encode_of_decode? h).symm, fun h => h ▸ decode?_encode a bytes⟩

theorem encode_injective {a : Alphabet} {bs cs : Bytes} (h : encode a bs = encode a cs) :
    bs = cs := by
  have e := congrArg (decode? a) h
  simpa only [decode?_encode, Option.some.injEq] using e

theorem value?_of_mem_encode {a : Alphabet} {bytes : Bytes} {c : Char}
    (h : c ∈ encode a bytes) : ∃ n < 64, c = a.char n := by
  induction bytes using encode.induct with
  | case1 => cases h
  | case2 x =>
      have hx : x.toNat < 256 := x.toNat_lt
      simp only [encode, List.mem_cons, List.not_mem_nil, or_false] at h
      rcases h with h | h <;> exact ⟨_, by omega, h⟩
  | case3 x y =>
      have hx : x.toNat < 256 := x.toNat_lt
      have hy : y.toNat < 256 := y.toNat_lt
      simp only [encode, List.mem_cons, List.not_mem_nil, or_false] at h
      rcases h with h | h | h <;> exact ⟨_, by omega, h⟩
  | case4 x y z rest ih =>
      have hx : x.toNat < 256 := x.toNat_lt
      have hy : y.toNat < 256 := y.toNat_lt
      have hz : z.toNat < 256 := z.toNat_lt
      simp only [encode, List.mem_cons] at h
      rcases h with h | h | h | h | h
      all_goals first | exact ih h | exact ⟨_, by omega, h⟩

theorem Alphabet.char_ne_dot (a : Alphabet) : ∀ n < 64, a.char n ≠ '.' := by
  cases a <;> decide

theorem dot_not_mem_encode (a : Alphabet) (bytes : Bytes) : '.' ∉ encode a bytes := by
  intro h
  obtain ⟨n, hn, e⟩ := value?_of_mem_encode h
  exact a.char_ne_dot n hn e.symm

theorem length_encode (a : Alphabet) (bytes : Bytes) :
    (encode a bytes).length = (4 * bytes.length + 2) / 3 := by
  induction bytes using encode.induct with
  | case1 => rfl
  | case2 x => simp [encode]
  | case3 x y => simp [encode]
  | case4 x y z rest ih =>
      simp only [encode, List.length_cons, ih]
      omega

end Gatehouse.Text.Base64
