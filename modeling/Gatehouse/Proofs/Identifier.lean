import Gatehouse.Uuid

/-!
The text of an identifier: thirty-six characters, hyphens and lower-case digits, from which
the identifier is read back.
-/

namespace Gatehouse

namespace Digest

theorem ofBigEndian_reverse (bs : Bytes) : ofBigEndian bs.reverse = ofLittleEndian bs := by
  induction bs with
  | nil => rfl
  | cons b bs ih =>
      simp only [ofBigEndian, List.reverse_cons, List.foldl_append, List.foldl_cons,
        List.foldl_nil, ofLittleEndian] at ih ⊢
      omega

theorem ofBigEndian_bigEndian (n x : Nat) (h : x < Nat.pow 256 n) :
    ofBigEndian (bigEndian n x) = x := by
  rw [bigEndian, ofBigEndian_reverse, ofLittleEndian_littleEndian n x h]

end Digest

namespace Text

theorem length_hexOfBytes (bytes : Bytes) : (hexOfBytes bytes).length = 2 * bytes.length := by
  induction bytes with
  | nil => rfl
  | cons b bs ih =>
      simp only [hexOfBytes, List.flatMap_cons, List.length_append, List.length_cons,
        List.length_nil] at ih ⊢
      omega

theorem hexDigit_of_mem {bytes : Bytes} {c : Char} (h : c ∈ hexOfBytes bytes) :
    ∃ n < 16, c = hexDigit n := by
  simp only [hexOfBytes, List.mem_flatMap, List.mem_cons, List.not_mem_nil, or_false] at h
  obtain ⟨b, -, h⟩ := h
  have hb : b.toNat < 256 := b.toNat_lt
  rcases h with h | h <;> exact ⟨_, by omega, h⟩

theorem hexDigit_ne_hyphen : ∀ n < 16, hexDigit n ≠ '-' := by decide

end Text

namespace Uuid

theorem length_digits (u : Uuid) : u.digits.length = 32 := by
  rw [digits, Text.length_hexOfBytes, bytes, Digest.length_bigEndian]

theorem ofBytes_bytes (u : Uuid) : ofBytes u.bytes = u := by
  have h : u.bits.toNat < Nat.pow 256 16 := u.bits.isLt
  rw [ofBytes, bytes, Digest.ofBigEndian_bigEndian 16 _ h, BitVec.ofNat_toNat,
    BitVec.setWidth_eq]

theorem ofDigits?_digits (u : Uuid) : ofDigits? u.digits = some u := by
  rw [ofDigits?, if_pos u.length_digits, digits, Text.bytesOfHex?_hexOfBytes, Option.map_some,
    ofBytes_bytes]

theorem hyphen_not_mem_digits (u : Uuid) : '-' ∉ u.digits := by
  intro h
  obtain ⟨n, hn, e⟩ := Text.hexDigit_of_mem h
  exact Text.hexDigit_ne_hyphen n hn e.symm

theorem length_hyphenate {ds : List Char} (h : ds.length = 32) :
    (hyphenate ds).length = 36 := by
  simp only [hyphenate, List.length_append, List.length_cons, List.length_take,
    List.length_drop]
  omega

theorem mem_hyphenate {ds : List Char} {c : Char} (h : c ∈ hyphenate ds) :
    c = '-' ∨ c ∈ ds := by
  simp only [hyphenate, List.mem_append, List.mem_cons] at h
  rcases h with h | h | h | h | h | h | h | h | h
  · exact .inr (List.mem_of_mem_take h)
  · exact .inl h
  · exact .inr (List.mem_of_mem_drop (List.mem_of_mem_take h))
  · exact .inl h
  · exact .inr (List.mem_of_mem_drop (List.mem_of_mem_take h))
  · exact .inl h
  · exact .inr (List.mem_of_mem_drop (List.mem_of_mem_take h))
  · exact .inl h
  · exact .inr (List.mem_of_mem_drop h)

theorem filter_hyphenate {ds : List Char} (h : '-' ∉ ds) :
    (hyphenate ds).filter (· != '-') = ds := by
  have keep : ds.filter (· != '-') = ds := by
    rw [List.filter_eq_self]
    intro c hc
    have ne : c ≠ '-' := fun e => h (e ▸ hc)
    simpa using ne
  have groups : hyphenate ds = ds.take 8 ++ '-' :: ((ds.drop 8).take 4 ++ '-' ::
      ((ds.drop 12).take 4 ++ '-' :: ((ds.drop 16).take 4 ++ '-' :: ds.drop 20))) := rfl
  have join : ds = ds.take 8 ++ ((ds.drop 8).take 4 ++ ((ds.drop 12).take 4
      ++ ((ds.drop 16).take 4 ++ ds.drop 20))) := by
    have e (n m : Nat) : (ds.drop n).take m ++ ds.drop (n + m) = ds.drop n := by
      rw [← List.drop_drop, List.take_append_drop]
    rw [e 16 4, e 12 4, e 8 4, List.take_append_drop]
  calc (hyphenate ds).filter (· != '-')
      = (ds.take 8 ++ ((ds.drop 8).take 4 ++ ((ds.drop 12).take 4
          ++ ((ds.drop 16).take 4 ++ ds.drop 20)))).filter (· != '-') := by
        rw [groups]
        simp
    _ = ds.filter (· != '-') := by rw [← join]
    _ = ds := keep

theorem unhyphenate?_hyphenate {ds : List Char} (h : '-' ∉ ds) :
    unhyphenate? (hyphenate ds) = some ds := by
  rw [unhyphenate?, filter_hyphenate h, if_pos rfl]

theorem toList_text (u : Uuid) : u.text.toList = hyphenate u.digits := by
  rw [text, String.toList_ofList]

theorem length_text (u : Uuid) : u.text.toList.length = 36 := by
  rw [toList_text, length_hyphenate u.length_digits]

theorem mem_text {u : Uuid} {c : Char} (h : c ∈ u.text.toList) :
    c = '-' ∨ ∃ n < 16, c = Text.hexDigit n := by
  rw [toList_text] at h
  exact (mem_hyphenate h).imp_right Text.hexDigit_of_mem

theorem read?_text (u : Uuid) : read? u.text = some u := by
  have h := u.length_text
  simp only [read?, h]
  rw [toList_text, ofHyphenated?, unhyphenate?_hyphenate u.hyphen_not_mem_digits,
    Option.bind_some, ofDigits?_digits]

theorem text_injective {u v : Uuid} (h : u.text = v.text) : u = v := by
  have e := congrArg read? h
  simpa only [read?_text, Option.some.injEq] using e

end Uuid
end Gatehouse
