/-!
Cutting a text at a separator. A cut at the first separator leaves none in the part before
it, a cut at the last none in the part behind it.
-/

namespace Gatehouse.Text

/-- The parts before and behind the first separator. -/
def cutFirst (sep : Char) (cs : List Char) : Option (List Char × List Char) :=
  match cs.dropWhile (· != sep) with
  | [] => none
  | _ :: rest => some (cs.takeWhile (· != sep), rest)

/-- The parts before and behind the last separator. -/
def cutLast (sep : Char) (cs : List Char) : Option (List Char × List Char) :=
  (cutFirst sep cs.reverse).map fun p => (p.2.reverse, p.1.reverse)

/-- The part before the first separator, or everything. -/
def untilFirst (sep : Char) (cs : List Char) : List Char := cs.takeWhile (· != sep)

/-- All parts between separators. -/
def splitAt (sep : Char) : List Char → List (List Char)
  | [] => [[]]
  | c :: cs =>
      if c = sep then [] :: splitAt sep cs
      else match splitAt sep cs with
        | [] => [[c]]
        | first :: rest => (c :: first) :: rest

theorem cutFirst_cons (sep c : Char) (cs : List Char) :
    cutFirst sep (c :: cs) =
      if c = sep then some ([], cs) else (cutFirst sep cs).map fun p => (c :: p.1, p.2) := by
  by_cases h : c = sep
  · simp [cutFirst, h]
  · simp only [cutFirst, List.dropWhile_cons, List.takeWhile_cons, bne_iff_ne, ne_eq, h,
      not_false_eq_true, if_true, if_false]
    split <;> simp

theorem cutFirst_eq_some_iff {sep : Char} {cs a b : List Char} :
    cutFirst sep cs = some (a, b) ↔ cs = a ++ sep :: b ∧ sep ∉ a := by
  induction cs generalizing a with
  | nil => simp [cutFirst]
  | cons c cs ih =>
      rw [cutFirst_cons]
      by_cases h : c = sep
      · subst h
        cases a with
        | nil => simp [eq_comm]
        | cons x a => simp +contextual [eq_comm]
      · cases a with
        | nil => simp [h]
        | cons x a =>
            simp only [if_neg h, Option.map_eq_some_iff, Prod.exists, Prod.mk.injEq,
              List.cons.injEq, List.cons_append, List.mem_cons, not_or]
            constructor
            · rintro ⟨u, v, huv, ⟨rfl, rfl⟩, rfl⟩
              obtain ⟨e, hu⟩ := ih.1 huv
              exact ⟨⟨rfl, e⟩, fun e' => h e'.symm, hu⟩
            · rintro ⟨⟨rfl, e⟩, _, ha⟩
              exact ⟨a, b, ih.2 ⟨e, ha⟩, ⟨rfl, rfl⟩, rfl⟩

theorem cutLast_eq_some_iff {sep : Char} {cs a b : List Char} :
    cutLast sep cs = some (a, b) ↔ cs = a ++ sep :: b ∧ sep ∉ b := by
  simp only [cutLast, Option.map_eq_some_iff, Prod.exists, Prod.mk.injEq]
  constructor
  · rintro ⟨u, v, h, rfl, rfl⟩
    obtain ⟨e, hu⟩ := cutFirst_eq_some_iff.1 h
    refine ⟨?_, by simpa using hu⟩
    have := congrArg List.reverse e
    simpa using this
  · rintro ⟨rfl, hb⟩
    exact ⟨b.reverse, a.reverse, cutFirst_eq_some_iff.2 ⟨by simp, by simpa using hb⟩,
      by simp, by simp⟩

end Gatehouse.Text
