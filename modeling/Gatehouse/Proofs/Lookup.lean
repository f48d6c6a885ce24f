import Mathlib.Data.List.Nodup
import Mathlib.Data.List.Perm.Basic

/-!
Rows that are told apart by a key: each is found by its own, in whatever order they stand. Rows
that are changed in place are found by what they keep.
-/

namespace Gatehouse

section
variable {α β : Type} {p : α → Prop} [DecidablePred p] {g : α → α}

theorem map_changed {f : α → β} (keeps : ∀ x, f (g x) = f x) (xs : List α) :
    (xs.map fun x => if p x then g x else x).map f = xs.map f := by
  rw [List.map_map]
  apply List.map_congr_left
  intro x _
  rw [Function.comp_apply]
  split
  · exact keeps x
  · rfl

theorem find?_changed {q : α → Bool} (keeps : ∀ x, q (g x) = q x) (xs : List α) :
    (xs.map fun x => if p x then g x else x).find? q
      = (xs.find? q).map fun x => if p x then g x else x := by
  rw [List.find?_map]
  congr 2
  funext x
  rw [Function.comp_apply]
  split
  · exact keeps x
  · rfl

end

variable {α β : Type} [DecidableEq β] {key : α → β} {xs ys : List α}

theorem find?_key (unique : (xs.map key).Nodup) {x : α} (hx : x ∈ xs) :
    xs.find? (key · = key x) = some x := by
  cases found : xs.find? (key · = key x) with
  | none => exact absurd (decide_eq_true rfl) (List.find?_eq_none.1 found x hx)
  | some y =>
      have same : key y = key x := by simpa using List.find?_some found
      rw [List.inj_on_of_nodup_map unique (List.mem_of_find?_eq_some found) hx same]

/-- To leave out a key is to leave out its row. -/
theorem filter_key [DecidableEq α] (unique : (xs.map key).Nodup) {x : α} (hx : x ∈ xs) :
    xs.filter (key · ≠ key x) = xs.filter (· ≠ x) := by
  refine List.filter_congr fun y hy => decide_eq_decide.2 (not_congr ⟨fun same => ?_, ?_⟩)
  · exact List.inj_on_of_nodup_map unique hy hx same
  · exact fun same => congrArg key same

/-- To change a key is to change its row. -/
theorem map_key [DecidableEq α] (unique : (xs.map key).Nodup) {x : α} (hx : x ∈ xs) (f : α → α) :
    (xs.map fun y => if key y = key x then f y else y)
      = xs.map fun y => if y = x then f x else y := by
  refine List.map_congr_left fun y hy => ?_
  by_cases same : y = x
  · rw [if_pos same, if_pos (congrArg key same), same]
  · rw [if_neg same, if_neg fun h => same (List.inj_on_of_nodup_map unique hy hx h)]

theorem length_filter_ne [DecidableEq α] (unique : xs.Nodup) {x : α} (hx : x ∈ xs) :
    (xs.filter (· ≠ x)).length + 1 = xs.length := by
  have erased : xs.erase x = xs.filter (· ≠ x) :=
    (unique.erase_eq_filter x).trans (List.filter_congr fun _ _ => decide_not.symm)
  rw [← erased, List.length_erase_add_one hx]

theorem find?_perm (unique : (xs.map key).Nodup) (order : xs.Perm ys) (k : β) :
    xs.find? (key · = k) = ys.find? (key · = k) := by
  cases found : xs.find? (key · = k) with
  | none =>
      refine (List.find?_eq_none.2 fun y hy => ?_).symm
      exact List.find?_eq_none.1 found y (order.mem_iff.2 hy)
  | some x =>
      have hx := order.mem_iff.1 (List.mem_of_find?_eq_some found)
      have own : key x = k := by simpa using List.find?_some found
      exact (own ▸ find?_key ((order.map key).nodup_iff.1 unique) hx).symm

theorem nodup_concat (unique : (xs.map key).Nodup) {x : α}
    (new : xs.find? (key · = key x) = none) : ((xs ++ [x]).map key).Nodup := by
  rw [List.map_append, List.nodup_append]
  refine ⟨unique, List.nodup_singleton _, ?_⟩
  intro k hk other ho same
  obtain ⟨y, hy, rfl⟩ := List.mem_map.1 hk
  exact List.find?_eq_none.1 new y hy (decide_eq_true (same.trans (List.mem_singleton.1 ho)))

end Gatehouse
