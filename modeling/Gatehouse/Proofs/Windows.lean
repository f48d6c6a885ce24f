import Gatehouse.RateLimit.Counter

/-!
Windows through what stands under each key. Every operation is one equation that says what a
key has afterwards; that keys stand at most once is kept by all of them and is needed by the
one that drops windows which are not seen any more.
-/

namespace Gatehouse.RateLimit

theorem putEntry_of_not_mem {member : String} {score : Int} {entries : List (String × Int)}
    (h : ∀ e ∈ entries, e.1 ≠ member) :
    putEntry member score entries = entries ++ [(member, score)] := by
  induction entries with
  | nil => rfl
  | cons e rest ih =>
      rw [putEntry, if_neg (h e List.mem_cons_self), ih fun d hd => h d (.tail e hd)]
      rfl

/-- The part of a window that is scored above a bound, unless it is empty. -/
def Window.above? (w : Window) (upTo : Int) : Option Window :=
  let kept := w.entries.filter fun e => upTo < e.2
  if kept.isEmpty then none else some { w with entries := kept }

namespace Windows

/-- No key stands twice. -/
def Unique (ws : Windows) : Prop := (ws.map (·.1)).Nodup

/-- What is counted under a key, seen or not. -/
def entries (ws : Windows) (key : String) : List (String × Int) :=
  ((ws.get? key).map (·.entries)).getD []

theorem entries_of_get? {ws : Windows} {key : String} {w : Window} (h : ws.get? key = some w) :
    ws.entries key = w.entries := by
  rw [entries, h]
  rfl

theorem entries_of_get?_none {ws : Windows} {key : String} (h : ws.get? key = none) :
    ws.entries key = [] := by
  rw [entries, h]
  rfl

theorem get?_cons (p : String × Window) (ws : Windows) (k : String) :
    get? (p :: ws) k = if k = p.1 then some p.2 else ws.get? k := by
  obtain ⟨key, w⟩ := p
  by_cases h : k = key
  · simp [get?, h]
  · have ne : (k == key) = false := by simpa using h
    simp [get?, List.lookup_cons, h, ne]

theorem get?_eq_none_of_not_mem {ws : Windows} {k : String} (h : k ∉ ws.map (·.1)) :
    ws.get? k = none := by
  induction ws with
  | nil => rfl
  | cons p ws ih =>
      rw [List.map_cons, List.mem_cons, not_or] at h
      rw [get?_cons, if_neg h.1, ih h.2]

theorem get?_erase (ws : Windows) (key k : String) :
    (ws.erase key).get? k = if k = key then none else ws.get? k := by
  induction ws with
  | nil => simp [erase, get?]
  | cons p ws ih =>
      rw [erase] at ih ⊢
      by_cases hp : p.1 = key
      · rw [List.filter_cons_of_neg (by simpa using hp), ih, get?_cons]
        by_cases hk : k = key <;> simp [hk, hp]
      · rw [List.filter_cons_of_pos (by simpa using hp), get?_cons, get?_cons, ih]
        by_cases hk : k = p.1
        · have : k ≠ key := hk ▸ hp
          simp [hk, hp]
        · simp [hk]

theorem get?_put (ws : Windows) (key : String) (w : Window) (k : String) :
    (ws.put key w).get? k = if k = key then some w else ws.get? k := by
  rw [put, get?_cons, get?_erase]
  by_cases h : k = key <;> simp [h]

/-- Dropping windows by a test looks at the first of a key only, so keys must not stand
twice. -/
theorem get?_filter {ws : Windows} (h : ws.Unique) (test : Window → Bool) (k : String) :
    get? (ws.filter fun p => test p.2) k = (ws.get? k).filter test := by
  induction ws with
  | nil => rfl
  | cons p ws ih =>
      have split : p.1 ∉ ws.map (·.1) ∧ Unique ws := by
        simpa only [Unique, List.map_cons, List.nodup_cons] using h
      by_cases ht : test p.2 = true
      · rw [List.filter_cons_of_pos (by simpa using ht), get?_cons, get?_cons, ih split.2]
        by_cases hk : k = p.1
        · rw [if_pos hk, if_pos hk, Option.filter_some_pos ht]
        · rw [if_neg hk, if_neg hk]
      · rw [List.filter_cons_of_neg (by simpa using ht), get?_cons, ih split.2]
        by_cases hk : k = p.1
        · rw [if_pos hk, hk, get?_eq_none_of_not_mem split.1,
            Option.filter_some_neg (by simpa using ht)]
          rfl
        · rw [if_neg hk]

theorem Unique.filter {ws : Windows} (h : ws.Unique) (test : String × Window → Bool) :
    Unique (ws.filter test) :=
  List.Nodup.sublist (List.Sublist.map _ List.filter_sublist) h

theorem Unique.erase {ws : Windows} (h : ws.Unique) (key : String) : (ws.erase key).Unique :=
  h.filter _

theorem Unique.put {ws : Windows} (h : ws.Unique) (key : String) (w : Window) :
    (ws.put key w).Unique := by
  rw [Windows.put, Unique, List.map_cons, List.nodup_cons]
  refine ⟨?_, h.erase key⟩
  simp only [Windows.erase, List.mem_map, List.mem_filter, not_exists, not_and]
  rintro p ⟨-, hp⟩ e
  simp [e] at hp

theorem get?_evict (ws : Windows) (key : String) (upTo : Int) (k : String) :
    (ws.evict key upTo).2.get? k =
      if k = key then (ws.get? key).bind (·.above? upTo) else ws.get? k := by
  rw [evict]
  cases hw : ws.get? key with
  | none => by_cases hk : k = key <;> simp [hk, hw]
  | some w =>
      simp only [Option.bind_some, Window.above?]
      split
      · exact get?_erase ws key k
      · exact get?_put ws key _ k

theorem Unique.evict {ws : Windows} (h : ws.Unique) (key : String) (upTo : Int) :
    (ws.evict key upTo).2.Unique := by
  rw [Windows.evict]
  cases ws.get? key with
  | none => exact h
  | some w =>
      dsimp only
      split
      · exact h.erase key
      · exact h.put key _

theorem get?_add {ws : Windows} (h : ws.Unique) (now : Nat) (key member : String) (score : Int)
    (k : String) :
    (ws.add now key member score).get? k =
      if k = key then
        let w := ((ws.get? key).filter (·.isLive now)).getD {}
        some { w with entries := putEntry member score w.entries }
      else (ws.get? k).filter (·.isLive now) := by
  rw [add, get?_put, get?_filter h (·.isLive now), get?_filter h (·.isLive now)]

theorem Unique.add {ws : Windows} (h : ws.Unique) (now : Nat) (key member : String)
    (score : Int) : (ws.add now key member score).Unique :=
  (h.filter _).put key _

theorem get?_setDeadline (ws : Windows) (key : String) (deadline : Nat) (k : String) :
    (ws.setDeadline key deadline).get? k =
      if k = key then (ws.get? key).map fun w => { w with deadline := some deadline }
      else ws.get? k := by
  rw [setDeadline]
  cases hw : ws.get? key with
  | none => by_cases hk : k = key <;> simp [hk, hw]
  | some w => exact get?_put ws key _ k

theorem Unique.setDeadline {ws : Windows} (h : ws.Unique) (key : String) (deadline : Nat) :
    (ws.setDeadline key deadline).Unique := by
  rw [Windows.setDeadline]
  cases ws.get? key with
  | none => exact h
  | some w => exact h.put key _

theorem entries_evict (ws : Windows) (key : String) (upTo : Int) :
    (ws.evict key upTo).2.entries key = (ws.entries key).filter fun e => upTo < e.2 := by
  rw [entries, get?_evict, if_pos rfl]
  cases hw : ws.get? key with
  | none => rw [entries_of_get?_none hw]; rfl
  | some w =>
      rw [entries_of_get? hw, Option.bind_some, Window.above?]
      by_cases he : (w.entries.filter fun e => upTo < e.2).isEmpty = true
      · simp only [he, if_true]
        exact (List.isEmpty_iff.1 he).symm
      · simp [he]

theorem count_of_live {ws : Windows} {now : Nat} {key : String}
    (h : ws.live? now key = ws.get? key) : ws.count now key = (ws.entries key).length := by
  rw [count, h]
  cases hw : ws.get? key with
  | none => rw [entries_of_get?_none hw]; rfl
  | some w => rw [entries_of_get? hw]; rfl

theorem earliest_of_live {ws : Windows} {now : Nat} {key : String}
    (h : ws.live? now key = ws.get? key) :
    ws.earliest now key = ((ws.entries key).map (·.2)).min? := by
  rw [earliest, h]
  cases hw : ws.get? key with
  | none => rw [entries_of_get?_none hw]; rfl
  | some w => rw [entries_of_get? hw]; rfl

end Windows

section
variable {ε : Type} {now : Nat} {key : String} {seconds : UInt64} {ws : Windows}

theorem deadline?_eq_some (fits : now + seconds.toNat * 1000 ≤ maxInstant) :
    deadline? now seconds = some (now + seconds.toNat * 1000) := if_pos fits

theorem deadline?_eq_none (late : maxInstant < now + seconds.toNat * 1000) :
    deadline? now seconds = none := if_neg (Nat.not_le.2 late)

theorem expire_of_le (fits : now + seconds.toNat * 1000 ≤ maxInstant) :
    (memory now : Counter _ ε).expire key seconds ws
      = (.ok (.ok ()), ws.setDeadline key (now + seconds.toNat * 1000)) := by
  simp only [memory, deadline?_eq_some fits]
  cases found : ws.get? key with
  | some w => rfl
  | none =>
      rw [Windows.setDeadline, found]

/-- A deadline that the clock cannot tell is not computed for a key that is not stored. -/
theorem expire_of_late (late : maxInstant < now + seconds.toNat * 1000) :
    (memory now : Counter _ ε).expire key seconds ws
      = (if (ws.get? key).isSome then .error .instant else .ok (.ok ()), ws) := by
  simp only [memory, deadline?_eq_none late]
  cases ws.get? key <;> rfl

end

end Gatehouse.RateLimit
