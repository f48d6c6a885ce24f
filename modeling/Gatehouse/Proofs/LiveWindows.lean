import Gatehouse.Proofs.Windows
import Mathlib.Data.List.Nodup

/-!
Windows through what is seen of them at an instant, and what every window that is stored keeps:
its members stand once, and it is never empty. A window that has lapsed is stored until a
member is added, under whatever key.
-/

namespace Gatehouse.RateLimit

theorem putEntry_ne_nil (member : String) (score : Int) (entries : List (String × Int)) :
    putEntry member score entries ≠ [] := by
  cases entries with
  | nil => exact List.cons_ne_nil _ _
  | cons e rest =>
      rw [putEntry]
      split <;> exact List.cons_ne_nil _ _

/-- The other members stay, with their scores. -/
theorem mem_putEntry {member : String} {score : Int} {entries : List (String × Int)}
    (named : (entries.map (·.1)).Nodup) (e : String × Int) :
    e ∈ putEntry member score entries ↔ e = (member, score) ∨ (e ∈ entries ∧ e.1 ≠ member) := by
  induction entries with
  | nil => simp [putEntry]
  | cons d rest ih =>
      obtain ⟨new, named⟩ := List.nodup_cons.1 named
      rw [putEntry]
      split
      next same =>
        subst same
        have other (h : e ∈ rest) : e.1 ≠ d.1 := fun eq => new (List.mem_map.2 ⟨e, h, eq⟩)
        rw [List.mem_cons, List.mem_cons]
        constructor
        · rintro (rfl | h)
          · exact .inl rfl
          · exact .inr ⟨.inr h, other h⟩
        · rintro (h | ⟨rfl | h, ne⟩)
          · exact .inl h
          · exact absurd rfl ne
          · exact .inr h
      next differs =>
        rw [List.mem_cons, List.mem_cons, ih named]
        constructor
        · rintro (rfl | h | h)
          · exact .inr ⟨.inl rfl, differs⟩
          · exact .inl h
          · exact .inr ⟨.inr h.1, h.2⟩
        · rintro (h | ⟨rfl | h, ne⟩)
          · exact .inr (.inl h)
          · exact .inl rfl
          · exact .inr (.inr ⟨h, ne⟩)

theorem nodup_putEntry {member : String} {score : Int} {entries : List (String × Int)}
    (named : (entries.map (·.1)).Nodup) : ((putEntry member score entries).map (·.1)).Nodup := by
  induction entries with
  | nil => exact List.nodup_singleton _
  | cons d rest ih =>
      obtain ⟨new, names⟩ := List.nodup_cons.1 named
      rw [putEntry]
      split
      next same => exact same ▸ named
      next differs =>
        refine List.nodup_cons.2 ⟨fun h => ?_, ih names⟩
        obtain ⟨e, he, eq⟩ := List.mem_map.1 h
        rcases (mem_putEntry names e).1 he with rfl | ⟨old, -⟩
        · exact differs eq.symm
        · exact new (eq ▸ List.mem_map_of_mem old)

theorem Window.above?_eq_some_iff {w v : Window} {upTo : Int} :
    w.above? upTo = some v ↔
      v = { w with entries := w.entries.filter fun e => upTo < e.2 } ∧ v.entries ≠ [] := by
  rw [above?]
  split
  next none_left =>
    refine iff_of_false (Option.some_ne_none v).symm ?_
    rintro ⟨rfl, left⟩
    exact left (List.isEmpty_iff.1 none_left)
  next some_left =>
    rw [Option.some.injEq, eq_comm]
    refine ⟨?_, And.left⟩
    rintro rfl
    exact ⟨rfl, fun h => some_left (List.isEmpty_iff.2 h)⟩

/-- A window is dropped by what it is, not by what is removed from it. -/
theorem Window.isLive_above {w v : Window} {upTo : Int} (h : w.above? upTo = some v) (now : Nat) :
    v.isLive now = w.isLive now := by
  obtain ⟨rfl, left⟩ := Window.above?_eq_some_iff.1 h
  have filled : w.entries ≠ [] := fun none => left (by simp [none])
  rw [Window.isLive, Window.isLive, List.isEmpty_eq_false_iff.2 left,
    List.isEmpty_eq_false_iff.2 filled]

namespace Windows

/-- The members of a key that are seen at an instant. -/
def seen (ws : Windows) (now : Nat) (key : String) : List (String × Int) :=
  ((ws.live? now key).map (·.entries)).getD []

/-- A window of the key is stored, but is not seen any more. -/
def isLapsed (ws : Windows) (now : Nat) (key : String) : Bool :=
  (ws.get? key).any fun w => !w.isLive now

/-- No key stands twice, no member of a window does, and no window is empty. -/
structure Tidy (ws : Windows) : Prop where
  unique : ws.Unique
  named : ∀ key w, ws.get? key = some w → (w.entries.map (·.1)).Nodup
  filled : ∀ key w, ws.get? key = some w → w.entries ≠ []

theorem tidy_nil : Tidy [] := ⟨List.nodup_nil, nofun, nofun⟩

section
variable {ws : Windows} {now : Nat} {key : String} {w : Window}

theorem live?_eq_some_iff : ws.live? now key = some w ↔ ws.get? key = some w ∧ w.isLive now := by
  rw [live?, Option.filter_eq_some_iff]

theorem entries_ne_nil_of_live (live : w.isLive now = true) : w.entries ≠ [] := by
  rintro none
  simp [Window.isLive, none] at live

theorem mem_seen {e : String × Int} :
    e ∈ ws.seen now key ↔ ∃ w, ws.live? now key = some w ∧ e ∈ w.entries := by
  rw [seen]
  cases ws.live? now key <;> simp

theorem seen_of_live (found : ws.live? now key = some w) : ws.seen now key = w.entries := by
  rw [seen, found]
  rfl

theorem seen_of_none (missing : ws.live? now key = none) : ws.seen now key = [] := by
  rw [seen, missing]
  rfl

theorem live?_of_isLapsed (lapsed : ws.isLapsed now key = true) : ws.live? now key = none := by
  rw [isLapsed] at lapsed
  rw [live?]
  cases found : ws.get? key with
  | none => rfl
  | some w =>
      rw [found] at lapsed
      exact Option.filter_some_neg (by simpa using lapsed)

theorem live?_of_not_isLapsed (current : ws.isLapsed now key = false) :
    ws.live? now key = ws.get? key := by
  rw [isLapsed] at current
  rw [live?]
  cases found : ws.get? key with
  | none => rfl
  | some w =>
      rw [found] at current
      exact Option.filter_some_pos (by simpa using current)

theorem seen_of_not_isLapsed (current : ws.isLapsed now key = false) :
    ws.seen now key = ws.entries key := by
  rw [seen, live?_of_not_isLapsed current, entries]

theorem count_eq (ws : Windows) (now : Nat) (key : String) :
    ws.count now key = (ws.seen now key).length := by
  rw [count, seen]
  cases ws.live? now key <;> rfl

theorem earliest_eq (ws : Windows) (now : Nat) (key : String) :
    ws.earliest now key = lowestScore (ws.seen now key) := by
  rw [earliest, seen]
  cases ws.live? now key <;> rfl

/-- What is removed is counted in all that is stored, seen or not. -/
theorem evict_fst (ws : Windows) (key : String) (upTo : Int) :
    (ws.evict key upTo).1 = ((ws.entries key).filter fun e => e.2 ≤ upTo).length := by
  have split (es : List (String × Int)) :
      es.length - (es.filter fun e => upTo < e.2).length
        = (es.filter fun e => e.2 ≤ upTo).length := by
    have parts := List.length_eq_length_filter_add (l := es) fun e => decide (upTo < e.2)
    have rest : (es.filter fun e => !decide (upTo < e.2)) = es.filter fun e => e.2 ≤ upTo :=
      List.filter_congr fun e _ => by rw [← decide_not, decide_eq_decide, Int.not_lt]
    rw [rest] at parts
    omega
  rw [evict]
  cases found : ws.get? key with
  | none => rw [entries_of_get?_none found]; rfl
  | some w =>
      rw [entries_of_get? found, ← split]
      dsimp only
      split <;> rfl

theorem live?_evict (ws : Windows) (key : String) (upTo : Int) (now : Nat) (k : String) :
    (ws.evict key upTo).2.live? now k =
      if k = key then (ws.live? now key).bind (·.above? upTo) else ws.live? now k := by
  rw [live?, get?_evict]
  split
  · rw [live?]
    cases found : ws.get? key with
    | none => rfl
    | some w =>
        rw [Option.bind_some]
        cases left : w.above? upTo with
        | none => by_cases live : w.isLive now = true <;> simp [Option.filter, live, left]
        | some v =>
            have same := Window.isLive_above left now
            by_cases live : w.isLive now = true <;> simp [Option.filter, live, left, same]
  · rfl

/-- The window that an addition leaves behind. -/
def addedTo (w : Window) (member : String) (score : Int) : Window :=
  { w with entries := putEntry member score w.entries }

theorem seen_evict (ws : Windows) (key : String) (upTo : Int) (now : Nat) (k : String) :
    (ws.evict key upTo).2.seen now k =
      if k = key then (ws.seen now key).filter fun e => upTo < e.2 else ws.seen now k := by
  rw [seen, live?_evict]
  split
  · rw [seen]
    cases ws.live? now key with
    | none => rfl
    | some w =>
        rw [Option.bind_some, Option.map_some, Option.getD_some]
        cases left : w.above? upTo with
        | some v =>
            obtain ⟨rfl, -⟩ := Window.above?_eq_some_iff.1 left
            rfl
        | none =>
            rw [Window.above?] at left
            split at left
            next none_left => exact (List.isEmpty_iff.1 none_left).symm
            next => cases left
  · rfl

theorem live?_add (unique : ws.Unique) (now : Nat) (key member : String) (score : Int)
    (k : String) :
    (ws.add now key member score).live? now k =
      if k = key then some (addedTo ((ws.live? now key).getD {}) member score)
      else ws.live? now k := by
  rw [live?, get?_add unique]
  split
  · rw [← live?]
    have live : (addedTo ((ws.live? now key).getD {}) member score).isLive now = true := by
      have current : ((ws.live? now key).getD {}).deadline.all (now < ·) = true := by
        cases found : ws.live? now key with
        | none => rfl
        | some w =>
            have live := (live?_eq_some_iff.1 found).2
            rw [Window.isLive, Bool.and_eq_true] at live
            exact live.2
      simp [Window.isLive, addedTo, putEntry_ne_nil, current]
    exact Option.filter_some_pos live
  · rw [live?]
    cases ws.get? k with
    | none => rfl
    | some w => by_cases live : w.isLive now = true <;> simp [Option.filter, live]

theorem seen_add (unique : ws.Unique) (now : Nat) (key member : String) (score : Int)
    (k : String) :
    (ws.add now key member score).seen now k =
      if k = key then putEntry member score (ws.seen now key) else ws.seen now k := by
  rw [seen, live?_add unique]
  split
  · rw [seen]
    cases ws.live? now key <;> rfl
  · rfl

theorem live?_setDeadline (ws : Windows) (key : String) (deadline now : Nat) (k : String) :
    (ws.setDeadline key deadline).live? now k =
      if k = key then
        ((ws.get? key).map fun w => { w with deadline := some deadline }).filter (·.isLive now)
      else ws.live? now k := by
  rw [live?, get?_setDeadline]
  split <;> rfl

theorem live?_setDeadline_of_live (found : ws.live? now key = some w) (deadline : Nat)
    (k : String) :
    (ws.setDeadline key deadline).live? now k =
      if k = key then
        if now < deadline then some { w with deadline := some deadline } else none
      else ws.live? now k := by
  obtain ⟨stored, live⟩ := live?_eq_some_iff.1 found
  have filled := entries_ne_nil_of_live live
  rw [live?_setDeadline, stored]
  by_cases ahead : now < deadline <;> simp [Option.filter, Window.isLive, filled, ahead]

/-- A window that has lapsed is not brought back by a deadline that is reached at once. -/
theorem live?_setDeadline_of_unseen (unseen : ws.live? now key = none) {deadline : Nat}
    (reached : ws.isLapsed now key = true → deadline ≤ now) (k : String) :
    (ws.setDeadline key deadline).live? now k = ws.live? now k := by
  rw [live?_setDeadline]
  split
  next same =>
    rw [same, unseen]
    cases lapsed : ws.isLapsed now key with
    | false => rw [← live?_of_not_isLapsed lapsed, unseen]; rfl
    | true =>
        have late := Nat.not_lt.2 (reached lapsed)
        cases ws.get? key with
        | none => rfl
        | some w => simp [Window.isLive, Option.filter, late]
  next => rfl

theorem mem_entries_of_seen {m : String × Int} (h : m ∈ ws.seen now key) : m ∈ ws.entries key := by
  obtain ⟨w, found, member⟩ := mem_seen.1 h
  rwa [entries_of_get? (live?_eq_some_iff.1 found).1]

theorem mem_entries_evict {k : String} {upTo : Int} {m : String × Int}
    (h : m ∈ (ws.evict key upTo).2.entries k) : m ∈ ws.entries k := by
  by_cases same : k = key
  · rw [same, entries_evict] at h
    exact same ▸ (List.mem_filter.1 h).1
  · rwa [entries, get?_evict, if_neg same] at h

/-- An addition keeps what is seen. -/
theorem entries_add (unique : ws.Unique) (now : Nat) (key member : String) (score : Int)
    (k : String) :
    (ws.add now key member score).entries k =
      if k = key then putEntry member score (ws.seen now key) else ws.seen now k := by
  rw [entries, get?_add unique]
  split
  · rw [← live?, seen]
    cases ws.live? now key <;> rfl
  · rfl

theorem entries_setDeadline (ws : Windows) (key : String) (deadline : Nat) (k : String) :
    (ws.setDeadline key deadline).entries k = ws.entries k := by
  rw [entries, get?_setDeadline]
  split
  next same =>
    rw [same, entries]
    cases ws.get? key <;> rfl
  next => rfl

end

theorem isSome_get?_iff {ws : Windows} {key : String} :
    (ws.get? key).isSome ↔ key ∈ ws.map (·.1) := by
  induction ws with
  | nil => simp [get?]
  | cons p ws ih =>
      rw [get?_cons, List.map_cons, List.mem_cons, ← ih]
      by_cases first : key = p.1 <;> simp [first]

/-- The keys that are seen. -/
def liveKeys (ws : Windows) (now : Nat) : List String :=
  (ws.filter fun p => p.2.isLive now).map (·.1)

theorem mem_liveKeys {ws : Windows} (unique : ws.Unique) {now : Nat} {key : String} :
    key ∈ ws.liveKeys now ↔ (ws.live? now key).isSome := by
  rw [live?, ← get?_filter unique, isSome_get?_iff]
  rfl

theorem length_liveKeys (ws : Windows) (now : Nat) :
    (ws.liveKeys now).length = ws.keyCount now := by
  rw [liveKeys, List.length_map, keyCount]

theorem nodup_liveKeys {ws : Windows} (unique : ws.Unique) (now : Nat) : (ws.liveKeys now).Nodup :=
  unique.filter _

theorem Tidy.named_seen {ws : Windows} (tidy : Tidy ws) (now : Nat) (key : String) :
    ((ws.seen now key).map (·.1)).Nodup := by
  cases found : ws.live? now key with
  | none => rw [seen_of_none found]; exact List.nodup_nil
  | some w =>
      rw [seen_of_live found]
      exact tidy.named key w (live?_eq_some_iff.1 found).1

theorem Tidy.mem_entries_add {ws : Windows} (tidy : Tidy ws) {now : Nat} {key member k : String}
    {score : Int} {m : String × Int} (h : m ∈ (ws.add now key member score).entries k) :
    (k = key ∧ m = (member, score)) ∨ m ∈ ws.entries k := by
  rw [entries_add tidy.unique] at h
  split at h
  next same =>
    rcases (mem_putEntry (tidy.named_seen now key) m).1 h with new | ⟨old, -⟩
    · exact .inl ⟨same, new⟩
    · exact .inr (same ▸ mem_entries_of_seen old)
  next => exact .inr (mem_entries_of_seen h)

theorem Tidy.evict {ws : Windows} (tidy : Tidy ws) (key : String) (upTo : Int) :
    Tidy (ws.evict key upTo).2 := by
  have kept {k : String} {w : Window} (found : (ws.evict key upTo).2.get? k = some w) :
      ∃ v, ws.get? k = some v ∧ w.entries.Sublist v.entries ∧ w.entries ≠ [] := by
    rw [get?_evict] at found
    split at found
    next same =>
      subst same
      obtain ⟨v, stored, left⟩ := Option.bind_eq_some_iff.1 found
      obtain ⟨rfl, filled⟩ := Window.above?_eq_some_iff.1 left
      exact ⟨v, stored, List.filter_sublist, filled⟩
    next => exact ⟨w, found, .refl _, tidy.filled k w found⟩
  refine ⟨tidy.unique.evict key upTo, fun k w found => ?_, fun k w found => ?_⟩
  · obtain ⟨v, stored, fewer, -⟩ := kept found
    exact (tidy.named k v stored).sublist (fewer.map _)
  · obtain ⟨v, -, -, filled⟩ := kept found
    exact filled

theorem Tidy.add {ws : Windows} (tidy : Tidy ws) (now : Nat) (key member : String) (score : Int) :
    Tidy (ws.add now key member score) := by
  have named : (((ws.live? now key).getD {}).entries.map (·.1)).Nodup := by
    have seen := tidy.named_seen now key
    rw [Windows.seen] at seen
    cases found : ws.live? now key with
    | none => exact List.nodup_nil
    | some w => rwa [found] at seen
  refine ⟨tidy.unique.add now key member score, fun k w found => ?_, fun k w found => ?_⟩ <;>
    rw [get?_add tidy.unique] at found <;> split at found
  · rw [Option.some.injEq] at found
    exact found ▸ nodup_putEntry named
  · exact tidy.named k w (live?_eq_some_iff.1 found).1
  · rw [Option.some.injEq] at found
    exact found ▸ putEntry_ne_nil _ _ _
  · exact entries_ne_nil_of_live (live?_eq_some_iff.1 found).2

theorem Tidy.setDeadline {ws : Windows} (tidy : Tidy ws) (key : String) (deadline : Nat) :
    Tidy (ws.setDeadline key deadline) := by
  have same {k : String} {w : Window} (found : (ws.setDeadline key deadline).get? k = some w) :
      ∃ v, ws.get? k = some v ∧ w.entries = v.entries := by
    rw [get?_setDeadline] at found
    split at found
    next eq =>
      obtain ⟨v, stored, rfl⟩ := Option.map_eq_some_iff.1 found
      exact ⟨v, eq ▸ stored, rfl⟩
    next => exact ⟨w, found, rfl⟩
  refine ⟨tidy.unique.setDeadline key deadline, fun k w found => ?_, fun k w found => ?_⟩ <;>
    obtain ⟨v, stored, eq⟩ := same found <;> rw [eq]
  · exact tidy.named k v stored
  · exact tidy.filled k v stored

end Windows
end Gatehouse.RateLimit
