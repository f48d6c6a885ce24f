import Gatehouse.Proofs.LiveWindows
import Gatehouse.RateLimit.Counter
import Mathlib.Data.Finset.Max
import Mathlib.Data.Finset.SDiff
import Mathlib.Data.List.Induction

/-!
Sorted sets under keys with a time to live, as a server keeps them: a key is there as long as
it has members and its deadline has not been reached. Windows in memory are followed beside
them through a sequence of calls. Both show the same keys and members until a deadline is set
for a window that has lapsed and has not been dropped yet: that brings its members back. Of the
answers only one differs, the number of members that are removed from such a window.
-/

namespace Gatehouse.SortedSet

open RateLimit (Call)

/-- A member of a key. -/
structure Row where
  key : String
  member : String
  score : Int
  deriving DecidableEq

/-- What a server keeps. A key without a row is not there, whatever its deadline was. -/
structure Keyspace where
  rows : Finset Row := ∅
  deadline : String → Option Nat := fun _ => none

/-- What a call finds. -/
inductive Outcome where
  | number (n : Nat)
  | done
  | lowest (score : Option Int)
  deriving DecidableEq

namespace Keyspace

/-- What is left of the keys at an instant. -/
def settle (s : Keyspace) (now : Nat) : Keyspace :=
  { s with rows := s.rows.filter fun r => (s.deadline r.key).all (now < ·) }

def keys (s : Keyspace) : Finset String := s.rows.image (·.key)

def scores (s : Keyspace) (key : String) : Finset Int :=
  (s.rows.filter (·.key = key)).image (·.score)

/-- The deadlines when a key is added to: one that was not there has none. -/
def renewed (s : Keyspace) (key : String) : String → Option Nat :=
  if key ∈ s.keys then s.deadline else Function.update s.deadline key none

/-- A call on keys that are all there. -/
def perform (s : Keyspace) (now : Nat) : Call → Outcome × Keyspace
  | .evict key upTo =>
      let gone := s.rows.filter fun r => r.key = key ∧ r.score ≤ upTo
      (.number gone.card, { s with rows := s.rows \ gone })
  | .count key => (.number (s.rows.filter (·.key = key)).card, s)
  | .add key member score =>
      (.done, {
        rows := insert ⟨key, member, score⟩
          (s.rows.filter fun r => ¬(r.key = key ∧ r.member = member))
        deadline := s.renewed key })
  | .expire key seconds =>
      (.done, if key ∈ s.keys then
          { s with deadline := Function.update s.deadline key (some (now + seconds.toNat * 1000)) }
        else s)
  | .earliest key =>
      (.lowest (if h : (s.scores key).Nonempty then some ((s.scores key).min' h) else none), s)

/-- A call at an instant: keys that are not there any more are dropped first. -/
def serve (s : Keyspace) (now : Nat) (c : Call) : Outcome × Keyspace := (s.settle now).perform now c

def keyCount (s : Keyspace) (now : Nat) : Nat := (s.settle now).keys.card

end Keyspace
end Gatehouse.SortedSet

namespace Gatehouse.RateLimit

open SortedSet (Keyspace Outcome Row)

/-- Make a call of a store. -/
def Call.ask {m : Type → Type} [Monad m] {ε : Type} (store : Counter m ε) :
    Call → m (Except ε Outcome)
  | .evict key upTo => do return (← store.evict key upTo).map .number
  | .count key => do return (← store.count key).map .number
  | .add key member score => do return (← store.add key member score).map fun _ => .done
  | .expire key seconds => do return (← store.expire key seconds).map fun _ => .done
  | .earliest key => do return (← store.earliest key).map .lowest

/-- What is seen of windows at an instant is what is left of the keys. -/
structure Shows (now : Nat) (ws : Windows) (s : Keyspace) : Prop where
  tidy : ws.Tidy
  rows : ∀ r, r ∈ (s.settle now).rows ↔ (r.member, r.score) ∈ ws.seen now r.key
  deadlines : ∀ key w, ws.live? now key = some w → s.deadline key = w.deadline

theorem shows_empty (now : Nat) : Shows now [] {} where
  tidy := Windows.tidy_nil
  rows r := by simp [Keyspace.settle, Windows.seen, Windows.live?, Windows.get?]
  deadlines _ _ found := nomatch found

theorem mem_settle {s : Keyspace} {now : Nat} {r : Row} :
    r ∈ (s.settle now).rows ↔ r ∈ s.rows ∧ (s.deadline r.key).all (now < ·) := by
  rw [Keyspace.settle, Finset.mem_filter]

theorem Window.isLive_iff {w : Window} {now : Nat} :
    w.isLive now = true ↔ w.entries ≠ [] ∧ w.deadline.all (now < ·) := by
  rw [isLive, Bool.and_eq_true, Bool.not_eq_true', List.isEmpty_eq_false_iff]

theorem all_lt_of_le {deadline : Option Nat} {now later : Nat} (le : now ≤ later)
    (h : deadline.all (later < ·) = true) : deadline.all (now < ·) = true := by
  cases deadline with
  | none => rfl
  | some d =>
      simp only [Option.all_some, decide_eq_true_eq] at h ⊢
      omega

section
variable {now at_ : Nat} {ws : Windows} {s : Keyspace}

theorem live?_later (le : now ≤ at_) {key : String} {w : Window} :
    ws.live? at_ key = some w ↔
      ws.live? now key = some w ∧ w.deadline.all (at_ < ·) = true := by
  rw [Windows.live?_eq_some_iff, Windows.live?_eq_some_iff, Window.isLive_iff, Window.isLive_iff]
  constructor
  · rintro ⟨stored, filled, current⟩
    exact ⟨⟨stored, filled, all_lt_of_le le current⟩, current⟩
  · rintro ⟨⟨stored, filled, -⟩, current⟩
    exact ⟨stored, filled, current⟩

theorem Shows.later (h : Shows now ws s) (le : now ≤ at_) : Shows at_ ws s where
  tidy := h.tidy
  rows r := by
    have before := h.rows r
    rw [Windows.mem_seen] at before ⊢
    constructor
    · intro left
      obtain ⟨kept, current⟩ := mem_settle.1 left
      obtain ⟨w, found, mem⟩ := before.1 (mem_settle.2 ⟨kept, all_lt_of_le le current⟩)
      exact ⟨w, (live?_later le).2 ⟨found, h.deadlines r.key w found ▸ current⟩, mem⟩
    · rintro ⟨w, found, mem⟩
      obtain ⟨found, current⟩ := (live?_later le).1 found
      have left := (mem_settle.1 (before.2 ⟨w, found, mem⟩)).1
      exact mem_settle.2 ⟨left, (h.deadlines r.key w found).symm ▸ current⟩
  deadlines key w found := h.deadlines key w ((live?_later le).1 found).1

theorem Shows.mem_keys (h : Shows now ws s) {key : String} :
    key ∈ (s.settle now).keys ↔ (ws.live? now key).isSome := by
  rw [Keyspace.keys, Finset.mem_image]
  constructor
  · rintro ⟨r, left, rfl⟩
    obtain ⟨w, found, -⟩ := Windows.mem_seen.1 ((h.rows r).1 left)
    rw [found]
    rfl
  · intro some
    obtain ⟨w, found⟩ := Option.isSome_iff_exists.1 some
    obtain ⟨e, rest, entries⟩ := List.exists_cons_of_ne_nil
      (Windows.entries_ne_nil_of_live (Windows.live?_eq_some_iff.1 found).2)
    refine ⟨⟨key, e.1, e.2⟩, (h.rows _).2 (Windows.mem_seen.2 ⟨w, found, ?_⟩), rfl⟩
    rw [entries]
    exact List.mem_cons_self

theorem Shows.keyCount (h : Shows now ws s) : ws.keyCount now = s.keyCount now := by
  have same : (s.settle now).keys = (ws.liveKeys now).toFinset := by
    ext key
    rw [h.mem_keys, List.mem_toFinset, Windows.mem_liveKeys h.tidy.unique]
  rw [Keyspace.keyCount, same, List.toFinset_card_of_nodup (ws.nodup_liveKeys h.tidy.unique now),
    Windows.length_liveKeys]

theorem Shows.card (h : Shows now ws s) (key : String) (test : Int → Bool) :
    ((s.settle now).rows.filter fun r => r.key = key ∧ test r.score).card
      = ((ws.seen now key).filter fun e => test e.2).length := by
  have same : ((s.settle now).rows.filter fun r => r.key = key ∧ test r.score)
      = (((ws.seen now key).filter fun e => test e.2).map fun e =>
          Row.mk key e.1 e.2).toFinset := by
    ext r
    simp only [Finset.mem_filter, h.rows, List.mem_toFinset, List.mem_map, List.mem_filter]
    constructor
    · rintro ⟨mem, rfl, passes⟩
      exact ⟨(r.member, r.score), ⟨mem, passes⟩, rfl⟩
    · rintro ⟨e, ⟨mem, passes⟩, rfl⟩
      exact ⟨mem, rfl, passes⟩
  have once : (ws.seen now key).Nodup := (h.tidy.named_seen now key).of_map
  have apart : Function.Injective fun e : String × Int => Row.mk key e.1 e.2 := by
    rintro ⟨m, x⟩ ⟨m', x'⟩ eq
    cases eq
    rfl
  rw [same, List.toFinset_card_of_nodup ((once.filter _).map apart), List.length_map]

theorem lowestScore_eq (entries : List (String × Int)) {scores : Finset Int}
    (same : ∀ x, x ∈ scores ↔ x ∈ entries.map (·.2)) :
    lowestScore entries = if h : scores.Nonempty then some (scores.min' h) else none := by
  rw [lowestScore]
  split
  next some =>
    rw [List.min?_eq_some_iff]
    exact ⟨(same _).1 (scores.min'_mem some), fun x hx => scores.min'_le x ((same x).2 hx)⟩
  next empty =>
    rw [List.min?_eq_none_iff, List.eq_nil_iff_forall_not_mem]
    exact fun x hx => empty ⟨x, (same x).2 hx⟩

theorem Shows.evict (h : Shows now ws s) (key : String) (upTo : Int) :
    Shows now (ws.evict key upTo).2 (s.serve now (.evict key upTo)).2 where
  tidy := h.tidy.evict key upTo
  rows r := by
    have before := h.rows r
    rw [Keyspace.serve, Keyspace.perform, mem_settle, Windows.seen_evict]
    have current : r ∈ (s.settle now).rows → (s.deadline r.key).all (now < ·) = true :=
      fun left => (mem_settle.1 left).2
    simp only [Finset.mem_sdiff, Finset.mem_filter, not_and, Int.not_le]
    constructor
    · rintro ⟨⟨left, above⟩, -⟩
      split
      next same => exact List.mem_filter.2 ⟨same ▸ before.1 left, by simpa using above left same⟩
      next => exact before.1 left
    · intro mem
      split at mem
      next same =>
        obtain ⟨mem, above⟩ := List.mem_filter.1 mem
        have left := before.2 (same.symm ▸ mem)
        exact ⟨⟨left, fun _ _ => by simpa using above⟩, current left⟩
      next other =>
        have left := before.2 mem
        exact ⟨⟨left, fun _ same => absurd same other⟩, current left⟩
  deadlines k w found := by
    rw [Windows.live?_evict] at found
    split at found
    next same =>
      obtain ⟨v, stored, left⟩ := Option.bind_eq_some_iff.1 found
      obtain ⟨rfl, -⟩ := Window.above?_eq_some_iff.1 left
      exact h.deadlines k v (same ▸ stored)
    next => exact h.deadlines k w found

theorem Shows.renewed (h : Shows now ws s) (key k : String) :
    (s.settle now).renewed key k
      = if k = key then (ws.live? now key).bind (·.deadline) else s.deadline k := by
  rw [Keyspace.renewed]
  cases found : ws.live? now key with
  | some w =>
      rw [if_pos (h.mem_keys.2 (by rw [found]; rfl)), Option.bind_some]
      split
      next same => exact same ▸ h.deadlines key w found
      next => rfl
  | none =>
      rw [if_neg (fun mem => by rw [h.mem_keys, found] at mem; cases mem), Option.bind_none]
      split
      next same => rw [same, Function.update_self]
      next other => exact Function.update_of_ne other none s.deadline

theorem Shows.add (h : Shows now ws s) (key member : String) (score : Int) :
    Shows now (ws.add now key member score) (s.serve now (.add key member score)).2 where
  tidy := h.tidy.add now key member score
  rows r := by
    have before := h.rows r
    rw [Keyspace.serve, Keyspace.perform, mem_settle, Windows.seen_add h.tidy.unique]
    dsimp only
    rw [h.renewed]
    simp only [Finset.mem_insert, Finset.mem_filter, not_and]
    by_cases own : r.key = key
    · have current : ((ws.live? now key).bind (·.deadline)).all (now < ·) = true := by
        cases found : ws.live? now key with
        | none => rfl
        | some w => exact (Window.isLive_iff.1 (Windows.live?_eq_some_iff.1 found).2).2
      rw [own] at before
      rw [if_pos own, if_pos own, mem_putEntry (h.tidy.named_seen now key), before]
      constructor
      · rintro ⟨rfl | ⟨mem, other⟩, -⟩
        · exact .inl rfl
        · exact .inr ⟨mem, other own⟩
      · rintro (new | ⟨mem, other⟩)
        · refine ⟨.inl ?_, current⟩
          rw [Prod.mk.injEq] at new
          rw [← own, ← new.1, ← new.2]
        · exact ⟨.inr ⟨mem, fun _ => other⟩, current⟩
    · rw [if_neg own, if_neg own, ← before]
      constructor
      · rintro ⟨rfl | ⟨mem, -⟩, -⟩
        · exact absurd rfl own
        · exact mem
      · intro mem
        exact ⟨.inr ⟨mem, fun same => absurd same own⟩, (mem_settle.1 mem).2⟩
  deadlines k w found := by
    rw [Windows.live?_add h.tidy.unique] at found
    rw [Keyspace.serve, Keyspace.perform]
    dsimp only
    rw [h.renewed]
    split at found
    next same =>
      rw [if_pos same, ← Option.some.inj found, Windows.addedTo]
      cases ws.live? now key <;> rfl
    next other => rw [if_neg other]; exact h.deadlines k w found

/-- A key that is not there is not given a deadline, and one that has lapsed not a new one,
unless it is reached at once. -/
theorem Shows.expire (h : Shows now ws s) {key : String} {seconds : UInt64}
    (steady : ws.isLapsed now key = true → seconds.toNat = 0) :
    Shows now (ws.setDeadline key (now + seconds.toNat * 1000))
      (s.serve now (.expire key seconds)).2 := by
  rw [Keyspace.serve, Keyspace.perform]
  cases found : ws.live? now key with
  | none =>
      have missing : key ∉ (s.settle now).keys := by
        rw [h.mem_keys, found]
        exact Bool.false_ne_true
      have reached (lapsed : ws.isLapsed now key = true) : now + seconds.toNat * 1000 ≤ now := by
        rw [steady lapsed, Nat.zero_mul, Nat.add_zero]
      have idle := Windows.live?_setDeadline_of_unseen found reached
      rw [if_neg missing]
      refine ⟨h.tidy.setDeadline _ _, fun r => ?_, fun k w seen => h.deadlines k w (idle k ▸ seen)⟩
      have before := h.rows r
      rw [mem_settle, Windows.seen, idle, ← Windows.seen, ← before]
      exact ⟨And.left, fun mem => ⟨mem, (mem_settle.1 mem).2⟩⟩
  | some w =>
      have there : key ∈ (s.settle now).keys := by
        rw [h.mem_keys, found]
        rfl
      have live := Windows.live?_setDeadline_of_live found (now + seconds.toNat * 1000)
      rw [if_pos there]
      refine ⟨h.tidy.setDeadline _ _, fun r => ?_, fun k v seen => ?_⟩
      · have before := h.rows r
        rw [mem_settle, Windows.mem_seen, live]
        dsimp only
        by_cases same : r.key = key
        · rw [same, Windows.seen_of_live found] at before
          rw [before, if_pos same, same, Function.update_self, Option.all_some, decide_eq_true_eq]
          split
          next ahead => simp [ahead]
          next reached => simp [reached]
        · rw [if_neg same, ← Windows.mem_seen, ← before, Function.update_of_ne same]
          exact ⟨And.left, fun mem => ⟨mem, (mem_settle.1 mem).2⟩⟩
      · rw [live] at seen
        dsimp only
        split at seen
        next same =>
          split at seen
          · rw [same, Function.update_self, ← Option.some.inj seen]
          · cases seen
        next other =>
          rw [Function.update_of_ne other]
          exact h.deadlines k v seen

theorem Shows.settle (h : Shows now ws s) : Shows now ws (s.settle now) where
  tidy := h.tidy
  rows r := by
    rw [mem_settle, ← h.rows]
    exact ⟨And.left, fun mem => ⟨mem, (mem_settle.1 mem).2⟩⟩
  deadlines := h.deadlines

end

/-- A call at an instant of the clock. -/
structure Timed where
  instant : Nat
  call : Call
  deriving DecidableEq, Repr

/-- The clock can tell the deadline that is set. -/
def Timed.isTimely (c : Timed) : Bool :=
  match c.call with
  | .expire _ seconds => c.instant + seconds.toNat * 1000 ≤ maxInstant
  | _ => true

/-- A deadline ahead is set for a window that has lapsed. -/
def Timed.revives (ws : Windows) (c : Timed) : Bool :=
  match c.call with
  | .expire key seconds => ws.isLapsed c.instant key && decide (0 < seconds.toNat)
  | _ => false

/-- Members are removed from a window that has lapsed. -/
def Timed.overcounts (ws : Windows) (c : Timed) : Bool :=
  match c.call with
  | .evict key upTo => ws.isLapsed c.instant key && (ws.entries key).any (·.2 ≤ upTo)
  | _ => false

/-- Make a call of windows in memory, none of which fails. -/
def Timed.ask (c : Timed) : PanicM Windows (Except Empty Outcome) :=
  c.call.ask (memory c.instant)

/-- The windows after some calls, none at first. -/
def stored (cs : List Timed) : Windows := cs.foldl (fun ws c => (c.ask ws).2) []

/-- The keys after some calls, none at first. -/
def kept (cs : List Timed) : Keyspace := cs.foldl (fun s c => (s.serve c.instant c.call).2) {}

theorem stored_concat (cs : List Timed) (c : Timed) :
    stored (cs ++ [c]) = (c.ask (stored cs)).2 := by
  rw [stored, List.foldl_append]
  rfl

theorem kept_concat (cs : List Timed) (c : Timed) :
    kept (cs ++ [c]) = ((kept cs).serve c.instant c.call).2 := by
  rw [kept, List.foldl_append]
  rfl

section
variable {ws : Windows} {s : Keyspace} {c : Timed}

theorem ask_expire {now : Nat} {key : String} {seconds : UInt64}
    (timely : (Timed.mk now (.expire key seconds)).isTimely = true) (ws : Windows) :
    (Timed.mk now (.expire key seconds)).ask ws
      = (.ok (.ok .done), ws.setDeadline key (now + seconds.toNat * 1000)) := by
  have done : (memory now : Counter _ Empty).expire key seconds ws = _ :=
    expire_of_le (of_decide_eq_true timely)
  rw [Timed.ask, Call.ask, PanicM.bind_apply, done]
  rfl

theorem ask_evict (now : Nat) (key : String) (upTo : Int) (ws : Windows) :
    (Timed.mk now (.evict key upTo)).ask ws
      = (.ok (.ok (.number ((ws.entries key).filter fun e => e.2 ≤ upTo).length)),
          (ws.evict key upTo).2) := by
  rw [← Windows.evict_fst]
  rfl

theorem Shows.serve_evict {now : Nat} (h : Shows now ws s) (key : String) (upTo : Int) :
    (s.serve now (.evict key upTo)).1
      = .number ((ws.seen now key).filter fun e => e.2 ≤ upTo).length := by
  have gone := h.card key fun x => x ≤ upTo
  simp only [decide_eq_true_eq] at gone
  rw [← gone]
  rfl

theorem Shows.step (h : Shows c.instant ws s) (timely : c.isTimely = true)
    (steady : c.revives ws = false) :
    Shows c.instant (c.ask ws).2 (s.serve c.instant c.call).2 := by
  obtain ⟨now, call⟩ := c
  cases call with
  | evict key upTo => exact h.evict key upTo
  | count key => exact h.settle
  | add key member score => exact h.add key member score
  | earliest key => exact h.settle
  | expire key seconds =>
      rw [ask_expire timely]
      refine h.expire fun lapsed => ?_
      simpa [Timed.revives, lapsed] using steady

/-- The answer is that of the keys, unless members are removed that are not seen. -/
theorem Shows.answer (h : Shows c.instant ws s) (timely : c.isTimely = true) :
    (c.ask ws).1 = .ok (.ok (s.serve c.instant c.call).1) ↔ c.overcounts ws = false := by
  obtain ⟨now, call⟩ := c
  cases call with
  | count key =>
      refine iff_of_true ?_ rfl
      have same := h.card key fun _ => true
      simp only [and_true, List.filter_true] at same
      change Except.ok (Except.ok (Outcome.number (ws.count now key))) = _
      rw [Windows.count_eq, ← same]
      rfl
  | add key member score => exact iff_of_true rfl rfl
  | earliest key =>
      refine iff_of_true ?_ rfl
      have scores (x : Int) :
          x ∈ (s.settle now).scores key ↔ x ∈ (ws.seen now key).map (·.2) := by
        simp only [Keyspace.scores, Finset.mem_image, Finset.mem_filter, h.rows, List.mem_map]
        constructor
        · rintro ⟨r, ⟨mem, rfl⟩, rfl⟩
          exact ⟨_, mem, rfl⟩
        · rintro ⟨e, mem, rfl⟩
          exact ⟨⟨key, e.1, e.2⟩, ⟨mem, rfl⟩, rfl⟩
      change Except.ok (Except.ok (Outcome.lowest (ws.earliest now key))) = _
      rw [Windows.earliest_eq, lowestScore_eq _ scores]
      rfl
  | expire key seconds =>
      refine iff_of_true ?_ rfl
      rw [ask_expire timely]
      rfl
  | evict key upTo =>
      rw [h.serve_evict, ask_evict, Except.ok.injEq, Except.ok.injEq, Outcome.number.injEq,
        Timed.overcounts]
      dsimp only
      cases lapsed : ws.isLapsed now key with
      | false => rw [Windows.seen_of_not_isLapsed lapsed]; simp
      | true =>
          rw [Windows.seen_of_none (Windows.live?_of_isLapsed lapsed)]
          simp [List.filter_eq_nil_iff]

/-- Members of a window that has lapsed are counted, though no key is there. -/
theorem Shows.answer_of_overcounts (h : Shows c.instant ws s) (stale : c.overcounts ws = true) :
    ∃ n, 0 < n ∧ (c.ask ws).1 = .ok (.ok (.number n)) ∧
      (s.serve c.instant c.call).1 = .number 0 := by
  obtain ⟨now, call⟩ := c
  cases call with
  | expire _ _ | count _ | add _ _ _ | earliest _ => cases stale
  | evict key upTo =>
      rw [Timed.overcounts, Bool.and_eq_true] at stale
      obtain ⟨lapsed, some⟩ := stale
      obtain ⟨e, mem, le⟩ := List.any_eq_true.1 some
      refine ⟨((ws.entries key).filter fun e => e.2 ≤ upTo).length,
        List.length_pos_of_mem (List.mem_filter.2 ⟨mem, le⟩),
        congrArg Prod.fst (ask_evict now key upTo ws), ?_⟩
      rw [h.serve_evict, Windows.seen_of_none (Windows.live?_of_isLapsed lapsed)]
      rfl

/-- What a call leaves to be seen was seen before or has just been added, unless it brings back
a window that had lapsed. -/
theorem mem_seen_ask (tidy : ws.Tidy) (timely : c.isTimely = true)
    (steady : c.revives ws = false) {key : String} {e : String × Int}
    (mem : e ∈ (c.ask ws).2.seen c.instant key) :
    e ∈ ws.seen c.instant key ∨ c.call = .add key e.1 e.2 := by
  obtain ⟨now, call⟩ := c
  cases call with
  | count k => exact .inl mem
  | earliest k => exact .inl mem
  | evict k upTo =>
      have mem : e ∈ (ws.evict k upTo).2.seen now key := mem
      rw [Windows.seen_evict] at mem
      split at mem
      next same => exact .inl (same ▸ (List.mem_filter.1 mem).1)
      next => exact .inl mem
  | add k member score =>
      have mem : e ∈ (ws.add now k member score).seen now key := mem
      rw [Windows.seen_add tidy.unique] at mem
      split at mem
      next same =>
        rcases (mem_putEntry (tidy.named_seen now k) e).1 mem with rfl | ⟨old, -⟩
        · exact .inr (by rw [same])
        · exact .inl (same ▸ old)
      next => exact .inl mem
  | expire k seconds =>
      rw [ask_expire timely, Windows.mem_seen] at mem
      obtain ⟨v, seen, mem⟩ := mem
      refine .inl (Windows.mem_seen.2 ?_)
      cases found : ws.live? now k with
      | none =>
          have reached (lapsed : ws.isLapsed now k = true) : now + seconds.toNat * 1000 ≤ now := by
            have := steady
            simp [Timed.revives, lapsed] at this
            simp [this]
          rw [Windows.live?_setDeadline_of_unseen found reached] at seen
          exact ⟨v, seen, mem⟩
      | some w =>
          rw [Windows.live?_setDeadline_of_live found] at seen
          split at seen
          next same =>
            split at seen
            · exact ⟨w, same ▸ found, by rw [← Option.some.inj seen] at mem; exact mem⟩
            · cases seen
          next => exact ⟨v, seen, mem⟩

theorem live?_of_revives (tidy : ws.Tidy) (timely : c.isTimely = true)
    (revives : c.revives ws = true) :
    ∃ key seconds w, c.call = .expire key seconds ∧ ws.live? c.instant key = none ∧
      ws.get? key = some w ∧ ∀ k, (c.ask ws).2.live? c.instant k = if k = key then
        some { w with deadline := some (c.instant + seconds.toNat * 1000) }
        else ws.live? c.instant k := by
  obtain ⟨now, call⟩ := c
  cases call with
  | evict _ _ | count _ | add _ _ _ | earliest _ => cases revives
  | expire key seconds =>
      rw [Timed.revives, Bool.and_eq_true, decide_eq_true_eq] at revives
      obtain ⟨lapsed, ahead⟩ := revives
      obtain ⟨w, found, -⟩ := (Option.any_eq_true _ _).1 lapsed
      refine ⟨key, seconds, w, rfl, Windows.live?_of_isLapsed lapsed, found, fun k => ?_⟩
      rw [ask_expire timely, Windows.live?_setDeadline, found]
      split
      · have filled := tidy.filled key w found
        have current : now < now + seconds.toNat * 1000 := by omega
        simp [Option.filter, Window.isLive, filled, current]
      · rfl

/-- A window that is brought back is a key more than there are. -/
theorem Shows.keyCount_of_revives (h : Shows c.instant ws s) (timely : c.isTimely = true)
    (revives : c.revives ws = true) :
    (c.ask ws).2.keyCount c.instant
      = (s.serve c.instant c.call).2.keyCount c.instant + 1 := by
  obtain ⟨key, seconds, w, call, unseen, stored, live⟩ :=
    live?_of_revives h.tidy timely revives
  have missing : key ∉ (s.settle c.instant).keys := by
    rw [h.mem_keys, unseen]
    exact Bool.false_ne_true
  have idle : (s.serve c.instant c.call).2 = s.settle c.instant := by
    rw [call, Keyspace.serve, Keyspace.perform, if_neg missing]
  have tidy : (c.ask ws).2.Tidy := by
    obtain ⟨now, _⟩ := c
    obtain rfl : _ = Call.expire key seconds := call
    rw [ask_expire timely]
    exact h.tidy.setDeadline _ _
  have more : ((c.ask ws).2.liveKeys c.instant).toFinset
      = insert key (ws.liveKeys c.instant).toFinset := by
    ext k
    rw [Finset.mem_insert, List.mem_toFinset, List.mem_toFinset,
      Windows.mem_liveKeys tidy.unique, Windows.mem_liveKeys h.tidy.unique, live]
    by_cases same : k = key <;> simp [same]
  have new : key ∉ (ws.liveKeys c.instant).toFinset := by
    rw [List.mem_toFinset, Windows.mem_liveKeys h.tidy.unique, unseen]
    exact Bool.false_ne_true
  rw [idle, ← h.settle.keyCount, ← Windows.length_liveKeys, ← Windows.length_liveKeys,
    ← List.toFinset_card_of_nodup (Windows.nodup_liveKeys tidy.unique _),
    ← List.toFinset_card_of_nodup (Windows.nodup_liveKeys h.tidy.unique _), more,
    Finset.card_insert_of_notMem new]

end

/-- None of the calls brings back a window that has lapsed. -/
def isCalm : Windows → List Timed → Bool
  | _, [] => true
  | ws, c :: cs => !c.revives ws && isCalm (c.ask ws).2 cs

theorem isCalm_concat (ws : Windows) (cs : List Timed) (c : Timed) :
    isCalm ws (cs ++ [c])
      = (isCalm ws cs && !c.revives (cs.foldl (fun ws c => (c.ask ws).2) ws)) := by
  induction cs generalizing ws with
  | nil => simp [isCalm]
  | cons d cs ih => rw [List.cons_append, isCalm, ih, isCalm, List.foldl_cons, Bool.and_assoc]

theorem shows_after {cs : List Timed} (sorted : cs.Pairwise (·.instant ≤ ·.instant))
    (timely : ∀ c ∈ cs, c.isTimely = true) (calm : isCalm [] cs = true) {now : Nat}
    (past : ∀ c ∈ cs, c.instant ≤ now) : Shows now (stored cs) (kept cs) := by
  induction cs using List.reverseRecOn generalizing now with
  | nil => exact shows_empty now
  | append_singleton cs c ih =>
      have last : c ∈ cs ++ [c] := List.mem_append_right _ List.mem_cons_self
      obtain ⟨sorted, -, before⟩ := List.pairwise_append.1 sorted
      rw [isCalm_concat, Bool.and_eq_true, Bool.not_eq_true'] at calm
      have shows : Shows c.instant (stored cs) (kept cs) :=
        ih sorted (fun d hd => timely d (List.mem_append_left _ hd)) calm.1
          fun d hd => before d hd c List.mem_cons_self
      rw [stored_concat, kept_concat]
      exact (shows.step (timely c last) calm.2).later (past c last)

/-- Calls at instants that do not go back, each with a deadline that the clock can tell. As long
as none brings back a window that had lapsed, each call has the answer that it has of the keys,
unless it removes members of a window that has lapsed: these are counted, though no key is there.
After it as many keys are seen as there are, now and later, and no member that was not seen
before or has just been added; a call that brings back a window is the one that breaks this. -/
theorem windows_agree {cs ran rest : List Timed} {c : Timed}
    (sorted : cs.Pairwise (·.instant ≤ ·.instant)) (timely : ∀ d ∈ cs, d.isTimely = true)
    (split : cs = ran ++ c :: rest) (calm : isCalm [] ran = true) :
    let ws := stored ran
    let found := (c.ask ws).1
    let expected := ((kept ran).serve c.instant c.call).1
    (found = .ok (.ok expected) ↔ c.overcounts ws = false) ∧
    (c.overcounts ws = true →
      ∃ n, 0 < n ∧ found = .ok (.ok (.number n)) ∧ expected = .number 0) ∧
    ((∀ now, c.instant ≤ now →
        (stored (ran ++ [c])).keyCount now = (kept (ran ++ [c])).keyCount now)
      ↔ c.revives ws = false) ∧
    (c.revives ws = false → ∀ now, c.instant ≤ now → ∀ key,
      ∀ e ∈ (stored (ran ++ [c])).seen now key,
        e ∈ ws.seen c.instant key ∨ c.call = .add key e.1 e.2) := by
  intro ws found expected
  subst split
  obtain ⟨-, tail, before⟩ := List.pairwise_append.1 sorted
  have own : c.isTimely = true := timely c (by simp)
  have shows : Shows c.instant ws (kept ran) :=
    shows_after (List.pairwise_append.1 sorted).1
      (fun d hd => timely d (List.mem_append_left _ hd)) calm
      fun d hd => before d hd c List.mem_cons_self
  rw [stored_concat, kept_concat]
  refine ⟨shows.answer own, fun stale => ?_, ⟨fun agree => ?_, fun steady now later => ?_⟩,
    fun steady now later key e mem => ?_⟩
  · exact shows.answer_of_overcounts stale
  · cases revives : c.revives ws with
    | false => rfl
    | true =>
        have more := shows.keyCount_of_revives own revives
        rw [agree c.instant (Nat.le_refl _)] at more
        omega
  · exact ((shows.step own steady).later later).keyCount
  · obtain ⟨w, seen, inside⟩ := Windows.mem_seen.1 mem
    exact mem_seen_ask shows.tidy own steady
      (Windows.mem_seen.2 ⟨w, ((live?_later later).1 seen).1, inside⟩)

/-- A key is sought after its deadline, when its only member is still stored. -/
theorem windows_agree_lapsed :
    let ran : List Timed := [⟨0, .add "k" "a" 1⟩, ⟨0, .expire "k" 1⟩, ⟨999, .count "k"⟩]
    let c : Timed := ⟨1000, .evict "k" 5⟩
    isCalm [] ran = true ∧ c.overcounts (stored ran) = true ∧
      (c.ask (stored ran)).1 ≠ .ok (.ok ((kept ran).serve c.instant c.call).1) ∧
      ∀ now, 1000 ≤ now →
        (stored (ran ++ [c])).keyCount now = (kept (ran ++ [c])).keyCount now := by
  intro ran c
  have calm : isCalm [] ran = true := by decide +kernel
  have stale : c.overcounts (stored ran) = true := by decide +kernel
  have sorted : (ran ++ [c]).Pairwise (·.instant ≤ ·.instant) := by decide
  have timely : ∀ d ∈ ran ++ [c], d.isTimely = true := by decide
  obtain ⟨answer, -, keys, -⟩ := windows_agree sorted timely rfl calm
  refine ⟨calm, stale, fun same => ?_, keys.2 rfl⟩
  rw [answer.1 same] at stale
  cases stale

/-- A deadline that is set for a key that is not there any more brings back its members. -/
theorem windows_disagree_revived :
    let ran : List Timed := [⟨0, .add "k" "a" 1⟩, ⟨0, .expire "k" 0⟩, ⟨0, .expire "k" 9⟩]
    let c : Timed := ⟨0, .count "k"⟩
    (ran ++ [c]).Pairwise (·.instant ≤ ·.instant) ∧ (∀ d ∈ ran ++ [c], d.isTimely = true) ∧
      (c.ask (stored ran)).1 = .ok (.ok (.number 1)) ∧
      ((kept ran).serve c.instant c.call).1 = .number 0 ∧
      (stored ran).keyCount 0 = 1 ∧ (kept ran).keyCount 0 = 0 := by
  decide +kernel

end Gatehouse.RateLimit
