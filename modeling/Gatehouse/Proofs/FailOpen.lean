import Gatehouse.Proofs.LiveWindows
import Gatehouse.Proofs.SlidingWindow
import Gatehouse.RateLimit.Outage
import Gatehouse.Store.Op
import Mathlib.Data.List.Perm.Subperm

/-!
The limiter over windows in memory of which any call may be lost. What is stored is backed by
requests that were admitted, whatever was lost and however the clocks ran, so a refusal is never
the work of an outage. A request that cannot be counted is admitted and leaves no trace.
-/

namespace Gatehouse.RateLimit

variable {ε : Type}

section
variable {instant : Nat} {lost : Call → Option ε}

/-- A call is noted, and is made unless it is lost. -/
def Noted.after {α : Type} (s : Noted) (c : Call) (lost : Option ε)
    (call : PanicM Windows (Except ε α)) : Except Panic (Except ε α) × Noted :=
  match lost with
  | some e => (.ok (.error e), ⟨s.windows, s.calls ++ [c]⟩)
  | none => ((call s.windows).1, ⟨(call s.windows).2, s.calls ++ [c]⟩)

theorem attempt_noted {α : Type} (c : Call) (refused : Option ε)
    (call : PanicM Windows (Except ε α)) (s : Noted) :
    attempt refused (onWindows call) ⟨s.windows, s.calls ++ [c]⟩ = s.after c refused call := by
  cases refused <;> rfl

variable (s : Noted) (key : String)

theorem evict_unreliable (upTo : Int) :
    (unreliable instant lost).evict key upTo s =
      s.after (.evict key upTo) (lost (.evict key upTo))
        ((memory instant).evict key upTo) := attempt_noted _ _ _ _

theorem count_unreliable :
    (unreliable instant lost).count key s =
      s.after (.count key) (lost (.count key)) ((memory instant).count key) :=
  attempt_noted _ _ _ _

theorem add_unreliable (member : String) (score : Int) :
    (unreliable instant lost).add key member score s =
      s.after (.add key member score) (lost (.add key member score))
        ((memory instant).add key member score) := attempt_noted _ _ _ _

theorem expire_unreliable (seconds : UInt64) :
    (unreliable instant lost).expire key seconds s =
      s.after (.expire key seconds) (lost (.expire key seconds))
        ((memory instant).expire key seconds) := attempt_noted _ _ _ _

theorem earliest_unreliable :
    (unreliable instant lost).earliest key s =
      s.after (.earliest key) (lost (.earliest key)) ((memory instant).earliest key) :=
  attempt_noted _ _ _ _

end

/-- A request, with the calls that are lost while it is served. -/
structure Attempt (ε : Type) extends Arrival where
  lost : Call → Option ε

/-- What a request was told, the calls that were made for it and the windows it left. -/
structure Outcome where
  answer : Told
  calls : List Call
  windows : Windows

/-- Admitted, and counted. -/
def Outcome.isCounted (o : Outcome) : Bool :=
  match o.answer with
  | .ok (.ok n) => 0 < n
  | _ => false

namespace Attempt

def store (a : Attempt ε) : Counter (PanicM Noted) ε := unreliable a.instant a.lost

def serve (l : Limits) (a : Attempt ε) (ws : Windows) : Outcome :=
  let r := check l a.store a.key a.suffix a.now ⟨ws, []⟩
  ⟨r.1, r.2.calls, r.2.windows⟩

/-- The latest time that has left the window. -/
def bound (l : Limits) (a : Attempt ε) : Int := clampTime (a.now - l.windowMillis)

def member (a : Attempt ε) : String := memberName a.now a.suffix

def evictCall (l : Limits) (a : Attempt ε) : Call := .evict a.key (a.bound l)
def countCall (a : Attempt ε) : Call := .count a.key
def earliestCall (a : Attempt ε) : Call := .earliest a.key
def addCall (a : Attempt ε) : Call := .add a.key a.member a.now
def expireCall (l : Limits) (a : Attempt ε) : Call := .expire a.key (l.windowSeconds + grace)

def added (a : Attempt ε) (ws : Windows) : Windows :=
  match a.lost a.addCall with
  | some _ => ws
  | none => ws.add a.instant a.key a.member a.now

/-- The windows with the deadline of the key, if there is something under the key. -/
def extended (l : Limits) (a : Attempt ε) (ws : Windows) : Except Panic Windows :=
  match a.lost (a.expireCall l), ws.get? a.key, deadline? a.instant (l.windowSeconds + grace) with
  | none, some _, none => .error .instant
  | none, some _, some d => .ok (ws.setDeadline a.key d)
  | _, _, _ => .ok ws

/-- When to come back. -/
def seconds (l : Limits) (a : Attempt ε) (ws : Windows) : Nat :=
  match a.lost a.earliestCall, ws.earliest a.instant a.key with
  | none, some oldest => secondsUntil oldest l.windowMillis a.now
  | _, _ => max l.windowSeconds.toNat 1

/-- The deadline of the key of a request can be told. -/
def Tells (l : Limits) (a : Attempt ε) : Prop :=
  a.instant + (l.windowSeconds.toNat + 60) * 1000 ≤ maxInstant

section
variable (l : Limits) (a : Attempt ε) (s : Noted)

theorem retryAfter_store :
    retryAfter l a.store a.key a.now s =
      (.ok (a.seconds l s.windows), ⟨s.windows, s.calls ++ [a.earliestCall]⟩) := by
  rw [retryAfter, PanicM.bind_apply, store, earliest_unreliable, seconds, earliestCall]
  cases a.lost (.earliest a.key) with
  | some e => rfl
  | none =>
      simp only [Noted.after, memory]
      cases s.windows.earliest a.instant a.key <;> rfl

theorem add_store {α : Type} (rest : PanicM Noted α) :
    (do
      let _ ← a.store.add a.key a.member a.now
      rest) s = rest ⟨a.added s.windows, s.calls ++ [a.addCall]⟩ := by
  rw [PanicM.bind_apply, store, add_unreliable, added, addCall]
  cases a.lost (.add a.key a.member a.now) <;> rfl

theorem expire_store {α : Type} (r : α) :
    (do
      let _ ← a.store.expire a.key (l.windowSeconds + grace)
      pure r) s
      = match a.extended l s.windows with
        | .ok ws => (.ok r, ⟨ws, s.calls ++ [a.expireCall l]⟩)
        | .error p => (.error p, ⟨s.windows, s.calls ++ [a.expireCall l]⟩) := by
  rw [PanicM.bind_apply, store, expire_unreliable, extended, expireCall]
  cases a.lost (.expire a.key (l.windowSeconds + grace)) with
  | some e => rfl
  | none =>
      dsimp only [Noted.after, memory]
      cases s.windows.get? a.key with
      | none => rfl
      | some w => cases deadline? a.instant (l.windowSeconds + grace) <;> rfl

end

theorem serve_eq (l : Limits) (a : Attempt ε) (ws : Windows) :
    a.serve l ws =
      match a.lost (a.evictCall l) with
      | some _ => ⟨.ok (.ok 0), [a.evictCall l], ws⟩
      | none =>
        let kept := a.kept l ws
        match a.lost a.countCall with
        | some _ => ⟨.ok (.ok 0), [a.evictCall l, a.countCall], kept⟩
        | none =>
          let n := kept.count a.instant a.key
          if l.maxRequests.toNat ≤ n then
            ⟨.ok (.error ⟨n, a.seconds l kept⟩),
              [a.evictCall l, a.countCall, a.earliestCall], kept⟩
          else if l.windowSeconds.toNat + 60 ≤ Bounds.max64 then
            let calls := [a.evictCall l, a.countCall, a.addCall, a.expireCall l]
            match a.extended l (a.added kept) with
            | .ok ws => ⟨.ok (.ok (n + 1)), calls, ws⟩
            | .error p => ⟨.error p, calls, a.added kept⟩
          else ⟨.error .overflow, [a.evictCall l, a.countCall, a.addCall], a.added kept⟩ := by
  have evicted : a.store.evict a.key (a.bound l) ⟨ws, []⟩ =
      Noted.after ⟨ws, []⟩ (a.evictCall l) (a.lost (a.evictCall l))
        ((memory a.instant).evict a.key (a.bound l)) := evict_unreliable _ _ _
  have counted (s : Noted) : a.store.count a.key s =
      s.after a.countCall (a.lost a.countCall) ((memory a.instant).count a.key) :=
    count_unreliable _ _
  rw [serve, check, PanicM.bind_apply, ← bound, evicted]
  cases a.lost (a.evictCall l) with
  | some e => rfl
  | none =>
      have left : (ws.evict a.key (a.bound l)).2 = a.kept l ws := rfl
      dsimp only [Noted.after, memory]
      rw [left, PanicM.bind_apply, counted]
      cases a.lost a.countCall with
      | some e => rfl
      | none =>
          dsimp only [Noted.after, memory]
          by_cases full : l.maxRequests.toNat ≤ (a.kept l ws).count a.instant a.key
          · rw [if_pos full, if_pos full, PanicM.bind_apply, retryAfter_store]
            rfl
          · have grace_eq : grace.toNat = 60 := rfl
            rw [if_neg full, if_neg full, ← member, add_store, Limits.lifetime,
              PanicM.addWords_bind_apply, grace_eq]
            by_cases word : l.windowSeconds.toNat + 60 ≤ Bounds.max64
            · rw [if_pos word, if_pos word, expire_store]
              cases a.extended l (a.added (a.kept l ws)) <;> rfl
            · rw [if_neg word, if_neg word]
              rfl

/-- A deadline that can be told does not break a request off. -/
theorem Tells.extended {l : Limits} {a : Attempt ε} (tells : a.Tells l) (ws : Windows) :
    ∃ left, a.extended l ws = .ok left := by
  have word : (l.windowSeconds + grace).toNat = l.windowSeconds.toNat + 60 :=
    toNat_addWords (Limits.lifetime_fits tells)
  have told : deadline? a.instant (l.windowSeconds + grace) = some _ :=
    deadline?_eq_some (by rwa [word])
  rw [Attempt.extended, told]
  cases a.lost (a.expireCall l) <;> cases ws.get? a.key <;> exact ⟨_, rfl⟩

theorem Tells.answer_serve {l : Limits} {a : Attempt ε} (tells : a.Tells l) (ws : Windows) :
    (a.serve l ws).answer = .ok (
      match a.lost (a.evictCall l), a.lost a.countCall with
      | none, none =>
        let kept := a.kept l ws
        let n := kept.count a.instant a.key
        if l.maxRequests.toNat ≤ n then .error ⟨n, a.seconds l kept⟩ else .ok (n + 1)
      | _, _ => .ok 0) := by
  rw [serve_eq]
  cases a.lost (a.evictCall l) with
  | some _ => rfl
  | none =>
      cases a.lost a.countCall with
      | some _ => rfl
      | none =>
          dsimp only
          split
          · rfl
          · obtain ⟨left, told⟩ := tells.extended (a.added (a.kept l ws))
            rw [if_pos (Limits.lifetime_fits tells), told]

/-- A refusal is told how many are seen, and these are too many. -/
theorem count_of_refused {l : Limits} {a : Attempt ε} {ws : Windows} {e : Exceeded}
    (refused : (a.serve l ws).answer = .ok (.error e)) :
    l.maxRequests.toNat ≤ (a.kept l ws).count a.instant a.key := by
  rw [serve_eq] at refused
  cases evicted : a.lost (a.evictCall l) with
  | some _ => rw [evicted] at refused; cases refused
  | none =>
      rw [evicted] at refused
      cases counted : a.lost a.countCall with
      | some _ => rw [counted] at refused; cases refused
      | none =>
          rw [counted] at refused
          dsimp only at refused
          split at refused
          next full => exact full
          next =>
            split at refused
            · split at refused <;> cases refused
            · cases refused

/-- The windows are left as they are, or without what has left the window of time, and it may be
with the request and a deadline; it was counted then. -/
theorem Tells.windows_serve {l : Limits} {a : Attempt ε} (tells : a.Tells l) (ws : Windows) :
    let o := a.serve l ws
    o.windows = ws ∨ o.windows = a.kept l ws ∨
      (o.isCounted ∧ a.extended l (a.added (a.kept l ws)) = .ok o.windows) := by
  intro o
  have all : o = _ := serve_eq l a ws
  cases evicted : a.lost (a.evictCall l) with
  | some _ => rw [evicted] at all; exact .inl (congrArg Outcome.windows all)
  | none =>
      rw [evicted] at all
      cases counted : a.lost a.countCall with
      | some _ => rw [counted] at all; exact .inr (.inl (congrArg Outcome.windows all))
      | none =>
          rw [counted] at all
          dsimp only at all
          split at all
          next => exact .inr (.inl (congrArg Outcome.windows all))
          next =>
            obtain ⟨left, told⟩ := tells.extended (a.added (a.kept l ws))
            rw [if_pos (Limits.lifetime_fits tells), told] at all
            rw [all]
            exact .inr (.inr ⟨by simp [Outcome.isCounted], told⟩)

/-- Only eviction and the count decide, and with the count what a refusal is told but for the
time to come back. -/
theorem Tells.admission_congr {l : Limits} {a : Attempt ε} (tells : a.Tells l) (ws : Windows)
    {lost : Call → Option ε} (evicted : lost (a.evictCall l) = a.lost (a.evictCall l))
    (counted : lost a.countCall = a.lost a.countCall) :
    ({ a with lost := lost }.serve l ws).answer.map (Except.mapError Exceeded.current)
      = (a.serve l ws).answer.map (Except.mapError Exceeded.current) := by
  let b : Attempt ε := { a with lost := lost }
  have same : b.Tells l := tells
  have calls : b.lost (b.evictCall l) = a.lost (a.evictCall l) ∧
      b.lost b.countCall = a.lost a.countCall := ⟨evicted, counted⟩
  change (b.serve l ws).answer.map _ = _
  rw [same.answer_serve, tells.answer_serve, calls.1, calls.2]
  cases a.lost (a.evictCall l) with
  | some e => rfl
  | none =>
      cases a.lost a.countCall with
      | some e => rfl
      | none =>
          have same : (b.kept l ws).count b.instant b.key = (a.kept l ws).count a.instant a.key :=
            rfl
          dsimp only
          rw [same]
          split <;> rfl

theorem tidy_added {a : Attempt ε} {ws : Windows} (tidy : ws.Tidy) : (a.added ws).Tidy := by
  rw [added]
  split
  · exact tidy
  · exact tidy.add _ _ _ _

section
variable {l : Limits} {a : Attempt ε} {ws left : Windows} (told : a.extended l ws = .ok left)
include told

theorem extended_cases : left = ws ∨ ∃ d, left = ws.setDeadline a.key d := by
  rw [extended] at told
  split at told
  · cases told
  · exact .inr ⟨_, (Except.ok.inj told).symm⟩
  · exact .inl (Except.ok.inj told).symm

theorem tidy_extended (tidy : ws.Tidy) : left.Tidy := by
  obtain rfl | ⟨d, rfl⟩ := extended_cases told
  · exact tidy
  · exact tidy.setDeadline _ _

theorem entries_extended (key : String) : left.entries key = ws.entries key := by
  obtain rfl | ⟨d, rfl⟩ := extended_cases told
  · rfl
  · exact Windows.entries_setDeadline _ _ _ _

end

theorem mem_entries_added {a : Attempt ε} {ws : Windows} (tidy : ws.Tidy) {key : String}
    {m : String × Int} (h : m ∈ (a.added ws).entries key) :
    (key = a.key ∧ m = (a.member, a.now)) ∨ m ∈ ws.entries key := by
  rw [added] at h
  split at h
  · exact .inr h
  · exact tidy.mem_entries_add h

end Attempt

/-- Windows, and the requests that were served with what came of them. -/
structure Course (ε : Type) where
  windows : Windows := []
  log : List (Attempt ε × Outcome) := []

def Course.next (l : Limits) (c : Course ε) (a : Attempt ε) : Course ε :=
  let o := a.serve l c.windows
  ⟨o.windows, c.log ++ [(a, o)]⟩

/-- Serve requests one after the other, with no windows at first. -/
def course (l : Limits) (as : List (Attempt ε)) : Course ε :=
  as.foldl (Course.next l) {}

theorem course_concat (l : Limits) (as : List (Attempt ε)) (a : Attempt ε) :
    course l (as ++ [a]) = (course l as).next l a := by
  simp [course]

/-- The requests of a key that were counted at a time after another. -/
def Course.counted (c : Course ε) (key : String) (after : Int) : List (Attempt ε × Outcome) :=
  c.log.filter fun e => e.1.key = key ∧ e.2.isCounted ∧ after < e.1.now

/-- Whatever is stored under a key stands for a request of that key that was counted. -/
structure Course.Backed (c : Course ε) : Prop where
  tidy : c.windows.Tidy
  members : ∀ key, ∀ m ∈ c.windows.entries key,
    ∃ e ∈ c.log, e.1.key = key ∧ e.2.isCounted ∧ m = (e.1.member, e.1.now)

theorem Course.Backed.next {c : Course ε} (backed : c.Backed) {l : Limits} {a : Attempt ε}
    (tells : a.Tells l) : (c.next l a).Backed := by
  have before {key : String} {m : String × Int} (h : m ∈ c.windows.entries key) :
      ∃ e ∈ (c.next l a).log, e.1.key = key ∧ e.2.isCounted ∧ m = (e.1.member, e.1.now) :=
    have ⟨e, he, backs⟩ := backed.members key m h
    ⟨e, List.mem_append_left _ he, backs⟩
  have tidy : (a.kept l c.windows).Tidy := backed.tidy.evict _ _
  have evicted {key : String} {m : String × Int} (h : m ∈ (a.kept l c.windows).entries key) :
      m ∈ c.windows.entries key := Windows.mem_entries_evict h
  rcases tells.windows_serve c.windows with same | fewer | ⟨counted, more⟩
  · have left : (c.next l a).windows = c.windows := same
    exact ⟨left ▸ backed.tidy, fun key m h => before (left ▸ h)⟩
  · have left : (c.next l a).windows = a.kept l c.windows := fewer
    exact ⟨left ▸ tidy, fun key m h => before (evicted (left ▸ h))⟩
  · refine ⟨Attempt.tidy_extended more (Attempt.tidy_added tidy), fun key m h => ?_⟩
    have left : (c.next l a).windows = (a.serve l c.windows).windows := rfl
    rw [left, Attempt.entries_extended more] at h
    rcases Attempt.mem_entries_added tidy h with ⟨rfl, rfl⟩ | old
    · exact ⟨(a, a.serve l c.windows), List.mem_append_right _ List.mem_cons_self,
        rfl, counted, rfl⟩
    · exact before (evicted old)

theorem backed_course {l : Limits} {as : List (Attempt ε)} (tells : ∀ a ∈ as, a.Tells l) :
    (course l as).Backed := by
  induction as using List.reverseRecOn with
  | nil => exact ⟨Windows.tidy_nil, fun _ _ h => by cases h⟩
  | append_singleton as a ih =>
      rw [course_concat]
      exact (ih fun b hb => tells b (List.mem_append_left _ hb)).next (tells a (by simp))

/-- Members are named apart, so each that is seen stands for a request of its own. -/
theorem Course.Backed.count_le {c : Course ε} (backed : c.Backed) (l : Limits) (a : Attempt ε) :
    (a.kept l c.windows).count a.instant a.key ≤ (c.counted a.key (a.bound l)).length := by
  have tidy : (a.kept l c.windows).Tidy := backed.tidy.evict _ _
  have named := tidy.named_seen a.instant a.key
  have within : ((a.kept l c.windows).seen a.instant a.key).map (·.1) ⊆
      (c.counted a.key (a.bound l)).map (·.1.member) := by
    intro name h
    obtain ⟨m, seen, rfl⟩ := List.mem_map.1 h
    have inside := Windows.mem_entries_of_seen seen
    -- what is left after eviction is scored above the bound, and the score is the time
    rw [Arrival.kept, Windows.entries_evict, List.mem_filter, decide_eq_true_eq] at inside
    obtain ⟨e, he, key, counted, rfl⟩ := backed.members a.key m inside.1
    refine List.mem_map.2 ⟨e, ?_, rfl⟩
    exact List.mem_filter.2 ⟨he, by simpa using ⟨key, counted, inside.2⟩⟩
  rw [Windows.count_eq]
  simpa using (named.subperm within).length_le

theorem Attempt.bound_eq (l : Limits) (a : Attempt ε) :
    a.bound l
      = max minTime (min maxTime (a.now - min maxTime (l.windowSeconds.toNat * 1000))) := by
  have order : minTime ≤ maxTime ∧ minTime ≤ 0 := by decide
  rw [bound, clampTime, Limits.windowMillis, clampTime]
  omega

/-- After any requests at any times, whatever calls were lost, a request is refused only if at
least as many as the limit were admitted and counted for its key within its window of time, with
the window and its start clamped to the bounds of times. When eviction or the count is lost it is
admitted, no further call is made and nothing is recorded. Whether the other calls of a request
are lost makes no difference to its admission. Deadlines that cannot be told break a request off,
and only these do. -/
theorem fails_open (l : Limits) (as : List (Attempt ε)) (a : Attempt ε) :
    let c := course l as
    let o := a.serve l c.windows
    let tells (b : Attempt ε) : Prop :=
      b.instant + (l.windowSeconds.toNat + 60) * 1000 ≤ maxInstant
    let window : Int := min maxTime (l.windowSeconds.toNat * 1000)
    ((∀ b ∈ as, tells b) → ∀ e, o.answer = .ok (.error e) →
      l.maxRequests.toNat
        ≤ (c.counted a.key (max minTime (min maxTime (a.now - window)))).length) ∧
    ((a.lost (a.evictCall l)).isSome →
      o.answer = .ok (.ok 0) ∧ o.calls = [a.evictCall l] ∧ o.windows = c.windows) ∧
    (a.lost (a.evictCall l) = none → (a.lost a.countCall).isSome →
      o.answer = .ok (.ok 0) ∧ o.calls = [a.evictCall l, a.countCall] ∧
        o.windows = (c.windows.evict a.key (a.bound l)).2) ∧
    (tells a → (∃ told, o.answer = .ok told) ∧
      ∀ lost : Call → Option ε,
        lost (a.evictCall l) = a.lost (a.evictCall l) → lost a.countCall = a.lost a.countCall →
        ({ a with lost := lost }.serve l c.windows).answer.map (Except.mapError Exceeded.current)
          = o.answer.map (Except.mapError Exceeded.current)) := by
  intro c o tells window
  have all : o = _ := a.serve_eq l c.windows
  refine ⟨fun tells e refused => ?_, fun evicted => ?_, fun evicted counted => ?_,
    fun tells => ⟨⟨_, Attempt.Tells.answer_serve tells c.windows⟩,
      fun lost evicted counted => ?_⟩⟩
  · rw [← a.bound_eq l]
    exact Nat.le_trans (Attempt.count_of_refused refused) ((backed_course tells).count_le l a)
  · obtain ⟨e, evicted⟩ := Option.isSome_iff_exists.1 evicted
    rw [all, evicted]
    exact ⟨rfl, rfl, rfl⟩
  · obtain ⟨e, counted⟩ := Option.isSome_iff_exists.1 counted
    rw [all, evicted, counted]
    exact ⟨rfl, rfl, rfl⟩
  · exact Attempt.Tells.admission_congr tells c.windows evicted counted

/-- One in ninety seconds: the second request of a key is refused, though its look at the first is
lost and the first was left without a deadline. -/
theorem fails_open_one_in_ninety_seconds :
    let l : Limits := ⟨1, 90⟩
    let first : Attempt Unit := ⟨⟨"a", "x", 0, 7⟩, fun
      | .expire .. => some ()
      | _ => none⟩
    let second : Attempt Unit := ⟨⟨"a", "y", 89999, 90006⟩, fun
      | .earliest _ => some ()
      | _ => none⟩
    (second.serve l (course l [first]).windows).answer = .ok (.error ⟨1, 90⟩) ∧
      1 ≤ ((course l [first]).counted "a" (-1)).length := by
  intro l first second
  have refused : (second.serve l (course l [first]).windows).answer
      = .ok (.error ⟨1, 90⟩) := by decide +kernel
  have tells : ∀ b ∈ [first], b.instant + (l.windowSeconds.toNat + 60) * 1000 ≤ maxInstant := by
    intro b hb
    rw [List.mem_singleton.1 hb]
    decide
  have enough := (fails_open l [first] second).1 tells _ refused
  have start : max minTime (min maxTime
      (second.now - min maxTime (l.windowSeconds.toNat * 1000 : Int))) = -1 := by decide
  rw [start] at enough
  exact ⟨refused, enough⟩

end Gatehouse.RateLimit
