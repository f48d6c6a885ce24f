import Gatehouse.Proofs.SlidingWindow

/-!
The time to wait that a refusal names is exact. It is told from the oldest request that counts,
and no more count than the limit: so the next request of the key is admitted as soon as that one
has left the window, and not before.
-/

namespace Gatehouse.RateLimit

section
variable {oldest window now : Int}

/-- So many seconds are enough when the member has left the window after them. -/
theorem secondsUntil_le_iff (counts : now < oldest + window) (past : oldest ≤ now)
    (low : minTime ≤ now) (short : window ≤ maxTime) (room : oldest + window ≤ maxTime)
    (wait : Nat) : secondsUntil oldest window now ≤ wait ↔ oldest + window ≤ now + 1000 * wait := by
  have bottom : minTime ≤ 0 := by decide
  have ends : clampTime (oldest + window) = oldest + window := clampTime_eq (by omega) room
  have rest : clampTime (oldest + window - now) = oldest + window - now :=
    clampTime_eq (by omega) (by omega)
  rw [secondsUntil, ends, rest, if_neg (by omega)]
  omega

/-- Nobody is told to wait for more than a window. -/
theorem secondsUntil_within {seconds : Nat} (counts : now < oldest + window) (past : oldest ≤ now)
    (low : minTime ≤ now) (whole : window = seconds * 1000) :
    1 ≤ secondsUntil oldest window now ∧ secondsUntil oldest window now ≤ seconds := by
  have left : clampTime (clampTime (oldest + window) - now) ≤ window := by
    have bottom : minTime ≤ 0 := by decide
    rw [clampTime, clampTime]
    omega
  rw [secondsUntil]
  split <;> omega

end

section
variable {l : Limits} {now : Int} {recent : List Int}

theorem Limits.isAdmitted_verdict :
    Told.isAdmitted (.ok (l.verdict now recent)) = true ↔
      recent.length < l.maxRequests.toNat := by
  rw [verdict]
  split
  next full => exact iff_of_false Bool.false_ne_true (Nat.not_lt.2 full)
  next room => exact iff_of_true rfl (Nat.not_le.1 room)

/-- A refusal names the oldest request that counts, if any are admitted at all. -/
theorem Limits.verdict_eq_error (limit : 0 < l.maxRequests.toNat) {x : Exceeded}
    (refused : l.verdict now recent = .error x) :
    l.maxRequests.toNat ≤ recent.length ∧ ∃ oldest, recent.min? = some oldest ∧
      x = ⟨recent.length, secondsUntil oldest l.windowMillis now⟩ := by
  rw [verdict] at refused
  split at refused
  · next full =>
      refine ⟨full, ?_⟩
      cases least : recent.min? with
      | none =>
          rw [List.min?_eq_none_iff] at least
          rw [least, List.length_nil] at full
          omega
      | some oldest =>
          rw [least] at refused
          cases refused
          exact ⟨oldest, rfl, rfl⟩
  · cases refused

end

/-- Fewer members count as soon as the oldest has left. -/
theorem length_above_lt_iff {entries : List (String × Int)} {oldest : Int}
    (least : (entries.map (·.2)).min? = some oldest) (bound : Int) :
    (above bound entries).length < entries.length ↔ oldest ≤ bound := by
  obtain ⟨mem, le⟩ := List.min?_eq_some_iff.1 least
  rw [above, List.length_filter_lt_length_iff_exists]
  simp only [decide_eq_true_eq, Int.not_lt]
  constructor
  · rintro ⟨e, he, left⟩
    exact Int.le_trans (le e.2 (List.mem_map_of_mem he)) left
  · intro left
    obtain ⟨e, he, rfl⟩ := List.mem_map.1 mem
    exact ⟨e, he, left⟩

theorem admitted_append_of_silent {key : String} (log : Log) {later : Log}
    (silent : ∀ e ∈ later, e.1.key = key → e.2.isAdmitted = false) :
    admitted key (log ++ later) = admitted key log := by
  have none : later.filter (fun e => e.1.key = key ∧ e.2.isAdmitted) = [] := by
    rw [List.filter_eq_nil_iff]
    intro e he counts
    obtain ⟨own, ok⟩ := of_decide_eq_true counts
    rw [silent e he own] at ok
    cases ok
  rw [admitted, List.filter_append, none, List.append_nil, ← admitted]

section
variable {l : Limits} {as : List Arrival} {log rest : Log} {a : Arrival}
  {n seconds : Nat}

/-- What a refusal says of the log before it: the requests that count are as many as the limit,
and the oldest of them is still in the window. -/
theorem oldest_of_refused (h : Orderly l as) (limit : 0 < l.maxRequests.toNat)
    (told : (trace l as).log = log ++ (a, .ok (.error ⟨n, seconds⟩)) :: rest) :
    let counted := above (a.now - l.windowMillis) (admitted a.key log)
    Follows l log a ∧ counted.length = l.maxRequests.toNat ∧
    ∃ oldest, (counted.map (·.2)).min? = some oldest ∧ a.now < oldest + l.windowMillis ∧
      (∃ e ∈ log, e.1.now = oldest) ∧ seconds = secondsUntil oldest l.windowMillis a.now := by
  intro counted
  obtain ⟨before, orderly, rfl, refused⟩ := log_split h told
  obtain ⟨full, oldest, least, eq⟩ := Limits.verdict_eq_error limit (Except.ok.inj refused).symm
  rw [List.length_map] at full
  have atMost : counted.length ≤ l.maxRequests.toNat := by
    rw [length_above_admitted]
    exact admittedSince_le orderly
  obtain ⟨m, hm, rfl⟩ := List.mem_map.1 (List.min?_eq_some_iff.1 least).1
  obtain ⟨hm, inside⟩ := List.mem_filter.1 hm
  obtain ⟨e, he, -, rfl⟩ := mem_admitted hm
  have inside : a.now - l.windowMillis < e.1.now := of_decide_eq_true inside
  exact ⟨orderly.follows, Nat.le_antisymm atMost full, _, least, by omega,
    ⟨e, he, rfl⟩, congrArg Exceeded.retryAfter eq⟩

/-- A refusal tells how many seconds to wait: at least one, and at most a window. As long as no
other request of the key comes in between, the next one after a whole number of seconds is
admitted if they are as many as that, and refused if they are fewer. -/
theorem retry_after_exact (h : Orderly l as) (limit : 0 < l.maxRequests.toNat)
    (told : (trace l as).log = log ++ (a, .ok (.error ⟨n, seconds⟩)) :: rest) :
    1 ≤ seconds ∧ seconds ≤ l.windowSeconds.toNat ∧
    ((∀ e ∈ log, e.1.now + l.windowSeconds.toNat * 1000 ≤ maxTime) →
      ∀ between b answer later, rest = between ++ (b, answer) :: later →
        (∀ e ∈ between, e.1.key ≠ a.key) → b.key = a.key →
        ∀ wait : Nat, b.now = a.now + 1000 * wait →
          (answer.isAdmitted = true ↔ seconds ≤ wait)) := by
  obtain ⟨follows, full, oldest, least, counts, ⟨e, he, eq⟩, named⟩ :=
    oldest_of_refused h limit told
  have past : oldest ≤ a.now := eq ▸ follows.late e he
  have window := Limits.windowMillis_eq follows.window_le
  have fits := follows.window_le
  have low : minTime ≤ a.now := by
    have range := follows.in_range
    omega
  have bounds := secondsUntil_within counts past low window
  rw [← named] at bounds
  refine ⟨bounds.1, bounds.2, ?_⟩
  rintro room between b answer later rfl others own wait after
  -- neither the refusal nor the requests of other keys add to what is counted
  have silent : ∀ e ∈ ((a, .ok (.error ⟨n, seconds⟩)) :: between : Log),
      e.1.key = a.key → e.2.isAdmitted = false := by
    intro e he same
    rcases List.mem_cons.1 he with rfl | he
    · rfl
    · exact absurd same (others e he)
  have split : (trace l as).log = (log ++ (a, .ok (.error ⟨n, seconds⟩)) :: between)
      ++ (b, answer) :: later := by
    rw [told, List.append_assoc, List.cons_append]
  obtain ⟨-, -, -, answered⟩ := log_split h split
  dsimp only at answered
  rw [own, admitted_append_of_silent log silent] at answered
  have fewer := length_above_lt_iff least (b.now - l.windowMillis)
  rw [above_above (by omega), full] at fewer
  have lasts : oldest + l.windowMillis ≤ maxTime := by
    rw [window, ← eq]
    exact room e he
  have enough := secondsUntil_le_iff counts past low (window ▸ fits) lasts wait
  rw [answered, Limits.isAdmitted_verdict, List.length_map, fewer, named, enough, after]
  omega

end

/-- Two in ninety seconds: the third request of a key is told to wait for 89 seconds. After 88 it
is refused again, after 89 it is admitted, whatever another key has asked for in between. -/
theorem retry_after_exact_two_in_ninety_seconds :
    let l : Limits := ⟨2, 90⟩
    let a : Arrival := ⟨"a", "z", 1500, 1507⟩
    let log : Log := [(⟨"a", "x", 0, 7⟩, .ok (.ok 1)), (⟨"a", "y", 1000, 1007⟩, .ok (.ok 2))]
    let between : Log := [(⟨"b", "u", 9000, 9007⟩, .ok (.ok 1))]
    let sooner : Arrival := ⟨"a", "v", 89500, 89507⟩
    let later : Arrival := ⟨"a", "v", 90500, 90507⟩
    let run (b : Arrival) : List Arrival := log.map (·.1) ++ a :: (between.map (·.1) ++ [b])
    let logged (b : Arrival) (answer : Told) : Prop :=
      (trace l (run b)).log = log ++ (a, .ok (.error ⟨2, 89⟩)) :: (between ++ [(b, answer)])
    (Orderly l (run sooner) ∧ Orderly l (run later)) ∧
      (∃ answer, logged sooner answer ∧ answer.isAdmitted = false) ∧
      ∃ answer, logged later answer ∧ answer.isAdmitted = true := by
  intro l a log between sooner later run logged
  have limit : 0 < l.maxRequests.toNat := by decide
  have orderly (b : Arrival) (hb : b = sooner ∨ b = later) : Orderly l (run b) := by
    rcases hb with rfl | rfl <;>
      exact ⟨by decide, by decide, by decide, by decide, by decide, by decide⟩
  have refused : logged sooner (.ok (.error ⟨2, 1⟩)) := by decide +kernel
  have admitted : logged later (.ok (.ok 2)) := by decide +kernel
  have room : ∀ e ∈ log, e.1.now + l.windowSeconds.toNat * 1000 ≤ maxTime := by decide
  have decided {b : Arrival} {answer : Told} (hb : b = sooner ∨ b = later)
      (told : logged b answer) (own : b.key = a.key) (wait : Nat)
      (after : b.now = a.now + 1000 * wait) : answer.isAdmitted = true ↔ 89 ≤ wait :=
    (retry_after_exact (orderly b hb) limit told).2.2 room between b answer [] rfl
      (by decide) own wait after
  refine ⟨⟨orderly sooner (.inl rfl), orderly later (.inr rfl)⟩, ⟨_, refused, ?_⟩,
    ⟨_, admitted, ?_⟩⟩
  · exact Bool.eq_false_iff.2 fun ok =>
      absurd ((decided (.inl rfl) refused rfl 88 rfl).1 ok) (by decide)
  · exact (decided (.inr rfl) admitted rfl 89 rfl).2 (by decide)

end Gatehouse.RateLimit
