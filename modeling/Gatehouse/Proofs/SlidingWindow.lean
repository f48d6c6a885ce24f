import Gatehouse.Proofs.Windows
import Gatehouse.RateLimit.Limiter
import Gatehouse.Text.Cut
import Mathlib.Data.List.Induction

/-!
The limiter over windows in memory, followed through a sequence of requests. The windows
mirror the log: whatever has been evicted, dropped with a deadline or swept away for another
key had left the window of time before, so what a request is told is a matter of the log
alone.
-/

namespace Gatehouse.RateLimit

theorem dash_not_mem_toDigits (n : Nat) : '-' ∉ Nat.toDigits 10 n := by
  intro h
  have digit := Nat.isDigit_of_mem_toDigits (by decide) (by decide) h
  exact absurd digit (by decide)

theorem toList_toString_int (n : Int) :
    ∃ c ds, (toString n).toList = c :: ds ∧ '-' ∉ ds := by
  cases n with
  | ofNat n =>
      have e : (toString (Int.ofNat n)).toList = Nat.toDigits 10 n := Nat.toList_repr
      cases hd : Nat.toDigits 10 n with
      | nil => exact absurd hd Nat.toDigits_ne_nil
      | cons c ds =>
          refine ⟨c, ds, e.trans hd, fun h => ?_⟩
          exact dash_not_mem_toDigits n (hd ▸ List.mem_cons_of_mem c h)
  | negSucc n =>
      have e : (toString (Int.negSucc n)).toList = '-' :: Nat.toDigits 10 (n + 1) := by
        change ("-" ++ (n + 1).repr).toList = _
        rw [String.toList_append, Nat.toList_repr]
        rfl
      exact ⟨'-', _, e, dash_not_mem_toDigits _⟩

theorem toList_memberName (now : Int) (suffix : String) :
    (memberName now suffix).toList = (toString now).toList ++ '-' :: suffix.toList := by
  change (toString now ++ "-" ++ suffix).toList = _
  simp

/-- Members of different suffixes are different, whatever their times. -/
theorem suffix_eq_of_memberName_eq {now now' : Int} {s s' : String}
    (h : memberName now s = memberName now' s') : s = s' := by
  have e := congrArg String.toList h
  obtain ⟨c, ds, hn, hds⟩ := toList_toString_int now
  obtain ⟨c', ds', hn', hds'⟩ := toList_toString_int now'
  rw [toList_memberName, toList_memberName, hn, hn', List.cons_append, List.cons_append,
    List.cons.injEq] at e
  have cut := Text.cutFirst_eq_some_iff.2 ⟨e.2, hds'⟩
  rw [Text.cutFirst_eq_some_iff.2 ⟨rfl, hds⟩, Option.some.injEq, Prod.mk.injEq] at cut
  exact String.toList_inj.1 cut.2

/-- A request: whom it is charged to, its time and the suffix of its member, and the instant
that the clock of the store shows. -/
structure Arrival where
  key : String
  suffix : String
  now : Int
  instant : Nat
  deriving DecidableEq, Repr

/-- What a request is told, if its check does not break off. -/
abbrev Told := Except Panic (Except Exceeded Nat)

def Told.isAdmitted : Told → Bool
  | .ok (.ok _) => true
  | _ => false

/-- Requests with what they were told. -/
abbrev Log := List (Arrival × Told)

/-- Check a request against windows in memory, of which no call fails. -/
def Arrival.serve (l : Limits) (a : Arrival) : PanicM Windows (Except Exceeded Nat) :=
  check l (memory a.instant : Counter _ Empty) a.key a.suffix a.now

structure Trace where
  windows : Windows := []
  log : Log := []

def Trace.next (l : Limits) (t : Trace) (a : Arrival) : Trace :=
  let answer := a.serve l t.windows
  ⟨answer.2, t.log ++ [(a, answer.1)]⟩

/-- Serve requests one after the other, with no windows at first. -/
def trace (l : Limits) (as : List Arrival) : Trace :=
  as.foldl (Trace.next l) {}

theorem trace_concat (l : Limits) (as : List Arrival) (a : Arrival) :
    trace l (as ++ [a]) = (trace l as).next l a := by
  simp [trace]

theorem map_log_trace (l : Limits) (as : List Arrival) :
    (trace l as).log.map (·.1) = as := by
  induction as using List.reverseRecOn with
  | nil => rfl
  | append_singleton as a ih =>
      rw [trace_concat, Trace.next, List.map_append, ih]
      rfl

/-- How many requests of a key were admitted after one time and up to another. -/
def admittedWithin (key : String) (after upTo : Int) (log : Log) : Nat :=
  (log.filter fun e => e.1.key = key ∧ e.2.isAdmitted ∧ after < e.1.now ∧ e.1.now ≤ upTo).length

/-- How many requests of a key were admitted after a time. -/
def admittedSince (key : String) (after : Int) (log : Log) : Nat :=
  (log.filter fun e => e.1.key = key ∧ e.2.isAdmitted ∧ after < e.1.now).length

/-- What is asked of the requests: the window fits the bounds of time and so does everything
computed from it, times do not go back, the clock of the store keeps step with them and can
tell every deadline, and no suffix is drawn twice. -/
structure Orderly (l : Limits) (as : List Arrival) : Prop where
  window_le : l.windowSeconds.toNat * 1000 ≤ maxTime
  sorted : as.Pairwise fun a b => a.now ≤ b.now
  in_step : ∀ a ∈ as, ∀ b ∈ as, (b.instant : Int) - a.instant = b.now - a.now
  in_range : ∀ a ∈ as, minTime ≤ a.now - l.windowSeconds.toNat * 1000 ∧ a.now ≤ maxTime
  deadlines : ∀ a ∈ as, a.instant + (l.windowSeconds.toNat + 60) * 1000 ≤ maxInstant
  suffixes : (as.map (·.suffix)).Nodup

/-- What is told with `recent` for the times of the requests that count. -/
def Limits.verdict (l : Limits) (now : Int) (recent : List Int) : Except Exceeded Nat :=
  if l.maxRequests.toNat ≤ recent.length then
    .error ⟨recent.length, match recent.min? with
      | some oldest => secondsUntil oldest l.windowMillis now
      | none => max l.windowSeconds.toNat 1⟩
  else .ok (recent.length + 1)

/-- What eviction leaves. -/
def Arrival.kept (l : Limits) (a : Arrival) (ws : Windows) : Windows :=
  (ws.evict a.key (clampTime (a.now - l.windowMillis))).2

/-- The instant at which a key is dropped that is added to now, if it can be told. -/
def Limits.deadline (l : Limits) (now : Nat) : Except Panic Nat :=
  if Bounds.max64 < l.windowSeconds.toNat + 60 then .error .overflow
  else if maxInstant < now + (l.windowSeconds.toNat + 60) * 1000 then .error .instant
  else .ok (now + (l.windowSeconds.toNat + 60) * 1000)

/-- A deadline that can be told has a lifetime that fits a word. -/
theorem Limits.lifetime_fits {l : Limits} {now : Nat}
    (fits : now + (l.windowSeconds.toNat + 60) * 1000 ≤ maxInstant) :
    l.windowSeconds.toNat + 60 ≤ Bounds.max64 := by
  simp only [maxInstant, Bounds.max64] at fits ⊢
  omega

theorem Limits.deadline_eq_ok {l : Limits} {now : Nat}
    (fits : now + (l.windowSeconds.toNat + 60) * 1000 ≤ maxInstant) :
    l.deadline now = .ok (now + (l.windowSeconds.toNat + 60) * 1000) := by
  rw [deadline, if_neg (Nat.not_lt.2 (lifetime_fits fits)), if_neg (Nat.not_lt.2 fits)]

/-- A key that is stored is given its deadline. -/
theorem extend_apply {ε : Type} (l : Limits) (now : Nat) {key : String} {ws : Windows}
    (stored : (ws.get? key).isSome) {α : Type} (rest : PanicM Windows α) :
    (do
      let seconds ← l.lifetime
      let _ ← (memory now : Counter _ ε).expire key seconds
      rest) ws
      = match l.deadline now with
        | .ok d => rest (ws.setDeadline key d)
        | .error p => (.error p, ws) := by
  have grace_eq : grace.toNat = 60 := rfl
  rw [Limits.lifetime, PanicM.addWords_bind_apply, Limits.deadline, grace_eq]
  by_cases word : l.windowSeconds.toNat + 60 ≤ Bounds.max64
  · have seconds : (l.windowSeconds + grace).toNat = l.windowSeconds.toNat + 60 :=
      toNat_addWords word
    rw [if_pos word, if_neg (Nat.not_lt.2 word), PanicM.bind_apply]
    by_cases fits : now + (l.windowSeconds.toNat + 60) * 1000 ≤ maxInstant
    · rw [if_neg (Nat.not_lt.2 fits), expire_of_le (by rwa [seconds]), seconds]
    · have late := Nat.not_le.1 fits
      rw [if_pos late, expire_of_late (by rwa [seconds]), stored]
      rfl
  · rw [if_neg word, if_pos (Nat.not_le.1 word)]

theorem serve_eq (l : Limits) (a : Arrival) (ws : Windows) :
    a.serve l ws =
      let kept := a.kept l ws
      let n := kept.count a.instant a.key
      if l.maxRequests.toNat ≤ n then
        (.ok (.error ⟨n, match kept.earliest a.instant a.key with
          | some oldest => secondsUntil oldest l.windowMillis a.now
          | none => max l.windowSeconds.toNat 1⟩), kept)
      else
        let added := kept.add a.instant a.key (memberName a.now a.suffix) a.now
        match l.deadline a.instant with
        | .ok d => (.ok (.ok (n + 1)), added.setDeadline a.key d)
        | .error p => (.error p, added) := by
  have evicted : (memory a.instant : Counter _ Empty).evict a.key
      (clampTime (a.now - l.windowMillis)) ws
        = (.ok (.ok (ws.evict a.key (clampTime (a.now - l.windowMillis))).1), a.kept l ws) := rfl
  rw [Arrival.serve, check, PanicM.bind_apply, evicted]
  dsimp only
  rw [PanicM.bind_apply]
  dsimp only [memory]
  split
  · rw [PanicM.bind_apply, retryAfter, PanicM.bind_apply]
    dsimp only
    cases (a.kept l ws).earliest a.instant a.key <;> rfl
  · rw [PanicM.bind_apply]
    dsimp only
    have stored : (((a.kept l ws).add a.instant a.key (memberName a.now a.suffix) a.now).get?
        a.key).isSome := by
      rw [Windows.add, Windows.get?_put, if_pos rfl]
      rfl
    exact extend_apply (ε := Empty) l a.instant stored _

theorem Limits.windowMillis_eq {l : Limits} (h : l.windowSeconds.toNat * 1000 ≤ maxTime) :
    l.windowMillis = l.windowSeconds.toNat * 1000 := by
  simp only [windowMillis, clampTime, minTime, maxTime, Bounds.minSigned,
    Bounds.maxSigned] at h ⊢
  omega

theorem clampTime_eq {t : Int} (h : minTime ≤ t) (h' : t ≤ maxTime) : clampTime t = t := by
  rw [clampTime]
  omega

/-- The members scored above a bound. -/
def above (bound : Int) (entries : List (String × Int)) : List (String × Int) :=
  entries.filter fun e => bound < e.2

theorem above_above {bound bound' : Int} (h : bound ≤ bound') (entries : List (String × Int)) :
    above bound' (above bound entries) = above bound' entries := by
  rw [above, above, List.filter_filter]
  apply List.filter_congr
  intro e _
  rw [Bool.eq_iff_iff]
  simp only [Bool.and_eq_true, decide_eq_true_eq]
  omega

theorem above_append (bound : Int) (es fs : List (String × Int)) :
    above bound (es ++ fs) = above bound es ++ above bound fs :=
  List.filter_append ..

theorem above_eq_nil {bound : Int} {entries : List (String × Int)}
    (h : ∀ e ∈ entries, e.2 ≤ bound) : above bound entries = [] := by
  rw [above, List.filter_eq_nil_iff]
  intro e he
  have := h e he
  simp only [decide_eq_true_eq]
  omega

/-- The members that the admitted requests of a key have added. -/
def admitted (key : String) (log : Log) : List (String × Int) :=
  (log.filter fun e => e.1.key = key ∧ e.2.isAdmitted).map fun e =>
    (memberName e.1.now e.1.suffix, e.1.now)

theorem admitted_concat (key : String) (log : Log) (e : Arrival × Told) :
    admitted key (log ++ [e]) = admitted key log ++
      if e.1.key = key ∧ e.2.isAdmitted then [(memberName e.1.now e.1.suffix, e.1.now)]
      else [] := by
  rw [admitted, List.filter_append, List.map_append]
  by_cases h : e.1.key = key ∧ e.2.isAdmitted
  · rw [if_pos h, List.filter_cons_of_pos (by simpa using h)]
    rfl
  · rw [if_neg h, List.filter_cons_of_neg (by simpa using h)]
    rfl

theorem mem_admitted {key : String} {log : Log} {m : String × Int} (h : m ∈ admitted key log) :
    ∃ e ∈ log, e.1.key = key ∧ m = (memberName e.1.now e.1.suffix, e.1.now) := by
  simp only [admitted, List.mem_map, List.mem_filter, decide_eq_true_eq] at h
  obtain ⟨e, ⟨he, hk, -⟩, rfl⟩ := h
  exact ⟨e, he, hk, rfl⟩

/-- The windows say the same as the log of what is still in the window of time, have nothing
that is not in the log, and live until a lifetime after their last member. -/
structure Mirrors (l : Limits) (log : Log) (ws : Windows) : Prop where
  unique : ws.Unique
  recent : ∀ key now, (∀ e ∈ log, e.1.now ≤ now) →
    above (now - l.windowMillis) (ws.entries key)
      = above (now - l.windowMillis) (admitted key log)
  within : ∀ key, ∀ m ∈ ws.entries key, m ∈ admitted key log
  deadline : ∀ key w, ws.get? key = some w → ∃ e ∈ log,
    w.deadline = some (e.1.instant + (l.windowSeconds.toNat + 60) * 1000) ∧
    ∀ m ∈ w.entries, m.2 ≤ e.1.now

theorem mirrors_nil (l : Limits) : Mirrors l [] [] where
  unique := List.nodup_nil
  recent _ _ _ := rfl
  within _ m h := by cases h
  deadline _ w h := by cases h

/-- How a request stands to those before it. -/
structure Follows (l : Limits) (log : Log) (a : Arrival) : Prop where
  window_le : l.windowSeconds.toNat * 1000 ≤ maxTime
  late : ∀ e ∈ log, e.1.now ≤ a.now
  in_step : ∀ e ∈ log, (a.instant : Int) - e.1.instant = a.now - e.1.now
  in_range : minTime ≤ a.now - l.windowMillis ∧ a.now ≤ maxTime
  deadline : a.instant + (l.windowSeconds.toNat + 60) * 1000 ≤ maxInstant
  suffix : ∀ e ∈ log, e.1.suffix ≠ a.suffix

section
variable {l : Limits} {log : Log} {ws : Windows} {a : Arrival}

/-- A member that still counts keeps its window in sight: the deadline is a minute beyond the
end of the window of time. -/
theorem Mirrors.isLive (hm : Mirrors l log ws) (hf : Follows l log a) {key : String} {w : Window}
    (hw : ws.get? key = some w) {m : String × Int} (hmem : m ∈ w.entries)
    (hin : a.now - l.windowMillis < m.2) :
    ∃ d, w.deadline = some d ∧ a.instant < d := by
  obtain ⟨e, he, hd, hle⟩ := hm.deadline key w hw
  refine ⟨_, hd, ?_⟩
  have step := hf.in_step e he
  have last := hle m hmem
  rw [Limits.windowMillis_eq hf.window_le] at hin
  omega

theorem Follows.clampTime_eq (hf : Follows l log a) :
    clampTime (a.now - l.windowMillis) = a.now - l.windowMillis := by
  have hw := Limits.windowMillis_eq hf.window_le
  have hr := hf.in_range
  exact RateLimit.clampTime_eq hr.1 (by omega)

theorem Mirrors.entries_kept (hm : Mirrors l log ws) (hf : Follows l log a) :
    (a.kept l ws).entries a.key = above (a.now - l.windowMillis) (admitted a.key log) := by
  rw [Arrival.kept, Windows.entries_evict, hf.clampTime_eq]
  exact hm.recent a.key a.now hf.late

theorem Mirrors.live?_kept (hm : Mirrors l log ws) (hf : Follows l log a) :
    (a.kept l ws).live? a.instant a.key = (a.kept l ws).get? a.key := by
  rw [Windows.live?, Arrival.kept, Windows.get?_evict, if_pos rfl, hf.clampTime_eq]
  cases hw : ws.get? a.key with
  | none => rfl
  | some w =>
      rw [Option.bind_some, Window.above?]
      split
      · rfl
      next kept =>
        cases hk : w.entries.filter fun e => a.now - l.windowMillis < e.2 with
        | nil => simp [hk] at kept
        | cons m ms =>
            have hmem : m ∈ w.entries.filter fun e => a.now - l.windowMillis < e.2 :=
              hk ▸ List.mem_cons_self
            rw [List.mem_filter, decide_eq_true_eq] at hmem
            obtain ⟨d, hd, hlt⟩ := hm.isLive hf hw hmem.1 hmem.2
            exact Option.filter_some_pos (by simp [Window.isLive, hd, hlt])

/-- A request is told what the log says. -/
theorem Mirrors.serve_fst (hm : Mirrors l log ws) (hf : Follows l log a) :
    (a.serve l ws).1 = .ok (l.verdict a.now
      ((above (a.now - l.windowMillis) (admitted a.key log)).map (·.2))) := by
  have live := hm.live?_kept hf
  have count := Windows.count_of_live live
  have earliest := Windows.earliest_of_live live
  rw [hm.entries_kept hf] at count earliest
  rw [serve_eq, Limits.verdict, List.length_map, ← earliest, ← count]
  dsimp only
  by_cases full : l.maxRequests.toNat ≤ (a.kept l ws).count a.instant a.key
  · rw [if_pos full, if_pos full]
  · rw [if_neg full, if_neg full, Limits.deadline_eq_ok hf.deadline]

/-- What is evicted has left the window of time, at this time and ever after. -/
theorem Mirrors.kept (hm : Mirrors l log ws) (hf : Follows l log a) {e : Exceeded} :
    Mirrors l (log ++ [(a, .ok (.error e))]) (a.kept l ws) := by
  have same (key : String) : admitted key (log ++ [(a, .ok (.error e))]) = admitted key log := by
    rw [admitted_concat, if_neg (by simp [Told.isAdmitted]), List.append_nil]
  have others {key : String} (h : key ≠ a.key) : (a.kept l ws).get? key = ws.get? key := by
    rw [Arrival.kept, Windows.get?_evict, if_neg h]
  refine ⟨hm.unique.evict _ _, ?_, ?_, ?_⟩
  · intro key now late
    have earlier : ∀ e ∈ log, e.1.now ≤ now := fun d hd => late d (List.mem_append_left _ hd)
    have now_le : a.now ≤ now := late (a, .ok (.error e)) (by simp)
    rw [same]
    by_cases h : key = a.key
    -- bounds only rise, so those to come are above the one of this eviction
    · subst h
      rw [hm.entries_kept hf, above_above (by omega)]
    · rw [Windows.entries, others h]
      exact hm.recent key now earlier
  · intro key m h
    rw [same]
    by_cases hk : key = a.key
    · subst hk
      rw [hm.entries_kept hf] at h
      exact (List.mem_filter.1 h).1
    · rw [Windows.entries, others hk] at h
      exact hm.within key m h
  · intro key w h
    have old : ∃ v, ws.get? key = some v ∧ v.deadline = w.deadline ∧
        ∀ m ∈ w.entries, m ∈ v.entries := by
      by_cases hk : key = a.key
      · subst hk
        rw [Arrival.kept, Windows.get?_evict, if_pos rfl, Option.bind_eq_some_iff] at h
        obtain ⟨v, hv, hw⟩ := h
        rw [Window.above?] at hw
        split at hw
        · cases hw
        · cases hw
          exact ⟨v, hv, rfl, fun m hm => (List.mem_filter.1 hm).1⟩
      · exact ⟨w, others hk ▸ h, rfl, fun m hm => hm⟩
    obtain ⟨v, hv, hd, hsub⟩ := old
    obtain ⟨d, hdm, hdd, hle⟩ := hm.deadline key v hv
    exact ⟨d, List.mem_append_left _ hdm, hd ▸ hdd, fun m h => hle m (hsub m h)⟩

/-- A window that is swept away had nothing left that counts. -/
theorem Mirrors.above_live (hm : Mirrors l log ws) (hf : Follows l log a) (key : String)
    {bound : Int} (hb : a.now - l.windowMillis ≤ bound) :
    above bound ((((ws.get? key).filter (·.isLive a.instant)).map (·.entries)).getD [])
      = above bound (ws.entries key) := by
  cases hw : ws.get? key with
  | none => rw [Windows.entries_of_get?_none hw]; rfl
  | some w =>
      rw [Windows.entries_of_get? hw]
      by_cases live : w.isLive a.instant = true
      · have seen : (some w).filter (·.isLive a.instant) = some w := Option.filter_some_pos live
        rw [seen]
        rfl
      · have unseen : (some w).filter (·.isLive a.instant) = none :=
          Option.filter_some_neg (by simpa using live)
        have gone : above bound w.entries = [] := by
          apply above_eq_nil
          intro m hmem
          refine Int.not_lt.1 fun lt => live ?_
          obtain ⟨d, hd, hlt⟩ := hm.isLive hf hw hmem (by omega)
          have nonempty : w.entries ≠ [] := List.ne_nil_of_mem hmem
          simp [Window.isLive, hd, hlt, nonempty]
        rw [unseen, gone]
        rfl

/-- What an admitted request leaves: its own member behind those that were kept, and a new
deadline; of the other keys, what is still seen. -/
theorem Mirrors.get?_added (hm : Mirrors l log ws) (hf : Follows l log a) (d : Nat)
    (key : String) :
    (((a.kept l ws).add a.instant a.key (memberName a.now a.suffix) a.now).setDeadline
      a.key d).get? key =
    if key = a.key then
      some ⟨above (a.now - l.windowMillis) (admitted a.key log)
        ++ [(memberName a.now a.suffix, a.now)], some d⟩
    else (ws.get? key).filter (·.isLive a.instant) := by
  have unique : (a.kept l ws).Unique := hm.unique.evict _ _
  rw [Windows.get?_setDeadline, Windows.get?_add unique, Windows.get?_add unique]
  by_cases h : key = a.key
  · have seen : ((a.kept l ws).get? a.key).filter (·.isLive a.instant) = (a.kept l ws).get? a.key :=
      hm.live?_kept hf
    have entries : ((((a.kept l ws).get? a.key)).getD {}).entries
        = above (a.now - l.windowMillis) (admitted a.key log) := by
      rw [← hm.entries_kept hf, Windows.entries]
      cases (a.kept l ws).get? a.key <;> rfl
    have new : ∀ m ∈ above (a.now - l.windowMillis) (admitted a.key log),
        m.1 ≠ memberName a.now a.suffix := by
      intro m hm same
      obtain ⟨e, he, -, rfl⟩ := mem_admitted (List.mem_filter.1 hm).1
      exact hf.suffix e he (suffix_eq_of_memberName_eq same)
    rw [if_pos h, if_pos h, if_pos rfl, seen]
    dsimp only [Option.map_some]
    rw [entries, putEntry_of_not_mem new]
  · rw [if_neg h, if_neg h, if_neg h, Arrival.kept, Windows.get?_evict, if_neg h]

theorem Mirrors.added (hm : Mirrors l log ws) (hf : Follows l log a) {n : Nat} :
    Mirrors l (log ++ [(a, .ok (.ok n))])
      (((a.kept l ws).add a.instant a.key (memberName a.now a.suffix) a.now).setDeadline
        a.key (a.instant + (l.windowSeconds.toNat + 60) * 1000)) := by
  have own : admitted a.key (log ++ [(a, .ok (.ok n))])
      = admitted a.key log ++ [(memberName a.now a.suffix, a.now)] := by
    rw [admitted_concat, if_pos ⟨rfl, rfl⟩]
  have others {key : String} (h : key ≠ a.key) :
      admitted key (log ++ [(a, .ok (.ok n))]) = admitted key log := by
    rw [admitted_concat, if_neg (fun e => h e.1.symm), List.append_nil]
  refine ⟨((hm.unique.evict _ _).add _ _ _ _).setDeadline _ _, ?_, ?_, ?_⟩
  · intro key now late
    have earlier : ∀ e ∈ log, e.1.now ≤ now := fun d hd => late d (List.mem_append_left _ hd)
    have now_le : a.now ≤ now := late (a, .ok (.ok n)) (by simp)
    rw [Windows.entries, hm.get?_added hf]
    by_cases h : key = a.key
    · subst h
      rw [if_pos rfl, own, Option.map_some, Option.getD_some, above_append, above_append,
        above_above (by omega)]
    · rw [if_neg h, others h, hm.above_live hf key (by omega)]
      exact hm.recent key now earlier
  · intro key m h
    rw [Windows.entries, hm.get?_added hf] at h
    by_cases hk : key = a.key
    · subst hk
      rw [if_pos rfl, Option.map_some, Option.getD_some, List.mem_append] at h
      rw [own, List.mem_append]
      exact h.imp_left fun h => (List.mem_filter.1 h).1
    · rw [others hk]
      apply hm.within key m
      rw [if_neg hk] at h
      cases hw : ws.get? key with
      | none => simp [hw] at h
      | some w =>
          rw [Windows.entries_of_get? hw]
          by_cases live : w.isLive a.instant = true
          · have seen : (some w).filter (·.isLive a.instant) = some w :=
              Option.filter_some_pos live
            rw [hw, seen] at h
            exact h
          · have unseen : (some w).filter (·.isLive a.instant) = none :=
              Option.filter_some_neg (by simpa using live)
            rw [hw, unseen] at h
            cases h
  · intro key w h
    rw [hm.get?_added hf] at h
    by_cases hk : key = a.key
    · rw [if_pos hk, Option.some.injEq] at h
      subst h
      refine ⟨(a, .ok (.ok n)), by simp, rfl, ?_⟩
      intro m h
      rcases List.mem_append.1 h with h | h
      · obtain ⟨e, he, -, rfl⟩ := mem_admitted (List.mem_filter.1 h).1
        exact hf.late e he
      · exact Int.le_of_eq (congrArg Prod.snd (List.mem_singleton.1 h))
    · rw [if_neg hk, Option.filter_eq_some_iff] at h
      obtain ⟨e, he, hdd, hle⟩ := hm.deadline key w h.1
      exact ⟨e, List.mem_append_left _ he, hdd, hle⟩

/-- Refused or admitted, a request leaves windows that mirror the log with its answer. -/
theorem Mirrors.next (hm : Mirrors l log ws) (hf : Follows l log a) :
    Mirrors l (log ++ [(a, (a.serve l ws).1)]) (a.serve l ws).2 := by
  rw [serve_eq, Limits.deadline_eq_ok hf.deadline]
  dsimp only
  split
  · exact hm.kept hf
  · exact hm.added hf

end

section
variable {l : Limits} {as bs : List Arrival} {a : Arrival}

theorem Orderly.sublist (h : Orderly l as) (hs : bs.Sublist as) : Orderly l bs where
  window_le := h.window_le
  sorted := h.sorted.sublist hs
  in_step b hb c hc := h.in_step b (hs.subset hb) c (hs.subset hc)
  in_range b hb := h.in_range b (hs.subset hb)
  deadlines b hb := h.deadlines b (hs.subset hb)
  suffixes := h.suffixes.sublist (hs.map _)

theorem Orderly.init (h : Orderly l (as ++ [a])) : Orderly l as :=
  h.sublist (List.sublist_append_left as [a])

theorem arrival_mem_of_mem_trace {e : Arrival × Told}
    (h : e ∈ (trace l as).log) : e.1 ∈ as :=
  map_log_trace l as ▸ List.mem_map_of_mem h

theorem Orderly.follows (h : Orderly l (as ++ [a])) : Follows l (trace l as).log a := by
  have last : a ∈ as ++ [a] := by simp
  have sorted := List.pairwise_append.1 h.sorted
  have fresh := h.suffixes
  rw [List.map_append, List.nodup_append] at fresh
  have in_range : minTime ≤ a.now - l.windowMillis ∧ a.now ≤ maxTime := by
    rw [Limits.windowMillis_eq h.window_le]
    exact h.in_range a last
  refine ⟨h.window_le, ?_, ?_, in_range, h.deadlines a last, ?_⟩
  · intro e he
    exact sorted.2.2 e.1 (arrival_mem_of_mem_trace he) a (by simp)
  · intro e he
    exact h.in_step e.1 (by simp [arrival_mem_of_mem_trace he]) a last
  · intro e he
    exact fresh.2.2 _ (List.mem_map_of_mem (arrival_mem_of_mem_trace he)) _ (by simp)

theorem mirrors_trace (h : Orderly l as) :
    Mirrors l (trace l as).log (trace l as).windows := by
  induction as using List.reverseRecOn with
  | nil => exact mirrors_nil l
  | append_singleton as a ih =>
      rw [trace_concat]
      exact (ih h.init).next h.follows

/-- In a run, what a request is told is a matter of its key, its time and the log. -/
theorem log_concat (h : Orderly l (as ++ [a])) :
    (trace l (as ++ [a])).log = (trace l as).log ++
      [(a, .ok (l.verdict a.now
        ((above (a.now - l.windowMillis) (admitted a.key (trace l as).log)).map (·.2))))] := by
  rw [trace_concat, Trace.next, (mirrors_trace h.init).serve_fst h.follows]

theorem length_above_admitted (bound : Int) (key : String) (log : Log) :
    (above bound (admitted key log)).length = admittedSince key bound log := by
  rw [above, admitted, admittedSince, List.filter_map, List.length_map, List.filter_filter]
  congr 1
  apply List.filter_congr
  intro e _
  rw [Bool.eq_iff_iff]
  simp only [Function.comp_apply, Bool.and_eq_true, decide_eq_true_eq]
  tauto

theorem admitted_filter (key : String) (log : Log) :
    admitted key (log.filter (·.1.key = key)) = admitted key log := by
  rw [admitted, admitted, List.filter_filter]
  congr 1
  apply List.filter_congr
  intro e _
  rw [Bool.eq_iff_iff]
  simp only [Bool.and_eq_true, decide_eq_true_eq]
  tauto

theorem Limits.verdict_of_lt {l : Limits} {now : Int} {recent : List Int}
    (h : recent.length < l.maxRequests.toNat) :
    l.verdict now recent = .ok (recent.length + 1) :=
  if_neg (Nat.not_le.2 h)

theorem Limits.verdict_of_le {l : Limits} (now : Int) {recent : List Int}
    (h : l.maxRequests.toNat ≤ recent.length) :
    ∃ seconds, l.verdict now recent = .error ⟨recent.length, seconds⟩ :=
  ⟨_, if_pos h⟩

theorem admittedWithin_concat (key : String) (after upTo : Int) (log : Log)
    (e : Arrival × Told) :
    admittedWithin key after upTo (log ++ [e]) = admittedWithin key after upTo log +
      if e.1.key = key ∧ e.2.isAdmitted ∧ after < e.1.now ∧ e.1.now ≤ upTo then 1 else 0 := by
  rw [admittedWithin, List.filter_append, List.length_append, ← admittedWithin]
  split
  next h => rw [List.filter_cons_of_pos (by simpa using h)]; rfl
  next h => rw [List.filter_cons_of_neg (by simpa using h)]; rfl

theorem admittedWithin_le_since (key : String) {after after' : Int} (upTo : Int)
    (h : after' ≤ after) (log : Log) :
    admittedWithin key after upTo log ≤ admittedSince key after' log := by
  rw [admittedWithin, admittedSince, ← List.countP_eq_length_filter,
    ← List.countP_eq_length_filter]
  apply List.countP_mono_left
  intro e _ he
  simp only [decide_eq_true_eq] at he ⊢
  exact ⟨he.1, he.2.1, by omega⟩

/-- No window of time holds more admitted requests of a key than the limit. -/
theorem admittedWithin_le (h : Orderly l as) (key : String) (start : Int) :
    admittedWithin key start (start + l.windowMillis) (trace l as).log
      ≤ l.maxRequests.toNat := by
  induction as using List.reverseRecOn with
  | nil => exact Nat.zero_le _
  | append_singleton as a ih =>
      rw [log_concat h, admittedWithin_concat]
      have before := ih h.init
      split
      next counts =>
        obtain ⟨rfl, ok, -, late⟩ := counts
        dsimp only at ok late
        -- it was admitted, so those in its own window, which reaches further back, were too few
        have back : a.now - l.windowMillis ≤ start := by omega
        have fewer := admittedWithin_le_since a.key (start + l.windowMillis) back
          (trace l as).log
        rw [← length_above_admitted] at fewer
        refine Nat.lt_of_le_of_lt fewer (Nat.not_le.1 fun full => ?_)
        rw [← List.length_map (·.2)] at full
        obtain ⟨seconds, refused⟩ := Limits.verdict_of_le a.now full
        rw [refused] at ok
        cases ok
      next => exact before

theorem log_filter_key (h : Orderly l as) (key : String) :
    (trace l as).log.filter (·.1.key = key)
      = (trace l (as.filter (·.key = key))).log := by
  induction as using List.reverseRecOn with
  | nil => rfl
  | append_singleton as a ih =>
      rw [log_concat h, List.filter_append, List.filter_append, ih h.init]
      by_cases own : a.key = key
      · subst own
        have alone : Orderly l (as.filter (·.key = a.key) ++ [a]) :=
          h.sublist (List.filter_sublist.append_right [a])
        rw [List.filter_cons_of_pos (by simp), List.filter_cons_of_pos (by simp),
          List.filter_nil, List.filter_nil, log_concat alone, ← ih h.init,
          admitted_filter]
      · rw [List.filter_cons_of_neg (by simpa using own),
          List.filter_cons_of_neg (by simpa using own)]
        simp

theorem admittedSince_le (h : Orderly l (as ++ [a])) :
    admittedSince a.key (a.now - l.windowMillis) (trace l as).log ≤ l.maxRequests.toNat := by
  have bound := admittedWithin_le h.init a.key (a.now - l.windowMillis)
  rw [Int.sub_add_cancel] at bound
  refine Nat.le_trans (Nat.le_of_eq ?_) bound
  rw [admittedSince, admittedWithin]
  congr 1
  apply List.filter_congr
  intro e he
  have late := h.follows.late e he
  simp only [late, and_true]

/-- An entry of the log of a run is the answer to a request after those logged before it. -/
theorem log_split {log rest : Log} {e : Arrival × Told} (h : Orderly l as)
    (hlog : (trace l as).log = log ++ e :: rest) :
    ∃ before, Orderly l (before ++ [e.1]) ∧ (trace l before).log = log ∧
      e.2 = .ok (l.verdict e.1.now
        ((above (e.1.now - l.windowMillis) (admitted e.1.key log)).map (·.2))) := by
  induction as using List.reverseRecOn generalizing rest with
  | nil => cases log <;> cases hlog
  | append_singleton as a ih =>
      rw [log_concat h] at hlog
      cases rest using List.reverseRecOn with
      | nil =>
          obtain ⟨rfl, last⟩ := List.append_inj' hlog rfl
          cases last
          exact ⟨as, h, rfl, rfl⟩
      | append_singleton rest b =>
          rw [← List.cons_append, ← List.append_assoc] at hlog
          exact ih h.init (List.append_inj' hlog rfl).1

/-- A request is admitted as long as fewer than the limit have been admitted in the window of
time before it, and is told their number with itself; else it is told that they are as many as
the limit. No window of time ever holds more, and the log of a key is that of its own requests
alone. -/
theorem sliding_window (h : Orderly l as) :
    let window : Int := l.windowSeconds.toNat * 1000
    (trace l as).log.map (·.1) = as ∧
    (∀ log e rest, (trace l as).log = log ++ e :: rest →
      let n := admittedSince e.1.key (e.1.now - window) log
      (n < l.maxRequests.toNat ∧ e.2 = .ok (.ok (n + 1))) ∨
      (n = l.maxRequests.toNat ∧ ∃ seconds, e.2 = .ok (.error ⟨n, seconds⟩))) ∧
    (∀ key start, admittedWithin key start (start + window) (trace l as).log
      ≤ l.maxRequests.toNat) ∧
    ∀ key, (trace l as).log.filter (·.1.key = key)
      = (trace l (as.filter (·.key = key))).log := by
  intro window
  have millis : window = l.windowMillis := (Limits.windowMillis_eq h.window_le).symm
  rw [millis]
  refine ⟨map_log_trace l as, ?_, admittedWithin_le h, log_filter_key h⟩
  intro log e rest hlog n
  obtain ⟨before, orderly, rfl, told⟩ := log_split h hlog
  have le : n ≤ l.maxRequests.toNat := admittedSince_le orderly
  have length : ((above (e.1.now - l.windowMillis)
      (admitted e.1.key (trace l before).log)).map (·.2)).length = n := by
    rw [List.length_map, length_above_admitted]
  rw [← length] at le ⊢
  rw [told]
  rcases Nat.lt_or_eq_of_le le with lt | eq
  · exact .inl ⟨lt, congrArg _ (Limits.verdict_of_lt lt)⟩
  · obtain ⟨seconds, refused⟩ := Limits.verdict_of_le e.1.now (Nat.le_of_eq eq.symm)
    exact .inr ⟨eq, seconds, congrArg _ refused⟩

end

/-- Two in ninety seconds: the third request of a key is refused, and the next is admitted as
the first leaves the window. -/
theorem sliding_window_two_in_ninety_seconds :
    let l : Limits := ⟨2, 90⟩
    let as : List Arrival := [⟨"a", "x", 0, 7⟩, ⟨"a", "y", 1000, 1007⟩, ⟨"b", "z", 1500, 1507⟩,
      ⟨"a", "u", 89999, 90006⟩, ⟨"a", "v", 90000, 90007⟩]
    Orderly l as ∧
    (trace l as).log.map (·.2)
      = [.ok (.ok 1), .ok (.ok 2), .ok (.ok 1), .ok (.error ⟨2, 1⟩), .ok (.ok 2)] ∧
    ∀ key start, admittedWithin key start (start + 90000) (trace l as).log ≤ 2 := by
  intro l as
  have orderly : Orderly l as :=
    ⟨by decide, by decide, by decide, by decide, by decide, by decide⟩
  have window : (l.windowSeconds.toNat : Int) * 1000 = 90000 := by decide
  refine ⟨orderly, by decide +kernel, ?_⟩
  rw [← window]
  exact (sliding_window orderly).2.2.1

end Gatehouse.RateLimit
