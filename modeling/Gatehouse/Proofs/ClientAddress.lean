import Gatehouse.Proofs.Routing
import Gatehouse.Proofs.Signing

/-!
Whom a request is charged to. The address is what the headers or the peer say in a fixed order,
whatever a client writes into them; and since no path has a bar in it, an address cannot be
written so that its charges are those of another address or path.
-/

namespace Gatehouse

namespace Text

/-- A text that is not blank, less the white space around it. -/
structure Stands (ts cs : List Char) : Prop where
  around : ∃ front back, cs = front ++ ts ++ back ∧ (∀ c ∈ front, isBlank c) ∧
    ∀ c ∈ back, isBlank c
  first : ∃ c, ts.head? = some c ∧ isBlank c = false
  last : ∃ c, ts.getLast? = some c ∧ isBlank c = false

theorem trimStart_append {front rest : List Char} (blank : ∀ c ∈ front, isBlank c)
    (first : ∃ c, rest.head? = some c ∧ isBlank c = false) :
    trimStart (front ++ rest) = rest := by
  obtain ⟨c, head, visible⟩ := first
  obtain ⟨cs, rfl⟩ := List.head?_eq_some_iff.1 head
  rw [trimStart, List.dropWhile_append_of_pos blank, List.dropWhile_cons_of_neg (by simp [visible])]

/-- What is dropped is white space, and what is left does not begin with it. -/
theorem trimStart_spec (cs : List Char) :
    ∃ front, cs = front ++ trimStart cs ∧ (∀ c ∈ front, isBlank c) ∧
      ∀ c, (trimStart cs).head? = some c → isBlank c = false := by
  refine ⟨cs.takeWhile isBlank, List.takeWhile_append_dropWhile.symm,
    fun c h => List.all_eq_true.1 List.all_takeWhile c h, fun c head => ?_⟩
  have stop := List.head?_dropWhile_not isBlank cs
  rw [trimStart] at head
  rw [head] at stop
  exact stop

theorem toList_trim (s : String) :
    (trim s).toList = (trimStart (trimStart s.toList).reverse).reverse := by
  rw [trim, String.toList_ofList]

theorem trim_eq_of_stands {s : String} {ts : List Char} (h : Stands ts s.toList) :
    (trim s).toList = ts := by
  obtain ⟨front, back, whole, blank, blank'⟩ := h.around
  have first : ∃ c, (ts ++ back).head? = some c ∧ isBlank c = false := by
    obtain ⟨c, head, visible⟩ := h.first
    exact ⟨c, by rw [List.head?_append, head]; rfl, visible⟩
  have last : ∃ c, ts.reverse.head? = some c ∧ isBlank c = false := by
    simpa only [List.head?_reverse] using h.last
  rw [toList_trim, whole, List.append_assoc, trimStart_append blank first, List.reverse_append,
    trimStart_append (fun c hc => blank' c (List.mem_reverse.1 hc)) last, List.reverse_reverse]

theorem stands_trim {s : String} (filled : (trim s).toList ≠ []) :
    Stands (trim s).toList s.toList := by
  rw [toList_trim] at filled ⊢
  obtain ⟨front, whole, blank, visible⟩ := trimStart_spec s.toList
  obtain ⟨back, whole', blank', visible'⟩ := trimStart_spec (trimStart s.toList).reverse
  have middle := congrArg List.reverse whole'
  rw [List.reverse_reverse, List.reverse_append] at middle
  refine ⟨⟨front, back.reverse, ?_, blank, ?_⟩, ?_, ?_⟩
  · rw [List.append_assoc, ← middle]
    exact whole
  · exact fun c hc => blank' c (List.mem_reverse.1 hc)
  · obtain ⟨c, cs, hc⟩ := List.exists_cons_of_ne_nil filled
    refine ⟨c, by rw [hc]; rfl, visible c ?_⟩
    rw [middle, hc]
    rfl
  · obtain ⟨c, cs, hc⟩ := List.exists_cons_of_ne_nil (mt List.reverse_eq_nil_iff.2 filled)
    refine ⟨c, ?_, visible' c (by rw [hc]; rfl)⟩
    rw [List.getLast?_reverse, hc]
    rfl

theorem head?_splitAt (sep : Char) (cs : List Char) :
    (splitAt sep cs).head? = some (untilFirst sep cs) := by
  induction cs with
  | nil => rfl
  | cons c cs ih =>
      rw [splitAt]
      split
      next same => simp [untilFirst, same]
      next differs =>
        have kept : untilFirst sep (c :: cs) = c :: untilFirst sep cs :=
          List.takeWhile_cons_of_pos (by simpa using differs)
        rw [kept]
        cases parts : splitAt sep cs with
        | nil => rw [parts] at ih; cases ih
        | cons first rest =>
            rw [parts, List.head?_cons, Option.some.injEq] at ih
            rw [← ih]
            rfl

end Text

namespace RateLimit

open Net (Headers Endpoint)

/-- A list of forwarders names an address first. -/
def Forwarded (hs : Headers) (a : String) : Prop :=
  ∃ text entry, hs.text? "x-forwarded-for" = some text ∧
    (Text.splitAt ',' text.toList).head? = some entry ∧ Text.Stands a.toList entry

def Real (hs : Headers) (a : String) : Prop :=
  ∃ text, hs.text? "x-real-ip" = some text ∧ Text.Stands a.toList text.toList

/-- Whom the headers and the peer of a request say that it comes from. -/
inductive ComesFrom (hs : Headers) (peer : Option Endpoint) : String → Prop where
  | forwarded {a} (named : Forwarded hs a) : ComesFrom hs peer a
  | real {a} (unnamed : ∀ b, ¬ Forwarded hs b) (named : Real hs a) : ComesFrom hs peer a
  | peer {e} (unnamed : ∀ b, ¬ Forwarded hs b ∧ ¬ Real hs b) (known : peer = some e) :
      ComesFrom hs peer e.address.text
  | unknown (unnamed : ∀ b, ¬ Forwarded hs b ∧ ¬ Real hs b) (none : peer = none) :
      ComesFrom hs peer "unknown"

theorem nonBlank?_eq_some_iff {s a : String} :
    nonBlank? s = some a ↔ Text.Stands a.toList s.toList := by
  rw [nonBlank?]
  split
  next blank =>
    refine iff_of_false nofun fun stands => ?_
    obtain ⟨c, head, -⟩ := stands.first
    rw [← Text.trim_eq_of_stands stands, String.isEmpty_iff.1 blank] at head
    cases head
  next filled =>
    rw [Option.some.injEq]
    constructor
    · rintro rfl
      exact Text.stands_trim fun none => filled (by simpa using none)
    · exact fun stands => String.toList_inj.1 (Text.trim_eq_of_stands stands)

theorem forwardedFor?_eq_some_iff {hs : Headers} {a : String} :
    forwardedFor? hs = some a ↔ Forwarded hs a := by
  rw [forwardedFor?, Option.bind_eq_some_iff]
  refine exists_congr fun text => ?_
  rw [nonBlank?_eq_some_iff, String.toList_ofList, Text.head?_splitAt]
  simp

theorem realIp?_eq_some_iff {hs : Headers} {a : String} : realIp? hs = some a ↔ Real hs a := by
  rw [realIp?, Option.bind_eq_some_iff]
  exact exists_congr fun text => and_congr_right fun _ => nonBlank?_eq_some_iff

theorem comesFrom_iff {hs : Headers} {peer : Option Endpoint} {a : String} :
    ComesFrom hs peer a ↔ a = clientAddress hs peer := by
  have no_forwarder (none : forwardedFor? hs = none) (b : String) : ¬ Forwarded hs b := fun h => by
    rw [forwardedFor?_eq_some_iff.2 h] at none
    cases none
  have no_real (none : realIp? hs = none) (b : String) : ¬ Real hs b := fun h => by
    rw [realIp?_eq_some_iff.2 h] at none
    cases none
  unfold clientAddress
  cases forwarded : forwardedFor? hs with
  | some ip =>
      have named := forwardedFor?_eq_some_iff.1 forwarded
      refine ⟨fun h => ?_, fun same => same ▸ .forwarded named⟩
      cases h with
      | forwarded other =>
          rw [← forwardedFor?_eq_some_iff, forwarded, Option.some.injEq] at other
          exact other.symm
      | real unnamed _ => exact absurd named (unnamed ip)
      | peer unnamed _ | unknown unnamed _ => exact absurd named (unnamed ip).1
  | none =>
      cases real : realIp? hs with
      | some ip =>
          have named := realIp?_eq_some_iff.1 real
          refine ⟨fun h => ?_, fun same => same ▸ .real (no_forwarder forwarded) named⟩
          cases h with
          | forwarded other => exact absurd other (no_forwarder forwarded _)
          | real _ other =>
              rw [← realIp?_eq_some_iff, real, Option.some.injEq] at other
              exact other.symm
          | peer unnamed _ | unknown unnamed _ => exact absurd named (unnamed ip).2
      | none =>
          have unnamed (b : String) : ¬ Forwarded hs b ∧ ¬ Real hs b :=
            ⟨no_forwarder forwarded b, no_real real b⟩
          constructor
          · intro h
            cases h with
            | forwarded other => exact absurd other (unnamed _).1
            | real _ other => exact absurd other (unnamed _).2
            | peer _ known => rw [known]
            | unknown _ none => rw [none]
          · rintro rfl
            cases peer with
            | some e => exact .peer unnamed rfl
            | none => exact .unknown unnamed rfl

/-- The address ends at the last bar, so it may have bars of its own. -/
theorem charge_injective {a a' p p' : String} (h : '|' ∉ p.toList) (h' : '|' ∉ p'.toList)
    (same : charge a p = charge a' p') : a = a' ∧ p = p' := by
  have lists := congrArg String.toList same
  rw [charge, charge, String.append_assoc, String.append_assoc] at lists
  simp only [String.toList_append] at lists
  have bar : "|".toList = ['|'] := rfl
  rw [bar, List.singleton_append, List.singleton_append] at lists
  have cut := Text.cutLast_eq_some_iff.2 ⟨lists, h'⟩
  rw [Text.cutLast_eq_some_iff.2 ⟨rfl, h⟩, Option.some.injEq, Prod.mk.injEq] at cut
  exact ⟨String.toList_inj.1 cut.1, String.toList_inj.1 cut.2⟩

theorem bar_not_mem_path (route : Api.Route) : '|' ∉ route.path.toList := by
  cases route <;> decide

end RateLimit

theorem Api.Route.path_injective {r r' : Route} (versioned : r ∈ versioned)
    (versioned' : r' ∈ Route.versioned) (same : r.path = r'.path) : r = r' := by
  have found := ofPath?_path versioned
  rw [same, ofPath?_path versioned', Option.some.injEq] at found
  exact found.symm

theorem RateLimit.named_of_key {a a' p p' : String} (same : key a p = key a' p') :
    Uuid.named Uuid.urlSpace (Text.utf8 (charge a p))
      = Uuid.named Uuid.urlSpace (Text.utf8 (charge a' p')) := by
  rw [key, key, String.append_right_inj] at same
  exact Uuid.text_injective same

end Gatehouse
