import LevelForge.Boss.Schedule
import Mathlib.Algebra.Order.Group.Int
import Mathlib.Tactic.Common

/-!
# The first threshold of a schedule

What the boss rules of a level answer about an interval of progress, said without their
arithmetic: a rule offers its least threshold above the lower end, and the schedule settles on the
least one that any of its rules offers, the first rule of the text winning a tie.

* `Rule.firstCrossing_spec`: the crossing of one rule is its next threshold, if that is reached.
* `Schedule.next?_spec`: the boss of an interval is that of the winner, and no boss appears exactly
  when the interval holds no threshold of any rule.
* `Schedule.Wins.threshold_unique`: a lower end has at most one winning threshold.

All of it needs admissible rules: the interval of a repeating rule has to be positive, which every
rule read from a key satisfies (`Rule.admissible_of_ofKey`).
-/

namespace LevelForge.Boss

namespace Rule

/-- A repeating rule has a positive interval. -/
def Admissible (rule : Rule) : Prop := rule.repeating = true → 0 < rule.threshold

/-- `t` is the least threshold of the rule above `last`. -/
structure IsNext (rule : Rule) (last t : Int) : Prop where
  isThreshold : rule.IsThreshold t
  above : last < t
  least : ∀ u, rule.IsThreshold u → last < u → t ≤ u

theorem admissible_of_ofKey {key symbol : String} {rule : Rule}
    (h : ofKey key symbol = .ok rule) : rule.Admissible := by
  unfold ofKey at h
  split at h
  · cases h
  · next repeating digits _ =>
    split at h
    · cases h
    · next threshold _ =>
      split at h
      · cases h
      · next hinterval =>
        cases h
        intro hrepeating
        simp only [Bool.and_eq_true, beq_iff_eq, not_and] at hinterval
        exact Int.natCast_pos.mpr (Nat.pos_of_ne_zero (hinterval hrepeating))

/-- The next threshold of a repeating rule is the one that `nextThreshold` computes. -/
theorem isNext_of_repeating {rule : Rule} (hrepeating : rule.repeating = true)
    (hpos : 0 < rule.threshold) (last : Int) :
    rule.IsNext last ((last.fdiv rule.threshold + 1) * rule.threshold) := by
  refine ⟨?_, Int.lt_fdiv_add_one_mul_self last hpos, ?_⟩
  · rw [IsThreshold, if_pos hrepeating]
    exact Int.dvd_mul_left _ _
  · intro u hu habove
    rw [IsThreshold, if_pos hrepeating] at hu
    obtain ⟨k, rfl⟩ := hu
    -- `k` is the number of a multiple above `last`, hence above the floor of `last / threshold`
    have hfloor : last.fdiv rule.threshold * rule.threshold ≤ last := by
      rw [Int.fdiv_mul_self]
      have := Int.fmod_nonneg_of_pos last hpos
      omega
    have hk : last.fdiv rule.threshold < k := by
      apply Int.lt_of_mul_lt_mul_right (a := rule.threshold) _ hpos.le
      calc last.fdiv rule.threshold * rule.threshold ≤ last := hfloor
        _ < k * rule.threshold := by rwa [Int.mul_comm]
    rw [Int.mul_comm rule.threshold k]
    exact Int.mul_le_mul_of_nonneg_right hk hpos.le

/-- The crossing of an admissible rule is its next threshold above `last`, if `units` reaches it,
and there is none exactly when no threshold lies in the interval. -/
theorem firstCrossing_spec {rule : Rule} (hrule : rule.Admissible) (last units : Int) :
    ∃ crossing, rule.firstCrossing last units = .ok crossing ∧
      (∀ t, crossing = some t → rule.IsNext last t ∧ t ≤ units) ∧
      (crossing = none → ∀ t, rule.IsThreshold t → last < t → units < t) := by
  cases hrepeating : rule.repeating with
  | true =>
    have hpos := hrule hrepeating
    have hnext := isNext_of_repeating hrepeating hpos last
    set t := (last.fdiv rule.threshold + 1) * rule.threshold with ht
    have hoffer : rule.nextThreshold last = .ok t := by
      simp [nextThreshold, hrepeating, hpos.ne', ht]
    refine ⟨if last < t ∧ t ≤ units then some t else none, by simp [firstCrossing, hoffer],
      ?_, ?_⟩
    · intro t' ht'
      split at ht'
      · next hin => cases ht'; exact ⟨hnext, hin.2⟩
      · cases ht'
    · intro hnone u hu habove
      split at hnone
      · cases hnone
      · next hout =>
        have := hnext.least u hu habove
        have := hnext.above
        omega
  | false =>
    have hoffer : rule.nextThreshold last = .ok rule.threshold := by
      simp [nextThreshold, hrepeating]
    have honly : ∀ t, rule.IsThreshold t ↔ t = rule.threshold := by simp [IsThreshold, hrepeating]
    refine ⟨if last < rule.threshold ∧ rule.threshold ≤ units then some rule.threshold else none,
      by simp [firstCrossing, hoffer], ?_, ?_⟩
    · intro t ht
      split at ht
      · next hin =>
        cases ht
        refine ⟨⟨(honly _).mpr rfl, hin.1, ?_⟩, hin.2⟩
        intro u hu _
        exact ((honly u).mp hu).ge
      · cases ht
    · intro hnone u hu habove
      obtain rfl := (honly u).mp hu
      split at hnone
      · cases hnone
      · next hout => omega

end Rule

namespace Schedule

/-- All rules of a schedule are admissible. -/
def Admissible (s : Schedule) : Prop := ∀ rule ∈ s.rules, rule.Admissible

/-- Among `rules`, the threshold `t` of `rule` is the least above `last`, and no earlier rule has
it too. -/
structure Wins (rules : List Rule) (last : Int) (rule : Rule) (t : Int) : Prop where
  isThreshold : rule.IsThreshold t
  above : last < t
  least : ∀ other ∈ rules, ∀ u, other.IsThreshold u → last < u → t ≤ u
  first : ∃ before after, rules = before ++ rule :: after ∧ ∀ other ∈ before, ¬ other.IsThreshold t

/-- Some rule has a threshold above `last` that is not above `units`. -/
def Crosses (rules : List Rule) (last units : Int) : Prop :=
  ∃ rule ∈ rules, ∃ t, rule.IsThreshold t ∧ last < t ∧ t ≤ units

theorem Wins.mem {rules : List Rule} {last t : Int} {rule : Rule} (h : Wins rules last rule t) :
    rule ∈ rules := by
  obtain ⟨before, after, rfl, -⟩ := h.first
  simp

/-- A lower end has at most one winning threshold. -/
theorem Wins.threshold_unique {rules : List Rule} {last t t' : Int} {rule rule' : Rule}
    (h : Wins rules last rule t) (h' : Wins rules last rule' t') : t = t' :=
  le_antisymm (h.least rule' h'.mem t' h'.isThreshold h'.above)
    (h'.least rule h.mem t h.isThreshold h.above)

/-- An interval without thresholds can be cut off from below. -/
theorem crosses_iff_of_not_crosses {rules : List Rule} {low last units : Int} (hle : low ≤ last)
    (hquiet : ¬ Crosses rules low last) : Crosses rules low units ↔ Crosses rules last units := by
  constructor
  · rintro ⟨rule, hrule, t, ht, hlow, hunits⟩
    refine ⟨rule, hrule, t, ht, ?_, hunits⟩
    by_contra hlast
    exact hquiet ⟨rule, hrule, t, ht, hlow, by omega⟩
  · rintro ⟨rule, hrule, t, ht, hlast, hunits⟩
    exact ⟨rule, hrule, t, ht, by omega, hunits⟩

theorem Wins.of_not_crosses {rules : List Rule} {low last t : Int} {rule : Rule} (hle : low ≤ last)
    (hquiet : ¬ Crosses rules low last) (h : Wins rules last rule t) : Wins rules low rule t := by
  refine ⟨h.isThreshold, lt_of_le_of_lt hle h.above, ?_, h.first⟩
  intro other hother u hu hlow
  apply h.least other hother u hu
  by_contra hlast
  exact hquiet ⟨other, hother, u, hu, hlow, by omega⟩

theorem not_crosses_of_le {rules : List Rule} {last units : Int} (hle : units ≤ last) :
    ¬ Crosses rules last units := by
  rintro ⟨rule, -, t, -, hlast, hunits⟩
  omega

/-- A winner stays the winner when a rule without a lower threshold comes after it. -/
theorem Wins.append {rules : List Rule} {last t : Int} {winner : Rule}
    (h : Wins rules last winner t) {rule : Rule}
    (hlate : ∀ u, rule.IsThreshold u → last < u → t ≤ u) :
    Wins (rules ++ [rule]) last winner t := by
  obtain ⟨before, after, rfl, hfirst⟩ := h.first
  refine ⟨h.isThreshold, h.above, ?_, before, after ++ [rule], by simp, hfirst⟩
  intro other hother u hu habove
  rcases List.mem_append.mp hother with hold | hnew
  · exact h.least other hold u hu habove
  · obtain rfl := List.mem_singleton.mp hnew
    exact hlate u hu habove

/-- A rule whose next threshold is lower than all others wins over the rules before it. -/
theorem wins_append_self {rules : List Rule} {last t : Int} {rule : Rule}
    (hnext : rule.IsNext last t)
    (hlow : ∀ other ∈ rules, ∀ u, other.IsThreshold u → last < u → t < u) :
    Wins (rules ++ [rule]) last rule t := by
  refine ⟨hnext.isThreshold, hnext.above, ?_, rules, [], rfl, ?_⟩
  · intro other hother u hu habove
    rcases List.mem_append.mp hother with hold | hself
    · exact (hlow other hold u hu habove).le
    · obtain rfl := List.mem_singleton.mp hself
      exact hnext.least u hu habove
  · -- no earlier rule has the threshold, for all of theirs are higher
    intro other hother ht
    exact lt_irrefl t (hlow other hother t ht hnext.above)

/-- The crossing that a schedule has settled on after some of its rules. -/
def IsBest (rules : List Rule) (last units : Int) : Option (Int × Rule) → Prop
  | none => ¬ Crosses rules last units
  | some (t, rule) => Wins rules last rule t ∧ t ≤ units

/-- One more rule: the better of its crossing and the best so far is the best of all. -/
theorem isBest_better {rules : List Rule} {last units : Int} {best : Option (Int × Rule)}
    (hbest : IsBest rules last units best) (rule : Rule) {crossing : Option Int}
    (hsome : ∀ t, crossing = some t → rule.IsNext last t ∧ t ≤ units)
    (hnone : crossing = none → ∀ t, rule.IsThreshold t → last < t → units < t) :
    IsBest (rules ++ [rule]) last units (better best rule crossing) := by
  cases crossing with
  | none =>
    -- the rule offers nothing, so what was best stays best
    have hquiet := hnone rfl
    cases best with
    | none =>
      rintro ⟨other, hother, t, ht, habove, hle⟩
      rcases List.mem_append.mp hother with hold | hnew
      · exact hbest ⟨other, hold, t, ht, habove, hle⟩
      · obtain rfl := List.mem_singleton.mp hnew
        have := hquiet t ht habove
        omega
    | some pair =>
      obtain ⟨hwins, hle⟩ := hbest
      refine ⟨hwins.append ?_, hle⟩
      intro u hu habove
      have := hquiet u hu habove
      omega
  | some t =>
    obtain ⟨hnext, hle⟩ := hsome t rfl
    cases best with
    | none =>
      refine ⟨wins_append_self hnext ?_, hle⟩
      intro other hother u hu habove
      by_contra hlow
      exact hbest ⟨other, hother, u, hu, habove, by omega⟩
    | some pair =>
      obtain ⟨least, winner⟩ := pair
      obtain ⟨hwins, hleast⟩ := hbest
      -- of equal thresholds the earlier rule keeps its place
      by_cases hlt : t < least
      · rw [better, if_pos hlt]
        refine ⟨wins_append_self hnext ?_, hle⟩
        intro other hother u hu habove
        exact lt_of_lt_of_le hlt (hwins.least other hother u hu habove)
      · rw [better, if_neg hlt]
        refine ⟨hwins.append ?_, hleast⟩
        intro u hu habove
        have := hnext.least u hu habove
        omega

/-- Going through further rules settles on the best crossing of all of them. -/
theorem foldlM_better (last units : Int) (rest rules : List Rule) (best : Option (Int × Rule))
    (hadmissible : ∀ rule ∈ rest, rule.Admissible) (hbest : IsBest rules last units best) :
    ∃ final,
      rest.foldlM (fun best rule => return better best rule (← rule.firstCrossing last units)) best
        = .ok final ∧ IsBest (rules ++ rest) last units final := by
  -- `rules` are those gone through so far, and `best` is what they settled on
  induction rest generalizing rules best with
  | nil => exact ⟨best, rfl, by simpa using hbest⟩
  | cons rule rest ih =>
    obtain ⟨crossing, hcrossing, hsome, hnone⟩ :=
      rule.firstCrossing_spec (hadmissible rule (by simp)) last units
    obtain ⟨final, hfinal, hisBest⟩ := ih (rules ++ [rule]) (better best rule crossing)
      (fun other hother => hadmissible other (by simp [hother]))
      (isBest_better hbest rule hsome hnone)
    refine ⟨final, ?_, by simpa using hisBest⟩
    simp only [List.foldlM_cons, hcrossing]
    exact hfinal

/-- An admissible schedule always answers. It calls the boss of the winner if the winning threshold
is reached, and calls none exactly when the interval holds no threshold. -/
theorem next?_spec {s : Schedule} (hs : s.Admissible) (last units : Int) :
    ∃ answer, s.next? last units = .ok answer ∧
      (∀ rule, answer = some rule → ∃ t, Wins s.rules last rule t ∧ t ≤ units) ∧
      (answer = none ↔ ¬ Crosses s.rules last units) := by
  obtain ⟨final, hfinal, hbest⟩ := foldlM_better last units s.rules [] none hs
    (by rintro ⟨rule, hrule, -⟩; cases hrule)
  rw [List.nil_append] at hbest
  refine ⟨final.map Prod.snd, ?_, ?_, ?_⟩
  · rw [next?, firstCrossing, hfinal]
    rfl
  · intro rule hrule
    obtain ⟨⟨t, winner⟩, rfl, rfl⟩ := Option.map_eq_some_iff.mp hrule
    exact ⟨t, hbest⟩
  · rw [Option.map_eq_none_iff]
    cases final with
    | none => simpa [IsBest] using hbest
    | some pair =>
      obtain ⟨hwins, hle⟩ := hbest
      simp only [reduceCtorEq, false_iff, not_not]
      exact ⟨pair.2, hwins.mem, pair.1, hwins.isThreshold, hwins.above, hle⟩

end Schedule

end LevelForge.Boss
