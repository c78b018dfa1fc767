import LevelForge.Proofs.Filled

/-!
# Looking up bosses

Rules are offered to a boss schedule one after the other, and until it is frozen it takes those
whose keys can be read. What it answers about an interval of progress is the rule of the first
threshold there, and looking through the interval in one go finds what looking through its parts
finds.

* `Rule.isWrittenIn_of_ofKey`: how the rule of a key is written there.
* `Schedule.rules_fillAll`: the rules of a schedule that was filled.
* `Schedule.exists_answers`: the answers of an admissible schedule.
-/

namespace LevelForge.Boss

/-! ## The keys of rules -/

namespace Rule

/-- The words that a key may begin with. A rule that repeats needs one. -/
def words (repeating : Bool) : List (List Char) :=
  if repeating then ["EVERY".toList] else ["AT".toList, []]

/-- A rule is written in a key: a word in letters of either case, perhaps a plus sign, and the
digits of its number. -/
structure IsWrittenIn (rule : Rule) (key : String) : Prop where
  written : ∃ word ∈ words rule.repeating, ∃ sign ∈ [[], ['+']], ∃ number digits,
    key.toList.map Char.toUpper = word ++ sign ++ number ∧ digits ≠ [] ∧
      number.mapM Text.digitValue? = some digits ∧ rule.threshold = Text.digitsValue digits
  -- the interval of a rule that repeats is positive
  admissible : rule.Admissible

/-- A key that is read is its word, perhaps a plus sign, and its digits. -/
theorem exists_of_readKey {key : List Char} {repeating : Bool} {digits : List Nat}
    (h : readKey key = some (repeating, digits)) :
    ∃ word ∈ words repeating, ∃ sign ∈ [[], ['+']], ∃ number,
      key.map Char.toUpper = word ++ sign ++ number ∧ digits ≠ [] ∧
        number.mapM Text.digitValue? = some digits := by
  revert h
  fun_cases readKey key with
  | case1 => nofun
  | case2 => nofun
  | case3 repeating' behind hsplit number digits' hne hdigits =>
    rintro ⟨⟩
    have hword : ∃ word ∈ words repeating, key.map Char.toUpper = word ++ behind := by
      split at hsplit
      · next heq => cases hsplit; exact ⟨_, List.mem_cons_self, heq⟩
      · next heq => cases hsplit; exact ⟨_, List.mem_cons_self, heq⟩
      · cases hsplit; exact ⟨[], by simp [words], rfl⟩
    have hsign : ∃ sign ∈ [[], ['+']], behind = sign ++ number := by
      unfold number
      split
      · exact ⟨['+'], by simp, rfl⟩
      · exact ⟨[], by simp, rfl⟩
    obtain ⟨word, hword, hkey⟩ := hword
    obtain ⟨sign, hsign, hbehind⟩ := hsign
    refine ⟨word, hword, sign, hsign, number, ?_, hne, hdigits⟩
    rw [hkey, hbehind, List.append_assoc]

theorem isWrittenIn_of_ofKey {key symbol : String} {rule : Rule}
    (h : ofKey key symbol = .ok rule) : rule.IsWrittenIn key ∧ rule.symbol = symbol := by
  have hadmissible := admissible_of_ofKey h
  unfold ofKey at h
  split at h
  · cases h
  · next repeating digits hread =>
    split at h
    · cases h
    · next threshold hthreshold =>
      split at h
      · cases h
      · cases h
        obtain ⟨word, hword, sign, hsign, number, hkey, hne, hdigits⟩ := exists_of_readKey hread
        refine ⟨⟨⟨word, hword, sign, hsign, number, digits, hkey, hne, hdigits, ?_⟩,
          hadmissible⟩, rfl⟩
        unfold Text.readNatural at hthreshold
        split at hthreshold
        · cases hthreshold
          rfl
        · cases hthreshold

end Rule

namespace Schedule

/-! ## Filling a schedule -/

/-- What may happen to a schedule while it is filled. -/
inductive Filling where
  -- the rule of a key and a boss symbol is offered
  | offer (key symbol : String)
  | freeze
  deriving DecidableEq

/-- The rule of an offer, if its key can be read. -/
def Filling.rule? : Filling → Option Rule
  | .offer key symbol => (Rule.ofKey key symbol).toOption
  | .freeze => none

/-- The schedule after a filling, or why it refuses it. -/
def fill (s : Schedule) : Filling → Except ScheduleFault Schedule
  | .offer key symbol => s.insert key symbol
  | .freeze => .ok s.freeze

/-- The schedule after some fillings. One that is refused leaves it as it was. -/
def fillAll (s : Schedule) : List Filling → Schedule
  | [] => s
  | filling :: rest => ((s.fill filling).toOption.getD s).fillAll rest

/-- A frozen schedule keeps its rules. -/
theorem fillAll_of_frozen {s : Schedule} (h : s.frozen = true) (fillings : List Filling) :
    s.fillAll fillings = s := by
  induction fillings with
  | nil => rfl
  | cons filling rest ih =>
    have hkept : (s.fill filling).toOption.getD s = s := by
      cases filling with
      | offer key symbol => rw [fill, insert, if_pos h]; rfl
      | freeze =>
        obtain ⟨rules, frozen⟩ := s
        cases h
        rfl
    rw [fillAll, hkept, ih]

/-- An offer to a schedule that is not frozen adds its rule, if there is one. -/
theorem getD_fill_offer {s : Schedule} (h : s.frozen = false) (key symbol : String) :
    (s.fill (.offer key symbol)).toOption.getD s =
      { s with rules := s.rules ++ (Filling.offer key symbol).rule?.toList } := by
  have hopen : ¬ s.frozen = true := Bool.eq_false_iff.mp h
  rw [fill, insert, if_neg hopen, Filling.rule?]
  cases Rule.ofKey key symbol with
  | error fault => simp [Except.toOption]
  | ok rule => rfl

/-- A schedule that is filled has the rules that it had, and behind them those of the offers that
came before it was frozen, as far as their keys can be read. -/
theorem rules_fillAll {s : Schedule} (h : s.frozen = false) (fillings : List Filling) :
    (s.fillAll fillings).rules =
      s.rules ++ (fillings.takeWhile (· ≠ .freeze)).filterMap Filling.rule? := by
  induction fillings generalizing s with
  | nil => simp [fillAll]
  | cons filling rest ih =>
    rw [fillAll]
    cases filling with
    | freeze =>
      have hkept : (s.freeze.fillAll rest) = s.freeze := fillAll_of_frozen rfl rest
      show (s.freeze.fillAll rest).rules = _
      rw [hkept]
      simp [freeze]
    | offer key symbol =>
      rw [getD_fill_offer h]
      refine (ih ?_).trans ?_
      · exact h
      · rw [List.takeWhile_cons_of_pos (by simp), List.filterMap_cons]
        cases Filling.rule? (.offer key symbol) <;> simp

theorem admissible_fillAll {s : Schedule} (h : s.Admissible) (fillings : List Filling) :
    (s.fillAll fillings).Admissible := by
  induction fillings generalizing s with
  | nil => exact h
  | cons filling rest ih =>
    rw [fillAll]
    refine ih ?_
    cases hfill : s.fill filling with
    | error fault => exact h
    | ok s' =>
      cases filling with
      | offer key symbol => exact Blueprint.admissible_of_insert h hfill
      | freeze => cases hfill; exact h

/-! ## Answers about intervals -/

/-- A lower end has at most one winner. -/
theorem Wins.rule_unique {rules : List Rule} {last t t' : Int} {rule rule' : Rule}
    (h : Wins rules last rule t) (h' : Wins rules last rule' t') : rule = rule' := by
  obtain rfl := h.threshold_unique h'
  obtain ⟨before, after, hrules, hfirst⟩ := h.first
  obtain ⟨before', after', hrules', hfirst'⟩ := h'.first
  rw [hrules] at hrules'
  -- neither of the two comes before the other
  rcases List.append_eq_append_iff.mp hrules' with ⟨between, rfl, heq⟩ | ⟨between, rfl, heq⟩
  · cases between with
    | nil => exact (List.cons.inj heq).1
    | cons first between =>
      cases heq
      exact absurd h.isThreshold (hfirst' rule (by simp))
  · cases between with
    | nil => exact (List.cons.inj heq).1.symm
    | cons first between =>
      cases heq
      exact absurd h'.isThreshold (hfirst rule' (by simp))

/-- What a schedule with some rules is to answer about an interval of progress: nothing exactly
where the interval holds no threshold, and otherwise the winner above its lower end. -/
structure Answers (rules : List Rule) (last units : Int) (answer : Option Rule) : Prop where
  none_iff : answer = none ↔ ¬ Crosses rules last units
  wins : ∀ rule, answer = some rule → ∃ t, Wins rules last rule t ∧ t ≤ units

namespace Answers

variable {rules : List Rule} {a b c : Int} {answer front behind : Option Rule}

theorem eq_of_wins {rule : Rule} {t : Int} (h : Answers rules a c answer)
    (hwins : Wins rules a rule t) (hle : t ≤ c) : answer = some rule := by
  cases answer with
  | none =>
    have hcrosses : Crosses rules a c :=
      ⟨rule, hwins.mem, t, hwins.isThreshold, hwins.above, hle⟩
    exact absurd hcrosses (h.none_iff.mp rfl)
  | some rule' =>
    obtain ⟨t', hwins', -⟩ := h.wins rule' rfl
    rw [hwins.rule_unique hwins']

/-- The answer about an interval is that about its front, or else that about the rest. -/
theorem eq_or (h : Answers rules a c answer) (hfront : Answers rules a b front)
    (hbehind : Answers rules b c behind) (hab : a ≤ b) (hbc : b ≤ c) :
    answer = front.or behind := by
  cases front with
  | some rule =>
    obtain ⟨t, hwins, hle⟩ := hfront.wins rule rfl
    exact h.eq_of_wins hwins (hle.trans hbc)
  | none =>
    -- the front holds no threshold, so that the lower end may be moved behind it
    have hquiet := hfront.none_iff.mp rfl
    rw [Option.none_or]
    cases behind with
    | none =>
      have hquiet' := hbehind.none_iff.mp rfl
      exact h.none_iff.mpr ((crosses_iff_of_not_crosses hab hquiet).not.mpr hquiet')
    | some rule =>
      obtain ⟨t, hwins, hle⟩ := hbehind.wins rule rfl
      exact h.eq_of_wins (hwins.of_not_crosses hab hquiet) hle

end Answers

/-- An admissible schedule has an answer about every interval, and the answers fit together. -/
theorem exists_answers {s : Schedule} (h : s.Admissible) :
    ∃ answer : Int → Int → Option Rule,
      (∀ last units, s.next? last units = .ok (answer last units)) ∧
      (∀ last units, Answers s.rules last units (answer last units)) ∧
      ∀ a b c, a ≤ b → b ≤ c → answer a c = (answer a b).or (answer b c) := by
  choose answer hnext hwins hnone using next?_spec h
  have hanswers (last units : Int) : Answers s.rules last units (answer last units) :=
    ⟨hnone last units, hwins last units⟩
  refine ⟨answer, hnext, hanswers, fun a b c hab hbc => ?_⟩
  exact (hanswers a c).eq_or (hanswers a b) (hanswers b c) hab hbc

end Schedule

end LevelForge.Boss
