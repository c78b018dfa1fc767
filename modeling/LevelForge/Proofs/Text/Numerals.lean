import Mathlib.Data.List.TakeWhile
import LevelForge.Text.Numeral

/-!
# Which texts are integer numerals

An integer is written as digits, one after the other or with single underscores between them, behind
a sign or none, and blanks may surround it. A text is read exactly if an integer is written in it
with no more digits than are allowed.

* `WritesDigits`, `WritesInteger`: how integers are written.
* `readInt_of_writesInteger`, `exists_writesInteger_of_readInt`: what is read.
* `readInt_eq_none_iff`: which texts are not read.
-/

namespace LevelForge.Text

/-- Digits are written in a text: a last one, and before it any with or without an underscore
behind them. -/
inductive WritesDigits : List Char → List Nat → Prop
  | last {c : Char} {digit : Nat} : digitValue? c = some digit → WritesDigits [c] [digit]
  | digit {c : Char} {digit : Nat} {rest : List Char} {digits : List Nat} :
      digitValue? c = some digit → WritesDigits rest digits →
      WritesDigits (c :: rest) (digit :: digits)
  | underscore {c : Char} {digit : Nat} {rest : List Char} {digits : List Nat} :
      digitValue? c = some digit → WritesDigits rest digits →
      WritesDigits (c :: '_' :: rest) (digit :: digits)

/-- An integer is written in a text: digits behind a sign or none, and blanks around them. -/
structure WritesInteger (text sign : List Char) (digits : List Nat) : Prop where
  sign_mem : sign ∈ [[], ['+'], ['-']]
  written : ∃ front body back, text = front ++ (sign ++ body) ++ back ∧
    (∀ c ∈ front ++ back, isNumeralBlank c = true) ∧ WritesDigits body digits

/-- The integer of a sign and digits. -/
def signedValue (sign : List Char) (digits : List Nat) : Int :=
  if sign = ['-'] then -(digitsValue digits : Int) else digitsValue digits

/-! ## Digits -/

section Digits

variable {text : List Char} {digits : List Nat}

theorem WritesDigits.exists_cons (h : WritesDigits text digits) :
    ∃ c rest digit, text = c :: rest ∧ digitValue? c = some digit := by
  cases h with
  | last hc => exact ⟨_, _, _, rfl, hc⟩
  | digit hc _ => exact ⟨_, _, _, rfl, hc⟩
  | underscore hc _ => exact ⟨_, _, _, rfl, hc⟩

theorem WritesDigits.exists_concat (h : WritesDigits text digits) :
    ∃ front c digit, text = front ++ [c] ∧ digitValue? c = some digit := by
  induction h with
  | last hc => exact ⟨[], _, _, rfl, hc⟩
  | @digit c _ _ _ _ _ ih =>
    obtain ⟨front, last, digit, rfl, hlast⟩ := ih
    exact ⟨c :: front, last, digit, rfl, hlast⟩
  | @underscore c _ _ _ _ _ ih =>
    obtain ⟨front, last, digit, rfl, hlast⟩ := ih
    exact ⟨c :: '_' :: front, last, digit, rfl, hlast⟩

theorem digitValue?_ne_of_eq_some {c other : Char} {digit : Nat} (h : digitValue? c = some digit)
    (hother : digitValue? other = none) : c ≠ other := by
  rintro rfl
  rw [h] at hother
  cases hother

/-- No digit is a blank. -/
theorem isNumeralBlank_of_digitValue? {c : Char} {digit : Nat} (h : digitValue? c = some digit) :
    isNumeralBlank c = false := by
  have hapart : ∀ start ∈ digitZeros, ∀ run ∈ blankRuns, run.2 < start ∨ start + 10 ≤ run.1 := by
    decide
  obtain ⟨start, hstart, -⟩ := Option.map_eq_some_iff.mp h
  have hrange := List.find?_some hstart
  rw [decide_eq_true_eq] at hrange
  have hblank : isBlank c = false := by
    rw [← Bool.not_eq_true, isBlank_iff]
    rintro ⟨run, hrun, hfirst, hlast⟩
    have := hapart start (List.mem_of_find?_eq_some hstart) run hrun
    omega
  rw [isNumeralBlank, hblank, Bool.false_and]

theorem writesDigits_of_readDigits (h : readDigits text = some digits) :
    WritesDigits text digits := by
  fun_induction readDigits text generalizing digits with
  | case1 => cases h
  | case2 c =>
    obtain ⟨digit, hc, rfl⟩ := Option.map_eq_some_iff.mp h
    exact .last hc
  | case3 c rest ih =>
    obtain ⟨digit, hc, hrest⟩ := Option.bind_eq_some_iff.mp h
    obtain ⟨digits', hdigits, hcons⟩ := Option.bind_eq_some_iff.mp hrest
    cases hcons
    exact .underscore hc (ih hdigits)
  | case4 c rest _ _ ih =>
    obtain ⟨digit, hc, hrest⟩ := Option.bind_eq_some_iff.mp h
    obtain ⟨digits', hdigits, hcons⟩ := Option.bind_eq_some_iff.mp hrest
    cases hcons
    exact .digit hc (ih hdigits)

theorem readDigits_of_writesDigits (h : WritesDigits text digits) :
    readDigits text = some digits := by
  induction h with
  | last hc => rw [readDigits, hc, Option.map_some]
  | @digit c _ rest _ hc hrest ih =>
    -- what follows begins with a digit, and so not with an underscore
    obtain ⟨first, rest', digit, rfl, hfirst⟩ := hrest.exists_cons
    have hne : first ≠ '_' := digitValue?_ne_of_eq_some hfirst (by decide)
    rw [readDigits, hc, ih]
    · rfl
    · nofun
    · rintro _ heq
      exact hne (List.cons.inj heq).1
  | underscore hc _ ih =>
    rw [readDigits, hc, ih]
    rfl

end Digits

/-! ## Trimming -/

section Trimming

variable {drop : Char → Bool}

/-- Trimming takes away what is to be dropped at the ends. -/
theorem exists_eq_append_trim (drop : Char → Bool) (text : List Char) :
    ∃ front back, text = front ++ trim drop text ++ back ∧ ∀ c ∈ front ++ back, drop c = true := by
  refine ⟨text.takeWhile drop, ((text.dropWhile drop).reverse.takeWhile drop).reverse, ?_, ?_⟩
  · rw [trim, List.append_assoc, ← List.reverse_append, List.takeWhile_append_dropWhile,
      List.reverse_reverse, List.takeWhile_append_dropWhile]
  · intro c hc
    rcases List.mem_append.mp hc with hc | hc
    · exact List.mem_takeWhile_imp hc
    · exact List.mem_takeWhile_imp (List.mem_reverse.mp hc)

/-- What is left after trimming is what begins and ends with something not to be dropped. -/
theorem trim_append {front core back : List Char} {first last : Char} {behind before : List Char}
    (hends : ∀ c ∈ front ++ back, drop c = true) (hbegins : core = first :: behind)
    (hfinishes : core = before ++ [last]) (hfirst : drop first = false)
    (hlast : drop last = false) : trim drop (front ++ core ++ back) = core := by
  have hfront : ∀ c ∈ front, drop c = true := fun c hc => hends c (List.mem_append_left _ hc)
  have hback : ∀ c ∈ back.reverse, drop c = true :=
    fun c hc => hends c (List.mem_append_right _ (List.mem_reverse.mp hc))
  rw [trim, List.append_assoc, List.dropWhile_append_of_pos hfront]
  have hkept : (core ++ back).dropWhile drop = core ++ back := by
    rw [hbegins, List.cons_append, List.dropWhile_cons_of_neg (by simp [hfirst])]
  rw [hkept, List.reverse_append, List.dropWhile_append_of_pos hback, hfinishes,
    List.reverse_append, List.reverse_singleton, List.singleton_append,
    List.dropWhile_cons_of_neg (by simp [hlast]), List.reverse_cons, List.reverse_reverse]

end Trimming

/-! ## Integers -/

section Integers

variable {sign : List Char} {digits : List Nat}

/-- A sign and digits are left after trimming. -/
theorem WritesInteger.exists_trim_eq {text : List Char} (h : WritesInteger text sign digits) :
    ∃ body, trim isNumeralBlank text = sign ++ body ∧ WritesDigits body digits := by
  obtain ⟨hsign, front, body, back, rfl, hblank, hbody⟩ := h
  refine ⟨body, ?_, hbody⟩
  obtain ⟨c, rest, digit, hcons, hc⟩ := hbody.exists_cons
  obtain ⟨before, last, digit', hconcat, hlast⟩ := hbody.exists_concat
  have hfinishes : sign ++ body = (sign ++ before) ++ [last] := by
    rw [hconcat, List.append_assoc]
  have hlast := isNumeralBlank_of_digitValue? hlast
  simp only [List.mem_cons, List.not_mem_nil, or_false] at hsign
  rcases hsign with rfl | rfl | rfl
  · exact trim_append hblank hcons hfinishes (isNumeralBlank_of_digitValue? hc) hlast
  · exact trim_append hblank rfl hfinishes (by decide) hlast
  · exact trim_append hblank rfl hfinishes (by decide) hlast

/-- Digits that are written are read if there are no more than are allowed. -/
theorem readMagnitude_of_writesDigits {body : List Char} (h : WritesDigits body digits) :
    readMagnitude body =
      if digits.length ≤ maxDigits then some (digitsValue digits) else none := by
  rw [readMagnitude, readDigits_of_writesDigits h]
  rfl

/-- An integer that is written is read if it has no more digits than are allowed. -/
theorem readInt_of_writesInteger {text : String} (h : WritesInteger text.toList sign digits) :
    readInt text =
      if digits.length ≤ maxDigits then some (signedValue sign digits) else none := by
  obtain ⟨body, htrim, hbody⟩ := h.exists_trim_eq
  have hmagnitude := readMagnitude_of_writesDigits hbody
  have hsign := h.sign_mem
  simp only [List.mem_cons, List.not_mem_nil, or_false] at hsign
  rw [readInt, htrim]
  rcases hsign with rfl | rfl | rfl
  · -- the first character is a digit and no sign
    obtain ⟨c, rest, digit, rfl, hc⟩ := hbody.exists_cons
    have hminus : c ≠ '-' := digitValue?_ne_of_eq_some hc (by decide)
    have hplus : c ≠ '+' := digitValue?_ne_of_eq_some hc (by decide)
    rw [List.nil_append]
    split
    · next heq => exact absurd (List.cons.inj heq).1 hminus
    · next heq => exact absurd (List.cons.inj heq).1 hplus
    · rw [hmagnitude]
      split <;> rfl
  · simp only [List.singleton_append, hmagnitude]
    split <;> rfl
  · simp only [List.singleton_append, hmagnitude]
    split <;> rfl

/-- A text that is read has an integer written in it. -/
theorem exists_writesInteger_of_readInt {text : String} {n : Int} (h : readInt text = some n) :
    ∃ sign digits, WritesInteger text.toList sign digits := by
  obtain ⟨front, back, htext, hblank⟩ := exists_eq_append_trim isNumeralBlank text.toList
  have hwritten (sign : List Char) {body : List Char} {f : Int → Int}
      (hsign : sign ∈ [[], ['+'], ['-']]) (htrim : trim isNumeralBlank text.toList = sign ++ body)
      (hread : (do let m ← readMagnitude body; pure (m : Int)).map f = some n) :
      ∃ sign digits, WritesInteger text.toList sign digits := by
    obtain ⟨_, hm, -⟩ := Option.map_eq_some_iff.mp hread
    obtain ⟨m, hm, -⟩ := Option.bind_eq_some_iff.mp hm
    obtain ⟨digits, hdigits, -⟩ := Option.bind_eq_some_iff.mp hm
    refine ⟨sign, digits, hsign, front, body, back, ?_, hblank, writesDigits_of_readDigits hdigits⟩
    rw [← htrim]
    exact htext
  unfold readInt at h
  split at h
  · next rest htrim => exact hwritten ['-'] (by simp) htrim h
  · next rest htrim => exact hwritten ['+'] (by simp) htrim h
  · exact hwritten [] (by simp) (List.nil_append _).symm h

/-- A text is not read exactly if no integer is written in it, or one with too many digits. -/
theorem readInt_eq_none_iff {text : String} :
    readInt text = none ↔ (∀ sign digits, ¬ WritesInteger text.toList sign digits) ∨
      ∃ sign digits, WritesInteger text.toList sign digits ∧ maxDigits < digits.length := by
  by_cases hwritten : ∃ sign digits, WritesInteger text.toList sign digits
  · obtain ⟨sign, digits, hwritten⟩ := hwritten
    have hread := readInt_of_writesInteger hwritten
    constructor
    · intro hnone
      refine .inr ⟨sign, digits, hwritten, ?_⟩
      by_contra hle
      rw [hnone, if_pos (Nat.le_of_not_lt hle)] at hread
      cases hread
    · rintro (hnone | ⟨sign', digits', hwritten', hlong⟩)
      · exact absurd hwritten (hnone sign digits)
      · rw [readInt_of_writesInteger hwritten', if_neg (Nat.not_le_of_lt hlong)]
  · refine iff_of_true ?_ (.inl fun sign digits h => hwritten ⟨sign, digits, h⟩)
    cases hread : readInt text with
    | none => rfl
    | some n => exact absurd (exists_writesInteger_of_readInt hread) hwritten

end Integers

end LevelForge.Text
