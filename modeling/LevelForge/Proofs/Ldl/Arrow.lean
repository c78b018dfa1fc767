import LevelForge.Proofs.Ldl.Derivation
import LevelForge.Proofs.Text.Pattern

/-!
# The arrow of a body

The body of a directive is a run of key characters, an arrow and a run of value characters. A key
may end in hyphens, so a matcher that takes as much as it can for the key has to give back the
hyphen of the arrow. There is only one way to cut a body nevertheless: none of the characters of a
key or a value is a `>`, so the arrow is where the only `>` is.

* `Mapping.cuts_pattern_iff`: the cuts of a body are the mappings that are written in it.
* `Mapping.arrow_unique`: a text with one `>` has one arrow at most.
* `Mapping.ofBody?_isSome_iff_arrow`: which texts are bodies, and of what.
-/

namespace LevelForge.Ldl.Mapping

/-- The pattern of a body: a key, an arrow and a value. -/
def pattern : Text.Pattern := [.run isKeyChar, .fixed ['-', '>'], .run isValueChar]

/-- The parts of the body of a mapping. -/
def parts (m : Mapping) : List (List Char) := [m.key.toList, ['-', '>'], m.value.toList]

/-- The characters of a key, said one by one. -/
theorem isKeyChar_iff {c : Char} :
    isKeyChar c = true ↔ Text.isWordChar c = true ∨ c = '.' ∨ c = '+' ∨ c = '-' := by
  simp [isKeyChar, or_assoc]

/-- The characters of a value, said one by one. -/
theorem isValueChar_iff {c : Char} :
    isValueChar c = true ↔ Text.isWordChar c = true ∨ c = '.' := by
  simp [isValueChar]

/-- A value has no part of an arrow. -/
theorem notMem_of_isValue {value : List Char} (h : IsValue value) : '>' ∉ value := by
  intro hmem
  have := h.2 _ hmem
  revert this
  decide

/-- A key and a value with an arrow between them write a mapping. -/
theorem isWritten_ofList {body : String} {key value : List Char} (hkey : IsKey key)
    (hvalue : IsValue value) (hbody : body.toList = key ++ '-' :: '>' :: value) :
    IsWritten ⟨String.ofList key, String.ofList value⟩ body := by
  refine ⟨?_, ?_, ?_⟩
  · rwa [String.toList_ofList]
  · rwa [String.toList_ofList]
  · apply String.toList_injective
    rw [hbody, toList_render, String.toList_ofList, String.toList_ofList]

/-- A body is the key, the arrow and the value. -/
theorem IsWritten.toList_eq {m : Mapping} {body : String} (h : m.IsWritten body) :
    body.toList = m.key.toList ++ '-' :: '>' :: m.value.toList := by
  rw [h.body_eq, toList_render]

/-! ## Cuts of a body -/

/-- The cuts of a body are the mappings that are written in it. -/
theorem cuts_pattern_iff {body : String} {cut : List (List Char)} :
    pattern.Cuts cut body.toList ↔ ∃ m : Mapping, m.IsWritten body ∧ cut = m.parts := by
  constructor
  · rintro ⟨hmatched, htext⟩
    simp only [pattern, List.forall₂_cons_left_iff, List.forall₂_nil_left_iff] at hmatched
    obtain ⟨key, _, hkey, ⟨_, _, rfl, ⟨value, _, hvalue, rfl, rfl⟩, rfl⟩, rfl⟩ := hmatched
    refine ⟨_, isWritten_ofList hkey hvalue (htext.trans (by simp)), ?_⟩
    rw [parts, String.toList_ofList, String.toList_ofList]
  · rintro ⟨m, ⟨hkey, hvalue, rfl⟩, rfl⟩
    exact ⟨.cons hkey (.cons rfl (.cons hvalue .nil)), by simp [toList_render, parts]⟩

/-- A body is cut in one way. -/
theorem IsWritten.cut_eq {m : Mapping} {body : String} (h : m.IsWritten body)
    {cut : List (List Char)} (hcut : pattern.Cuts cut body.toList) : cut = m.parts := by
  obtain ⟨other, hother, rfl⟩ := cuts_pattern_iff.mp hcut
  rw [hother.unique h]

/-- What a matcher finds is the mapping that is read. -/
theorem match?_pattern (body : String) : pattern.match? body.toList = (ofBody? body).map parts := by
  cases hbody : ofBody? body with
  | some m =>
    have hwritten := ofBody?_eq_some_iff.mp hbody
    exact Text.Pattern.match?_eq_some (cuts_pattern_iff.mpr ⟨m, hwritten, rfl⟩)
      fun cut => hwritten.cut_eq
  | none =>
    apply Text.Pattern.match?_eq_none
    intro cut hcut
    obtain ⟨m, hwritten, -⟩ := cuts_pattern_iff.mp hcut
    rw [ofBody?_eq_some_iff.mpr hwritten] at hbody
    cases hbody

/-! ## The only arrow -/

/-- The arrow brings one head with it. -/
theorem count_arrow (key value : List Char) :
    (key ++ '-' :: '>' :: value).count '>' = key.count '>' + value.count '>' + 1 := by
  simp [List.count_append]
  omega

/-- A text with one `>` has one arrow at most. -/
theorem arrow_unique {key value before behind : List Char}
    (hone : (key ++ '-' :: '>' :: value).count '>' = 1)
    (h : key ++ '-' :: '>' :: value = before ++ '-' :: '>' :: behind) :
    before = key ∧ behind = value := by
  have hkey : '>' ∉ key := by
    rw [count_arrow] at hone
    exact List.count_eq_zero.mp (by omega)
  have hbefore : '>' ∉ before := by
    rw [h, count_arrow] at hone
    exact List.count_eq_zero.mp (by omega)
  have hsplit := splitArrow_append hkey value
  rw [h, splitArrow_append hbefore] at hsplit
  cases hsplit
  exact ⟨rfl, rfl⟩

/-- A body that writes a mapping has one arrowhead. -/
theorem IsWritten.count_eq_one {m : Mapping} {body : String} (h : m.IsWritten body) :
    body.toList.count '>' = 1 := by
  rw [h.toList_eq, count_arrow, List.count_eq_zero.mpr (notMem_of_isKey h.isKey),
    List.count_eq_zero.mpr (notMem_of_isValue h.isValue)]

/-- A text is a body exactly if it has one `>`, a hyphen stands right before it, and what stands
before and behind the two is a key and a value. A matcher that goes through the pattern of a body,
taking what it can and giving back what it must, finds the mapping that is read. The mapping has the
two sides of the arrow as key and value and is the body when it is written, the text has no other
arrow, and no other cut of it fits the pattern. -/
theorem ofBody?_isSome_iff_arrow (body : String) :
    ((ofBody? body).isSome = true ↔ body.toList.count '>' = 1 ∧
      ∃ key value, body.toList = key ++ '-' :: '>' :: value ∧
        (key ≠ [] ∧ ∀ c ∈ key, Text.isWordChar c = true ∨ c = '.' ∨ c = '+' ∨ c = '-') ∧
        value ≠ [] ∧ ∀ c ∈ value, Text.isWordChar c = true ∨ c = '.') ∧
    pattern.match? body.toList = (ofBody? body).map parts ∧
    ∀ m, ofBody? body = some m →
      m.key ++ "->" ++ m.value = body ∧
      (∀ before behind, body.toList = before ++ '-' :: '>' :: behind →
        before = m.key.toList ∧ behind = m.value.toList) ∧
      ∀ cut, pattern.Cuts cut body.toList → cut = m.parts := by
  refine ⟨?_, match?_pattern body, ?_⟩
  · simp only [← isKeyChar_iff, ← isValueChar_iff]
    rw [Option.isSome_iff_exists]
    constructor
    · rintro ⟨m, hm⟩
      have hwritten := ofBody?_eq_some_iff.mp hm
      exact ⟨hwritten.count_eq_one, _, _, hwritten.toList_eq, hwritten.isKey, hwritten.isValue⟩
    · rintro ⟨-, key, value, hbody, hkey, hvalue⟩
      exact ⟨_, ofBody?_eq_some_iff.mpr (isWritten_ofList hkey hvalue hbody)⟩
  · intro m hm
    have hwritten := ofBody?_eq_some_iff.mp hm
    refine ⟨hwritten.body_eq.symm, fun before behind harrow => ?_, fun cut => hwritten.cut_eq⟩
    have hone := hwritten.count_eq_one
    rw [hwritten.toList_eq] at hone harrow
    exact arrow_unique hone harrow

/-- The key of a body may end in a hyphen. -/
theorem ofBody?_isSome_iff_arrow_hyphen :
    pattern.match? "a-->b".toList = some ["a-".toList, ['-', '>'], ['b']] ∧
    "a-" ++ "->" ++ "b" = "a-->b" ∧ ¬ pattern.Cuts [['a'], ['-', '>'], ['b']] "a-->b".toList := by
  obtain ⟨-, hmatch, hsome⟩ := ofBody?_isSome_iff_arrow "a-->b"
  have hbody : ofBody? "a-->b" = some ⟨"a-", "b"⟩ := by decide +kernel
  obtain ⟨hrender, -, hcuts⟩ := hsome _ hbody
  rw [hbody] at hmatch
  exact ⟨hmatch, hrender, fun hcut => absurd (hcuts _ hcut) (by decide)⟩

end LevelForge.Ldl.Mapping
