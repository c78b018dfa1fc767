import LevelForge.Text.Points

/-!
# Which texts can be encoded

A list of code points is a text of characters or holds a surrogate, and it can be encoded exactly if
it is a text of characters.

* `text?_eq_some_iff`: the characters of a list of code points.
* `exists_encode_iff`: which lists of code points can be encoded.
-/

namespace LevelForge.Text.Points

/-- The code point of a character is the one of this character alone. -/
theorem char?_eq_some_iff {code : Fin 1114112} {c : Char} :
    char? code = some c ↔ code = ofChar c := by
  rw [char?, Option.ite_none_right_eq_some, Option.some_inj]
  constructor
  · rintro ⟨hvalid, rfl⟩
    refine Fin.ext ?_
    rw [ofChar, Char.ofNat, dif_pos hvalid]
    rfl
  · rintro rfl
    exact ⟨c.valid, c.ofNat_toNat⟩

/-- The characters of a list of code points are those whose code points it holds. -/
theorem mapM_char?_eq_some_iff {codes : List (Fin 1114112)} {chars : List Char} :
    codes.mapM char? = some chars ↔ codes = chars.map ofChar := by
  induction codes generalizing chars with
  | nil => cases chars <;> simp
  | cons code rest ih =>
    rw [List.mapM_cons, Option.bind_eq_bind, Option.bind_eq_some_iff]
    constructor
    · rintro ⟨c, hc, hrest⟩
      obtain ⟨others, hothers, rfl⟩ : ∃ others, rest.mapM char? = some others ∧
          c :: others = chars := by simpa [Option.bind_eq_some_iff] using hrest
      rw [List.map_cons, char?_eq_some_iff.mp hc, ih.mp hothers]
    · intro h
      obtain ⟨c, others, rfl, hc, hothers⟩ := List.map_eq_cons_iff.mp h.symm
      exact ⟨c, char?_eq_some_iff.mpr hc.symm, by rw [ih.mpr hothers.symm]; rfl⟩

/-- A list of code points has the characters of a text exactly if it is that text. -/
theorem text?_eq_some_iff {p : Points} {text : String} :
    p.text? = some text ↔ p = ofText text := by
  obtain ⟨codes⟩ := p
  rw [text?, Option.map_eq_some_iff, ofText, mk.injEq]
  constructor
  · rintro ⟨chars, hchars, rfl⟩
    rw [String.toList_ofList]
    exact mapM_char?_eq_some_iff.mp hchars
  · intro hcodes
    exact ⟨text.toList, mapM_char?_eq_some_iff.mpr hcodes, String.ofList_toList⟩

/-- A text of characters is encoded as such. -/
theorem encode_ofText (text : String) : (ofText text).encode = .ok text.toUTF8 := by
  rw [encode, text?_eq_some_iff.mpr rfl]

/-- A text can be encoded exactly if it is a text of characters. -/
theorem exists_encode_iff {p : Points} :
    (∃ bytes, p.encode = .ok bytes) ↔ ∃ text, p = ofText text := by
  constructor
  · rintro ⟨bytes, h⟩
    rw [encode] at h
    split at h
    · next text htext => exact ⟨text, text?_eq_some_iff.mp htext⟩
    · cases h
  · rintro ⟨text, rfl⟩
    exact ⟨_, encode_ofText text⟩

end LevelForge.Text.Points
