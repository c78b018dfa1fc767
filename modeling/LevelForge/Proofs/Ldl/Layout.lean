import LevelForge.Ldl.Lexer

/-!
# Layout

A text lays out its lexemes: it is the lexemes in order with blanks in between, where a run of solid
characters ends at a blank, at a brace or with the text. Which lexemes a text has is the only thing
its layout says, and it says it of one list of lexemes.

* `LaidOut`: lexemes laid out in a text.
* `map_chars_lexemes_iff`: the lexemes that are found are those that are laid out.
* `Directive.ofLexeme?_eq_some_iff`: which lexemes are directives.
-/

namespace LevelForge.Ldl

/-! ## Texts -/

/-- Lexemes, and a text in which they are laid out. -/
inductive LaidOut : List (List Char) → List Char → Prop
  | nil : LaidOut [] []
  | blank {c : Char} {ls : List (List Char)} {text : List Char} :
      Text.isBlank c = true → LaidOut ls text → LaidOut ls (c :: text)
  | brace {c : Char} {ls : List (List Char)} {text : List Char} :
      isBrace c = true → LaidOut ls text → LaidOut ([c] :: ls) (c :: text)
  | run {run : List Char} {ls : List (List Char)} {text : List Char} :
      run ≠ [] → (∀ c ∈ run, isSolid c = true) → (∀ c ∈ text.head?, isSolid c = false) →
      LaidOut ls text → LaidOut (run :: ls) (run ++ text)

/-- A solid character is neither blank nor a brace. -/
theorem isSolid_iff {c : Char} :
    isSolid c = true ↔ Text.isBlank c = false ∧ isBrace c = false := by
  simp [isSolid]

/-- A brace is not blank. -/
theorem isBlank_eq_false_of_isBrace {c : Char} (h : isBrace c = true) : Text.isBlank c = false := by
  simp only [isBrace, Bool.or_eq_true, beq_iff_eq] at h
  rcases h with rfl | rfl <;> decide

/-- A run is taken as far as it goes. -/
theorem span_run {run text : List Char} (hrun : ∀ c ∈ run, isSolid c = true)
    (hend : ∀ c ∈ text.head?, isSolid c = false) :
    (run ++ text).takeWhile isSolid = run ∧ (run ++ text).dropWhile isSolid = text := by
  rw [List.takeWhile_append_of_pos hrun, List.dropWhile_append_of_pos hrun]
  cases text with
  | nil => simp
  | cons c text => simp [hend c rfl]

/-- A text lays out its own lexemes. -/
theorem laidOut_lexemes (p : Position) (text : List Char) :
    LaidOut ((lexemes p text).map Lexeme.chars) text := by
  fun_induction lexemes p text with
  | case1 => exact .nil
  | case2 p c rest hblank ih => exact ih.blank hblank
  | case3 p c rest hblank hbrace ih => exact ih.brace hbrace
  | case4 p c rest hblank hbrace run ih =>
    have hsolid : isSolid c = true :=
      isSolid_iff.mpr ⟨Bool.eq_false_iff.mpr hblank, Bool.eq_false_iff.mpr hbrace⟩
    have htext : c :: rest = run ++ rest.dropWhile isSolid :=
      congrArg (c :: ·) List.takeWhile_append_dropWhile.symm
    rw [htext]
    refine .run (List.cons_ne_nil _ _) (fun c' hc' => ?_) (fun c' hc' => ?_) ih
    · rcases List.mem_cons.mp hc' with rfl | hc'
      · exact hsolid
      · exact List.all_eq_true.mp List.all_takeWhile c' hc'
    · have hstop := List.head?_dropWhile_not isSolid rest
      rwa [hc'] at hstop

/-- The lexemes that are laid out in a text are its own, from wherever it starts. -/
theorem LaidOut.map_chars_lexemes {ls : List (List Char)} {text : List Char}
    (h : LaidOut ls text) (p : Position) : (lexemes p text).map Lexeme.chars = ls := by
  induction h generalizing p with
  | nil => rw [lexemes]; rfl
  | blank hblank _ ih => rw [lexemes, if_pos hblank, ih]
  | brace hbrace _ ih =>
    have hblank : ¬ Text.isBlank _ = true := Bool.not_eq_true _ ▸ isBlank_eq_false_of_isBrace hbrace
    rw [lexemes, if_neg hblank, if_pos hbrace, List.map_cons, ih]
  | @run run ls text hne hrun hend _ ih =>
    obtain ⟨c, run, rfl⟩ := List.exists_cons_of_ne_nil hne
    obtain ⟨hblank, hbrace⟩ := isSolid_iff.mp (hrun c List.mem_cons_self)
    obtain ⟨htake, hdrop⟩ :=
      span_run (fun c' hc' => hrun c' (List.mem_cons_of_mem _ hc')) hend
    rw [List.cons_append, lexemes, if_neg (by simp [hblank]), if_neg (by simp [hbrace])]
    dsimp only
    rw [htake, hdrop, List.map_cons, ih]

/-- A text has the lexemes that it is laid out as, and no others. -/
theorem map_chars_lexemes_iff {p : Position} {text : List Char} {ls : List (List Char)} :
    (lexemes p text).map Lexeme.chars = ls ↔ LaidOut ls text := by
  constructor
  · rintro rfl
    exact laidOut_lexemes p text
  · exact fun h => h.map_chars_lexemes p

/-! ## Directives -/

namespace Directive

/-- The lexeme of a directive is its opener and a body that is not empty. -/
theorem body?_eq_some_iff {d : Directive} {lexeme body : List Char} :
    d.body? lexeme = some body ↔ lexeme = d.opener ++ body ∧ body ≠ [] := by
  unfold body?
  constructor
  · intro h
    split at h
    · next hopens =>
      rw [Bool.and_eq_true, List.isPrefixOf_iff_prefix, decide_eq_true_eq] at hopens
      cases h
      refine ⟨(List.prefix_iff_eq_append.mp hopens.1).symm, fun hnil => ?_⟩
      exact Nat.not_le.mpr hopens.2 (List.drop_eq_nil_iff.mp hnil)
    · cases h
  · rintro ⟨rfl, hne⟩
    have hlonger : d.opener.length < (d.opener ++ body).length := by
      rw [List.length_append]
      exact Nat.lt_add_of_pos_right (List.length_pos_iff.mpr hne)
    rw [if_pos, List.drop_left]
    rw [Bool.and_eq_true, List.isPrefixOf_iff_prefix, decide_eq_true_eq]
    exact ⟨List.prefix_append _ _, hlonger⟩

/-- No opener starts with another one. -/
theorem eq_of_opener_append {d d' : Directive} {body body' : List Char}
    (h : d.opener ++ body = d'.opener ++ body') : d = d' := by
  have hopeners : ∀ d d' : Directive, d.opener <+: d'.opener → d = d' := by
    intro d d'
    cases d <;> cases d' <;> decide
  have hd' : d'.opener <+: d.opener ++ body := h ▸ List.prefix_append _ _
  rcases List.prefix_or_prefix_of_prefix (List.prefix_append d.opener body) hd' with h | h
  · exact hopeners d d' h
  · exact (hopeners d' d h).symm

/-- A lexeme is a directive exactly if it is the opener and a body behind it. -/
theorem ofLexeme?_eq_some_iff {d : Directive} {lexeme body : List Char} :
    ofLexeme? lexeme = some (d, body) ↔ lexeme = d.opener ++ body ∧ body ≠ [] := by
  have hforward {d : Directive} {body : List Char} (h : ofLexeme? lexeme = some (d, body)) :
      lexeme = d.opener ++ body ∧ body ≠ [] := by
    obtain ⟨d', -, h⟩ := List.exists_of_findSome?_eq_some h
    obtain ⟨body', hbody, heq⟩ := Option.map_eq_some_iff.mp h
    cases heq
    exact body?_eq_some_iff.mp hbody
  refine ⟨hforward, fun h => ?_⟩
  -- some directive is found, and it can be no other one
  have hsome : (ofLexeme? lexeme).isSome = true := by
    refine List.findSome?_isSome_iff.mpr ⟨d, by cases d <;> decide, ?_⟩
    rw [body?_eq_some_iff.mpr h]
    rfl
  obtain ⟨⟨d', body'⟩, hfound⟩ := Option.isSome_iff_exists.mp hsome
  have heq := h.1.symm.trans (hforward hfound).1
  obtain rfl := eq_of_opener_append heq
  rw [hfound, List.append_cancel_left heq]

/-- A lexeme is no directive if it is no opener with a body behind it. -/
theorem ofLexeme?_eq_none_iff {lexeme : List Char} :
    ofLexeme? lexeme = none ↔ ∀ (d : Directive) (body : List Char), body ≠ [] →
      lexeme ≠ d.opener ++ body := by
  rw [Option.eq_none_iff_forall_not_mem, Prod.forall]
  simp only [Option.mem_def, ofLexeme?_eq_some_iff]
  exact forall₂_congr fun d body => not_and'

end Directive

end LevelForge.Ldl
