import LevelForge.Proofs.Ldl.Layout
import LevelForge.Proofs.Ldl.Lines

/-!
# The tokens of a text

Tokens lose nothing of a text but its blanks. The text falls into pieces, each of them a brace or a
longest run of solid characters, and every token stands where it says, the parts of a directive at
their own places inside their piece. The tokens end with the end of the text, which comes again and
again when more is asked for.

* `Stretch.Reads`: the tokens of a piece.
* `Parts`: pieces that take a text apart.
* `tokenize_eq_flatMap_parts`: the tokens of a text are those of its pieces.
-/

namespace LevelForge.Ldl

/-! ## Pieces -/

/-- A stretch of a text, with what is before and behind it. -/
structure Stretch (text : List Char) where
  before : List Char
  chars : List Char
  behind : List Char
  eq_text : before ++ chars ++ behind = text

namespace Stretch

variable {text : List Char}

/-- How many characters come before a stretch. -/
def start (s : Stretch text) : Nat := s.before.length

/-- How many characters come before the end of a stretch. -/
def stop (s : Stretch text) : Nat := s.before.length + s.chars.length

/-- A run of solid characters that goes as far as it can in both directions. -/
structure IsRun (s : Stretch text) : Prop where
  ne_nil : s.chars ≠ []
  solid : ∀ c ∈ s.chars, isSolid c = true
  starts : ∀ c ∈ s.before.getLast?, isSolid c = false
  ends : ∀ c ∈ s.behind.head?, isSolid c = false

/-- The tokens of a piece, which is a brace or a longest run. A run is a directive if a body follows
its opener. -/
inductive Reads (s : Stretch text) : List Token → Prop
  | opening (h : s.chars = ['\x7b']) :
      Reads s [⟨.opening, some (String.ofList s.chars), .behind s.before⟩]
  | closing (h : s.chars = ['\x7d']) :
      Reads s [⟨.closing, some (String.ofList s.chars), .behind s.before⟩]
  | directive {d : Directive} {body : List Char} (hrun : s.IsRun)
      (h : s.chars = '#' :: d.keyword ++ "::".toList ++ body) (hbody : body ≠ []) :
      Reads s
        [⟨d.tokenKind, some (String.ofList s.chars), .behind s.before⟩,
         ⟨.delimiter, some "::", .behind (s.before ++ '#' :: d.keyword)⟩,
         ⟨.mapping, some (String.ofList body),
           .behind (s.before ++ '#' :: d.keyword ++ "::".toList)⟩]
  | raw (hrun : s.IsRun)
      (h : ∀ (d : Directive) (body : List Char), body ≠ [] →
        s.chars ≠ '#' :: d.keyword ++ "::".toList ++ body) :
      Reads s [⟨.raw, some (String.ofList s.chars), .behind s.before⟩]

theorem IsRun.ne_brace {s : Stretch text} (h : s.IsRun) {c : Char} (hc : isBrace c = true) :
    s.chars ≠ [c] := by
  intro heq
  have hsolid := h.solid c (heq ▸ List.mem_singleton_self c)
  rw [(isSolid_iff.mp hsolid).2] at hc
  cases hc

/-- A brace, or a longest run, is read as the tokens of its lexeme. -/
theorem reads_tokens {s : Stretch text} (h : s.chars = ['\x7b'] ∨ s.chars = ['\x7d'] ∨ s.IsRun) :
    s.Reads (Lexeme.mk s.chars (.behind s.before)).tokens := by
  unfold Lexeme.tokens
  simp only [Position.advance_behind]
  rcases h with h | h | hrun
  · rw [if_pos h]
    exact .opening h
  · rw [if_neg (by rw [h]; decide), if_pos h]
    exact .closing h
  · rw [if_neg (hrun.ne_brace rfl), if_neg (hrun.ne_brace rfl)]
    cases hfound : Directive.ofLexeme? s.chars with
    | none => exact .raw hrun (Directive.ofLexeme?_eq_none_iff.mp hfound)
    | some found =>
      obtain ⟨d, body⟩ := found
      obtain ⟨hchars, hbody⟩ := Directive.ofLexeme?_eq_some_iff.mp hfound
      exact .directive hrun hchars hbody

/-- Where the tokens of a piece stand, and what they stand for. -/
theorem Reads.exists_value {s : Stretch text} {ts : List Token} (h : s.Reads ts) {t : Token}
    (ht : t ∈ ts) :
    ∃ inside value rest, s.chars = inside ++ value ++ rest ∧ value ≠ [] ∧
      t.value = some (String.ofList value) ∧ t.position = .behind (s.before ++ inside) := by
  have hwhole {kind : TokenKind} (hne : s.chars ≠ [])
      (ht : t = ⟨kind, some (String.ofList s.chars), .behind s.before⟩) :
      ∃ inside value rest, s.chars = inside ++ value ++ rest ∧ value ≠ [] ∧
        t.value = some (String.ofList value) ∧ t.position = .behind (s.before ++ inside) := by
    refine ⟨[], s.chars, [], by simp, hne, ?_⟩
    rw [ht, List.append_nil]
    exact ⟨rfl, rfl⟩
  cases h with
  | opening hchars => exact hwhole (by simp [hchars]) (List.mem_singleton.mp ht)
  | closing hchars => exact hwhole (by simp [hchars]) (List.mem_singleton.mp ht)
  | raw hrun _ => exact hwhole hrun.ne_nil (List.mem_singleton.mp ht)
  | @directive d body hrun hchars hbody =>
    simp only [List.mem_cons, List.not_mem_nil, or_false] at ht
    rcases ht with ht | rfl | rfl
    · exact hwhole hrun.ne_nil ht
    · exact ⟨'#' :: d.keyword, "::".toList, body, hchars, by decide, rfl, rfl⟩
    · exact ⟨'#' :: d.keyword ++ "::".toList, body, [], by rw [hchars, List.append_nil], hbody, rfl,
        by rw [List.append_assoc]⟩

end Stretch

/-! ## Taking a text apart -/

/-- Pieces that take a text apart from a place on: they come one behind the other with their tokens,
and what belongs to none of them is blank. -/
structure Parts (text : List Char) (start : Nat) (pieces : List (Stretch text × List Token)) :
    Prop where
  reads : ∀ piece ∈ pieces, piece.1.Reads piece.2
  behind : ∀ piece ∈ pieces, start ≤ piece.1.start
  ordered : pieces.Pairwise fun piece next => piece.1.stop ≤ next.1.start
  covers : ∀ before c behind, before ++ c :: behind = text → start ≤ before.length →
    Text.isBlank c = true ∨
      ∃ piece ∈ pieces, piece.1.start ≤ before.length ∧ before.length < piece.1.stop

namespace Parts

variable {text : List Char} {pieces : List (Stretch text × List Token)}

theorem nil : Parts text text.length [] where
  reads := nofun
  behind := nofun
  ordered := .nil
  covers := by
    rintro before c behind rfl hle
    rw [List.length_append, List.length_cons] at hle
    omega

/-- A blank belongs to no piece. -/
theorem blank {before behind : List Char} {c : Char} (h : before ++ c :: behind = text)
    (hblank : Text.isBlank c = true) (hparts : Parts text (before.length + 1) pieces) :
    Parts text before.length pieces where
  reads := hparts.reads
  behind piece hpiece := Nat.le_of_succ_le (hparts.behind piece hpiece)
  ordered := hparts.ordered
  covers before' c' behind' h' hle := by
    rcases Nat.eq_or_lt_of_le hle with heq | hlt
    · have hhead := (List.append_inj (h.trans h'.symm) heq).2
      cases hhead
      exact .inl hblank
    · exact hparts.covers before' c' behind' h' hlt

/-- A piece comes before those behind its end. -/
theorem cons {s : Stretch text} {ts : List Token} (hreads : s.Reads ts)
    (hparts : Parts text s.stop pieces) : Parts text s.start ((s, ts) :: pieces) where
  reads := List.forall_mem_cons.mpr ⟨hreads, hparts.reads⟩
  behind := List.forall_mem_cons.mpr
    ⟨le_rfl, fun piece hpiece => (Nat.le_add_right _ _).trans (hparts.behind piece hpiece)⟩
  ordered := List.pairwise_cons.mpr ⟨hparts.behind, hparts.ordered⟩
  covers before c behind h hle := by
    by_cases hlt : before.length < s.stop
    · exact .inr ⟨(s, ts), List.mem_cons_self, hle, hlt⟩
    · rcases hparts.covers before c behind h (Nat.not_lt.mp hlt) with hblank | ⟨piece, hpiece, hin⟩
      · exact .inl hblank
      · exact .inr ⟨piece, List.mem_cons_of_mem _ hpiece, hin⟩

/-- The tokens of a piece, and of what comes behind it. -/
theorem exists_cons {s : Stretch text} {tokens : List Token}
    (h : s.chars = ['\x7b'] ∨ s.chars = ['\x7d'] ∨ s.IsRun)
    (hbehind : ∃ pieces, Parts text (s.before ++ s.chars).length pieces ∧
      tokens = pieces.flatMap Prod.snd) :
    ∃ pieces, Parts text s.before.length pieces ∧
      (Lexeme.mk s.chars (.behind s.before)).tokens ++ tokens = pieces.flatMap Prod.snd := by
  obtain ⟨pieces, hparts, rfl⟩ := hbehind
  rw [List.length_append] at hparts
  exact ⟨(s, _) :: pieces, .cons (Stretch.reads_tokens h) hparts, rfl⟩

end Parts

/-- The lexemes of the rest of a text take it apart, if the rest does not start inside a run. -/
theorem exists_parts {text before rest : List Char} {place : Position}
    (h : before ++ rest = text) (hplace : Position.behind before = place)
    (hstart : ∀ c ∈ before.getLast?, ∀ c' ∈ rest.head?, isSolid c = true → isSolid c' = false) :
    ∃ pieces, Parts text before.length pieces ∧
      (lexemes place rest).flatMap Lexeme.tokens = pieces.flatMap Prod.snd := by
  -- `before` is what was read so far, up to `place`
  fun_induction lexemes place rest generalizing before with
  | case1 place =>
    rw [List.append_nil] at h
    subst h
    exact ⟨[], .nil, rfl⟩
  | case2 place c rest hblank ih =>
    obtain ⟨pieces, hparts, htokens⟩ :=
      ih (by simpa using h) (hplace ▸ (Position.advance_behind before [c]).symm)
        (by simp [isSolid, hblank])
    rw [List.length_append] at hparts
    exact ⟨pieces, .blank h hblank hparts, htokens⟩
  | case3 place c rest hblank hbrace ih =>
    subst hplace
    have hsplit : before ++ [c] ++ rest = text := by simpa using h
    let s : Stretch text := ⟨before, [c], rest, hsplit⟩
    have hpiece : s.chars = ['\x7b'] ∨ s.chars = ['\x7d'] ∨ s.IsRun := by
      rw [isBrace, Bool.or_eq_true, beq_iff_eq, beq_iff_eq] at hbrace
      rcases hbrace with rfl | rfl
      · exact .inl rfl
      · exact .inr (.inl rfl)
    have hbehind := ih hsplit (Position.advance_behind before [c]).symm (by simp [isSolid, hbrace])
    exact Parts.exists_cons (s := s) hpiece hbehind
  | case4 place c rest hblank hbrace run =>
    rename_i ih
    subst hplace
    have hsplit : before ++ run ++ rest.dropWhile isSolid = text := by
      rw [← h, List.append_assoc, List.cons_append, List.takeWhile_append_dropWhile]
    have hends : ∀ c' ∈ (rest.dropWhile isSolid).head?, isSolid c' = false := by
      intro c' hc'
      have hstop := List.head?_dropWhile_not isSolid rest
      rwa [hc'] at hstop
    have hsolid : isSolid c = true :=
      isSolid_iff.mpr ⟨Bool.eq_false_iff.mpr hblank, Bool.eq_false_iff.mpr hbrace⟩
    let s : Stretch text := ⟨before, run, rest.dropWhile isSolid, hsplit⟩
    have hrun : s.IsRun := by
      refine ⟨List.cons_ne_nil _ _, ?_, ?_, hends⟩
      · exact List.forall_mem_cons.mpr ⟨hsolid, List.all_eq_true.mp List.all_takeWhile⟩
      · intro c' hc'
        by_contra hsolid'
        have hstop := hstart c' hc' c rfl (by simpa using hsolid')
        cases hsolid.symm.trans hstop
    have hbehind := ih hsplit (Position.advance_behind before run).symm
      (fun _ _ c' hc' _ => hends c' hc')
    exact Parts.exists_cons (s := s) (.inr (.inr hrun)) hbehind

/-! ## Places of tokens -/

/-- A token stands in a text: in its line and column the text starts with what the token stands
for. -/
def Token.StandsIn (t : Token) (text : List Char) : Prop :=
  ∃ value line, t.value = some value ∧ value ≠ "" ∧
    0 < t.position.line ∧ 0 < t.position.column ∧
    (text.splitOn '\n')[t.position.line - 1]? = some line ∧
    value.toList <+: line.drop (t.position.column - 1)

namespace Stretch

variable {text : List Char} {s : Stretch text} {ts : List Token} {t : Token}

theorem Reads.newline_not_mem (h : s.Reads ts) : '\n' ∉ s.chars := by
  have hrun (hrun : s.IsRun) : '\n' ∉ s.chars := fun hmem => by
    cases hrun.solid _ hmem
  cases h with
  | opening hchars => rw [hchars]; decide
  | closing hchars => rw [hchars]; decide
  | directive h _ _ => exact hrun h
  | raw h _ => exact hrun h

/-- A token of a piece is behind a front of the text that ends inside the piece. -/
theorem Reads.exists_front (h : s.Reads ts) (ht : t ∈ ts) :
    ∃ front, front <+: text ∧ s.start ≤ front.length ∧ front.length < s.stop ∧
      t.position = .behind front := by
  obtain ⟨inside, value, rest, hchars, hne, -, hplace⟩ := h.exists_value ht
  refine ⟨s.before ++ inside, ⟨value ++ rest ++ s.behind, ?_⟩, ?_, ?_, hplace⟩
  · refine Eq.trans ?_ s.eq_text
    simp [hchars]
  · rw [start, List.length_append]
    omega
  · have := List.length_pos_iff.mpr hne
    rw [stop, hchars]
    simp only [List.length_append]
    omega

/-- The tokens of a piece stand in the text. -/
theorem Reads.standsIn (h : s.Reads ts) (ht : t ∈ ts) : t.StandsIn text := by
  obtain ⟨inside, value, rest, hchars, hne, hvalue, hplace⟩ := h.exists_value ht
  have hnewline : '\n' ∉ value := fun hmem => h.newline_not_mem (by simp [hchars, hmem])
  obtain ⟨line, hline, hstarts⟩ := exists_line (s.before ++ inside) (rest ++ s.behind) hnewline
  have htext : s.before ++ inside ++ value ++ (rest ++ s.behind) = text := by
    refine Eq.trans ?_ s.eq_text
    simp [hchars]
  rw [htext, ← hplace] at hline
  rw [← hplace] at hstarts
  refine ⟨String.ofList value, line, hvalue, ?_, ?_, ?_, hline, ?_⟩
  · intro hempty
    exact hne (by simpa using congrArg String.toList hempty)
  · rw [hplace]; exact Nat.succ_pos _
  · rw [hplace]; exact Nat.succ_pos _
  · rwa [String.toList_ofList]

/-- The tokens of a piece come in the order of their places. -/
theorem Reads.pairwise_precedes (h : s.Reads ts) :
    ts.Pairwise fun t t' => t.position.Precedes t'.position := by
  cases h with
  | opening _ => exact List.pairwise_singleton _ _
  | closing _ => exact List.pairwise_singleton _ _
  | raw _ _ => exact List.pairwise_singleton _ _
  | @directive d body hrun hchars hbody =>
    have hcolons : (Position.behind s.before).Precedes
        (.behind (s.before ++ '#' :: d.keyword)) := by
      rw [← Position.advance_behind]
      exact Position.precedes_advance _ (List.cons_ne_nil _ _)
    have hmapping : (Position.behind (s.before ++ '#' :: d.keyword)).Precedes
        (.behind (s.before ++ '#' :: d.keyword ++ "::".toList)) := by
      rw [← Position.advance_behind (s.before ++ '#' :: d.keyword)]
      exact Position.precedes_advance _ (List.cons_ne_nil _ _)
    simp only [List.pairwise_cons, List.mem_cons, List.not_mem_nil, or_false, forall_eq_or_imp,
      forall_eq, false_imp_iff, implies_true, and_true, List.Pairwise.nil]
    exact ⟨⟨hcolons, hcolons.trans hmapping⟩, hmapping⟩

end Stretch

/-- The tokens of pieces that take a text apart come in the order of their places, up to the end of
the text. -/
theorem Parts.pairwise_precedes {text : List Char} {start : Nat}
    {pieces : List (Stretch text × List Token)} (h : Parts text start pieces) :
    (pieces.flatMap Prod.snd ++ [Token.endOfText (.behind text)]).Pairwise
      fun t t' => t.position.Precedes t'.position := by
  refine List.pairwise_append.mpr ⟨List.pairwise_flatMap.mpr ⟨?_, ?_⟩,
    List.pairwise_singleton _ _, ?_⟩
  · exact fun piece hpiece => (h.reads piece hpiece).pairwise_precedes
  · refine h.ordered.imp_of_mem ?_
    intro piece piece' hpiece hpiece' hle t ht t' ht'
    obtain ⟨front, hfront, -, hlt, hplace⟩ := (h.reads piece hpiece).exists_front ht
    obtain ⟨front', hfront', hge, -, hplace'⟩ := (h.reads piece' hpiece').exists_front ht'
    rw [hplace, hplace']
    exact Position.behind_precedes hfront hfront' (hlt.trans_le (hle.trans hge))
  · intro t ht t' ht'
    obtain rfl := List.mem_singleton.mp ht'
    obtain ⟨piece, hpiece, ht⟩ := List.mem_flatMap.mp ht
    obtain ⟨front, hfront, -, hlt, hplace⟩ := (h.reads piece hpiece).exists_front ht
    rw [hplace]
    refine Position.behind_precedes hfront (List.prefix_refl text) ?_
    have hstop : piece.1.stop ≤ text.length := by
      have := congrArg List.length piece.1.eq_text
      simp only [List.length_append] at this
      rw [Stretch.stop]
      omega
    exact hlt.trans_le hstop

/-! ## Tokens -/

/-- A stream gives what is still to be read, and then the end of the text again and again. -/
theorem TokenStream.take_length_add (pending : List Token) (stop : Position) (extra : Nat) :
    TokenStream.take ⟨pending, stop⟩ (pending.length + extra) =
      pending ++ List.replicate extra (Token.endOfText stop) := by
  induction pending with
  | nil =>
    induction extra with
    | zero => rfl
    | succ extra ih =>
      rw [List.length_nil, Nat.zero_add] at ih ⊢
      rw [take, List.replicate_succ]
      exact congrArg (Token.endOfText stop :: ·) ih
  | cons t rest ih =>
    rw [List.length_cons, Nat.add_right_comm, take, List.cons_append]
    exact congrArg (t :: ·) ih

/-- The tokens of a text are those of the pieces into which it falls, up to the end of its last
line. Each stands where it says, they come in the order of their places, and behind them comes the
end of the text again and again. -/
theorem tokenize_eq_flatMap_parts (text : String) :
    let lines := text.toList.splitOn '\n'
    let stop := Token.endOfText ⟨lines.length, (lines.getLastD []).length + 1⟩
    ∃ pieces, Parts text.toList 0 pieces ∧
      tokenize text = pieces.flatMap Prod.snd ++ [stop] ∧
      (∀ t ∈ pieces.flatMap Prod.snd, t.StandsIn text.toList) ∧
      (tokenize text).Pairwise (fun t t' => t.position.Precedes t'.position) ∧
      ∀ extra, (TokenStream.ofText text).take ((tokenize text).length + extra) =
        tokenize text ++ List.replicate extra stop := by
  intro lines stop
  have hplace : Position.behind [] = {} := rfl
  obtain ⟨pieces, hparts, htokens⟩ := exists_parts (List.nil_append text.toList) hplace nofun
  have hstop : stop = .endOfText (.behind text.toList) :=
    congrArg Token.endOfText (behind_eq_end text.toList).symm
  have htokenize : tokenize text = pieces.flatMap Prod.snd ++ [stop] := by
    rw [tokenize, TokenStream.toList, TokenStream.ofText, htokens, Position.advance_eq_behind,
      hstop]
  refine ⟨pieces, hparts, htokenize, ?_, ?_, ?_⟩
  · intro t ht
    obtain ⟨piece, hpiece, ht⟩ := List.mem_flatMap.mp ht
    exact (hparts.reads piece hpiece).standsIn ht
  · rw [htokenize, hstop]
    exact hparts.pairwise_precedes
  · intro extra
    rw [htokenize, List.length_append, List.length_singleton, Nat.add_assoc, TokenStream.ofText,
      htokens, TokenStream.take_length_add, Position.advance_eq_behind, ← hstop, Nat.add_comm,
      List.replicate_succ, List.append_assoc]
    rfl

end LevelForge.Ldl
