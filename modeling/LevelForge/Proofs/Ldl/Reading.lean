import LevelForge.Proofs.Ldl.Grammar

/-!
# Reading token by token

A reader looks at one token and takes it or stops there. What it reads is what is read from the list
of the tokens before it, so a parser has the effect of its token stream. A reading leaves the parser
where it ended, and rewinding is what lets the parser read its text again.

* `Reader.Outcome.Agrees`: a reading from a list, and the same reading token by token.
* `Reader.fill_ofStream`: a reader has the effect of its stream.
* `Parser.parse_ofText`: what the parser of a text does, and what is left of it.
* `compile_eq_fill`: the blueprint of a text.
-/

namespace LevelForge.Ldl

/-! ## The tokens of a text -/

/-- A lexeme is read as one token that is not part of a directive, or as the parts of one. -/
theorem kinds_tokens (l : Lexeme) :
    (∃ kind, (kind = .opening ∨ kind = .closing ∨ kind = .raw) ∧ kinds l.tokens = [kind]) ∨
      ∃ d : Directive, kinds l.tokens = [d.tokenKind, .delimiter, .mapping] := by
  unfold Lexeme.tokens
  split
  · exact .inl ⟨.opening, .inl rfl, rfl⟩
  · split
    · exact .inl ⟨.closing, .inr (.inl rfl), rfl⟩
    · split
      · exact .inl ⟨.raw, .inr (.inr rfl), rfl⟩
      · next d body hfound => exact .inr ⟨d, rfl⟩

/-- The end of a text is not among its tokens. -/
theorem endOfText_notMem_pending (text : String) :
    .endOfText ∉ kinds (TokenStream.ofText text).pending := by
  have hlexeme (l : Lexeme) : .endOfText ∉ kinds l.tokens := by
    rcases kinds_tokens l with ⟨kind, hkind, htokens⟩ | ⟨d, htokens⟩
    · rw [htokens]
      rcases hkind with rfl | rfl | rfl <;> simp
    · rw [htokens]
      cases d <;> simp [Directive.tokenKind]
  intro hmem
  obtain ⟨t, ht, hkind⟩ := List.mem_map.mp hmem
  obtain ⟨l, -, ht⟩ := List.mem_flatMap.mp ht
  exact hlexeme l (hkind ▸ List.mem_map_of_mem ht)

namespace Reader

variable {α β : Type} {stop : Position}

/-! ## The parts of a construct -/

/-- What is read from a list is read token by token, up to the rest of the list; where the list is
read no further, reading token by token stops for the same reason. -/
inductive Outcome.Agrees (stop : Position) :
    Except Unexpected (α × List Token) → Outcome α → Prop
  | read (value : α) (behind : List Token) :
      Agrees stop (.ok (value, behind)) (.read value (ofStream ⟨behind, stop⟩))
  | stopped (fault : Unexpected) (r : Reader) : Agrees stop (.error fault) (.stopped fault r)

namespace Outcome.Agrees

/-- What is read from a list is read token by token. -/
theorem eq_read {listed : Except Unexpected (α × List Token)} {o : Outcome α} {value : α}
    {behind : List Token} (h : Agrees stop listed o) (hread : listed = .ok (value, behind)) :
    o = .read value (ofStream ⟨behind, stop⟩) := by
  cases h <;> cases hread
  rfl

/-- Where a list is read no further, reading token by token stops. -/
theorem exists_stopped {listed : Except Unexpected (α × List Token)} {o : Outcome α}
    {fault : Unexpected} (h : Agrees stop listed o) (hstopped : listed = .error fault) :
    ∃ r, o = .stopped fault r := by
  cases h with
  | read value behind => cases hstopped
  | stopped fault r =>
    cases hstopped
    exact ⟨r, rfl⟩

end Outcome.Agrees

/-- The first token of a list is looked at. -/
@[simp]
theorem lookAhead_ofStream_cons (t : Token) (rest : List Token) :
    (ofStream ⟨t :: rest, stop⟩).lookAhead = t := rfl

/-- Behind the last token the end of the text is looked at. -/
@[simp]
theorem lookAhead_ofStream_nil : (ofStream ⟨[], stop⟩).lookAhead = .endOfText stop := rfl

/-- Behind the first token is the rest of the list. -/
@[simp]
theorem next_ofStream_cons (t : Token) (rest : List Token) :
    (ofStream ⟨t :: rest, stop⟩).next = ofStream ⟨rest, stop⟩ := rfl

/-- A token is expected alike. -/
theorem agrees_expect (stop : Position) (kind : TokenKind) (hkind : kind ≠ .endOfText)
    (tokens : List Token) :
    Outcome.Agrees stop (Ldl.expect stop kind tokens)
      ((ofStream ⟨tokens, stop⟩).expect kind) := by
  cases tokens with
  | nil =>
    have hend : ¬ (Token.endOfText stop).kind = kind := fun h => hkind h.symm
    rw [Ldl.expect, expect, lookAhead_ofStream_nil, if_neg hend]
    exact .stopped _ _
  | cons t rest =>
    rw [Ldl.expect, expect, lookAhead_ofStream_cons]
    split
    · exact .read t rest
    · exact .stopped _ _

/-- A raw token is the first symbol of a row. -/
theorem row_of_raw {t : Token} (hraw : t.kind = .raw) (rest : List Token) :
    (ofStream ⟨t :: rest, stop⟩).row = (ofStream ⟨rest, stop⟩).row.map (t.text :: ·) := by
  rw [row, lookAhead_ofStream_cons, dif_pos hraw, next_ofStream_cons]

/-- Behind the symbols of a row its closing brace is expected. -/
theorem row_of_ne_raw {r : Reader} (hraw : r.lookAhead.kind ≠ .raw) :
    r.row = (r.expect .closing).map fun _ => [] := by
  rw [row, dif_neg hraw]

/-- A row is read token by token. -/
theorem agrees_row (stop : Position) (tokens : List Token) :
    Outcome.Agrees stop (readRow stop tokens) (ofStream ⟨tokens, stop⟩).row := by
  induction tokens with
  | nil =>
    rw [readRow, row_of_ne_raw (by simp [Token.endOfText])]
    exact .stopped _ _
  | cons t rest ih =>
    rw [readRow]
    split
    · next hraw =>
      rw [row_of_raw hraw]
      generalize readRow stop rest = listed, (ofStream ⟨rest, stop⟩).row = o at ih
      cases ih with
      | read symbols behind => exact .read _ _
      | stopped fault r => exact .stopped _ _
    · next hraw =>
      rw [row_of_ne_raw hraw, expect, lookAhead_ofStream_cons]
      split
      · exact .read _ _
      · exact .stopped _ _

/-- Behind an opening brace are a row and the rest of the rows. -/
theorem rows_of_opening {t : Token} (hopening : t.kind = .opening) (rest : List Token) :
    (ofStream ⟨t :: rest, stop⟩).rows =
      match (ofStream ⟨rest, stop⟩).row with
      | .stopped fault behind => .stopped fault behind
      | .read row behind => behind.rows.map (row :: ·) := by
  rw [rows, lookAhead_ofStream_cons, dif_pos hopening]
  split
  · next hrow =>
    rw [next_ofStream_cons] at hrow
    rw [hrow]
  · next hrow =>
    rw [next_ofStream_cons] at hrow
    rw [hrow]

/-- Behind the rows of a block its closing brace is expected. -/
theorem rows_of_ne_opening {r : Reader} (hopening : r.lookAhead.kind ≠ .opening) :
    r.rows = (r.expect .closing).map fun _ => [] := by
  rw [rows, dif_neg hopening]

/-- A block is read token by token. -/
theorem agrees_rows (stop : Position) (tokens : List Token) :
    Outcome.Agrees stop (readRows stop tokens) (ofStream ⟨tokens, stop⟩).rows := by
  fun_induction readRows stop tokens with
  | case1 =>
    rw [rows_of_ne_opening (by simp [Token.endOfText])]
    exact .stopped _ _
  | case2 t rest hopening fault hrow =>
    obtain ⟨r, hr⟩ := (agrees_row stop rest).exists_stopped hrow
    rw [rows_of_opening hopening, hr]
    exact .stopped _ _
  | case3 t rest hopening row behind hrow fault hrows ih =>
    obtain ⟨r, hr⟩ := ih.exists_stopped hrows
    simp only [rows_of_opening hopening, (agrees_row stop rest).eq_read hrow, hr]
    exact .stopped _ _
  | case4 t rest hopening row behind hrow rows behind' hrows ih =>
    simp only [rows_of_opening hopening, (agrees_row stop rest).eq_read hrow, ih.eq_read hrows]
    exact .read _ _
  | case5 t rest hopening hclosing =>
    rw [rows_of_ne_opening hopening, expect, lookAhead_ofStream_cons, if_pos hclosing]
    exact .read _ _
  | case6 t rest hopening hclosing =>
    rw [rows_of_ne_opening hopening, expect, lookAhead_ofStream_cons, if_neg hclosing]
    exact .stopped _ _

/-- The body of a directive is read token by token. -/
theorem agrees_body (stop : Position) (tokens : List Token) :
    Outcome.Agrees stop (readBody stop tokens) (ofStream ⟨tokens, stop⟩).body := by
  have hcolons := agrees_expect stop .delimiter (by decide) tokens
  rw [readBody, body]
  generalize Ldl.expect stop .delimiter tokens = listed,
    (ofStream ⟨tokens, stop⟩).expect .delimiter = o at hcolons
  cases hcolons with
  | stopped fault r => exact .stopped _ _
  | read colons behind =>
    have hmapping := agrees_expect stop .mapping (by decide) behind
    dsimp only [bind, Except.bind]
    generalize Ldl.expect stop .mapping behind = listed,
      (ofStream ⟨behind, stop⟩).expect .mapping = o at hmapping
    cases hmapping with
    | stopped fault r => exact .stopped _ _
    | read mapping behind' => exact .read _ _

/-! ## Filling -/

section Fill

variable {r behind : Reader} {b : Blueprint}

/-- Where no construct begins, the end of the text has to be. -/
theorem fill_of_none (h : r.construct? = none) :
    r.fill b =
      match r.expect .endOfText with
      | .read _ behind => (behind, b, none)
      | .stopped fault behind => (behind, b, some (.unexpected fault)) := by
  rw [fill]
  split
  · rfl
  · next heq => cases h.symm.trans heq
  · next heq => cases h.symm.trans heq

/-- A construct that is not finished has no effect. -/
theorem fill_of_stopped {fault : Unexpected} (h : r.construct? = some (.stopped fault behind)) :
    r.fill b = (behind, b, some (.unexpected fault)) := by
  rw [fill]
  split
  · next heq => cases h.symm.trans heq
  · next heq =>
    cases h.symm.trans heq
    rfl
  · next heq => cases h.symm.trans heq

/-- A construct has its effect before the next is read. -/
theorem fill_of_read {construct : Construct} (h : r.construct? = some (.read construct behind)) :
    r.fill b =
      match applyConstruct b construct with
      | .error failure => (behind, b, some failure)
      | .ok b' => behind.fill b' := by
  rw [fill]
  split
  · next heq => cases h.symm.trans heq
  · next heq => cases h.symm.trans heq
  · next heq =>
    cases h.symm.trans heq
    rfl

end Fill

/-- The keyword of a directive begins one. -/
theorem construct_of_keyword {t : Token} {d : Directive}
    (hd : Directive.ofTokenKind? t.kind = some d) (rest : List Token) :
    (ofStream ⟨t :: rest, stop⟩).construct? =
      some ((ofStream ⟨rest, stop⟩).body.map (.directive d)) := by
  rw [construct?, lookAhead_ofStream_cons, hd, next_ofStream_cons]

/-- An opening brace begins a block. -/
theorem construct_of_opening {t : Token} (hopening : t.kind = .opening) (rest : List Token) :
    (ofStream ⟨t :: rest, stop⟩).construct? =
      some ((ofStream ⟨rest, stop⟩).rows.map (.block t.position.line)) := by
  have hd : Directive.ofTokenKind? t.kind = none := by
    rw [hopening]
    rfl
  rw [construct?, lookAhead_ofStream_cons, hd, next_ofStream_cons]
  exact if_pos hopening

/-- A token of another kind begins no construct. -/
theorem construct_eq_none {r : Reader} (hd : Directive.ofTokenKind? r.lookAhead.kind = none)
    (hopening : r.lookAhead.kind ≠ .opening) : r.construct? = none := by
  rw [construct?, hd]
  exact if_neg hopening

/-- A reader has the effect of its stream, if the end of the text is not among the tokens. -/
theorem fill_ofStream {tokens : List Token} (hends : .endOfText ∉ kinds tokens) (b : Blueprint) :
    ((ofStream ⟨tokens, stop⟩).fill b).2 = Ldl.fill b ⟨tokens, stop⟩ := by
  rw [Ldl.fill, TokenStream.constructs]
  fun_induction readConstructs stop tokens generalizing b with
  | case1 =>
    rw [fill_of_none (construct_eq_none rfl (by simp [Token.endOfText]))]
    rfl
  | case2 t rest d hd fault hbody =>
    obtain ⟨r, hr⟩ := (agrees_body stop rest).exists_stopped hbody
    rw [fill_of_stopped (construct_of_keyword hd rest |>.trans (by rw [hr]; rfl))]
    rfl
  | case3 t rest d hd body behind hbody others ih =>
    have hread := (agrees_body stop rest).eq_read hbody
    have hbehind : .endOfText ∉ kinds behind := by
      rw [kinds_cons, kinds_of_readBody hbody] at hends
      exact fun hmem => hends (by simp [hmem])
    rw [fill_of_read (construct_of_keyword hd rest |>.trans (by rw [hread]; rfl))]
    simp only [applyConstructs]
    cases applyConstruct b (.directive d body) with
    | error failure => rfl
    | ok b' => exact ih hbehind b'
  | case4 t rest hd hopening fault hrows =>
    obtain ⟨r, hr⟩ := (agrees_rows stop rest).exists_stopped hrows
    rw [fill_of_stopped (construct_of_opening hopening rest |>.trans (by rw [hr]; rfl))]
    rfl
  | case5 t rest hd hopening rows behind hrows others ih =>
    have hread := (agrees_rows stop rest).eq_read hrows
    have hbehind : .endOfText ∉ kinds behind := by
      obtain ⟨front, rfl, -⟩ := block_of_readRows hrows
      exact fun hmem => hends (by simp [hmem])
    rw [fill_of_read (construct_of_opening hopening rest |>.trans (by rw [hread]; rfl))]
    simp only [applyConstructs]
    cases applyConstruct b (.block t.position.line rows) with
    | error failure => rfl
    | ok b' => exact ih hbehind b'
  | case6 t rest hd hopening =>
    have hend : t.kind ≠ .endOfText := fun heq => hends (heq ▸ List.mem_cons_self)
    rw [fill_of_none (construct_eq_none hd hopening), expect, lookAhead_ofStream_cons, if_neg hend]
    rfl

end Reader

/-! ## Parsers -/

namespace Parser

/-- The parser of a text reads what the tokens of the text say. -/
theorem read_ofText (text : String) (b : Blueprint) :
    ((ofText text).read b).2 = fill b (.ofText text) :=
  Reader.fill_ofStream (endOfText_notMem_pending text) b

/-- Rewinding takes a parser back to the start of its text, wherever a reading has left it. -/
theorem rewind_read (p : Parser) (b : Blueprint) : (p.read b).1.rewind = ofText p.text := rfl

/-- What the parser of a text does to a blueprint: afterwards it is as it was, and the blueprint
holds the effect of the tokens of the text. -/
theorem parse_ofText (text : String) (b : Blueprint) :
    (ofText text).parse (some b) =
      ⟨ofText text, some (fill b (.ofText text)).1, (fill b (.ofText text)).2⟩ := by
  rw [← read_ofText]
  show Reading.mk ((ofText text).read b).1.rewind _ _ = _
  rw [rewind_read]
  rfl

end Parser

/-- The blueprint of a text is the frozen one that the tokens of the text fill. -/
theorem compile_eq_fill (text : String) (name : Option String) :
    compile text name =
      match fill { name } (.ofText text) with
      | (_, some failure) => .error failure
      | (b, none) => .ok b.freeze := by
  rw [compile, ← Parser.read_ofText]
  rcases (Parser.ofText text).read { name } with ⟨p, b, _ | failure⟩ <;> rfl

end LevelForge.Ldl
