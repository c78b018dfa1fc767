import LevelForge.Proofs.Ldl.Compile
import LevelForge.Proofs.Ldl.Layout

/-!
# Writing and reading

A document may be written down in many ways: its lexemes are fixed, and their layout is free. In
whichever way it was written, reading the text gives the document back.

* `Document.lexemes`: the lexemes that a document is written with.
* `Document.laidOut_render`: a rendered document is one way to write it.
* `compile_of_laidOut`: a document that was written in any way is read as it is.
-/

namespace LevelForge

namespace Text

/-- No blank stands in a word. -/
theorem isAlphanumeric_eq_false_of_isBlank {c : Char} (h : isBlank c = true) :
    isAlphanumeric c = false := by
  obtain ⟨run, hrun, hlow, hhigh⟩ := isBlank_iff.mp h
  have hruns : ∀ run ∈ blankRuns, ∀ k < run.2 + 1 - run.1,
      inRuns alphanumericRuns (run.1 + k) = false := by decide +kernel
  have hc := hruns run hrun (c.toNat - run.1) (by omega)
  rwa [Nat.add_sub_cancel' hlow] at hc

end Text

namespace Ldl

/-! ## The lexemes of a document -/

/-- The lexemes of a row. -/
def rowLexemes (row : List String) : List (List Char) :=
  ['\x7b'] :: row.map String.toList ++ [['\x7d']]

/-- The lexemes of an item: one for a directive, and for a block its symbols in braces. -/
def Item.lexemes : Item → List (List Char)
  | .directive d m => [directiveText d m]
  | .block rows => ['\x7b'] :: rows.flatMap rowLexemes ++ [['\x7d']]

/-- The lexemes of a document. -/
def Document.lexemes (document : Document) : List (List Char) := document.flatMap Item.lexemes

/-- A symbol is a run of solid characters that is no directive. -/
theorem isSymbol_iff {symbol : String} :
    IsSymbol symbol ↔ symbol.toList ≠ [] ∧ (∀ c ∈ symbol.toList, isSolid c = true) ∧
      ∀ (d : Directive) (body : List Char), body ≠ [] → symbol.toList ≠ d.opener ++ body := by
  rw [IsSymbol, Directive.ofLexeme?_eq_none_iff]

/-- Words are in one run. -/
theorem isSolid_of_isWordChar {c : Char} (h : Text.isWordChar c = true) : isSolid c = true := by
  rw [isSolid_iff]
  constructor
  · by_contra hblank
    have hplain := Text.isAlphanumeric_eq_false_of_isBlank (Bool.not_eq_false _ ▸ hblank)
    rw [Text.isWordChar, hplain, Bool.or_false, beq_iff_eq] at h
    subst h
    exact hblank (by decide)
  · by_contra hbrace
    rw [Bool.not_eq_false, isBrace, Bool.or_eq_true, beq_iff_eq, beq_iff_eq] at hbrace
    rcases hbrace with rfl | rfl <;> revert h <;> decide

/-- The key of a mapping is in one run. -/
theorem isSolid_of_isKeyChar {c : Char} (h : Mapping.isKeyChar c = true) : isSolid c = true := by
  simp only [Mapping.isKeyChar, Bool.or_eq_true, beq_iff_eq] at h
  rcases h with ((h | rfl) | rfl) | rfl
  · exact isSolid_of_isWordChar h
  all_goals decide

/-- The value of a mapping is in one run. -/
theorem isSolid_of_isValueChar {c : Char} (h : Mapping.isValueChar c = true) :
    isSolid c = true := by
  simp only [Mapping.isValueChar, Bool.or_eq_true, beq_iff_eq] at h
  rcases h with h | rfl
  · exact isSolid_of_isWordChar h
  · decide

/-- The lexeme of a directive is one run. -/
theorem isSolid_of_mem_directiveText {d : Directive} {m : Mapping}
    (hkey : Mapping.IsKey m.key.toList) (hvalue : Mapping.IsValue m.value.toList) {c : Char}
    (hc : c ∈ Item.directiveText d m) : isSolid c = true := by
  have hopener : d.opener.all isSolid = true := by cases d <;> decide
  rw [Item.directiveText, Mapping.toList_render] at hc
  simp only [List.mem_append, List.mem_cons] at hc
  rcases hc with hc | hc | rfl | rfl | hc
  · exact List.all_eq_true.mp hopener c hc
  · exact isSolid_of_isKeyChar (hkey.2 c hc)
  · decide
  · decide
  · exact isSolid_of_isValueChar (hvalue.2 c hc)

/-! ## The tokens of lexemes -/

namespace Lexeme

variable {l : Lexeme}

/-- An opening brace is read as one token. -/
theorem tokens_opening (h : l.chars = ['\x7b']) :
    ∃ t, l.tokens = [t] ∧ t.kind = .opening :=
  ⟨_, if_pos h, rfl⟩

/-- A closing brace is read as one token. -/
theorem tokens_closing (h : l.chars = ['\x7d']) :
    ∃ t, l.tokens = [t] ∧ t.kind = .closing := by
  refine ⟨⟨.closing, some (String.ofList l.chars), l.position⟩, ?_, rfl⟩
  simp [tokens, h]

/-- A symbol is read as one raw token with the text of the symbol. -/
theorem tokens_symbol {symbol : String} (hsymbol : IsSymbol symbol) (h : l.chars = symbol.toList) :
    ∃ t, l.tokens = [t] ∧ t.kind = .raw ∧ t.text = symbol := by
  obtain ⟨-, hsolid, hdirective⟩ := hsymbol
  have hbrace : ∀ c, isSolid c = false → l.chars ≠ [c] := by
    rintro c hc hchars
    rw [hsolid c (by rw [← h, hchars]; exact List.mem_singleton_self c)] at hc
    cases hc
  refine ⟨⟨.raw, some (String.ofList l.chars), l.position⟩, ?_, rfl, ?_⟩
  · rw [tokens, if_neg (hbrace _ (by decide)), if_neg (hbrace _ (by decide)), h, hdirective]
  · rw [h, String.ofList_toList]
    rfl

/-- A directive that is written down is read as its three tokens. -/
theorem tokens_directive {d : Directive} {m : Mapping} (hkey : Mapping.IsKey m.key.toList)
    (hvalue : Mapping.IsValue m.value.toList) (h : l.chars = Item.directiveText d m) :
    ∃ t colons body, l.tokens = [t, colons, body] ∧ t.kind = d.tokenKind ∧
      colons.kind = .delimiter ∧ body.kind = .mapping ∧ m.IsWritten body.text := by
  have hbody : m.render.toList ≠ [] := by
    rw [Mapping.toList_render]
    exact List.append_ne_nil_of_right_ne_nil _ (List.cons_ne_nil _ _)
  have hdirective : Directive.ofLexeme? l.chars = some (d, m.render.toList) :=
    Directive.ofLexeme?_eq_some_iff.mpr ⟨h, hbody⟩
  have hopening : l.chars ≠ ['\x7b'] := by rw [h]; nofun
  have hclosing : l.chars ≠ ['\x7d'] := by rw [h]; nofun
  rw [tokens, if_neg hopening, if_neg hclosing, hdirective]
  exact ⟨_, _, _, rfl, rfl, rfl, rfl, hkey, hvalue, String.ofList_toList⟩

end Lexeme

/-! ## What the lexemes of a document spell -/

/-- The lexemes of a row spell the row. -/
theorem spellsRow_of_chars {row : List String} (hrow : ∀ symbol ∈ row, IsSymbol symbol)
    {ls : List Lexeme} (h : ls.map Lexeme.chars = row.map String.toList ++ [['\x7d']]) :
    SpellsRow (ls.flatMap Lexeme.tokens) row := by
  induction row generalizing ls with
  | nil =>
    obtain ⟨l, rfl, hl⟩ := List.map_eq_singleton_iff.mp h
    obtain ⟨t, ht, hkind⟩ := Lexeme.tokens_closing hl
    simpa [ht] using SpellsRow.close hkind
  | cons symbol row ih =>
    obtain ⟨l, ls, rfl, hl, hls⟩ := List.map_eq_cons_iff.mp h
    obtain ⟨t, ht, hkind, rfl⟩ := Lexeme.tokens_symbol (hrow symbol List.mem_cons_self) hl
    rw [List.flatMap_cons, ht]
    exact (ih (fun symbol hsymbol => hrow symbol (List.mem_cons_of_mem _ hsymbol)) hls).symbol hkind

/-- The lexemes of a block spell the block. -/
theorem spellsBlock_of_chars {rows : List (List String)}
    (hrows : ∀ row ∈ rows, ∀ symbol ∈ row, IsSymbol symbol) {ls : List Lexeme}
    (h : ls.map Lexeme.chars = rows.flatMap rowLexemes ++ [['\x7d']]) :
    SpellsBlock (ls.flatMap Lexeme.tokens) rows := by
  induction rows generalizing ls with
  | nil =>
    obtain ⟨l, rfl, hl⟩ := List.map_eq_singleton_iff.mp h
    obtain ⟨t, ht, hkind⟩ := Lexeme.tokens_closing hl
    simpa [ht] using SpellsBlock.close hkind
  | cons row rows ih =>
    rw [List.flatMap_cons, List.append_assoc] at h
    obtain ⟨first, others, rfl, hfirst, hothers⟩ := List.map_eq_append_iff.mp h
    obtain ⟨l, ls, rfl, hl, hls⟩ := List.map_eq_cons_iff.mp hfirst
    obtain ⟨t, ht, hkind⟩ := Lexeme.tokens_opening hl
    rw [List.flatMap_append, List.flatMap_cons, ht]
    exact .row hkind (spellsRow_of_chars (hrows row List.mem_cons_self) hls)
      (ih (fun row hrow => hrows row (List.mem_cons_of_mem _ hrow)) hothers)

/-- Lexemes that a document is written with spell it. -/
theorem spells_of_chars {document : Document} (hwritable : ∀ item ∈ document, item.IsWritable)
    {ls : List Lexeme} (h : ls.map Lexeme.chars = document.lexemes) :
    Spells (ls.flatMap Lexeme.tokens) document := by
  induction document generalizing ls with
  | nil =>
    obtain rfl := List.map_eq_nil_iff.mp h
    exact .empty
  | cons item document ih =>
    rw [Document.lexemes, List.flatMap_cons] at h
    obtain ⟨first, others, rfl, hfirst, hothers⟩ := List.map_eq_append_iff.mp h
    have hrest := ih (fun item hitem => hwritable item (List.mem_cons_of_mem _ hitem)) hothers
    have hitem := hwritable item List.mem_cons_self
    rw [List.flatMap_append]
    cases item with
    | directive d m =>
      obtain ⟨l, rfl, hl⟩ := List.map_eq_singleton_iff.mp hfirst
      obtain ⟨t, colons, body, hl, ht, hcolons, hbody, hwritten⟩ :=
        Lexeme.tokens_directive hitem.1 hitem.2 hl
      rw [List.flatMap_singleton, hl]
      exact .directive d ht hcolons hbody hwritten hrest
    | block rows =>
      obtain ⟨l, ls, rfl, hl, hls⟩ := List.map_eq_cons_iff.mp hfirst
      obtain ⟨t, ht, hkind⟩ := Lexeme.tokens_opening hl
      rw [List.flatMap_cons, ht]
      exact .block hkind (spellsBlock_of_chars hitem.1 hls) hrest

/-! ## Rendered documents -/

/-- Symbols are laid out with spaces in between, where something else follows. -/
theorem laidOut_intercalate {row : List String} (hrow : ∀ symbol ∈ row, IsSymbol symbol)
    {ls : List (List Char)} {rest : List Char} (hend : ∀ c ∈ rest.head?, isSolid c = false)
    (hrest : LaidOut ls rest) :
    LaidOut (row.map String.toList ++ ls) ([' '].intercalate (row.map String.toList) ++ rest) := by
  induction row with
  | nil => exact hrest
  | cons symbol row ih =>
    obtain ⟨hne, hsolid, -⟩ := hrow symbol List.mem_cons_self
    have ih := ih fun other hother => hrow other (List.mem_cons_of_mem _ hother)
    cases row with
    | nil => simpa [List.intercalate] using hrest.run hne hsolid hend
    | cons next row =>
      have hspace : ∀ c ∈ (' ' :: ([' '].intercalate ((next :: row).map String.toList) ++
          rest)).head?, isSolid c = false := by
        rintro c ⟨⟩
        decide
      have := (ih.blank (c := ' ') (by decide)).run hne hsolid hspace
      simpa [List.intercalate] using this

/-- A row is laid out as its lexemes. -/
theorem laidOut_rowText {row : List String} (hrow : ∀ symbol ∈ row, IsSymbol symbol)
    {ls : List (List Char)} {rest : List Char} (hrest : LaidOut ls rest) :
    LaidOut (rowLexemes row ++ ls) (Item.rowText row ++ rest) := by
  have hclosed : LaidOut (['\x7d'] :: ls) ('\x7d' :: rest) := hrest.brace (by decide)
  have hopened := (laidOut_intercalate hrow (by rintro c ⟨⟩; decide) hclosed).brace
    (c := '\x7b') (by decide)
  simpa [rowLexemes, Item.rowText] using hopened

/-- Rows on lines of their own are laid out as their lexemes. -/
theorem laidOut_rows {rows : List (List String)}
    (hrows : ∀ row ∈ rows, ∀ symbol ∈ row, IsSymbol symbol) {ls : List (List Char)}
    {rest : List Char} (hrest : LaidOut ls rest) :
    LaidOut (rows.flatMap rowLexemes ++ ls)
      (rows.flatMap (fun row => ' ' :: ' ' :: Item.rowText row ++ ['\n']) ++ rest) := by
  induction rows with
  | nil => exact hrest
  | cons row rows ih =>
    have hbehind := (ih fun other hother => hrows other (List.mem_cons_of_mem _ hother)).blank
      (c := '\n') (by decide)
    have hline := ((laidOut_rowText (hrows row List.mem_cons_self) hbehind).blank
      (c := ' ') (by decide)).blank (c := ' ') (by decide)
    simpa using hline

/-- An item that is written down is laid out as its lexemes. -/
theorem Item.IsWritable.laidOut_text {item : Item} (h : item.IsWritable) {ls : List (List Char)}
    {rest : List Char} (hrest : LaidOut ls rest) :
    LaidOut (item.lexemes ++ ls) (item.text ++ rest) := by
  have hbehind : LaidOut ls ('\n' :: rest) := hrest.blank (by decide)
  cases item with
  | directive d m =>
    have hrun : LaidOut (directiveText d m :: ls) (directiveText d m ++ '\n' :: rest) :=
      hbehind.run (by cases d <;> nofun) (fun c => isSolid_of_mem_directiveText h.1 h.2)
        (by rintro c ⟨⟩; decide)
    simpa [Item.lexemes, Item.text] using hrun
  | block rows =>
    have hclosed : LaidOut (['\x7d'] :: ls) ('\x7d' :: '\n' :: rest) := hbehind.brace (by decide)
    have hopened := ((laidOut_rows h.1 hclosed).blank (c := '\n') (by decide)).brace
      (c := '\x7b') (by decide)
    simpa [Item.lexemes, Item.text] using hopened

/-- A rendered document lays out its lexemes. -/
theorem Document.laidOut_render {document : Document}
    (hwritable : ∀ item ∈ document, item.IsWritable) :
    LaidOut document.lexemes document.render.toList := by
  rw [render, String.toList_ofList]
  induction document with
  | nil => exact .nil
  | cons item document ih =>
    rw [lexemes, List.flatMap_cons, List.flatMap_cons]
    exact (hwritable item List.mem_cons_self).laidOut_text
      (ih fun other hother => hwritable other (List.mem_cons_of_mem _ hother))

/-! ## Reading what was written -/

theorem isSound_of_isWritable {document : Document}
    (hwritable : ∀ item ∈ document, item.IsWritable)
    (hbosses : ∀ pair ∈ document.pairs .boss, ∃ rule, Boss.Rule.ofKey pair.1 pair.2 = .ok rule) :
    document.IsSound := by
  refine ⟨hbosses, fun rows hrows => ?_⟩
  obtain ⟨item, hitem, heq⟩ := List.mem_filterMap.mp hrows
  cases item with
  | directive => cases heq
  | block =>
    cases heq
    exact (hwritable _ hitem).2

/-- A document of writable items, the keys of whose boss directives are those of rules, is read back
however it was written: rendering is one way to lay out its lexemes, and from every text in which
they are laid out a blueprint is read that holds the aliases and settings, the boss rules and the
templates of the items in order. -/
theorem compile_of_laidOut {document : Document} (hwritable : ∀ item ∈ document, item.IsWritable)
    (hbosses : ∀ pair ∈ document.pairs .boss, ∃ rule, Boss.Rule.ofKey pair.1 pair.2 = .ok rule)
    (name : Option String) :
    LaidOut document.lexemes document.render.toList ∧
    ∀ text : String, LaidOut document.lexemes text.toList →
      ∃ b, compile text name = .ok b ∧ Holds b name document := by
  refine ⟨Document.laidOut_render hwritable, fun text hlaid => ?_⟩
  have hspells : Spells (TokenStream.ofText text).pending document :=
    spells_of_chars hwritable (hlaid.map_chars_lexemes {})
  obtain ⟨b, hfills⟩ := exists_fillsAll_iff.mpr (isSound_of_isWritable hwritable hbosses)
  exact ⟨b.freeze, compile_eq_ok_iff.mpr ⟨document, b, hspells, hfills, rfl⟩, hfills.holds⟩

/-- A small document: an alias, a boss rule and a block that uses the alias. -/
def Document.clearing : Document :=
  [.directive .alias ⟨"a", "Slurp"⟩, .directive .boss ⟨"AT10", "RektSmasher"⟩,
   .block [["a", "0"], ["#", "b"]]]

theorem compile_of_laidOut_clearing :
    (∀ item ∈ Document.clearing, item.IsWritable) ∧
      (∀ pair ∈ Document.clearing.pairs .boss,
        ∃ rule, Boss.Rule.ofKey pair.1 pair.2 = .ok rule) ∧
      ∃ b, compile
          "#ALIAS::a->Slurp\t#BOSS_SETTING::AT10->RektSmasher\x7b\x7ba 0\x7d\x7b#\nb\x7d\x7d"
          none = .ok b ∧ Holds b none .clearing := by
  have hwritable : ∀ item ∈ Document.clearing, item.IsWritable := by
    -- over characters of a list a test decides, and not a search through all characters
    simp only [Document.clearing, List.forall_mem_cons, List.not_mem_nil, false_implies,
      implies_true, Item.IsWritable, Mapping.IsKey, Mapping.IsValue, IsSymbol, ← List.all_eq_true]
    decide +kernel
  have hbosses : ∀ pair ∈ Document.clearing.pairs .boss,
      ∃ rule, Boss.Rule.ofKey pair.1 pair.2 = .ok rule :=
    List.forall_mem_singleton.mpr ⟨_, rfl⟩
  refine ⟨hwritable, hbosses, (compile_of_laidOut hwritable hbosses none).2 _ ?_⟩
  exact (map_chars_lexemes_iff (p := {})).mp (by decide +kernel)

end Ldl

end LevelForge
