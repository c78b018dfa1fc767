import Mathlib.Data.List.Forall2
import LevelForge.Ldl.Document
import LevelForge.Proofs.Ldl.Grammar

/-!
# Derivations

The grammar of level texts says which tokens form a document; here it says also which document they
form. Tokens spell at most one document, the one that reading them gives, and they spell one exactly
if their kinds are those of the grammar and the text of every mapping token is the body of a
mapping.

* `Mapping.ofBody?_eq_some_iff`: a body is read as the one mapping that is written so.
* `spells_iff`: tokens spell a document exactly if they are read as the constructs of its items.
* `exists_spells_iff`: which tokens spell a document.
-/

namespace LevelForge.Ldl

/-! ## Bodies of directives -/

namespace Mapping

/-- A mapping as it may stand in a body, a key and a value, and the text of that body. -/
structure IsWritten (m : Mapping) (body : String) : Prop where
  isKey : IsKey m.key.toList
  isValue : IsValue m.value.toList
  body_eq : body = m.render

/-- The two sides of an arrow stand before and behind it. -/
theorem eq_of_splitArrow {text key value : List Char} (h : splitArrow text = some (key, value)) :
    text = key ++ '-' :: '>' :: value := by
  fun_induction splitArrow text generalizing key with
  | case1 => cases h
  | case2 rest => cases h; rfl
  | case3 c rest _ ih =>
    obtain ⟨⟨key, value⟩, hrest, heq⟩ := Option.map_eq_some_iff.mp h
    cases heq
    rw [ih hrest, List.cons_append]

/-- An arrow behind a text without a `>` is the first one. -/
theorem splitArrow_append {key : List Char} (hkey : '>' ∉ key) (value : List Char) :
    splitArrow (key ++ '-' :: '>' :: value) = some (key, value) := by
  induction key with
  | nil => rfl
  | cons c key ih =>
    rw [List.mem_cons, not_or] at hkey
    rw [List.cons_append, splitArrow, ih hkey.2]
    · rfl
    · -- a hyphen before the arrow is no part of it
      rintro rest rfl heq
      cases key with
      | nil => cases heq
      | cons c' key =>
        cases heq
        exact hkey.2 List.mem_cons_self

/-- A key has no arrowhead. -/
theorem notMem_of_isKey {key : List Char} (h : IsKey key) : '>' ∉ key := by
  intro hmem
  have := h.2 _ hmem
  revert this
  decide

/-- A mapping is written as its key, an arrow and its value. -/
theorem toList_render (m : Mapping) :
    m.render.toList = m.key.toList ++ '-' :: '>' :: m.value.toList := by
  rw [render, String.toList_append, String.toList_append, List.append_assoc]
  rfl

/-- A body is read as the one mapping that is written so. -/
theorem ofBody?_eq_some_iff {body : String} {m : Mapping} :
    ofBody? body = some m ↔ m.IsWritten body := by
  constructor
  · intro h
    unfold ofBody? at h
    split at h
    · cases h
    · next key value hsplit =>
      split at h
      · next hsides =>
        cases h
        refine ⟨by simpa using hsides.1, by simpa using hsides.2, String.toList_injective ?_⟩
        rw [toList_render, eq_of_splitArrow hsplit, String.toList_ofList, String.toList_ofList]
      · cases h
  · rintro ⟨hkey, hvalue, rfl⟩
    simp only [ofBody?, toList_render, splitArrow_append (notMem_of_isKey hkey), hkey, hvalue,
      and_self, if_true, String.ofList_toList]

end Mapping

/-! ## What tokens spell -/

/-- What follows the opening brace of a row, and the symbols of the row. -/
inductive SpellsRow : List Token → List String → Prop
  | close {t : Token} : t.kind = .closing → SpellsRow [t] []
  | symbol {t : Token} {tokens : List Token} {row : List String} :
      t.kind = .raw → SpellsRow tokens row → SpellsRow (t :: tokens) (t.text :: row)

/-- What follows the opening brace of a block, and the rows of the block. -/
inductive SpellsBlock : List Token → List (List String) → Prop
  | close {t : Token} : t.kind = .closing → SpellsBlock [t] []
  | row {t : Token} {front tokens : List Token} {row : List String} {rows : List (List String)} :
      t.kind = .opening → SpellsRow front row → SpellsBlock tokens rows →
      SpellsBlock (t :: front ++ tokens) (row :: rows)

/-- Tokens, and the document that they spell. -/
inductive Spells : List Token → Document → Prop
  | empty : Spells [] []
  | directive (d : Directive) {t colons body : Token} {m : Mapping} {tokens : List Token}
      {document : Document} :
      t.kind = d.tokenKind → colons.kind = .delimiter → body.kind = .mapping →
      m.IsWritten body.text → Spells tokens document →
      Spells (t :: colons :: body :: tokens) (.directive d m :: document)
  | block {t : Token} {front tokens : List Token} {rows : List (List String)}
      {document : Document} :
      t.kind = .opening → SpellsBlock front rows → Spells tokens document →
      Spells (t :: front ++ tokens) (.block rows :: document)

/-- A construct is that of an item: its body is that of the mapping, or its rows are the same. -/
inductive Construct.IsOf : Construct → Item → Prop
  | directive (d : Directive) {m : Mapping} {body : String} :
      m.IsWritten body → IsOf (.directive d body) (.directive d m)
  | block (line : Nat) (rows : List (List String)) : IsOf (.block line rows) (.block rows)

/-! ## Reading what tokens spell -/

/-- What is read as a row spells it. -/
theorem spellsRow_of_readRow {stop : Position} {tokens behind : List Token} {row : List String}
    (h : readRow stop tokens = .ok (row, behind)) :
    ∃ front, tokens = front ++ behind ∧ SpellsRow front row := by
  induction tokens generalizing row with
  | nil => cases h
  | cons t rest ih =>
    unfold readRow at h
    split at h
    · next hraw =>
      split at h
      · cases h
      · next row' behind' hrow =>
        cases h
        obtain ⟨front, rfl, hfront⟩ := ih hrow
        exact ⟨t :: front, rfl, hfront.symbol hraw⟩
    · split at h
      · next hclosing =>
        cases h
        exact ⟨[t], rfl, .close hclosing⟩
      · cases h

/-- Tokens that spell a row are read as this row. -/
theorem readRow_of_spellsRow {front : List Token} {row : List String} (h : SpellsRow front row)
    (stop : Position) (behind : List Token) :
    readRow stop (front ++ behind) = .ok (row, behind) := by
  induction h with
  | close hkind => simp [readRow, hkind]
  | symbol hkind _ ih => simp [readRow, hkind, ih]

/-- What is read as a block spells it. -/
theorem spellsBlock_of_readRows {stop : Position} {tokens behind : List Token}
    {rows : List (List String)} (h : readRows stop tokens = .ok (rows, behind)) :
    ∃ front, tokens = front ++ behind ∧ SpellsBlock front rows := by
  fun_induction readRows stop tokens generalizing rows behind with
  | case1 => cases h
  | case2 => cases h
  | case3 => cases h
  | case4 t rest hopening row behind' hrow rows' behind'' hrows ih =>
    cases h
    obtain ⟨front, rfl, hfront⟩ := spellsRow_of_readRow hrow
    obtain ⟨front', rfl, hfront'⟩ := ih hrows
    exact ⟨t :: front ++ front', by simp, hfront'.row hopening hfront⟩
  | case5 t rest _ hclosing =>
    cases h
    exact ⟨[t], rfl, .close hclosing⟩
  | case6 => cases h

/-- Tokens that spell a block are read as these rows. -/
theorem readRows_of_spellsBlock {front : List Token} {rows : List (List String)}
    (h : SpellsBlock front rows) (stop : Position) (behind : List Token) :
    readRows stop (front ++ behind) = .ok (rows, behind) := by
  induction h with
  | close hkind => rw [List.singleton_append, readRows]; simp [hkind]
  | row hkind hrow _ ih =>
    rw [List.cons_append, List.cons_append, List.append_assoc, readRows]
    simp only [hkind, if_true]
    rw [readRow_of_spellsRow hrow stop]
    simp [ih]

/-- What is read as a body is the text of a mapping token behind a delimiter. -/
theorem exists_of_readBody {stop : Position} {tokens behind : List Token} {body : String}
    (h : readBody stop tokens = .ok (body, behind)) :
    ∃ colons t, tokens = colons :: t :: behind ∧ colons.kind = .delimiter ∧ t.kind = .mapping ∧
      t.text = body := by
  obtain ⟨colons, rest, rfl, hcolons, hrest⟩ := List.map_eq_cons_iff.mp (kinds_of_readBody h)
  obtain ⟨t, behind', rfl, ht, -⟩ := List.map_eq_cons_iff.mp hrest
  rw [readBody_cons_cons behind' hcolons ht] at h
  cases h
  exact ⟨colons, t, rfl, hcolons, ht, rfl⟩

/-- Tokens spell a document exactly if they are read to the end as the constructs of its items. -/
theorem spells_iff (stop : Position) {tokens : List Token} {document : Document} :
    Spells tokens document ↔ (readConstructs stop tokens).2 = none ∧
      List.Forall₂ Construct.IsOf (readConstructs stop tokens).1 document := by
  constructor
  · intro h
    induction h with
    | empty => rw [readConstructs]; exact ⟨rfl, .nil⟩
    | @directive d t colons body m tokens document hkind hcolons hbody hwritten _ ih =>
      rw [readConstructs]
      simp only [hkind, Directive.ofTokenKind?_tokenKind]
      rw [readBody_cons_cons tokens hcolons hbody]
      exact ⟨ih.1, .cons (.directive d hwritten) ih.2⟩
    | @block t front tokens rows document hkind hblock _ ih =>
      rw [List.cons_append, readConstructs]
      simp only [hkind, Directive.ofTokenKind?, if_true]
      rw [readRows_of_spellsBlock hblock stop]
      exact ⟨ih.1, .cons (.block _ _) ih.2⟩
  · rintro ⟨hend, hitems⟩
    fun_induction readConstructs stop tokens generalizing document with
    | case1 => cases hitems; exact .empty
    | case2 => cases hend
    | case3 t rest d hd body behind hbody others =>
      rename_i ih
      obtain ⟨colons, t', rfl, hcolons, ht', rfl⟩ := exists_of_readBody hbody
      cases hitems with
      | cons hitem hrest =>
        cases hitem with
        | directive _ hwritten =>
          exact .directive d (Directive.tokenKind_of_ofTokenKind? hd).symm hcolons ht' hwritten
            (ih hend hrest)
    | case4 => cases hend
    | case5 t rest _ hopening rows behind hrows others =>
      rename_i ih
      obtain ⟨front, rfl, hfront⟩ := spellsBlock_of_readRows hrows
      cases hitems with
      | cons hitem hrest =>
        cases hitem with
        | block => exact .block hopening hfront (ih hend hrest)
    | case6 => cases hend

/-- A body writes one mapping at most. -/
theorem Mapping.IsWritten.unique {m m' : Mapping} {body : String} (h : m.IsWritten body)
    (h' : m'.IsWritten body) : m = m' := by
  rw [← ofBody?_eq_some_iff] at h h'
  exact Option.some_inj.mp (h.symm.trans h')

/-- A construct is of one item at most. -/
theorem rightUnique_isOf : Relator.RightUnique Construct.IsOf := by
  intro construct item item' h h'
  cases h with
  | directive d hwritten =>
    cases h' with
    | directive _ hwritten' => rw [hwritten.unique hwritten']
  | block =>
    cases h'
    rfl

/-- Tokens spell at most one document. -/
theorem Spells.unique {tokens : List Token} {document document' : Document}
    (h : Spells tokens document) (h' : Spells tokens document') : document = document' :=
  rightUnique_isOf.forall₂ ((spells_iff {}).mp h).2 ((spells_iff {}).mp h').2

/-! ## Which tokens spell a document -/

/-- In a row there is no mapping. -/
theorem SpellsRow.mapping_notMem {tokens : List Token} {row : List String}
    (h : SpellsRow tokens row) : .mapping ∉ kinds tokens := by
  induction h with
  | close hkind => simp [hkind]
  | symbol hkind _ ih => simp [hkind, ih]

/-- No mapping stands in a block. -/
theorem SpellsBlock.mapping_notMem {tokens : List Token} {rows : List (List String)}
    (h : SpellsBlock tokens rows) : .mapping ∉ kinds tokens := by
  induction h with
  | close hkind => simp [hkind]
  | row hkind hrow _ ih => simp [hkind, hrow.mapping_notMem, ih]

/-- The keyword of a directive is no mapping. -/
theorem Directive.tokenKind_ne_mapping (d : Directive) : d.tokenKind ≠ .mapping := by
  cases d <;> nofun

/-- The mappings of a document are written in the mapping tokens that spell it. -/
theorem Spells.isWritten {tokens : List Token} {document : Document} (h : Spells tokens document)
    {t : Token} (ht : t ∈ tokens) (hkind : t.kind = .mapping) :
    ∃ m : Mapping, m.IsWritten t.text := by
  induction h with
  | empty => cases ht
  | @directive d opener colons body m tokens document hopener hcolons _ hwritten _ ih =>
    rcases List.mem_cons.mp ht with rfl | ht
    · exact absurd (hopener.symm.trans hkind) d.tokenKind_ne_mapping
    rcases List.mem_cons.mp ht with rfl | ht
    · rw [hcolons] at hkind; cases hkind
    rcases List.mem_cons.mp ht with rfl | ht
    · exact ⟨m, hwritten⟩
    · exact ih ht
  | @block opener front tokens rows document hopener hblock _ ih =>
    rcases List.mem_cons.mp ht with rfl | ht
    · rw [hopener] at hkind; cases hkind
    rcases List.mem_append.mp ht with hfront | ht
    · exact absurd (hkind ▸ List.mem_map_of_mem hfront) hblock.mapping_notMem
    · exact ih ht

/-- Tokens whose kinds are those of a document, and whose mapping tokens hold mappings, spell
one. -/
theorem exists_spells_of_document {documentKinds : List TokenKind}
    (h : Grammar.Document documentKinds) {tokens : List Token}
    (htokens : kinds tokens = documentKinds)
    (hmappings : ∀ t ∈ tokens, t.kind = .mapping → ∃ m : Mapping, m.IsWritten t.text) :
    ∃ document, Spells tokens document := by
  induction h generalizing tokens with
  | empty =>
    obtain rfl := List.map_eq_nil_iff.mp htokens
    exact ⟨[], .empty⟩
  | directive d _ ih =>
    obtain ⟨t, rest, rfl, ht, hrest⟩ := List.map_eq_cons_iff.mp htokens
    obtain ⟨colons, rest', rfl, hcolons, hrest'⟩ := List.map_eq_cons_iff.mp hrest
    obtain ⟨body, behind, rfl, hbody, hbehind⟩ := List.map_eq_cons_iff.mp hrest'
    obtain ⟨m, hwritten⟩ := hmappings body (by simp) hbody
    obtain ⟨document, hdocument⟩ := ih hbehind fun t' ht' => hmappings t' (by simp [ht'])
    exact ⟨_, .directive d ht hcolons hbody hwritten hdocument⟩
  | block hblock _ ih =>
    obtain ⟨t, rest, rfl, ht, hrest⟩ := List.map_eq_cons_iff.mp htokens
    obtain ⟨front, behind, rfl, hfront, hbehind⟩ := exists_of_kinds_eq_append hrest
    obtain ⟨rows, hrows⟩ := readRows_of_block hblock hfront {} []
    obtain ⟨front', hfront', hspells⟩ := spellsBlock_of_readRows hrows
    rw [List.append_nil, List.append_nil] at hfront'
    subst hfront'
    obtain ⟨document, hdocument⟩ := ih hbehind fun t' ht' => hmappings t' (by simp [ht'])
    exact ⟨_, .block ht hspells hdocument⟩

/-- Tokens spell a document exactly if their kinds are those of the grammar and every mapping token
holds a mapping. -/
theorem exists_spells_iff {tokens : List Token} :
    (∃ document, Spells tokens document) ↔ Grammar.Document (kinds tokens) ∧
      ∀ t ∈ tokens, t.kind = .mapping → ∃ m : Mapping, m.IsWritten t.text := by
  constructor
  · rintro ⟨document, h⟩
    exact ⟨readConstructs_eq_none_iff.mp ((spells_iff {}).mp h).1,
      fun t ht hkind => h.isWritten ht hkind⟩
  · rintro ⟨hdocument, hmappings⟩
    exact exists_spells_of_document hdocument rfl hmappings

end LevelForge.Ldl
