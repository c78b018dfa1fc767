import LevelForge.Proofs.Ldl.TokenList

/-!
# The grammar of level texts

Which sequences of token kinds are level texts, said without reading them. A document is a
sequence of directives, each with its delimiter and its mapping, and of blocks, each a sequence of
rows of raw tokens in braces.

* `readConstructs_eq_none_iff`: reading arrives at the end of exactly the documents.
-/

namespace LevelForge.Ldl

namespace Grammar

/-- What follows the opening brace of a row: raw tokens and the closing brace. -/
inductive Row : List TokenKind → Prop where
  | close : Row [.closing]
  | symbol {kinds : List TokenKind} : Row kinds → Row (.raw :: kinds)

/-- What follows the opening brace of a block: rows in braces and the closing brace. -/
inductive Block : List TokenKind → Prop where
  | close : Block [.closing]
  | row {row kinds : List TokenKind} : Row row → Block kinds → Block (.opening :: row ++ kinds)

/-- The token kinds of a level text before its end. -/
inductive Document : List TokenKind → Prop where
  | empty : Document []
  | directive (d : Directive) {kinds : List TokenKind} :
      Document kinds → Document (d.tokenKind :: .delimiter :: .mapping :: kinds)
  | block {block kinds : List TokenKind} :
      Block block → Document kinds → Document (.opening :: block ++ kinds)

end Grammar

/-- The kinds of tokens. -/
def kinds (tokens : List Token) : List TokenKind := tokens.map Token.kind

@[simp]
theorem kinds_nil : kinds [] = [] := rfl

@[simp]
theorem kinds_cons (t : Token) (tokens : List Token) :
    kinds (t :: tokens) = t.kind :: kinds tokens := rfl

@[simp]
theorem kinds_append (a b : List Token) : kinds (a ++ b) = kinds a ++ kinds b :=
  List.map_append

/-! ## Rows -/

/-- What is read as a row is a row of the grammar. -/
theorem row_of_readRow {stop : Position} {tokens behind : List Token} {row : List String}
    (h : readRow stop tokens = .ok (row, behind)) :
    ∃ front, tokens = front ++ behind ∧ Grammar.Row (kinds front) := by
  induction tokens generalizing row with
  | nil => simp [readRow] at h
  | cons t rest ih =>
    unfold readRow at h
    split at h
    · next hraw =>
      split at h
      · cases h
      · next row' behind' hrow =>
        cases h
        obtain ⟨front, rfl, hfront⟩ := ih hrow
        exact ⟨t :: front, rfl, by simpa [hraw] using hfront.symbol⟩
    · split at h
      · next hclosing =>
        cases h
        exact ⟨[t], rfl, by simpa [hclosing] using Grammar.Row.close⟩
      · cases h

/-- A row of the grammar is read, whatever comes behind it. -/
theorem readRow_of_row {front : List Token} (h : Grammar.Row (kinds front)) (stop : Position)
    (behind : List Token) : ∃ row, readRow stop (front ++ behind) = .ok (row, behind) := by
  induction front with
  | nil => cases h
  | cons t rest ih =>
    rw [kinds_cons] at h
    generalize hkind : t.kind = kind at h
    generalize hkinds : kinds rest = others at h
    cases h with
    | close =>
      obtain rfl := List.map_eq_nil_iff.mp hkinds
      exact ⟨[], by simp [readRow, hkind]⟩
    | symbol hrest =>
      obtain ⟨row, hrow⟩ := ih (hkinds ▸ hrest)
      exact ⟨t.text :: row, by simp [readRow, hkind, hrow]⟩

/-! ## Blocks -/

/-- What is read as a block is a block of the grammar. -/
theorem block_of_readRows {stop : Position} {tokens behind : List Token}
    {rows : List (List String)} (h : readRows stop tokens = .ok (rows, behind)) :
    ∃ front, tokens = front ++ behind ∧ Grammar.Block (kinds front) := by
  fun_induction readRows stop tokens generalizing rows behind with
  | case1 => cases h
  | case2 => cases h
  | case3 => cases h
  | case4 t rest hopening row behind' hrow rows' behind'' hrows ih =>
    cases h
    obtain ⟨front, rfl, hfront⟩ := row_of_readRow hrow
    obtain ⟨front', rfl, hfront'⟩ := ih hrows
    exact ⟨t :: front ++ front', by simp, by simpa [hopening] using hfront'.row hfront⟩
  | case5 t rest _ hclosing =>
    cases h
    exact ⟨[t], rfl, by simpa [hclosing] using Grammar.Block.close⟩
  | case6 => cases h

/-- A sequence of kinds that is put together from two was made of two sequences of tokens. -/
theorem exists_of_kinds_eq_append {tokens : List Token} {a b : List TokenKind}
    (h : kinds tokens = a ++ b) : ∃ s t, tokens = s ++ t ∧ kinds s = a ∧ kinds t = b := by
  obtain ⟨s, t, rfl, hs, ht⟩ := List.map_eq_append_iff.mp h
  exact ⟨s, t, rfl, hs, ht⟩

/-- A block of the grammar is read, whatever comes behind it. -/
theorem readRows_of_block {blockKinds : List TokenKind} (h : Grammar.Block blockKinds)
    {front : List Token} (hfront : kinds front = blockKinds) (stop : Position)
    (behind : List Token) : ∃ rows, readRows stop (front ++ behind) = .ok (rows, behind) := by
  induction h generalizing front with
  | close =>
    obtain ⟨t, rfl, ht⟩ := List.map_eq_singleton_iff.mp hfront
    exact ⟨[], by rw [List.singleton_append, readRows]; simp [ht]⟩
  | row hrow _ ih =>
    obtain ⟨t, rest, rfl, ht, hrest⟩ := List.map_eq_cons_iff.mp hfront
    obtain ⟨first, others, rfl, hfirst, hothers⟩ := exists_of_kinds_eq_append hrest
    obtain ⟨row, hread⟩ := readRow_of_row (hfirst ▸ hrow) stop (others ++ behind)
    obtain ⟨rows, hreads⟩ := ih hothers
    refine ⟨row :: rows, ?_⟩
    rw [List.cons_append, List.append_assoc, readRows]
    simp only [ht, if_true]
    rw [hread]
    simp [hreads]

/-! ## Documents -/

/-- What is read as the body of a directive is a delimiter and a mapping. -/
theorem kinds_of_readBody {stop : Position} {tokens behind : List Token} {body : String}
    (h : readBody stop tokens = .ok (body, behind)) :
    kinds tokens = .delimiter :: .mapping :: kinds behind := by
  match tokens with
  | [] => simp [readBody, expect, bind, Except.bind] at h
  | [t] =>
    by_cases ht : t.kind = .delimiter <;>
      simp [readBody, expect, ht, bind, Except.bind] at h
  | t :: t' :: rest =>
    by_cases ht : t.kind = .delimiter
    · by_cases ht' : t'.kind = .mapping
      · simp only [readBody, expect, ht, ht', if_true, bind, Except.bind, pure, Except.pure,
          Except.ok.injEq, Prod.mk.injEq] at h
        simp [ht, ht', h.2]
      · simp [readBody, expect, ht, ht', bind, Except.bind] at h
    · simp [readBody, expect, ht, bind, Except.bind] at h

/-- A delimiter and a mapping are read as the body of a directive. -/
theorem readBody_cons_cons {stop : Position} {t t' : Token} (rest : List Token)
    (ht : t.kind = .delimiter) (ht' : t'.kind = .mapping) :
    readBody stop (t :: t' :: rest) = .ok (t'.text, rest) := by
  simp [readBody, expect, ht, ht', bind, Except.bind, pure, Except.pure]

/-- The keyword of a directive starts that directive. -/
@[simp]
theorem Directive.ofTokenKind?_tokenKind (d : Directive) :
    Directive.ofTokenKind? d.tokenKind = some d := by
  cases d <;> rfl

/-- Only the keyword of a directive starts it. -/
theorem Directive.tokenKind_of_ofTokenKind? {d : Directive} {kind : TokenKind}
    (h : Directive.ofTokenKind? kind = some d) : d.tokenKind = kind := by
  cases kind <;> simp [Directive.ofTokenKind?] at h <;> subst h <;> rfl

/-- What is read to its end is a document of the grammar. -/
theorem document_of_readConstructs {stop : Position} {tokens : List Token}
    (h : (readConstructs stop tokens).2 = none) : Grammar.Document (kinds tokens) := by
  fun_induction readConstructs stop tokens with
  | case1 => exact .empty
  | case2 => cases h
  | case3 t rest d hd body behind hbody others ih =>
    rw [kinds_cons, kinds_of_readBody hbody, ← Directive.tokenKind_of_ofTokenKind? hd]
    exact (ih h).directive d
  | case4 => cases h
  | case5 t rest _ hopening rows behind hrows others ih =>
    obtain ⟨front, rfl, hfront⟩ := block_of_readRows hrows
    rw [kinds_cons, kinds_append, hopening]
    exact (ih h).block hfront
  | case6 => cases h

/-- A document of the grammar is read to its end. -/
theorem readConstructs_of_document {documentKinds : List TokenKind}
    (h : Grammar.Document documentKinds) {tokens : List Token}
    (htokens : kinds tokens = documentKinds) (stop : Position) :
    (readConstructs stop tokens).2 = none := by
  induction h generalizing tokens with
  | empty =>
    obtain rfl := List.map_eq_nil_iff.mp htokens
    rw [readConstructs]
  | directive d _ ih =>
    obtain ⟨t, rest, rfl, ht, hrest⟩ := List.map_eq_cons_iff.mp htokens
    obtain ⟨t', rest', rfl, ht', hrest'⟩ := List.map_eq_cons_iff.mp hrest
    obtain ⟨t'', behind, rfl, ht'', hbehind⟩ := List.map_eq_cons_iff.mp hrest'
    rw [readConstructs]
    simp only [ht, Directive.ofTokenKind?_tokenKind]
    rw [readBody_cons_cons behind ht' ht'']
    exact ih hbehind
  | block hblock _ ih =>
    obtain ⟨t, rest, rfl, ht, hrest⟩ := List.map_eq_cons_iff.mp htokens
    obtain ⟨front, behind, rfl, hfront, hbehind⟩ := exists_of_kinds_eq_append hrest
    obtain ⟨rows, hrows⟩ := readRows_of_block hblock hfront stop behind
    rw [readConstructs]
    simp only [ht, Directive.ofTokenKind?, if_true]
    rw [hrows]
    exact ih hbehind

/-- Reading arrives at the end of exactly the documents. -/
theorem readConstructs_eq_none_iff {stop : Position} {tokens : List Token} :
    (readConstructs stop tokens).2 = none ↔ Grammar.Document (kinds tokens) :=
  ⟨document_of_readConstructs, fun h => readConstructs_of_document h rfl stop⟩

end LevelForge.Ldl
