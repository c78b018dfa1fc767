import LevelForge.Proofs.Ldl.Compile

/-!
# Reading that stops

Reading a text stops at the first construct that is not finished or is rejected. What stands before
it is a document, and the blueprint holds the effect of its items and nothing else; the parser is at
the start of its text again.

* `Offends`: tokens that begin with a construct at which reading stops.
* `exists_of_fill`: a stream that is not read to its end is read up to such a construct.
* `Reader.lookAhead_of_fill`: the token that is looked at where reading stops.
* `Parser.parse_readInto`: every reading of a parser, whatever it read before.
-/

namespace LevelForge.Ldl

/-! ## Finished and unfinished constructs -/

/-- Tokens, and the one construct that they are read as. -/
inductive Forms : List Token → Construct → Prop
  | directive (d : Directive) {t colons body : Token} :
      t.kind = d.tokenKind → colons.kind = .delimiter → body.kind = .mapping →
      Forms [t, colons, body] (.directive d body.text)
  | block {t : Token} {front : List Token} {rows : List (List String)} :
      t.kind = .opening → SpellsBlock front rows →
      Forms (t :: front) (.block t.position.line rows)

/-- Tokens that begin with no finished construct. -/
def Unfinished (tokens : List Token) : Prop :=
  tokens ≠ [] ∧ ∀ front construct, front <+: tokens → ¬ Forms front construct

/-- Tokens that begin with a construct at which reading into a blueprint stops. -/
inductive Offends (b : Blueprint) : List Token → Failure → Prop
  | unfinished {tokens : List Token} (fault : Unexpected) :
      Unfinished tokens → Offends b tokens (.unexpected fault)
  | rejected {front : List Token} {construct : Construct} {failure : Failure}
      (behind : List Token) :
      Forms front construct → Rejects b construct failure → Offends b (front ++ behind) failure

section Reading

variable {stop : Position}

/-- A construct has a token. -/
theorem Forms.ne_nil {front : List Token} {construct : Construct} (h : Forms front construct) :
    front ≠ [] := by
  cases h <;> exact List.cons_ne_nil _ _

/-- A keyword and what is read as a body form a directive. -/
theorem forms_of_readBody {t : Token} {rest behind : List Token} {d : Directive} {body : String}
    (hd : Directive.ofTokenKind? t.kind = some d) (h : readBody stop rest = .ok (body, behind)) :
    ∃ front, t :: rest = front ++ behind ∧ Forms front (.directive d body) := by
  obtain ⟨colons, t', rfl, hcolons, ht', rfl⟩ := exists_of_readBody h
  exact ⟨[t, colons, t'], rfl,
    .directive d (Directive.tokenKind_of_ofTokenKind? hd).symm hcolons ht'⟩

/-- An opening brace and what is read as rows form a block. -/
theorem forms_of_readRows {t : Token} {rest behind : List Token} {rows : List (List String)}
    (hopening : t.kind = .opening) (h : readRows stop rest = .ok (rows, behind)) :
    ∃ front, t :: rest = front ++ behind ∧ Forms front (.block t.position.line rows) := by
  obtain ⟨front, rfl, hblock⟩ := spellsBlock_of_readRows h
  exact ⟨t :: front, rfl, .block hopening hblock⟩

/-- A finished construct is read first, whatever comes behind it. -/
theorem readConstructs_of_forms {front : List Token} {construct : Construct}
    (h : Forms front construct) (behind : List Token) :
    readConstructs stop (front ++ behind) =
      (construct :: (readConstructs stop behind).1, (readConstructs stop behind).2) := by
  cases h with
  | directive d hkind hcolons hbody =>
    rw [List.cons_append, readConstructs]
    simp only [hkind, Directive.ofTokenKind?_tokenKind, List.cons_append, List.nil_append]
    rw [readBody_cons_cons behind hcolons hbody]
  | block hkind hblock =>
    rw [List.cons_append, readConstructs]
    simp only [hkind, Directive.ofTokenKind?, if_true]
    rw [readRows_of_spellsBlock hblock stop]

/-- Where no construct is finished none is read, and reading stops. -/
theorem readConstructs_of_unfinished {tokens : List Token} (h : Unfinished tokens) :
    ∃ fault, readConstructs stop tokens = ([], some fault) := by
  obtain ⟨hne, hforms⟩ := h
  fun_cases readConstructs stop tokens with
  | case1 => exact absurd rfl hne
  | case2 => exact ⟨_, rfl⟩
  | case3 t rest d hd body behind hbody others =>
    obtain ⟨front, hfront, hdirective⟩ := forms_of_readBody hd hbody
    exact absurd hdirective (hforms _ _ ⟨behind, hfront.symm⟩)
  | case4 => exact ⟨_, rfl⟩
  | case5 t rest _ hopening rows behind hrows others =>
    obtain ⟨front, hfront, hblock⟩ := forms_of_readRows hopening hrows
    exact absurd hblock (hforms _ _ ⟨behind, hfront.symm⟩)
  | case6 => exact ⟨_, rfl⟩

theorem fill_nil (b : Blueprint) : fill b ⟨[], stop⟩ = (b, none) := by
  rw [fill, TokenStream.constructs, readConstructs]
  rfl

/-- The first construct has its effect before the rest is read; if it is rejected nothing is. -/
theorem fill_of_forms (b : Blueprint) {front : List Token} {construct : Construct}
    (h : Forms front construct) (behind : List Token) :
    fill b ⟨front ++ behind, stop⟩ =
      match applyConstruct b construct with
      | .error failure => (b, some failure)
      | .ok b' => fill b' ⟨behind, stop⟩ := by
  rw [fill, TokenStream.constructs, readConstructs_of_forms h]
  simp only [applyConstructs]
  cases applyConstruct b construct <;> rfl

/-- Where no construct is finished a blueprint stays as it is. -/
theorem fill_of_unfinished (b : Blueprint) {tokens : List Token} (h : Unfinished tokens) :
    ∃ fault, fill b ⟨tokens, stop⟩ = (b, some (.unexpected fault)) := by
  obtain ⟨fault, hread⟩ := readConstructs_of_unfinished h
  refine ⟨fault, ?_⟩
  rw [fill, TokenStream.constructs, hread]
  rfl

end Reading

/-! ## What was read before -/

section Prefixes

variable {b b' : Blueprint}

/-- Tokens of a construct before those of a document spell its item before the document. -/
theorem Forms.spells {front tokens : List Token} {construct : Construct} {item : Item}
    {document : Document} (h : Forms front construct) (hitem : construct.IsOf item)
    (hspells : Spells tokens document) : Spells (front ++ tokens) (item :: document) := by
  cases h with
  | directive d hkind hcolons hbody =>
    cases hitem with
    | directive _ hwritten => exact .directive d hkind hcolons hbody hwritten hspells
  | block hkind hblock =>
    cases hitem
    exact .block hkind hblock hspells

/-- An effect does not change what a blueprint takes. -/
theorem Fills.takes_iff {item : Item} (h : Fills b item b') (other : Item) :
    Takes b' other ↔ Takes b other := by
  constructor
  · rintro ⟨hblueprint, hbosses⟩
    cases h <;> exact ⟨hblueprint, hbosses⟩
  · rintro ⟨hblueprint, hbosses⟩
    cases h <;> exact ⟨hblueprint, hbosses⟩

/-- A stream that is not read to its end is read up to a construct that is not finished or is
rejected: what stands before it spells a document, and the blueprint afterwards holds the effect of
its items in order and nothing else. -/
theorem exists_of_fill {stream : TokenStream} {failure : Failure}
    (h : fill b stream = (b', some failure)) :
    ∃ front rest document, stream.pending = front ++ rest ∧ Spells front document ∧
      (∀ item ∈ document, Takes b item) ∧ FillsAll b document b' ∧ Offends b' rest failure := by
  obtain ⟨tokens, stop⟩ := stream
  show ∃ front rest document, tokens = front ++ rest ∧ _
  induction hlength : tokens.length using Nat.strongRecOn generalizing b tokens with
  | _ length ih =>
    by_cases hne : tokens = []
    · rw [hne, fill_nil] at h
      cases h
    by_cases hforms : ∃ front construct, front <+: tokens ∧ Forms front construct
    · obtain ⟨front, construct, ⟨behind, rfl⟩, hfront⟩ := hforms
      rw [fill_of_forms b hfront] at h
      cases happly : applyConstruct b construct with
      | error failure' =>
        rw [happly] at h
        cases h
        exact ⟨[], _, [], rfl, .empty, by simp, .nil _,
          .rejected behind hfront (applyConstruct_eq_error_iff.mp happly)⟩
      | ok b₁ =>
        rw [happly] at h
        obtain ⟨item, hitem, htakes, hfills⟩ := applyConstruct_eq_ok_iff.mp happly
        have hshorter : behind.length < length := by
          rw [← hlength, List.length_append]
          exact Nat.lt_add_of_pos_left (List.length_pos_iff.mpr hfront.ne_nil)
        obtain ⟨front', rest, document, rfl, hspells, htakesAll, hfillsAll, hoffends⟩ :=
          ih _ hshorter behind h rfl
        refine ⟨front ++ front', rest, item :: document, (List.append_assoc _ _ _).symm,
          hfront.spells hitem hspells, ?_, .cons hfills hfillsAll, hoffends⟩
        rintro other hother
        rcases List.mem_cons.mp hother with rfl | hother
        · exact htakes
        · exact (hfills.takes_iff other).mp (htakesAll other hother)
    · have hunfinished : Unfinished tokens :=
        ⟨hne, fun front construct hfront hconstruct =>
          hforms ⟨front, construct, hfront, hconstruct⟩⟩
      obtain ⟨fault, hfill⟩ : ∃ fault, fill b ⟨tokens, stop⟩ = (b, some (.unexpected fault)) :=
        fill_of_unfinished b hunfinished
      rw [hfill] at h
      cases h
      exact ⟨[], tokens, [], rfl, .empty, by simp, .nil _, .unfinished fault hunfinished⟩

end Prefixes

/-! ## The token at which a reader stops -/

namespace Reader

variable {α β : Type} {r behind : Reader} {fault : Unexpected}

/-- What is made of a reading stops where the reading stops. -/
theorem Outcome.map_eq_stopped {o : Outcome α} {f : α → β} :
    o.map f = .stopped fault r ↔ o = .stopped fault r := by
  cases o <;> simp [Outcome.map]

/-- The token that is not of the expected kind is not taken. -/
theorem lookAhead_of_expect {kind : TokenKind} (h : r.expect kind = .stopped fault behind) :
    behind.lookAhead = fault.found := by
  rw [expect] at h
  split at h
  · cases h
  · cases h
    rfl

/-- A row that stops leaves the unexpected token to be looked at. -/
theorem lookAhead_of_row (h : r.row = .stopped fault behind) :
    behind.lookAhead = fault.found := by
  fun_induction row r with
  | case1 r hraw ih => exact ih (Outcome.map_eq_stopped.mp h)
  | case2 r hraw => exact lookAhead_of_expect (Outcome.map_eq_stopped.mp h)

/-- A block that stops leaves the unexpected token to be looked at. -/
theorem lookAhead_of_rows (h : r.rows = .stopped fault behind) :
    behind.lookAhead = fault.found := by
  fun_induction rows r with
  | case1 r hopening fault' behind' hrow =>
    cases h
    exact lookAhead_of_row hrow
  | case2 r hopening row behind' hrow ih => exact ih (Outcome.map_eq_stopped.mp h)
  | case3 r hopening => exact lookAhead_of_expect (Outcome.map_eq_stopped.mp h)

/-- The body of a directive that stops leaves the unexpected token to be looked at. -/
theorem lookAhead_of_body (h : r.body = .stopped fault behind) :
    behind.lookAhead = fault.found := by
  rw [body] at h
  split at h
  · next hcolons =>
    cases h
    exact lookAhead_of_expect hcolons
  · exact lookAhead_of_expect (Outcome.map_eq_stopped.mp h)

/-- A construct that stops leaves the unexpected token to be looked at. -/
theorem lookAhead_of_construct (h : r.construct? = some (.stopped fault behind)) :
    behind.lookAhead = fault.found := by
  rw [construct?] at h
  split at h
  · exact lookAhead_of_body (Outcome.map_eq_stopped.mp (Option.some.inj h))
  · split at h
    · exact lookAhead_of_rows (Outcome.map_eq_stopped.mp (Option.some.inj h))
    · cases h

/-- A reader that stops at an unexpected token looks at this token. -/
theorem lookAhead_of_fill {b : Blueprint} (h : (r.fill b).2.2 = some (.unexpected fault)) :
    (r.fill b).1.lookAhead = fault.found := by
  fun_induction fill r b with
  | case1 => cases h
  | case2 r b hnone fault' behind' hend =>
    cases h
    exact lookAhead_of_expect hend
  | case3 r b fault' behind' hread =>
    cases h
    exact lookAhead_of_construct hread
  | case4 r b construct behind' hread failure happly =>
    cases h
    cases applyConstruct_eq_error_iff.mp happly
  | case5 r b construct behind' hread b' happly ih => exact ih h

end Reader

/-! ## Readings of one parser -/

namespace Parser

/-- A parser after readings into some blueprints, or into none. -/
def readInto (p : Parser) (targets : List (Option Blueprint)) : Parser :=
  targets.foldl (fun p target => (p.parse target).parser) p

/-- In the middle of its text a parser that stopped at an unexpected token looks at this token. -/
theorem lookAhead_read {p : Parser} {b : Blueprint} {fault : Unexpected}
    (h : (p.read b).2.2 = some (.unexpected fault)) :
    (p.read b).1.lookAhead = some fault.found :=
  congrArg some (Reader.lookAhead_of_fill h)

/-- A reading leaves the parser of a text as it was: where it has left the parser in the middle of
the text, the parser is rewound. -/
theorem parser_parse_ofText (text : String) (target : Option Blueprint) :
    ((ofText text).parse target).parser = ofText text := by
  cases target with
  | none => rfl
  | some m => rw [parse_ofText]

/-- However often the parser of a text was used, it is as it was. -/
theorem readInto_ofText (text : String) (targets : List (Option Blueprint)) :
    (ofText text).readInto targets = ofText text := by
  induction targets with
  | nil => rfl
  | cons target targets ih =>
    rw [readInto, List.foldl_cons, parser_parse_ofText]
    exact ih

/-- After any readings, failed ones and those into no blueprint included, a parser reads as a new
one does, and a failed reading leaves exactly the valid front of the text: the blueprint holds what
the items of the document before the offending construct say, in order, and nothing of this
construct. -/
theorem parse_readInto (text : String) (targets : List (Option Blueprint)) :
    (∀ target, ((ofText text).readInto targets).parse target = (ofText text).parse target) ∧
    ∀ m : Blueprint, ∃ m' failure?,
      ((ofText text).readInto targets).parse (some m) = ⟨ofText text, some m', failure?⟩ ∧
      ∀ failure, failure? = some failure → ∃ front rest document,
        (TokenStream.ofText text).pending = front ++ rest ∧ Spells front document ∧
        (∀ item ∈ document, Takes m item) ∧ FillsAll m document m' ∧ Offends m' rest failure := by
  rw [readInto_ofText]
  refine ⟨fun _ => rfl, fun m => ⟨_, _, parse_ofText text m, ?_⟩⟩
  intro failure hfailure
  exact exists_of_fill (Prod.ext rfl hfailure)

/-- A block, and behind it one with rows of two widths and an alias. -/
def unevenClearing : String :=
  "\x7b\x7ba 0\x7d\x7d\n\x7b\x7ba\x7d\x7ba 0\x7d\x7d #ALIAS::a->Slurp"

/-- The block in front is in the blueprint; the one with rows of two widths left nothing there. -/
theorem parse_readInto_clearing :
    ∃ m' front rest document, m'.templates.size = 1 ∧ m'.aliases = .empty ∧
      (TokenStream.ofText unevenClearing).pending = front ++ rest ∧ Spells front document ∧
      FillsAll {} document m' ∧ Offends m' rest (.ragged ⟨[1, 2]⟩ 2) := by
  have hfailure : (fill {} (.ofText unevenClearing)).2 = some (.ragged ⟨[1, 2]⟩ 2) := by
    decide +kernel
  have htemplates : (fill {} (.ofText unevenClearing)).1.templates.size = 1 := by decide +kernel
  have haliases : (fill {} (.ofText unevenClearing)).1.aliases = .empty := by decide +kernel
  obtain ⟨m', failure?, hparse, hstops⟩ := (parse_readInto unevenClearing [none, some {}]).2 {}
  rw [(parse_readInto unevenClearing [none, some {}]).1, parse_ofText] at hparse
  cases hparse
  obtain ⟨front, rest, document, hpending, hspells, -, hfills, hoffends⟩ := hstops _ hfailure
  exact ⟨_, front, rest, document, htemplates, haliases, hpending, hspells, hfills, hoffends⟩

end Parser

end LevelForge.Ldl
