import Mathlib.Data.List.Chain
import LevelForge.Proofs.Ldl.Stopping
import LevelForge.Proofs.Ldl.Viable

/-!
# First violations

A text that is not read to its end is rejected for the first thing that is wrong with it. That is a
token no level text has behind those before it, or a construct with a fault: a bad body, the key of
no boss rule, or rows of different widths. Everything before it is as it should be.

* `Stops`: the token at which reading stops, and what was expected there.
* `Construct.Faulty`: the constructs with a fault of their own.
* `FirstViolation`: the failures that point at the first violation.
* `firstViolation_of_parse`: failed readings into a blueprint that is not frozen point at it.
-/

namespace LevelForge.Ldl

open Grammar (Viable Spot)

/-! ## Where reading stops -/

/-- What is expected at a spot where no other kind is allowed. -/
def Grammar.Spot.expected : Spot → TokenKind
  | .keyword => .delimiter
  | .delimiter => .mapping
  | .block | .row => .closing
  | .outside | .ended => .endOfText

/-- The token found is the first one that is not allowed on the way from a spot. -/
def Stops (stop : Position) (spot : Spot) (tokens : List Token) (fault : Unexpected) : Prop :=
  ∃ before after behind, tokens ++ [.endOfText stop] = before ++ fault.found :: after ∧
    spot.along (kinds before) = some behind ∧ behind.next fault.found.kind = none ∧
    fault.expected = behind.expected

section Reading

variable {stop : Position} {tokens behind : List Token} {fault : Unexpected}

/-- Reading stops at the end of the text where it is not allowed. -/
theorem stops_nil {spot : Spot} (h : spot.next .endOfText = none) :
    Stops stop spot [] ⟨.endOfText stop, spot.expected⟩ :=
  ⟨[], [], spot, rfl, rfl, h, rfl⟩

/-- Reading stops at a token that is not allowed. -/
theorem stops_cons {spot : Spot} {t : Token} (h : spot.next t.kind = none) (rest : List Token) :
    Stops stop spot (t :: rest) ⟨t, spot.expected⟩ :=
  ⟨[], rest ++ [.endOfText stop], spot, rfl, rfl, h, rfl⟩

/-- What is allowed in front does not change where reading stops. -/
theorem Stops.append {spot between : Spot} {front : List Token}
    (hfront : spot.along (kinds front) = some between) (h : Stops stop between behind fault) :
    Stops stop spot (front ++ behind) fault := by
  obtain ⟨before, after, last, htokens, halong, hnext, hexpected⟩ := h
  refine ⟨front ++ before, after, last, ?_, ?_, hnext, hexpected⟩
  · rw [List.append_assoc, htokens, List.append_assoc]
  · rw [kinds_append, Spot.along_append, hfront]
    exact halong

/-- A row that is not finished stops at the first token that is not allowed in it. -/
theorem stops_of_readRow (h : readRow stop tokens = .error fault) :
    Stops stop .row tokens fault := by
  induction tokens with
  | nil => cases h; exact stops_nil rfl
  | cons t rest ih =>
    unfold readRow at h
    split at h
    · next hraw =>
      split at h
      · next fault' hrow =>
        cases h
        have hfront : Spot.row.along (kinds [t]) = some .row := by rw [kinds_cons, hraw]; rfl
        exact (ih hrow).append hfront
      · cases h
    · next hraw =>
      split at h
      · cases h
      · next hclosing =>
        cases h
        exact stops_cons (Spot.next_row_eq_none hraw hclosing) rest

/-- A block that is not finished stops at the first token that is not allowed in it. -/
theorem stops_of_readRows (h : readRows stop tokens = .error fault) :
    Stops stop .block tokens fault := by
  fun_induction readRows stop tokens with
  | case1 => cases h; exact stops_nil rfl
  | case2 t rest hopening fault' hrow =>
    cases h
    have hfront : Spot.block.along (kinds [t]) = some .row := by rw [kinds_cons, hopening]; rfl
    exact (stops_of_readRow hrow).append hfront
  | case3 t rest hopening row behind hrow fault' hrows ih =>
    cases h
    obtain ⟨front, rfl, hfront⟩ := row_of_readRow hrow
    have halong : Spot.block.along (kinds (t :: front)) = some .block := by
      rw [kinds_cons, hopening]
      exact Spot.along_of_row hfront
    exact (ih hrows).append halong
  | case4 => cases h
  | case5 => cases h
  | case6 t rest hopening hclosing =>
    cases h
    exact stops_cons (Spot.next_block_eq_none hopening hclosing) rest

/-- A spot at which one kind is expected allows no other one. -/
theorem stops_of_expect (spot : Spot) (hend : spot.expected ≠ .endOfText)
    (honly : ∀ kind, kind ≠ spot.expected → spot.next kind = none)
    (h : expect stop spot.expected tokens = .error fault) : Stops stop spot tokens fault := by
  unfold expect at h
  split at h
  · cases h
    exact stops_nil (honly _ hend.symm)
  · next t rest =>
    split at h
    · cases h
    · next hkind =>
      cases h
      exact stops_cons (honly _ hkind) rest

/-- The token that is taken is of the expected kind. -/
theorem kind_of_expect {kind : TokenKind} {t : Token}
    (h : expect stop kind tokens = .ok (t, behind)) : tokens = t :: behind ∧ t.kind = kind := by
  unfold expect at h
  split at h
  · cases h
  · split at h
    · next hkind =>
      cases h
      exact ⟨rfl, hkind⟩
    · cases h

/-- The body of a directive stops at the first token that is not allowed in it. -/
theorem stops_of_readBody (h : readBody stop tokens = .error fault) :
    Stops stop .keyword tokens fault := by
  rw [readBody] at h
  cases hcolons : expect stop .delimiter tokens with
  | error fault' =>
    rw [hcolons] at h
    cases h
    exact stops_of_expect .keyword (by decide) Spot.next_keyword_eq_none hcolons
  | ok first =>
    obtain ⟨colons, rest⟩ := first
    obtain ⟨rfl, hkind⟩ := kind_of_expect hcolons
    have hfront : Spot.keyword.along (kinds [colons]) = some .delimiter := by
      rw [kinds_cons, hkind]
      rfl
    rw [hcolons] at h
    change (expect stop .mapping rest >>= _) = _ at h
    cases hbody : expect stop .mapping rest with
    | error fault' =>
      rw [hbody] at h
      cases h
      have hstops := stops_of_expect .delimiter (by decide) Spot.next_delimiter_eq_none hbody
      exact hstops.append hfront
    | ok second =>
      rw [hbody] at h
      cases h

/-- What stands before a construct stays a document with it. -/
theorem Forms.document_append {front : List Token} {construct : Construct}
    (h : Forms front construct) {kinds' : List TokenKind} (hbehind : Grammar.Document kinds') :
    Grammar.Document (kinds front ++ kinds') := by
  cases h with
  | directive d hkind hcolons hbody =>
    rw [kinds_cons, kinds_cons, kinds_cons, hkind, hcolons, hbody]
    exact hbehind.directive d
  | block hkind hblock =>
    obtain ⟨front', heq, hfront'⟩ := block_of_readRows (readRows_of_spellsBlock hblock {} [])
    rw [List.append_nil, List.append_nil] at heq
    subst heq
    rw [kinds_cons, hkind]
    exact hbehind.block hfront'

/-- A finished construct leads out of itself. -/
theorem Forms.along {front : List Token} {construct : Construct} (h : Forms front construct) :
    Spot.outside.along (kinds front) = some .outside := by
  have hdocument := h.document_append .empty
  rw [List.append_nil] at hdocument
  exact Spot.along_of_document hdocument

/-- Reading stops at the first token that is not allowed. -/
theorem stops_of_readConstructs (hends : .endOfText ∉ kinds tokens)
    (h : (readConstructs stop tokens).2 = some fault) : Stops stop .outside tokens fault := by
  fun_induction readConstructs stop tokens with
  | case1 => cases h
  | case2 t rest d hd fault' hbody =>
    cases h
    have hfront : Spot.outside.along (kinds [t]) = some .keyword := by
      rw [kinds_cons, ← Directive.tokenKind_of_ofTokenKind? hd, Spot.along,
        Spot.next_outside_tokenKind]
      rfl
    exact (stops_of_readBody hbody).append hfront
  | case3 t rest d hd body behind hbody others ih =>
    obtain ⟨front, hfront, hforms⟩ := forms_of_readBody hd hbody
    rw [hfront] at hends ⊢
    exact (ih (fun hmem => hends (by simp [hmem])) h).append hforms.along
  | case4 t rest _ hopening fault' hrows =>
    cases h
    have hfront : Spot.outside.along (kinds [t]) = some .block := by
      rw [kinds_cons, hopening]
      rfl
    exact (stops_of_readRows hrows).append hfront
  | case5 t rest _ hopening rows behind hrows others ih =>
    obtain ⟨front, hfront, hforms⟩ := forms_of_readRows hopening hrows
    rw [hfront] at hends ⊢
    exact (ih (fun hmem => hends (by simp [hmem])) h).append hforms.along
  | case6 t rest hd hopening =>
    cases h
    have hend : t.kind ≠ .endOfText := fun heq => hends (heq ▸ List.mem_cons_self)
    exact stops_cons (Spot.next_outside_eq_none hd hopening hend) rest

end Reading

/-! ## The tokens of a text -/

/-- What may come directly behind a kind in the tokens of a text: the parts of a directive are not
torn apart. -/
def Joined (kind next : TokenKind) : Prop :=
  ((Directive.ofTokenKind? kind).isSome = true → next = .delimiter) ∧
    (kind = .delimiter → next = .mapping)

/-- The parts of a directive stand together within the tokens of its lexeme. -/
theorem isChain_tokens (l : Lexeme) {rest : List TokenKind} (h : rest.IsChain Joined) :
    (kinds l.tokens ++ rest).IsChain Joined := by
  -- nothing is required behind a token that is not part of a directive
  have hfree {kind : TokenKind} (hkeyword : Directive.ofTokenKind? kind = none)
      (hdelimiter : kind ≠ .delimiter) : (kind :: rest).IsChain Joined := by
    refine List.isChain_cons.mpr ⟨fun next _ => ⟨fun hsome => ?_, fun heq => ?_⟩, h⟩
    · rw [hkeyword] at hsome
      cases hsome
    · exact absurd heq hdelimiter
  rcases kinds_tokens l with ⟨kind, hkind, htokens⟩ | ⟨d, htokens⟩
  · rw [htokens]
    rcases hkind with rfl | rfl | rfl <;> exact hfree rfl nofun
  · rw [htokens]
    refine List.IsChain.cons_cons ⟨fun _ => rfl, fun heq => ?_⟩
      (List.IsChain.cons_cons ⟨nofun, fun _ => rfl⟩ (hfree rfl nofun))
    cases d <;> cases heq

/-- In the tokens of a text the parts of every directive stand together. -/
theorem isChain_kinds_tokenize (text : String) : (kinds (tokenize text)).IsChain Joined := by
  have hlexemes (ls : List Lexeme) :
      (kinds (ls.flatMap Lexeme.tokens) ++ [TokenKind.endOfText]).IsChain Joined := by
    induction ls with
    | nil => exact List.isChain_singleton _
    | cons l ls ih =>
      rw [List.flatMap_cons, kinds_append, List.append_assoc]
      exact isChain_tokens l ih
  rw [tokenize, TokenStream.toList, kinds_append]
  exact hlexemes _

/-- Inside a directive the next kind is the one that is expected there. -/
theorem Grammar.Spot.Step.expected_of_joined {spot behind : Spot} {kind next : TokenKind}
    (h : Spot.Step spot kind behind) (hjoined : Joined kind next)
    (hbehind : behind = .keyword ∨ behind = .delimiter) : next = behind.expected := by
  cases h with
  | keyword d => exact hjoined.1 (by rw [Directive.ofTokenKind?_tokenKind]; rfl)
  | delimiter => exact hjoined.2 rfl
  | _ => rcases hbehind with hbehind | hbehind <;> cases hbehind

/-- In the tokens of a text reading does not stop inside a directive. What is expected is a closing
brace inside an open block, and the end of the text elsewhere. -/
theorem expected_eq {text : String} {before after : List Token} {t : Token} {spot : Spot}
    (htokens : tokenize text = before ++ t :: after)
    (halong : Spot.outside.along (kinds before) = some spot) (hnext : spot.next t.kind = none) :
    spot.expected =
      if (kinds before).count .closing < (kinds before).count .opening then .closing
      else .endOfText := by
  have hinside (hspot : spot = .keyword ∨ spot = .delimiter) : False := by
    rcases List.eq_nil_or_concat' (kinds before) with hnil | ⟨init, kind, hbefore⟩
    · rw [hnil] at halong
      cases halong
      rcases hspot with hspot | hspot <;> cases hspot
    · rw [hbefore, Spot.along_append] at halong
      obtain ⟨between, -, hlast⟩ := Option.bind_eq_some_iff.mp halong
      obtain ⟨_, hstep, ⟨⟩⟩ := Option.bind_eq_some_iff.mp hlast
      have hchain := isChain_kinds_tokenize text
      rw [htokens, kinds_append, hbefore, kinds_cons, List.append_assoc] at hchain
      have hjoined := (List.isChain_append_cons_cons.mp hchain).2.1
      have hkind := (Spot.step_of_next hstep).expected_of_joined hjoined hspot
      rw [hkind] at hnext
      rcases hspot with rfl | rfl <;> cases hnext
  have hcount := Spot.count_along halong
  cases spot with
  | keyword => exact (hinside (.inl rfl)).elim
  | delimiter => exact (hinside (.inr rfl)).elim
  | outside => rw [if_neg (by simp [Spot.depth] at hcount; omega)]; rfl
  | ended => rw [if_neg (by simp [Spot.depth] at hcount; omega)]; rfl
  | block => rw [if_pos (by simp [Spot.depth] at hcount; omega)]; rfl
  | row => rw [if_pos (by simp [Spot.depth] at hcount; omega)]; rfl

/-! ## Faults of constructs -/

/-- A construct with a fault of its own, and the failure that reports it. -/
inductive Construct.Faulty : Construct → Failure → Prop
  -- the body is not that of a mapping
  | shape (d : Directive) {body : String} :
      (∀ m : Mapping, ¬ m.IsWritten body) → Faulty (.directive d body) (.mapping body .shape)
  -- the key of a boss directive is not that of a rule
  | key {m : Mapping} {body : String} {fault : Boss.KeyFault} :
      m.IsWritten body → Boss.Rule.ofKey m.key m.value = .error fault →
      Faulty (.directive .boss body) (.mapping body (.boss fault))
  -- the rows of a block are not equally long
  | rows (line : Nat) {rows : List (List String)} :
      (¬ ∀ row ∈ rows, ∀ row' ∈ rows, row.length = row'.length) →
      Faulty (.block line rows) (.ragged ⟨rows.map List.length⟩ line)

/-- A construct without a fault. -/
def Construct.IsValid (construct : Construct) : Prop := ∀ failure, ¬ construct.Faulty failure

/-- A construct stands in tokens behind a document. -/
def HasConstruct (tokens : List Token) (construct : Construct) : Prop :=
  ∃ before front after, tokens = before ++ front ++ after ∧ Grammar.Document (kinds before) ∧
    Forms front construct

section Constructs

variable {stop : Position}

/-- What stands behind a document is read behind its constructs. -/
theorem readConstructs_append {front : List Token} (h : (readConstructs stop front).2 = none)
    (behind : List Token) :
    readConstructs stop (front ++ behind) =
      ((readConstructs stop front).1 ++ (readConstructs stop behind).1,
        (readConstructs stop behind).2) := by
  fun_induction readConstructs stop front with
  | case1 => rfl
  | case2 => cases h
  | case3 t rest d hd body behind' hbody others ih =>
    obtain ⟨front, hfront, hforms⟩ := forms_of_readBody hd hbody
    rw [hfront, List.append_assoc, readConstructs_of_forms hforms, ih h]
    rfl
  | case4 => cases h
  | case5 t rest _ hopening rows behind' hrows others ih =>
    obtain ⟨front, hfront, hforms⟩ := forms_of_readRows hopening hrows
    rw [hfront, List.append_assoc, readConstructs_of_forms hforms, ih h]
    rfl
  | case6 => cases h

/-- A construct that stands in tokens is read. -/
theorem HasConstruct.mem_readConstructs {tokens : List Token} {construct : Construct}
    (h : HasConstruct tokens construct) : construct ∈ (readConstructs stop tokens).1 := by
  obtain ⟨before, front, after, rfl, hdocument, hforms⟩ := h
  rw [List.append_assoc, readConstructs_append (readConstructs_eq_none_iff.mpr hdocument),
    readConstructs_of_forms hforms]
  exact List.mem_append_right _ List.mem_cons_self

/-- The constructs of a sound document are valid. -/
theorem isValid_of_isSound {tokens : List Token} {document : Document}
    (hspells : Spells tokens document) (hsound : document.IsSound) {construct : Construct}
    (h : construct ∈ (readConstructs stop tokens).1) : construct.IsValid := by
  obtain ⟨item, hitem, hisOf⟩ := exists_of_mem_of_forall₂ ((spells_iff stop).mp hspells).2 h
  rintro failure hfaulty
  cases hfaulty with
  | shape d hbody =>
    cases hisOf with
    | directive _ hwritten => exact hbody _ hwritten
  | @key m body fault hwritten hkey =>
    cases hisOf with
    | directive _ hwritten' =>
      obtain rfl := hwritten.unique hwritten'
      have hpair : (m.key, m.value) ∈ document.pairs .boss :=
        List.mem_filterMap.mpr ⟨_, hitem, if_pos rfl⟩
      obtain ⟨rule, hrule⟩ := hsound.bosses _ hpair
      cases hkey.symm.trans hrule
  | @rows line rows hrows =>
    cases hisOf
    exact hrows (hsound.blocks rows (List.mem_filterMap.mpr ⟨_, hitem, rfl⟩))

end Constructs

/-! ## Failures -/

/-- A failure that points at the first violation among the tokens of a text. -/
inductive FirstViolation (tokens : List Token) : Failure → Prop
  -- a token that no level text has behind those before it
  | unexpected {before after : List Token} {t : Token} {expected : TokenKind} :
      tokens = before ++ t :: after → Viable (kinds before) → ¬ Viable (kinds (before ++ [t])) →
      (∀ construct, HasConstruct before construct → construct.IsValid) →
      expected = (if (kinds before).count .closing < (kinds before).count .opening then .closing
        else .endOfText) →
      FirstViolation tokens (.unexpected ⟨t, expected⟩)
  -- a construct with a fault, behind a document whose constructs have none
  | faulty {before front after : List Token} {construct : Construct} {failure : Failure} :
      tokens = before ++ front ++ after → Grammar.Document (kinds before) →
      Forms front construct → Viable (kinds (before ++ front)) →
      (∀ construct', HasConstruct before construct' → construct'.IsValid) →
      construct.Faulty failure → FirstViolation tokens failure

section Failures

variable {m m' : Blueprint}

/-- What the items of a document do freezes nothing and thaws nothing. -/
theorem FillsAll.frozen_eq {document : Document} (h : FillsAll m document m') :
    m'.frozen = m.frozen ∧ m'.bosses.frozen = m.bosses.frozen := by
  induction h with
  | nil => exact ⟨rfl, rfl⟩
  | cons hfills _ ih => cases hfills <;> exact ih

/-- Only reading itself finds unexpected tokens. -/
theorem constructs_of_fill {stream : TokenStream} {fault : Unexpected}
    (h : fill m stream = (m', some (.unexpected fault))) : stream.constructs.2 = some fault := by
  have happly : ∀ (constructs : List Construct) (b b' : Blueprint),
      applyConstructs b constructs ≠ (b', some (.unexpected fault)) := by
    intro constructs
    induction constructs with
    | nil => nofun
    | cons construct rest ih =>
      intro b b' h
      rw [applyConstructs] at h
      split at h
      · next failure hfailure =>
        cases h
        cases applyConstruct_eq_error_iff.mp hfailure
      · exact ih _ _ h
  rw [fill] at h
  dsimp only at h
  split at h
  · next b failure heq =>
    cases h
    exact absurd heq (happly _ _ _)
  · next b heq =>
    obtain ⟨fault', hfault, hsame⟩ := Option.map_eq_some_iff.mp (congrArg Prod.snd h)
    cases hsame
    exact hfault

/-- A construct of some tokens is one of every list that begins with them. -/
theorem HasConstruct.mono {tokens tokens' : List Token} {construct : Construct}
    (h : HasConstruct tokens construct) (hstarts : tokens <+: tokens') :
    HasConstruct tokens' construct := by
  obtain ⟨before, front, after, rfl, hdocument, hforms⟩ := h
  obtain ⟨rest, rfl⟩ := hstarts
  exact ⟨before, front, after ++ rest, by simp, hdocument, hforms⟩

/-- Where reading a text stops, its first violation is found, if the constructs that were read are
valid. -/
theorem firstViolation_of_constructs {text : String} {fault : Unexpected}
    (h : (TokenStream.ofText text).constructs.2 = some fault)
    (hvalid : ∀ construct ∈ (TokenStream.ofText text).constructs.1, construct.IsValid) :
    FirstViolation (tokenize text) (.unexpected fault) := by
  obtain ⟨t, expected⟩ := fault
  obtain ⟨before, after, spot, htokens, halong, hnext, rfl⟩ :=
    stops_of_readConstructs (endOfText_notMem_pending text) h
  dsimp only at htokens hnext
  refine .unexpected htokens (Grammar.viable_iff.mpr ⟨spot, halong⟩) ?_ ?_
    (expected_eq htokens halong hnext)
  · rintro hviable
    obtain ⟨behind, hbehind⟩ := Grammar.viable_iff.mp hviable
    rw [kinds_append, Spot.along_append, halong, Option.bind_some] at hbehind
    obtain ⟨_, hallowed, -⟩ := Option.bind_eq_some_iff.mp hbehind
    cases hnext.symm.trans hallowed
  · intro construct hconstruct
    have hbefore : before <+: (TokenStream.ofText text).pending := by
      have hwhole : before <+: (TokenStream.ofText text).pending ++ [_] := ⟨_, htokens.symm⟩
      have hlength := congrArg List.length htokens
      simp only [List.length_append, List.length_cons, List.length_nil] at hlength
      exact List.prefix_of_prefix_length_le hwhole (List.prefix_append _ _) (by omega)
    exact hvalid construct (hconstruct.mono hbefore).mem_readConstructs

/-- A text that is not read into an unfrozen blueprint to its end is rejected for its first
violation, unless the boss rules of the blueprint were frozen on their own. -/
theorem firstViolation_of_parse {text : String} {failure : Failure} (hopen : m.frozen = false)
    (h : ((Parser.ofText text).parse (some m)).failure = some failure) :
    FirstViolation (tokenize text) failure ∨
      m.bosses.frozen = true ∧ failure = .refused (.schedule .frozen) := by
  rw [Parser.parse_ofText] at h
  have hfill : fill m (.ofText text) = ((fill m (.ofText text)).1, some failure) := Prod.ext rfl h
  obtain ⟨front, rest, document, hpending, hspells, -, hfills, hoffends⟩ := exists_of_fill hfill
  have hdocument : Grammar.Document (kinds front) := (exists_spells_iff.mp ⟨_, hspells⟩).1
  have hvalid (stop : Position) (construct : Construct)
      (hmem : construct ∈ (readConstructs stop front).1) : construct.IsValid :=
    isValid_of_isSound hspells (exists_fillsAll_iff.mp ⟨_, hfills⟩) hmem
  cases hoffends with
  | unfinished fault hunfinished =>
    -- behind the front no construct is read
    obtain ⟨fault', hrest⟩ := readConstructs_of_unfinished hunfinished
    refine .inl (firstViolation_of_constructs (constructs_of_fill hfill) ?_)
    rw [TokenStream.constructs, hpending,
      readConstructs_append (readConstructs_eq_none_iff.mpr hdocument), hrest, List.append_nil]
    exact hvalid _
  | @rejected front' construct failure behind hforms hrejects =>
    have htokens : tokenize text =
        front ++ front' ++ (behind ++ [.endOfText (TokenStream.ofText text).stop]) := by
      rw [tokenize, TokenStream.toList, hpending]
      simp only [List.append_assoc]
    have hviable : Viable (kinds (front ++ front')) := by
      refine Grammar.viable_iff.mpr ⟨.outside, ?_⟩
      rw [kinds_append, Spot.along_append, Spot.along_of_document hdocument]
      exact hforms.along
    have hfaulty (hfaulty : construct.Faulty failure) : FirstViolation (tokenize text) failure :=
      .faulty htokens hdocument hforms hviable
        (fun construct' hmem => hvalid {} construct' hmem.mem_readConstructs) hfaulty
    obtain ⟨hfrozen, hbosses⟩ := hfills.frozen_eq
    cases hrejects with
    | mapping d hbody => exact .inl (hfaulty (.shape d hbody))
    | key hwritten _ hkey => exact .inl (hfaulty (.key hwritten hkey))
    | ragged line hrows => exact .inl (hfaulty (.rows line hrows))
    | frozen _ _ hrefuses =>
      rw [hfrozen, hopen] at hrefuses
      cases hrefuses
    | schedule _ _ hrefuses => exact .inr ⟨hbosses ▸ hrefuses, rfl⟩

end Failures

/-- An alias, and a block with a symbol between its rows. -/
def strayWeed : String := "#ALIAS::a->Slurp\n\x7b\x7ba\x7d x \x7d"

/-- A raw token outside of a row, a rule with the interval zero, and rows of two widths. -/
theorem firstViolation_of_parse_weed :
    FirstViolation (tokenize strayWeed) (.unexpected ⟨⟨.raw, some "x", ⟨2, 6⟩⟩, .closing⟩) ∧
    FirstViolation (tokenize "#BOSS_SETTING::EVERY0->Bob \x7d")
      (.mapping "EVERY0->Bob" (.boss (.interval 0))) ∧
    FirstViolation (tokenize Parser.unevenClearing) (.ragged ⟨[1, 2]⟩ 2) := by
  have hunexpected : ((Parser.ofText strayWeed).parse (some {})).failure =
      some (.unexpected ⟨⟨.raw, some "x", ⟨2, 6⟩⟩, .closing⟩) := by
    decide +kernel
  have hmapping : ((Parser.ofText "#BOSS_SETTING::EVERY0->Bob \x7d").parse (some {})).failure =
      some (.mapping "EVERY0->Bob" (.boss (.interval 0))) := by
    decide +kernel
  have hragged : ((Parser.ofText Parser.unevenClearing).parse (some {})).failure =
      some (.ragged ⟨[1, 2]⟩ 2) := by
    decide +kernel
  exact ⟨(firstViolation_of_parse rfl hunexpected).resolve_right nofun,
    (firstViolation_of_parse rfl hmapping).resolve_right nofun,
    (firstViolation_of_parse rfl hragged).resolve_right nofun⟩

end LevelForge.Ldl
