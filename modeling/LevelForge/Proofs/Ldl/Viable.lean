import LevelForge.Proofs.Ldl.Grammar
import Mathlib.Data.List.Basic

/-!
# Viable beginnings

Token kinds are the beginning of a level text if they can be continued to one. Where reading stands
in the text is one of a few spots, and a beginning is viable exactly if every one of its kinds is
allowed at the spot behind those before it.

* `Grammar.Viable`: the beginnings of level texts, their end included.
* `Grammar.Spot.along`: the spot behind some kinds.
* `Grammar.viable_iff`: a beginning is viable exactly if it leads to a spot.
* `Grammar.Spot.count_along`: how many braces are open at a spot.
-/

namespace LevelForge.Ldl.Grammar

/-- Kinds with which a document and the end of its text may begin. -/
def Viable (kinds : List TokenKind) : Prop :=
  ∃ document, Document document ∧ kinds <+: document ++ [.endOfText]

/-! ## Spots -/

/-- Where reading stands in a level text. -/
inductive Spot where
  -- between directives and blocks
  | outside
  -- behind the keyword of a directive
  | keyword
  -- behind the two colons of a directive
  | delimiter
  -- between the rows of a block
  | block
  -- between the symbols of a row
  | row
  -- behind the end of the text
  | ended
  deriving DecidableEq, Repr

namespace Spot

/-- The spot behind one more kind, if it is allowed. -/
def next : Spot → TokenKind → Option Spot
  | .outside, .alias | .outside, .setting | .outside, .bossSetting => some .keyword
  | .outside, .opening => some .block
  | .outside, .endOfText => some .ended
  | .keyword, .delimiter => some .delimiter
  | .delimiter, .mapping => some .outside
  | .block, .opening => some .row
  | .block, .closing => some .outside
  | .row, .raw => some .row
  | .row, .closing => some .block
  | _, _ => none

/-- The kinds that are allowed at a spot, each with the spot behind it. -/
inductive Step : Spot → TokenKind → Spot → Prop
  | keyword (d : Directive) : Step .outside d.tokenKind .keyword
  | delimiter : Step .keyword .delimiter .delimiter
  | mapping : Step .delimiter .mapping .outside
  | openBlock : Step .outside .opening .block
  | openRow : Step .block .opening .row
  | symbol : Step .row .raw .row
  | closeRow : Step .row .closing .block
  | closeBlock : Step .block .closing .outside
  | finish : Step .outside .endOfText .ended

/-- The kinds that are allowed at a spot are those of the steps from it. -/
theorem step_of_next {spot behind : Spot} {kind : TokenKind} (h : spot.next kind = some behind) :
    Step spot kind behind := by
  cases spot <;> cases kind <;> cases h
  any_goals constructor
  · exact .keyword .alias
  · exact .keyword .setting
  · exact .keyword .boss

/-- The spot behind some kinds, if they are allowed. -/
def along (spot : Spot) : List TokenKind → Option Spot
  | [] => some spot
  | kind :: rest => (spot.next kind).bind fun behind => behind.along rest

/-- What leads from a spot to the end of the text by the shortest way. -/
def finish : Spot → List TokenKind
  | .outside => [.endOfText]
  | .keyword => [.delimiter, .mapping, .endOfText]
  | .delimiter => [.mapping, .endOfText]
  | .block => [.closing, .endOfText]
  | .row => [.closing, .closing, .endOfText]
  | .ended => []

/-- How many braces are open at a spot. -/
def depth : Spot → Nat
  | .block => 1
  | .row => 2
  | _ => 0

/-- What is to come at a spot: the rest of a level text. -/
def Completes : Spot → List TokenKind → Prop
  | .outside, kinds => ∃ d, Document d ∧ kinds = d ++ [.endOfText]
  | .keyword, kinds => ∃ d, Document d ∧ kinds = .delimiter :: .mapping :: d ++ [.endOfText]
  | .delimiter, kinds => ∃ d, Document d ∧ kinds = .mapping :: d ++ [.endOfText]
  | .block, kinds => ∃ b d, Block b ∧ Document d ∧ kinds = b ++ d ++ [.endOfText]
  | .row, kinds => ∃ r b d, Row r ∧ Block b ∧ Document d ∧ kinds = r ++ b ++ d ++ [.endOfText]
  | .ended, kinds => kinds = []

/-- Behind two runs of kinds is behind the second, started behind the first. -/
theorem along_append (spot : Spot) (a b : List TokenKind) :
    spot.along (a ++ b) = (spot.along a).bind fun behind => behind.along b := by
  induction a generalizing spot with
  | nil => rfl
  | cons kind a ih =>
    rw [List.cons_append, along, along]
    cases spot.next kind with
    | none => rfl
    | some behind => exact ih behind

/-- A directive may stand outside of blocks. -/
@[simp]
theorem next_outside_tokenKind (d : Directive) : outside.next d.tokenKind = some .keyword := by
  cases d <;> rfl

/-- Behind the keyword of a directive only the two colons are allowed. -/
theorem next_keyword_eq_none (kind : TokenKind) (h : kind ≠ .delimiter) :
    keyword.next kind = none := by
  cases kind <;> first | rfl | contradiction

/-- Behind the two colons only a mapping is allowed. -/
theorem next_delimiter_eq_none (kind : TokenKind) (h : kind ≠ .mapping) :
    delimiter.next kind = none := by
  cases kind <;> first | rfl | contradiction

/-- In a row only raw tokens and its closing brace are allowed. -/
theorem next_row_eq_none {kind : TokenKind} (hraw : kind ≠ .raw) (hclosing : kind ≠ .closing) :
    row.next kind = none := by
  cases kind <;> first | rfl | contradiction

/-- In a block only rows and its closing brace are allowed. -/
theorem next_block_eq_none {kind : TokenKind} (hopening : kind ≠ .opening)
    (hclosing : kind ≠ .closing) : block.next kind = none := by
  cases kind <;> first | rfl | contradiction

theorem next_outside_eq_none {kind : TokenKind} (hkeyword : Directive.ofTokenKind? kind = none)
    (hopening : kind ≠ .opening) (hend : kind ≠ .endOfText) : outside.next kind = none := by
  cases kind <;> first | rfl | contradiction

/-! ## The grammar along the spots -/

/-- A row leads back into its block. -/
theorem along_of_row {kinds : List TokenKind} (h : Row kinds) : row.along kinds = some .block := by
  induction h with
  | close => rfl
  | symbol _ ih => exact ih

/-- A block leads out of it. -/
theorem along_of_block {kinds : List TokenKind} (h : Block kinds) :
    block.along kinds = some .outside := by
  induction h with
  | close => rfl
  | row hrow _ ih =>
    rw [List.cons_append, along]
    show row.along _ = _
    rw [along_append, along_of_row hrow]
    exact ih

/-- A document leads back to where it starts. -/
theorem along_of_document {kinds : List TokenKind} (h : Document kinds) :
    outside.along kinds = some .outside := by
  induction h with
  | empty => rfl
  | directive d _ ih =>
    rw [along, next_outside_tokenKind]
    exact ih
  | block hblock _ ih =>
    rw [List.cons_append, along]
    show block.along _ = _
    rw [along_append, along_of_block hblock]
    exact ih

/-- What is to come at a spot leads to the end. -/
theorem Completes.along {spot : Spot} {kinds : List TokenKind} (h : spot.Completes kinds) :
    spot.along kinds = some .ended := by
  have houtside {d : List TokenKind} (hd : Document d) :
      outside.along (d ++ [.endOfText]) = some .ended := by
    rw [along_append, along_of_document hd]
    rfl
  have hblock {b d : List TokenKind} (hb : Block b) (hd : Document d) :
      block.along (b ++ d ++ [.endOfText]) = some .ended := by
    rw [List.append_assoc, along_append, along_of_block hb]
    exact houtside hd
  cases spot with
  | outside =>
    obtain ⟨d, hd, rfl⟩ := h
    exact houtside hd
  | keyword =>
    obtain ⟨d, hd, rfl⟩ := h
    exact houtside hd
  | delimiter =>
    obtain ⟨d, hd, rfl⟩ := h
    exact houtside hd
  | block =>
    obtain ⟨b, d, hb, hd, rfl⟩ := h
    exact hblock hb hd
  | row =>
    obtain ⟨r, b, d, hr, hb, hd, rfl⟩ := h
    rw [List.append_assoc, List.append_assoc, along_append, along_of_row hr, ← List.append_assoc]
    exact hblock hb hd
  | ended =>
    obtain rfl : kinds = [] := h
    rfl

/-- A kind that is allowed comes before what is to come behind it. -/
theorem Completes.cons {spot behind : Spot} {kind : TokenKind} {kinds : List TokenKind}
    (hstep : Step spot kind behind) (h : behind.Completes kinds) :
    spot.Completes (kind :: kinds) := by
  cases hstep with
  | keyword d =>
    obtain ⟨document, hd, rfl⟩ := h
    exact ⟨_, hd.directive d, rfl⟩
  | delimiter =>
    obtain ⟨document, hd, rfl⟩ := h
    exact ⟨document, hd, rfl⟩
  | mapping =>
    obtain ⟨document, hd, rfl⟩ := h
    exact ⟨document, hd, rfl⟩
  | openBlock =>
    obtain ⟨b, document, hb, hd, rfl⟩ := h
    exact ⟨_, hd.block hb, rfl⟩
  | openRow =>
    obtain ⟨r, b, document, hr, hb, hd, rfl⟩ := h
    exact ⟨_, document, hb.row hr, hd, rfl⟩
  | symbol =>
    obtain ⟨r, b, document, hr, hb, hd, rfl⟩ := h
    exact ⟨_, b, document, hr.symbol, hb, hd, rfl⟩
  | closeRow =>
    obtain ⟨b, document, hb, hd, rfl⟩ := h
    exact ⟨_, b, document, .close, hb, hd, rfl⟩
  | closeBlock =>
    obtain ⟨document, hd, rfl⟩ := h
    exact ⟨_, document, .close, hd, rfl⟩
  | finish =>
    obtain rfl : kinds = [] := h
    exact ⟨[], .empty, rfl⟩

/-- What leads to the end is what is to come. -/
theorem completes_of_along {spot : Spot} {kinds : List TokenKind}
    (h : spot.along kinds = some .ended) : spot.Completes kinds := by
  induction kinds generalizing spot with
  | nil => cases h; exact rfl
  | cons kind kinds ih =>
    obtain ⟨behind, hnext, hbehind⟩ := Option.bind_eq_some_iff.mp h
    exact .cons (step_of_next hnext) (ih hbehind)

/-- A brace that opens is counted once, and one that closes is taken from the count. -/
theorem Step.depth_eq {spot behind : Spot} {kind : TokenKind} (h : Step spot kind behind) :
    spot.depth + (if kind == .opening then 1 else 0) =
      behind.depth + (if kind == .closing then 1 else 0) := by
  cases h with
  | keyword d => cases d <;> rfl
  | _ => rfl

/-- How many braces were opened and closed on the way to a spot. -/
theorem count_along {spot behind : Spot} {kinds : List TokenKind}
    (h : spot.along kinds = some behind) :
    spot.depth + kinds.count .opening = behind.depth + kinds.count .closing := by
  induction kinds generalizing spot with
  | nil => cases h; rfl
  | cons kind kinds ih =>
    obtain ⟨between, hnext, hbehind⟩ := Option.bind_eq_some_iff.mp h
    have hstep := (step_of_next hnext).depth_eq
    have hrest := ih hbehind
    rw [List.count_cons, List.count_cons]
    omega

end Spot

/-- A beginning is viable exactly if it leads to a spot. -/
theorem viable_iff {kinds : List TokenKind} :
    Viable kinds ↔ ∃ spot, Spot.outside.along kinds = some spot := by
  constructor
  · rintro ⟨document, hdocument, rest, hrest⟩
    have halong : Spot.outside.along (kinds ++ rest) = some .ended :=
      Spot.Completes.along ⟨document, hdocument, hrest⟩
    rw [Spot.along_append] at halong
    obtain ⟨spot, hspot, -⟩ := Option.bind_eq_some_iff.mp halong
    exact ⟨spot, hspot⟩
  · rintro ⟨spot, hspot⟩
    have hfinish : spot.along spot.finish = some .ended := by cases spot <;> rfl
    have halong : Spot.outside.along (kinds ++ spot.finish) = some .ended := by
      rw [Spot.along_append, hspot]
      exact hfinish
    obtain ⟨document, hdocument, heq⟩ := Spot.completes_of_along halong
    exact ⟨document, hdocument, spot.finish, heq⟩

end LevelForge.Ldl.Grammar
