import Mathlib.Logic.Relation
import LevelForge.LevelFile
import LevelForge.Proofs.Ldl.Places
import LevelForge.Proofs.Ldl.Reading

/-!
# Respacing

The blanks of a text may be changed one at a time, as long as no run of solid characters is split
and no two are joined: next to a brace or to a blank everything is allowed. Two texts differ by
such changes exactly if they have the same lexemes, and then they are read alike.

* `respaced_iff`: two texts differ only in their blanks exactly if they have the same lexemes.
* `respaced_unifyLineEnds`: reading a file changes only the blanks of its text.
* `parse_of_respaced`: such texts have the same effect, and the same failure up to its place.
-/

namespace LevelForge

namespace Ldl

/-! ## Changing blanks -/

/-- No run goes on from the end of a text into the one behind it. -/
def Apart (before after : List Char) : Prop :=
  (∀ c ∈ before.getLast?, isSolid c = false) ∨ ∀ c ∈ after.head?, isSolid c = false

/-- One change of the blanks of a text that leaves its runs as they are. -/
inductive Edit : List Char → List Char → Prop
  -- a blank that stands in no run
  | insert {before after : List Char} {c : Char} :
      Text.isBlank c = true → Apart before after → Edit (before ++ after) (before ++ c :: after)
  -- a blank that separates no two runs
  | delete {before after : List Char} {c : Char} :
      Text.isBlank c = true → Apart before after → Edit (before ++ c :: after) (before ++ after)
  | replace (before after : List Char) {c c' : Char} :
      Text.isBlank c = true → Text.isBlank c' = true →
      Edit (before ++ c :: after) (before ++ c' :: after)

/-- Two texts differ only in their blanks. -/
def Respaced : List Char → List Char → Prop := Relation.ReflTransGen Edit

/-- A blank is not solid. -/
theorem isSolid_eq_false_of_isBlank {c : Char} (h : Text.isBlank c = true) : isSolid c = false := by
  rw [isSolid, h]
  rfl

/-- A brace is not solid. -/
theorem isSolid_eq_false_of_isBrace {c : Char} (h : isBrace c = true) : isSolid c = false := by
  rw [isSolid, h, Bool.not_true, Bool.and_false]

/-- A blank keeps what is behind it apart from what is before it. -/
theorem apart_of_isBlank {c : Char} (h : Text.isBlank c = true) (before after : List Char) :
    Apart before (c :: after) := by
  right
  rintro c' ⟨⟩
  exact isSolid_eq_false_of_isBlank h

/-- What is kept apart from the end of a text is kept apart from that of each of its ends. -/
theorem Apart.of_append (front : List Char) {before after : List Char}
    (h : Apart (front ++ before) after) : Apart before after := by
  rcases h with hbefore | hafter
  · left
    intro c hc
    refine hbefore c ?_
    rw [List.getLast?_append, hc]
    rfl
  · exact .inr hafter

/-- An edit of blanks can be undone. -/
theorem Edit.symm {a b : List Char} (h : Edit a b) : Edit b a := by
  cases h with
  | insert hblank hapart => exact .delete hblank hapart
  | delete hblank hapart => exact .insert hblank hapart
  | replace before after hblank hblank' => exact .replace before after hblank' hblank

/-- Behind a text that ends in no run the blanks may be changed as they may be on their own. -/
theorem Edit.behind {a b : List Char} (h : Edit a b) {front : List Char}
    (hfront : ∀ c ∈ front.getLast?, isSolid c = false) : Edit (front ++ a) (front ++ b) := by
  have hapart : ∀ {before after : List Char}, Apart before after →
      Apart (front ++ before) after := by
    rintro before after (hbefore | hafter)
    · left
      rw [List.getLast?_append]
      cases hlast : before.getLast? with
      | none => exact hfront
      | some c =>
        rw [hlast] at hbefore
        exact hbefore
    · exact .inr hafter
  cases h with
  | insert hblank h =>
    rw [← List.append_assoc, ← List.append_assoc]
    exact .insert hblank (hapart h)
  | delete hblank h =>
    rw [← List.append_assoc, ← List.append_assoc]
    exact .delete hblank (hapart h)
  | replace before after hblank hblank' =>
    rw [← List.append_assoc, ← List.append_assoc]
    exact .replace _ _ hblank hblank'

namespace Respaced

variable {a b : List Char}

/-- Texts differ in their blanks both ways. -/
theorem symm (h : Respaced a b) : Respaced b a := by
  induction h with
  | refl => exact .refl
  | tail _ hedit ih => exact .head hedit.symm ih

/-- Blanks are edited alike behind a text that does not end in a run. -/
theorem behind (h : Respaced a b) {front : List Char}
    (hfront : ∀ c ∈ front.getLast?, isSolid c = false) : Respaced (front ++ a) (front ++ b) :=
  Relation.ReflTransGen.lift (front ++ ·) (fun _ _ (hedit : Edit _ _) => hedit.behind hfront) _ _ h

end Respaced

/-! ## Texts with the same lexemes -/

/-- A blank may be put into a text wherever no run goes on. -/
theorem LaidOut.insert {ls : List (List Char)} {text : List Char} (h : LaidOut ls text) {c : Char}
    (hc : Text.isBlank c = true) {before after : List Char} (htext : before ++ after = text)
    (hapart : Apart before after) : LaidOut ls (before ++ c :: after) := by
  induction h generalizing before with
  | nil =>
    obtain ⟨rfl, rfl⟩ := List.append_eq_nil_iff.mp htext
    exact LaidOut.nil.blank hc
  | @blank c' ls text hblank hrest ih =>
    cases before with
    | nil =>
      obtain rfl : after = _ := htext
      exact (hrest.blank hblank).blank hc
    | cons _ before =>
      cases htext
      exact (ih rfl (Apart.of_append [_] hapart)).blank hblank
  | @brace c' ls text hbrace hrest ih =>
    cases before with
    | nil =>
      obtain rfl : after = _ := htext
      exact (hrest.brace hbrace).blank hc
    | cons _ before =>
      cases htext
      exact (ih rfl (Apart.of_append [_] hapart)).brace hbrace
  | @run run ls text hne hrun hend hrest ih =>
    have hblank := isSolid_eq_false_of_isBlank hc
    rcases List.append_eq_append_iff.mp htext with ⟨inside, rfl, rfl⟩ | ⟨behind, rfl, rfl⟩
    · -- the blank comes before the end of the run, and does not split it
      rcases hapart with hbefore | hafter
      · cases hlast : before.getLast? with
        | none =>
          obtain rfl := List.getLast?_eq_none_iff.mp hlast
          exact (hrest.run hne hrun hend).blank hc
        | some last =>
          have hsolid := hrun last (List.mem_append_left _ (List.mem_of_getLast? hlast))
          rw [hbefore last hlast] at hsolid
          cases hsolid
      · cases inside with
        | nil =>
          rw [List.append_nil] at hne hrun ⊢
          refine .run hne hrun ?_ (hrest.blank hc)
          rintro _ ⟨⟩
          exact hblank
        | cons first inside =>
          have hsolid := hrun first (List.mem_append_right _ List.mem_cons_self)
          rw [hafter first rfl] at hsolid
          cases hsolid
    · -- the blank comes behind the run
      rw [List.append_assoc]
      refine .run hne hrun ?_ (ih rfl (hapart.of_append _))
      cases behind with
      | nil => rintro _ ⟨⟩; exact hblank
      | cons => exact hend

/-- Changing the blanks of a text leaves its lexemes as they are. -/
theorem Edit.laidOut {a b : List Char} (h : Edit a b) {ls : List (List Char)}
    (ha : LaidOut ls a) : LaidOut ls b := by
  -- a text with a blank less lays out some lexemes, and with the blank it lays out these
  have hdelete : ∀ {before after : List Char} {c : Char}, Text.isBlank c = true →
      Apart before after → LaidOut ls (before ++ c :: after) → LaidOut ls (before ++ after) := by
    intro before after c hblank hapart hlaid
    have hown := laidOut_lexemes {} (before ++ after)
    rwa [← hlaid.map_chars_lexemes {}, (hown.insert hblank rfl hapart).map_chars_lexemes {}]
  cases h with
  | insert hblank hapart => exact ha.insert hblank rfl hapart
  | delete hblank hapart => exact hdelete hblank hapart ha
  | @replace before after c c' hblank hblank' =>
    -- the new blank comes before the old one, which then goes
    have hboth := ha.insert hblank' rfl (apart_of_isBlank hblank before after)
    rw [List.append_cons] at hboth ⊢
    refine hdelete hblank (.inl fun x hx => ?_) hboth
    rw [List.getLast?_concat] at hx
    cases hx
    exact isSolid_eq_false_of_isBlank hblank'

/-- Texts that differ only in their blanks are laid out as the same lexemes. -/
theorem Respaced.laidOut {a b : List Char} (h : Respaced a b) {ls : List (List Char)}
    (ha : LaidOut ls a) : LaidOut ls b := by
  induction h with
  | refl => exact ha
  | tail _ hedit ih => exact hedit.laidOut ih

/-- Lexemes with one space behind each. -/
def spaced (ls : List (List Char)) : List Char := ls.flatMap (· ++ [' '])

/-- Every text that lays out some lexemes differs only in its blanks from the one with one space
behind each of them. -/
theorem LaidOut.respaced_spaced {ls : List (List Char)} {text : List Char} (h : LaidOut ls text) :
    Respaced text (spaced ls) := by
  have hspace : Text.isBlank ' ' = true := by decide
  -- behind a lexeme and its space the rest is changed on its own
  have hcons : ∀ (lexeme : List Char) {ls : List (List Char)} {text : List Char},
      Apart lexeme text → Respaced text (spaced ls) →
      Respaced (lexeme ++ text) (spaced (lexeme :: ls)) := by
    intro lexeme ls text hapart hrest
    have hend : ∀ c ∈ (lexeme ++ [' ']).getLast?, isSolid c = false := by
      intro c hc
      rw [List.getLast?_concat] at hc
      cases hc
      decide
    have hrest := hrest.behind hend
    rw [List.append_assoc, List.singleton_append] at hrest
    exact .head (.insert hspace hapart) hrest
  induction h with
  | nil => exact .refl
  | @blank c ls text hblank _ ih =>
    have hapart : Apart [] text := by
      left
      rintro c' ⟨⟩
    exact .head (Edit.delete hblank hapart) ih
  | @brace c ls text hbrace _ ih =>
    refine hcons [c] (.inl ?_) ih
    rintro c' ⟨⟩
    exact isSolid_eq_false_of_isBrace hbrace
  | run _ _ hend _ ih => exact hcons _ (.inr hend) ih

/-- Two texts differ only in their blanks exactly if they have the same lexemes. -/
theorem respaced_iff {a b : List Char} :
    Respaced a b ↔ (lexemes {} a).map Lexeme.chars = (lexemes {} b).map Lexeme.chars := by
  constructor
  · intro h
    exact ((h.laidOut (laidOut_lexemes {} a)).map_chars_lexemes {}).symm
  · intro h
    have hb := (laidOut_lexemes {} b).respaced_spaced
    rw [← h] at hb
    exact (laidOut_lexemes {} a).respaced_spaced.trans hb.symm

/-- Reading a file changes only the blanks of its text. -/
theorem respaced_unifyLineEnds (text : List Char) :
    Respaced text (LevelFile.unifyLineEnds text) := by
  have hreturn : Text.isBlank '\r' = true := by decide
  have hfeed : Text.isBlank '\n' = true := by decide
  -- what is before the rest of the text stays as it is
  suffices hbehind : ∀ front : List Char,
      Respaced (front ++ text) (front ++ LevelFile.unifyLineEnds text) from hbehind []
  intro front
  fun_induction LevelFile.unifyLineEnds text generalizing front with
  | case1 => exact .refl
  | case2 rest ih =>
    have hrest := ih (front ++ ['\n'])
    rw [List.append_assoc, List.append_assoc] at hrest
    exact .head (.delete hreturn (apart_of_isBlank hfeed front rest)) hrest
  | case3 rest _ ih =>
    have hrest := ih (front ++ ['\n'])
    rw [List.append_assoc, List.append_assoc] at hrest
    exact .head (.replace front rest hreturn hfeed) hrest
  | case4 c rest _ _ ih =>
    have hrest := ih (front ++ [c])
    rwa [List.append_assoc, List.append_assoc] at hrest

/-! ## Reading texts that differ only in their blanks -/

/-- Without places the tokens of a text do not depend on its blanks. -/
theorem Respaced.unplaced_ofText {a b : String} (h : Respaced a.toList b.toList) :
    (TokenStream.ofText a).unplaced = (TokenStream.ofText b).unplaced := by
  have hlaid := laidOut_lexemes {} a.toList
  rw [unplaced_ofText_eq hlaid, unplaced_ofText_eq (h.laidOut hlaid)]

/-- Texts that differ only in their blanks have the same effect on every blueprint, and the same
failure up to its place. -/
theorem Respaced.fill {a b : String} (h : Respaced a.toList b.toList) (m : Blueprint) :
    (Ldl.fill m (.ofText a)).1 = (Ldl.fill m (.ofText b)).1 ∧
      (Ldl.fill m (.ofText a)).2.map Failure.unplaced =
        (Ldl.fill m (.ofText b)).2.map Failure.unplaced := by
  have heffect := fill_unplaced m (.ofText a)
  rw [h.unplaced_ofText, fill_unplaced, Prod.mk.injEq] at heffect
  exact ⟨heffect.1.symm, heffect.2.symm⟩

/-- Texts that differ only in their blanks compile alike, up to the places of a failure. -/
theorem Respaced.compile {a b : String} (h : Respaced a.toList b.toList) (name : Option String) :
    (Ldl.compile a name).mapError Failure.unplaced =
      (Ldl.compile b name).mapError Failure.unplaced := by
  have heffect := h.fill { name }
  rcases hfill : Ldl.fill { name } (.ofText a) with ⟨m, failure⟩
  rcases hfill' : Ldl.fill { name } (.ofText b) with ⟨m', failure'⟩
  rw [hfill, hfill'] at heffect
  obtain ⟨rfl, hfailure⟩ := heffect
  rw [compile_eq_fill, compile_eq_fill, hfill, hfill']
  cases failure with
  | none =>
    obtain rfl : failure' = none := Option.map_eq_none_iff.mp hfailure.symm
    rfl
  | some failure =>
    obtain ⟨failure', rfl, heq⟩ := Option.map_eq_some_iff.mp hfailure.symm
    exact congrArg Except.error heq.symm

end Ldl

/-! ## Files -/

namespace LevelFile

/-- A failure without the places that it names. -/
def Failure.unplaced : Failure → Failure
  | .encoding fault => .encoding fault
  | .text failure => .text failure.unplaced

/-- A file is read as its text with unified line ends. -/
theorem compile_toUTF8 (text : String) (name : Option String) :
    compile text.toUTF8 name =
      (Ldl.compile (String.ofList (unifyLineEnds text.toList)) name).mapError .text := by
  have hdecode : String.fromUTF8? text.toUTF8 = some text := dif_pos text.isValidUTF8
  rw [compile, decode, hdecode]
  rfl

end LevelFile

namespace Ldl

/-- Layout does not matter: texts that differ only in their blanks leave every blueprint the same
and fail for the same reason or not at all, where only the line and the column that a failure names
may differ. Hence they compile alike, and so does a file with the one text, although reading it
unifies the line ends; that the two texts are the same one is a case of this. -/
theorem parse_of_respaced {a b : String} (h : Respaced a.toList b.toList) :
    (∀ m : Blueprint, ∃ m' failure failure',
      (Parser.ofText a).parse (some m) = ⟨.ofText a, some m', failure⟩ ∧
      (Parser.ofText b).parse (some m) = ⟨.ofText b, some m', failure'⟩ ∧
      failure.map Failure.unplaced = failure'.map Failure.unplaced) ∧
    ∀ name : Option String,
      (compile a name).mapError Failure.unplaced = (compile b name).mapError Failure.unplaced ∧
      (LevelFile.compile a.toUTF8 name).mapError LevelFile.Failure.unplaced =
        ((compile b name).mapError .text).mapError LevelFile.Failure.unplaced := by
  refine ⟨fun m => ?_, fun name => ⟨h.compile name, ?_⟩⟩
  · obtain ⟨hm, hfailure⟩ := h.fill m
    refine ⟨(fill m (.ofText a)).1, _, _, Parser.parse_ofText a m, ?_, hfailure⟩
    rw [hm]
    exact Parser.parse_ofText b m
  · have hfile : Respaced (String.ofList (LevelFile.unifyLineEnds a.toList)).toList b.toList := by
      rw [String.toList_ofList]
      exact (respaced_unifyLineEnds a.toList).symm.trans h
    have htext : ∀ compiled : Except Failure Blueprint,
        (compiled.mapError .text).mapError LevelFile.Failure.unplaced =
          (compiled.mapError Failure.unplaced).mapError .text := by
      rintro (_ | _) <;> rfl
    rw [LevelFile.compile_toUTF8, htext, htext, hfile.compile name]

/-- A small text without blanks where none are needed. -/
def tightClearing : String := "#ALIAS::a->Slurp \x7b\x7ba 0\x7d\x7d"

/-- The same text with other blanks, of which some are line ends that a file does not keep. -/
def looseClearing : String :=
  "\t#ALIAS::a->Slurp\r\n\r\n\x7b\n \x7b a\u30000\x7d \r\x7d"

theorem parse_of_respaced_clearing :
    Respaced looseClearing.toList tightClearing.toList ∧ ∀ name : Option String,
      (LevelFile.compile looseClearing.toUTF8 name).mapError LevelFile.Failure.unplaced =
        ((compile tightClearing name).mapError .text).mapError LevelFile.Failure.unplaced := by
  have hrespaced : Respaced looseClearing.toList tightClearing.toList :=
    respaced_iff.mpr (by decide +kernel)
  exact ⟨hrespaced, fun name => ((parse_of_respaced hrespaced).2 name).2⟩

end Ldl

end LevelForge
